import Mathlib.Logic.Relation
import ViewDoc.Component.Registry
/-!
Which entry of a registry decides on a node. The groups are asked in their order, and within a group
the descriptor before the adapters. The main statement is that the first definite entry decides,
whatever is added behind it, and that a node that no entry is definite about gets the fallback.
-/

set_option autoImplicit false

namespace ViewDoc

/-- The place of a group in the order in which the groups are asked. -/
def RegistryGroup.rank : RegistryGroup -> Nat
  | .custom => 0
  | .library => 1
  | .native => 2

namespace ComponentRegistry

open Relation (ReflTransGen)

/-- What a descriptor that is registered in a group makes of the nodes of its type. -/
def ofDescriptor (g : RegistryGroup) (d : ComponentDescriptor) : Resolution where
  element := d.element
  imports := d.imports
  omitProps := d.omitProps
  adapterId := some ("registry-" ++ g.word)

/-- What a node gets that nothing is definite about: the generic element, with one warning. -/
def fallback (n : CanonicalFields) : Resolution where
  element := "div"
  fallback := true
  diagnostics := [{
    code := "ADAPTER_COMPONENT_UNRESOLVED"
    severity := .warning
    reporter := .adapter
    message := "No adapter resolved component type \"" ++ n.type ++ "\"."
    path := some n.path
    suggestion := some "Register a component descriptor or adapter for this type." }]

variable {r r' : ComponentRegistry} {icons : IconRegistry} {n : CanonicalFields}
  {g : RegistryGroup} {found : Resolution}

section

variable (r : ComponentRegistry) (icons : IconRegistry) (n : CanonicalFields) (g : RegistryGroup)

/-- No entry of a group is definite about a node. -/
structure Silent : Prop where
  descriptor : Entries.get? (r.entries g).descriptors n.type = none
  adapters : ∀ a ∈ (r.entries g).adapters, a.resolve icons n = none

/-- The first definite entry of a group is the descriptor of the node's type, or an adapter after
others that are not definite. -/
inductive FirstIn : Resolution -> Prop where
  | descriptor {d : ComponentDescriptor}
      (own : Entries.get? (r.entries g).descriptors n.type = some d) : FirstIn (ofDescriptor g d)
  | adapter {before after : List Adapter} {a : Adapter} {found : Resolution}
      (free : Entries.get? (r.entries g).descriptors n.type = none)
      (place : (r.entries g).adapters = before ++ a :: after)
      (silent : ∀ b ∈ before, b.resolve icons n = none) (own : a.resolve icons n = some found) :
      FirstIn found

/-- The first definite entry of a registry stands in a group. -/
structure Decides (found : Resolution) : Prop where
  earlier : ∀ h : RegistryGroup, h.rank < g.rank -> r.Silent icons n h
  first : r.FirstIn icons n g found

end

/-- An entry is added behind those that a group may decide by: an adapter in this group or a later
one, or a descriptor in a later one. -/
inductive ExtendsBehind (g : RegistryGroup) (r : ComponentRegistry) : ComponentRegistry -> Prop where
  | adapter (a : Adapter) {h : RegistryGroup} (behind : g.rank ≤ h.rank) :
      ExtendsBehind g r (r.addAdapter a h)
  | descriptor (d : ComponentDescriptor) {h : RegistryGroup} (behind : g.rank < h.rank) :
      ExtendsBehind g r (r.register d h)

theorem resolveIn?_eq_none_iff : r.resolveIn? icons n g = none ↔ r.Silent icons n g := by
  rw [resolveIn?]
  constructor
  · intro nothing
    split at nothing
    · cases nothing
    · exact ⟨‹_›, List.findSome?_eq_none_iff.mp nothing⟩
  · intro silent
    rw [silent.descriptor]
    exact List.findSome?_eq_none_iff.mpr silent.adapters

theorem resolveIn?_eq_some_iff :
    r.resolveIn? icons n g = some found ↔ r.FirstIn icons n g found := by
  rw [resolveIn?]
  constructor
  · intro resolved
    split at resolved
    · cases resolved
      exact .descriptor ‹_›
    · obtain ⟨before, a, after, place, own, silent⟩ := List.findSome?_eq_some_iff.mp resolved
      exact .adapter ‹_› place silent own
  · rintro (own | ⟨free, place, silent, own⟩)
    · rw [own]
      rfl
    · rw [free]
      exact List.findSome?_eq_some_iff.mpr ⟨_, _, _, place, own, silent⟩

theorem not_silent_of_firstIn (first : r.FirstIn icons n g found) : ¬ r.Silent icons n g := by
  rw [← resolveIn?_eq_none_iff, resolveIn?_eq_some_iff.mpr first]
  exact Option.some_ne_none found

theorem silent_or_firstIn (r : ComponentRegistry) (icons : IconRegistry) (n : CanonicalFields)
    (g : RegistryGroup) : r.Silent icons n g ∨ ∃ found, r.FirstIn icons n g found := by
  cases resolved : r.resolveIn? icons n g with
  | none => exact .inl (resolveIn?_eq_none_iff.mp resolved)
  | some found => exact .inr ⟨found, resolveIn?_eq_some_iff.mp resolved⟩

/-- Some entry decides, or all groups are silent. -/
theorem exists_decides_or_silent (r : ComponentRegistry) (icons : IconRegistry)
    (n : CanonicalFields) :
    (∃ g found, r.Decides icons n g found) ∨ ∀ g, r.Silent icons n g := by
  obtain custom | ⟨found, first⟩ := silent_or_firstIn r icons n .custom
  · obtain library | ⟨found, first⟩ := silent_or_firstIn r icons n .library
    · obtain native | ⟨found, first⟩ := silent_or_firstIn r icons n .native
      · exact .inr fun g => by cases g <;> assumption
      · refine .inl ⟨.native, found, fun h earlier => ?_, first⟩
        cases h with
        | custom => exact custom
        | library => exact library
        | native => exact absurd earlier (Nat.lt_irrefl _)
    · refine .inl ⟨.library, found, fun h earlier => ?_, first⟩
      cases h with
      | custom => exact custom
      | library | native => exact absurd earlier (by decide)
  · exact .inl ⟨.custom, found, fun h earlier => absurd earlier (Nat.not_lt_zero _), first⟩

theorem resolve_of_silent (silent : ∀ g, r.Silent icons n g) :
    r.resolve icons n = fallback n := by
  have nothing : RegistryGroup.order.findSome? (r.resolveIn? icons n) = none :=
    List.findSome?_eq_none_iff.mpr fun g _ => resolveIn?_eq_none_iff.mpr (silent g)
  rw [resolve, nothing]
  rfl

/-- The groups are asked in the order of their ranks. -/
theorem exists_order_eq (g : RegistryGroup) :
    ∃ before after, RegistryGroup.order = before ++ g :: after ∧ ∀ h ∈ before, h.rank < g.rank := by
  cases g with
  | custom => exact ⟨[], [.library, .native], rfl, by decide⟩
  | library => exact ⟨[.custom], [.native], rfl, by decide⟩
  | native => exact ⟨[.custom, .library], [], rfl, by decide⟩

theorem Decides.resolve (decides : r.Decides icons n g found) : r.resolve icons n = found := by
  obtain ⟨before, after, order, earlier⟩ := exists_order_eq g
  have taken : RegistryGroup.order.findSome? (r.resolveIn? icons n) = some found :=
    List.findSome?_eq_some_iff.mpr ⟨before, g, after, order,
      resolveIn?_eq_some_iff.mpr decides.first,
      fun h mem => resolveIn?_eq_none_iff.mpr (decides.earlier h (earlier h mem))⟩
  rw [ComponentRegistry.resolve, taken]
  rfl

theorem entries_addAdapter (r : ComponentRegistry) (a : Adapter) (h g : RegistryGroup) :
    (r.addAdapter a h).entries g =
      if g = h then { r.entries h with adapters := (r.entries h).adapters ++ [a] }
      else r.entries g := by
  cases h <;> cases g <;> rfl

theorem entries_register (r : ComponentRegistry) (d : ComponentDescriptor) (h g : RegistryGroup) :
    (r.register d h).entries g =
      if g = h then
        { r.entries h with descriptors := Entries.set (r.entries h).descriptors d.type d }
      else r.entries g := by
  cases h <;> cases g <;> rfl

theorem Silent.congr (same : r'.entries g = r.entries g) (silent : r.Silent icons n g) :
    r'.Silent icons n g := by
  obtain ⟨descriptor, adapters⟩ := silent
  exact ⟨same ▸ descriptor, same ▸ adapters⟩

theorem FirstIn.congr (same : r'.entries g = r.entries g) (first : r.FirstIn icons n g found) :
    r'.FirstIn icons n g found := by
  cases first with
  | descriptor own => exact .descriptor (same ▸ own)
  | adapter free place silent own => exact .adapter (same ▸ free) (same ▸ place) silent own

/-- An adapter at the end of a group is asked after its first definite entry. -/
theorem FirstIn.addAdapter (first : r.FirstIn icons n g found) (a : Adapter) :
    (r.addAdapter a g).FirstIn icons n g found := by
  have entries := entries_addAdapter r a g g
  rw [if_pos rfl] at entries
  cases first with
  | descriptor own => exact .descriptor (by rw [entries]; exact own)
  | @adapter before after b found free place silent own =>
    have longer : ((r.addAdapter a g).entries g).adapters = before ++ b :: (after ++ [a]) := by
      rw [entries, place, List.append_assoc, List.cons_append]
    exact .adapter (by rw [entries]; exact free) longer silent own

/-- What is added behind a group leaves the groups before it as they are, and its first definite
entry the first. -/
theorem Decides.extends (decides : r.Decides icons n g found) (more : ExtendsBehind g r r') :
    r'.Decides icons n g found := by
  cases more with
  | @adapter a h behind =>
    refine ⟨fun k earlier => (decides.earlier k earlier).congr ?_, ?_⟩
    · rw [entries_addAdapter, if_neg]
      rintro rfl
      exact absurd earlier (Nat.not_lt.mpr behind)
    · by_cases own : g = h
      · subst own
        exact decides.first.addAdapter a
      · exact decides.first.congr (by rw [entries_addAdapter, if_neg own])
  | @descriptor d h behind =>
    have before {k : RegistryGroup} (le : k.rank ≤ g.rank) :
        (r.register d h).entries k = r.entries k := by
      rw [entries_register, if_neg]
      rintro rfl
      exact absurd behind (Nat.not_lt.mpr le)
    exact ⟨fun k earlier => (decides.earlier k earlier).congr (before (Nat.le_of_lt earlier)),
      decides.first.congr (before (Nat.le_refl _))⟩

/-- The entry that decides goes on to do so. -/
theorem Decides.extendsAll (decides : r.Decides icons n g found)
    (more : ReflTransGen (ExtendsBehind g) r r') : r'.Decides icons n g found := by
  induction more with
  | refl => exact decides
  | tail _ last ih => exact ih.extends last

/-- A button of a brand's own. -/
def brandButton : ComponentDescriptor where
  type := "AntdButton"
  element := "BrandButton"

/-- The standard registry with the brand's button among the entries of libraries. -/
def branded : ComponentRegistry :=
  standard.register brandButton .library

end ComponentRegistry

end ViewDoc
