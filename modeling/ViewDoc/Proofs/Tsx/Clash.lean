import Mathlib.Data.List.Nodup
import ViewDoc.Document.Load
import ViewDoc.Proofs.Tsx.Closed
import ViewDoc.Proofs.Tsx.Name
import ViewDoc.Validation
/-!
The names that the body of a component binds. The parameters have different names in the document,
and so have the state variables, but different names may become one identifier. The names that are
bound differ exactly where this keeps them apart.
-/

set_option autoImplicit false

namespace ViewDoc.Tsx

open Relation (ReflTransGen)

/-- The names of parameters and of state variables stay apart in code. -/
structure KeptApart (params state : List String) : Prop where
  params_inj : ∀ p ∈ params, ∀ q ∈ params, identifier p = identifier q -> p = q
  state_inj : ∀ s ∈ state, ∀ t ∈ state,
    capitalized (identifier s) = capitalized (identifier t) -> s = t
  shared : ∀ p ∈ params, ∀ s ∈ state, identifier p ≠ identifier s
  setters : ∀ x ∈ params ++ state, ∀ s ∈ state, identifier x ≠ setter (identifier s)

theorem nodup_names_iff (params state : List String) :
    (params.map identifier ++ state.map identifier ++
      state.map fun s => setter (identifier s)).Nodup ↔
      params.Nodup ∧ state.Nodup ∧ KeptApart params state := by
  constructor
  · intro distinct
    obtain ⟨before, setters, noSetter⟩ := List.nodup_append.mp distinct
    obtain ⟨ps, ss, shared⟩ := List.nodup_append.mp before
    refine ⟨ps.of_map, ss.of_map, ?_, ?_, ?_, ?_⟩
    · exact (List.nodup_map_iff_inj_on ps.of_map).mp ps
    · intro s hs t ht same
      exact (List.nodup_map_iff_inj_on setters.of_map).mp setters s hs t ht
        ((setter_eq_iff _ _).mpr same)
    · exact fun p hp s hs =>
        shared _ (List.mem_map_of_mem hp) _ (List.mem_map_of_mem hs)
    · intro x mem s hs
      refine noSetter _ ?_ _ (List.mem_map.mpr ⟨s, hs, rfl⟩)
      rw [← List.map_append]
      exact List.mem_map_of_mem mem
  · rintro ⟨ps, ss, apart⟩
    have setters (s : String) (hs : s ∈ state) (t : String) (ht : t ∈ state)
        (same : setter (identifier s) = setter (identifier t)) : s = t :=
      apart.state_inj s hs t ht ((setter_eq_iff _ _).mp same)
    refine List.nodup_append.mpr ⟨List.nodup_append.mpr ⟨?_, ?_, ?_⟩, ?_, ?_⟩
    · exact (List.nodup_map_iff_inj_on ps).mpr apart.params_inj
    · refine (List.nodup_map_iff_inj_on ss).mpr fun s hs t ht same => setters s hs t ht ?_
      rw [same]
    · intro x mem y mem'
      obtain ⟨p, hp, rfl⟩ := List.mem_map.mp mem
      obtain ⟨s, hs, rfl⟩ := List.mem_map.mp mem'
      exact apart.shared p hp s hs
    · exact (List.nodup_map_iff_inj_on ss).mpr setters
    · intro x mem y mem'
      rw [← List.map_append] at mem
      obtain ⟨x, hx, rfl⟩ := List.mem_map.mp mem
      obtain ⟨s, hs, rfl⟩ := List.mem_map.mp mem'
      exact apart.setters x hx s hs

/-- Names that are written as names in code stay apart if no two state variables differ in the case
of the first character alone, none is named like a parameter, and none of all is named like a
setter. -/
theorem keptApart_of_isName {params state : List String}
    (names : ∀ x ∈ params ++ state, IsName x)
    (first : ∀ s ∈ state, ∀ t ∈ state, capitalized s = capitalized t -> s = t)
    (shared : ∀ p ∈ params, p ∉ state)
    (setters : ∀ x ∈ params ++ state, ¬ "set".toList <+: x.toList) : KeptApart params state := by
  have kept (x : String) (mem : x ∈ params ++ state) : identifier x = x :=
    identifier_eq_self (names x mem)
  have param (p : String) (mem : p ∈ params) := kept p (List.mem_append_left _ mem)
  have held (s : String) (mem : s ∈ state) := kept s (List.mem_append_right _ mem)
  refine ⟨fun p hp q hq same => ?_, fun s hs t ht same => ?_, fun p hp s hs same => ?_,
    fun x hx s hs same => ?_⟩
  · rwa [param p hp, param q hq] at same
  · rw [held s hs, held t ht] at same
    exact first s hs t ht same
  · rw [param p hp, held s hs] at same
    exact shared p hp (same ▸ hs)
  · refine setters x hx ?_
    rw [← kept x hx, same]
    exact setter_prefix _

namespace Module

variable {source : Normalized} {options : Options} {m : Module}

/-- The names that the body of a component binds. -/
def bound (m : Module) : List String :=
  m.parameters.map (·.name) ++ m.state.map (·.name) ++ m.state.map fun s => setter s.name

theorem Made.bound_eq {names : Declared} {notes : List Note}
    (made : Made source options names notes m) :
    m.bound = (Entries.keys names.props ++ Note.undeclaredParams notes).map identifier ++
      (Entries.keys names.state).map identifier ++
        (Entries.keys names.state).map fun s => setter (identifier s) := by
  have setters : (m.state.map (·.name)).map setter =
      (Entries.keys names.state).map fun s => setter (identifier s) := by
    rw [made.names_state, List.map_map]
    rfl
  rw [List.map_map] at setters
  rw [bound, made.names_parameters, made.names_state]
  exact congrArg (_ ++ ·) setters

/-- In a document no parameter that is read without a declaration has the name of another or of a
declared one, so that only what becomes of the names in code decides. -/
theorem Made.nodup_params_iff {names : Declared} {notes : List Note}
    (made : Made source options names notes m) :
    (Entries.keys names.props ++ Note.undeclaredParams notes).Nodup ↔
      (Entries.keys names.props).Nodup := by
  refine ⟨fun distinct => (List.nodup_append.mp distinct).1, fun distinct => ?_⟩
  refine List.nodup_append.mpr ⟨distinct, Note.undeclaredParams_nodup notes, ?_⟩
  rintro p declared q undeclared rfl
  exact ((made.mem_undeclaredParams_iff p).mp undeclared).1 declared

theorem generate_bound_nodup_iff (done : generate source options = .ok m) :
    ∃ names undeclared, Declared.ofDocument source.document = .ok names ∧
      (∀ p, p ∈ undeclared ↔ p ∉ Entries.keys names.props ∧
        ∃ t, ReflTransGen
          (Blueprint.Holds ⟨source.document, names, options.registry, options.icons⟩)
          source.document.root t ∧
          p ∈ Blueprint.reads ⟨source.document, names, options.registry, options.icons⟩ t) ∧
      (m.bound.Nodup ↔ (Entries.keys names.props).Nodup ∧ (Entries.keys names.state).Nodup ∧
        KeptApart (Entries.keys names.props ++ undeclared) (Entries.keys names.state)) := by
  obtain ⟨names, notes, made⟩ := exists_made done
  refine ⟨names, Note.undeclaredParams notes, made.declared, made.mem_undeclaredParams_iff, ?_⟩
  rw [made.bound_eq, nodup_names_iff, made.nodup_params_iff]

theorem listing_bound_nodup :
    ∃ m, generate listing {} = .ok m ∧ m.bound = ["rows", "user_name", "count", "setCount"] ∧
      ∃ names undeclared, Declared.ofDocument listing.document = .ok names ∧
        (∀ p, p ∈ undeclared ↔ p ∉ Entries.keys names.props ∧
          ∃ t, ReflTransGen (Blueprint.Holds ⟨listing.document, names, .standard, .standard⟩)
            listing.document.root t ∧
            p ∈ Blueprint.reads ⟨listing.document, names, .standard, .standard⟩ t) ∧
        KeptApart (Entries.keys names.props ++ undeclared) (Entries.keys names.state) := by
  have shown : (generate listing {}).toOption.map bound =
      some ["rows", "user_name", "count", "setCount"] := by decide +kernel
  cases done : generate listing {} with
  | error fault =>
    rw [done] at shown
    cases shown
  | ok m =>
    rw [done] at shown
    have bound : m.bound = ["rows", "user_name", "count", "setCount"] := Option.some.inj shown
    obtain ⟨names, undeclared, declared, reads, distinct⟩ := generate_bound_nodup_iff done
    have apart := (distinct.mp (bound ▸ by decide)).2.2
    exact ⟨m, rfl, bound, names, undeclared, declared, reads, apart⟩

/-- A document with two props whose names become one identifier. -/
def twinProps : Value :=
  .object [("version", .str "1.2"),
    ("logic", .object [("props", .object [("user-name", .object [("type", .str "string")]),
      ("user_name", .object [("type", .str "string")])])]),
    ("ui", .object [("root", .object [("id", .str "root"), ("type", .str "p"),
      ("text", .object [("$param", .str "user_name")])])])]

theorem twinProps_clash :
    (∃ r, Validation.ofValue twinProps = .ok r ∧ r.issues = [] ∧ r.diagnostics = []) ∧
      ∃ source m, normalize twinProps = .ok source ∧ generate source {} = .ok m ∧
        m.bound = ["user_name", "user_name"] ∧ ¬ m.bound.Nodup := by
  refine ⟨⟨_, rfl, rfl, rfl⟩, _, _, rfl, rfl, rfl, by decide⟩

end Module

end ViewDoc.Tsx
