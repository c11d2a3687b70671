import ViewDoc.Proofs.Scope.Member
import ViewDoc.Proofs.Validation.Agreement
/-!
What an upgrade does to a document. The main statement is that a document is left as it is if its
version writes numbers that are at least those of the latest one, and that nothing but the version and
the legacy bindings of nodes is changed in any other one. Nothing is left to upgrade after that.
-/

set_option autoImplicit false

namespace ViewDoc

namespace Version

/-- A part of a version consists of digits that write a number. -/
def PartWrites (part : String) (n : Nat) : Prop :=
  Text.isDigits part = true ∧ Text.numeral? part.toList = some n

/-- A version writes numbers, one in each of its parts between points. -/
def Writes (version : String) (ns : List Nat) : Prop :=
  List.Forall₂ PartWrites (Text.split '.' (Text.trim version)) ns

/-- A version writes numbers that do not come before the given ones in lexicographic order. -/
def Reaches (version : String) (least : List Nat) : Prop :=
  ∃ ns, Writes version ns ∧ ¬ List.Lex (· < ·) ns least

theorem numbers_of_forall₂ {parts : List String} {ns : List Nat}
    (written : List.Forall₂ PartWrites parts ns) : numbers parts = .ok (some ns) := by
  induction written with
  | nil => rfl
  | cons own _ ih =>
    rw [numbers, if_pos own.1, own.2, ih]
    rfl

theorem forall₂_of_numbers {parts : List String} {ns : List Nat}
    (read : numbers parts = .ok (some ns)) : List.Forall₂ PartWrites parts ns := by
  induction parts generalizing ns with
  | nil =>
    cases read
    exact .nil
  | cons part rest ih =>
    rw [numbers] at read
    split at read
    · rename_i digits
      split at read
      · cases read
      · rename_i n written
        obtain ⟨found, others, read⟩ := Fault.exists_of_bind_ok read
        obtain ⟨more, rfl, rfl⟩ := Option.map_eq_some_iff.mp (Except.ok.inj read)
        exact .cons ⟨digits, written⟩ (ih others)
    · cases read

theorem atLeast_iff (ns least : List Nat) :
    atLeast ns least = true ↔ ¬ List.Lex (· < ·) ns least := by
  induction ns generalizing least with
  | nil => cases least <;> simp [atLeast]
  | cons n ns ih =>
    cases least with
    | nil => simp [atLeast]
    | cons m least =>
      rw [atLeast, List.cons_lex_cons_iff, Bool.or_eq_true, Bool.and_eq_true, decide_eq_true_iff,
        beq_iff_eq, ih, not_or, not_and]
      by_cases same : n = m
      · simp [same]
      · have apart : m < n ↔ ¬ n < m := by omega
        simp [same, apart]

theorem isCurrent_iff {version : String} {current : Bool} (done : isCurrent version = .ok current) :
    current = true ↔ Reaches version [1, 2] := by
  rw [isCurrent] at done
  obtain ⟨found, read, done⟩ := Fault.exists_of_bind_ok done
  rw [parse] at read
  have unique {ns : List Nat} (written : Writes version ns) : found = some ns :=
    Except.ok.inj (read.symm.trans (numbers_of_forall₂ written))
  cases found with
  | none =>
    obtain rfl : false = current := Except.ok.inj done
    exact iff_of_false Bool.false_ne_true fun ⟨ns, written, _⟩ => nomatch unique written
  | some ns =>
    obtain rfl : atLeast ns [1, 2] = current := Except.ok.inj done
    rw [atLeast_iff]
    refine ⟨fun least => ⟨ns, forall₂_of_numbers read, least⟩, fun ⟨ms, written, least⟩ => ?_⟩
    obtain rfl : ns = ms := Option.some.inj (unique written)
    exact least

end Version

theorem Value.keyed?_ofKeyed (es : List (Key × Value)) : (ofKeyed es).keyed? = some es := by
  rw [ofKeyed]
  cases plain : Keyed.texts? es with
  | none => rfl
  | some texts =>
    rw [Keyed.eq_ofEntries_of_texts? plain]
    rfl

/-- A legacy binding has a target and no action. -/
def Value.IsLegacy (v : Value) : Prop :=
  (v.member? "target").isSome = true ∧ v.member? "action" = none

/-- A binding is upgraded: a legacy one has lost its target and has it as its action, with all other
entries in their order before it, and any other one is the same. -/
inductive Value.Upgraded : Value -> Value -> Prop
  | legacy {v w target : Value} {es : List (Key × Value)} (entries : v.keyed? = some es)
      (old : v.IsLegacy) (found : v.member? "target" = some target)
      (renamed : w.keyed? =
        some (es.filter (fun e => e.1 ≠ .text "target") ++ [(.text "action", target)])) :
      Upgraded v w
  | current {v : Value} (current : ¬ v.IsLegacy) : Upgraded v v

/-- A node is upgraded: its bindings are, under their keys and in their order, and nothing else is
changed. -/
structure NodeFields.Upgraded (n m : NodeFields) : Prop where
  others : m = { n with events := m.events }
  events : List.Forall₂ (fun e f => f.1 = e.1 ∧ Value.Upgraded e.2 f.2) n.events m.events

/-- A document is upgraded: it has the latest version, its nodes are upgraded where they stand, and
nothing else is changed. -/
structure Document.Upgraded (d u : Document) : Prop where
  version : u.version = "1.2"
  nodes : List.Forall₂ (fun p q => q.1 = p.1 ∧ p.2.Upgraded q.2) d.root.positions u.root.positions
  others : u = { d with version := u.version, root := u.root }

namespace Document

theorem upgraded_upgradeEvent (v : Value) : v.Upgraded (upgradeEvent v) := by
  have member {es : List (Key × Value)} (entries : v.keyed? = some es) (name : String) :
      v.member? name = Keyed.get? es (.text name) := by
    rw [Value.member?, entries, Option.bind_some]
  rw [upgradeEvent]
  cases entries : v.keyed? with
  | none =>
    refine .current fun old => ?_
    have found := old.1
    rw [Value.member?, entries] at found
    cases found
  | some es =>
    dsimp only
    split
    · rename_i target found missing
      rw [← member entries] at found missing
      refine .legacy entries ⟨?_, missing⟩ found (Value.keyed?_ofKeyed _)
      rw [found]
      rfl
    · rename_i other
      refine .current fun old => ?_
      obtain ⟨target, found⟩ := Option.isSome_iff_exists.mp old.1
      rw [member entries] at found
      exact other target found (member entries "action" ▸ old.2)

theorem upgraded_upgradeFields (n : NodeFields) : n.Upgraded (upgradeFields n) := by
  refine ⟨rfl, List.forall₂_map_right_iff.mpr (List.forall₂_same.mpr fun e _ => ⟨rfl, ?_⟩)⟩
  exact upgraded_upgradeEvent e.2

/-- A document with a version that is at least the latest one is left as it is, and any other one is
upgraded. Nothing is left to upgrade then. -/
theorem upgrade_exact {d u : Document} (done : d.upgrade = .ok u) :
    (Version.Reaches d.version [1, 2] ∧ u = d ∨
      ¬ Version.Reaches d.version [1, 2] ∧ d.Upgraded u) ∧ u.upgrade = .ok u := by
  refine ⟨?_, upgrade_upgraded done⟩
  rw [upgrade] at done
  obtain ⟨current, read, done⟩ := Fault.exists_of_bind_ok done
  have reaches := Version.isCurrent_iff read
  cases current with
  | true =>
    exact .inl ⟨reaches.mp rfl, (Except.ok.inj done).symm⟩
  | false =>
    obtain rfl := Except.ok.inj done
    refine .inr ⟨mt reaches.mpr Bool.false_ne_true, rfl, ?_, rfl⟩
    show List.Forall₂ _ _ (d.root.map upgradeFields).positions
    rw [Tree.positions, Tree.positions, Tree.located_map]
    exact List.forall₂_map_right_iff.mpr
      (List.forall₂_same.mpr fun p _ => ⟨rfl, upgraded_upgradeFields p.2⟩)

/-- An old document with a legacy binding at its root and one at a child, one that has an action
besides its target, and one that is no mapping. -/
def legacy : Document where
  version := " 1.1 "
  root := .node { id := "root", type := "div", events := [
        ("press", .object [("trigger", .str "click"), ("target", .str "open"), ("params", .null)]),
        ("focus", .object [("target", .str "field"), ("action", .str "onFocus")]),
        ("blur", .str "onBlur")] }
      [.node { id := "send", type := "button", events := [
        ("send", .mapping [(.int 1, .null), (.text "target", .null)])] } []]

theorem legacy_upgrade :
    ∃ u, legacy.upgrade = .ok u ∧ legacy.Upgraded u ∧ u.upgrade = .ok u ∧
      u.root.positions.map (·.2.events) = [
        [("press", .object [("trigger", .str "click"), ("params", .null), ("action", .str "open")]),
          ("focus", .object [("target", .str "field"), ("action", .str "onFocus")]),
          ("blur", .str "onBlur")],
        [("send", .mapping [(.int 1, .null), (.text "action", .null)])]] := by
  have done : legacy.upgrade =
      .ok { legacy with version := "1.2", root := legacy.root.map upgradeFields } := rfl
  obtain ⟨⟨-, same⟩ | ⟨-, upgraded⟩, again⟩ := upgrade_exact done
  · exact absurd (congrArg Document.version same) (by decide)
  · exact ⟨_, done, upgraded, again, by decide +kernel⟩

end Document

end ViewDoc
