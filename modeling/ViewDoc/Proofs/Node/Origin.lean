import ViewDoc.Proofs.Node.Distinct
import ViewDoc.Proofs.Ref.Steps
/-!
Where the nodes of a tree stand in the value that the tree is read from. Children are numbered
without the items that are no objects, so a node has two positions: one in the tree, one in the
value. The main statement is when they are the same.
-/

set_option autoImplicit false

namespace ViewDoc

namespace Node

/-- The items in the list of children of a value. -/
def childItems : Value -> List Value
  | .object es =>
    match Entries.get? es "children" with
    | some (.list items) => items
    | _ => []
  | _ => []

/-- The value of a node stands below another value: at one position in the tree that is read from
this, which counts the objects alone, and at another one in the value, which counts every item. -/
inductive StandsAt : Value -> List Nat -> List Nat -> Value -> Prop
  | here (v : Value) : StandsAt v [] [] v
  | child {v c source : Value} {before after : List Value} {place written : List Nat}
      (items : childItems v = before ++ c :: after) (object : c.isObject = true)
      (deeper : StandsAt c place written source) :
      StandsAt v (before.countP Value.isObject :: place) (before.length :: written) source

/-- On the way to a position every item up to the one that is taken is an object. -/
def Gapless : Value -> List Nat -> Prop
  | _, [] => True
  | v, i :: rest =>
    (∀ x ∈ (childItems v).take (i + 1), x.isObject = true) ∧
      ∀ c ∈ (childItems v)[i]?, Gapless c rest

theorem decodeChildren_eq (es : Entries) {ts : List Node}
    (read : decodeChildren es = .value ts) : decodeItems 0 (childItems (.object es)) = .value ts := by
  induction es with
  | nil => exact read
  | cons head rest ih =>
    obtain ⟨key, v⟩ := head
    rw [decodeChildren] at read
    by_cases here : key = "children"
    · rw [if_pos here, Decoded.under_eq_value_iff] at read
      have found : Entries.get? ((key, v) :: rest) "children" = some v := by
        rw [Entries.get?, if_pos here]
      cases v with
      | list items =>
        have same : childItems (.object ((key, .list items) :: rest)) = items := by
          simp only [childItems, found]
        rw [same]
        exact read
      | _ =>
        simp only [childItems, found]
        exact read
    · rw [if_neg here] at read
      have found : Entries.get? ((key, v) :: rest) "children" = Entries.get? rest "children" := by
        rw [Entries.get?, if_neg here]
      have same : childItems (.object ((key, v) :: rest)) = childItems (.object rest) := by
        simp only [childItems, found]
      rw [same]
      exact ih read

theorem decodeItems_of_decode {v : Value} {t : Node} (read : decode v = .value t) :
    decodeItems 0 (childItems v) = .value t.children := by
  cases v with
  | object es =>
    rw [decode] at read
    exact decodeChildren_eq es (decodeFields_eq_value read).2
  | _ => cases read

/-- A child is read from an item that is an object, with as many objects before it as children. -/
theorem exists_item_of_decodeItems {items : List Value} {ts : List Node} {i k : Nat} {t : Node}
    (read : decodeItems i items = .value ts) (taken : ts[k]? = some t) :
    ∃ before c after, items = before ++ c :: after ∧ c.isObject = true ∧
      before.countP Value.isObject = k ∧ decode c = .value t := by
  induction items generalizing i k ts with
  | nil =>
    cases read
    simp at taken
  | cons v rest ih =>
    rw [decodeItems] at read
    by_cases object : v.isObject = true
    · rw [if_pos object] at read
      obtain ⟨_, more, first, later, rfl⟩ := (Decoded.seq_eq_value_iff _ _ _).mp read
      obtain ⟨u, own, rfl⟩ := (Decoded.map_eq_value_iff _ _ _).mp first
      rw [Decoded.under_eq_value_iff] at own
      cases k with
      | zero =>
        obtain rfl : u = t := by simpa using taken
        exact ⟨[], v, rest, rfl, object, rfl, own⟩
      | succ k =>
        have further : more[k]? = some t := by simpa using taken
        obtain ⟨before, c, after, split, isObject, count, source⟩ := ih later further
        refine ⟨v :: before, c, after, by rw [split]; rfl, isObject, ?_, source⟩
        rw [List.countP_cons_of_pos object, count]
    · rw [if_neg object] at read
      obtain ⟨before, c, after, split, isObject, count, source⟩ := ih read taken
      refine ⟨v :: before, c, after, by rw [split]; rfl, isObject, ?_, source⟩
      rw [List.countP_cons_of_neg object, count]

/-- Every subtree is read from a value that stands below the one that the whole tree is read from. -/
theorem exists_standsAt {v : Value} {t s : Node} {place : List Nat} (read : decode v = .value t)
    (found : t.at? place = some s) :
    ∃ written source, StandsAt v place written source ∧ decode source = .value s := by
  induction place generalizing v t with
  | nil =>
    obtain rfl : t = s := by simpa [Tree.at?] using found
    exact ⟨[], v, .here v, read⟩
  | cons i place ih =>
    rw [Tree.at?] at found
    cases taken : t.children[i]? with
    | none => simp [taken] at found
    | some c =>
      rw [taken] at found
      obtain ⟨before, item, after, items, object, count, own⟩ :=
        exists_item_of_decodeItems (decodeItems_of_decode read) taken
      obtain ⟨written, source, deeper, whole⟩ := ih own found
      refine ⟨before.length :: written, source, ?_, whole⟩
      have stands := StandsAt.child items object deeper
      rwa [count] at stands

/-- The position in the tree is the one in the value just when no item is passed over on the way. -/
theorem StandsAt.eq_iff {v source : Value} {place written : List Nat}
    (stands : StandsAt v place written source) : place = written ↔ Gapless v place := by
  induction stands with
  | here v => simp [Gapless]
  | @child v c source before after place written items object deeper ih =>
    have counted : before.countP Value.isObject ≤ before.length := List.countP_le_length
    rw [List.cons.injEq, ih, Gapless, items]
    constructor
    · rintro ⟨all, gapless⟩
      have objects : ∀ x ∈ before, x.isObject = true := List.countP_eq_length.mp all
      rw [all]
      refine ⟨fun x mem => ?_, fun d taken => ?_⟩
      · have upTo : (before ++ c :: after).take (before.length + 1) = before ++ [c] := by
          rw [List.take_length_add_append]
          rfl
        rw [upTo, List.mem_append, List.mem_singleton] at mem
        rcases mem with mem | rfl
        · exact objects x mem
        · exact object
      · obtain rfl : c = d := by simpa using taken
        exact gapless
    · rintro ⟨objects, gapless⟩
      have all : before.countP Value.isObject = before.length := by
        by_contra short
        -- one item more than there are objects would be all objects
        have more : before.countP Value.isObject + 1 ≤ before.length := by omega
        rw [List.take_append_of_le_length more] at objects
        have part := (List.take_sublist (before.countP Value.isObject + 1) before).countP_le
          (p := Value.isObject)
        rw [List.countP_eq_length.mpr objects, List.length_take] at part
        omega
      refine ⟨all, gapless c ?_⟩
      rw [all]
      simp

/-- The steps of the position in the value lead to the value of the node. -/
theorem StandsAt.readSteps {v source : Value} {place written : List Nat}
    (stands : StandsAt v place written source) :
    Path.readSteps v (Canonical.childSteps written) = .ok source := by
  induction stands with
  | here v => rfl
  | @child v c source before after place written items object deeper ih =>
    have listed : ∃ es, v = .object es ∧
        Entries.get? es "children" = some (.list (before ++ c :: after)) := by
      cases v with
      | object es =>
        cases found : Entries.get? es "children" with
        | none => simp [childItems, found] at items
        | some w =>
          cases w with
          | list ws =>
            simp only [childItems, found] at items
            exact ⟨es, rfl, by rw [items] at found; exact found⟩
          | _ => simp [childItems, found] at items
      | _ => simp [childItems] at items
    obtain ⟨es, rfl, found⟩ := listed
    have list : (Path.Step.key "children").read (.object es) =
        .ok (.list (before ++ c :: after)) := by
      simp [Path.Step.read, Path.Step.name, Entries.get, found]
    have item : (Path.Step.index before.length).read (.list (before ++ c :: after)) = .ok c := by
      simp [Path.Step.read, Path.Step.position?, bind, Except.bind, pure, Except.pure]
    rw [Canonical.childSteps, List.flatMap_cons, List.cons_append, List.cons_append,
      Path.readSteps, list]
    show Path.readSteps (.list _) (.index before.length :: Canonical.childSteps written) = _
    rw [Path.readSteps, item]
    exact ih

end Node

end ViewDoc
