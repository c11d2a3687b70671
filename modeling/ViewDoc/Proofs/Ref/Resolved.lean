import Mathlib.Data.List.Forall2
import ViewDoc.Proofs.Scope.Member
/-!
What can be read from a value whose references are resolved. The main statement is that the data
scope itself is read from it only at the last of its levels: above that, what a reference reads is
resolved in turn.
-/

set_option autoImplicit false

namespace ViewDoc

theorem Fault.forall₂_of_mapM_ok {α β : Type} {f : α -> Except Fault β} {l : List α} {bs : List β}
    (done : l.mapM f = .ok bs) : List.Forall₂ (fun a b => f a = .ok b) l bs := by
  induction l generalizing bs with
  | nil =>
    cases done
    exact .nil
  | cons a rest ih =>
    rw [List.mapM_cons] at done
    obtain ⟨b, own, done⟩ := exists_of_bind_ok done
    obtain ⟨others, later, done⟩ := exists_of_bind_ok done
    cases done
    exact .cons own (ih later)

theorem Fault.mapM_eq_ok_iff {α β : Type} {f : α -> Except Fault β} {l : List α} {bs : List β} :
    l.mapM f = .ok bs ↔ List.Forall₂ (fun a b => f a = .ok b) l bs := by
  constructor
  · exact forall₂_of_mapM_ok
  · intro made
    induction made with
    | nil => rfl
    | cons own _ ih =>
      rw [List.mapM_cons, own, ih]
      rfl

/-- Under a name stands what is made of what stood under it. -/
theorem Keyed.get?_of_forall₂ {α β : Type} {R : α -> β -> Prop} {es : List (Key × α)}
    {ws : List (Key × β)} (made : List.Forall₂ (fun e w => e.1 = w.1 ∧ R e.2 w.2) es ws) (key : Key) :
    Option.Rel R (get? es key) (get? ws key) := by
  induction made with
  | nil => exact .none
  | @cons e w es ws own _ ih =>
    obtain ⟨k, a⟩ := e
    obtain ⟨l, b⟩ := w
    obtain ⟨same, made⟩ := own
    dsimp only at same made
    rw [get?, get?, ← same]
    split
    · exact .some made
    · exact ih

theorem Entries.get?_of_forall₂ {α β : Type} {R : α -> β -> Prop} {es : List (String × α)}
    {ws : List (String × β)} (made : List.Forall₂ (fun e w => e.1 = w.1 ∧ R e.2 w.2) es ws)
    (key : String) : Option.Rel R (get? es key) (get? ws key) := by
  induction made with
  | nil => exact .none
  | @cons e w es ws own _ ih =>
    obtain ⟨k, a⟩ := e
    obtain ⟨l, b⟩ := w
    obtain ⟨same, made⟩ := own
    dsimp only at same made
    rw [get?, get?, ← same]
    split
    · exact .some made
    · exact ih

theorem Value.getElem?_of_forall₂ {α β : Type} {R : α -> β -> Prop} {l : List α} {m : List β}
    (made : List.Forall₂ R l m) (i : Nat) : Option.Rel R l[i]? m[i]? := by
  by_cases among : i < l.length
  · have stays : i < m.length := made.length_eq ▸ among
    rw [List.getElem?_eq_getElem among, List.getElem?_eq_getElem stays]
    exact .some (made.get among stays)
  · have beyond : m.length ≤ i := made.length_eq ▸ Nat.not_lt.mp among
    rw [List.getElem?_eq_none (Nat.not_lt.mp among), List.getElem?_eq_none beyond]
    exact .none

namespace Path

/-- From null nothing but null is read. -/
theorem readSteps_null (steps : List Step) : readSteps .null steps = .ok .null := by
  induction steps with
  | nil => rfl
  | cons s rest ih => exact ih

/-- From a truth value it is read itself, or null. -/
theorem readSteps_bool (b : Bool) (steps : List Step) :
    readSteps (.bool b) steps = .ok (if steps = [] then .bool b else .null) := by
  cases steps with
  | nil => rfl
  | cons s rest => exact readSteps_null rest

/-- From an object without entries it is read itself, or null. -/
theorem readSteps_empty (steps : List Step) :
    readSteps (.object []) steps = .ok (if steps = [] then .object [] else .null) := by
  cases steps with
  | nil => rfl
  | cons s rest => exact readSteps_null rest

/-- What stands in a value where a step goes. -/
def Step.child? (s : Step) : Value -> Option Value
  | .list items =>
    match s.position? with
    | .ok (some n) => items[n]?
    | _ => none
  | .object es => Entries.get? es s.name
  | .mapping es => Keyed.get? es (.text s.name)
  | _ => none

theorem Step.eq_of_read_ok {s : Step} {v w : Value} (done : s.read v = .ok w) :
    w = (s.child? v).getD .null := by
  cases v with
  | list items =>
    obtain ⟨position, found, done⟩ := Fault.exists_of_bind_ok done
    cases position with
    | none =>
      cases done
      rw [Step.child?, found]
      rfl
    | some n =>
      cases done
      rw [Step.child?, found]
  | object es =>
    cases done
    rfl
  | mapping es =>
    cases done
    rfl
  | _ =>
    cases done
    rfl

theorem exists_of_read_ok {v w : Value} {path : String} (done : read v path = .ok w) :
    ∃ steps, parse path = .ok steps ∧ readSteps v steps = .ok w :=
  Fault.exists_of_bind_ok done

end Path

/-- The context that holds nothing but a data scope. -/
def Context.ofData (data : Value) : Context :=
  { data }

/-- A value refers to the data scope as a whole. -/
def Value.IsWhole (v : Value) : Prop :=
  ∃ p, Ref.ofValue? v = some (.data p) ∧ Path.parse p = .ok []

namespace Value.IsWhole

variable {v : Value} (whole : v.IsWhole)

include whole

theorem ne_null : v ≠ .null := by
  rintro rfl
  obtain ⟨p, ref, -⟩ := whole
  cases ref

theorem isSource : Ref.isSource v = true := by
  obtain ⟨p, ref, -⟩ := whole
  rw [Ref.isSource, ref]

theorem resolveOne_eq (ctx : Context) : v.resolveOne ctx = .ok ctx.data := by
  obtain ⟨p, ref, parsed⟩ := whole
  rw [Value.resolveOne, ref]
  show Path.read ctx.data p = _
  rw [Path.read, parsed]
  rfl

end Value.IsWhole

/-- A reference to anything but data reads null or an object without entries where there is only
data. -/
theorem Ref.resolve_ofData {r : Ref} (other : ∀ p, r ≠ .data p) {data v : Value}
    (done : r.resolve (.ofData data) = .ok v) : v = .null ∨ v = .object [] := by
  have fromObject {p : String} (read : Path.read (.object []) p = .ok v) :
      v = .null ∨ v = .object [] := by
    obtain ⟨steps, -, read⟩ := Path.exists_of_read_ok read
    rw [Path.readSteps_empty] at read
    cases read
    split
    · exact .inr rfl
    · exact .inl rfl
  cases r with
  | param p => exact fromObject done
  | state p => exact fromObject done
  | data p => exact absurd rfl (other p)
  | item p =>
    obtain ⟨steps, -, read⟩ := Path.exists_of_read_ok done
    have null : Path.readSteps .null steps = .ok v := read
    rw [Path.readSteps_null] at null
    cases null
    exact .inl rfl
  | index =>
    cases done
    exact .inl rfl

namespace Value

theorem levels_eq {maxDepth : Int} (room : 0 ≤ maxDepth) : levels maxDepth = maxDepth.toNat + 1 := by
  rw [levels]
  omega

/-- Reading these steps from the resolved value gives the data scope, in every context that holds
nothing else. -/
def LeadsToData (level : Nat) (v : Value) (steps : List Path.Step) : Prop :=
  ∀ data, data ≠ .null ->
    (resolveLevels (.ofData data) level v >>= fun w => Path.readSteps w steps) = .ok data

/-- Resolves the references in what was looked up. -/
def resolveContents (ctx : Context) (level : Nat) : Value -> Except Fault Value
  | .list items => do return .list (← items.mapM (resolveLevels ctx level))
  | .object es =>
    if (Ref.ofValue? (.object es)).isSome then return .object es
    else return .object (← es.mapM fun e => do return (e.1, ← resolveLevels ctx level e.2))
  | .mapping es =>
    return .mapping (← es.mapM fun e => do return (e.1, ← resolveLevels ctx level e.2))
  | leaf => return leaf

theorem resolveLevels_succ (ctx : Context) (level : Nat) (v : Value) :
    resolveLevels ctx (level + 1) v = v.resolveOne ctx >>= resolveContents ctx level := by
  rw [resolveLevels]
  cases v.resolveOne ctx with
  | error fault => rfl
  | ok u => cases u <;> rfl

theorem resolveLevels_ref {ctx : Context} {level : Nat} {v w : Value} {r : Ref}
    (ref : Ref.ofValue? v = some r) (done : resolveLevels ctx (level + 1) v = .ok w) :
    ∃ u, r.resolve ctx = .ok u ∧ resolveContents ctx level u = .ok w := by
  rw [resolveLevels_succ, resolveOne, ref] at done
  exact Fault.exists_of_bind_ok done

theorem resolveLevels_plain {ctx : Context} {level : Nat} {v w : Value}
    (plain : Ref.ofValue? v = none) (done : resolveLevels ctx (level + 1) v = .ok w) :
    resolveContents ctx level v = .ok w := by
  rw [resolveLevels_succ, resolveOne, plain] at done
  exact done

/-- Where a truth value is read from what is referred to, the whole scope is referred to. -/
theorem eq_data_of_reads_true {level : Nat} {u w : Value} {steps : List Path.Step} {r : Ref}
    (found : r.resolve (.ofData (.bool true)) = .ok u)
    (resolved : resolveContents (.ofData (.bool true)) level u = .ok w)
    (read : Path.readSteps w steps = .ok (.bool true)) :
    steps = [] ∧ ∃ p, r = .data p ∧ Path.parse p = .ok [] := by
  by_cases data : ∃ p, r = .data p
  · obtain ⟨p, rfl⟩ := data
    obtain ⟨ps, parsed, found⟩ := Path.exists_of_read_ok found
    have taken : Path.readSteps (.bool true) ps = .ok u := found
    rw [Path.readSteps_bool] at taken
    cases taken
    by_cases whole : ps = []
    · rw [if_pos whole] at resolved
      cases resolved
      rw [Path.readSteps_bool] at read
      by_cases nothing : steps = []
      · exact ⟨nothing, p, rfl, whole ▸ parsed⟩
      · rw [if_neg nothing] at read
        cases read
    · rw [if_neg whole] at resolved
      cases resolved
      rw [Path.readSteps_null] at read
      cases read
  · have other : ∀ p, r ≠ .data p := fun p same => data ⟨p, same⟩
    rcases Ref.resolve_ofData other found with rfl | rfl
    · cases resolved
      rw [Path.readSteps_null] at read
      cases read
    · obtain rfl : w = .object [] := (Except.ok.inj resolved).symm
      rw [Path.readSteps_empty] at read
      split at read <;> cases read

/-- A reference leads to data only as a reference to the whole of it, on the last level. -/
theorem LeadsToData.of_ref {level : Nat} {v : Value} {steps : List Path.Step} {r : Ref}
    (leads : LeadsToData (level + 1) v steps) (ref : Ref.ofValue? v = some r) :
    steps.length + 1 = level + 1 := by
  have truth : Value.bool true ≠ .null := by simp
  obtain ⟨w, done, read⟩ := Fault.exists_of_bind_ok (leads (.bool true) truth)
  obtain ⟨u, found, resolved⟩ := resolveLevels_ref ref done
  obtain ⟨rfl, p, rfl, whole⟩ := eq_data_of_reads_true found resolved read
  cases level with
  | zero => rfl
  | succ level =>
    -- data that refers to the item is not kept above the last level
    have resolved := leads (.list [.object [("$item", .str "")]]) (by simp)
    have lookup : resolveOne (.ofData (.list [.object [("$item", .str "")]])) v =
        .ok (.list [.object [("$item", .str "")]]) := by
      rw [resolveOne, ref]
      show Path.read _ p = _
      rw [Path.read, whole]
      rfl
    rw [resolveLevels, lookup] at resolved
    cases resolved

section

variable {ctx : Context} {level : Nat}

theorem resolveContents_list {items : List Value} {w : Value}
    (done : resolveContents ctx level (.list items) = .ok w) :
    ∃ ws, w = .list ws ∧
      List.Forall₂ (fun x y => resolveLevels ctx level x = .ok y) items ws := by
  obtain ⟨ws, made, done⟩ := Fault.exists_of_bind_ok done
  cases done
  exact ⟨ws, rfl, Fault.forall₂_of_mapM_ok made⟩

theorem forall₂_entries {κ : Type} {es ws : List (κ × Value)}
    (made : (es.mapM fun e => do return (e.1, ← resolveLevels ctx level e.2)) = .ok ws) :
    List.Forall₂ (fun e w => e.1 = w.1 ∧ resolveLevels ctx level e.2 = .ok w.2) es ws := by
  refine (Fault.forall₂_of_mapM_ok made).imp fun e w own => ?_
  obtain ⟨u, below, own⟩ := Fault.exists_of_bind_ok own
  cases own
  exact ⟨rfl, below⟩

theorem resolveContents_object {es : Entries} {w : Value}
    (plain : Ref.ofValue? (.object es) = none)
    (done : resolveContents ctx level (.object es) = .ok w) :
    ∃ ws, w = .object ws ∧
      List.Forall₂ (fun e u => e.1 = u.1 ∧ resolveLevels ctx level e.2 = .ok u.2) es ws := by
  simp only [resolveContents, plain, Option.isSome_none, Bool.false_eq_true, if_false] at done
  obtain ⟨ws, made, done⟩ := Fault.exists_of_bind_ok done
  cases done
  exact ⟨ws, rfl, forall₂_entries made⟩

theorem resolveContents_mapping {es : List (Key × Value)} {w : Value}
    (done : resolveContents ctx level (.mapping es) = .ok w) :
    ∃ ws, w = .mapping ws ∧
      List.Forall₂ (fun e u => e.1 = u.1 ∧ resolveLevels ctx level e.2 = .ok u.2) es ws := by
  obtain ⟨ws, made, done⟩ := Fault.exists_of_bind_ok done
  cases done
  exact ⟨ws, rfl, forall₂_entries made⟩

/-- What is no reference has, where a step goes, what stood there resolved on one level less. -/
theorem child?_resolveContents {v w : Value} (plain : Ref.ofValue? v = none)
    (done : resolveContents ctx level v = .ok w) (s : Path.Step) :
    Option.Rel (fun x y => resolveLevels ctx level x = .ok y) (s.child? v) (s.child? w) := by
  cases v with
  | list items =>
    obtain ⟨ws, rfl, made⟩ := resolveContents_list done
    rw [Path.Step.child?, Path.Step.child?]
    split
    · exact getElem?_of_forall₂ made _
    · exact .none
  | object es =>
    obtain ⟨ws, rfl, made⟩ := resolveContents_object plain done
    exact Entries.get?_of_forall₂ made s.name
  | mapping es =>
    obtain ⟨ws, rfl, made⟩ := resolveContents_mapping done
    exact Keyed.get?_of_forall₂ made (.text s.name)
  | _ =>
    cases done
    exact .none

/-- What has no contents comes of itself alone. -/
theorem eq_of_resolveContents {v w : Value} (leaf : w.members? = none)
    (done : resolveContents ctx level v = .ok w) : v = w := by
  cases v with
  | list items =>
    obtain ⟨ws, rfl, -⟩ := resolveContents_list done
    cases leaf
  | object es =>
    cases ref : Ref.ofValue? (.object es) with
    | none =>
      obtain ⟨ws, rfl, -⟩ := resolveContents_object ref done
      cases leaf
    | some r =>
      rw [resolveContents, ref] at done
      cases done
      cases leaf
  | mapping es =>
    obtain ⟨ws, rfl, -⟩ := resolveContents_mapping done
    cases leaf
  | _ => exact Except.ok.inj done

/-- Resolving the contents makes no text of anything, and of nothing something that holds, or the
other way round. -/
theorem resolveContents_keeps {v w : Value} (done : resolveContents ctx level v = .ok w) :
    w.asText? = v.asText? ∧ w.isTruthy = v.isTruthy := by
  cases v with
  | list items =>
    obtain ⟨ws, rfl, made⟩ := resolveContents_list done
    exact ⟨rfl, by cases made <;> rfl⟩
  | object es =>
    cases ref : Ref.ofValue? (.object es) with
    | none =>
      obtain ⟨ws, rfl, made⟩ := resolveContents_object ref done
      exact ⟨rfl, by cases made <;> rfl⟩
    | some r =>
      rw [resolveContents, ref] at done
      cases done
      exact ⟨rfl, rfl⟩
  | mapping es =>
    obtain ⟨ws, rfl, made⟩ := resolveContents_mapping done
    exact ⟨rfl, by cases made <;> rfl⟩
  | _ =>
    cases done
    exact ⟨rfl, rfl⟩

theorem resolveLevels_null : resolveLevels ctx level .null = .ok .null := by
  cases level <;> rfl

/-- An object that is no reference has, under a key, what stood there resolved on one level less. -/
theorem get_resolveLevels {es ws : Entries} (plain : Ref.ofValue? (.object es) = none)
    (done : resolveLevels ctx (level + 1) (.object es) = .ok (.object ws)) (key : String) :
    resolveLevels ctx level (Entries.get es key) = .ok (Entries.get ws key) := by
  obtain ⟨us, same, made⟩ := resolveContents_object plain (resolveLevels_plain plain done)
  cases same
  have related : Option.Rel (fun v w => resolveLevels ctx level v = .ok w) (Entries.get? es key)
      (Entries.get? ws key) := Entries.get?_of_forall₂ made key
  rw [Entries.get, Entries.get]
  revert related
  rcases Entries.get? es key with _ | v <;> rcases Entries.get? ws key with _ | w
  · exact fun _ => resolveLevels_null
  · exact nofun
  · exact nofun
  · exact fun | .some below => below

end

theorem LeadsToData.exists_child {level : Nat} {v data : Value} {s : Path.Step}
    {rest : List Path.Step} (leads : LeadsToData (level + 1) v (s :: rest))
    (plain : Ref.ofValue? v = none) (present : data ≠ .null) :
    ∃ x w, s.child? v = some x ∧ resolveLevels (.ofData data) level x = .ok w ∧
      Path.readSteps w rest = .ok data := by
  obtain ⟨u, done, read⟩ := Fault.exists_of_bind_ok (leads data present)
  obtain ⟨y, taken, read⟩ := Fault.exists_of_bind_ok read
  have below := child?_resolveContents plain (resolveLevels_plain plain done) s
  rw [Path.Step.eq_of_read_ok taken] at read
  cases stands : s.child? u with
  | none =>
    rw [stands] at read
    have null : Path.readSteps .null rest = .ok data := read
    rw [Path.readSteps_null] at null
    exact absurd (Except.ok.inj null).symm present
  | some w =>
    rw [stands] at below read
    cases source : s.child? v with
    | none =>
      rw [source] at below
      cases below
    | some x =>
      rw [source] at below
      cases below with
      | some resolved => exact ⟨x, w, rfl, resolved, read⟩

/-- What is no reference leads to data through what stands where the first step goes. -/
theorem LeadsToData.of_plain {level : Nat} {v : Value} {steps : List Path.Step}
    (leads : LeadsToData (level + 1) v steps) (plain : Ref.ofValue? v = none) :
    ∃ s rest x, steps = s :: rest ∧ LeadsToData level x rest := by
  have truth (b : Bool) : Value.bool b ≠ .null := by simp
  cases steps with
  | nil =>
    -- the value itself would be every truth value
    obtain ⟨w, done, read⟩ := Fault.exists_of_bind_ok (leads (.bool true) (truth true))
    obtain ⟨u, again, also⟩ := Fault.exists_of_bind_ok (leads (.bool false) (truth false))
    cases read
    cases also
    have first := eq_of_resolveContents rfl (resolveLevels_plain plain done)
    have second := eq_of_resolveContents rfl (resolveLevels_plain plain again)
    rw [first] at second
    cases second
  | cons s rest =>
    obtain ⟨x, -, stands, -⟩ := leads.exists_child plain (truth true)
    refine ⟨s, rest, x, rfl, fun data present => ?_⟩
    obtain ⟨y, w, same, resolved, read⟩ := leads.exists_child plain present
    obtain rfl : x = y := Option.some.inj (stands.symm.trans same)
    rw [resolved]
    exact read

/-- From the resolved value the data scope is read only with as many steps as there are levels below
the first. -/
theorem LeadsToData.length_eq {level : Nat} {v : Value} {steps : List Path.Step}
    (leads : LeadsToData level v steps) : steps.length + 1 = level := by
  induction level generalizing v steps with
  | zero =>
    -- the value stands for itself, whatever the data
    have first : Path.readSteps v steps = .ok (.bool true) := leads (.bool true) (by simp)
    have second : Path.readSteps v steps = .ok (.bool false) := leads (.bool false) (by simp)
    rw [first] at second
    cases second
  | succ level ih =>
    cases ref : Ref.ofValue? v with
    | some r => exact leads.of_ref ref
    | none =>
      obtain ⟨s, rest, x, rfl, below⟩ := leads.of_plain ref
      have deeper : rest.length + 1 = level := ih below
      rw [List.length_cons, deeper]

end Value

end ViewDoc
