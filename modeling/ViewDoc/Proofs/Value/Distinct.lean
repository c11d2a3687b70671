import Mathlib.Data.List.Nodup
import ViewDoc.Value.Entries
/-!
Distinct keys: what is found in a part of an object, and which keys a merged one has.
-/

set_option autoImplicit false

namespace ViewDoc

namespace Value

mutual

/-- Whether every object in a value has distinct keys, as a mapping has. -/
def hasDistinctKeys : Value -> Bool
  | .list items => itemsHaveDistinctKeys items
  | .object es => decide (Entries.keys es).Nodup && membersHaveDistinctKeys es
  | .mapping es => decide (es.map (·.1)).Nodup && keyedHaveDistinctKeys es
  | _ => true

/-- The same for items. -/
def itemsHaveDistinctKeys : List Value -> Bool
  | [] => true
  | v :: rest => v.hasDistinctKeys && itemsHaveDistinctKeys rest

/-- The same for the values of entries. -/
def membersHaveDistinctKeys : List (String × Value) -> Bool
  | [] => true
  | (_, v) :: rest => v.hasDistinctKeys && membersHaveDistinctKeys rest

/-- The same for the values of entries with keys of any kind. -/
def keyedHaveDistinctKeys : List (Key × Value) -> Bool
  | [] => true
  | (_, v) :: rest => v.hasDistinctKeys && keyedHaveDistinctKeys rest

end

theorem itemsHaveDistinctKeys_cons (v : Value) (rest : List Value) :
    itemsHaveDistinctKeys (v :: rest) = true ↔
      v.hasDistinctKeys = true ∧ itemsHaveDistinctKeys rest = true := by
  rw [itemsHaveDistinctKeys, Bool.and_eq_true]

theorem membersHaveDistinctKeys_cons (key : String) (v : Value) (rest : Entries) :
    membersHaveDistinctKeys ((key, v) :: rest) = true ↔
      v.hasDistinctKeys = true ∧ membersHaveDistinctKeys rest = true := by
  rw [membersHaveDistinctKeys, Bool.and_eq_true]

theorem hasDistinctKeys_object (es : Entries) :
    (object es).hasDistinctKeys = true ↔
      (Entries.keys es).Nodup ∧ membersHaveDistinctKeys es = true := by
  rw [hasDistinctKeys, Bool.and_eq_true, decide_eq_true_iff]

theorem hasDistinctKeys_of_mem {es : Entries} {e : String × Value}
    (distinct : membersHaveDistinctKeys es = true) (mem : e ∈ es) :
    e.2.hasDistinctKeys = true := by
  induction es with
  | nil => cases mem
  | cons head rest ih =>
    obtain ⟨key, v⟩ := head
    rw [membersHaveDistinctKeys_cons] at distinct
    rcases List.mem_cons.mp mem with rfl | mem
    · exact distinct.1
    · exact ih distinct.2 mem

theorem hasDistinctKeys_of_mem_items {items : List Value} {v : Value}
    (distinct : (list items).hasDistinctKeys = true) (mem : v ∈ items) :
    v.hasDistinctKeys = true := by
  rw [hasDistinctKeys] at distinct
  induction items with
  | nil => cases mem
  | cons head rest ih =>
    rw [itemsHaveDistinctKeys_cons] at distinct
    rcases List.mem_cons.mp mem with rfl | mem
    · exact distinct.1
    · exact ih distinct.2 mem

end Value

namespace Entries

variable {α : Type}

theorem keys_append (es more : List (String × α)) : keys (es ++ more) = keys es ++ keys more :=
  List.map_append

theorem get?_append (es more : List (String × α)) (key : String) :
    get? (es ++ more) key = (get? es key).or (get? more key) := by
  induction es with
  | nil => rfl
  | cons head rest ih =>
    obtain ⟨k, a⟩ := head
    by_cases same : k = key
    · simp [get?, same]
    · simpa [get?, same] using ih

theorem mem_of_get? {es : List (String × α)} {key : String} {a : α}
    (found : get? es key = some a) : (key, a) ∈ es := by
  induction es with
  | nil => cases found
  | cons head rest ih =>
    obtain ⟨k, b⟩ := head
    rw [get?] at found
    split at found
    · rename_i same
      cases found
      exact same ▸ List.mem_cons_self
    · exact List.mem_cons_of_mem _ (ih found)

theorem mem_of_mem_set {es : List (String × α)} {key : String} {a : α} {e : String × α}
    (mem : e ∈ set es key a) : e = (key, a) ∨ e ∈ es := by
  induction es with
  | nil => exact .inl (List.mem_singleton.mp mem)
  | cons head rest ih =>
    obtain ⟨k, b⟩ := head
    rw [set] at mem
    split at mem
    · exact (List.mem_cons.mp mem).imp_right (List.mem_cons_of_mem _)
    · obtain rfl | mem := List.mem_cons.mp mem
      · exact .inr List.mem_cons_self
      · exact (ih mem).imp_right (List.mem_cons_of_mem _)

theorem has_iff_mem_keys (es : List (String × α)) (key : String) :
    has es key = true ↔ key ∈ keys es := by
  induction es with
  | nil => simp [has, keys]
  | cons head rest ih =>
    obtain ⟨k, b⟩ := head
    by_cases same : k = key
    · simp [has, get?, keys, same]
    · simpa [has, get?, keys, same, Ne.symm same] using ih

theorem get?_eq_none_iff {es : List (String × α)} {key : String} :
    get? es key = none ↔ key ∉ keys es := by
  rw [← has_iff_mem_keys, has]
  cases get? es key <;> simp

theorem get?_filter_of_forall (es : List (String × α)) {p : String × α -> Bool} {key : String}
    (kept : ∀ a, p (key, a) = true) : get? (es.filter p) key = get? es key := by
  induction es with
  | nil => rfl
  | cons head rest ih =>
    obtain ⟨k, a⟩ := head
    by_cases same : k = key
    · subst same
      simp [kept, get?]
    · cases holds : p (k, a) <;> simp [holds, get?, same, ih]

/-- With distinct keys, a part of the entries holds the entry under a key or none under it. -/
theorem get?_filter {es : List (String × α)} (distinct : (keys es).Nodup)
    (p : String × α -> Bool) (key : String) :
    get? (es.filter p) key = (get? es key).filter fun a => p (key, a) := by
  induction es with
  | nil => rfl
  | cons head rest ih =>
    obtain ⟨k, a⟩ := head
    obtain ⟨fresh, distinct⟩ := List.nodup_cons.mp distinct
    by_cases same : k = key
    · subst same
      have later : get? (rest.filter p) k = none := by
        rw [ih distinct, get?_eq_none_iff.mpr fresh]
        rfl
      cases holds : p (k, a) <;> simp [holds, get?, later, Option.filter]
    · cases holds : p (k, a) <;> simp [holds, get?, same, ih distinct]

/-- With distinct keys among the entries that are put in, they win, and leave the others as they
were. -/
theorem get?_merge {updates : List (String × α)} (distinct : (keys updates).Nodup)
    (es : List (String × α)) (key : String) :
    get? (merge es updates) key = (get? updates key).or (get? es key) := by
  induction updates generalizing es with
  | nil => rfl
  | cons head rest ih =>
    obtain ⟨k, a⟩ := head
    obtain ⟨fresh, distinct⟩ := List.nodup_cons.mp distinct
    have first : get? (merge es ((k, a) :: rest)) key =
        (get? rest key).or (get? (set es k a) key) := ih distinct (set es k a)
    rw [first]
    by_cases same : k = key
    · subst same
      rw [get?_eq_none_iff.mpr fresh, get?_set_self, get?, if_pos rfl]
      rfl
    · rw [get?_set_of_ne es a (Ne.symm same), get?, if_neg same]

theorem get?_of_mem {es : List (String × α)} (distinct : (keys es).Nodup) {e : String × α}
    (mem : e ∈ es) : get? es e.1 = some e.2 := by
  induction es with
  | nil => cases mem
  | cons head rest ih =>
    obtain ⟨fresh, distinct⟩ := List.nodup_cons.mp distinct
    rcases List.mem_cons.mp mem with rfl | mem
    · rw [get?, if_pos rfl]
    · have among : e.1 ∈ keys rest := List.mem_map_of_mem mem
      have other : head.1 ≠ e.1 := by
        intro same
        rw [← same] at among
        exact fresh among
      rw [get?, if_neg other]
      exact ih distinct mem

/-- A new key goes to the end. -/
theorem set_of_not_mem {es : List (String × α)} {key : String} (fresh : key ∉ keys es) (a : α) :
    set es key a = es ++ [(key, a)] := by
  induction es with
  | nil => rfl
  | cons head rest ih =>
    obtain ⟨k, b⟩ := head
    have other : k ≠ key := fun same => fresh (same ▸ List.mem_cons_self)
    have later : key ∉ keys rest := fun mem => fresh (List.mem_cons_of_mem k mem)
    rw [set, if_neg other, ih later, List.cons_append]

/-- Entries with new and distinct keys go to the end, in their order. -/
theorem merge_of_disjoint {es updates : List (String × α)} (distinct : (keys updates).Nodup)
    (fresh : ∀ key ∈ keys updates, key ∉ keys es) : merge es updates = es ++ updates := by
  induction updates generalizing es with
  | nil => exact (List.append_nil es).symm
  | cons head rest ih =>
    obtain ⟨k, a⟩ := head
    obtain ⟨once, distinct⟩ := List.nodup_cons.mp distinct
    obtain ⟨first, later⟩ := List.forall_mem_cons.mp fresh
    have still : ∀ key ∈ keys rest, key ∉ keys (es ++ [(k, a)]) := by
      intro key mem among
      rw [keys_append, List.mem_append] at among
      rcases among with among | last
      · exact later key mem among
      · obtain rfl : key = k := List.mem_singleton.mp last
        exact once mem
    have whole : merge (es ++ [(k, a)]) rest = es ++ [(k, a)] ++ rest := ih distinct still
    rw [merge, List.foldl_cons, set_of_not_mem first, ← merge, whole, List.append_assoc,
      List.singleton_append]

theorem keys_set_of_mem {es : List (String × α)} {key : String} (old : key ∈ keys es) (a : α) :
    keys (set es key a) = keys es := by
  induction es with
  | nil => cases old
  | cons head rest ih =>
    obtain ⟨k, b⟩ := head
    rw [set]
    split
    · rename_i same
      exact congrArg (· :: keys rest) same.symm
    · rename_i other
      exact congrArg (k :: ·) (ih ((List.mem_cons.mp old).resolve_left (Ne.symm other)))

theorem keys_set_of_not_mem {es : List (String × α)} {key : String} (fresh : key ∉ keys es) (a : α) :
    keys (set es key a) = keys es ++ [key] := by
  rw [set_of_not_mem fresh, keys_append]
  rfl

theorem mem_keys_set_iff {es : List (String × α)} {key name : String} {a : α} :
    name ∈ keys (set es key a) ↔ name ∈ keys es ∨ name = key := by
  by_cases old : key ∈ keys es
  · rw [keys_set_of_mem old, or_iff_left_of_imp]
    rintro rfl
    exact old
  · rw [keys_set_of_not_mem old, List.mem_append, List.mem_singleton]

theorem nodup_keys_set {es : List (String × α)} (distinct : (keys es).Nodup) (key : String) (a : α) :
    (keys (set es key a)).Nodup := by
  by_cases old : key ∈ keys es
  · rwa [keys_set_of_mem old]
  · rw [keys_set_of_not_mem old, List.nodup_append_comm]
    exact List.nodup_cons.mpr ⟨old, distinct⟩

theorem nodup_keys_merge {es : List (String × α)} (distinct : (keys es).Nodup)
    (updates : List (String × α)) : (keys (merge es updates)).Nodup := by
  induction updates generalizing es with
  | nil => exact distinct
  | cons head rest ih => exact ih (nodup_keys_set distinct head.1 head.2)

/-- The keys that are there stay in front, and the new ones follow in their order. -/
theorem keys_merge {updates : List (String × α)} (distinct : (keys updates).Nodup)
    (es : List (String × α)) :
    keys (merge es updates) = keys es ++ (keys updates).filter (· ∉ keys es) := by
  induction updates generalizing es with
  | nil => exact (List.append_nil _).symm
  | cons head rest ih =>
    obtain ⟨key, a⟩ := head
    obtain ⟨once, distinct⟩ := List.nodup_cons.mp distinct
    have whole : keys (merge es ((key, a) :: rest)) =
        keys (set es key a) ++ (keys rest).filter (· ∉ keys (set es key a)) := ih distinct _
    have first : keys ((key, a) :: rest) = key :: keys rest := rfl
    rw [whole, first]
    by_cases old : key ∈ keys es
    · rw [keys_set_of_mem old, List.filter_cons_of_neg (by simpa using old)]
    · rw [keys_set_of_not_mem old, List.filter_cons_of_pos (by simpa using old), List.append_assoc,
        List.singleton_append]
      refine congrArg (keys es ++ key :: ·) (List.filter_congr fun k mem => ?_)
      have other : k ≠ key := fun same => once (same ▸ mem)
      simp [other]

theorem get?_eq_find? (es : List (String × α)) (key : String) :
    get? es key = (es.find? fun e => e.1 == key).map (·.2) := by
  induction es with
  | nil => rfl
  | cons head rest ih =>
    obtain ⟨k, a⟩ := head
    rw [get?]
    by_cases same : k = key
    · simp [same]
    · rw [if_neg same, ih, List.find?_cons_of_neg (by simpa using same)]

theorem has_eq_any (es : List (String × α)) (key : String) :
    has es key = es.any fun e => e.1 == key := by
  rw [has, get?_eq_find?, Option.isSome_map, List.isSome_find?]

/-- With distinct keys the order makes no difference. -/
theorem get?_of_perm {es es' : List (String × α)} (perm : es.Perm es') (distinct : (keys es).Nodup)
    (key : String) : get? es key = get? es' key := by
  have distinct' : (keys es').Nodup := (perm.map _).nodup_iff.mp distinct
  cases found : get? es' key with
  | some a => exact get?_of_mem distinct (perm.mem_iff.mpr (mem_of_get? found))
  | none =>
    rw [get?_eq_none_iff] at found ⊢
    exact fun mem => found ((perm.map _).mem_iff.mp mem)

/-- Where the key decides on the value, it does not matter which entry comes last. -/
theorem get?_merge_of_eq {updates : List (String × α)} {value : String -> α}
    (decided : ∀ e ∈ updates, e.2 = value e.1) (es : List (String × α)) (key : String) :
    get? (merge es updates) key =
      if key ∈ keys updates then some (value key) else get? es key := by
  induction updates generalizing es with
  | nil => rfl
  | cons head rest ih =>
    obtain ⟨first, later⟩ := List.forall_mem_cons.mp decided
    have whole : get? (merge es (head :: rest)) key =
        if key ∈ keys rest then some (value key) else get? (set es head.1 head.2) key := ih later _
    have heads : keys (head :: rest) = head.1 :: keys rest := rfl
    rw [whole, heads]
    by_cases old : key ∈ keys rest
    · rw [if_pos old, if_pos (List.mem_cons_of_mem _ old)]
    · rw [if_neg old]
      by_cases same : key = head.1
      · rw [if_pos (same ▸ List.mem_cons_self), same, get?_set_self, first]
      · rw [if_neg (by simp [same, old]), get?_set_of_ne es head.2 same]

end Entries

theorem Value.hasDistinctKeys_of_get? {es : Entries} {key : String} {v : Value}
    (distinct : (object es).hasDistinctKeys = true) (found : Entries.get? es key = some v) :
    v.hasDistinctKeys = true :=
  hasDistinctKeys_of_mem ((hasDistinctKeys_object es).mp distinct).2 (Entries.mem_of_get? found)

end ViewDoc
