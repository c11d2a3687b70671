import ViewDoc.Value.Basic
/-!
Objects, and other lists of keyed entries, as insertion-ordered maps. Setting a key that is present
keeps its position; a new key goes to the end.
-/

set_option autoImplicit false

namespace ViewDoc.Entries

variable {α : Type}

/-- The value under a key. -/
def get? : List (String × α) -> String -> Option α
  | [], _ => none
  | (k, v) :: rest, key => if k = key then some v else get? rest key

/-- The value under a key, or null. -/
def get (es : Entries) (key : String) : Value :=
  (get? es key).getD .null

/-- Whether a key is present. -/
def has (es : List (String × α)) (key : String) : Bool :=
  (get? es key).isSome

/-- The keys in order. -/
def keys (es : List (String × α)) : List String :=
  es.map (·.1)

/-- Puts a value under a key. -/
def set : List (String × α) -> String -> α -> List (String × α)
  | [], key, v => [(key, v)]
  | (k, w) :: rest, key, v => if k = key then (key, v) :: rest else (k, w) :: set rest key v

/-- Without a key. -/
def erase (es : List (String × α)) (key : String) : List (String × α) :=
  es.filter (·.1 ≠ key)

/-- Puts every entry of the second object into the first, in order. -/
def merge (es updates : List (String × α)) : List (String × α) :=
  updates.foldl (fun acc e => set acc e.1 e.2) es

/-- An object from a list of entries: the last value of a key wins, at its first position. -/
def ofList (es : List (String × α)) : List (String × α) :=
  merge [] es

@[simp] theorem get?_nil (key : String) : get? ([] : List (String × α)) key = none := rfl

theorem get?_set_self (es : List (String × α)) (key : String) (v : α) :
    get? (set es key v) key = some v := by
  induction es with
  | nil => simp [set, get?]
  | cons e rest ih =>
    obtain ⟨k, w⟩ := e
    by_cases h : k = key <;> simp [set, get?, h, ih]

theorem get?_set_of_ne (es : List (String × α)) {key other : String} (v : α)
    (h : other ≠ key) : get? (set es key v) other = get? es other := by
  induction es with
  | nil => simp [set, get?, h.symm]
  | cons e rest ih =>
    obtain ⟨k, w⟩ := e
    by_cases hk : k = key
    · subst hk
      simp [set, get?, h.symm]
    · rw [set, if_neg hk, get?, get?, ih]

theorem get?_map {β : Type} (f : α -> β) (es : List (String × α)) (key : String) :
    get? (es.map fun e => (e.1, f e.2)) key = (get? es key).map f := by
  induction es with
  | nil => rfl
  | cons e rest ih =>
    obtain ⟨k, w⟩ := e
    by_cases h : k = key <;> simp [get?, h, ih]

theorem get?_erase_self (es : List (String × α)) (key : String) :
    get? (erase es key) key = none := by
  induction es with
  | nil => rfl
  | cons e rest ih =>
    obtain ⟨k, w⟩ := e
    by_cases h : k = key
    · simpa [erase, h] using ih
    · simpa [erase, get?, h] using ih

theorem get?_erase_of_ne (es : List (String × α)) {key other : String} (h : other ≠ key) :
    get? (erase es key) other = get? es other := by
  induction es with
  | nil => rfl
  | cons e rest ih =>
    obtain ⟨k, w⟩ := e
    by_cases hk : k = key
    · subst hk
      simpa [erase, get?, h.symm] using ih
    · by_cases ho : k = other <;> simp_all [erase, get?]

end ViewDoc.Entries
