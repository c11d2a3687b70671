import ViewDoc.Decimal.Binary64
/-!
Dynamic values: the data of documents, parameters and state. An object is a list of entries in
insertion order. What is made of pairs may have keys that are no texts. The main statement is that
structural comparison decides equality.
-/

set_option autoImplicit false

namespace ViewDoc

/-- A key of a mapping. -/
inductive Key where
  | null
  | bool (b : Bool)
  | int (i : Int)
  | float (x : Binary64)
  | text (s : String)
  | handler (name : String)
  deriving DecidableEq, Repr, Inhabited

/-- A dynamic value. A handler is a function of the host, known by its name. A mapping has a key that
is no text; with text keys alone it is an object. -/
inductive Value where
  | null
  | bool (b : Bool)
  | int (i : Int)
  | float (x : Binary64)
  | str (s : String)
  | list (items : List Value)
  | object (entries : List (String × Value))
  | mapping (entries : List (Key × Value))
  | handler (name : String)
  deriving Repr, Inhabited

/-- The entries of an object, in order. -/
abbrev Entries := List (String × Value)

namespace Value

mutual

/-- Structural comparison. -/
def same : Value -> Value -> Bool
  | .null, .null => true
  | .bool a, .bool b => a == b
  | .int a, .int b => a == b
  | .float a, .float b => decide (a = b)
  | .str a, .str b => a == b
  | .list a, .list b => sameList a b
  | .object a, .object b => sameEntries a b
  | .mapping a, .mapping b => sameKeyed a b
  | .handler a, .handler b => a == b
  | _, _ => false

/-- Structural comparison of lists. -/
def sameList : List Value -> List Value -> Bool
  | [], [] => true
  | a :: as, b :: bs => same a b && sameList as bs
  | _, _ => false

/-- Structural comparison of entries. -/
def sameEntries : List (String × Value) -> List (String × Value) -> Bool
  | [], [] => true
  | (k, a) :: as, (l, b) :: bs => k == l && same a b && sameEntries as bs
  | _, _ => false

/-- Structural comparison of entries with keys of any kind. -/
def sameKeyed : List (Key × Value) -> List (Key × Value) -> Bool
  | [], [] => true
  | (k, a) :: as, (l, b) :: bs => decide (k = l) && same a b && sameKeyed as bs
  | _, _ => false

end

mutual

theorem same_iff (a b : Value) : same a b = true ↔ a = b := by
  cases a <;> cases b <;> simp [same]
  · exact sameList_iff _ _
  · exact sameEntries_iff _ _
  · exact sameKeyed_iff _ _
termination_by structural a

theorem sameList_iff (a b : List Value) : sameList a b = true ↔ a = b := by
  cases a with
  | nil => cases b <;> simp [sameList]
  | cons x xs =>
    cases b with
    | nil => simp [sameList]
    | cons y ys => simp [sameList, same_iff x y, sameList_iff xs ys]
termination_by structural a

theorem sameEntries_iff (a b : List (String × Value)) : sameEntries a b = true ↔ a = b := by
  cases a with
  | nil => cases b <;> simp [sameEntries]
  | cons x xs =>
    obtain ⟨k, v⟩ := x
    cases b with
    | nil => simp [sameEntries]
    | cons y ys =>
      obtain ⟨l, w⟩ := y
      simp [sameEntries, same_iff v w, sameEntries_iff xs ys]
termination_by structural a

theorem sameKeyed_iff (a b : List (Key × Value)) : sameKeyed a b = true ↔ a = b := by
  cases a with
  | nil => cases b <;> simp [sameKeyed]
  | cons x xs =>
    obtain ⟨k, v⟩ := x
    cases b with
    | nil => simp [sameKeyed]
    | cons y ys =>
      obtain ⟨l, w⟩ := y
      simp [sameKeyed, same_iff v w, sameKeyed_iff xs ys]
termination_by structural a

end

instance : DecidableEq Value :=
  fun a b => decidable_of_iff _ (same_iff a b)

/-- Whether a condition holds of the value: what is empty, zero, false or null does not. -/
def isTruthy : Value -> Bool
  | .null => false
  | .bool b => b
  | .int i => i != 0
  | .float x => !x.isZero
  | .str s => s != ""
  | .list items => !items.isEmpty
  | .object entries => !entries.isEmpty
  | .mapping entries => !entries.isEmpty
  | .handler _ => true

/-- Whether the value is null. -/
def isNull : Value -> Bool
  | .null => true
  | _ => false

/-- Whether the value is an object, whatever its keys. -/
def isObject : Value -> Bool
  | .object _ | .mapping _ => true
  | _ => false

/-- Whether the value is a text. -/
def isText : Value -> Bool
  | .str _ => true
  | _ => false

/-- The text of a text value. -/
def asText? : Value -> Option String
  | .str s => some s
  | _ => none

/-- The items of a list value. -/
def asList? : Value -> Option (List Value)
  | .list items => some items
  | _ => none

/-- The entries of an object value. -/
def asObject? : Value -> Option Entries
  | .object entries => some entries
  | _ => none

/-- The value itself, unless it is null. -/
def nonNull? : Value -> Option Value
  | .null => none
  | v => some v

/-- The value, or null for nothing. -/
def ofOption : Option Value -> Value
  | some v => v
  | none => .null

/-- A text, or null for nothing. -/
def ofText? : Option String -> Value
  | some s => .str s
  | none => .null

/-- Whether the value is a number that is not a truth value. -/
def isNumber : Value -> Bool
  | .int _ | .float _ => true
  | _ => false

end Value

end ViewDoc
