import ViewDoc.Value.Entries
/-!
Keys of mappings, and lists of entries under them as insertion-ordered maps. Numbers are one key when
they amount to the same, with the truth values as zero and one. The key that came first stays, with
the value that came last. The main statement is that text keys make an object. Loose equality of
values compares numbers in the same way, and objects whatever the order of their entries.
-/

set_option autoImplicit false

namespace ViewDoc

namespace Key

/-- A key as a value. -/
def toValue : Key -> Value
  | .null => .null
  | .bool b => .bool b
  | .int i => .int i
  | .float x => .float x
  | .text s => .str s
  | .handler name => .handler name

/-- The integer that a truth value or an integer stands for. -/
def whole? : Key -> Option Int
  | .bool b => some (if b then 1 else 0)
  | .int i => some i
  | _ => none

/-- Whether two keys are one. What is no number is not one with anything. -/
def meets : Key -> Key -> Bool
  | .null, .null => true
  | .text a, .text b => a == b
  | .handler a, .handler b => a == b
  | .float x, .float y => x.eqNumber y
  | .float x, b => match whole? b with
    | some i => x.eqInt i
    | none => false
  | a, .float y => match whole? a with
    | some i => y.eqInt i
    | none => false
  | a, b => match whole? a, whole? b with
    | some i, some j => i == j
    | _, _ => false

/-- The text of a key that is one. -/
def text? : Key -> Option String
  | .text s => some s
  | _ => none

end Key

/-- The key that a value is; what has entries is none. -/
def Value.key? : Value -> Option Key
  | .null => some .null
  | .bool b => some (.bool b)
  | .int i => some (.int i)
  | .float x => some (.float x)
  | .str s => some (.text s)
  | .handler name => some (.handler name)
  | _ => none

theorem Value.key?_toValue (k : Key) : k.toValue.key? = some k := by
  cases k <;> rfl

namespace Keyed

variable {α : Type}

/-- The value under a key. -/
def get? : List (Key × α) -> Key -> Option α
  | [], _ => none
  | (k, v) :: rest, key => if k.meets key then some v else get? rest key

/-- Puts a value under a key. -/
def set : List (Key × α) -> Key -> α -> List (Key × α)
  | [], key, v => [(key, v)]
  | (k, w) :: rest, key, v => if k.meets key then (k, v) :: rest else (k, w) :: set rest key v

/-- Puts every entry of the second list into the first, in order. -/
def merge (es updates : List (Key × α)) : List (Key × α) :=
  updates.foldl (fun acc e => set acc e.1 e.2) es

/-- The entries with distinct keys that a list of entries makes. -/
def ofList (es : List (Key × α)) : List (Key × α) :=
  merge [] es

/-- Entries with text keys. -/
def ofEntries (es : List (String × α)) : List (Key × α) :=
  es.map fun e => (.text e.1, e.2)

/-- The entries, if all keys are texts. -/
def texts? (es : List (Key × α)) : Option (List (String × α)) :=
  es.mapM fun e => e.1.text?.map fun s => (s, e.2)

/-- The entries under text keys. -/
def named (es : List (Key × α)) : List (String × α) :=
  es.filterMap fun e => e.1.text?.map fun s => (s, e.2)

theorem texts?_ofEntries (es : List (String × α)) : texts? (ofEntries es) = some es := by
  induction es with
  | nil => rfl
  | cons e rest ih => simp_all [texts?, ofEntries, Key.text?]

theorem set_ofEntries (es : List (String × α)) (key : String) (v : α) :
    set (ofEntries es) (.text key) v = ofEntries (Entries.set es key v) := by
  induction es with
  | nil => rfl
  | cons e rest ih =>
    obtain ⟨k, w⟩ := e
    by_cases h : k = key
    · simp [set, ofEntries, Entries.set, Key.meets, h]
    · simp_all [set, ofEntries, Entries.set, Key.meets]

theorem merge_ofEntries (es updates : List (String × α)) :
    merge (ofEntries es) (ofEntries updates) = ofEntries (Entries.merge es updates) := by
  induction updates generalizing es with
  | nil => rfl
  | cons e rest ih =>
    have step := set_ofEntries es e.1 e.2
    simp only [merge, ofEntries, List.map_cons, List.foldl_cons, Entries.merge] at *
    rw [step]
    exact ih _

end Keyed

namespace Value

/-- The object or mapping that entries make. -/
def ofKeyed (es : List (Key × Value)) : Value :=
  match Keyed.texts? es with
  | some texts => .object texts
  | none => .mapping es

/-- The entries of an object or a mapping. -/
def keyed? : Value -> Option (List (Key × Value))
  | .object es => some (Keyed.ofEntries es)
  | .mapping es => some es
  | _ => none

/-- An object with the entries of another one put into it. What is none counts as empty. -/
def overlaid (base : Value) (updates : List (Key × Value)) : Value :=
  ofKeyed (Keyed.merge (base.keyed?.getD []) updates)

theorem ofKeyed_ofEntries (es : Entries) : ofKeyed (Keyed.ofEntries es) = .object es := by
  simp [ofKeyed, Keyed.texts?_ofEntries]

theorem overlaid_object (es updates : Entries) :
    (Value.object es).overlaid (Keyed.ofEntries updates) = .object (Entries.merge es updates) := by
  simp [overlaid, keyed?, Keyed.merge_ofEntries, ofKeyed_ofEntries]

end Value

end ViewDoc

namespace ViewDoc.Value

/-- Whether a value is one with a key. -/
def isKey (v : Value) (k : Key) : Bool :=
  match v.key? with
  | some l => k.meets l
  | none => false

mutual

/-- Loose equality. -/
def equal : Value -> Value -> Bool
  | .list a, b => match b with
    | .list bs => equalItems a bs
    | _ => false
  | .object a, b => match b with
    | .object bs => a.length == bs.length && equalEntries a bs
    | _ => false
  | .mapping a, b => match b with
    | .mapping bs => a.length == bs.length && equalKeyed a bs
    | _ => false
  | .null, b => b.isKey .null
  | .bool x, b => b.isKey (.bool x)
  | .int i, b => b.isKey (.int i)
  | .float x, b => b.isKey (.float x)
  | .str s, b => b.isKey (.text s)
  | .handler h, b => b.isKey (.handler h)

/-- Loose equality of lists, item by item. -/
def equalItems : List Value -> List Value -> Bool
  | [], [] => true
  | a :: as, b :: bs => equal a b && equalItems as bs
  | _, _ => false

/-- Whether every entry of the first object has a loosely equal one in the second. -/
def equalEntries : List (String × Value) -> Entries -> Bool
  | [], _ => true
  | (k, a) :: rest, bs =>
    (match Entries.get? bs k with
      | some b => equal a b
      | none => false) && equalEntries rest bs

/-- The same for entries with keys of any kind. -/
def equalKeyed : List (Key × Value) -> List (Key × Value) -> Bool
  | [], _ => true
  | (k, a) :: rest, bs =>
    (match Keyed.get? bs k with
      | some b => equal a b
      | none => false) && equalKeyed rest bs

end

end ViewDoc.Value
