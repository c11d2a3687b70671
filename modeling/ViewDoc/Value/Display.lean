import ViewDoc.Decimal.Style
import ViewDoc.Text.Quoted
import ViewDoc.Value.Key
/-!
The text of values in messages and on views: a text stands for itself, and inside lists and objects
it is quoted.
-/

set_option autoImplicit false

namespace ViewDoc.Value

private def leafText : Value -> String
  | .null => "None"
  | .bool b => if b then "True" else "False"
  | .int i => Text.ofInt i
  | .float x => Decimal.Style.display.text x
  | .str s => Text.quoted s
  | .handler name => name
  | _ => ""

mutual

/-- The quoted form of a value. -/
def quotedForm : Value -> String
  | .list items => "[" ++ ", ".intercalate (quotedForms items) ++ "]"
  | .object entries => "\x7b" ++ ", ".intercalate (quotedEntries entries) ++ "\x7d"
  | .mapping entries => "\x7b" ++ ", ".intercalate (quotedKeyed entries) ++ "\x7d"
  | v => leafText v

/-- The quoted forms of a list. -/
def quotedForms : List Value -> List String
  | [] => []
  | v :: rest => quotedForm v :: quotedForms rest

/-- The quoted forms of entries. -/
def quotedEntries : List (String × Value) -> List String
  | [] => []
  | (k, v) :: rest => (Text.quoted k ++ ": " ++ quotedForm v) :: quotedEntries rest

/-- The quoted forms of entries with keys of any kind. -/
def quotedKeyed : List (Key × Value) -> List String
  | [] => []
  | (k, v) :: rest => (leafText k.toValue ++ ": " ++ quotedForm v) :: quotedKeyed rest

end

/-- The text that a value is shown as. -/
def display : Value -> String
  | .str s => s
  | v => quotedForm v

end ViewDoc.Value

/-- The text that a key is shown as. -/
def ViewDoc.Key.display (k : Key) : String :=
  k.toValue.display
