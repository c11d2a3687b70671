import ViewDoc.Text.Case
import ViewDoc.Text.Split
/-!
Handler names: the names under which components receive events. A trigger that already is a handler
name stays as it is.
-/

set_option autoImplicit false

namespace ViewDoc.Trigger

/-- The handler names of well-known events, which are spelled as here whatever the case of a
trigger. -/
def knownHandlers : List String :=
  ["onClick", "onDoubleClick", "onMouseEnter", "onMouseLeave", "onFocus", "onBlur", "onChange",
    "onInput", "onSubmit", "onKeyDown", "onKeyUp"]

/-- Whether a trigger already is a handler name: `on` and an upper-case character. -/
def isHandler (trigger : String) : Bool :=
  match trigger.toList with
  | 'o' :: 'n' :: c :: _ => Text.isUpper c
  | _ => false

/-- The words of a trigger, between hyphens and low lines. -/
def words (trigger : String) : List String :=
  let isBreak (c : Char) : Bool := c == '-' || c == '_'
  let found := ((Text.splitWhere isBreak trigger.toList).map String.ofList).filter (· ≠ "")
  if found = ["dblclick"] then ["double", "click"] else found

/-- The handler name that the words of a trigger make. -/
def composed (trigger : String) : String :=
  "on" ++ "".intercalate ((words trigger).map Text.capitalized)

/-- The handler name of a trigger. -/
def handler (trigger : String) : String :=
  if isHandler trigger then trigger
  else
    let name := composed trigger
    (knownHandlers.find? fun known => Text.lower known == Text.lower name).getD name

/-- Whether two triggers mean the same event. -/
def sameEvent (a b : String) : Bool :=
  handler a == handler b

end ViewDoc.Trigger
