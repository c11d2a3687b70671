import ViewDoc.Text.Blank
import ViewDoc.Text.Case
import ViewDoc.Text.Split
import ViewDoc.Value.Entries
/-!
Icon references and the providers that turn icon names into element names.
-/

set_option autoImplicit false

namespace ViewDoc

/-- A reference to an icon of a provider, perhaps in a variant. -/
structure IconRef where
  provider : String
  name : String
  variant : Option String := none
  deriving DecidableEq, Repr

/-- A provider that is ready: its icons by name and variant, and where to import them from. -/
structure IconProvider where
  resolve : String -> Option String -> Option String
  label : Option String := none
  importSource : Option String := none
  icons : Option (List String) := none

namespace IconRef

/-- A reference as an object. -/
def toValue (r : IconRef) : Value :=
  .object [("provider", .str r.provider), ("name", .str r.name), ("variant", .ofText? r.variant)]

private def nonBlank? (v : Value) : Option String :=
  v.asText?.filter fun s => !Text.isBlankText s

/-- Reads an icon reference: an object with a provider and a name that are not blank. -/
def ofValue? : Value -> Option IconRef
  | .object es => do
    let provider ← nonBlank? (Entries.get es "provider")
    let name ← nonBlank? (Entries.get es "name")
    return ⟨provider, name, (Entries.get es "variant").asText?⟩
  | _ => none

end IconRef

namespace IconProvider

/-- The form of provider ids under which providers are kept. -/
def normalizeId (id : String) : String :=
  Text.lower (Text.trim id)

/-- A name as one word of capitalized parts. -/
def pascalCase (name : String) : String :=
  let isBreak (c : Char) : Bool := c == '-' || c == '_' || Text.isBlank c
  "".intercalate (((Text.splitWhere isBreak name.toList).map String.ofList).map Text.capitalized)

/-- A provider that names icons by a table; a variant follows the name after a colon. -/
def ofTable (table : List (String × String)) : IconProvider where
  resolve name variant :=
    match variant with
    | some v => Entries.get? table (if v = "" then name else name ++ ":" ++ v)
    | none => Entries.get? table name

/-- A provider that names icons by their capitalized name between a stem and the variant. -/
def ofStem (stem : String) : IconProvider where
  resolve name variant := some (stem ++ pascalCase name ++ variant.getD "")

/-- The icons of Lucide, whose elements are the capitalized names. -/
def lucide : IconProvider where
  resolve name _ :=
    let element := pascalCase (Text.trim name)
    if element = "" then none else some element
  label := some "Lucide"
  importSource := some "lucide-react"

end IconProvider

end ViewDoc
