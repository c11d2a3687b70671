import ViewDoc.Decimal.Style
import ViewDoc.Text.Quoted
import ViewDoc.Value.Basic
/-!
Values as JSON text, on one line or indented, with characters beyond ASCII escaped or as they are.
-/

set_option autoImplicit false

namespace ViewDoc.Json

/-- How JSON is written: which characters are escaped, how numbers are spelled, and by how much
nested lines are indented, if there are lines. -/
structure Layout where
  asciiOnly : Bool
  numbers : Decimal.Style
  indent : Option Nat

/-- One line of ASCII. -/
def Layout.line : Layout := ⟨true, .data, none⟩

/-- One line, with all characters as they are. -/
def Layout.plainLine : Layout := ⟨false, .data, none⟩

/-- Indented by two, in ASCII. -/
def Layout.indented : Layout := ⟨true, .data, some 2⟩

/-- Indented by two, with all characters as they are. -/
def Layout.plainIndented : Layout := ⟨false, .data, some 2⟩

/-- Indented by two, with compact numbers and no spelling of what is not finite. -/
def Layout.interchange : Layout := ⟨false, .compact, some 2⟩

/-- The escape of a code unit. -/
def unitEscape (n : Nat) : List Char :=
  '\\' :: 'u' :: Text.hexDigits 4 n

/-- A character in a JSON string. -/
def escape (asciiOnly : Bool) (c : Char) : List Char :=
  if c == '"' then ['\\', '"']
  else if c == '\\' then ['\\', '\\']
  else if c == '\n' then ['\\', 'n']
  else if c == '\r' then ['\\', 'r']
  else if c == '\t' then ['\\', 't']
  else if c == '\x08' then ['\\', 'b']
  else if c == '\x0c' then ['\\', 'f']
  else if c.toNat < 32 then unitEscape c.toNat
  else if asciiOnly && 126 < c.toNat then
    if c.toNat < 0x10000 then unitEscape c.toNat
    else
      let n := c.toNat - 0x10000
      unitEscape (0xd800 + n / 0x400) ++ unitEscape (0xdc00 + n % 0x400)
  else [c]

/-- A text as a JSON string. -/
def writeText (asciiOnly : Bool) (s : String) : String :=
  .ofList ('"' :: s.toList.flatMap (escape asciiOnly) ++ ['"'])

private def lineBreak (layout : Layout) (level : Nat) : String :=
  match layout.indent with
  | none => ""
  | some width => "\n" ++ .ofList (List.replicate (width * level) ' ')

private def between (layout : Layout) (level : Nat) (opening closing : String)
    (parts : List String) : String :=
  match parts with
  | [] => opening ++ closing
  | parts =>
    let comma := if layout.indent.isSome then "," ++ lineBreak layout (level + 1) else ", "
    opening ++ lineBreak layout (level + 1) ++ comma.intercalate parts ++
      lineBreak layout level ++ closing

/-- The member name that a key becomes. -/
def memberName : Key -> String
  | .null => "null"
  | .bool b => if b then "true" else "false"
  | .int i => Text.ofInt i
  | .float x => Decimal.Style.data.text x
  | .text s | .handler s => s

mutual

/-- The JSON text of a value that stands `level` levels deep. -/
def writeAt (layout : Layout) (level : Nat) : Value -> String
  | .null => "null"
  | .bool b => if b then "true" else "false"
  | .int i => Text.ofInt i
  | .float x => layout.numbers.text x
  | .str s => writeText layout.asciiOnly s
  | .list items => between layout level "[" "]" (writeItems layout (level + 1) items)
  | .object entries => between layout level "\x7b" "\x7d" (writeEntries layout (level + 1) entries)
  | .mapping entries => between layout level "\x7b" "\x7d" (writeKeyed layout (level + 1) entries)
  | .handler name => writeText layout.asciiOnly name

/-- The JSON texts of list items. -/
def writeItems (layout : Layout) (level : Nat) : List Value -> List String
  | [] => []
  | v :: rest => writeAt layout level v :: writeItems layout level rest

/-- The JSON texts of entries. -/
def writeEntries (layout : Layout) (level : Nat) : List (String × Value) -> List String
  | [] => []
  | (k, v) :: rest =>
    (writeText layout.asciiOnly k ++ ": " ++ writeAt layout level v) ::
      writeEntries layout level rest

/-- The JSON texts of entries with keys of any kind. -/
def writeKeyed (layout : Layout) (level : Nat) : List (Key × Value) -> List String
  | [] => []
  | (k, v) :: rest =>
    (writeText layout.asciiOnly (memberName k) ++ ": " ++ writeAt layout level v) ::
      writeKeyed layout level rest

end

/-- The JSON text of a value. -/
def write (layout : Layout) (v : Value) : String :=
  writeAt layout 0 v

mutual

/-- Whether JSON spells a value: every number is finite, and there is no handler. -/
def spells : Value -> Bool
  | .float x => x.isFinite
  | .handler _ => false
  | .list items => spellsAll items
  | .object entries => spellsEntries entries
  | .mapping entries => spellsKeyed entries
  | _ => true

/-- Whether JSON spells every item. -/
def spellsAll : List Value -> Bool
  | [] => true
  | v :: rest => spells v && spellsAll rest

/-- Whether JSON spells the value of every entry. -/
def spellsEntries : List (String × Value) -> Bool
  | [] => true
  | (_, v) :: rest => spells v && spellsEntries rest

/-- The same for entries with keys of any kind. -/
def spellsKeyed : List (Key × Value) -> Bool
  | [] => true
  | (_, v) :: rest => spells v && spellsKeyed rest

end

end ViewDoc.Json
