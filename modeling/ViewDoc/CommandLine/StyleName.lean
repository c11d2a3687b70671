import ViewDoc.Fault
import ViewDoc.Text.Blank
import ViewDoc.Text.Case
import ViewDoc.Text.Digit
import ViewDoc.Text.Split
/-!
Names of styles, and words for colours: names, numbers of a palette, and shares of red, green and
blue. A name that consists of known words has a normal form, in which it does not matter how they are
abbreviated and in what order they stand; any other name is taken in small letters.
-/

set_option autoImplicit false

namespace ViewDoc.CommandLine.Color

/-- The colours that have names. -/
def names : List String :=
  ["black", "red", "green", "yellow", "blue", "magenta", "cyan", "white", "bright_black",
   "bright_red", "bright_green", "bright_yellow", "bright_blue", "bright_magenta", "bright_cyan",
   "bright_white", "grey0", "gray0", "navy_blue", "dark_blue", "blue3", "blue1", "dark_green",
   "deep_sky_blue4", "dodger_blue3", "dodger_blue2", "green4", "spring_green4", "turquoise4",
   "deep_sky_blue3", "dodger_blue1", "green3", "spring_green3", "dark_cyan", "light_sea_green",
   "deep_sky_blue2", "deep_sky_blue1", "spring_green2", "cyan3", "dark_turquoise", "turquoise2",
   "green1", "spring_green1", "medium_spring_green", "cyan2", "cyan1", "dark_red", "deep_pink4",
   "purple4", "purple3", "blue_violet", "orange4", "grey37", "gray37", "medium_purple4",
   "slate_blue3", "royal_blue1", "chartreuse4", "dark_sea_green4", "pale_turquoise4", "steel_blue",
   "steel_blue3", "cornflower_blue", "chartreuse3", "cadet_blue", "sky_blue3", "steel_blue1",
   "pale_green3", "sea_green3", "aquamarine3", "medium_turquoise", "chartreuse2", "sea_green2",
   "sea_green1", "aquamarine1", "dark_slate_gray2", "dark_magenta", "dark_violet", "purple",
   "light_pink4", "plum4", "medium_purple3", "slate_blue1", "yellow4", "wheat4", "grey53", "gray53",
   "light_slate_grey", "light_slate_gray", "medium_purple", "light_slate_blue", "dark_olive_green3",
   "dark_sea_green", "light_sky_blue3", "sky_blue2", "dark_sea_green3", "dark_slate_gray3",
   "sky_blue1", "chartreuse1", "light_green", "pale_green1", "dark_slate_gray1", "red3",
   "medium_violet_red", "magenta3", "dark_orange3", "indian_red", "hot_pink3", "medium_orchid3",
   "medium_orchid", "medium_purple2", "dark_goldenrod", "light_salmon3", "rosy_brown", "grey63",
   "gray63", "medium_purple1", "gold3", "dark_khaki", "navajo_white3", "grey69", "gray69",
   "light_steel_blue3", "light_steel_blue", "yellow3", "dark_sea_green2", "light_cyan3",
   "light_sky_blue1", "green_yellow", "dark_olive_green2", "dark_sea_green1", "pale_turquoise1",
   "deep_pink3", "magenta2", "hot_pink2", "orchid", "medium_orchid1", "orange3", "light_pink3",
   "pink3", "plum3", "violet", "light_goldenrod3", "tan", "misty_rose3", "thistle3", "plum2",
   "khaki3", "light_goldenrod2", "light_yellow3", "grey84", "gray84", "light_steel_blue1",
   "yellow2", "dark_olive_green1", "honeydew2", "light_cyan1", "red1", "deep_pink2", "deep_pink1",
   "magenta1", "orange_red1", "indian_red1", "hot_pink", "dark_orange", "salmon1", "light_coral",
   "pale_violet_red1", "orchid2", "orchid1", "orange1", "sandy_brown", "light_salmon1",
   "light_pink1", "pink1", "plum1", "gold1", "navajo_white1", "misty_rose1", "thistle1", "yellow1",
   "light_goldenrod1", "khaki1", "wheat1", "cornsilk1", "grey100", "gray100", "grey3", "gray3",
   "grey7", "gray7", "grey11", "gray11", "grey15", "gray15", "grey19", "gray19", "grey23", "gray23",
   "grey27", "gray27", "grey30", "gray30", "grey35", "gray35", "grey39", "gray39", "grey42",
   "gray42", "grey46", "gray46", "grey50", "gray50", "grey54", "gray54", "grey58", "gray58",
   "grey62", "gray62", "grey66", "gray66", "grey70", "gray70", "grey74", "gray74", "grey78",
   "gray78", "grey82", "gray82", "grey85", "gray85", "grey89", "gray89", "grey93", "gray93"]

/-- The greatest number of a palette, and the greatest share of a colour. -/
def limit : Nat := 255

/-- The inside of brackets after a word. -/
private def inside? (word : String) (cs : List Char) : Option (List Char) :=
  let start := word.toList ++ ['(']
  if start.isPrefixOf cs && cs.getLast? == some ')' then some ((cs.drop start.length).dropLast)
  else none

private def isHex (c : Char) : Bool :=
  Text.isAsciiDigit c || ('a' ≤ c && c ≤ 'f')

/-- Whether a text is the number of a palette. -/
def isNumber (cs : List Char) : Bool :=
  !cs.isEmpty && cs.length ≤ 3 && cs.all Text.isAsciiDigit &&
    ((Text.numeral? cs).any fun n => n ≤ limit)

/-- Whether a text holds shares of red, green and blue. Three shares must be numbers. -/
def areShares (cs : List Char) : Except Fault Bool :=
  if cs.isEmpty || !cs.all fun c => Text.isDecimal c || c == ',' then .ok false
  else
    let shares := Text.splitWhere (· == ',') cs
    if shares.length ≠ 3 then .ok false
    else do
      let numbers ← shares.mapM fun share =>
        match Text.numeral? share with
        | some n => .ok n
        | none => .error (.numeral (.ofList share))
      return numbers.all (· ≤ limit)

/-- Whether a word is a colour. -/
def isColor (word : String) : Except Fault Bool :=
  let word := Text.lower word
  if word = "default" || names.contains word then .ok true
  else
    match word.toList with
    | '#' :: digits => .ok (digits.length == 6 && digits.all isHex)
    | cs =>
      match inside? "color" cs, inside? "rgb" cs with
      | some number, _ => .ok (isNumber number)
      | none, some shares => areShares shares
      | none, none => .ok false

end ViewDoc.CommandLine.Color

namespace ViewDoc.CommandLine

/-- What the words of a name ask for. -/
structure StyleWords where
  switches : List (String × Bool) := []
  color : Option String := none
  background : Option String := none
  link : Option String := none
  deriving DecidableEq, Repr

namespace StyleWords

/-- The switches, in the order of the normal form. -/
def switchNames : List String :=
  ["bold", "dim", "italic", "underline", "blink", "blink2", "reverse", "conceal", "strike",
    "underline2", "frame", "encircle", "overline"]

/-- The short words for switches. -/
def abbreviations : List (String × String) :=
  [("d", "dim"), ("b", "bold"), ("i", "italic"), ("u", "underline"), ("r", "reverse"),
    ("c", "conceal"), ("s", "strike"), ("uu", "underline2"), ("o", "overline")]

/-- The switch that a word stands for. -/
def switch? (word : String) : Option String :=
  if switchNames.contains word then some word else abbreviations.lookup word

/-- Sets a switch; the latest setting counts. -/
def set (w : StyleWords) (switch : String) (on : Bool) : StyleWords :=
  { w with switches := (switch, on) :: w.switches }

/-- Reads words, unless one of them is not known. -/
def read (w : StyleWords) : List String -> Except Fault (Option StyleWords)
  | [] => .ok (some w)
  | word :: rest =>
    match Text.lower word, rest with
    | "on", color :: rest => do
      if ← Color.isColor color then read { w with background := some (Text.lower color) } rest
      else return none
    | "not", word :: rest =>
      match switch? word with
      | some name => read (w.set name false) rest
      | none => .ok none
    | "link", target :: rest => read { w with link := some target } rest
    | "on", [] | "not", [] | "link", [] => .ok none
    | word, rest =>
      match switch? word with
      | some name => read (w.set name true) rest
      | none => do
        if ← Color.isColor word then read { w with color := some word } rest else return none

/-- The normal form. -/
def text (w : StyleWords) : String :=
  let switches := switchNames.filterMap fun name =>
    (w.switches.lookup name).map fun on => if on then name else "not " ++ name
  let parts := switches ++ w.color.toList ++ (w.background.map fun c => "on " ++ c).toList ++
    (w.link.map fun l => "link " ++ l).toList
  if parts.isEmpty then "none" else " ".intercalate parts

end StyleWords

/-- The words of a text, between its blanks. -/
def blankWords (s : String) : List String :=
  ((Text.splitWhere Text.isBlank s.toList).filter fun cs => !cs.isEmpty).map String.ofList

/-- The form of a name in which names of the same style agree. -/
def styleName (s : String) : Except Fault String :=
  if Text.trim s = "none" then .ok "none"
  else do
    match ← StyleWords.read {} (blankWords s) with
    | some w => return w.text
    | none => return Text.lower (Text.trim s)

end ViewDoc.CommandLine
