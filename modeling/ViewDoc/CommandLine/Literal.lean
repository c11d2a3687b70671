import ViewDoc.Text.Letter
import ViewDoc.Text.Split
/-!
Literals, which the actions of styled texts have as their arguments: numbers, quoted texts, names of
constants, and groups of these in round brackets and braces. Blanks may stand anywhere between them,
and line breaks within brackets.
-/

set_option autoImplicit false

namespace ViewDoc.CommandLine.Literal

/-- What a literal is, as far as others may be made of it. A frozen one may be a key. -/
inductive Kind where
  | real
  | imaginary
  | signed (imaginary : Bool)
  | other (frozen : Bool)
  deriving DecidableEq, Repr

/-- A literal that was read, and the text after it. -/
abbrev Found := Option (Kind × List Char)

/-- Whether a literal may be a key. -/
def Kind.isFrozen : Kind -> Bool
  | .other frozen => frozen
  | _ => true

/-- Drops a note up to the end of its line. -/
private def dropNote (cs : List Char) : List Char :=
  if cs.head? == some '#' then cs.dropWhile (· != '\n') else cs

/-- Drops blanks, line breaks after a backslash, and within brackets all line breaks and notes. The
first argument bounds the number of lines. -/
def dropBlanks : Nat -> Bool -> List Char -> List Char
  | 0, _, cs => cs
  | fuel + 1, inBrackets, cs =>
    let rest := cs.dropWhile fun c => c == ' ' || c == '\t' || (inBrackets && c == '\n')
    match rest with
    | '#' :: _ => if inBrackets then dropBlanks fuel inBrackets (dropNote rest) else rest
    | '\\' :: '\n' :: c :: next => dropBlanks fuel inBrackets (c :: next)
    | _ => rest

private def skip (inBrackets : Bool) (cs : List Char) : List Char :=
  dropBlanks (cs.length + 1) inBrackets cs

/-- Digits of a class, with single low lines between them, and the text after them. -/
private def takeDigits (isDigit : Char -> Bool) (cs : List Char) : List Char × List Char :=
  let run := cs.takeWhile fun c => isDigit c || c == '_'
  if run.head? == some '_' || run.getLast? == some '_' || Text.hasPart ['_', '_'] run then ([], cs)
  else (run.filter (· != '_'), cs.drop run.length)

private def isHexDigit (c : Char) : Bool :=
  Text.isAsciiDigit c || ('a' ≤ c.toLower && c.toLower ≤ 'f')

/-- An exponent, or nothing. -/
private def dropExponent (cs : List Char) : Bool × List Char :=
  match cs with
  | c :: rest =>
    if c == 'e' || c == 'E' then
      let digits := match rest with
        | '+' :: digits | '-' :: digits => digits
        | digits => digits
      let found := takeDigits Text.isAsciiDigit digits
      if found.1.isEmpty then (false, cs) else (true, found.2)
    else (false, cs)
  | [] => (false, [])

/-- The end of a number: no letter follows it but that of an imaginary one. -/
private def ended (whole : Bool) (digits rest : List Char) : Found :=
  let imaginary := rest.head?.any fun c => c == 'j' || c == 'J'
  let after := if imaginary then rest.drop 1 else rest
  if after.head?.any fun c => Text.isWordChar c || c == '.' then none
  else if imaginary then some (.imaginary, after)
  else if whole && digits.head? == some '0' && digits.any (· != '0') then none
  else some (.real, after)

/-- Reads a decimal number. -/
private def decimal (cs : List Char) : Found :=
  let whole := takeDigits Text.isAsciiDigit cs
  let fraction := match whole.2 with
    | '.' :: rest => some (takeDigits Text.isAsciiDigit rest)
    | _ => none
  match fraction with
  | none =>
    if whole.1.isEmpty then none
    else
      let exponent := dropExponent whole.2
      ended (!exponent.1) whole.1 exponent.2
  | some found =>
    if whole.1.isEmpty && found.1.isEmpty then none
    else ended false whole.1 (dropExponent found.2).2

/-- Reads a number. -/
def number (cs : List Char) : Found :=
  let inBase (isDigit : Char -> Bool) (rest : List Char) : Found :=
    let found := takeDigits isDigit (if rest.head? == some '_' then rest.drop 1 else rest)
    if found.1.isEmpty || found.2.head?.any fun c => Text.isWordChar c || c == '.' then none
    else some (.real, found.2)
  match cs with
  | '0' :: 'x' :: rest | '0' :: 'X' :: rest => inBase isHexDigit rest
  | '0' :: 'o' :: rest | '0' :: 'O' :: rest => inBase (fun c => '0' ≤ c && c ≤ '7') rest
  | '0' :: 'b' :: rest | '0' :: 'B' :: rest => inBase (fun c => c == '0' || c == '1') rest
  | cs => decimal cs

/-- How the inside of quotes is read. -/
structure QuoteStyle where
  bytes : Bool := false
  raw : Bool := false
  deriving DecidableEq, Repr

/-- The marks before quotes. -/
def quoteStyle? (mark : List Char) : Option QuoteStyle :=
  match mark.map Char.toLower with
  | [] | ['u'] => some {}
  | ['r'] => some { raw := true }
  | ['b'] => some { bytes := true }
  | ['b', 'r'] | ['r', 'b'] => some { bytes := true, raw := true }
  | _ => none

private def escapeDigits (style : QuoteStyle) (c : Char) : Nat :=
  if style.raw then 0
  else if c == 'x' then 2
  else if style.bytes then 0
  else if c == 'u' then 4
  else if c == 'U' then 8
  else 0

private def isScalar (cs : List Char) : Bool :=
  (cs.foldl (fun n c =>
    16 * n + (if Text.isAsciiDigit c then c.toNat - 48 else c.toLower.toNat - 87)) 0) ≤ 0x10ffff

/-- Reads the inside of quotes up to the closing ones. The first argument bounds its length. -/
def quotedRest (style : QuoteStyle) (closing : List Char) : Nat -> List Char -> Option (List Char)
  | 0, _ => none
  | _, [] => none
  | fuel + 1, c :: cs =>
    if closing.isPrefixOf (c :: cs) then some ((c :: cs).drop closing.length)
    else if c == '\n' && closing.length == 1 then none
    else if style.bytes && 127 < c.toNat then none
    else if c == '\\' then
      match cs with
      | [] => none
      | d :: rest =>
        let digits := escapeDigits style d
        let found := rest.take digits
        if found.length == digits && found.all isHexDigit && isScalar found &&
            (style.raw || style.bytes || d != 'N') then
          quotedRest style closing fuel (rest.drop digits)
        else none
    else quotedRest style closing fuel cs

/-- Reads one quoted text. -/
def quoted (cs : List Char) : Option (QuoteStyle × List Char) := do
  let mark := cs.takeWhile Text.isAsciiLetter
  let style ← quoteStyle? mark
  match cs.drop mark.length with
  | a :: b :: c :: rest =>
    if a == '"' || a == '\'' then
      if a == b && b == c then
        (quotedRest style [a, a, a] (rest.length + 1) rest).map fun r => (style, r)
      else (quotedRest style [a] (rest.length + 3) (b :: c :: rest)).map fun r => (style, r)
    else none
  | [a, b] => if a == b && (a == '"' || a == '\'') then some (style, []) else none
  | _ => none

/-- Reads quoted texts side by side, all of which are bytes or none. The first argument bounds their
number. -/
def quotedRun (bytes inBrackets : Bool) : Nat -> List Char -> Found
  | 0, _ => none
  | fuel + 1, cs =>
    let next := skip inBrackets cs
    let mark := next.takeWhile Text.isAsciiLetter
    if (next.drop mark.length).head?.any fun c => c == '"' || c == '\'' then
      match quoted next with
      | some (style, rest) =>
        if style.bytes == bytes then quotedRun bytes inBrackets fuel rest else none
      | none => none
    else some (.other true, cs)

/-- Reads a name of a constant, or the empty set. -/
private def named (inBrackets : Bool) (cs : List Char) : Found :=
  let word := cs.takeWhile Text.isWordChar
  let rest := cs.drop word.length
  match String.ofList word with
  | "True" | "False" | "None" => some (.other true, rest)
  | "set" =>
    match skip inBrackets rest with
    | '(' :: inner =>
      match skip true inner with
      | ')' :: after => some (.other false, after)
      | _ => none
    | _ => none
  | _ => none

private def joined (frozen : Bool) (found : Found) : Found :=
  found.map fun r => (.other (frozen && r.1.isFrozen), r.2)

mutual

/-- Reads a literal without a sign. The first argument bounds its nesting and length. -/
def atom : Nat -> Bool -> List Char -> Found
  | 0, _, _ => none
  | fuel + 1, inBrackets, cs =>
    match cs with
    | '(' :: inner =>
      match skip true inner with
      | ')' :: after => some (.other true, after)
      | inner =>
        match item fuel true inner with
        | none => none
        | some (kind, rest) =>
          match skip true rest with
          | ')' :: after => some (kind, after)
          | ',' :: more => joined kind.isFrozen (items fuel ')' more)
          | _ => none
    | '{' :: inner => braces fuel (skip true inner)
    | '.' :: '.' :: '.' :: rest => some (.other true, rest)
    | c :: _ =>
      if Text.isAsciiDigit c || c == '.' then number cs
      else
        match quoted cs with
        | some (style, rest) => quotedRun style.bytes inBrackets (rest.length + 1) rest
        | none => named inBrackets cs
    | [] => none

/-- Reads a literal, perhaps with a sign, or the sum of a real and an imaginary number. -/
def item : Nat -> Bool -> List Char -> Found
  | 0, _, _ => none
  | fuel + 1, inBrackets, cs =>
    let isSign (c : Char) : Bool := c == '+' || c == '-'
    let start := skip inBrackets cs
    let signed := start.head?.any isSign
    match atom fuel inBrackets (if signed then skip inBrackets (start.drop 1) else start) with
    | none => none
    | some (kind, rest) =>
      let first : Option Kind :=
        if !signed then some kind
        else match kind with
          | .real => some (.signed false)
          | .imaginary => some (.signed true)
          | _ => none
      match first, skip inBrackets rest with
      | none, _ => none
      | some k, c :: more =>
        if isSign c then
          if k == .real || k == .signed false then
            match atom fuel inBrackets (skip inBrackets more) with
            | some (.imaginary, rest) =>
              if (skip inBrackets rest).head?.any isSign then none else some (.other true, rest)
            | _ => none
          else none
        else some (k, rest)
      | some k, [] => some (k, rest)

/-- Reads the further items of a group up to the closing bracket. -/
def items : Nat -> Char -> List Char -> Found
  | 0, _, _ => none
  | fuel + 1, closing, cs =>
    match skip true cs with
    | [] => none
    | c :: rest =>
      if c == closing then some (.other true, rest)
      else
        match item fuel true (c :: rest) with
        | none => none
        | some (kind, rest) =>
          match skip true rest with
          | ',' :: more => joined kind.isFrozen (items fuel closing more)
          | d :: after => if d == closing then some (.other kind.isFrozen, after) else none
          | [] => none

/-- Reads what stands in braces: entries with keys that are frozen, or frozen items. -/
def braces : Nat -> List Char -> Found
  | 0, _ => none
  | _ + 1, '}' :: after => some (.other false, after)
  | fuel + 1, cs =>
    match item fuel true cs with
    | none => none
    | some (kind, rest) =>
      if !kind.isFrozen then none
      else
        match skip true rest with
        | ':' :: more =>
          match item fuel true more with
          | none => none
          | some (_, rest) =>
            match skip true rest with
            | '}' :: after => some (.other false, after)
            | ',' :: more => entries fuel more
            | _ => none
        | '}' :: after => some (.other false, after)
        | ',' :: more =>
          match items fuel '}' more with
          | some (.other true, after) => some (.other false, after)
          | _ => none
        | _ => none

/-- Reads the further entries up to the closing brace. -/
def entries : Nat -> List Char -> Found
  | 0, _ => none
  | fuel + 1, cs =>
    match skip true cs with
    | '}' :: after => some (.other false, after)
    | cs =>
      match item fuel true cs with
      | none => none
      | some (kind, rest) =>
        match kind.isFrozen, skip true rest with
        | true, ':' :: more =>
          match item fuel true more with
          | none => none
          | some (_, rest) =>
            match skip true rest with
            | '}' :: after => some (.other false, after)
            | ',' :: more => entries fuel more
            | _ => none
        | _, _ => none

end

/-- Reads items without brackets around them up to the end of the text, where empty lines and notes
may stand. -/
def openItems : Nat -> List Char -> Bool
  | 0, _ => false
  | fuel + 1, cs =>
    match item (2 * cs.length + 2) false cs with
    | none => false
    | some (_, rest) =>
      match skip false rest with
      | ',' :: more => (skip true more).isEmpty || openItems fuel more
      | rest => (skip true rest).isEmpty

/-- Drops the lines before the first item. The first argument bounds their number. -/
def dropEmptyLines : Nat -> List Char -> List Char
  | 0, cs => cs
  | fuel + 1, cs =>
    match cs.dropWhile fun c => c == ' ' || c == '\t' with
    | '\n' :: next | '\\' :: '\n' :: next => dropEmptyLines fuel next
    | '#' :: note => dropEmptyLines fuel (note.dropWhile (· != '\n'))
    | _ => cs

/-- Whether a text is a literal, or several of them with commas between, on a line that starts
without blanks. -/
def isLiteral (cs : List Char) : Bool :=
  let cs := dropEmptyLines (2 * cs.length + 1) cs
  !(cs.head?.any fun c => c == ' ' || c == '\t') && openItems (cs.length + 1) cs

end ViewDoc.CommandLine.Literal
