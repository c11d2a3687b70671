import ViewDoc.Toml.Table
import ViewDoc.Toml.Token
/-!
Settings from the text of a file. A moment has no counterpart among the values of documents; it is
kept by its text as a handler, which no document spells.
-/

set_option autoImplicit false

namespace ViewDoc.Toml

/-- Drops a comment, if one follows, up to the end of its line. -/
def skipComment (cs : List Char) : Except ReadError (List Char) :=
  match cs with
  | '#' :: rest =>
    let inner := rest.takeWhile (· ≠ '\n')
    if inner.any isControl then .error .malformed else .ok (rest.drop inner.length)
  | _ => .ok cs

/-- Drops the gap between the items of a list, with the comments in it. The first argument bounds
their number. -/
def skipGap : Nat -> List Char -> Except ReadError (List Char)
  | 0, cs => .ok cs
  | fuel + 1, cs => do
    let rest := cs.dropWhile isGap
    match rest with
    | '#' :: _ => skipGap fuel (← skipComment rest)
    | _ => return rest

private def gap (cs : List Char) : Except ReadError (List Char) :=
  skipGap (cs.length + 1) cs

private def momentValue (cs rest : List Char) : Value :=
  .handler (.ofList (cs.take (cs.length - rest.length)))

/-- Reads a value that has no parts: a truth value, a moment or a number. -/
def readPlain : Reader Value := fun cs =>
  match after? "true" cs, after? "false" cs with
  | some rest, _ => .ok (.bool true, rest)
  | none, some rest => .ok (.bool false, rest)
  | none, none =>
    match afterMoment? cs with
    | some outcome => outcome.map fun rest => (momentValue cs rest, rest)
    | none =>
      match number? cs with
      | some (.int i, rest) => .ok (.int i, rest)
      | some (.float x, rest) => .ok (.float x, rest)
      | some (.tooLong, _) => .error .longNumeral
      | none => .error .malformed

mutual

/-- Reads a value; the first argument bounds the nesting and the number of parts. -/
def readValue : Nat -> Reader Value
  | 0, _ => .error .malformed
  | fuel + 1, cs =>
    match cs with
    | '"' :: _ | '\'' :: _ => (readString cs).map fun r => (.str r.1, r.2)
    | '[' :: rest => do
      let (items, rest) ← readItems fuel (← gap rest)
      return (.list items, rest)
    | '\x7b' :: rest =>
      match skipSpaces rest with
      | '\x7d' :: rest => .ok (.object [], rest)
      | rest => (readInline fuel {} rest).map fun r => (.object r.1.entries, r.2)
    | _ => readPlain cs

/-- Reads the items of a list up to its closing bracket. -/
def readItems : Nat -> Reader (List Value)
  | 0, _ => .error .malformed
  | fuel + 1, cs =>
    match cs with
    | ']' :: rest => .ok ([], rest)
    | _ => do
      let (v, rest) ← readValue fuel cs
      match ← gap rest with
      | ']' :: rest => return ([v], rest)
      | ',' :: rest =>
        let (vs, rest) ← readItems fuel (← gap rest)
        return (v :: vs, rest)
      | _ => throw .malformed

/-- Reads the members of an inline table up to its closing brace. -/
def readInline : Nat -> Inline -> Reader Inline
  | 0, _, _ => .error .malformed
  | fuel + 1, t, cs => do
    let (key, rest) ← readKey cs
    match rest with
    | '=' :: rest =>
      let (v, rest) ← readValue fuel (skipSpaces rest)
      match t.put? key v with
      | none => throw .malformed
      | some t =>
        match skipSpaces rest with
        | '\x7d' :: rest => return (t, rest)
        | ',' :: rest => readInline fuel t (skipSpaces rest)
        | _ => throw .malformed
    | _ => throw .malformed

end

/-- Reads a statement. -/
def readStatement : Reader Statement := fun cs =>
  match cs with
  | '[' :: '[' :: rest => do
    let (key, rest) ← readKey (skipSpaces rest)
    match rest with
    | ']' :: ']' :: rest => return (.element key, rest)
    | _ => throw .malformed
  | '[' :: rest => do
    let (key, rest) ← readKey (skipSpaces rest)
    match rest with
    | ']' :: rest => return (.table key, rest)
    | _ => throw .malformed
  | _ => do
    let (key, rest) ← readKey cs
    match rest with
    | '=' :: rest =>
      let (v, rest) ← readValue (2 * cs.length + 2) (skipSpaces rest)
      return (.pair key v, rest)
    | _ => throw .malformed

/-- The line break that ends a line, or the end of the text. -/
private def endOfLine : List Char -> Except ReadError (List Char)
  | [] => .ok []
  | '\n' :: rest => .ok rest
  | _ => .error .malformed

/-- Carries out the statements of a text. The first argument bounds the number of its lines. -/
def readLines : Nat -> Building -> List Char -> Except ReadError Building
  | 0, b, _ => .ok b
  | fuel + 1, b, cs =>
    match skipSpaces cs with
    | [] => .ok b
    | '\n' :: rest => readLines fuel b rest
    | '#' :: rest => do readLines fuel b (← endOfLine (← skipComment ('#' :: rest)))
    | cs => do
      let (s, rest) ← readStatement cs
      match b.follow? s with
      | none => throw .malformed
      | some b => readLines fuel b (← endOfLine (← skipComment (skipSpaces rest)))

/-- Line breaks of two characters count as one. -/
private def plainBreaks : List Char -> List Char
  | '\r' :: '\n' :: rest => '\n' :: plainBreaks rest
  | c :: rest => c :: plainBreaks rest
  | [] => []

/-- The settings that a text holds. -/
def read (s : String) : Except ReadError Entries := do
  let cs := plainBreaks s.toList
  return (← readLines (cs.length + 1) {} cs).root

end ViewDoc.Toml
