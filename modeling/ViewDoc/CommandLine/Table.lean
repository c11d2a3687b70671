import ViewDoc.CommandLine.Styled
import ViewDoc.Text.Width
/-!
Tables of texts under a title. The columns are as wide as their texts; a text of several lines makes
several rows, and the title is broken into lines that are no wider than the table.
-/

set_option autoImplicit false

namespace ViewDoc.CommandLine

/-- A table. -/
structure Table where
  title : String
  header : List String
  rows : List (List String)
  deriving DecidableEq, Repr

/-- The words of a text, each with the blanks around it that no earlier word has. The first argument
bounds their number. -/
def wordsOf : Nat -> List Char -> List (List Char)
  | 0, _ => []
  | fuel + 1, cs =>
    let before := cs.takeWhile Text.isBlank
    let word := (cs.drop before.length).takeWhile fun c => !Text.isBlank c
    let rest := cs.drop (before.length + word.length)
    let after := rest.takeWhile Text.isBlank
    if word.isEmpty then []
    else (before ++ word ++ after) :: wordsOf fuel (rest.drop after.length)

/-- The pieces of at most so many cells. `size` tells how many the piece so far, which is kept in
reverse, takes. -/
def piecesFrom (limit : Nat) (piece : List Char) (size : Nat) : List Char -> List (List Char)
  | [] => [piece.reverse]
  | c :: rest =>
    if limit < size + Text.cells c then
      piece.reverse :: piecesFrom limit [c] (Text.cells c) rest
    else piecesFrom limit (c :: piece) (size + Text.cells c) rest

/-- Lines that are being filled: those that are done and the last one, all in reverse, and the number
of cells that the last one takes. -/
structure Filling where
  done : List (List Char) := []
  last : List Char := []
  size : Nat := 0
  deriving DecidableEq, Repr

namespace Filling

/-- Puts a text at the end of the last line. -/
def append (f : Filling) (cs : List Char) : Filling :=
  { f with last := cs.reverse ++ f.last, size := f.size + Text.width cs }

/-- Puts a text on a line of its own. -/
def line (f : Filling) (cs : List Char) : Filling :=
  { done := f.last :: f.done, last := cs.reverse, size := Text.width cs }

/-- Puts a word at the end of the last line, or on the next one if it does not fit. A word that fits
on no line is folded, if that is wanted. -/
def add (fold : Bool) (limit : Nat) (f : Filling) (word : List Char) : Filling :=
  let size := Text.width (word.reverse.dropWhile Text.isBlank)
  let isFirst := f.done.isEmpty && f.last.isEmpty
  let next (f : Filling) (cs : List Char) : Filling := if isFirst then f.append cs else f.line cs
  if f.size + size ≤ limit then f.append word
  else if limit < size then
    if fold then
      match piecesFrom limit [] 0 word with
      | piece :: pieces => pieces.foldl line (next f piece)
      | [] => f
    else next f word
  else if f.size = 0 || isFirst then { f with last := word.reverse ++ f.last }
  else f.line word

/-- The lines in order. -/
def lines (f : Filling) : List (List Char) :=
  (f.last :: f.done).reverse.map List.reverse

end Filling

/-- A text that is too wide, cut to a number of cells by halving the range where its end may be; half
of a wide character becomes a blank. The first argument bounds the number of steps. -/
def cutBetween (cs : List Char) (limit : Nat) : Nat -> Nat -> Nat -> List Char
  | 0, first, _ => cs.take first
  | fuel + 1, first, last =>
    let middle := (first + last) / 2
    let piece := cs.take (middle + 1)
    let size := Text.width piece
    if size = limit + 1 && (piece.getLast?.map Text.cells) == some 2 then piece.dropLast ++ [' ']
    else if size = limit then piece
    else if limit < size then cutBetween cs limit fuel first middle
    else cutBetween cs limit fuel middle last

/-- The mark of a text that was cut. -/
def cutMark : Char := '\u2026'

/-- A line that fits into a number of cells, marked where it had to be cut. Blanks at its end that go
beyond so many characters are dropped before. -/
def fitted (limit : Nat) (cs : List Char) : List Char :=
  let blanks := (cs.reverse.takeWhile Text.isBlank).length
  let kept := cs.take (cs.length - min blanks (cs.length - limit))
  if Text.width kept ≤ limit then kept
  else if limit ≤ 1 then [cutMark]
  else cutBetween kept (limit - 1) (kept.length + 1) 0 kept.length ++ [cutMark]

/-- The lines of a text, each broken into lines that are no wider than a given width. -/
def brokenLines (fold : Bool) (limit : Nat) (s : String) : List (List Char) :=
  (Text.split '\n' s).flatMap fun line =>
    let cs := Text.expandTabs line.toList
    ((wordsOf (cs.length + 1) cs).foldl (Filling.add fold limit) {}).lines

/-- The lines of a text whose words are folded where they do not fit, without the blanks around
them. -/
def foldedLines (limit : Nat) (s : String) : List String :=
  (brokenLines true limit s).map fun cs => Text.trim (.ofList cs)

/-- The lines of a text whose words are cut where they do not fit, without the blanks around them. -/
def cutLines (limit : Nat) (s : String) : List String :=
  (brokenLines false limit s).map fun cs => Text.trim (.ofList (fitted limit cs))

/-- A character at which a line ends for the sake of measuring. -/
def endsLine (c : Char) : Bool :=
  (10 ≤ c.toNat && c.toNat ≤ 13) || (28 ≤ c.toNat && c.toNat ≤ 30) || c.toNat = 133 ||
    c.toNat = 8232 || c.toNat = 8233

/-- The width of the widest line of a text. -/
def measure (s : String) : Nat :=
  ((Text.splitWhere endsLine s.toList).map Text.width).foldl max 0

namespace Table

/-- The cells of each column, from top to bottom. -/
def columns (t : Table) : List (List String) :=
  (List.range t.header.length).map fun i => t.rows.filterMap (·[i]?)

/-- A table with the shown texts of all cells. The columns are read one after the other and the title
last, so that the first fault in this order is the one that is told. -/
def shown (t : Table) : Except Fault Table := do
  let columns ← t.columns.mapM fun cells => cells.mapM shownText
  let title ← shownText t.title
  return { t with title, rows := (List.range t.rows.length).map fun i => columns.filterMap (·[i]?) }

/-- The widths of the columns. -/
def columnWidths (t : Table) : List Nat :=
  t.rows.foldl (fun widths row => widths.zipWith (fun w c => max w (measure c)) row)
    (t.header.map measure)

private def splitRow (widths : List Nat) (row : List String) : List (List String) :=
  let cells := widths.zipWith cutLines row
  let height := (cells.map List.length).foldl max 1
  (List.range height).map fun i => cells.map fun lines => (lines[i]?).getD ""

/-- The rows of single lines. -/
def lineRows (t : Table) : List (List String) :=
  t.rows.flatMap (splitRow t.columnWidths)

/-- The width of the table: its columns have a blank on both sides, and lines around them. -/
def width (t : Table) : Nat :=
  t.columnWidths.foldl (fun n w => n + w + 2) 0 + t.header.length + 1

/-- The lines of the title. -/
def titleLines (t : Table) : List String :=
  foldedLines t.width t.title

private def lineOf (widths : List Nat) (row : List String) : String :=
  "| " ++ " | ".intercalate (widths.zipWith
    (fun w c => c ++ .ofList (List.replicate (w - Text.width c.toList) ' ')) row) ++ " |"

/-- A table as text. -/
def text (t : Table) : String :=
  let rule := .ofList (List.replicate t.width '-')
  "\n".intercalate (t.titleLines ++ [lineOf t.columnWidths t.header, rule] ++
    t.lineRows.map (lineOf t.columnWidths))

end Table

end ViewDoc.CommandLine
