import ViewDoc.Proofs.Ref.Met
import ViewDoc.Proofs.Ref.Steps
/-!
Which paths can be read, and which references can be resolved. Reading stops without an answer in two
cases only: at a bracketed position of too many digits, and where a list is met at a name of digits
that write no number. The main statement is that a value is resolved just when every reference that is
met on the way has a path that can be read from where it points, and for which paths this is so
whatever is read.
-/

set_option autoImplicit false

namespace ViewDoc

theorem Fault.exists_mapM_ok_iff {α β : Type} {f : α -> Except Fault β} {l : List α} :
    (∃ bs, l.mapM f = .ok bs) ↔ ∀ a ∈ l, ∃ b, f a = .ok b := by
  constructor
  · rintro ⟨bs, done⟩ a mem
    obtain ⟨b, -, made⟩ := exists_mem_of_mapM_ok done a mem
    exact ⟨b, made⟩
  · intro each
    induction l with
    | nil => exact ⟨[], rfl⟩
    | cons a rest ih =>
      obtain ⟨⟨b, first⟩, later⟩ := List.forall_mem_cons.mp each
      obtain ⟨bs, done⟩ := ih later
      refine ⟨b :: bs, ?_⟩
      rw [List.mapM_cons, first, done]
      rfl

theorem Fault.exists_bind_ok_iff {α β : Type} {x : Except Fault α} {f : α -> Except Fault β} :
    (∃ b, (x >>= f) = .ok b) ↔ ∃ a, x = .ok a ∧ ∃ b, f a = .ok b := by
  cases x with
  | error fault => exact iff_of_false (by rintro ⟨b, ⟨⟩⟩) (by rintro ⟨a, ⟨⟩, -⟩)
  | ok a =>
    constructor
    · exact fun done => ⟨a, rfl, done⟩
    · rintro ⟨_, same, done⟩
      cases same
      exact done

theorem Fault.exists_map_ok_iff {α β : Type} {x : Except Fault α} {f : α -> β} :
    (∃ b, (do return f (← x)) = .ok b) ↔ ∃ a, x = .ok a := by
  rw [exists_bind_ok_iff]
  exact exists_congr fun a => and_iff_left ⟨f a, rfl⟩

namespace Path

/-- Characters write a number that is not too long to be read. -/
def Numeral (cs : List Char) : Prop :=
  cs.length ≤ Text.numeralLimit ∧ cs.all Text.isDecimal = true

/-- A step that can be taken into a list: its name has another character than digits, or writes a
number. -/
def Step.EntersLists : Step -> Prop
  | .index _ => True
  | .key name => Text.isDigits name = true -> Numeral name.toList

/-- A mark that is a step, and one that can be taken into a list. -/
def Mark.Legible : Mark -> Prop
  | .run cs => (Step.key (.ofList cs)).EntersLists
  | .bracketed digits => digits.length ≤ Text.numeralLimit

/-- A path can be read from every value, as far as its text goes. -/
def Legible (path : String) : Prop :=
  ∀ mark ∈ marks path, mark.Legible

/-- What steps lead to, and null where they lead to nothing. -/
def lookup : Value -> List Step -> Value
  | v, [] => v
  | v, s :: rest => lookup ((s.child? v).getD .null) rest

/-- Where steps meet a list, they can be taken into it. -/
def Passable : Value -> List Step -> Prop
  | _, [] => True
  | v, s :: rest =>
    (∀ items, v = .list items -> s.EntersLists) ∧ Passable ((s.child? v).getD .null) rest

/-- A path can be read from a value. -/
structure Readable (v : Value) (path : String) : Prop where
  brackets : ∀ digits, .bracketed digits ∈ marks path -> digits.length ≤ Text.numeralLimit
  passable : ∀ steps, parse path = .ok steps -> Passable v steps

section Steps

variable {v w : Value} {s : Step} {steps : List Step}

theorem exists_position_iff (s : Step) : (∃ p, s.position? = .ok p) ↔ s.EntersLists := by
  cases s with
  | index n => exact iff_of_true ⟨some n, rfl⟩ trivial
  | key name =>
    rw [Step.position?, Step.EntersLists, Numeral]
    split
    · rename_i digits
      rw [← Text.isSome_numeral?_of_isDigits digits]
      cases Text.numeral? name.toList <;> simp [digits]
    · rename_i other
      exact iff_of_true ⟨none, rfl⟩ fun digits => absurd digits other

theorem exists_read_iff (s : Step) (v : Value) :
    (∃ w, s.read v = .ok w) ↔ ∀ items, v = .list items -> s.EntersLists := by
  cases v with
  | list items =>
    have opened : (∀ others, Value.list items = .list others -> s.EntersLists) ↔ s.EntersLists :=
      ⟨fun each => each items rfl, fun enters _ _ => enters⟩
    rw [opened, ← exists_position_iff, Step.read, Fault.exists_bind_ok_iff]
    refine exists_congr fun p => and_iff_left ?_
    cases p <;> exact ⟨_, rfl⟩
  | _ => exact iff_of_true ⟨_, rfl⟩ fun _ other => by cases other

theorem exists_readSteps_iff : (∃ w, readSteps v steps = .ok w) ↔ Passable v steps := by
  induction steps generalizing v with
  | nil => exact iff_of_true ⟨v, rfl⟩ trivial
  | cons s rest ih =>
    rw [readSteps, Fault.exists_bind_ok_iff, Passable, ← exists_read_iff, ← ih]
    constructor
    · rintro ⟨u, taken, done⟩
      rw [← Step.eq_of_read_ok taken]
      exact ⟨⟨u, taken⟩, done⟩
    · rintro ⟨⟨u, taken⟩, done⟩
      rw [← Step.eq_of_read_ok taken] at done
      exact ⟨u, taken, done⟩

theorem eq_lookup_of_readSteps_ok (done : readSteps v steps = .ok w) : w = lookup v steps := by
  induction steps generalizing v with
  | nil => exact (Except.ok.inj done).symm
  | cons s rest ih =>
    obtain ⟨u, taken, done⟩ := Fault.exists_of_bind_ok done
    rw [lookup, ← Step.eq_of_read_ok taken]
    exact ih done

theorem passable_of_forall (enter : ∀ s ∈ steps, s.EntersLists) (v : Value) : Passable v steps := by
  induction steps generalizing v with
  | nil => trivial
  | cons s rest ih =>
    obtain ⟨first, later⟩ := List.forall_mem_cons.mp enter
    exact ⟨fun _ _ => first, ih later _⟩

/-- Objects in one another, with a value where steps lead. -/
def leading : List Step -> Value -> Value
  | [], v => v
  | s :: rest, v => .object [(s.name, leading rest v)]

theorem passable_leading_append_iff {rest : List Step} :
    Passable (leading steps v) (steps ++ rest) ↔ Passable v rest := by
  induction steps with
  | nil => rfl
  | cons s steps ih =>
    have inside : s.child? (leading (s :: steps) v) = some (leading steps v) := by
      simp [leading, Step.child?, Entries.get?]
    rw [List.cons_append, Passable, inside, Option.getD_some, ih]
    exact and_iff_right fun _ other => by cases other

end Steps

section Marks

variable {bracket : Bool} {run cs digits : List Char} {path : String}

/-- A bracket that closes no digits only ends what stands before it. -/
theorem marksFrom_loose (loose : bracket = true -> run = []) :
    marksFrom bracket run (']' :: cs) = marksFrom false run [] ++ marksFrom false [] cs := by
  cases bracket with
  | false => rfl
  | true =>
    obtain rfl := loose rfl
    rfl

theorem bracketed_not_mem_marksFrom_nil : .bracketed digits ∉ marksFrom bracket run [] := by
  rw [marksFrom_nil]
  split <;> simp

/-- The run that ends makes no digits in brackets. -/
theorem bracketed_mem_of_mem_append {ms : List Mark}
    (mem : .bracketed digits ∈ marksFrom false run [] ++ ms) : .bracketed digits ∈ ms :=
  (List.mem_append.mp mem).resolve_left bracketed_not_mem_marksFrom_nil

/-- What stands in brackets is a run of decimal digits. -/
theorem decimal_of_mem_marksFrom (decimal : bracket = true -> run.all Text.isDecimal = true)
    (mem : .bracketed digits ∈ marksFrom bracket run cs) :
    digits ≠ [] ∧ digits.all Text.isDecimal = true := by
  induction cs generalizing bracket run with
  | nil => exact absurd mem bracketed_not_mem_marksFrom_nil
  | cons c rest ih =>
    by_cases plain : isPlain c = true
    · rw [marksFrom_plain plain] at mem
      refine ih (fun digit => ?_) mem
      obtain ⟨opened, digit⟩ := Bool.and_eq_true_iff.mp digit
      rw [List.all_cons, digit, decimal opened, Bool.and_self]
    -- every other character ends the run, and only a closing bracket makes digits of it
    rcases cut_of_not_isPlain plain with rfl | rfl | rfl
    · rw [marksFrom_dot] at mem
      exact ih (fun _ => rfl) (bracketed_mem_of_mem_append mem)
    · rw [marksFrom_open] at mem
      exact ih (fun _ => rfl) (bracketed_mem_of_mem_append mem)
    · by_cases closes : bracket = true ∧ run ≠ []
      · obtain ⟨rfl, something⟩ := closes
        rw [marksFrom_close something, List.mem_cons] at mem
        rcases mem with own | later
        · cases own
          refine ⟨mt List.reverse_eq_nil_iff.mp something, ?_⟩
          rw [List.all_reverse, decimal rfl]
        · exact ih (fun _ => rfl) later
      · rw [marksFrom_loose fun opened => not_not.mp fun some => closes ⟨opened, some⟩] at mem
        exact ih (fun _ => rfl) (bracketed_mem_of_mem_append mem)

theorem exists_step_iff {mark : Mark} (mem : mark ∈ marks path) :
    (∃ s, mark.step = .ok s) ↔
      ∀ digits, mark = .bracketed digits -> digits.length ≤ Text.numeralLimit := by
  cases mark with
  | run cs => exact iff_of_true ⟨_, rfl⟩ fun _ other => by cases other
  | bracketed digits =>
    obtain ⟨something, decimal⟩ := decimal_of_mem_marksFrom (fun _ => rfl) mem
    have written : (Text.numeral? digits).isSome = true ↔ digits.length ≤ Text.numeralLimit := by
      rw [Text.isSome_numeral?_iff]
      exact ⟨fun parts => parts.2.1, fun short => ⟨something, short, decimal⟩⟩
    have own : (∀ others, Mark.bracketed digits = .bracketed others ->
        others.length ≤ Text.numeralLimit) ↔ digits.length ≤ Text.numeralLimit := by
      simp
    rw [own, ← written, Mark.step]
    cases Text.numeral? digits <;> simp

/-- A path is cut into steps unless a bracket holds too many digits. -/
theorem exists_parse_iff : (∃ steps, parse path = .ok steps) ↔
    ∀ digits, .bracketed digits ∈ marks path -> digits.length ≤ Text.numeralLimit := by
  rw [parse, Fault.exists_mapM_ok_iff]
  constructor
  · exact fun each digits mem => (exists_step_iff mem).mp (each _ mem) digits rfl
  · intro short mark mem
    refine (exists_step_iff mem).mpr ?_
    rintro digits rfl
    exact short digits mem

theorem exists_read_path_iff {v : Value} : (∃ w, read v path = .ok w) ↔ Readable v path := by
  rw [read, Fault.exists_bind_ok_iff]
  constructor
  · rintro ⟨steps, parsed, done⟩
    refine ⟨exists_parse_iff.mp ⟨steps, parsed⟩, fun others also => ?_⟩
    obtain rfl : steps = others := Except.ok.inj (parsed.symm.trans also)
    exact exists_readSteps_iff.mp done
  · intro readable
    obtain ⟨steps, parsed⟩ := exists_parse_iff.mpr readable.brackets
    exact ⟨steps, parsed, exists_readSteps_iff.mpr (readable.passable steps parsed)⟩

theorem exists_lookup_of_read_ok {v w : Value} (done : read v path = .ok w) :
    ∃ steps, parse path = .ok steps ∧ w = lookup v steps := by
  obtain ⟨steps, parsed, done⟩ := exists_of_read_ok done
  exact ⟨steps, parsed, eq_lookup_of_readSteps_ok done⟩

theorem Mark.legible_iff {mark : Mark} {s : Step} (made : mark.step = .ok s) :
    mark.Legible ↔ s.EntersLists := by
  cases mark with
  | run cs =>
    obtain rfl := Except.ok.inj made
    rfl
  | bracketed digits =>
    rw [Mark.step] at made
    cases number : Text.numeral? digits with
    | none =>
      rw [number] at made
      cases made
    | some n =>
      rw [number] at made
      obtain rfl := Except.ok.inj made
      have written : (Text.numeral? digits).isSome = true := by rw [number, Option.isSome_some]
      exact iff_of_true ((Text.isSome_numeral?_iff digits).mp written).2.1 trivial

/-- A path that is cut can be read from every value just when each of its steps can be taken into a
list. -/
theorem legible_iff_of_parse_ok {steps : List Step} (parsed : parse path = .ok steps) :
    Legible path ↔ ∀ s ∈ steps, s.EntersLists := by
  have made := Fault.forall₂_of_mapM_ok parsed
  rw [Legible]
  generalize marks path = cut at made ⊢
  clear parsed
  induction made with
  | nil => simp
  | cons own _ ih =>
    rw [List.forall_mem_cons, List.forall_mem_cons]
    exact and_congr (Mark.legible_iff own) ih

/-- No value stands in the way of a path whose steps can be taken into lists, and one stands in the
way of every other path: objects that lead to a list. -/
theorem forall_readable_iff : (∀ v, Readable v path) ↔ Legible path := by
  constructor
  · intro readable
    obtain ⟨steps, parsed⟩ := exists_parse_iff.mpr (readable .null).brackets
    refine (legible_iff_of_parse_ok parsed).mpr fun s mem => ?_
    obtain ⟨before, rest, rfl⟩ := List.append_of_mem mem
    have there : Passable (.list []) (s :: rest) :=
      passable_leading_append_iff.mp ((readable (leading before (.list []))).passable _ parsed)
    exact there.1 [] rfl
  · intro legible v
    have short (digits : List Char) (mem : .bracketed digits ∈ marks path) :
        digits.length ≤ Text.numeralLimit := legible (.bracketed digits) mem
    exact ⟨short, fun steps parsed =>
      passable_of_forall ((legible_iff_of_parse_ok parsed).mp legible) v⟩

end Marks

end Path

namespace Ref

/-- What a reference reads from. -/
def source (ctx : Context) : Ref -> Value
  | .param _ => .object ctx.params
  | .state _ => .object ctx.state
  | .data _ => ctx.data
  | .item _ => ctx.item
  | .index => Value.ofOption (ctx.index.map .int)

/-- The path of a reference can be read from what the reference reads from. -/
def Readable (ctx : Context) (r : Ref) : Prop :=
  ∀ path, r.path? = some path -> Path.Readable (r.source ctx) path

/-- The path of a reference can be read from every value. -/
def Legible (r : Ref) : Prop :=
  ∀ path, r.path? = some path -> Path.Legible path

variable {ctx : Context} {r : Ref}

theorem resolve_eq : r.resolve ctx =
    r.path?.elim (.ok (r.source ctx)) (Path.read (r.source ctx)) := by
  cases r <;> rfl

theorem exists_resolve_iff : (∃ w, r.resolve ctx = .ok w) ↔ r.Readable ctx := by
  rw [resolve_eq, Readable]
  cases r.path? with
  | none => exact iff_of_true ⟨_, rfl⟩ fun _ other => by cases other
  | some path =>
    rw [Option.elim_some, Path.exists_read_path_iff]
    simp

theorem exists_lookup_of_resolve_ok {u : Value} (done : r.resolve ctx = .ok u) :
    ∃ steps, u = Path.lookup (r.source ctx) steps := by
  rw [resolve_eq] at done
  cases own : r.path? with
  | none =>
    rw [own] at done
    exact ⟨[], (Except.ok.inj done).symm⟩
  | some path =>
    rw [own] at done
    obtain ⟨steps, -, found⟩ := Path.exists_lookup_of_read_ok done
    exact ⟨steps, found⟩

theorem Legible.readable (legible : r.Legible) : r.Readable ctx :=
  fun path own => Path.forall_readable_iff.mpr (legible path own) _

end Ref

/-- A reference stands in what the others read from. -/
def Context.Holds (ctx : Context) (r : Ref) : Prop :=
  ∃ q : Ref, ∃ x ∈ (q.source ctx).contents, x.Holds r

namespace Value

/-- A reference is looked up when a value is resolved on a number of levels: it is the value itself,
or stands in what the value is or refers to. -/
inductive Consults (ctx : Context) (r : Ref) : Nat -> Value -> Prop where
  | here {level : Nat} {v : Value} : Ref.ofValue? v = some r -> Consults ctx r (level + 1) v
  | inside {level : Nat} {v u x : Value} : v.resolveOne ctx = .ok u -> Ref.ofValue? u = none ->
      x ∈ u.contents -> Consults ctx r level x -> Consults ctx r (level + 1) v

variable {ctx : Context} {r : Ref} {level : Nat} {u v x : Value}

/-- Where there are only parameters, the references that are met are those that are looked up. -/
theorem meets_iff {params : Entries} :
    Meets params r level v ↔ Consults (.ofParams params) r level v := by
  constructor
  · intro meets
    induction meets with
    | here ref => exact .here ref
    | inside found plain mem _ below => exact .inside found plain mem below
  · intro consults
    induction consults with
    | here ref => exact .here ref
    | inside found plain mem _ below => exact .inside found plain mem below

theorem exists_resolveOne_iff :
    (∃ w, v.resolveOne ctx = .ok w) ↔ ∀ r, Ref.ofValue? v = some r -> r.Readable ctx := by
  rw [resolveOne]
  cases Ref.ofValue? v with
  | none => exact iff_of_true ⟨v, rfl⟩ fun _ other => by cases other
  | some r =>
    rw [Ref.exists_resolve_iff]
    simp

/-- Contents are resolved when each of them is. -/
theorem exists_resolveContents_iff : (∃ w, resolveContents ctx level u = .ok w) ↔
    (Ref.ofValue? u = none -> ∀ x ∈ u.contents, ∃ w, resolveLevels ctx level x = .ok w) := by
  have keyed {κ : Type} {es : List (κ × Value)} :
      (∃ ws, (es.mapM fun e => do return (e.1, ← resolveLevels ctx level e.2)) = .ok ws) ↔
        ∀ x ∈ es.map (·.2), ∃ w, resolveLevels ctx level x = .ok w := by
    rw [Fault.exists_mapM_ok_iff, List.forall_mem_map]
    exact forall₂_congr fun e _ => Fault.exists_map_ok_iff
  cases u with
  | list items =>
    rw [resolveContents, Fault.exists_map_ok_iff, Fault.exists_mapM_ok_iff]
    exact ⟨fun each _ => each, fun each => each rfl⟩
  | object es =>
    rw [resolveContents]
    cases ref : Ref.ofValue? (.object es) with
    | some r => exact iff_of_true ⟨_, rfl⟩ fun plain => by cases plain
    | none =>
      simp only [Option.isSome_none, Bool.false_eq_true, if_false]
      rw [Fault.exists_map_ok_iff, keyed, forall_const]
      rfl
  | mapping es =>
    rw [resolveContents, Fault.exists_map_ok_iff, keyed]
    exact ⟨fun each _ => each, fun each => each rfl⟩
  | _ => exact iff_of_true ⟨_, rfl⟩ fun _ _ mem => absurd mem List.not_mem_nil

theorem exists_resolveLevels_iff : (∃ w, resolveLevels ctx level v = .ok w) ↔
    ∀ r, Consults ctx r level v -> r.Readable ctx := by
  induction level generalizing v with
  | zero => exact iff_of_true ⟨v, rfl⟩ fun _ consults => by cases consults
  | succ level ih =>
    rw [resolveLevels_succ, Fault.exists_bind_ok_iff]
    constructor
    · rintro ⟨u, found, done⟩ r consults
      cases consults with
      | here ref => exact exists_resolveOne_iff.mp ⟨u, found⟩ r ref
      | inside also plain mem below =>
        obtain rfl := Except.ok.inj (found.symm.trans also)
        exact ih.mp (exists_resolveContents_iff.mp done plain _ mem) r below
    · intro readable
      obtain ⟨u, found⟩ := exists_resolveOne_iff.mpr fun r ref => readable r (.here ref)
      refine ⟨u, found, exists_resolveContents_iff.mpr fun plain x mem => ih.mpr fun r below => ?_⟩
      exact readable r (.inside found plain mem below)

/-- What is looked up has no contents but what stood in the contents before. -/
theorem holds_contents_of_lookup {steps : List Path.Step}
    (mem : x ∈ (Path.lookup v steps).contents) (holds : x.Holds r) :
    ∃ y ∈ v.contents, y.Holds r := by
  induction steps generalizing v with
  | nil => exact ⟨x, mem, holds⟩
  | cons s rest ih =>
    obtain ⟨y, among, deeper⟩ := ih mem
    cases stands : s.child? v with
    | none =>
      rw [stands] at among
      cases among
    | some z =>
      rw [stands] at among
      exact ⟨z, mem_contents_of_child? stands, .inside among deeper⟩

/-- Every reference that is looked up stands in the value or in what references read from. -/
theorem Consults.holds (consults : Consults ctx r level v) : v.Holds r ∨ ctx.Holds r := by
  induction consults with
  | here ref => exact .inl (.here ref)
  | @inside level v u x found plain mem _ ih =>
    refine ih.elim (fun holds => ?_) .inr
    rw [resolveOne] at found
    cases ref : Ref.ofValue? v with
    | none =>
      rw [ref] at found
      obtain rfl := Except.ok.inj found
      exact .inl (.inside mem holds)
    | some q =>
      rw [ref] at found
      obtain ⟨steps, rfl⟩ := Ref.exists_lookup_of_resolve_ok found
      exact .inr ⟨q, holds_contents_of_lookup mem holds⟩

/-- A path is read just when its brackets hold no number that is too long and no list is met at a
name of digits that writes none; then what it leads to is read, null where there is nothing. A value
is resolved just when this holds of every reference that is looked up, and so always where all
references have paths that can be read from every value. -/
theorem answers_iff (ctx : Context) (maxDepth : Int) (v : Value) (path : String) :
    ((∃ w, Path.read v path = .ok w) ↔ Path.Readable v path) ∧
      (∀ w, Path.read v path = .ok w ->
        ∃ steps, Path.parse path = .ok steps ∧ w = Path.lookup v steps) ∧
      ((∀ u, ∃ w, Path.read u path = .ok w) ↔ Path.Legible path) ∧
      ((∃ w, v.resolveOne ctx = .ok w) ↔ ∀ r, Ref.ofValue? v = some r -> r.Readable ctx) ∧
      ((∃ w, v.resolve ctx maxDepth = .ok w) ↔
        ∀ r, Consults ctx r (levels maxDepth) v -> r.Readable ctx) ∧
      ((∀ r, v.Holds r ∨ ctx.Holds r -> r.Legible) -> ∃ w, v.resolve ctx maxDepth = .ok w) := by
  refine ⟨Path.exists_read_path_iff, fun w => Path.exists_lookup_of_read_ok, ?_,
    exists_resolveOne_iff, exists_resolveLevels_iff, fun legible => ?_⟩
  · exact (forall_congr' fun u => Path.exists_read_path_iff).trans Path.forall_readable_iff
  · exact exists_resolveLevels_iff.mpr fun r consults => (legible r consults.holds).readable

/-- A superscript two counts as a digit but writes no number, and stops the reading of a list. -/
theorem superscript_unanswered :
    Path.read (.list [.str "x"]) "²" = .error (.numeral "²") ∧
      resolveOne { data := .list [.str "x"] } (Ref.data "²").toValue = .error (.numeral "²") ∧
      resolve { data := .list [.str "x"] } defaultDepth (Ref.data "²").toValue =
        .error (.numeral "²") := by
  decide +kernel

end Value

end ViewDoc
