import ViewDoc.Proofs.Canonical.Place
import ViewDoc.Ref.Path
/-!
How paths are cut into steps: a run of characters, a dot, a bracket with digits, and the end have
one lemma each. The main statements are that a name without marks is one step, that a dot cuts a path
in two, so that reading at both parts is reading at one part after the other, and that the path of a
position is cut into its way through the children.
-/

set_option autoImplicit false

namespace ViewDoc.Path

/-- A character that neither ends a step nor opens one. -/
def isPlain (c : Char) : Bool :=
  c != '.' && c != '[' && c != ']'

/-- A text that a path reads as one name. -/
def IsName (w : String) : Prop :=
  w ≠ "" ∧ ∀ c ∈ w.toList, isPlain c = true

instance (w : String) : Decidable (IsName w) :=
  decidable_of_iff (w ≠ "" ∧ w.toList.all isPlain = true) (by rw [IsName, List.all_eq_true])

/-- Every other character marks something. -/
theorem cut_of_not_isPlain {c : Char} (cut : ¬ isPlain c = true) : c = '.' ∨ c = '[' ∨ c = ']' := by
  simpa [isPlain, Decidable.or_iff_not_imp_left] using cut

theorem isPlain_of_isDigit {c : Char} (digit : c.isDigit = true) : isPlain c = true := by
  simp only [isPlain, Bool.and_eq_true, bne_iff_ne]
  refine ⟨⟨?_, ?_⟩, ?_⟩ <;> rintro rfl <;> cases digit

section Marks

variable {bracket : Bool} {run cs rest : List Char} {c : Char}

theorem marksFrom_nil : marksFrom bracket run [] = if run.isEmpty then [] else [.run run.reverse] :=
  rfl

theorem marksFrom_plain (plain : isPlain c = true) :
    marksFrom bracket run (c :: rest) = marksFrom (bracket && Text.isDecimal c) (c :: run) rest := by
  simp only [isPlain, Bool.and_eq_true, bne_iff_ne] at plain
  obtain ⟨⟨dot, opening⟩, closing⟩ := plain
  rw [marksFrom]
  simp [dot, opening, closing]

/-- What is cut from here on starts with the run before it, unless that is empty. -/
theorem marksFrom_dot :
    marksFrom bracket run ('.' :: rest) = marksFrom false run [] ++ marksFrom false [] rest :=
  rfl

theorem marksFrom_open :
    marksFrom bracket run ('[' :: rest) = marksFrom false run [] ++ marksFrom true [] rest :=
  rfl

theorem marksFrom_close (digits : run ≠ []) :
    marksFrom true run (']' :: rest) = .bracketed run.reverse :: marksFrom false [] rest := by
  have something : run.isEmpty = false := by simpa using digits
  rw [marksFrom]
  simp [something]

theorem marksFrom_run (plain : ∀ c ∈ cs, isPlain c = true) :
    marksFrom false run (cs ++ rest) = marksFrom false (cs.reverse ++ run) rest := by
  induction cs generalizing run with
  | nil => rfl
  | cons c cs ih =>
    have first : isPlain c = true := plain c List.mem_cons_self
    have later : ∀ d ∈ cs, isPlain d = true := fun d mem => plain d (List.mem_cons_of_mem c mem)
    rw [List.cons_append, marksFrom_plain first, Bool.false_and, ih later, List.reverse_cons,
      List.append_assoc, List.singleton_append]

theorem marksFrom_digits (digits : ∀ c ∈ cs, c.isDigit = true) :
    marksFrom true run (cs ++ rest) = marksFrom true (cs.reverse ++ run) rest := by
  induction cs generalizing run with
  | nil => rfl
  | cons c cs ih =>
    have first : c.isDigit = true := digits c List.mem_cons_self
    have later : ∀ d ∈ cs, d.isDigit = true := fun d mem => digits d (List.mem_cons_of_mem c mem)
    rw [List.cons_append, marksFrom_plain (isPlain_of_isDigit first),
      Text.isDecimal_of_isDigit first, Bool.and_self, ih later, List.reverse_cons,
      List.append_assoc, List.singleton_append]

end Marks

theorem marks_of_isName {w : String} (name : IsName w) : marks w = [.run w.toList] := by
  have written : w.toList ≠ [] := by simpa using name.1
  have cut : marksFrom false [] (w.toList ++ []) = marksFrom false (w.toList.reverse ++ []) [] :=
    marksFrom_run name.2
  rw [List.append_nil, List.append_nil] at cut
  rw [marks, cut, marksFrom_nil]
  simp [written]

/-- A name is read as one step. -/
theorem parse_of_isName {w : String} (name : IsName w) : parse w = .ok [.key w] := by
  rw [parse, marks_of_isName name]
  simp [Mark.step, bind, Except.bind, pure, Except.pure]

/-- A computation only stops at digits that write no number. -/
def Numeric {α : Type} (x : Except Fault α) : Prop :=
  ∀ fault, x = .error fault -> ∃ digits, fault = .numeral digits

/-- Two computations end alike: with the same value, or both at digits that write no number. -/
inductive EndAlike {α : Type} : Except Fault α -> Except Fault α -> Prop where
  | value (a : α) : EndAlike (.ok a) (.ok a)
  | numeral (digits others : String) :
      EndAlike (.error (.numeral digits)) (.error (.numeral others))

namespace Numeric

variable {α β : Type} {x y : Except Fault α}

theorem ok (a : α) : Numeric (.ok a : Except Fault α) :=
  nofun

theorem numeral (digits : String) : Numeric (.error (.numeral digits) : Except Fault α) := by
  intro fault same
  exact ⟨digits, (Except.error.inj same).symm⟩

theorem bind {f : α -> Except Fault β} (first : Numeric x) (next : ∀ a, Numeric (f a)) :
    Numeric (x >>= f) := by
  cases x with
  | error fault =>
    obtain ⟨digits, rfl⟩ := first fault rfl
    exact numeral digits
  | ok a => exact next a

theorem mapM {f : α -> Except Fault β} (each : ∀ a, Numeric (f a)) (l : List α) :
    Numeric (l.mapM f) := by
  induction l with
  | nil => exact ok []
  | cons a rest ih =>
    rw [List.mapM_cons]
    exact bind (each a) fun b => bind ih fun bs => ok (b :: bs)

/-- Computations with the same values end alike. -/
theorem endAlike (left : Numeric x) (right : Numeric y) (same : ∀ a, x = .ok a ↔ y = .ok a) :
    EndAlike x y := by
  cases x with
  | ok a =>
    rw [(same a).mp rfl]
    exact .value a
  | error fault =>
    obtain ⟨digits, rfl⟩ := left fault rfl
    cases y with
    | ok a => cases (same a).mpr rfl
    | error other =>
      obtain ⟨others, rfl⟩ := right other rfl
      exact .numeral digits others

end Numeric

theorem numeric_parse (path : String) : Numeric (parse path) := by
  refine Numeric.mapM (fun mark => ?_) (marks path)
  cases mark with
  | run cs => exact Numeric.ok _
  | bracketed digits =>
    rw [Mark.step]
    split
    · exact Numeric.ok _
    · exact Numeric.numeral _

theorem numeric_position? (s : Step) : Numeric s.position? := by
  cases s with
  | index n => exact Numeric.ok _
  | key name =>
    rw [Step.position?]
    split
    · split
      · exact Numeric.ok _
      · exact Numeric.numeral _
    · exact Numeric.ok _

theorem numeric_readSteps (v : Value) (steps : List Step) : Numeric (readSteps v steps) := by
  induction steps generalizing v with
  | nil => exact Numeric.ok v
  | cons s rest ih =>
    refine Numeric.bind ?_ ih
    cases v with
    | list items =>
      refine Numeric.bind (numeric_position? s) fun n => ?_
      cases n <;> exact Numeric.ok _
    | _ => exact Numeric.ok _

theorem numeric_read (v : Value) (path : String) : Numeric (read v path) :=
  Numeric.bind (numeric_parse path) (numeric_readSteps v)

/-- Which marks a character completes, and what is kept of the run, does not hang on what follows. -/
theorem exists_marksFrom_cons (bracket : Bool) (run : List Char) (c : Char) :
    ∃ done bracket' run', ∀ rest,
      marksFrom bracket run (c :: rest) = done ++ marksFrom bracket' run' rest := by
  by_cases plain : isPlain c = true
  · exact ⟨[], _, _, fun rest => marksFrom_plain plain⟩
  · rcases cut_of_not_isPlain plain with rfl | rfl | rfl <;> exact ⟨_, _, _, fun rest => rfl⟩

/-- A dot completes the run before it, and starts what follows afresh. -/
theorem marksFrom_append_dot (bracket : Bool) (run cs rest : List Char) :
    marksFrom bracket run (cs ++ '.' :: rest) =
      marksFrom bracket run cs ++ marksFrom false [] rest := by
  induction cs generalizing bracket run with
  | nil => rfl
  | cons c cs ih =>
    obtain ⟨done, bracket', run', step⟩ := exists_marksFrom_cons bracket run c
    rw [List.cons_append, step, step, ih, List.append_assoc]

theorem marks_append_dot (p q : String) : marks (p ++ "." ++ q) = marks p ++ marks q := by
  have spelled : (p ++ "." ++ q).toList = p.toList ++ '.' :: q.toList := by simp
  rw [marks, spelled, marksFrom_append_dot]
  rfl

theorem parse_append_dot (p q : String) :
    parse (p ++ "." ++ q) = (do return (← parse p) ++ (← parse q)) := by
  rw [parse, marks_append_dot, List.mapM_append]
  rfl

theorem readSteps_append (v : Value) (steps more : List Step) :
    readSteps v (steps ++ more) = readSteps v steps >>= fun w => readSteps w more := by
  induction steps generalizing v with
  | nil => rfl
  | cons s rest ih =>
    rw [List.cons_append, readSteps, readSteps]
    cases s.read v with
    | error fault => rfl
    | ok w => exact ih w

/-- Both parts of a path are cut before anything is read. -/
theorem read_append_dot (v : Value) (p q : String) :
    read v (p ++ "." ++ q) = (do
      let steps ← parse p
      let more ← parse q
      readSteps (← readSteps v steps) more) := by
  rw [read, parse_append_dot]
  cases parse p with
  | error fault => rfl
  | ok steps =>
    cases parse q with
    | error fault => rfl
    | ok more => exact readSteps_append v steps more

/-- A path with a dot in it is cut into the steps before the dot, followed by those behind it. Reading
there ends as reading at the first part ends, and then, from what is found, at the second: with the
same value, or at digits that write no number. -/
theorem read_dotted (p q : String) :
    parse (p ++ "." ++ q) = (do return (← parse p) ++ (← parse q)) ∧
      ∀ v, EndAlike (read v (p ++ "." ++ q)) (read v p >>= fun w => read w q) := by
  refine ⟨parse_append_dot p q, fun v => ?_⟩
  have whole : Numeric (read v (p ++ "." ++ q)) := numeric_read v _
  have parts : Numeric (read v p >>= fun w => read w q) :=
    Numeric.bind (numeric_read v p) fun w => numeric_read w q
  refine Numeric.endAlike whole parts fun w => ?_
  rw [read_append_dot, read]
  cases parse p with
  | error fault => rfl
  | ok steps =>
    cases behind : parse q with
    | ok more =>
      have later (u : Value) : read u q = readSteps u more := by
        rw [read, behind]
        rfl
      simp only [later]
      rfl
    | error fault =>
      -- neither side has a value, though the second may stop earlier
      show Except.error fault = Except.ok w ↔
        (readSteps v steps >>= fun u => read u q) = Except.ok w
      refine iff_of_false nofun fun done => ?_
      obtain ⟨u, -, done⟩ := Fault.exists_of_bind_ok done
      rw [read, behind] at done
      cases done

end ViewDoc.Path

namespace ViewDoc.Canonical

open ViewDoc.Path (Mark Step marks marksFrom marksFrom_nil)

/-- The marks of the step from a node to a child. -/
def childMarks (i : Nat) : List Mark :=
  [.run "children".toList, .bracketed (Text.ofNat i).toList]

theorem marksFrom_childStep (run : List Char) (i : Nat) (rest : List Char) :
    marksFrom false run ((childStep i).toList ++ rest) =
      marksFrom false run [] ++ childMarks i ++ marksFrom false [] rest := by
  have digits : ∀ c ∈ (Text.ofNat i).toList, c.isDigit = true := fun _ => Text.isDigit_of_mem_ofNat
  have something : (Text.ofNat i).toList.reverse ++ [] ≠ [] := by
    simp [Text.toList_ofNat]
  have children : Path.IsName "children" := by decide
  have spelled : (childStep i).toList ++ rest =
      '.' :: ("children".toList ++ '[' :: ((Text.ofNat i).toList ++ ']' :: rest)) := by
    simp [childStep]
  rw [spelled, Path.marksFrom_dot, Path.marksFrom_run children.2, Path.marksFrom_open,
    Path.marksFrom_digits digits, Path.marksFrom_close something, marksFrom_nil, marksFrom_nil]
  simp [childMarks]

theorem marksFrom_join (run : List Char) (place : List Nat) :
    marksFrom false run (String.join (place.map childStep)).toList =
      marksFrom false run [] ++ place.flatMap childMarks := by
  induction place generalizing run with
  | nil => simp
  | cons i place ih =>
    rw [List.map_cons, String.join_cons, String.toList_append, marksFrom_childStep, ih,
      List.flatMap_cons, marksFrom_nil, marksFrom_nil]
    simp

theorem marks_pathAt (place : List Nat) :
    marks (pathAt place) = .run "ui".toList :: .run "root".toList :: place.flatMap childMarks := by
  have ui : Path.IsName "ui" := by decide
  have root : Path.IsName "root" := by decide
  have spelled : (pathAt place).toList = "ui".toList ++
      '.' :: ("root".toList ++ (String.join (place.map childStep)).toList) := by
    simp [pathAt]
  rw [marks, spelled, Path.marksFrom_run ui.2, Path.marksFrom_dot,
    Path.marksFrom_run root.2, marksFrom_join, marksFrom_nil, marksFrom_nil]
  rfl

/-- Every number in a position is short enough to be read back. -/
def Legible (place : List Nat) : Prop :=
  ∀ i ∈ place, (Nat.toDigits 10 i).length ≤ Text.numeralLimit

/-- The way to a position from the tree's root, as steps. -/
def childSteps (place : List Nat) : List Step :=
  place.flatMap fun i => [.key "children", .index i]

theorem mapM_step_childMarks {place : List Nat} (legible : Legible place) :
    (place.flatMap childMarks).mapM Mark.step = .ok (childSteps place) := by
  induction place with
  | nil => rfl
  | cons i place ih =>
    have numeral : Text.numeral? (Text.ofNat i).toList = some i := by
      rw [Text.toList_ofNat]
      exact Text.numeral?_toDigits (legible i List.mem_cons_self)
    have later : (place.flatMap childMarks).mapM Mark.step = .ok (childSteps place) :=
      ih fun j mem => legible j (List.mem_cons_of_mem i mem)
    rw [List.flatMap_cons, childMarks, List.cons_append, List.cons_append, List.nil_append,
      List.mapM_cons, List.mapM_cons, later]
    simp [Mark.step, numeral, childSteps, bind, Except.bind, pure, Except.pure]

/-- The path of a position leads through the entries of the document and of its nodes. -/
theorem parse_pathAt {place : List Nat} (legible : Legible place) :
    Path.parse (pathAt place) = .ok (.key "ui" :: .key "root" :: childSteps place) := by
  rw [Path.parse, marks_pathAt, List.mapM_cons, List.mapM_cons, mapM_step_childMarks legible]
  rfl

end ViewDoc.Canonical
