import ViewDoc.Proofs.Scope.Lists
import ViewDoc.Validation
/-!
Names for the item and the index of a list. Validation accepts one line break after such a name, which
is taken away when the list is drawn, but not when the name is looked up. The main statement tells
what the two names find in every entry: the item and the index, unless a line break is in the way.
-/

set_option autoImplicit false

namespace ViewDoc

/-- A text that ends with a line break. -/
def Text.EndsLine (s : String) : Prop :=
  s.toList.getLast? = some '\n'

instance (s : String) : Decidable (Text.EndsLine s) :=
  inferInstanceAs (Decidable (s.toList.getLast? = some '\n'))

namespace Validation

/-- A character of names for loop variables. -/
def isNameChar (c : Char) : Bool :=
  Text.isAsciiLetter c || c == '_' || c == '$' || Text.isAsciiDigit c || c == '-'

theorem isBlank_of_isNameChar {c : Char} (named : isNameChar c = true) : Text.isBlank c = false := by
  simp only [isNameChar, Bool.or_eq_true, beq_iff_eq] at named
  rcases named with (((letter | rfl) | rfl) | digit) | rfl
  · exact Text.isBlank_of_isAsciiLetter letter
  · rfl
  · rfl
  · exact Text.isBlank_of_isAsciiDigit digit
  · rfl

theorem isPlain_of_isNameChar {c : Char} (named : isNameChar c = true) : Path.isPlain c = true := by
  by_contra cut
  rcases Path.cut_of_not_isPlain cut with rfl | rfl | rfl <;> cases named

/-- A word that names a loop variable. -/
structure IsWord (w : String) : Prop where
  nonempty : w ≠ ""
  named : ∀ c ∈ w.toList, isNameChar c = true

namespace IsWord

variable {w : String}

theorem trimmed (word : IsWord w) : Text.Trimmed w :=
  Text.trimmed_of_forall word.nonempty fun c mem => isBlank_of_isNameChar (word.named c mem)

theorem isName (word : IsWord w) : Path.IsName w :=
  ⟨word.nonempty, fun c mem => isPlain_of_isNameChar (word.named c mem)⟩

theorem not_endsLine (word : IsWord w) : ¬ Text.EndsLine w := by
  intro ends
  have named := word.named '\n' (List.mem_of_mem_getLast? ends)
  cases named

/-- A line break after a word is trimmed away. -/
theorem trim_lineBreak (word : IsWord w) : Text.trim (w ++ "\n") = w := by
  have front : ∀ c ∈ (w ++ "\n").toList.head?, Text.isBlank c = false := by
    rw [String.toList_append]
    cases chars : w.toList with
    | nil => exact absurd (String.toList_eq_nil_iff.mp chars) word.nonempty
    | cons c rest =>
      rintro _ ⟨⟩
      exact isBlank_of_isNameChar (word.named c (by rw [chars]; exact List.mem_cons_self))
  have chars : (w ++ "\n").toList = w.toList ++ ['\n'] := String.toList_append
  have blank : Text.isBlank '\n' = true := rfl
  rw [Text.trim_of_head? front, Text.withoutFinalBlanks, chars,
    List.rdropWhile_concat_pos _ _ _ blank]
  exact Text.withoutFinalBlanks_eq_self_iff.mpr word.trimmed.back

end IsWord

/-- What is accepted as a name is a word, perhaps with a line break after it. -/
theorem isWord_of_isAlias {s : String} (accepted : isAlias s = true) :
    IsWord s ∨ ∃ w, IsWord w ∧ s = w ++ "\n" := by
  rw [isAlias] at accepted
  cases chars : s.toList with
  | nil =>
    rw [chars] at accepted
    cases accepted
  | cons c rest =>
    rw [chars] at accepted
    obtain ⟨start, accepted⟩ := Bool.and_eq_true_iff.mp accepted
    have first : isNameChar c = true := by
      rw [isNameChar, Bool.or_assoc]
      exact Bool.or_eq_true_iff.mpr (.inl start)
    rcases Bool.or_eq_true_iff.mp accepted with every | broken
    · refine .inl ⟨?_, ?_⟩
      · rintro rfl
        cases chars
      · rw [chars]
        exact List.forall_mem_cons.mpr ⟨first, List.all_eq_true.mp every⟩
    · obtain ⟨last, every⟩ := Bool.and_eq_true_iff.mp broken
      obtain ⟨word, rfl⟩ := List.getLast?_eq_some_iff.mp (eq_of_beq last)
      rw [List.dropLast_concat] at every
      refine .inr ⟨.ofList (c :: word), ⟨?_, ?_⟩, ?_⟩
      · simp
      · rw [String.toList_ofList]
        exact List.forall_mem_cons.mpr ⟨first, List.all_eq_true.mp every⟩
      · apply String.toList_injective
        simp [chars]

variable {s : String}

/-- Trimming takes away of a name just the line break at its end. -/
theorem trim_of_isAlias (accepted : isAlias s = true) :
    IsWord (Text.trim s) ∧ s = if Text.EndsLine s then Text.trim s ++ "\n" else Text.trim s := by
  rcases isWord_of_isAlias accepted with word | ⟨w, word, rfl⟩
  · rw [if_neg word.not_endsLine, Text.trim_of_trimmed word.trimmed]
    exact ⟨word, rfl⟩
  · have ends : Text.EndsLine (w ++ "\n") := by
      simp [Text.EndsLine]
    rw [if_pos ends, word.trim_lineBreak]
    exact ⟨word, rfl⟩

theorem trim_eq_self_iff (accepted : isAlias s = true) : Text.trim s = s ↔ ¬ Text.EndsLine s := by
  obtain ⟨word, spelled⟩ := trim_of_isAlias accepted
  constructor
  · intro same
    rw [same] at word
    exact word.not_endsLine
  · intro inside
    rw [if_neg inside] at spelled
    exact spelled.symm

/-- One name is another one trimmed just when the other one has a line break more. -/
theorem trim_eq_iff {a b : String} (accepted : isAlias a = true) (other : isAlias b = true)
    (distinct : a ≠ b) : Text.trim b = a ↔ ¬ Text.EndsLine a ∧ b = a ++ "\n" := by
  constructor
  · rintro rfl
    obtain ⟨word, spelled⟩ := trim_of_isAlias other
    refine ⟨word.not_endsLine, ?_⟩
    by_cases ends : Text.EndsLine b
    · rwa [if_pos ends] at spelled
    · rw [if_neg ends] at spelled
      exact absurd spelled.symm distinct
  · rintro ⟨inside, rfl⟩
    obtain ⟨word, -⟩ := trim_of_isAlias accepted
    rw [(trim_eq_self_iff accepted).mpr inside] at word
    exact word.trim_lineBreak

theorem isName_of_isAlias (accepted : isAlias s = true) : Path.IsName s :=
  Path.isName_of_isName_trim (trim_of_isAlias accepted).1.isName

theorem word?_of_isAlias (accepted : isAlias s = true) :
    (Value.str s).word? = some (Text.trim s) := by
  refine (Value.word?_eq_some_iff _ _).mpr ⟨s, rfl, ?_, rfl⟩
  rw [← Bool.not_eq_true, ← Text.trim_eq_empty_iff]
  exact (trim_of_isAlias accepted).1.nonempty

end Validation

/-- An entry of a list with a name for the item has members in its data scope. -/
theorem ListDecl.exists_keyed?_entryContext {l : ListDecl} {w : String}
    (given : l.itemAs.word? = some w) (ctx : Context) (item : Value) (index : Nat) :
    ∃ es, (l.entryContext ctx item index).data.keyed? = some es := by
  have named := Context.get?_aliases item index l.itemAs.word?_ne_empty l.indexAs.word?_ne_empty w
  rw [entryContext, Context.withItem]
  dsimp only
  split
  · rename_i none
    rw [List.isEmpty_iff.mp none, if_pos given] at named
    split at named <;> cases named
  · exact Value.exists_keyed?_overlaid _ _

/-- What a name finds in an entry of a list that names its item. -/
theorem ListDecl.resolveOne_entryContext {l : ListDecl} {w name : String}
    (given : l.itemAs.word? = some w) (isName : Path.IsName name) (ctx : Context) (item : Value)
    (index : Nat) :
    (Ref.data name).toValue.resolveOne (l.entryContext ctx item index) =
      .ok ((if l.indexAs.word? = some name then some (.int index)
        else if l.itemAs.word? = some name then some item
        else ctx.data.member? name).getD .null) := by
  obtain ⟨es, members⟩ := exists_keyed?_entryContext given ctx item index
  rw [Value.resolveOne, Ref.ofValue?_toValue]
  show Path.read _ name = _
  rw [Path.read_of_isName isName, Value.read_of_keyed? members, member?_entryContext]
  rfl

/-- In every entry of a list with two accepted names the first finds the item and the second the
index, where no line break stands at the end. With one a name finds what the scope of the list has
under it, and the name for the index hides the same name without it. -/
theorem ListDecl.names_found {l : ListDecl} {a b : String} (item : l.itemAs = .str a)
    (index : l.indexAs = .str b) (distinct : a ≠ b) (itemAccepted : Validation.isAlias a = true)
    (indexAccepted : Validation.isAlias b = true) {scope : Value} {ctx : Context} {p : ListPlan}
    (planned : l.plan scope ctx = .ok p) {e : ListEntry} (mem : e ∈ p.entries) :
    (Ref.data a).toValue.resolveOne e.context =
        .ok (if Text.EndsLine a then (scope.member? a).getD .null
          else if b = a ++ "\n" then .int e.index else e.item) ∧
      (Ref.data b).toValue.resolveOne e.context =
        .ok (if Text.EndsLine b then (scope.member? b).getD .null else .int e.index) := by
  have itemWord := item ▸ Validation.word?_of_isAlias itemAccepted
  have indexWord := index ▸ Validation.word?_of_isAlias indexAccepted
  rw [context_of_mem_entries planned mem,
    l.resolveOne_entryContext itemWord (Validation.isName_of_isAlias itemAccepted),
    l.resolveOne_entryContext itemWord (Validation.isName_of_isAlias indexAccepted), itemWord,
    indexWord]
  simp only [Option.some.injEq, Validation.trim_eq_self_iff itemAccepted,
    Validation.trim_eq_self_iff indexAccepted,
    Validation.trim_eq_iff itemAccepted indexAccepted distinct,
    Validation.trim_eq_iff indexAccepted itemAccepted distinct.symm]
  constructor
  · by_cases ends : Text.EndsLine a
    · simp only [ends, not_true_eq_false, false_and, if_false, if_true]
      rfl
    · by_cases broken : b = a ++ "\n" <;> simp [ends, broken]
  · by_cases ends : Text.EndsLine b
    · simp only [ends, not_true_eq_false, false_and, if_false, if_true]
      rfl
    · simp [ends]

/-- A list of what the scope is, with names for the item and the index. -/
def ListDecl.naming (itemAs indexAs : String) : ListDecl :=
  { itemAs := .str itemAs, indexAs := .str indexAs }

theorem ListDecl.naming_found :
    ∃ p e, (naming "user" "i").plan (.list [.str "Ada"]) {} = .ok p ∧ e ∈ p.entries ∧
      (Ref.data "user").toValue.resolveOne e.context = .ok (.str "Ada") ∧
      (Ref.data "i").toValue.resolveOne e.context = .ok (.int 0) :=
  ⟨_, _, rfl, List.mem_cons_self,
    names_found rfl rfl (by decide) (by decide) (by decide)
      (show (naming "user" "i").plan (.list [.str "Ada"]) {} = .ok _ from rfl) List.mem_cons_self⟩

/-- A name that ends with a line break is accepted, and finds nothing. -/
theorem ListDecl.brokenNaming_unfound :
    Validation.isAlias "user\n" = true ∧ Validation.isAlias "i" = true ∧
      ∃ p e, (naming "user\n" "i").plan (.list [.str "Ada"]) {} = .ok p ∧ e ∈ p.entries ∧
        e.item = .str "Ada" ∧ (Ref.data "user\n").toValue.resolveOne e.context = .ok .null :=
  ⟨by decide, by decide, _, _, rfl, List.mem_cons_self, rfl, rfl⟩

end ViewDoc
