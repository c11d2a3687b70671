import ViewDoc.Proofs.Component.Spelled
import ViewDoc.Proofs.Tsx.Attributes
import ViewDoc.Proofs.Tsx.Closed
import ViewDoc.Proofs.Tsx.Stands
import ViewDoc.Validation
/-!
The names in the tags of generated markup: of elements, and of their attributes. Props are checked
before they become attributes, triggers and types are not. The main statement is that a name has a
character that does not belong there exactly if an author wrote such a character where a name is
made of it.
-/

set_option autoImplicit false

namespace ViewDoc

open Text (isTagName isTagChar)

namespace Trigger

theorem isTagName_words (trigger : String) :
    (words trigger).all isTagName = isTagName trigger := by
  have breaks (c : Char) : ((c == '-' || c == '_') || isTagChar c) = isTagChar c := by
    by_cases hyphen : c = '-'
    · rw [hyphen]
      decide
    · by_cases low : c = '_'
      · rw [low]
        decide
      · rw [beq_eq_false_iff_ne.mpr hyphen, beq_eq_false_iff_ne.mpr low, Bool.false_or,
          Bool.false_or]
  have found : ((((Text.splitWhere (fun c => c == '-' || c == '_') trigger.toList).map
      String.ofList).filter (· ≠ "")).all isTagName) = isTagName trigger := by
    rw [List.all_filter, isTagName]
    have nothing (w : String) : (!decide (w ≠ "") || isTagName w) = isTagName w := by
      by_cases empty : w = ""
      · rw [empty]
        rfl
      · simp [empty]
    simp only [nothing]
    rw [Text.all_words]
    simp only [breaks]
  rw [words]
  split
  · rename_i double
    rw [← found, double]
    decide
  · exact found

/-- The handler of a trigger has other characters than those of names exactly if the trigger has. -/
theorem isTagName_handler (trigger : String) : isTagName (handler trigger) = isTagName trigger := by
  have words : isTagName (composed trigger) = isTagName trigger := by
    rw [composed, Text.isTagName_append, Text.isTagName_intercalate, Text.all_capitalized_words,
      isTagName_words]
    have front : isTagName "on" = true := by decide
    rw [front, Bool.true_and]
  rw [handler]
  dsimp only
  split
  · rfl
  · cases found : knownHandlers.find? fun known =>
        Text.lower known == Text.lower (composed trigger) with
    | none => exact words
    | some known =>
      have plain : knownHandlers.all isTagName = true := by decide
      have own := List.all_eq_true.mp plain known (List.mem_of_find?_eq_some found)
      have same : Text.lower known = Text.lower (composed trigger) := by
        simpa using List.find?_some found
      rw [Option.getD_some, own, ← words, ← Text.isTagName_lower, ← same, Text.isTagName_lower, own]

end Trigger

namespace Tsx

namespace Markup

/-- The names in the tags around the copies of a template. -/
def fragmentNames : List String :=
  ["React.Fragment", "key"]

mutual

/-- The names of the elements and attributes in markup. -/
def names : Markup -> List String
  | .text _ | .value _ => []
  | .element tag attributes children =>
    tag :: attributes.map (·.name) ++ namesOfAll children
  | .each _ template => fragmentNames ++ namesOfAll template
  | .eachOr _ empty template => empty.names ++ fragmentNames ++ namesOfAll template

/-- The same for several pieces. -/
def namesOfAll : List Markup -> List String
  | [] => []
  | m :: rest => m.names ++ namesOfAll rest

end

/-- The names in the outermost tags. -/
def ownNames : Markup -> List String
  | .text _ | .value _ => []
  | .element tag attributes _ => tag :: attributes.map (·.name)
  | .each .. | .eachOr .. => fragmentNames

theorem names_subset_namesOfAll {m : Markup} {ms : List Markup} (mem : m ∈ ms) :
    m.names ⊆ namesOfAll ms := by
  induction ms with
  | nil => cases mem
  | cons first rest ih =>
    rw [namesOfAll]
    obtain rfl | mem := List.mem_cons.mp mem
    · exact List.subset_append_left _ _
    · exact List.subset_append_of_subset_right _ (ih mem)

variable {whole m : Markup} {loops : List Loop} {name : String}

theorem ownNames_subset (m : Markup) : m.ownNames ⊆ m.names := by
  cases m with
  | text | value => exact List.Subset.refl _
  | element tag attributes children => exact List.subset_append_left _ _
  | each loop template => exact List.subset_append_left _ _
  | eachOr loop empty template =>
    exact List.subset_append_of_subset_left _ (List.subset_append_right _ _)

/-- What stands in markup has no other names. -/
theorem Stands.names_subset (stands : whole.Stands loops m) : m.names ⊆ whole.names := by
  induction stands with
  | root => exact List.Subset.refl _
  | child _ mem ih =>
    refine List.Subset.trans (names_subset_namesOfAll mem) (List.Subset.trans ?_ ih)
    exact List.subset_append_right _ _
  | copy _ repeats mem ih =>
    refine List.Subset.trans (names_subset_namesOfAll mem) (List.Subset.trans ?_ ih)
    cases repeats <;> exact List.subset_append_right _ _
  | empty _ ih =>
    refine List.Subset.trans ?_ ih
    exact List.subset_append_of_subset_left _ (List.subset_append_left _ _)

mutual

theorem exists_of_mem_names (m : Markup) {loops : List Loop} (stands : whole.Stands loops m)
    (mem : name ∈ m.names) :
    ∃ loops piece, whole.Stands loops piece ∧ name ∈ piece.ownNames := by
  cases m with
  | text | value => cases mem
  | element tag attributes children =>
    obtain own | inner := List.mem_append.mp mem
    · exact ⟨loops, _, stands, own⟩
    · exact exists_of_mem_namesOfAll children (fun c below => .child stands below) inner
  | each loop template =>
    obtain own | inner := List.mem_append.mp mem
    · exact ⟨loops, _, stands, own⟩
    · exact exists_of_mem_namesOfAll template (fun c below => .copy stands .each below) inner
  | eachOr loop empty template =>
    obtain before | inner := List.mem_append.mp mem
    · obtain stand | own := List.mem_append.mp before
      · exact exists_of_mem_names empty (.empty stands) stand
      · exact ⟨loops, _, stands, own⟩
    · exact exists_of_mem_namesOfAll template (fun c below => .copy stands (.eachOr empty) below)
        inner
termination_by structural m

theorem exists_of_mem_namesOfAll (ms : List Markup) {loops : List Loop}
    (stands : ∀ m ∈ ms, whole.Stands loops m) (mem : name ∈ namesOfAll ms) :
    ∃ loops piece, whole.Stands loops piece ∧ name ∈ piece.ownNames := by
  cases ms with
  | nil => cases mem
  | cons m rest =>
    obtain first | later := List.mem_append.mp mem
    · exact exists_of_mem_names m (stands m List.mem_cons_self) first
    · exact exists_of_mem_namesOfAll rest (fun c below => stands c (List.mem_cons_of_mem _ below))
        later
termination_by structural ms

end

/-- The names in markup are those in the outermost tags of the pieces that stand in it. -/
theorem mem_names_iff : name ∈ whole.names ↔
    ∃ loops piece, whole.Stands loops piece ∧ name ∈ piece.ownNames := by
  constructor
  · exact exists_of_mem_names whole .root
  · rintro ⟨loops, piece, stands, own⟩
    exact stands.names_subset (piece.ownNames_subset own)

end Markup

variable {b : Blueprint} {p : Place} {t : CanonicalNode}

/-- The tag of a node has its element and its attributes. -/
theorem Draft.exists_tag_of_node_ok {budget : Nat} {scope : Scope} {r : Markup × List Note}
    (done : node b budget scope t = .ok r) :
    ∃ data notes as more children,
      dataScope b.names scope t.value.path t.value.data = .ok (data, notes) ∧
      attributes b.names { scope with data } t.value
        (b.registry.resolve b.icons t.value).omitProps = .ok (as, more) ∧
      r.1 = .element (b.registry.resolve b.icons t.value).element as children := by
  obtain ⟨less, made⟩ := exists_madeOf_of_node_ok done
  generalize r.1 = m at made ⊢
  cases made with
  | isVoid drafted given _ => exact ⟨_, _, _, _, _, drafted, given, rfl⟩
  | holder drafted given _ _ _ => exact ⟨_, _, _, _, _, drafted, given, rfl⟩

/-- What an author wrote of a node has no other characters than those of names, where a name of its
tag is made of it. -/
structure SpelledAsName (names : Declared) (scope : Scope) (n : CanonicalFields)
    (omitted : List String) : Prop where
  element : ∀ s ∈ Adapter.elementText? n, isTagName s = true
  props : ∀ e ∈ n.props, Draft.takes omitted e = true -> isTagName e.1 = true
  triggers : ∀ e ∈ n.events, Draft.Answers names scope n e -> isTagName e.2.trigger = true

/-- The names of one tag. -/
theorem isTagName_tag_iff {names : Declared} {scope : Scope} {n : CanonicalFields}
    {as : List Attribute} {notes : List Note}
    (given : Draft.attributes names scope n
      (ComponentRegistry.standard.resolve .standard n).omitProps = .ok (as, notes)) :
    (∀ name ∈ (ComponentRegistry.standard.resolve .standard n).element :: as.map (·.name),
        isTagName name = true) ↔
      SpelledAsName names scope n (ComponentRegistry.standard.resolve .standard n).omitProps := by
  obtain ⟨hs, handlers, whole⟩ := Draft.names_attributes given
  rw [List.forall_mem_cons, ComponentRegistry.isTagName_element_iff, whole]
  constructor
  · rintro ⟨element, all⟩
    refine ⟨element, fun e mem taken => ?_, fun e mem answered => ?_⟩
    · refine all e.1 (List.mem_append_left _ (List.mem_append_right _ ?_))
      exact List.mem_map_of_mem (List.mem_filter.mpr ⟨mem, taken⟩)
    · rw [← Trigger.isTagName_handler]
      exact all _ (List.mem_append_right _ ((handlers.mem_iff _).mpr ⟨e, mem, answered, rfl⟩))
  · intro spelled
    refine ⟨spelled.element, fun name mem => ?_⟩
    obtain before | handler := List.mem_append.mp mem
    · obtain style | prop := List.mem_append.mp before
      · have styles : isTagName "style" = true := by decide
        split at style
        · rwa [List.mem_singleton.mp style]
        · cases style
      · obtain ⟨e, kept, rfl⟩ := List.mem_map.mp prop
        obtain ⟨declared, taken⟩ := List.mem_filter.mp kept
        exact spelled.props e declared taken
    · obtain ⟨e, declared, answered, rfl⟩ := (handlers.mem_iff name).mp handler
      rw [Trigger.isTagName_handler]
      exact spelled.triggers e declared answered

/-- This holds of every node that is drafted, in the scope that it has. -/
def Blueprint.SpellsNames (b : Blueprint) : Prop :=
  ∀ p t, b.Reached p t -> ∀ data notes,
    Draft.dataScope b.names p.scope t.value.path t.value.data = .ok (data, notes) ->
      SpelledAsName b.names { p.scope with data } t.value
        (b.registry.resolve b.icons t.value).omitProps

namespace Module

variable {source : Normalized} {options : Options} {m : Module}

/-- The names in the tags of a component that the standard registry resolves have only characters of
names exactly if this holds of the texts that names are made of, at every node that is drafted. -/
theorem generate_isTagName_iff
    (done : generate source { options with registry := .standard, icons := .standard } = .ok m) :
    ∃ names, Declared.ofDocument source.document = .ok names ∧
      ((∀ name ∈ m.root.names, isTagName name = true) ↔
        Blueprint.SpellsNames ⟨source.document, names, .standard, .standard⟩) := by
  obtain ⟨names, notes, made⟩ := exists_made done
  refine ⟨names, made.declared, fun all p t reached data _ inside => ?_, fun spelled name mem => ?_⟩
  · obtain ⟨budget, r, drafted, stands⟩ := reached.shows made.drafted
    obtain ⟨data', _, as, _, children, inside', given, tag⟩ := Draft.exists_tag_of_node_ok drafted
    obtain rfl : data' = data := congrArg Prod.fst (Except.ok.inj (inside'.symm.trans inside))
    refine (isTagName_tag_iff given).mp fun name own => all name ?_
    refine Markup.mem_names_iff.mpr ⟨_, r.1, stands, ?_⟩
    rw [tag]
    exact own
  · obtain ⟨loops, piece, stands, own⟩ := Markup.mem_names_iff.mp mem
    have fragments : Markup.fragmentNames.all isTagName = true := by decide +kernel
    cases Blueprint.origin_of_stands made.drafted stands with
    | node reached drafted =>
      obtain ⟨data, _, as, _, children, inside, given, tag⟩ := Draft.exists_tag_of_node_ok drafted
      obtain rfl : piece = _ := tag
      exact (isTagName_tag_iff given).mpr (spelled _ _ reached _ _ inside) name own
    | list _ _ _ drafted =>
      obtain ⟨loop, _, template, _, -, -, shape⟩ := Draft.exists_of_loop_ok drafted
      split at shape
      · obtain rfl : piece = _ := shape
        exact List.all_eq_true.mp fragments name own
      · obtain ⟨empty, -, shape⟩ := shape
        obtain rfl : piece = _ := shape
        exact List.all_eq_true.mp fragments name own
    | leaf leaf =>
      cases leaf <;> cases own

/-- A form with a prop, with two triggers in different spellings, and with an icon. -/
def signUp : Normalized where
  document := {
    version := "1.2"
    root := .node { id := "form", type := "form", style := [("gap", .int 8)],
                    events := [("send", ⟨"submit", some "send", []⟩)] }
      [.node { id := "name", type := "MuiTextField", props := [("aria-label", .str "Name")],
               events := [("type", ⟨"key_down", some "check", []⟩)] } [],
        .node { id := "mark", type := "MdrIcon", props := [("iconRef", .object [
          ("provider", .str "lucide"), ("name", .str "user plus")])] } []] }
  diagnostics := []

theorem signUp_isTagName :
    ∃ m, generate signUp { ({} : Options) with registry := .standard, icons := .standard } = .ok m ∧
      m.root.names = ["form", "style", "onSubmit", "TextField", "aria-label", "onKeyDown",
        "UserPlus"] ∧
      ∃ names, Declared.ofDocument signUp.document = .ok names ∧
        Blueprint.SpellsNames ⟨signUp.document, names, .standard, .standard⟩ := by
  have shown : (generate signUp { ({} : Options) with
      registry := .standard, icons := .standard }).toOption.map (·.root.names) =
      some ["form", "style", "onSubmit", "TextField", "aria-label", "onKeyDown",
        "UserPlus"] := by
    decide +kernel
  cases done : generate signUp { ({} : Options) with
      registry := .standard, icons := .standard } with
  | error fault =>
    rw [done] at shown
    cases shown
  | ok m =>
    rw [done] at shown
    have tags : m.root.names = ["form", "style", "onSubmit", "TextField", "aria-label", "onKeyDown",
      "UserPlus"] := Option.some.inj shown
    obtain ⟨names, declared, spelled⟩ := generate_isTagName_iff done
    refine ⟨m, rfl, tags, names, declared, spelled.mp fun name mem => ?_⟩
    have plain : ["form", "style", "onSubmit", "TextField", "aria-label", "onKeyDown",
      "UserPlus"].all isTagName = true := by decide +kernel
    rw [tags] at mem
    exact List.all_eq_true.mp plain name mem

/-- A document with a trigger and with a type that have blanks in them. -/
def spacedNames : Value :=
  .object [("version", .str "1.2"), ("ui", .object [("root", .object [("id", .str "root"),
    ("type", .str "div"), ("events", .object [("go", .object [("trigger", .str "my event"),
      ("action", .str "open")])]), ("children", .list [.object [("id", .str "box"),
        ("type", .str "MdrBox title")]])])])]

theorem spacedNames_escape :
    (∃ r, Validation.ofValue spacedNames = .ok r ∧ r.issues = [] ∧ r.diagnostics = []) ∧
      ∃ source m, normalize spacedNames = .ok source ∧
        generate source { ({} : Options) with registry := .standard, icons := .standard } = .ok m ∧
        m.diagnostics = [] ∧ m.root.names = ["div", "onMy event", "MdrBox title"] ∧
        ¬ ∀ name ∈ m.root.names, isTagName name = true := by
  have handler : isTagName "onMy event" = false := by decide +kernel
  refine ⟨⟨_, rfl, rfl, rfl⟩, _, _, rfl, rfl, rfl, rfl, fun all => ?_⟩
  rw [all "onMy event" (List.mem_cons_of_mem _ List.mem_cons_self)] at handler
  cases handler

end Module

end Tsx

end ViewDoc
