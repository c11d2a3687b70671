import ViewDoc.Document.Load
import ViewDoc.Proofs.Json.Read
import ViewDoc.Proofs.Text.Trimmed
import ViewDoc.Proofs.Tsx.Attributes
import ViewDoc.Proofs.Tsx.Stands
import ViewDoc.Proofs.View.Alike
/-!
What literal strings in generated code denote. Quoted attributes and raw text denote their content
with character references decoded, and a container denotes its JSON string. The main statement
compares this with what views show: the text of a node always comes out the same, and a prop unless
it stands in quotes and holds a reference.
-/

set_option autoImplicit false

namespace ViewDoc

namespace Tsx

namespace Jsx

/-- The string in a container, after the opening brace. -/
def contained? (cs : List Char) : Option String :=
  if cs.getLast? = some '\x7d' then
    match Json.read (.ofList cs.dropLast) with
    | .ok (.str s) => some s
    | _ => none
  else none

/-- The string that the source of the value of an attribute denotes. Quotes stay on one line. -/
def attribute? (source : String) : Option String :=
  match source.toList with
  | '"' :: cs =>
    if cs.getLast? = some '"' && cs.dropLast.all fun c => !(c == '"' || c == '\n' || c == '\r') then
      some (Text.decodeEntities (.ofList cs.dropLast))
    else none
  | '\x7b' :: cs => contained? cs
  | _ => none

/-- A character around the text of a line that is left out. -/
def isPadding (c : Char) : Bool :=
  c == ' ' || c == '\t'

/-- The string that a line between tags denotes: that of a container, or raw text. -/
def line? (line : String) : Option String :=
  match Text.trimWhere isPadding line.toList with
  | '\x7b' :: cs => contained? cs
  | cs =>
    if cs.all fun c => !"\x7b\x7d<>\n\r".toList.contains c then
      some (Text.decodeEntities (.ofList cs))
    else none

theorem contained?_write (s : String) :
    contained? ((Json.write .plainLine (.str s)).toList ++ ['\x7d']) = some s := by
  rw [contained?, if_pos List.getLast?_concat, List.dropLast_concat, String.ofList_toList,
    Json.read_write_str]

theorem toList_braced (s : String) : (braced s).toList = '\x7b' :: (s.toList ++ ['\x7d']) := by
  rw [braced, String.toList_append, String.toList_append]
  rfl

theorem attribute?_literal (s : String) :
    attribute? (braced (Expr.literal (.str s)).text) = some s := by
  rw [attribute?, toList_braced]
  exact contained?_write s

theorem attribute?_quoted {s : String} (plain : Draft.isQuotable s = true) :
    attribute? ("\"" ++ s ++ "\"") = some (Text.decodeEntities s) := by
  have chars : ("\"" ++ s ++ "\"").toList = '"' :: (s.toList ++ ['"']) := by
    rw [String.toList_append, String.toList_append]
    rfl
  have inside : (s.toList.all fun c => !(c == '"' || c == '\n' || c == '\r')) = true := by
    rw [List.all_eq_true]
    intro c mem
    have each := List.all_eq_true.mp plain c mem
    simp only [Bool.not_eq_true', Bool.or_eq_false_iff, beq_eq_false_iff_ne] at each
    simp [each]
  rw [attribute?, chars]
  change (if _ then _ else _) = _
  rw [List.getLast?_concat, List.dropLast_concat, inside, String.ofList_toList]
  rfl

/-- The padding of a line is left out, where the text has no blanks around it. -/
theorem trimWhere_lineAt {s : String} (trimmed : Text.Trimmed s) (level : Nat) :
    Text.trimWhere isPadding (lineAt level s).toList = s.toList := by
  have visible (c : Char) (seen : Text.isBlank c = false) : isPadding c = false := by
    rw [isPadding, Bool.or_eq_false_iff, beq_eq_false_iff_ne, beq_eq_false_iff_ne]
    constructor
    · rintro rfl
      exact absurd seen (by decide)
    · rintro rfl
      exact absurd seen (by decide)
  have padding : ∀ c ∈ List.replicate (2 * level) ' ', isPadding c = true := by
    intro c mem
    rw [List.eq_of_mem_replicate mem]
    rfl
  have front : Text.trimWhere isPadding (lineAt level s).toList =
      Text.trimWhere isPadding s.toList := by
    rw [lineAt, String.toList_append, String.toList_ofList, Text.trimWhere, Text.trimWhere,
      List.dropWhile_append_of_pos padding]
  rw [front, Text.trimWhere_of_trimmed trimmed visible]

theorem trimmed_braced (s : String) : Text.Trimmed (braced s) := by
  refine ⟨?_, fun c first => ?_, fun c last => ?_⟩
  · intro empty
    have chars := toList_braced s
    rw [empty] at chars
    cases chars
  · rw [toList_braced] at first
    obtain rfl := Option.mem_some.mp first
    decide
  · rw [toList_braced, ← List.cons_append, List.getLast?_concat] at last
    obtain rfl := Option.mem_some.mp last
    decide

theorem line?_literal (level : Nat) (s : String) :
    line? (lineAt level (braced (Expr.literal (.str s)).text)) = some s := by
  rw [line?, trimWhere_lineAt (trimmed_braced _), toList_braced]
  exact contained?_write s

/-- Raw text denotes itself, as it holds no references. -/
theorem line?_text {s : String} (written : s ≠ "") (plain : Draft.isPlainText s = true)
    (level : Nat) : line? (lineAt level s) = some s := by
  rw [Draft.isPlainText, Bool.and_eq_true, List.all_eq_true, beq_iff_eq] at plain
  obtain ⟨each, kept⟩ := plain
  have chars : ∀ c ∈ s.toList, c ∉ ['\x7b', '\x7d', '<', '>', '&', '\n', '\r'] := by
    intro c mem
    simpa using each c mem
  have trimmed : Text.Trimmed s := by
    rw [← kept]
    refine Text.trimmed_trim (Bool.eq_false_iff.mpr fun blank => written ?_)
    rw [← kept]
    exact (Text.trim_eq_empty_iff s).mpr blank
  have raw : (s.toList.all fun c => !"\x7b\x7d<>\n\r".toList.contains c) = true := by
    rw [List.all_eq_true]
    intro c mem
    have other := chars c mem
    simp only [List.mem_cons, List.not_mem_nil, or_false, not_or] at other
    simp [other]
  have decoded : Text.decodeEntities s = s :=
    Text.decodeEntities_of_not_mem fun mem => chars _ mem (by decide)
  rw [line?, trimWhere_lineAt trimmed]
  split
  · rename_i cs opened
    have brace : '\x7b' ∈ s.toList := by
      rw [opened]
      exact List.mem_cons_self
    exact absurd List.mem_cons_self (chars _ brace)
  · rw [if_pos raw, String.ofList_toList, decoded]

end Jsx

/-- The source of an attribute denotes a string under a name. -/
def Attribute.Denotes (a : Attribute) (name s : String) : Prop :=
  ∃ source, a.text = name ++ "=" ++ source ∧ Jsx.attribute? source = some s

/-- Markup is one line, which denotes a string. -/
def Markup.Denotes (m : Markup) (s : String) : Prop :=
  ∀ level, ∃ line, m.lines level = [line] ∧ Jsx.line? line = some s

/-- The string that the attribute for a literal prop denotes. -/
def Jsx.ofProp (s : String) : String :=
  if Draft.isQuotable s then Text.decodeEntities s else s

theorem Jsx.ofProp_eq_iff (s : String) :
    ofProp s = s ↔ (Draft.isQuotable s = true -> Text.decodeEntities s = s) := by
  rw [ofProp]
  split
  · rename_i quoted
    exact ⟨fun same _ => same, fun kept => kept quoted⟩
  · rename_i braced
    exact ⟨fun _ quoted => absurd quoted braced, fun _ => rfl⟩

namespace Draft

open Noted (exists_of_bind_ok eq_of_pure_ok)

variable {names : Declared} {scope : Scope} {n : CanonicalFields} {path key s : String}
  {omitted : List String} {notes : List Note}

theorem exists_of_propAttribute_str {a : Option Attribute}
    (done : propAttribute names scope path key (.str s) = .ok (a, notes))
    (other : key ≠ stylesheetProp) (named : isAttributeName key = true) :
    ∃ own, a = some own ∧ own.Denotes key (Jsx.ofProp s) := by
  rw [propAttribute, if_neg other, if_neg (by simp [named])] at done
  dsimp only at done
  rw [Jsx.ofProp]
  split at done
  · rename_i quoted
    refine ⟨_, eq_of_pure_ok done, _, rfl, ?_⟩
    rw [if_pos quoted]
    exact Jsx.attribute?_quoted quoted
  · rename_i unquoted
    refine ⟨_, eq_of_pure_ok done, _, rfl, ?_⟩
    rw [if_neg unquoted]
    exact Jsx.attribute?_literal s

/-- The attribute for a prop is among those for all props. -/
theorem exists_of_propAttributes {props : Entries} {as : List Attribute}
    (done : propAttributes names scope path omitted props = .ok (as, notes))
    {p : String × Value} (mem : p ∈ props) (kept : omitted.contains p.1 = false) :
    ∃ a more, propAttribute names scope path p.1 p.2 = .ok (a, more) ∧ ∀ own ∈ a, own ∈ as := by
  induction props generalizing as notes with
  | nil => cases mem
  | cons q rest ih =>
    obtain ⟨key, v⟩ := q
    obtain ⟨a, own, others, _, first, later, rfl⟩ := exists_of_propAttributes_cons done
    rcases List.mem_cons.mp mem with rfl | mem
    · rw [if_neg (Bool.eq_false_iff.mp kept)] at first
      refine ⟨a, own, first, fun x given => List.mem_append_left _ ?_⟩
      exact Option.mem_toList.mpr given
    · obtain ⟨b, more, made, among⟩ := ih later mem
      exact ⟨b, more, made, fun x given => List.mem_append_right _ (among x given)⟩

/-- A literal prop that is taken has an attribute, which denotes what quotes leave of it. -/
theorem exists_of_attributes_str {as : List Attribute}
    (done : attributes names scope n omitted = .ok (as, notes)) (mem : (key, .str s) ∈ n.props)
    (taken : takes omitted (key, .str s) = true) :
    ∃ a ∈ as, a.Denotes key (Jsx.ofProp s) := by
  simp only [takes, Bool.and_eq_true, Bool.not_eq_true', bne_iff_ne] at taken
  obtain ⟨⟨⟨kept, other⟩, named⟩, -⟩ := taken
  obtain ⟨style, _, props, _, found, _, -, given, -, rfl⟩ := exists_of_attributes done
  obtain ⟨a, _, own, among⟩ := exists_of_propAttributes given mem kept
  obtain ⟨a, rfl, denotes⟩ := exists_of_propAttribute_str own other named
  exact ⟨a, List.mem_append_left _ (List.mem_append_right _ (among a rfl)), denotes⟩

/-- A literal text has a line that denotes what it decodes to, unless that is empty. -/
theorem own_of_text_str {own : Option Markup}
    (done : text names scope path (.str s) = .ok (own, notes)) :
    (own = none ↔ Text.decodeEntities s = "") ∧
      ∀ m ∈ own, m.Denotes (Text.decodeEntities s) := by
  rw [text] at done
  split at done
  · rename_i empty
    obtain rfl : own = none := eq_of_pure_ok done
    exact ⟨iff_of_true rfl empty, fun m mem => by cases mem⟩
  · rename_i written
    split at done
    · rename_i plain
      obtain rfl : own = some _ := eq_of_pure_ok done
      refine ⟨iff_of_false (Option.some_ne_none _) written, fun m mem level => ?_⟩
      obtain rfl := Option.mem_some.mp mem
      exact ⟨_, rfl, Jsx.line?_text written plain level⟩
    · obtain rfl : own = some _ := eq_of_pure_ok done
      refine ⟨iff_of_false (Option.some_ne_none _) written, fun m mem level => ?_⟩
      obtain rfl := Option.mem_some.mp mem
      exact ⟨_, rfl, Jsx.line?_literal level _⟩

/-- What is drafted within a node besides its text is elements and loops. -/
theorem not_leaf_of_content {b : Blueprint} {less : Nat} {t : CanonicalNode} {inner : List Markup}
    (held : content b (node b less) scope t = .ok (inner, notes)) : ∀ m ∈ inner, ¬ m.Leaf := by
  intro m mem leaf
  rw [content] at held
  cases list : t.value.list with
  | none =>
    rw [list] at held
    obtain ⟨c, -, more, drafted⟩ := Noted.exists_of_mem_mapM held m mem
    obtain ⟨_, made⟩ := exists_madeOf_of_node_ok drafted
    cases leaf <;> cases made
  | some l =>
    rw [list] at held
    obtain ⟨r, listed, single⟩ := exists_singleton_of_map_ok held
    obtain rfl : inner = [r.1] := single
    obtain rfl := List.mem_singleton.mp mem
    obtain ⟨loop, _, template, _, -, -, shape⟩ := exists_of_loop_ok listed
    split at shape
    · rw [shape] at leaf
      cases leaf
    · obtain ⟨empty, -, shape⟩ := shape
      rw [shape] at leaf
      cases leaf

end Draft

end Tsx

namespace Stage

open Noted (exists_of_bind_ok eq_of_pure_ok)

variable {s : Stage} {frame : Frame} {t : CanonicalNode} {key text : String}

/-- A text stands for itself. -/
theorem resolve_str (s : Stage) (frame : Frame) (text : String) :
    s.resolve frame (.str text) = .ok (.str text, []) := by
  rw [resolve, Value.resolve]
  cases Value.levels s.settings.maxDepth <;> rfl

/-- A literal prop that the element takes is shown as it is. -/
theorem get?_propsOf {omitted : List String} {props shown : Entries} {notes : List ViewNote}
    (done : s.propsOf frame omitted props = .ok (shown, notes))
    (kept : omitted.contains key = false) (other : key ≠ stylesheetProp)
    (found : Entries.get? props key = some (.str text)) :
    Entries.get? shown key = some (.str text) := by
  induction props generalizing shown notes with
  | nil => cases found
  | cons p rest ih =>
    obtain ⟨k, v⟩ := p
    rw [propsOf] at done
    rw [Entries.get?] at found
    split at done
    · rename_i out
      have different : k ≠ key := fun same => Bool.eq_false_iff.mp kept (same ▸ out)
      rw [if_neg different] at found
      exact ih done found
    · obtain ⟨⟨seen, _⟩, _, resolved, done⟩ := exists_of_bind_ok done
      dsimp only at done
      by_cases same : k = key
      · subst same
        rw [if_pos rfl] at found
        obtain rfl := Option.some.inj found
        rw [resolve_str] at resolved
        cases resolved
        rw [if_neg other] at done
        obtain ⟨⟨others, _⟩, _, -, done⟩ := exists_of_bind_ok done
        obtain rfl : shown = _ := eq_of_pure_ok done
        rw [Entries.get?, if_pos rfl]
      · rw [if_neg same] at found
        split at done
        · obtain ⟨_, _, -, done⟩ := exists_of_bind_ok done
          exact ih done found
        · obtain ⟨⟨others, _⟩, _, later, done⟩ := exists_of_bind_ok done
          obtain rfl : shown = _ := eq_of_pure_ok done
          rw [Entries.get?, if_neg same]
          exact ih later found

theorem nodup_keys_marks (s : Stage) (n : CanonicalFields) (fallback : Bool) :
    (Entries.keys (s.marks n fallback)).Nodup := by
  rw [marks, Entries.keys, List.map_append]
  split <;> split <;> (try split) <;> simp

/-- An element shows the props of its node with its marks, and has no text yet. -/
theorem exists_of_elementOf {n : CanonicalFields} {r : Resolution} {fields : ViewFields}
    {notes : List ViewNote} (element : s.elementOf frame n r = .ok (fields, notes)) :
    (∃ props more, s.propsOf frame r.omitProps n.props = .ok (props, more) ∧
        fields.props = Entries.merge props (s.marks n r.fallback)) ∧
      fields.text = .null := by
  rw [elementOf] at element
  obtain ⟨⟨props, more⟩, _, taken, element⟩ := exists_of_bind_ok element
  obtain ⟨_, _, -, element⟩ := exists_of_bind_ok element
  obtain ⟨_, _, -, element⟩ := exists_of_bind_ok element
  obtain rfl : fields = _ := eq_of_pure_ok element
  exact ⟨⟨props, more, taken, rfl⟩, rfl⟩

/-- The props of a rendered element are those of the node, with its marks. Its text is that of the
node, unless it never has content. -/
theorem exists_of_viewOf {budget : Nat} {view : View} {notes : List ViewNote}
    (done : s.viewOf budget frame t = .ok (view, notes)) :
    ∃ inner : Frame,
      (∃ props more, s.propsOf inner (s.registry.resolve s.icons t.value).omitProps
          t.value.props = .ok (props, more) ∧
        view.value.props = Entries.merge props
          (s.marks t.value (s.registry.resolve s.icons t.value).fallback)) ∧
      if voidElements.contains (Text.lower (s.registry.resolve s.icons t.value).element) then
        view.value.text = .null
      else ∃ v, t.value.text.resolveOne inner.context = .ok v ∧ view.value.text = shownText v := by
  cases budget with
  | zero => cases done
  | succ budget =>
    rw [viewOf] at done
    obtain ⟨⟨data, _⟩, _, -, done⟩ := exists_of_bind_ok done
    obtain ⟨⟨r, _⟩, _, resolved, done⟩ := exists_of_bind_ok done
    have own : r = s.registry.resolve s.icons t.value := by
      have result := result_resolutionOf s t.value
      rw [resolved] at result
      exact Except.ok.inj result
    obtain ⟨⟨fields, _⟩, _, element, done⟩ := exists_of_bind_ok done
    dsimp only at element done
    obtain ⟨⟨props, more, taken, whole⟩, untold⟩ := exists_of_elementOf element
    rw [← own]
    refine ⟨{ frame with context := frame.context.withData data }, ?_⟩
    split at done
    · rename_i isVoid
      obtain rfl : view = _ := eq_of_pure_ok done
      rw [if_pos isVoid]
      exact ⟨⟨props, more, taken, whole⟩, untold⟩
    · rename_i inside
      obtain ⟨⟨v, _⟩, _, read, done⟩ := exists_of_bind_ok done
      rw [if_neg inside]
      have kept : view.value.props = fields.props ∧ view.value.text = shownText v := by
        split at done
        · obtain rfl : view = _ := eq_of_pure_ok done
          exact ⟨rfl, rfl⟩
        · obtain ⟨views, _, -, done⟩ := exists_of_bind_ok done
          obtain rfl : view = _ := eq_of_pure_ok done
          exact ⟨rfl, rfl⟩
      exact ⟨⟨props, more, taken, kept.1.trans whole⟩, v, Noted.eq_ok_of_ofExcept read, kept.2⟩

/-- A literal prop is shown as it is, unless a mark has its name. -/
theorem get?_props_of_viewOf {budget : Nat} {view : View} {notes : List ViewNote}
    (done : s.viewOf budget frame t = .ok (view, notes))
    (kept : (s.registry.resolve s.icons t.value).omitProps.contains key = false)
    (other : key ≠ stylesheetProp)
    (unmarked : Entries.get? (s.marks t.value (s.registry.resolve s.icons t.value).fallback) key =
      none)
    (found : Entries.get? t.value.props key = some (.str text)) :
    Entries.get? view.value.props key = some (.str text) := by
  obtain ⟨inner, ⟨props, more, taken, merged⟩, -⟩ := exists_of_viewOf done
  rw [merged, Entries.get?_merge (nodup_keys_marks s _ _), unmarked, Option.none_or]
  exact get?_propsOf taken kept other found

/-- A literal text is shown decoded, unless the element never has content. -/
theorem text_of_viewOf {budget : Nat} {view : View} {notes : List ViewNote}
    (done : s.viewOf budget frame t = .ok (view, notes)) (written : t.value.text = .str text) :
    view.value.text =
      if voidElements.contains (Text.lower (s.registry.resolve s.icons t.value).element) then .null
      else .str (Text.decodeEntities text) := by
  obtain ⟨inner, -, shown⟩ := exists_of_viewOf done
  split at shown
  · rename_i isVoid
    rw [if_pos isVoid, shown]
  · rename_i inside
    obtain ⟨v, read, shown⟩ := shown
    rw [written] at read
    obtain rfl : Value.str text = v := Except.ok.inj read
    rw [if_neg inside, shown]
    rfl

end Stage

namespace Tsx

variable {b : Blueprint} {p : Place} {t : CanonicalNode}

/-- The literal strings of a node: what its attributes and its content denote, and what the element
of a view shows. -/
structure Literals (s : Stage) (t : CanonicalNode) (attributes : List Attribute)
    (children : List Markup) (shown : ViewFields) : Prop where
  props : ∀ key text, Entries.get? t.value.props key = some (.str text) ->
    Draft.takes (s.registry.resolve s.icons t.value).omitProps (key, .str text) = true ->
    Entries.get? (s.marks t.value (s.registry.resolve s.icons t.value).fallback) key = none ->
    Entries.get? shown.props key = some (.str text) ∧
      ∃ a ∈ attributes, ∃ denoted, a.Denotes key denoted ∧
        (denoted = text ↔ (Draft.isQuotable text = true -> Text.decodeEntities text = text))
  text : ∀ text, t.value.text = .str text ->
    voidElements.contains (Text.lower (s.registry.resolve s.icons t.value).element) = false ->
    shown.text = .str (Text.decodeEntities text) ∧
      ∃ own inner, children = own.toList ++ inner ∧ (∀ m ∈ inner, ¬ m.Leaf) ∧
        (own = none ↔ Text.decodeEntities text = "") ∧
          ∀ m ∈ own, m.Denotes (Text.decodeEntities text)
  void : voidElements.contains (Text.lower (s.registry.resolve s.icons t.value).element) = true ->
    ∀ text, t.value.text = .str text -> shown.text = .null ∧ children = []

section

variable {s : Stage} {frame : Frame} {view : View} {level : Nat} {seen : List ViewNote}

/-- The part for the props of a node. -/
theorem Draft.literals_of_attributes {names : Declared} {scope : Scope} {as : List Attribute}
    {notes : List Note}
    (given : attributes names scope t.value (s.registry.resolve s.icons t.value).omitProps =
      .ok (as, notes))
    (viewed : s.viewOf level frame t = .ok (view, seen)) {key text : String}
    (found : Entries.get? t.value.props key = some (.str text))
    (taken : takes (s.registry.resolve s.icons t.value).omitProps (key, .str text) = true)
    (unmarked : Entries.get? (s.marks t.value (s.registry.resolve s.icons t.value).fallback) key =
      none) :
    Entries.get? view.value.props key = some (.str text) ∧
      ∃ a ∈ as, ∃ denoted, a.Denotes key denoted ∧
        (denoted = text ↔ (isQuotable text = true -> Text.decodeEntities text = text)) := by
  obtain ⟨a, mem, denotes⟩ := exists_of_attributes_str given (Entries.mem_of_get? found) taken
  refine ⟨?_, a, mem, _, denotes, Jsx.ofProp_eq_iff text⟩
  simp only [takes, Bool.and_eq_true, Bool.not_eq_true', bne_iff_ne] at taken
  obtain ⟨⟨⟨kept, other⟩, -⟩, -⟩ := taken
  exact Stage.get?_props_of_viewOf viewed kept other unmarked found

theorem Draft.MadeOf.literals {less : Nat} {scope : Scope} {tag : String}
    {attributes : List Attribute} {children : List Markup}
    (made : MadeOf b less scope t (.element tag attributes children))
    (registry : s.registry = b.registry) (icons : s.icons = b.icons)
    (viewed : s.viewOf level frame t = .ok (view, seen)) :
    Literals s t attributes children view.value := by
  have same : voidElements.contains
      (Text.lower (s.registry.resolve s.icons t.value).element) = b.isVoid t := by
    rw [Blueprint.isVoid, registry, icons]
  cases made with
  | isVoid _ given isVoid =>
    rw [← registry, ← icons] at given
    refine ⟨fun key text => literals_of_attributes given viewed, fun text _ inside => ?_,
      fun _ text written => ⟨?_, rfl⟩⟩
    · exact absurd (isVoid.symm.trans (same.symm.trans inside)) nofun
    · rw [Stage.text_of_viewOf viewed written, same, if_pos isVoid]
  | @holder _ _ own inner _ _ _ _ _ given inside drafted held =>
    rw [← registry, ← icons] at given
    refine ⟨fun key text => literals_of_attributes given viewed, fun text written _ => ?_,
      fun isVoid => ?_⟩
    · have shown := Stage.text_of_viewOf viewed written
      rw [same, inside] at shown
      rw [written] at drafted
      obtain ⟨empty, denotes⟩ := own_of_text_str drafted
      exact ⟨shown, own, inner, rfl, not_leaf_of_content held, empty, denotes⟩
    · exact absurd (inside.symm.trans (same.symm.trans isVoid)) nofun

end

namespace Module

variable {source : Normalized} {options : Options} {m : Module}

/-- The literal strings of every node that is drafted: a text is shown and denoted alike. So is a
prop, exactly if it stands in braces or has no references to decode. -/
theorem generate_literals (done : generate source options = .ok m) :
    ∃ names, Declared.ofDocument source.document = .ok names ∧
      ∀ p t, Blueprint.Reached ⟨source.document, names, options.registry, options.icons⟩ p t ->
        ∃ attributes children, m.root.Stands (p.layers.map (·.loop))
            (.element (options.registry.resolve options.icons t.value).element attributes
              children) ∧
          ∀ s : Stage, s.registry = options.registry -> s.icons = options.icons ->
            ∀ level frame view seen, s.viewOf level frame t = .ok (view, seen) ->
              Literals s t attributes children view.value := by
  obtain ⟨names, notes, made⟩ := exists_made done
  refine ⟨names, made.declared, fun p t reached => ?_⟩
  obtain ⟨budget, r, drafted, stands⟩ := reached.shows made.drafted
  obtain ⟨less, madeOf⟩ := Draft.exists_madeOf_of_node_ok drafted
  generalize r.1 = markup at madeOf stands
  have element : ∃ attributes children, markup =
      .element (options.registry.resolve options.icons t.value).element attributes children := by
    cases madeOf <;> exact ⟨_, _, rfl⟩
  obtain ⟨attributes, children, rfl⟩ := element
  exact ⟨attributes, children, stands, fun s registry icons level frame view seen viewed =>
    madeOf.literals registry icons viewed⟩

/-- A node with a prop in quotes, with one in braces, and with a text that references are decoded
in. -/
def greeting : Normalized where
  document := {
    version := "1.2"
    root := .node { id := "r", type := "p", text := .str "a < b &amp; \x7bc\x7d",
                    props := [("lang", .str "en"), ("title", .str "\"Hi\" &amp; bye")] } [] }
  diagnostics := []

theorem greeting_literals :
    ∃ m view seen, generate greeting {} = .ok m ∧
      m.root.lines 0 = ["<p lang=\"en\" title=\x7b\"\\\"Hi\\\" &amp; bye\"\x7d>",
        "  \x7b\"a < b & \x7bc\x7d\"\x7d", "</p>"] ∧
      Stage.view { document := greeting.document } = .ok (view, seen) ∧
      view.value.props = [("lang", .str "en"), ("title", .str "\"Hi\" &amp; bye")] ∧
      view.value.text = .str "a < b & \x7bc\x7d" ∧
      ∃ attributes children, m.root.Stands [] (.element "p" attributes children) ∧
        Literals { document := greeting.document } greeting.document.root attributes children
          view.value := by
  have lines : (generate greeting {}).toOption.map (·.root.lines 0) =
      some ["<p lang=\"en\" title=\x7b\"\\\"Hi\\\" &amp; bye\"\x7d>",
        "  \x7b\"a < b & \x7bc\x7d\"\x7d", "</p>"] := by
    decide +kernel
  obtain ⟨view, seen, viewed, props, text⟩ : ∃ view seen,
      Stage.view { document := greeting.document } = .ok (view, seen) ∧
        view.value.props = [("lang", .str "en"), ("title", .str "\"Hi\" &amp; bye")] ∧
        view.value.text = .str "a < b & \x7bc\x7d" := by
    refine ⟨_, _, rfl, rfl, ?_⟩
    decide +kernel
  cases done : generate greeting {} with
  | error fault =>
    rw [done] at lines
    cases lines
  | ok m =>
    rw [done] at lines
    obtain ⟨names, -, each⟩ := generate_literals done
    obtain ⟨attributes, children, stands, literals⟩ := each _ _ .root
    have paragraph : (ComponentRegistry.standard.resolve .standard
        greeting.document.root.value).element = "p" := by decide +kernel
    change m.root.Stands [] (.element (ComponentRegistry.standard.resolve .standard
      greeting.document.root.value).element attributes children) at stands
    rw [paragraph] at stands
    exact ⟨m, view, seen, rfl, Option.some.inj lines, viewed, props, text, attributes, children,
      stands, literals _ rfl rfl _ _ view seen viewed⟩

/-- A document with a reference in a prop that stands in quotes. -/
def ampersand : Value :=
  .object [("version", .str "1.2"), ("ui", .object [("root", .object [("id", .str "r"),
    ("type", .str "div"), ("props", .object [("title", .str "a &amp; b")])])])]

theorem ampersand_altered :
    ∃ source m a view seen, normalize ampersand = .ok source ∧ generate source {} = .ok m ∧
      m.diagnostics = [] ∧ m.root = .element "div" [a] [] ∧ a.text = "title=\"a &amp; b\"" ∧
      a.Denotes "title" "a & b" ∧
      Stage.view { document := source.document } = .ok (view, seen) ∧
      Entries.get? view.value.props "title" = some (.str "a &amp; b") ∧
      ∀ s, a.Denotes "title" s -> Entries.get? view.value.props "title" ≠ some (.str s) := by
  have denoted : Jsx.attribute? "\"a &amp; b\"" = some "a & b" := by decide +kernel
  refine ⟨_, _, _, _, _, rfl, rfl, rfl, rfl, rfl, ⟨_, rfl, denoted⟩, rfl, rfl, ?_⟩
  rintro s ⟨source, spelled, denotes⟩ shown
  have quoted : "\"a &amp; b\"" = source :=
    (@String.append_right_inj "title=" "\"a &amp; b\"" source).mp spelled
  rw [← quoted, denoted] at denotes
  obtain rfl := Option.some.inj denotes
  exact absurd (Value.str.inj (Option.some.inj shown)) (by decide)

end Module

end Tsx

end ViewDoc
