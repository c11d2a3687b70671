import ViewDoc.Proofs.Component.Adapters
import ViewDoc.Proofs.Text.Identifier
/-!
The elements of the standard registry, as they are spelled. Most come from a table. The others are
spelled like the type of the node or like the name of an icon, and have no other characters.
-/

set_option autoImplicit false

namespace ViewDoc

open Text (isTagName isTagChar)

namespace Adapter

/-- Whether the element of a type is spelled like the type. -/
def spellsType (type : String) : Bool :=
  (afterStem? "Mdr" type).isSome || (afterStem? "Mui" type).isSome || isHtmlTag type

/-- What an author wrote that the element of a node is spelled like, if there is such a text. -/
def elementText? (n : CanonicalFields) : Option String :=
  match iconRef? n with
  | some ref =>
    if IconProvider.normalizeId ref.provider = "lucide" then
      some (.ofList (ref.name.toList.filter fun c => !Text.isBlank c))
    else none
  | none => if spellsType n.type then some n.type else none

theorem eq_append_of_afterStem? {stem s rest : String} (found : afterStem? stem s = some rest) :
    s = stem ++ rest := by
  rw [afterStem?] at found
  split at found
  · rename_i front
    cases found
    obtain ⟨more, whole⟩ := List.isPrefixOf_iff_prefix.mp front
    apply String.toList_injective
    rw [String.toList_append, String.toList_ofList, ← whole, List.drop_left]
  · cases found

/-- A type with one stem has no other that begins with another letter, and is no tag if its stem
begins with a capital. -/
theorem spellsType_of_stem (stem : String) (c : Char) {type : String}
    (found : (afterStem? stem type).isSome = true) (first : stem.toList.head? = some c)
    (other : c ≠ 'M') (capital : Text.isLower c = false) : spellsType type = false := by
  obtain ⟨rest, found⟩ := Option.isSome_iff_exists.mp found
  obtain ⟨more, front⟩ := List.head?_eq_some_iff.mp first
  have whole : type.toList = c :: (more ++ rest.toList) := by
    rw [eq_append_of_afterStem? found, String.toList_append, front, List.cons_append]
  have mdr : ("Mdr" : String).toList = ['M', 'd', 'r'] := rfl
  have mui : ("Mui" : String).toList = ['M', 'u', 'i'] := rfl
  simp [spellsType, afterStem?, isHtmlTag, whole, mdr, mui, Ne.symm other, capital]

theorem isTagName_material? {type : String} {r : Resolution} (found : material? type = some r) :
    isTagName r.element = isTagName type := by
  obtain ⟨bare, stem, found⟩ := Option.bind_eq_some_iff.mp found
  split at found
  · cases found
  · cases found
    have known : isTagName "Mui" = true := by decide
    rw [eq_append_of_afterStem? stem, Text.isTagName_append, known, Bool.true_and]

theorem isTagName_noMapping (code suggestion : String) (n : CanonicalFields) :
    isTagName (noMapping code suggestion n).element = true :=
  show isTagName Resolution.fallbackElement = true by decide

theorem isTagName_radix? {type : String} {r : String × String × String}
    (found : radix? type = some r) : isTagName r.1 = (!spellsType type || isTagName type) := by
  rw [radix?.eq_def] at found
  split at found
  · cases found
    decide
  · cases found
    decide
  · cases found

/-- A type that is no tag and has nothing after its stem, if it has one, gets another element. -/
theorem isTagName_tag {n : CanonicalFields} (noMdr : ¬ (afterStem? "Mdr" n.type).isSome)
    (noMui : material? n.type = none) :
    isTagName (tag n).element = (!spellsType n.type || isTagName n.type) := by
  rw [tag]
  split
  · rename_i html
    simp [spellsType, html]
  · rename_i noHtml
    rw [isTagName_noMapping]
    cases stem : afterStem? "Mui" n.type with
    | none => simp [spellsType, stem, noMdr, noHtml]
    | some bare =>
      -- nothing follows the stem, or there would be a component
      have empty : bare = "" := by
        by_contra some_name
        simp [material?, stem, some_name] at noMui
      rw [eq_append_of_afterStem? stem, empty]
      decide

/-- The native adapter spells elements like types, but those of fixed families. -/
theorem isTagName_nativeResolution {n : CanonicalFields}
    (other : afterStem? "Antd" n.type = none) :
    isTagName (nativeResolution n).element = (!spellsType n.type || isTagName n.type) := by
  have noAnt : antDesign? n.type = none := by rw [antDesign?, other]; rfl
  rw [nativeResolution]
  split
  · rename_i container
    rw [container]
    decide
  · split
    · rename_i mdr
      rw [spellsType, mdr]
      rfl
    · rename_i noMdr
      split
      · rename_i found
        exact isTagName_radix? found
      · split
        · rename_i radix
          rw [spellsType_of_stem "Radix" 'R' radix rfl (by decide) (by decide)]
          exact isTagName_noMapping _ _ n
        · rw [noAnt, Option.none_or]
          cases found : material? n.type with
          | some r =>
            rw [Option.getD_some, isTagName_material? found]
            obtain ⟨bare, stem, -⟩ := Option.bind_eq_some_iff.mp found
            rw [spellsType, stem]
            simp
          | none => exact isTagName_tag noMdr found

theorem isTagName_antDesign {icons : IconRegistry} {n : CanonicalFields} {r : Resolution}
    (found : (antDesign "Antd" antDesignComponents).resolve icons n = some r) :
    isTagName r.element = true ∧ spellsType n.type = false := by
  obtain ⟨bare, stem, found⟩ := Option.bind_eq_some_iff.mp found
  have named : (afterStem? "Antd" n.type).isSome = true := by rw [stem]; rfl
  refine ⟨?_, spellsType_of_stem "Antd" 'A' named rfl (by decide) (by decide)⟩
  split at found
  · rename_i element imported listed
    cases found
    have known : antDesignComponents.all (fun c => isTagName c.2.1) = true := by decide
    exact List.all_eq_true.mp known _ (Entries.mem_of_get? listed)
  · cases found
    exact (by decide : isTagName Resolution.fallbackElement = true)

/-- An icon of Lucide is spelled like its name, without blanks. -/
theorem isTagName_pascalCase (name : String) :
    isTagName (IconProvider.pascalCase (Text.trim name)) =
      isTagName (.ofList (name.toList.filter fun c => !Text.isBlank c)) := by
  have breaks (c : Char) : ((c == '-' || c == '_' || Text.isBlank c) || isTagChar c) =
      (Text.isBlank c || isTagChar c) := by
    by_cases hyphen : c = '-'
    · rw [hyphen]
      decide
    · by_cases low : c = '_'
      · rw [low]
        decide
      · rw [beq_eq_false_iff_ne.mpr hyphen, beq_eq_false_iff_ne.mpr low, Bool.false_or,
          Bool.false_or]
  rw [IconProvider.pascalCase, Text.isTagName_intercalate, Text.all_capitalized_words,
    Text.all_words]
  simp only [breaks]
  rw [Text.all_trim fun c blank => by rw [blank]; rfl, isTagName, String.toList_ofList,
    List.all_filter]
  exact List.all_congr rfl fun c => by cases Text.isBlank c <;> rfl

/-- The icons that come along are those of Lucide. -/
theorem standard_icons (ref : IconRef) : IconRegistry.standard.resolve ref =
    if IconProvider.normalizeId ref.provider = "lucide" then
      ⟨some .ready, IconProvider.lucide.resolve ref.name ref.variant, some "lucide-react"⟩
    else { status := none } := by
  have key : IconProvider.normalizeId "lucide" = "lucide" := by decide
  have records : IconRegistry.standard.records = [("lucide",
      { serial := 0, id := "lucide", label := "Lucide", status := .ready,
        provider := some .lucide })] := by
    rw [IconRegistry.standard, IconRegistry.register, key]
    rfl
  rw [IconRegistry.resolve, IconRegistry.record?, records, Entries.get?]
  by_cases same : IconProvider.normalizeId ref.provider = "lucide"
  · rw [if_pos same.symm, if_pos same]
    rfl
  · rw [if_neg (Ne.symm same), if_neg same]
    rfl

theorem isTagName_iconResolution (n : CanonicalFields) (ref : IconRef) :
    isTagName (iconResolution .standard n ref).element =
      (decide (IconProvider.normalizeId ref.provider ≠ "lucide") ||
        isTagName (.ofList (ref.name.toList.filter fun c => !Text.isBlank c))) := by
  have span : isTagName "span" = true := by decide
  rw [iconResolution, standard_icons]
  by_cases lucide : IconProvider.normalizeId ref.provider = "lucide"
  · rw [if_pos lucide, ← isTagName_pascalCase]
    simp only [lucide, ne_eq, not_true_eq_false, decide_false, Bool.false_or]
    by_cases empty : IconProvider.pascalCase (Text.trim ref.name) = ""
    · rw [empty]
      simp only [IconProvider.lucide, empty, if_true, Option.filter_none]
      exact span
    · simp only [IconProvider.lucide, empty, if_false, Option.filter_some,
        not_false_eq_true, decide_true, if_true]
  · rw [if_neg lucide]
    simp only [lucide, ne_eq, not_false_eq_true, decide_true, Bool.true_or]
    exact span

end Adapter

namespace ComponentRegistry

/-- An element of the standard registry has only characters of names exactly if what an author wrote
that it is spelled like has no others. -/
theorem isTagName_element_iff (n : CanonicalFields) :
    isTagName (standard.resolve .standard n).element = true ↔
      ∀ s ∈ Adapter.elementText? n, isTagName s = true := by
  rw [standard_resolve, Adapter.elementText?]
  cases shown : Adapter.iconRef? n with
  | some ref =>
    have own : Adapter.icon.resolve .standard n = some (Adapter.iconResolution .standard n ref) :=
      Option.map_eq_some_iff.mpr ⟨ref, shown, rfl⟩
    rw [own, Option.some_or, Option.getD_some, Adapter.isTagName_iconResolution]
    by_cases lucide : IconProvider.normalizeId ref.provider = "lucide" <;> simp [lucide]
  | none =>
    have noIcon : Adapter.icon.resolve .standard n = none := Option.map_eq_none_iff.mpr shown
    rw [noIcon, Option.none_or]
    cases found : (Adapter.antDesign "Antd" Adapter.antDesignComponents).resolve .standard n with
    | some r =>
      obtain ⟨element, other⟩ := Adapter.isTagName_antDesign found
      simp [element, other]
    | none =>
      have other : Adapter.afterStem? "Antd" n.type = none := by
        cases stem : Adapter.afterStem? "Antd" n.type with
        | none => rfl
        | some bare =>
          change (Adapter.afterStem? "Antd" n.type).bind _ = none at found
          rw [stem] at found
          dsimp only [Option.bind] at found
          split at found <;> cases found
      rw [Option.getD_none, Adapter.isTagName_nativeResolution other]
      by_cases spelled : Adapter.spellsType n.type = true <;> simp [spelled]

end ComponentRegistry

end ViewDoc
