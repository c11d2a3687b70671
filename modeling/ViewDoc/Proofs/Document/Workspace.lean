import ViewDoc.Document.Load
import ViewDoc.Proofs.Text.Trimmed
import ViewDoc.Proofs.Value.Equal
/-!
Which document a workspace snapshot resolves to. The main statement is that the designated page is
looked up again by its id, so that the snapshot resolves to the first document that has this id. That
is the designated page just when no document before it has its id.
-/

set_option autoImplicit false

namespace ViewDoc

namespace Workspace

/-- An entry is the first with a property, after the given ones. -/
def First (p : Entries -> Prop) (documents before : List Entries) (entry : Entries) : Prop :=
  ∃ after, documents = before ++ entry :: after ∧ p entry ∧ ∀ e ∈ before, ¬ p e

/-- The first page at the root is designated, or the first page if none is at the root. -/
inductive Designated (page root : Entries -> Prop) (documents before : List Entries)
    (entry : Entries) : Prop
  | root (first : First (fun e => page e ∧ root e) documents before entry)
  | page (rootless : ∀ e ∈ documents, ¬ (page e ∧ root e))
      (first : First page documents before entry)

/-- A page has the type of pages, and a text as its id that is not empty. -/
def IsNamedPage (entry : Entries) : Prop :=
  Entries.get entry "type" = .str "mir-page" ∧ ∃ id, id ≠ "" ∧ Entries.get entry "id" = .str id

/-- An entry is at the root: it has no path, a blank one, or that of the root. -/
def StandsAtRoot (entry : Entries) : Prop :=
  Entries.get entry "path" = .null ∨
    ∃ path, Entries.get entry "path" = .str path ∧ (Text.isBlankText path = true ∨ path = "/")

/-- An entry counts as a page with any id that holds. -/
def CountsAsPage (entry : Entries) : Prop :=
  Entries.get entry "type" = .str "mir-page" ∧ (Entries.get entry "id").isTruthy = true

/-- An entry counts as one at the root with any path that does not hold, and with blanks around its
path. -/
def CountsAsRoot (entry : Entries) : Prop :=
  (Entries.get entry "path").isTruthy = false ∨
    Text.trim (Entries.get entry "path").display ∈ ["", "/"]

/-- What counts as a page is one, and what counts as one at the root is at the root. -/
def Plain (entry : Entries) : Prop :=
  CountsAsPage entry -> IsNamedPage entry ∧ (CountsAsRoot entry -> StandsAtRoot entry)

variable {documents before : List Entries} {entry : Entries}

theorem first_iff {p : Entries -> Prop} {found : Entries -> Bool}
    (same : ∀ e, found e = true ↔ p e) :
    (∃ before, First p documents before entry) ↔ documents.find? found = some entry := by
  rw [List.find?_eq_some_iff_append]
  constructor
  · rintro ⟨before, after, whole, own, others⟩
    refine ⟨(same entry).mpr own, before, after, whole, fun e mem => ?_⟩
    rw [Bool.not_eq_true', ← Bool.not_eq_true, same]
    exact others e mem
  · rintro ⟨own, before, after, whole, others⟩
    refine ⟨before, after, whole, (same entry).mp own, fun e mem => ?_⟩
    rw [← same, Bool.not_eq_true, ← Bool.not_eq_true']
    exact others e mem

theorem First.congr {p q : Entries -> Prop} (same : ∀ e ∈ documents, p e ↔ q e)
    (first : First p documents before entry) : First q documents before entry := by
  obtain ⟨after, rfl, own, others⟩ := first
  refine ⟨after, rfl, (same entry (by simp)).mp own, fun e mem => ?_⟩
  rw [← same e (List.mem_append_left _ mem)]
  exact others e mem

theorem Designated.congr {page page' root root' : Entries -> Prop}
    (pages : ∀ e ∈ documents, page e ↔ page' e)
    (roots : ∀ e ∈ documents, page e ∧ root e ↔ page' e ∧ root' e)
    (designated : Designated page root documents before entry) :
    Designated page' root' documents before entry := by
  cases designated with
  | root first => exact .root (first.congr roots)
  | page rootless first =>
    exact .page (fun e mem => mt (roots e mem).mpr (rootless e mem)) (first.congr pages)

/-- Something is designated where there is a page. -/
theorem exists_designated {page root : Entries -> Prop} (paged : ∃ e ∈ documents, page e) :
    ∃ before entry, Designated page root documents before entry := by
  classical
  have first {p : Entries -> Prop} (some : ∃ e ∈ documents, p e) :
      ∃ before entry, First p documents before entry := by
    obtain ⟨entry, found⟩ := Option.isSome_iff_exists.mp
      (List.find?_isSome.mpr (some.imp fun e own => ⟨own.1, decide_eq_true own.2⟩))
    obtain ⟨before, first⟩ := (first_iff fun _ => decide_eq_true_iff).mpr found
    exact ⟨before, entry, first⟩
  by_cases rooted : ∃ e ∈ documents, page e ∧ root e
  · obtain ⟨before, entry, found⟩ := first rooted
    exact ⟨before, entry, .root found⟩
  · obtain ⟨before, entry, found⟩ := first paged
    exact ⟨before, entry, .page (fun e mem own => rooted ⟨e, mem, own⟩) found⟩

theorem isPage_iff (e : Entries) : isPage e = true ↔ Entries.get e "type" = .str "mir-page" :=
  beq_iff_eq

theorem isAtRoot_iff (e : Entries) : isAtRoot e = true ↔ CountsAsRoot e := by
  rw [isAtRoot, CountsAsRoot]
  cases (Entries.get e "path").isTruthy <;> simp

theorem CountsAsPage.of_isNamedPage {e : Entries} (page : IsNamedPage e) : CountsAsPage e := by
  obtain ⟨type, id, nonempty, own⟩ := page
  exact ⟨type, by rw [own]; simpa [Value.isTruthy] using nonempty⟩

theorem CountsAsRoot.of_standsAtRoot {e : Entries} (root : StandsAtRoot e) : CountsAsRoot e := by
  rcases root with null | ⟨path, own, blank | rfl⟩
  · exact .inl (by rw [null]; rfl)
  · refine .inr (List.mem_cons.mpr (.inl ?_))
    rw [own]
    exact (Text.trim_eq_empty_iff path).mpr blank
  · exact .inr (by rw [own]; decide +kernel)

/-- The designated id is that of the designated entry. -/
theorem Designated.designatedId
    (designated : Designated CountsAsPage CountsAsRoot documents before entry) :
    designatedId documents = Entries.get entry "id" := by
  have pages (e : Entries) :
      (isPage e && (Entries.get e "id").isTruthy) = true ↔ CountsAsPage e := by
    rw [Bool.and_eq_true, isPage_iff, CountsAsPage]
  have roots (e : Entries) :
      (isPage e && isAtRoot e && (Entries.get e "id").isTruthy) = true ↔
        CountsAsPage e ∧ CountsAsRoot e := by
    rw [Bool.and_right_comm, Bool.and_eq_true, pages, isAtRoot_iff]
  have found :
      ((documents.find? fun e => isPage e && isAtRoot e && (Entries.get e "id").isTruthy).or
          (documents.find? fun e => isPage e && (Entries.get e "id").isTruthy)).or
        documents.head? = some entry := by
    cases designated with
    | root first => rw [(first_iff roots).mp ⟨_, first⟩, Option.some_or, Option.some_or]
    | page rootless first =>
      rw [List.find?_eq_none.mpr fun e mem => mt (roots e).mp (rootless e mem), Option.none_or,
        (first_iff pages).mp ⟨_, first⟩, Option.some_or]
  rw [Workspace.designatedId]
  split
  · rename_i e other
    rw [Option.some.inj (found.symm.trans other)]
  · rename_i nothing
    exact absurd (found.symm.trans nothing) (Option.some_ne_none entry)

theorem Designated.split {page root : Entries -> Prop}
    (designated : Designated page root documents before entry) :
    page entry ∧ ∃ after, documents = before ++ entry :: after := by
  rcases designated with ⟨after, whole, own, -⟩ | ⟨-, after, whole, own, -⟩
  · exact ⟨own.1, after, whole⟩
  · exact ⟨own, after, whole⟩

/-- Among plain entries the same one is designated. -/
theorem Designated.counts (plain : ∀ e ∈ documents, Plain e)
    (designated : Designated IsNamedPage StandsAtRoot documents before entry) :
    Designated CountsAsPage CountsAsRoot documents before entry := by
  have pages (e : Entries) (mem : e ∈ documents) : IsNamedPage e ↔ CountsAsPage e :=
    ⟨.of_isNamedPage, fun counts => (plain e mem counts).1⟩
  refine designated.congr pages fun e mem => ?_
  rw [pages e mem]
  exact and_congr_right fun counts => ⟨.of_standsAtRoot, (plain e mem counts).2⟩

/-- The content of the first entry with the designated id is taken. -/
theorem content?_of_first {earlier : List Entries} {chosen : Entries}
    (designated : Designated CountsAsPage CountsAsRoot documents before entry)
    (first : First (fun e => Value.LooselyEqual (Entries.get e "id") (Entries.get entry "id"))
      documents earlier chosen) :
    content? documents = some (Entries.get chosen "content") := by
  have given : (Entries.get entry "id").isNull = false := by
    have holds := designated.split.1.2
    cases id : Entries.get entry "id" <;> simp_all [Value.isNull, Value.isTruthy]
  rw [content?, designated.designatedId]
  rw [given, (first_iff fun e => Value.equal_iff _ _).mp ⟨_, first⟩]
  rfl

/-- Nothing is taken if no entry is found under the designated id. -/
theorem content?_of_forall_not
    (designated : Designated CountsAsPage CountsAsRoot documents before entry)
    (silent : ∀ e ∈ documents,
      ¬ Value.LooselyEqual (Entries.get e "id") (Entries.get entry "id")) :
    content? documents = none := by
  rw [content?, designated.designatedId]
  rw [List.find?_eq_none.mpr fun e mem => mt (Value.equal_iff _ _).mp (silent e mem)]
  exact ite_self none

end Workspace

namespace Document

open Workspace

variable {v : Value} {documents : List Entries}

/-- What is read from a value, upgraded. -/
def upgradedOf (content : Value) : Except Failure Document := do
  Failure.ofFault (← Failure.ofDecoded (ofValue content)).upgrade

theorem resolve_of_content? (rootless : hasRoot v = false)
    (listed : Workspace.documents? v = some documents) {content : Value}
    (taken : content? documents = some content) : resolve v = upgradedOf content := by
  have value : unwrap v = content := by
    rw [unwrap, rootless, listed, Option.bind_some, taken]
    rfl
  rw [resolve, value, upgradedOf]

theorem resolve_of_content?_eq_none (rootless : hasRoot v = false)
    (listed : Workspace.documents? v = some documents) (nothing : content? documents = none) :
    resolve v = .ok standard := by
  have value : unwrap v = v := by
    rw [unwrap, rootless, listed, Option.bind_some, nothing]
    rfl
  rw [resolve, value, ofValue, rootless]
  rfl

/-- A snapshot with a page resolves to the content of the first document that has the id of what
counts as the designated page, or to the standard document if that id is not equal to itself. Where
nothing but pages counts as one, that is the content of the designated page if no document before it
has its id. -/
theorem resolve_snapshot (rootless : hasRoot v = false)
    (listed : Workspace.documents? v = some documents) (paged : ∃ e ∈ documents, IsNamedPage e) :
    ((∃ before page, Designated CountsAsPage CountsAsRoot documents before page) ∧
      ∀ before page, Designated CountsAsPage CountsAsRoot documents before page ->
        (∀ earlier chosen,
          First (fun e => Value.LooselyEqual (Entries.get e "id") (Entries.get page "id"))
            documents earlier chosen ->
          resolve v = upgradedOf (Entries.get chosen "content")) ∧
        ((∀ e ∈ documents, ¬ Value.LooselyEqual (Entries.get e "id") (Entries.get page "id")) ->
          resolve v = .ok standard)) ∧
    (∃ before page, Designated IsNamedPage StandsAtRoot documents before page) ∧
      ∀ before page, Designated IsNamedPage StandsAtRoot documents before page ->
        (∀ e ∈ documents, Plain e) ->
        (∀ earlier chosen,
          First (fun e => Entries.get e "id" = Entries.get page "id") documents earlier chosen ->
          resolve v = upgradedOf (Entries.get chosen "content")) ∧
        ((∀ e ∈ before, Entries.get e "id" ≠ Entries.get page "id") ->
          resolve v = upgradedOf (Entries.get page "content")) := by
  have counted : ∃ e ∈ documents, CountsAsPage e :=
    paged.imp fun e own => ⟨own.1, .of_isNamedPage own.2⟩
  refine ⟨⟨exists_designated counted, fun before page designated => ⟨fun _ _ first => ?_,
    fun silent => ?_⟩⟩, exists_designated paged, fun before page designated plain => ?_⟩
  · exact resolve_of_content? rootless listed (content?_of_first designated first)
  · exact resolve_of_content?_eq_none rootless listed (content?_of_forall_not designated silent)
  · obtain ⟨⟨-, id, -, own⟩, after, whole⟩ := designated.split
    have found {earlier : List Entries} {chosen : Entries}
        (first : First (fun e => Entries.get e "id" = Entries.get page "id") documents earlier
          chosen) :
        resolve v = upgradedOf (Entries.get chosen "content") := by
      refine resolve_of_content? rootless listed (content?_of_first (designated.counts plain)
        (first.congr fun e _ => ?_))
      rw [own, Value.looselyEqual_str_iff]
    exact ⟨fun _ _ first => found first, fun fresh => found ⟨after, whole, rfl, fresh⟩⟩

/-- An entry whose content has one node. -/
def entryOf (id type path node : String) : Entries :=
  [("id", .str id), ("type", .str type), ("path", .str path),
    ("content", .object [("version", .str "1.2"),
      ("ui", .object [("root", .object [("id", .str node), ("type", .str "div")])])])]

/-- The entries of a snapshot with a component before its pages. -/
def entriesOf (component : String) : List Entries :=
  [entryOf component "mir-component" "" "part", entryOf "about" "mir-page" "/about" "about",
    entryOf "home" "mir-page" " " "home"]

/-- A snapshot that lists entries after one that is no document. -/
def snapshotOf (entries : List Entries) : Value :=
  .object [("documents", .list (.null :: entries.map .object))]

theorem get_entryOf (id type path node : String) :
    Entries.get (entryOf id type path node) "id" = .str id ∧
      Entries.get (entryOf id type path node) "type" = .str type := by
  simp [entryOf, Entries.get, Entries.get?]

theorem isNamedPage_home : IsNamedPage (entryOf "home" "mir-page" " " "home") :=
  ⟨rfl, "home", by decide, rfl⟩

theorem standsAtRoot_home : StandsAtRoot (entryOf "home" "mir-page" " " "home") :=
  .inr ⟨" ", rfl, .inl (by decide +kernel)⟩

theorem not_isNamedPage_component (id : String) :
    Entries.get (entryOf id "mir-component" "" "part") "type" ≠ .str "mir-page" := by
  rw [(get_entryOf ..).2]
  exact fun same => absurd (Value.str.inj same) (by decide)

theorem not_countsAsRoot_about : ¬ CountsAsRoot (entryOf "about" "mir-page" "/about" "about") := by
  rw [CountsAsRoot]
  decide +kernel

theorem designated_entriesOf (component : String) :
    Designated IsNamedPage StandsAtRoot (entriesOf component)
      [entryOf component "mir-component" "" "part", entryOf "about" "mir-page" "/about" "about"]
      (entryOf "home" "mir-page" " " "home") :=
  .root ⟨[], rfl, ⟨isNamedPage_home, standsAtRoot_home⟩, List.forall_mem_cons.mpr
    ⟨fun own => not_isNamedPage_component component own.1.1, List.forall_mem_singleton.mpr
      fun own => not_countsAsRoot_about (.of_standsAtRoot own.2)⟩⟩

theorem plain_entriesOf (component : String) : ∀ e ∈ entriesOf component, Plain e := by
  have about : IsNamedPage (entryOf "about" "mir-page" "/about" "about") :=
    ⟨rfl, "about", by decide, rfl⟩
  exact List.forall_mem_cons.mpr
    ⟨fun counts => absurd counts.1 (not_isNamedPage_component component), List.forall_mem_cons.mpr
      ⟨fun _ => ⟨about, fun root => absurd root not_countsAsRoot_about⟩,
        List.forall_mem_singleton.mpr fun _ => ⟨isNamedPage_home, fun _ => standsAtRoot_home⟩⟩⟩

/-- The page at the root is resolved though a component and another page come before it. -/
theorem entriesOf_home :
    hasRoot (snapshotOf (entriesOf "part")) = false ∧
      Workspace.documents? (snapshotOf (entriesOf "part")) = some (entriesOf "part") ∧
      (∃ e ∈ entriesOf "part", IsNamedPage e) ∧
      (resolve (snapshotOf (entriesOf "part"))).toOption.map (·.root.value.id) = some "home" := by
  have rootless : hasRoot (snapshotOf (entriesOf "part")) = false := rfl
  have listed : Workspace.documents? (snapshotOf (entriesOf "part")) = some (entriesOf "part") :=
    rfl
  have paged : ∃ e ∈ entriesOf "part", IsNamedPage e :=
    ⟨_, by simp [entriesOf], isNamedPage_home⟩
  have done := ((resolve_snapshot rootless listed paged).2.2 _ _ (designated_entriesOf "part")
    (plain_entriesOf "part")).2 (by decide +kernel)
  rw [done]
  exact ⟨rootless, listed, paged, by decide +kernel⟩

/-- A component that has the id of the designated page is resolved in its place. -/
theorem entriesOf_part :
    hasRoot (snapshotOf (entriesOf "home")) = false ∧
      Workspace.documents? (snapshotOf (entriesOf "home")) = some (entriesOf "home") ∧
      (∃ before, Designated IsNamedPage StandsAtRoot (entriesOf "home") before
        (entryOf "home" "mir-page" " " "home")) ∧
      (resolve (snapshotOf (entriesOf "home"))).toOption.map (·.root.value.id) = some "part" :=
  ⟨rfl, rfl, ⟨_, designated_entriesOf "home"⟩, by decide +kernel⟩

end Document

end ViewDoc
