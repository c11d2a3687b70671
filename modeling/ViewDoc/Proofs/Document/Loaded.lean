import ViewDoc.Document.Load
import ViewDoc.Proofs.Document.Readable
import ViewDoc.Proofs.Json.Read
/-!
Which files are loaded, and which errors are told of the others. The main statement is the condition
under which a file gives a document or an error that is told to users: if it can be opened, it holds
a text without an integer of too many digits, and an object in it stands for something that can be
read. Any other file stops the work with a failure that is not told.
-/

set_option autoImplicit false

namespace ViewDoc

/-- The family of a failure that is told to users. -/
def Failure.kind? : Failure -> Option ErrorKind
  | .reported e => some e.kind
  | .rejected kind _ _ => some kind
  | _ => none

/-- The file that a path leads to from a base holds a text. -/
def Storage.HoldsText (s : Storage) (base : Location) (path text : String) : Prop :=
  '\x00' ∉ path.toList ∧
    ∃ bytes, s.readPath base path = .ok bytes ∧ String.fromUTF8? bytes = some text

theorem Value.hasDistinctKeys_get {es : Entries} (distinct : (object es).hasDistinctKeys = true)
    (key : String) : (Entries.get es key).hasDistinctKeys = true := by
  rw [Entries.get]
  cases found : Entries.get? es key with
  | none => rfl
  | some v => exact hasDistinctKeys_of_get? distinct found

namespace Workspace

variable {v content : Value} {documents : List Entries}

theorem hasDistinctKeys_of_documents? (distinct : v.hasDistinctKeys = true)
    (listed : documents? v = some documents) :
    ∀ d ∈ documents, (Value.object d).hasDistinctKeys = true := by
  rw [documents?.eq_def] at listed
  split at listed
  · rename_i es
    obtain ⟨items, found, rfl⟩ := Option.map_eq_some_iff.mp listed
    have inner := Value.hasDistinctKeys_get distinct "documents"
    intro d mem
    obtain ⟨item, among, entries⟩ := List.mem_filterMap.mp mem
    cases held : Entries.get es "documents" with
    | list inside =>
      rw [held] at found inner
      cases found
      have own := Value.hasDistinctKeys_of_mem_items inner among
      cases item with
      | object _ =>
        cases entries
        exact own
      | _ => cases entries
    | _ =>
      rw [held] at found
      cases found
  · cases listed

theorem hasDistinctKeys_of_content?
    (distinct : ∀ d ∈ documents, (Value.object d).hasDistinctKeys = true)
    (taken : content? documents = some content) : content.hasDistinctKeys = true := by
  rw [content?] at taken
  split at taken
  · cases taken
  · obtain ⟨d, found, rfl⟩ := Option.map_eq_some_iff.mp taken
    exact Value.hasDistinctKeys_get (distinct d (List.mem_of_find?_eq_some found)) "content"

/-- What a snapshot stands for has distinct keys if the snapshot has. -/
theorem hasDistinctKeys_unwrap (distinct : v.hasDistinctKeys = true) :
    (unwrap v).hasDistinctKeys = true := by
  rw [unwrap]
  split
  · exact distinct
  · cases taken : (documents? v).bind content? with
    | none => exact distinct
    | some content =>
      obtain ⟨documents, listed, taken⟩ := Option.bind_eq_some_iff.mp taken
      exact hasDistinctKeys_of_content? (hasDistinctKeys_of_documents? distinct listed) taken

end Workspace

namespace Document

/-- A source can be resolved: what it stands for has no tree, or can be read. -/
def Loadable (v : Value) : Prop :=
  ∀ es, Workspace.unwrap v = .object es -> hasRoot (.object es) = true -> Readable es

theorem resolve_ok_iff {v : Value} (distinct : v.hasDistinctKeys = true) :
    (∃ d, resolve v = .ok d) ↔ Loadable v := by
  have upgraded : (∃ d, resolve v = .ok d) ↔
      ∃ d, ofValue (Workspace.unwrap v) = .value d ∧ Version.Readable d.version := by
    simp only [resolve, Failure.bind_eq_ok_iff, Failure.ofDecoded_eq_ok_iff,
      Failure.ofFault_eq_ok_iff, ← upgrade_ok_iff]
    constructor
    · rintro ⟨u, d, read, done⟩
      exact ⟨d, read, u, done⟩
    · rintro ⟨d, read, u, done⟩
      exact ⟨u, d, read, done⟩
  have inner := Workspace.hasDistinctKeys_unwrap distinct
  rw [upgraded, Loadable]
  cases content : Workspace.unwrap v with
  | object es =>
    rw [content] at inner
    rw [exists_ofValue_iff inner]
    constructor
    · rintro readable _ same
      cases same
      exact readable
    · exact fun readable => readable es rfl
  | _ =>
    refine iff_of_true ⟨standard, rfl, readable_latestVersion⟩ ?_
    rintro es same -
    cases same

/-- Resolving tells no errors to users. -/
theorem kind?_of_resolve {v : Value} {f : Failure} (failed : resolve v = .error f) :
    f.kind? = none := by
  rw [resolve] at failed
  cases read : ofValue (Workspace.unwrap v) with
  | value d =>
    rw [read] at failed
    cases upgraded : d.upgrade with
    | ok u =>
      simp only [upgraded, Failure.ofDecoded, bind, Except.bind, Failure.ofFault] at failed
      cases failed
    | error fault =>
      simp only [upgraded, Failure.ofDecoded, bind, Except.bind, Failure.ofFault] at failed
      cases failed
      rfl
  | problems ps =>
    rw [read] at failed
    cases failed
    rfl
  | fault fault =>
    rw [read] at failed
    cases failed
    rfl

/-- The work gives a document, or an error in a document is told to users. -/
def Settled (x : Except Failure Document) : Prop :=
  (∃ d, x = .ok d) ∨ ∃ f, x = .error f ∧ f.kind? = some .document

theorem settled_error_iff (f : Failure) : Settled (.error f) ↔ f.kind? = some .document := by
  simp [Settled]

theorem settled_resolve_iff {v : Value} (distinct : v.hasDistinctKeys = true) :
    Settled (resolve v) ↔ Loadable v := by
  rw [← resolve_ok_iff distinct, Settled, or_iff_left]
  rintro ⟨f, failed, kind⟩
  cases (kind?_of_resolve failed).symm.trans kind

/-- The error that is told of the file a path leads to. -/
def told (path message : String) : Failure :=
  .reported ⟨.document, message, some { source := some (Location.spelling path) }⟩

/-- What is wrong with the file that a path leads to, if it is told to users. -/
inductive Faulty (s : Storage) (base : Location) (path : String) : String -> Prop
  | unread {fault : StorageFault} (named : '\x00' ∉ path.toList)
      (refused : s.readPath base path = .error fault) : Faulty s base path "Cannot read document"
  | malformed {text : String} (held : s.HoldsText base path text)
      (read : Json.read text = .error .malformed) : Faulty s base path "Invalid JSON"
  | noObject {text : String} {v : Value} (held : s.HoldsText base path text)
      (read : Json.read text = .ok v) (other : ∀ es, v ≠ .object es) :
      Faulty s base path "Document must be a JSON object"

/-- What stops the work on the file that a path leads to without being told to users: a path that no
file has, bytes that are no text, or an integer of too many digits. -/
inductive Untold (s : Storage) (base : Location) (path : String) : Prop
  | nullInPath (null : '\x00' ∈ path.toList)
  | notText {bytes : ByteArray} (named : '\x00' ∉ path.toList)
      (found : s.readPath base path = .ok bytes) (strange : String.fromUTF8? bytes = none)
  | longNumeral {text : String} (held : s.HoldsText base path text)
      (read : Json.read text = .error .longNumeral)

section

variable {s : Storage} {base : Location} {path text message : String} {es : Entries}

theorem load_of_named (named : '\x00' ∉ path.toList) :
    load s base path =
      match s.readPath base path with
      | .error _ => .error (told path "Cannot read document")
      | .ok bytes =>
        match String.fromUTF8? bytes with
        | none => .error .notText
        | some text => ofText (Location.spelling path) text := by
  rw [load, if_neg (by simpa using named)]
  rfl

theorem load_of_holdsText (held : s.HoldsText base path text) :
    load s base path = ofText (Location.spelling path) text := by
  obtain ⟨named, bytes, found, decoded⟩ := held
  rw [load_of_named named, found]
  simp only [decoded]

theorem load_of_object (held : s.HoldsText base path text)
    (read : Json.read text = .ok (.object es)) : load s base path = resolve (.object es) := by
  rw [load_of_holdsText held, ofText, read]

theorem load_of_faulty (faulty : Faulty s base path message) :
    load s base path = .error (told path message) := by
  cases faulty with
  | unread named refused => rw [load_of_named named, refused]
  | malformed held read =>
    rw [load_of_holdsText held, ofText, read]
    rfl
  | @noObject text v held read other =>
    rw [load_of_holdsText held, ofText, read]
    cases v with
    | object es => exact (other es rfl).elim
    | _ => rfl

theorem load_of_untold (untold : Untold s base path) :
    ∃ f, load s base path = .error f ∧ f.kind? = none := by
  cases untold with
  | nullInPath null =>
    refine ⟨.fault .nullInPath, ?_, rfl⟩
    rw [load, if_pos (by simpa using null)]
  | notText named found strange =>
    refine ⟨.notText, ?_, rfl⟩
    rw [load_of_named named, found]
    simp only [strange]
  | longNumeral held read =>
    refine ⟨.fault (.numeral ""), ?_, rfl⟩
    rw [load_of_holdsText held, ofText, read]

/-- A file holds an object, or something is wrong with it. -/
theorem file_cases (s : Storage) (base : Location) (path : String) :
    (∃ text es, s.HoldsText base path text ∧ Json.read text = .ok (.object es)) ∨
      (∃ message, Faulty s base path message) ∨ Untold s base path := by
  by_cases named : '\x00' ∈ path.toList
  · exact .inr (.inr (.nullInPath named))
  cases found : s.readPath base path with
  | error fault => exact .inr (.inl ⟨_, .unread named found⟩)
  | ok bytes =>
    cases decoded : String.fromUTF8? bytes with
    | none => exact .inr (.inr (.notText named found decoded))
    | some text =>
      have held : s.HoldsText base path text := ⟨named, bytes, found, decoded⟩
      match read : Json.read text with
      | .error .malformed => exact .inr (.inl ⟨_, .malformed held read⟩)
      | .error .longNumeral => exact .inr (.inr (.longNumeral held read))
      | .ok v =>
        by_cases object : ∃ es, v = .object es
        · obtain ⟨es, rfl⟩ := object
          exact .inl ⟨text, es, held, read⟩
        · exact .inr (.inl ⟨_, .noObject held read (not_exists.mp object)⟩)

theorem exists_load_iff (s : Storage) (base : Location) (path : String) :
    (∃ d, load s base path = .ok d) ↔ ∃ text es, s.HoldsText base path text ∧
      Json.read text = .ok (.object es) ∧ Loadable (.object es) := by
  constructor
  · rintro ⟨d, done⟩
    obtain ⟨text, es, held, read⟩ | ⟨message, faulty⟩ | untold := file_cases s base path
    · rw [load_of_object held read] at done
      have distinct := Json.hasDistinctKeys_of_read read
      exact ⟨text, es, held, read, (resolve_ok_iff distinct).mp ⟨d, done⟩⟩
    · cases (load_of_faulty faulty).symm.trans done
    · obtain ⟨f, failed, -⟩ := load_of_untold untold
      cases failed.symm.trans done
  · rintro ⟨text, es, held, read, loadable⟩
    rw [load_of_object held read]
    exact (resolve_ok_iff (Json.hasDistinctKeys_of_read read)).mpr loadable

theorem load_told_iff (s : Storage) (base : Location) (path : String) (f : Failure) :
    load s base path = .error f ∧ f.kind? ≠ none ↔
      ∃ message, Faulty s base path message ∧ f = told path message := by
  constructor
  · rintro ⟨failed, reported⟩
    obtain ⟨text, es, held, read⟩ | ⟨message, faulty⟩ | untold := file_cases s base path
    · rw [load_of_object held read] at failed
      exact absurd (kind?_of_resolve failed) reported
    · cases (load_of_faulty faulty).symm.trans failed
      exact ⟨message, faulty, rfl⟩
    · obtain ⟨g, same, silent⟩ := load_of_untold untold
      cases same.symm.trans failed
      exact absurd silent reported
  · rintro ⟨message, faulty, rfl⟩
    exact ⟨load_of_faulty faulty, Option.some_ne_none _⟩

theorem settled_load_iff (s : Storage) (base : Location) (path : String) :
    Settled (load s base path) ↔ ¬ Untold s base path ∧ ∀ text es,
      s.HoldsText base path text -> Json.read text = .ok (.object es) -> Loadable (.object es) := by
  constructor
  · refine fun settled => ⟨fun untold => ?_, fun text es held read => ?_⟩
    · obtain ⟨f, failed, silent⟩ := load_of_untold untold
      rw [failed, settled_error_iff, silent] at settled
      cases settled
    · rw [load_of_object held read] at settled
      exact (settled_resolve_iff (Json.hasDistinctKeys_of_read read)).mp settled
  · rintro ⟨clear, every⟩
    obtain ⟨text, es, held, read⟩ | ⟨message, faulty⟩ | untold := file_cases s base path
    · rw [load_of_object held read]
      exact (settled_resolve_iff (Json.hasDistinctKeys_of_read read)).mpr (every text es held read)
    · exact .inr ⟨_, load_of_faulty faulty, rfl⟩
    · exact absurd untold clear

end

theorem fromUTF8?_toUTF8 (text : String) : String.fromUTF8? text.toUTF8 = some text := by
  rw [String.toUTF8_eq_toByteArray, String.fromUTF8?, dif_pos text.isValidUTF8]
  rfl

/-- Storage with an object without a tree, a list, a text that breaks off, and a byte that is no
text. -/
def fourFiles : Storage where
  files := [(["plain.json"], "\x7b\x7d".toUTF8), (["list.json"], "[]".toUTF8),
    (["open.json"], "[".toUTF8), (["byte.json"], ⟨#[0xff]⟩)]

end Document

end ViewDoc
