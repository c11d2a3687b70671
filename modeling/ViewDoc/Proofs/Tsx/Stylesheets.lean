import ViewDoc.Proofs.Text.Trimmed
import ViewDoc.Proofs.Tsx.Gathers
/-!
The stylesheets that a module takes from its document, by their paths. A path is never empty and
never steps up. It starts with a slash exactly if steps that stay in the directory are written before
the slash, as only the slashes before such steps are dropped.
-/

set_option autoImplicit false

namespace ViewDoc.Tsx

namespace Stylesheet

/-- Some steps that stay in the directory, as they are written. -/
def stays (n : Nat) : List Char :=
  (List.replicate n ['.', '/']).flatten

theorem withoutStays_stays_append (n : Nat) (cs : List Char) :
    withoutStays (stays n ++ cs) = withoutStays cs := by
  induction n with
  | zero => rfl
  | succ n ih => exact ih

theorem exists_stays (cs : List Char) : ∃ n, cs = stays n ++ withoutStays cs := by
  induction cs using withoutStays.induct with
  | case1 rest ih =>
    obtain ⟨n, whole⟩ := ih
    exact ⟨n + 1, congrArg (fun cs => '.' :: '/' :: cs) whole⟩
  | case2 cs other =>
    refine ⟨0, ?_⟩
    rw [withoutStays]
    · rfl
    · exact other

theorem head?_withoutStays_iff (cs : List Char) :
    (withoutStays cs).head? = some '/' ↔ ∃ n rest, cs = stays n ++ '/' :: rest := by
  constructor
  · intro first
    obtain ⟨n, whole⟩ := exists_stays cs
    cases tail : withoutStays cs with
    | nil =>
      rw [tail] at first
      cases first
    | cons c rest =>
      rw [tail] at first whole
      cases first
      exact ⟨n, rest, whole⟩
  · rintro ⟨n, rest, rfl⟩
    rw [withoutStays_stays_append]
    rfl

/-- Steps that stay in the directory are written before a slash. -/
def HidesSlash (written : String) : Prop :=
  ∃ n rest, (Text.trim written).toList.dropWhile (· == '/') = stays (n + 1) ++ '/' :: rest

theorem head?_relativePath_iff (written : String) :
    (relativePath written).toList.head? = some '/' ↔ HidesSlash written := by
  rw [relativePath, String.toList_ofList, head?_withoutStays_iff]
  constructor
  · rintro ⟨n, rest, whole⟩
    cases n with
    | zero =>
      have first : '/' ∈ ((Text.trim written).toList.dropWhile (· == '/')).head? := by
        rw [whole]
        rfl
      exact absurd (Text.eq_false_of_mem_head?_dropWhile _ first) (by decide)
    | succ n => exact ⟨n, rest, whole⟩
  · rintro ⟨n, rest, whole⟩
    exact ⟨n + 1, rest, whole⟩

/-- A path that a stylesheet may have. -/
def Admits (path : String) : Prop :=
  path ≠ "" ∧ ".." ∉ Text.split '/' path

theorem ofValue?_object (es : Entries) :
    ofValue? (.object es) = (Entries.get es "path").asText?.bind fun written =>
      (Entries.get es "content").asText?.bind fun content =>
        if relativePath written = "" || (Text.split '/' (relativePath written)).contains ".." then none
        else some ⟨relativePath written, content⟩ :=
  rfl

theorem ofValue?_eq_some_iff (v : Value) (s : Stylesheet) :
    ofValue? v = some s ↔ ∃ es written, v = .object es ∧
      (Entries.get es "path").asText? = some written ∧
      (Entries.get es "content").asText? = some s.content ∧
      s.path = relativePath written ∧ Admits s.path := by
  have refused (path : String) :
      (path = "" || (Text.split '/' path).contains "..") = true ↔ ¬ Admits path := by
    simp [Admits, Decidable.or_iff_not_imp_left]
  constructor
  · intro found
    cases v with
    | object es =>
      rw [ofValue?_object] at found
      obtain ⟨written, given, found⟩ := Option.bind_eq_some_iff.mp found
      obtain ⟨content, inside, found⟩ := Option.bind_eq_some_iff.mp found
      split at found
      · cases found
      · rename_i admitted
        rw [refused, Classical.not_not] at admitted
        obtain rfl := Option.some.inj found
        exact ⟨es, written, rfl, given, inside, rfl, admitted⟩
    | _ => exact nomatch found
  · rintro ⟨es, written, rfl, given, inside, path, admitted⟩
    rw [ofValue?_object, given, Option.bind_some, inside, Option.bind_some, ← path,
      if_neg (mt (refused s.path).mp (Classical.not_not.mpr admitted))]

theorem mem_listed_iff (omitted : List String) (props : Entries) (s : Stylesheet) :
    s ∈ listed omitted props ↔ stylesheetProp ∉ omitted ∧
      ∃ items, (stylesheetProp, .list items) ∈ props ∧ ∃ v ∈ items, ofValue? v = some s := by
  rw [listed, List.mem_flatMap]
  constructor
  · rintro ⟨⟨key, v⟩, mem, found⟩
    split at found
    · cases found
    · rename_i kept
      split at found
      · rename_i same
        obtain rfl : key = stylesheetProp := same
        split at found
        · rename_i items list
          obtain rfl : v = .list items := list
          exact ⟨fun among => kept (List.contains_iff_mem.mpr among), items, mem,
            List.mem_filterMap.mp found⟩
        · cases found
      · cases found
  · rintro ⟨kept, items, mem, found⟩
    refine ⟨(stylesheetProp, .list items), mem, ?_⟩
    rw [if_neg fun among => kept (List.contains_iff_mem.mp among), if_pos rfl]
    exact List.mem_filterMap.mpr found

end Stylesheet

/-- A node lists a stylesheet, under a path as it is written, for an element that takes it. -/
def Blueprint.Lists (b : Blueprint) (t : CanonicalNode) (written content : String) : Prop :=
  stylesheetProp ∉ (b.registry.resolve b.icons t.value).omitProps ∧
    ∃ items, (stylesheetProp, .list items) ∈ t.value.props ∧ ∃ es, .object es ∈ items ∧
      (Entries.get es "path").asText? = some written ∧
      (Entries.get es "content").asText? = some content

theorem Blueprint.mem_sheets_iff (b : Blueprint) (t : CanonicalNode) (s : Stylesheet) :
    s ∈ b.sheets t ↔ Stylesheet.Admits s.path ∧
      ∃ written, b.Lists t written s.content ∧ s.path = Stylesheet.relativePath written := by
  rw [sheets, Stylesheet.mem_listed_iff]
  constructor
  · rintro ⟨kept, items, listed, v, mem, found⟩
    obtain ⟨es, written, rfl, given, inside, path, admitted⟩ :=
      (Stylesheet.ofValue?_eq_some_iff v s).mp found
    exact ⟨admitted, written, ⟨kept, items, listed, es, mem, given, inside⟩, path⟩
  · rintro ⟨admitted, written, ⟨kept, items, listed, es, mem, given, inside⟩, path⟩
    have found : Stylesheet.ofValue? (.object es) = some s :=
      (Stylesheet.ofValue?_eq_some_iff _ s).mpr ⟨es, written, rfl, given, inside, path, admitted⟩
    exact ⟨kept, items, listed, .object es, mem, found⟩

/-- The stylesheets of a module have the admitted ones among the paths that its nodes list. -/
theorem Module.Made.mem_stylesheet_paths_iff {source : Normalized} {options : Options} {m : Module}
    {names : Declared} {notes : List Note} (made : Made source options names notes m)
    (path : String) :
    path ∈ m.stylesheets.map (·.path) ↔ Stylesheet.Admits path ∧
      ∃ t, (Blueprint.ofSource source options names).Includes t ∧ ∃ written content,
        (Blueprint.ofSource source options names).Lists t written content ∧
        path = Stylesheet.relativePath written := by
  constructor
  · intro mem
    obtain ⟨s, kept, rfl⟩ := List.mem_map.mp mem
    obtain ⟨t, included, listed⟩ := made.exists_of_mem_stylesheets kept
    obtain ⟨admitted, written, lists, path⟩ := (Blueprint.mem_sheets_iff _ t s).mp listed
    exact ⟨admitted, t, included, written, s.content, lists, path⟩
  · rintro ⟨admitted, t, included, written, content, lists, same⟩
    have listed := (Blueprint.mem_sheets_iff _ t ⟨path, content⟩).mpr
      ⟨admitted, written, lists, same⟩
    obtain ⟨s, mem, own⟩ := made.exists_mem_stylesheets included listed
    exact List.mem_map.mpr ⟨s, mem, own⟩

end ViewDoc.Tsx
