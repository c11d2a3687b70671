import Mathlib.Data.List.Nodup
import ViewDoc.Tree
/-!
Trees by the positions of their nodes. The main statements are that the positions tell the nodes
apart, that they list the values in document order, that the nodes on the way to a position are met by
a walk, and that a walk leaves out no descendant.
-/

set_option autoImplicit false

namespace ViewDoc.Tree

variable {α β : Type}

theorem walkAll_eq_flatMap (ts : List (Tree α)) : walkAll ts = ts.flatMap walk := by
  induction ts with
  | nil => rfl
  | cons t rest ih => rw [walkAll, ih, List.flatMap_cons]

theorem mem_walk_self (t : Tree α) : t ∈ t.walk := by
  cases t
  exact List.mem_cons_self

/-- A walk meets what the walks of the children meet. -/
theorem walk_subset_of_mem_children {t c : Tree α} (child : c ∈ t.children) : c.walk ⊆ t.walk := by
  cases t with
  | node a cs =>
    rw [walk, walkAll_eq_flatMap]
    exact fun m mem => List.mem_cons_of_mem _ (List.mem_flatMap.mpr ⟨c, child, mem⟩)

/-- With a node a walk meets the children of that node. -/
theorem mem_walk_of_mem_children {root t c : Tree α} (mem : t ∈ root.walk)
    (child : c ∈ t.children) : c ∈ root.walk := by
  induction root using induct with
  | node a cs ih =>
    rw [walk, walkAll_eq_flatMap, List.mem_cons, List.mem_flatMap] at mem
    rcases mem with rfl | ⟨s, first, below⟩
    · exact walk_subset_of_mem_children child (mem_walk_self c)
    · exact walk_subset_of_mem_children first (ih s first below)

/-- Every node that a walk meets has a position. -/
theorem exists_at?_of_mem_walk {root t : Tree α} (mem : t ∈ root.walk) :
    ∃ place, root.at? place = some t := by
  induction root using induct with
  | node a cs ih =>
    rw [walk, walkAll_eq_flatMap, List.mem_cons, List.mem_flatMap] at mem
    rcases mem with rfl | ⟨c, child, below⟩
    · exact ⟨[], rfl⟩
    · obtain ⟨place, found⟩ := ih c child below
      obtain ⟨i, taken⟩ := List.mem_iff_getElem?.mp child
      refine ⟨i :: place, ?_⟩
      rw [at?, children, taken]
      exact found

theorem at?_append (t : Tree α) (place rest : List Nat) :
    t.at? (place ++ rest) = (t.at? place).bind fun n => n.at? rest := by
  induction place generalizing t with
  | nil => rfl
  | cons i place ih =>
    rw [List.cons_append, at?, at?]
    split
    · exact ih _
    · rfl

/-- What stands above a position has children. -/
theorem children_ne_nil_of_at? {t n m : Tree α} {place : List Nat} {k : Nat}
    (found : t.at? place = some n) (above : t.at? (place.take k) = some m)
    (inside : k < place.length) : m.children ≠ [] := by
  rw [← List.take_append_drop k place, at?_append, above, Option.bind_some,
    List.drop_eq_getElem_cons inside, at?] at found
  intro none
  rw [none] at found
  cases found

theorem along_cons_of_at? {t c : Tree α} {i : Nat} (taken : t.children[i]? = some c)
    (place : List Nat) : t.along (i :: place) = t.value :: c.along place := by
  rw [along, taken]

theorem getLast?_along {t n : Tree α} {place : List Nat} (found : t.at? place = some n) :
    (t.along place).getLast? = some n.value := by
  induction place generalizing t with
  | nil =>
    obtain rfl := Option.some.inj found
    rfl
  | cons i rest ih =>
    rw [at?] at found
    split at found
    · rename_i c taken
      rw [along_cons_of_at? taken, List.getLast?_cons, ih found]
      rfl
    · cases found

/-- The values on the way to a position are those of nodes that a walk meets, and all but the last
are those of nodes with children. -/
theorem exists_mem_walk_of_mem_along {t n : Tree α} {place : List Nat}
    (found : t.at? place = some n) :
    (∀ a ∈ t.along place, ∃ m ∈ t.walk, m.value = a) ∧
      ∀ a ∈ (t.along place).dropLast, ∃ m ∈ t.walk, m.value = a ∧ m.children ≠ [] := by
  induction place generalizing t with
  | nil => exact ⟨List.forall_mem_singleton.mpr ⟨t, mem_walk_self t, rfl⟩, nofun⟩
  | cons i rest ih =>
    rw [at?] at found
    split at found
    · rename_i c taken
      have child := List.mem_of_getElem? taken
      obtain ⟨all, before⟩ := ih found
      have below : c.along rest ≠ [] := by cases rest <;> simp [along]
      rw [along_cons_of_at? taken, List.dropLast_cons_of_ne_nil below]
      constructor
      · refine List.forall_mem_cons.mpr ⟨⟨t, mem_walk_self t, rfl⟩, fun a mem => ?_⟩
        obtain ⟨m, met, same⟩ := all a mem
        exact ⟨m, walk_subset_of_mem_children child met, same⟩
      · refine List.forall_mem_cons.mpr
          ⟨⟨t, mem_walk_self t, rfl, List.ne_nil_of_mem child⟩, fun a mem => ?_⟩
        obtain ⟨m, met, same⟩ := before a mem
        exact ⟨m, walk_subset_of_mem_children child met, same⟩
    · cases found

mutual

theorem map_value_walk (place : List Nat) (t : Tree α) :
    t.walk.map value = (t.located place).map (·.2) := by
  cases t with
  | node a cs => simp only [walk, located, value, List.map_cons, map_value_walkAll place 0 cs]
termination_by structural t

theorem map_value_walkAll (place : List Nat) (i : Nat) (ts : List (Tree α)) :
    (walkAll ts).map value = (locatedAll place i ts).map (·.2) := by
  cases ts with
  | nil => rfl
  | cons t rest =>
    simp only [walkAll, locatedAll, List.map_append, map_value_walk (place ++ [i]) t,
      map_value_walkAll place (i + 1) rest]
termination_by structural ts

end

mutual

theorem located_map (f : α -> β) (place : List Nat) (t : Tree α) :
    (t.map f).located place = (t.located place).map fun p => (p.1, f p.2) := by
  cases t with
  | node a cs => simp only [map, located, List.map_cons, locatedAll_mapAll f place 0 cs]
termination_by structural t

theorem locatedAll_mapAll (f : α -> β) (place : List Nat) (i : Nat) (ts : List (Tree α)) :
    locatedAll place i (mapAll f ts) = (locatedAll place i ts).map fun p => (p.1, f p.2) := by
  cases ts with
  | nil => rfl
  | cons t rest =>
    simp only [mapAll, locatedAll, List.map_append, located_map f (place ++ [i]) t,
      locatedAll_mapAll f place (i + 1) rest]
termination_by structural ts

end

mutual

/-- What stands below a position has a position that goes on from there. -/
theorem isPrefix_of_mem_located {place : List Nat} {t : Tree α} {p : List Nat × α}
    (mem : p ∈ t.located place) : place <+: p.1 := by
  cases t with
  | node a cs =>
    rw [located, List.mem_cons] at mem
    rcases mem with rfl | below
    · exact List.prefix_rfl
    · obtain ⟨j, -, start⟩ := isPrefix_of_mem_locatedAll below
      exact (List.prefix_append place [j]).trans start
termination_by structural t

theorem isPrefix_of_mem_locatedAll {place : List Nat} {i : Nat} {ts : List (Tree α)}
    {p : List Nat × α} (mem : p ∈ locatedAll place i ts) : ∃ j, i ≤ j ∧ place ++ [j] <+: p.1 := by
  cases ts with
  | nil => cases mem
  | cons t rest =>
    rw [locatedAll, List.mem_append] at mem
    rcases mem with first | later
    · exact ⟨i, Nat.le_refl i, isPrefix_of_mem_located first⟩
    · obtain ⟨j, le, start⟩ := isPrefix_of_mem_locatedAll later
      exact ⟨j, by omega, start⟩
termination_by structural ts

end

theorem eq_of_snoc_isPrefix {place q : List Nat} {i j : Nat} (left : place ++ [i] <+: q)
    (right : place ++ [j] <+: q) : i = j := by
  have same : place ++ [i] = place ++ [j] :=
    (List.prefix_of_prefix_length_le left right (by simp)).eq_of_length (by simp)
  simpa using same

mutual

theorem nodup_located (place : List Nat) (t : Tree α) :
    ((t.located place).map (·.1)).Nodup := by
  cases t with
  | node a cs =>
    rw [located, List.map_cons, List.nodup_cons]
    refine ⟨fun below => ?_, nodup_locatedAll place 0 cs⟩
    obtain ⟨p, mem, same⟩ := List.mem_map.mp below
    obtain ⟨j, -, start⟩ := isPrefix_of_mem_locatedAll mem
    have here : p.1 = place := same
    have short : (place ++ [j]).length ≤ place.length := here ▸ start.length_le
    rw [List.length_append, List.length_singleton] at short
    omega
termination_by structural t

theorem nodup_locatedAll (place : List Nat) (i : Nat) (ts : List (Tree α)) :
    ((locatedAll place i ts).map (·.1)).Nodup := by
  cases ts with
  | nil => exact List.nodup_nil
  | cons t rest =>
    rw [locatedAll, List.map_append, List.nodup_append]
    refine ⟨nodup_located (place ++ [i]) t, nodup_locatedAll place (i + 1) rest, ?_⟩
    intro q first r later same
    obtain ⟨p, memFirst, rfl⟩ := List.mem_map.mp first
    obtain ⟨p', memLater, rfl⟩ := List.mem_map.mp later
    obtain ⟨j, le, start⟩ := isPrefix_of_mem_locatedAll memLater
    rw [← same] at start
    have := eq_of_snoc_isPrefix (isPrefix_of_mem_located memFirst) start
    omega
termination_by structural ts

end

/-- No two nodes of a tree have one position. -/
theorem nodup_positions (t : Tree α) : (t.positions.map (·.1)).Nodup :=
  nodup_located [] t

mutual

theorem mem_located_iff {place : List Nat} {t : Tree α} {p : List Nat × α} :
    p ∈ t.located place ↔ ∃ rest n, t.at? rest = some n ∧ p = (place ++ rest, n.value) := by
  cases t with
  | node a cs =>
    rw [located, List.mem_cons, mem_locatedAll_iff]
    constructor
    · rintro (rfl | ⟨i, c, rest, n, taken, found, rfl⟩)
      · exact ⟨[], .node a cs, rfl, by rw [List.append_nil]; rfl⟩
      · refine ⟨i :: rest, n, ?_, by rw [Nat.zero_add]⟩
        rw [at?, children, taken]
        exact found
    · rintro ⟨rest, n, found, rfl⟩
      cases rest with
      | nil =>
        obtain rfl := Option.some.inj found
        exact .inl (by rw [List.append_nil]; rfl)
      | cons i rest =>
        rw [at?, children] at found
        split at found
        · rename_i c taken
          exact .inr ⟨i, c, rest, n, taken, found, by rw [Nat.zero_add]⟩
        · cases found
termination_by structural t

theorem mem_locatedAll_iff {place : List Nat} {i : Nat} {ts : List (Tree α)}
    {p : List Nat × α} :
    p ∈ locatedAll place i ts ↔
      ∃ j c rest n, ts[j]? = some c ∧ c.at? rest = some n ∧
        p = (place ++ (i + j) :: rest, n.value) := by
  cases ts with
  | nil => simp [locatedAll]
  | cons t more =>
    rw [locatedAll, List.mem_append, mem_located_iff, mem_locatedAll_iff]
    constructor
    · rintro (⟨rest, n, found, rfl⟩ | ⟨j, c, rest, n, taken, found, rfl⟩)
      · exact ⟨0, t, rest, n, rfl, found, by simp⟩
      · exact ⟨j + 1, c, rest, n, taken, found, by rw [Nat.add_right_comm, Nat.add_assoc]⟩
    · rintro ⟨j, c, rest, n, taken, found, rfl⟩
      cases j with
      | zero =>
        obtain rfl : t = c := Option.some.inj taken
        exact .inl ⟨rest, n, found, by simp⟩
      | succ j =>
        exact .inr ⟨j, c, rest, n, taken, found, by rw [Nat.add_right_comm, Nat.add_assoc]⟩
termination_by structural ts

end

theorem mem_positions_iff {t : Tree α} {p : List Nat × α} :
    p ∈ t.positions ↔ ∃ n, t.at? p.1 = some n ∧ n.value = p.2 := by
  rw [positions, mem_located_iff]
  constructor
  · rintro ⟨rest, n, found, rfl⟩
    exact ⟨n, found, rfl⟩
  · rintro ⟨n, found, same⟩
    exact ⟨p.1, n, found, Prod.ext rfl same.symm⟩

theorem map_value_walk_eq (t : Tree α) : t.walk.map value = t.positions.map (·.2) :=
  map_value_walk [] t

theorem forall_mem_walk_iff (t : Tree α) (P : α -> Prop) :
    (∀ m ∈ t.walk, P m.value) ↔ ∀ p ∈ t.positions, P p.2 := by
  rw [← List.forall_mem_map (f := value) (P := P), map_value_walk_eq, List.forall_mem_map]

/-- Where no two nodes have one key, a key has one position. -/
theorem eq_of_at?_of_key_eq {t m n : Tree α} {key : α -> β} {place other : List Nat}
    (distinct : (t.walk.map fun n => key n.value).Nodup) (here : t.at? place = some m)
    (there : t.at? other = some n) (same : key m.value = key n.value) : place = other := by
  have keys : (t.positions.map fun p => key p.2).Nodup := by
    have values := map_value_walk_eq t
    have composed : (t.walk.map fun n => key n.value) = t.positions.map fun p => key p.2 := by
      rw [← Function.comp_def key value, ← List.map_map, values, List.map_map]
      rfl
    rwa [← composed]
  have mem : (place, m.value) ∈ t.positions := mem_positions_iff.mpr ⟨m, here, rfl⟩
  have mem' : (other, n.value) ∈ t.positions := mem_positions_iff.mpr ⟨n, there, rfl⟩
  exact congrArg Prod.fst (List.inj_on_of_nodup_map keys mem mem' same)

end ViewDoc.Tree
