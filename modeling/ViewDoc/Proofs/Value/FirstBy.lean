import Mathlib.Data.List.Induction
import Mathlib.Data.List.Nodup
/-!
The members of a list that are the first with their key. Each key is kept once, in the order in which
the keys come first, and under each key what came first.
-/

set_option autoImplicit false

namespace ViewDoc

variable {α κ : Type} [BEq κ]

/-- The members of a list that are the first with their key. -/
def firstBy (key : α -> κ) (l : List α) : List α :=
  l.foldl (fun acc a => if acc.any fun known => key known == key a then acc else acc ++ [a]) []

theorem firstBy_concat (key : α -> κ) (l : List α) (a : α) :
    firstBy key (l ++ [a]) =
      if (firstBy key l).any (fun known => key known == key a) then firstBy key l
      else firstBy key l ++ [a] := by
  rw [firstBy, List.foldl_append]
  rfl

theorem mem_of_mem_firstBy {key : α -> κ} {l : List α} {a : α} (mem : a ∈ firstBy key l) :
    a ∈ l := by
  induction l using List.reverseRecOn with
  | nil => exact mem
  | append_singleton l b ih =>
    rw [firstBy_concat] at mem
    split at mem
    · exact List.mem_append_left _ (ih mem)
    · rcases List.mem_append.mp mem with mem | last
      · exact List.mem_append_left _ (ih mem)
      · exact List.mem_append_right _ last

variable [LawfulBEq κ]

theorem any_key_iff (key : α -> κ) (l : List α) (k : κ) :
    l.any (fun a => key a == k) = true ↔ k ∈ l.map key := by
  simp

theorem eraseDups_concat (keys : List κ) (k : κ) [Decidable (k ∈ keys)] :
    (keys ++ [k]).eraseDups = if k ∈ keys then keys.eraseDups else keys.eraseDups ++ [k] := by
  rw [List.eraseDups_append, List.removeAll, List.filter_cons, List.filter_nil]
  by_cases old : k ∈ keys <;> simp [old, List.eraseDups_cons]

/-- Every key is kept once, in the order in which the keys come first. -/
theorem map_firstBy (key : α -> κ) (l : List α) :
    (firstBy key l).map key = (l.map key).eraseDups := by
  classical
  induction l using List.reverseRecOn with
  | nil => rfl
  | append_singleton l a ih =>
    have seen := any_key_iff key (firstBy key l) (key a)
    rw [ih, List.mem_eraseDups] at seen
    rw [firstBy_concat, List.map_append, List.map_singleton, eraseDups_concat, ← ih]
    simp only [seen]
    split <;> simp

theorem nodup_map_firstBy (key : α -> κ) (l : List α) : ((firstBy key l).map key).Nodup := by
  induction l using List.reverseRecOn with
  | nil => exact List.nodup_nil
  | append_singleton l a ih =>
    rw [firstBy_concat]
    split
    · exact ih
    · rename_i fresh
      rw [any_key_iff] at fresh
      rw [List.map_append, List.map_singleton]
      refine List.nodup_append.mpr ⟨ih, List.nodup_singleton _, ?_⟩
      rintro k known k' same rfl
      exact fresh (List.mem_singleton.mp same ▸ known)

/-- What is kept under a key is what came first under it. -/
theorem find?_firstBy (key : α -> κ) (l : List α) (k : κ) :
    (firstBy key l).find? (fun a => key a == k) = l.find? fun a => key a == k := by
  induction l using List.reverseRecOn with
  | nil => rfl
  | append_singleton l a ih =>
    rw [firstBy_concat, List.find?_append, ← ih]
    split
    · rename_i old
      by_cases own : key a = k
      · subst own
        have present := List.find?_isSome.mpr (List.any_eq_true.mp old)
        obtain ⟨b, found⟩ := Option.isSome_iff_exists.mp present
        rw [found]
        rfl
      · simp [own]
    · rw [List.find?_append]

theorem exists_mem_firstBy (key : α -> κ) {l : List α} {a : α} (mem : a ∈ l) :
    ∃ b ∈ firstBy key l, key b = key a := by
  have kept : key a ∈ (firstBy key l).map key := by
    rw [map_firstBy, List.mem_eraseDups]
    exact List.mem_map_of_mem mem
  exact List.mem_map.mp kept

end ViewDoc
