/-!
Faults: the ways in which work on well-formed input stops without an answer.
-/

set_option autoImplicit false

namespace ViewDoc

/-- Why a computation stopped. -/
inductive Fault where
  /-- A run of digits writes no number, or a number of too many digits. -/
  | numeral (text : String)
  /-- Entries were needed, and a value has none. -/
  | noEntries
  /-- Entries were needed, and a list item is not a pair. -/
  | notPair
  /-- An entry was looked up in a value that has none. -/
  | notObject
  /-- A setting that does not exist. -/
  | unknownSetting (name : String)
  /-- A field has a name that stands for something else. -/
  | takenName (name : String)
  /-- A tag closes a style that is not open. -/
  | looseTag
  /-- A path holds the character that no path may hold. -/
  | nullInPath
  /-- A whole number lies beyond every finite binary number. -/
  | hugeNumber
  /-- A word outside a fixed choice. -/
  | unknownWord (word : String)
  /-- The nesting went beyond every budget. -/
  | tooDeep
  deriving DecidableEq, Repr

/-- A computation in two steps gives what its second step gives. -/
theorem Fault.exists_of_bind_ok {α β : Type} {x : Except Fault α} {f : α -> Except Fault β} {b : β}
    (done : (x >>= f) = .ok b) : ∃ a, x = .ok a ∧ f a = .ok b := by
  cases x with
  | error fault => cases done
  | ok a => exact ⟨a, rfl, done⟩

theorem Fault.bind_eq_ok_iff {α β : Type} {x : Except Fault α} {f : α -> Except Fault β} {b : β} :
    (x >>= f) = .ok b ↔ ∃ a, x = .ok a ∧ f a = .ok b := by
  constructor
  · exact exists_of_bind_ok
  · rintro ⟨a, rfl, done⟩
    exact done

/-- What is seen of a result is seen of one that is there. -/
theorem Fault.exists_of_seen {α β : Type} {x : Except Fault α} {f : α -> β} {b : β}
    (seen : x.toOption.map f = some b) : ∃ a, x = .ok a ∧ f a = b := by
  cases x with
  | error fault => cases seen
  | ok a => exact ⟨a, rfl, Option.some.inj seen⟩

theorem Fault.exists_mem_of_mapM_ok {α β : Type} {f : α -> Except Fault β} {l : List α}
    {bs : List β} (done : l.mapM f = .ok bs) : ∀ a ∈ l, ∃ b ∈ bs, f a = .ok b := by
  induction l generalizing bs with
  | nil => exact fun a mem => (List.not_mem_nil mem).elim
  | cons a rest ih =>
    rw [List.mapM_cons] at done
    obtain ⟨b, own, done⟩ := exists_of_bind_ok done
    obtain ⟨others, later, done⟩ := exists_of_bind_ok done
    cases done
    refine List.forall_mem_cons.mpr ⟨⟨b, List.mem_cons_self, own⟩, fun c mem => ?_⟩
    obtain ⟨d, among, made⟩ := ih later c mem
    exact ⟨d, List.mem_cons_of_mem _ among, made⟩

end ViewDoc
