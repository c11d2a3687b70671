import ViewDoc.Fault
/-!
Results with notes: a computation that may have a fault leaves notes, in order, on what is to be
reported or provided besides its result. It keeps no other state, so that a part never depends on
the notes that were taken before it.
-/

set_option autoImplicit false

namespace ViewDoc

/-- A result with its notes, unless a fault prevents it. -/
def Noted (ν α : Type) : Type :=
  Except Fault (α × List ν)

namespace Noted

variable {ν α β : Type}

/-- A result without notes. -/
def pure (a : α) : Noted ν α :=
  .ok (a, [])

/-- Goes on from a result; the notes follow each other. -/
def andThen (x : Noted ν α) (f : α -> Noted ν β) : Noted ν β :=
  match x with
  | .error fault => .error fault
  | .ok (a, notes) =>
    match f a with
    | .error fault => .error fault
    | .ok (b, more) => .ok (b, notes ++ more)

instance : Monad (Noted ν) where
  pure := Noted.pure
  bind := Noted.andThen

private theorem pure_andThen (a : α) (f : α -> Noted ν β) : andThen (pure a) f = f a := by
  simp only [andThen, pure]
  cases f a <;> rfl

private theorem andThen_pure (x : Noted ν α) : andThen x (fun a => pure a) = x := by
  cases x with
  | error fault => rfl
  | ok r =>
    change Except.ok (r.1, r.2 ++ []) = Except.ok r
    rw [List.append_nil]

private theorem andThen_assoc {γ : Type} (x : Noted ν α) (f : α -> Noted ν β)
    (g : β -> Noted ν γ) : andThen (andThen x f) g = andThen x fun a => andThen (f a) g := by
  cases x with
  | error fault => rfl
  | ok r =>
    simp only [andThen]
    cases f r.1 with
    | error fault => rfl
    | ok q =>
      simp only
      cases g q.1 with
      | error fault => rfl
      | ok p => simp only [List.append_assoc]; rfl

instance : LawfulMonad (Noted ν) :=
  LawfulMonad.mk' (Noted ν) andThen_pure pure_andThen andThen_assoc

/-- Takes one note. -/
def note (n : ν) : Noted ν Unit :=
  .ok ((), [n])

/-- A result that may have a fault and needs no notes. -/
def ofExcept (x : Except Fault α) : Noted ν α :=
  x.map fun a => (a, [])

/-- The result alone. -/
def result (x : Noted ν α) : Except Fault α :=
  x.map (·.1)

theorem result_bind (x : Noted ν α) (f : α -> Noted ν β) :
    (x >>= f).result = x.result >>= fun a => (f a).result := by
  change (andThen x f).result = _
  cases x with
  | error fault => rfl
  | ok r =>
    change (andThen (.ok r) f).result = (f r.1).result
    rw [andThen]
    cases f r.1 <;> rfl

theorem result_ofExcept (x : Except Fault α) : (ofExcept x : Noted ν α).result = x := by
  cases x <;> rfl

theorem result_mapM (f : α -> Noted ν β) (l : List α) :
    (l.mapM f).result = l.mapM fun a => (f a).result := by
  induction l with
  | nil => rfl
  | cons a rest ih =>
    rw [List.mapM_cons, List.mapM_cons, result_bind]
    refine congrArg _ (funext fun b => ?_)
    rw [result_bind, ih]
    rfl

/-- A computation in two steps gives what its second step gives. -/
theorem exists_of_bind_ok {x : Noted ν α} {f : α -> Noted ν β} {r : β × List ν}
    (done : x >>= f = .ok r) : ∃ p more, x = .ok p ∧ f p.1 = .ok (r.1, more) := by
  cases x with
  | error fault => cases done
  | ok p =>
    change andThen (.ok p) f = .ok r at done
    rw [andThen] at done
    cases later : f p.1 with
    | error fault =>
      rw [later] at done
      cases done
    | ok q =>
      rw [later] at done
      cases done
      exact ⟨p, q.2, rfl, later⟩

/-- Where a result without notes is given, it is the one that was to be given. -/
theorem eq_of_pure_ok {a b : α} {notes : List ν}
    (done : (Pure.pure a : Noted ν α) = .ok (b, notes)) : b = a :=
  (congrArg Prod.fst (Except.ok.inj done)).symm

theorem eq_ok_of_ofExcept {x : Except Fault α} {a : α} {notes : List ν}
    (done : ofExcept x = .ok (a, notes)) : x = .ok a := by
  cases x with
  | error fault => cases done
  | ok b =>
    cases done
    rfl

theorem exists_mem_of_mapM_ok {f : α -> Noted ν β} {l : List α} {r : List β × List ν}
    (done : l.mapM f = .ok r) : ∀ a ∈ l, ∃ q, f a = .ok q ∧ q.1 ∈ r.1 := by
  induction l generalizing r with
  | nil => exact fun a mem => (List.not_mem_nil mem).elim
  | cons a rest ih =>
    rw [List.mapM_cons] at done
    obtain ⟨q, _, own, done⟩ := exists_of_bind_ok done
    obtain ⟨qs, _, others, done⟩ := exists_of_bind_ok done
    have whole : r.1 = q.1 :: qs.1 := eq_of_pure_ok done
    rw [whole]
    refine List.forall_mem_cons.mpr ⟨⟨q, own, List.mem_cons_self⟩, fun c mem => ?_⟩
    obtain ⟨p, made, among⟩ := ih others c mem
    exact ⟨p, made, List.mem_cons_of_mem _ among⟩

/-- Every result for the items of a list is that for one of them. -/
theorem exists_of_mem_mapM {f : α -> Noted ν β} {l : List α} {r : List β × List ν}
    (done : l.mapM f = .ok r) : ∀ b ∈ r.1, ∃ a ∈ l, ∃ notes, f a = .ok (b, notes) := by
  induction l generalizing r with
  | nil =>
    cases done
    exact fun b mem => (List.not_mem_nil mem).elim
  | cons a rest ih =>
    rw [List.mapM_cons] at done
    obtain ⟨q, _, own, done⟩ := exists_of_bind_ok done
    obtain ⟨qs, _, others, done⟩ := exists_of_bind_ok done
    have whole : r.1 = q.1 :: qs.1 := eq_of_pure_ok done
    rw [whole]
    refine List.forall_mem_cons.mpr ⟨⟨a, List.mem_cons_self, q.2, own⟩, fun b mem => ?_⟩
    obtain ⟨c, among, made⟩ := ih others b mem
    exact ⟨c, List.mem_cons_of_mem _ among, made⟩

theorem exists_of_mapM_ok {f : α -> Noted ν β} {l : List α} {r : List β × List ν}
    (done : l.mapM f = .ok r) : ∀ a ∈ l, ∃ q, f a = .ok q :=
  fun a mem => (exists_mem_of_mapM_ok done a mem).imp fun _ made => made.1

theorem bind_eq_error_left {x : Noted ν α} {f : α -> Noted ν β} {fault : Fault}
    (first : x = .error fault) : x >>= f = .error fault := by
  subst first
  rfl

/-- A fault after a result is the fault of the whole. -/
theorem bind_eq_error {x : Noted ν α} {r : α × List ν} {f : α -> Noted ν β} {fault : Fault}
    (first : x = .ok r) (next : f r.1 = .error fault) : x >>= f = .error fault := by
  subst first
  change andThen (.ok r) f = .error fault
  rw [andThen, next]

theorem result_bind_congr {x y : Noted ν α} {f g : α -> Noted ν β} (first : x.result = y.result)
    (next : ∀ a, (f a).result = (g a).result) : (x >>= f).result = (y >>= g).result := by
  simp only [result_bind, first, next]

theorem result_mapM_congr {f g : α -> Noted ν β} (each : ∀ a, (f a).result = (g a).result)
    (l : List α) : (l.mapM f).result = (l.mapM g).result := by
  rw [result_mapM, result_mapM, funext each]

/-- Notes make no difference to a result. -/
theorem result_forM_note (l : List α) (f : α -> ν) :
    (l.forM fun a => note (f a)).result = .ok () := by
  induction l with
  | nil => rfl
  | cons a rest ih =>
    change (note (f a) >>= fun _ => rest.forM fun a => note (f a)).result = .ok ()
    rw [result_bind, ih]
    rfl

end Noted

end ViewDoc
