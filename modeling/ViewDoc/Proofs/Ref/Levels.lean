import ViewDoc.Proofs.Ref.Met
/-!
On how many levels a value has to be resolved. The main statements are that a value without
references on these levels is the one that resolving never changes, and that further levels change
nothing once the result lies within the levels there are: the references that were looked up on the
way, those in what others read among them, have all become values.
-/

set_option autoImplicit false

namespace ViewDoc

theorem Fault.mapM_self {α : Type} {f : α -> Except Fault α} {l : List α}
    (each : ∀ a ∈ l, f a = .ok a) : l.mapM f = .ok l := by
  induction l with
  | nil => rfl
  | cons a rest ih =>
    obtain ⟨first, later⟩ := List.forall_mem_cons.mp each
    rw [List.mapM_cons, first, ih later]
    rfl

/-- Where nothing is given, a reference reads null or an object without entries. -/
theorem Ref.resolve_nothing {r : Ref} {u : Value} (done : r.resolve {} = .ok u) :
    u = .null ∨ u = .object [] := by
  by_cases data : ∃ path, r = .data path
  · obtain ⟨path, rfl⟩ := data
    obtain ⟨steps, -, read⟩ := Path.exists_of_read_ok done
    have null : Path.readSteps .null steps = .ok u := read
    rw [Path.readSteps_null] at null
    exact .inl (Except.ok.inj null).symm
  · have other : ∀ path, r ≠ .data path := fun path same => data ⟨path, same⟩
    exact resolve_ofData other done

namespace Value

theorem exists_mem_of_forall₂ {α β : Type} {R : α -> β -> Prop} {l : List α} {m : List β}
    (related : List.Forall₂ R l m) {a : α} (mem : a ∈ l) : ∃ b ∈ m, R a b := by
  induction related with
  | nil => cases mem
  | @cons a' b l m own _ ih =>
    rcases List.mem_cons.mp mem with rfl | mem
    · exact ⟨b, List.mem_cons_self, own⟩
    · obtain ⟨c, among, later⟩ := ih mem
      exact ⟨c, List.mem_cons_of_mem b among, later⟩

variable {ctx : Context} {level level' : Nat} {v w x : Value}

section Literal

/-- Contents that stay as they are make a value that does. -/
theorem resolveContents_self (each : ∀ x ∈ v.contents, resolveLevels ctx level x = .ok x) :
    resolveContents ctx level v = .ok v := by
  have keyed {κ : Type} {es : List (κ × Value)}
      (each : ∀ x ∈ es.map (·.2), resolveLevels ctx level x = .ok x) :
      (es.mapM fun e => do return (e.1, ← resolveLevels ctx level e.2) : Except Fault _) = .ok es :=
    Fault.mapM_self fun e mem => by
      rw [each e.2 (List.mem_map_of_mem mem)]
      rfl
  cases v with
  | list items =>
    have whole : items.mapM (resolveLevels ctx level) = .ok items := Fault.mapM_self each
    rw [resolveContents, whole]
    rfl
  | object es =>
    rw [resolveContents]
    cases Ref.ofValue? (.object es) with
    | some r => rfl
    | none =>
      rw [keyed each]
      rfl
  | mapping es =>
    rw [resolveContents, keyed each]
    rfl
  | _ => rfl

/-- A reference stands in a value on a level if it is the value, or stands in its contents on one
level less. -/
theorem containsRefIn_succ_iff : containsRefIn (level + 1) v = true ↔
    (∃ r, Ref.ofValue? v = some r) ∨ ∃ x ∈ v.contents, containsRefIn level x = true := by
  rw [containsRefIn.eq_def]
  dsimp only
  rw [Bool.or_eq_true, Option.isSome_iff_exists, ← List.any_eq_true]
  refine or_congr_right ?_
  cases v with
  | object es =>
    rw [contents, List.any_map]
    rfl
  | mapping es =>
    rw [contents, List.any_map]
    rfl
  | _ => rfl

theorem containsRefIn_succ_eq_false_iff : containsRefIn (level + 1) v = false ↔
    Ref.ofValue? v = none ∧ ∀ x ∈ v.contents, containsRefIn level x = false := by
  rw [← Bool.not_eq_true, containsRefIn_succ_iff, not_or]
  simp [Option.eq_none_iff_forall_ne_some]

theorem resolveLevels_of_containsRefIn (free : containsRefIn level v = false) :
    resolveLevels ctx level v = .ok v := by
  induction level generalizing v with
  | zero => rfl
  | succ level ih =>
    obtain ⟨plain, inside⟩ := containsRefIn_succ_eq_false_iff.mp free
    rw [resolveLevels_succ, resolveOne, plain]
    exact resolveContents_self fun x mem => ih (inside x mem)

/-- What stays as it is where nothing is given has no reference on the levels. -/
theorem containsRefIn_of_resolveLevels (fixed : resolveLevels {} level v = .ok v) :
    containsRefIn level v = false := by
  induction level generalizing v with
  | zero => rfl
  | succ level ih =>
    have plain : Ref.ofValue? v = none := by
      by_contra some
      obtain ⟨r, ref⟩ := Option.ne_none_iff_exists'.mp some
      obtain ⟨u, found, contents⟩ := resolveLevels_ref ref fixed
      rcases Ref.resolve_nothing found with rfl | rfl
      · cases contents
        cases ref
      · obtain rfl : v = .object [] := (Except.ok.inj contents).symm
        cases ref
    refine containsRefIn_succ_eq_false_iff.mpr ⟨plain, fun x mem => ih ?_⟩
    have each := contents_resolveContents plain (resolveLevels_plain plain fixed)
    exact List.forall₂_same.mp each x mem

/-- A value has no reference down to a depth just when resolving it down to there leaves it as it is,
whatever references would read. -/
theorem containsRef_eq_false_iff (v : Value) (maxDepth : Int) :
    v.containsRef maxDepth = false ↔ ∀ ctx : Context, v.resolve ctx maxDepth = .ok v := by
  constructor
  · exact fun free ctx => resolveLevels_of_containsRefIn free
  · exact fun fixed => containsRefIn_of_resolveLevels (fixed {})

end Literal

section Within

/-- A value stands in another one, so many levels below it. -/
inductive Below (x : Value) : Nat -> Value -> Prop where
  | here : Below x 0 x
  | inside {n : Nat} {v y : Value} : y ∈ v.contents -> Below x n y -> Below x (n + 1) v

/-- A result that lies within the levels stays the same on more of them. -/
theorem resolveLevels_of_within (done : resolveLevels ctx level v = .ok w)
    (within : ∀ n x, Below x n w -> n < level) (more : level ≤ level') :
    resolveLevels ctx level' v = .ok w := by
  -- along the result: where it has contents there is a level left for them
  induction level generalizing v w level' with
  | zero => exact absurd (within 0 w .here) (Nat.not_lt_zero 0)
  | succ level ih =>
    obtain ⟨level', rfl⟩ : ∃ k, level' = k + 1 := ⟨level' - 1, by omega⟩
    have fewer : level ≤ level' := by omega
    rw [resolveLevels_succ] at done
    obtain ⟨u, found, contents⟩ := Fault.exists_of_bind_ok done
    have same : resolveContents ctx level' u = resolveContents ctx level u := by
      refine resolveContents_congr fun plain x mem => ?_
      obtain ⟨y, among, resolved⟩ :=
        exists_mem_of_forall₂ (contents_resolveContents plain contents) mem
      have inner : ∀ n z, Below z n y -> n < level := by
        intro n z below
        have deeper : n + 1 < level + 1 := within (n + 1) z (.inside among below)
        omega
      rw [resolved]
      exact ih resolved inner fewer
    rw [resolveLevels_succ, found]
    exact same.trans contents

/-- Where nothing in the resolved value stands deeper than references are resolved, they can be
resolved deeper and the value stays the same. -/
theorem resolve_of_within {ctx : Context} {maxDepth deeper : Int} {v w : Value}
    (done : v.resolve ctx maxDepth = .ok w)
    (within : ∀ n x, Below x n w -> (n : Int) ≤ maxDepth) (raised : maxDepth ≤ deeper) :
    v.resolve ctx deeper = .ok w := by
  have levelled : ∀ n x, Below x n w -> n < levels maxDepth := by
    intro n x below
    have bound := within n x below
    rw [levels]
    omega
  refine resolveLevels_of_within done levelled ?_
  rw [levels, levels]
  omega

/-- Parameters that refer to state, and state that refers to an item. -/
def chained : Context where
  params := [("rows", .list [(Ref.state "row").toValue])]
  state := [("row", .list [.int 1, (Ref.item "done").toValue])]
  item := .object [("done", .bool true)]

/-- The depth of the result is the least one that will do: on one level less the reference to the
item stays as it stands. -/
theorem chained_resolve :
    (Ref.param "rows").toValue.resolve chained 2 = .ok (.list [.list [.int 1, .bool true]]) ∧
      (∀ n x, Below x n (.list [.list [.int 1, .bool true]]) -> (n : Int) ≤ 2) ∧
      (Ref.param "rows").toValue.resolve chained defaultDepth =
        .ok (.list [.list [.int 1, .bool true]]) ∧
      (Ref.param "rows").toValue.resolve chained 1 =
        .ok (.list [.list [.int 1, (Ref.item "done").toValue]]) := by
  have done : (Ref.param "rows").toValue.resolve chained 2 =
      .ok (.list [.list [.int 1, .bool true]]) := by decide +kernel
  have leaf {v x : Value} {n : Nat} (nothing : v.contents = []) (below : Below x n v) : n = 0 := by
    cases below with
    | here => rfl
    | inside mem _ =>
      rw [nothing] at mem
      cases mem
  have within : ∀ n x, Below x n (.list [.list [.int 1, .bool true]]) -> (n : Int) ≤ 2 := by
    intro n x below
    cases below with
    | here => omega
    | inside mem below =>
      obtain rfl := List.mem_singleton.mp mem
      cases below with
      | here => omega
      | inside mem below =>
        rcases List.mem_pair.mp mem with rfl | rfl <;> rw [leaf rfl below] <;> omega
  exact ⟨done, within, resolve_of_within done within (by decide), by decide +kernel⟩

end Within

end Value

end ViewDoc
