import ViewDoc.Route.Match
/-!
Which chains of routes accept a path. A chain accepts segments when the parts of its routes, one
after the other, cover them, and when nothing before its end is an index route or has a wildcard.
The main statements tell what taking parts from the front of segments has to do with covering them,
and how a chain that accepts divides into its first route and a chain below it.
-/

set_option autoImplicit false

namespace ViewDoc

namespace RoutePart

/-- A text that is read as a fixed part is this part. -/
theorem eq_of_ofText {text segment : String} (read : ofText text = .literal segment) :
    text = segment := by
  rw [ofText] at read
  split at read
  · cases read
  · cases read
  · exact literal.inj read

/-- Parts cover segments: fixed and named parts take one segment each, and a wildcard takes
everything left and makes later parts irrelevant. -/
inductive Covers : List RoutePart -> List String -> Prop where
  | nil : Covers [] []
  | literal {segment : String} {parts : List RoutePart} {segments : List String} :
      Covers parts segments -> Covers (.literal segment :: parts) (segment :: segments)
  | dynamic {name segment : String} {parts : List RoutePart} {segments : List String} :
      Covers parts segments -> Covers (.dynamic name :: parts) (segment :: segments)
  | wildcard {parts : List RoutePart} {segments : List String} :
      Covers (.wildcard :: parts) segments

/-- What named parts and wildcards capture, in the order of the parts. -/
def captures : List RoutePart -> List String -> List (String × String)
  | .wildcard :: _, segments => [("*", "/".intercalate segments)]
  | .dynamic name :: parts, s :: segments => (name, s) :: captures parts segments
  | .literal _ :: parts, _ :: segments => captures parts segments
  | _, _ => []

@[simp] theorem covers_nil_iff (segments : List String) : Covers [] segments ↔ segments = [] := by
  constructor
  · intro covers
    cases covers
    rfl
  · rintro rfl
    exact .nil

@[simp] theorem covers_wildcard_cons (parts : List RoutePart) (segments : List String) :
    Covers (.wildcard :: parts) segments :=
  .wildcard

@[simp] theorem covers_dynamic_cons_iff (name s : String) (parts : List RoutePart)
    (segments : List String) :
    Covers (.dynamic name :: parts) (s :: segments) ↔ Covers parts segments := by
  constructor
  · intro covers
    cases covers with
    | dynamic below => exact below
  · exact .dynamic

@[simp] theorem covers_literal_cons_iff (segment s : String) (parts : List RoutePart)
    (segments : List String) :
    Covers (.literal segment :: parts) (s :: segments) ↔ segment = s ∧ Covers parts segments := by
  constructor
  · intro covers
    cases covers with
    | literal below => exact ⟨rfl, below⟩
  · rintro ⟨rfl, below⟩
    exact .literal below

@[simp] theorem not_covers_dynamic_nil (name : String) (parts : List RoutePart) :
    ¬ Covers (.dynamic name :: parts) [] := by
  rintro ⟨⟩

@[simp] theorem not_covers_literal_nil (segment : String) (parts : List RoutePart) :
    ¬ Covers (.literal segment :: parts) [] := by
  rintro ⟨⟩

/-- Parts without a wildcard are as many as the segments that they cover. -/
theorem Covers.length_eq {parts : List RoutePart} {segments : List String}
    (covers : Covers parts segments) (tame : RoutePart.wildcard ∉ parts) :
    parts.length = segments.length := by
  induction covers with
  | nil => rfl
  | literal _ ih => exact congrArg Nat.succ (ih fun mem => tame (List.mem_cons_of_mem _ mem))
  | dynamic _ ih => exact congrArg Nat.succ (ih fun mem => tame (List.mem_cons_of_mem _ mem))
  | wildcard => exact absurd List.mem_cons_self tame

/-- Parts with a wildcard among them take everything, or fail before it. -/
theorem take_of_wildcard_mem {parts : List RoutePart} (wild : RoutePart.wildcard ∈ parts)
    (segments : List String) (params : RouteParams) :
    (Covers parts segments ∧ take parts segments params =
        some ⟨segments.length, true, Entries.merge params (captures parts segments)⟩) ∨
      (¬ Covers parts segments ∧ take parts segments params = none) := by
  induction parts generalizing segments params with
  | nil => simp at wild
  | cons part parts ih =>
    cases part with
    | wildcard => exact .inl ⟨.wildcard, by simp [take, captures, Entries.merge]⟩
    | dynamic name =>
      have later : RoutePart.wildcard ∈ parts := by simpa using wild
      cases segments with
      | nil => exact .inr ⟨by simp, by simp [take]⟩
      | cons s segments =>
        rcases ih later segments (Entries.set params name s) with ⟨covers, taken⟩ | ⟨fails, taken⟩
        · exact .inl ⟨.dynamic covers, by simp [take, taken, captures, Entries.merge]⟩
        · exact .inr ⟨by simpa using fails, by simp [take, taken]⟩
    | literal segment =>
      have later : RoutePart.wildcard ∈ parts := by simpa using wild
      cases segments with
      | nil => exact .inr ⟨by simp, by simp [take]⟩
      | cons s segments =>
        by_cases same : segment = s
        · subst same
          rcases ih later segments params with ⟨covers, taken⟩ | ⟨fails, taken⟩
          · exact .inl ⟨.literal covers, by simp [take, taken, captures]⟩
          · exact .inr ⟨by simpa using fails, by simp [take, taken]⟩
        · exact .inr ⟨by simp [same], by simp [take, same]⟩

/-- Parts without a wildcard take one segment each. Whatever follows them covers just what they
leave. -/
theorem take_of_wildcard_not_mem {parts : List RoutePart} (tame : RoutePart.wildcard ∉ parts)
    (segments : List String) (params : RouteParams) :
    (parts.length ≤ segments.length ∧
        (∀ more, Covers (parts ++ more) segments ↔ Covers more (segments.drop parts.length)) ∧
        (∀ more, captures (parts ++ more) segments =
          captures parts segments ++ captures more (segments.drop parts.length)) ∧
        take parts segments params =
          some ⟨parts.length, false, Entries.merge params (captures parts segments)⟩) ∨
      ((∀ more, ¬ Covers (parts ++ more) segments) ∧ take parts segments params = none) := by
  induction parts generalizing segments params with
  | nil =>
    exact .inl ⟨by simp, by simp, by simp [captures], by simp [take, captures, Entries.merge]⟩
  | cons part parts ih =>
    have later : RoutePart.wildcard ∉ parts := fun h => tame (List.mem_cons_of_mem _ h)
    cases part with
    | wildcard => exact absurd List.mem_cons_self tame
    | dynamic name =>
      cases segments with
      | nil => exact .inr ⟨by simp, by simp [take]⟩
      | cons s segments =>
        rcases ih later segments (Entries.set params name s) with
          ⟨short, covers, captured, taken⟩ | ⟨fails, taken⟩
        · refine .inl ⟨by simpa using short, by simpa using covers, ?_, ?_⟩
          · intro more
            simp [captures, captured more]
          · simp [take, taken, captures, Entries.merge]
        · exact .inr ⟨by simpa using fails, by simp [take, taken]⟩
    | literal segment =>
      cases segments with
      | nil => exact .inr ⟨by simp, by simp [take]⟩
      | cons s segments =>
        by_cases same : segment = s
        · subst same
          rcases ih later segments params with ⟨short, covers, captured, taken⟩ | ⟨fails, taken⟩
          · refine .inl ⟨by simpa using short, by simpa using covers, ?_, ?_⟩
            · intro more
              simp [captures, captured more]
            · simp [take, taken, captures]
          · exact .inr ⟨by simpa using fails, by simp [take, taken]⟩
        · exact .inr ⟨by simp [same], by simp [take, same]⟩

end RoutePart

namespace RouteFields

/-- The parts that a route adds to a chain. -/
def ownParts (r : RouteFields) : List RoutePart :=
  if r.index then [] else r.parts

/-- A chain may go on below a route. -/
def Opens (r : RouteFields) : Prop :=
  r.index = false ∧ RoutePart.wildcard ∉ r.parts

/-- A chain of routes accepts segments. -/
structure Accepts (chain : List RouteFields) (segments : List String) : Prop where
  opens : ∀ r ∈ chain.dropLast, r.Opens
  covers : RoutePart.Covers (chain.flatMap ownParts) segments

end RouteFields

namespace RouteNode

/-- The chain from a route down to a place below it accepts segments. -/
structure AcceptsAt (t : RouteNode) (segments : List String) (place : List Nat) : Prop where
  present : (t.at? place).isSome
  accepts : RouteFields.Accepts (t.along place) segments

theorem along_ne_nil (t : RouteNode) (place : List Nat) : t.along place ≠ [] := by
  cases place <;> simp [Tree.along]

theorem acceptsAt_nil_iff (r : RouteFields) (cs : List RouteNode) (segments : List String) :
    AcceptsAt (.node r cs) segments [] ↔ RoutePart.Covers r.ownParts segments := by
  constructor
  · rintro ⟨-, -, covers⟩
    simpa [Tree.along, Tree.value] using covers
  · intro covers
    exact ⟨rfl, by simp [Tree.along], by simpa [Tree.along, Tree.value] using covers⟩

/-- A chain that goes on below its first route takes the segments of this route, and the rest of it
accepts what they leave. -/
theorem acceptsAt_cons_iff (r : RouteFields) (cs : List RouteNode) (segments : List String)
    (i : Nat) (place : List Nat) :
    AcceptsAt (.node r cs) segments (i :: place) ↔
      r.Opens ∧ ∃ c, cs[i]? = some c ∧ (c.at? place).isSome ∧
        (∀ q ∈ (c.along place).dropLast, q.Opens) ∧
        RoutePart.Covers (r.parts ++ (c.along place).flatMap RouteFields.ownParts) segments := by
  cases at_i : cs[i]? with
  | none =>
    refine iff_of_false ?_ (by simp)
    rintro ⟨present, -⟩
    simp [Tree.at?, Tree.children, at_i] at present
  | some c =>
    have chain : Tree.along (.node r cs) (i :: place) = r :: c.along place := by
      simp [Tree.along, Tree.value, Tree.children, at_i]
    have there : Tree.at? (.node r cs) (i :: place) = c.at? place := by
      simp [Tree.at?, Tree.children, at_i]
    constructor
    · rintro ⟨present, opens, covers⟩
      rw [there] at present
      rw [chain, List.dropLast_cons_of_ne_nil (along_ne_nil c place)] at opens
      rw [chain] at covers
      have first : r.Opens := opens r List.mem_cons_self
      refine ⟨first, c, rfl, present, fun q hq => opens q (List.mem_cons_of_mem r hq), ?_⟩
      simpa [RouteFields.ownParts, first.1] using covers
    · rintro ⟨first, d, same, present, opens, covers⟩
      obtain rfl := Option.some.inj same
      refine ⟨there ▸ present, ?_, ?_⟩
      · rw [chain, List.dropLast_cons_of_ne_nil (along_ne_nil c place)]
        exact List.forall_mem_cons.mpr ⟨first, opens⟩
      · rw [chain]
        simpa [RouteFields.ownParts, first.1] using covers

end RouteNode

end ViewDoc
