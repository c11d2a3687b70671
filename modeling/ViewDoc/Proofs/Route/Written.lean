import Mathlib.Data.List.Nodup
import ViewDoc.Proofs.Route.Accepting
import ViewDoc.Proofs.Route.Siblings
import ViewDoc.Proofs.Text.Split
import ViewDoc.Proofs.Value.Distinct
/-!
What a match tells about its path. Parts are written out by putting params in the place of named
parts and of the first wildcard, which ends them. The main statement is that the parts of the matched
chain, written out with the params of the match, are the matched segments, and that there are no
other params.
-/

set_option autoImplicit false

namespace ViewDoc

namespace RoutePart

/-- The names of the named parts. -/
def dynamicNames (parts : List RoutePart) : List String :=
  parts.filterMap fun part =>
    match part with
    | .dynamic name => some name
    | _ => none

/-- The names under which parts capture segments, up to the first wildcard. -/
def captureNames : List RoutePart -> List String
  | [] => []
  | .literal _ :: parts => captureNames parts
  | .dynamic name :: parts => name :: captureNames parts
  | .wildcard :: _ => ["*"]

/-- The segments that a wildcard has captured: the pieces between slashes, and none of the empty
text. -/
def piecesOf (captured : String) : List String :=
  if captured = "" then [] else Text.split '/' captured

/-- The segments that parts spell with params in the place of names. A wildcard ends them, and where
a param is missing there are none. -/
def writeOut (params : RouteParams) : List RoutePart -> Option (List String)
  | [] => some []
  | .literal segment :: parts => (writeOut params parts).map (segment :: ·)
  | .dynamic name :: parts =>
    (Entries.get? params name).bind fun s => (writeOut params parts).map (s :: ·)
  | .wildcard :: _ => (Entries.get? params "*").map piecesOf

theorem piecesOf_intercalate {segments : List String}
    (plain : ∀ s ∈ segments, s ≠ "" ∧ '/' ∉ s.toList) :
    piecesOf ("/".intercalate segments) = segments := by
  cases segments with
  | nil => rfl
  | cons s rest =>
    have cut : Text.split '/' ("/".intercalate (s :: rest)) = s :: rest :=
      Text.split_intercalate (List.cons_ne_nil s rest) fun t mem => (plain t mem).2
    rw [piecesOf, if_neg, cut]
    intro empty
    rw [empty] at cut
    have first : "" = s := (List.cons.inj cut).1
    exact (plain s List.mem_cons_self).1 first.symm

section Covers

variable {parts more : List RoutePart} {segments rest : List String} {params : RouteParams}

theorem keys_captures (covers : Covers parts segments) :
    Entries.keys (captures parts segments) = captureNames parts := by
  induction covers with
  | nil => rfl
  | literal _ ih => exact ih
  | @dynamic name s parts segments _ ih => exact congrArg (name :: ·) ih
  | wildcard => rfl

theorem covers_append (covers : Covers parts segments) (tame : RoutePart.wildcard ∉ parts)
    (later : Covers more rest) : Covers (parts ++ more) (segments ++ rest) := by
  induction covers with
  | nil => exact later
  | literal _ ih => exact .literal (ih fun mem => tame (List.mem_cons_of_mem _ mem))
  | dynamic _ ih => exact .dynamic (ih fun mem => tame (List.mem_cons_of_mem _ mem))
  | wildcard => exact absurd List.mem_cons_self tame

theorem captures_append (covers : Covers parts segments) (tame : RoutePart.wildcard ∉ parts) :
    captures (parts ++ more) (segments ++ rest) =
      captures parts segments ++ captures more rest := by
  induction covers with
  | nil => rfl
  | literal _ ih => exact ih fun mem => tame (List.mem_cons_of_mem _ mem)
  | dynamic _ ih =>
    exact congrArg (_ :: ·) (ih fun mem => tame (List.mem_cons_of_mem _ mem))
  | wildcard => exact absurd List.mem_cons_self tame

/-- What parts have captured gives the segments back. -/
theorem writeOut_of_covers (covers : Covers parts segments)
    (plain : ∀ s ∈ segments, s ≠ "" ∧ '/' ∉ s.toList)
    (held : ∀ e ∈ captures parts segments, Entries.get? params e.1 = some e.2) :
    writeOut params parts = some segments := by
  induction covers with
  | nil => rfl
  | @literal segment parts segments _ ih =>
    rw [writeOut, ih (fun s mem => plain s (List.mem_cons_of_mem _ mem)) held]
    rfl
  | @dynamic name s parts segments _ ih =>
    obtain ⟨first, later⟩ := List.forall_mem_cons.mp held
    rw [writeOut, first, ih (fun s mem => plain s (List.mem_cons_of_mem _ mem)) later]
    rfl
  | @wildcard parts segments =>
    have first : Entries.get? params "*" = some ("/".intercalate segments) :=
      held _ List.mem_cons_self
    rw [writeOut, first, Option.map_some, piecesOf_intercalate plain]

end Covers

theorem mem_captureNames {parts : List RoutePart} {name : String}
    (mem : name ∈ captureNames parts) : name ∈ dynamicNames parts ∨ name = "*" := by
  induction parts with
  | nil => cases mem
  | cons part parts ih =>
    cases part with
    | literal segment => exact ih mem
    | dynamic other =>
      rcases List.mem_cons.mp mem with rfl | mem
      · exact .inl List.mem_cons_self
      · exact (ih mem).imp_left (List.mem_cons_of_mem other)
    | wildcard => exact .inr (List.mem_singleton.mp mem)

theorem nodup_captureNames {parts : List RoutePart} (distinct : (dynamicNames parts).Nodup)
    (reserved : "*" ∉ dynamicNames parts) : (captureNames parts).Nodup := by
  induction parts with
  | nil => exact List.nodup_nil
  | cons part parts ih =>
    cases part with
    | literal segment => exact ih distinct reserved
    | dynamic name =>
      obtain ⟨fresh, distinct⟩ := List.nodup_cons.mp distinct
      obtain ⟨other, reserved⟩ := not_or.mp (mt List.mem_cons.mpr reserved)
      refine List.nodup_cons.mpr ⟨fun again => ?_, ih distinct reserved⟩
      rcases mem_captureNames again with again | star
      · exact fresh again
      · exact other star.symm
    | wildcard => exact List.nodup_singleton "*"

/-- Parts that take something cover it, and put what they capture there into the params. A wildcard
takes everything. -/
theorem take_eq_some {parts : List RoutePart} {segments : List String} {params : RouteParams}
    {taken : Taken} (done : take parts segments params = some taken) :
    taken.count ≤ segments.length ∧ Covers parts (segments.take taken.count) ∧
      taken.params = Entries.merge params (captures parts (segments.take taken.count)) ∧
      (taken.all = false -> RoutePart.wildcard ∉ parts) := by
  induction parts generalizing segments params taken with
  | nil =>
    obtain rfl := Option.some.inj done
    exact ⟨Nat.zero_le _, .nil, rfl, fun _ => List.not_mem_nil⟩
  | cons part parts ih =>
    cases part with
    | wildcard =>
      obtain rfl := Option.some.inj done
      refine ⟨Nat.le_refl _, .wildcard, ?_, fun open_end => Bool.noConfusion open_end⟩
      rw [List.take_length]
      rfl
    | dynamic name =>
      cases segments with
      | nil => cases done
      | cons s segments =>
        obtain ⟨below, found, rfl⟩ := Option.map_eq_some_iff.mp done
        obtain ⟨short, covers, captured, tame⟩ := ih found
        refine ⟨Nat.succ_le_succ short, .dynamic covers, captured, fun open_end => ?_⟩
        exact List.not_mem_cons_of_ne_of_not_mem (by simp) (tame open_end)
    | literal segment =>
      cases segments with
      | nil => cases done
      | cons s segments =>
        rw [take] at done
        split at done
        · rename_i same
          subst same
          obtain ⟨below, found, rfl⟩ := Option.map_eq_some_iff.mp done
          obtain ⟨short, covers, captured, tame⟩ := ih found
          refine ⟨Nat.succ_le_succ short, .literal covers, captured, fun open_end => ?_⟩
          exact List.not_mem_cons_of_ne_of_not_mem (by simp) (tame open_end)
        · cases done

end RoutePart

open RouteFields (ownParts)

/-- A trail fits the front of segments: its parts cover the segments that it counts, and its params
are those from before with what the parts capture there. -/
structure RouteTrail.Fits (segments : List String) (params : RouteParams) (t : RouteTrail) :
    Prop where
  short : t.count ≤ segments.length
  covers : RoutePart.Covers (t.routes.flatMap ownParts) (segments.take t.count)
  captured : t.params = Entries.merge params
    (RoutePart.captures (t.routes.flatMap ownParts) (segments.take t.count))

namespace RouteTrail.Fits

variable {segments : List String} {params : RouteParams} {taken : Taken} {r : RouteFields}

/-- A route by itself fits what its parts take. -/
theorem single (plain : r.index = false)
    (done : RoutePart.take r.parts segments params = some taken) :
    Fits segments params ⟨[r], taken.count, taken.params⟩ := by
  obtain ⟨short, covers, captured, -⟩ := RoutePart.take_eq_some done
  have own : [r].flatMap ownParts = r.parts := by simp [ownParts, plain]
  exact ⟨short, own ▸ covers, own ▸ captured⟩

/-- A trail that fits what a route leaves fits, with this route in front, what there was. -/
theorem cons (plain : r.index = false)
    (done : RoutePart.take r.parts segments params = some taken) (open_end : taken.all = false)
    {below : RouteTrail} (fits : Fits (segments.drop taken.count) taken.params below) :
    Fits segments params ⟨r :: below.routes, taken.count + below.count, below.params⟩ := by
  obtain ⟨short, covers, captured, tame⟩ := RoutePart.take_eq_some done
  obtain ⟨short', covers', captured'⟩ := fits
  have own : (r :: below.routes).flatMap ownParts = r.parts ++ below.routes.flatMap ownParts := by
    simp [ownParts, plain]
  rw [List.length_drop] at short'
  refine ⟨by dsimp only; omega, ?_, ?_⟩
  · rw [own, List.take_add]
    exact RoutePart.covers_append covers (tame open_end) covers'
  · rw [own, List.take_add, RoutePart.captures_append covers (tame open_end), captured', captured,
      Entries.merge, Entries.merge, Entries.merge, List.foldl_append]

end RouteTrail.Fits

namespace RouteNode

/-- What a search may give: a trail that fits, and that leaves nothing unless it may. -/
def Gives (loose : Bool) (segments : List String) (params : RouteParams) (t : RouteTrail) : Prop :=
  t.Fits segments params ∧ (loose = false -> t.count = segments.length)

theorem matchChildren_gives {loose : Bool} {segments : List String} {params : RouteParams}
    {rs : List RouteNode} {partialTrail : Option RouteTrail} {trail : RouteTrail}
    (each : ∀ r ∈ rs, ∀ loose trail, matchNode loose segments params r = some trail ->
      Gives loose segments params trail)
    (found : matchChildren loose partialTrail segments params rs = some trail)
    (before : ∀ trail, partialTrail = some trail -> Gives loose segments params trail) :
    Gives loose segments params trail := by
  induction rs generalizing partialTrail with
  | nil => exact before trail found
  | cons r rs ih =>
    obtain ⟨first, later⟩ := List.forall_mem_cons.mp each
    rw [matchChildren] at found
    cases strict : matchNode false segments params r with
    | some whole =>
      rw [strict] at found
      obtain rfl := Option.some.inj found
      obtain ⟨fits, all⟩ := first false whole strict
      exact ⟨fits, fun _ => all rfl⟩
    | none =>
      rw [strict] at found
      dsimp only at found
      split at found
      · rename_i wanted
        obtain ⟨rfl, -⟩ := Bool.and_eq_true_iff.mp wanted
        refine ih later found fun candidate taken => ?_
        exact first true candidate (Option.filter_eq_some_iff.mp taken).1
      · exact ih later found before

/-- A route that matches is an index route at the end of the path, or its parts take something and it
ends the trail there or goes on below. -/
theorem matchNode_cases {r : RouteFields} {cs : List RouteNode} {loose : Bool}
    {segments : List String} {params : RouteParams} {trail : RouteTrail}
    (found : matchNode loose segments params (.node r cs) = some trail) :
    (r.index = true ∧ segments = [] ∧ trail = ⟨[r], 0, params⟩) ∨
      (r.index = false ∧ ∃ taken, RoutePart.take r.parts segments params = some taken ∧
        ((trail = ⟨[r], taken.count, taken.params⟩ ∧
            (segments.drop taken.count = [] ∨ loose = true)) ∨
          (taken.all = false ∧ ∃ below,
            matchChildren loose none (segments.drop taken.count) taken.params cs = some below ∧
            trail = ⟨r :: below.routes, taken.count + below.count, below.params⟩))) := by
  rw [matchNode] at found
  cases index : r.index with
  | true =>
    rw [if_pos index] at found
    split at found
    · rename_i nothing
      exact .inl ⟨rfl, List.isEmpty_iff.mp nothing, (Option.some.inj found).symm⟩
    · cases found
  | false =>
    rw [if_neg (by simp [index])] at found
    cases done : RoutePart.take r.parts segments params with
    | none =>
      rw [done] at found
      cases found
    | some taken =>
      rw [done] at found
      refine .inr ⟨rfl, taken, rfl, ?_⟩
      have ends {result : RouteTrail}
          (alone : (if (segments.drop taken.count).isEmpty || loose then
            some (⟨[r], taken.count, taken.params⟩ : RouteTrail) else none) = some result) :
          result = ⟨[r], taken.count, taken.params⟩ ∧
            (segments.drop taken.count = [] ∨ loose = true) := by
        split at alone
        · rename_i enough
          exact ⟨(Option.some.inj alone).symm, by simpa using enough⟩
        · cases alone
      dsimp only at found
      split at found
      · exact .inl (ends found)
      · rename_i goes_on
        split at found
        · rename_i below inside
          rw [Bool.not_eq_true, Bool.or_eq_false_iff] at goes_on
          exact .inr ⟨goes_on.1, below, inside, (Option.some.inj found).symm⟩
        · exact .inl (ends found)

theorem matchNode_gives (t : RouteNode) {loose : Bool} {segments : List String}
    {params : RouteParams} {trail : RouteTrail}
    (found : matchNode loose segments params t = some trail) :
    Gives loose segments params trail := by
  induction t using Tree.induct generalizing loose segments params trail with
  | node r cs ih =>
    rcases matchNode_cases found with
      ⟨index, rfl, rfl⟩ | ⟨plain, taken, done, ⟨rfl, enough⟩ | ⟨open_end, below, inside, rfl⟩⟩
    · have own : [r].flatMap ownParts = [] := by simp [ownParts, index]
      exact ⟨⟨Nat.le_refl _, own ▸ .nil, own ▸ rfl⟩, fun _ => rfl⟩
    · have fits := RouteTrail.Fits.single plain done
      refine ⟨fits, fun strict => ?_⟩
      have all : segments.drop taken.count = [] := by simpa [strict] using enough
      exact Nat.le_antisymm fits.short (List.drop_eq_nil_iff.mp all)
    · obtain ⟨fits, all⟩ := matchChildren_gives (fun c mem loose trail => ih c mem) inside
        fun trail before => by cases before
      refine ⟨fits.cons plain done open_end, fun strict => ?_⟩
      have short : taken.count ≤ segments.length := (RouteTrail.Fits.single plain done).short
      have rest : below.count = (segments.drop taken.count).length := all strict
      rw [List.length_drop] at rest
      dsimp only
      omega

end RouteNode

/-- The parts of a match: those of its chain below the root. -/
def RouteMatch.parts (m : RouteMatch) : List RoutePart :=
  m.chain.tail.flatMap ownParts

namespace RouteNode

/-- A match and its params account for the path. Matched segments and remainder make up the path. If
the named parts of the chain have distinct names, none of them that of wildcards, the parts written
out with the params are the matched segments, and the params are those of the parts, each once. A
match that is not loose leaves no remainder. -/
theorem matchPath_writeOut {root : RouteNode} {path : String} {loose : Bool} {m : RouteMatch}
    (found : root.matchPath path loose = some m)
    (distinct : (RoutePart.dynamicNames m.parts).Nodup)
    (reserved : "*" ∉ RoutePart.dynamicNames m.parts) :
    m.matched ++ m.remainder = RoutePath.split path ∧
      RoutePart.writeOut m.params m.parts = some m.matched ∧
      Entries.keys m.params = RoutePart.captureNames m.parts ∧
      (loose = false -> m.remainder = []) := by
  rw [matchPath] at found
  split at found
  · rename_i trail below
    obtain rfl := Option.some.inj found
    obtain ⟨⟨short, covers, captured⟩, all⟩ :=
      matchChildren_gives (fun r _ loose trail => matchNode_gives r) below nofun
    have names := RoutePart.keys_captures covers
    have once : (Entries.keys (RoutePart.captures (trail.routes.flatMap ownParts)
        ((RoutePath.split path).take trail.count))).Nodup :=
      names ▸ RoutePart.nodup_captureNames distinct reserved
    have params : trail.params = RoutePart.captures (trail.routes.flatMap ownParts)
        ((RoutePath.split path).take trail.count) := by
      rw [captured, Entries.merge_of_disjoint once fun _ _ => List.not_mem_nil, List.nil_append]
    refine ⟨List.take_append_drop _ _, ?_, params ▸ names, fun strict => ?_⟩
    · refine RoutePart.writeOut_of_covers covers (fun s mem => ?_) fun e mem => ?_
      · exact Text.mem_pieces (List.mem_of_mem_take mem)
      · exact params ▸ Entries.get?_of_mem once mem
    · exact List.drop_eq_nil_iff.mpr (Nat.le_of_eq (all strict).symm)
  · split at found
    · cases found
    · rename_i none_left
      obtain rfl := Option.some.inj found
      refine ⟨?_, rfl, rfl, ?_⟩
      · dsimp only
        rw [List.nil_append]
      · rintro rfl
        simpa using none_left

/-- The files of users. A listing is tried before the other files, and fails where more follows than
the number of a page. -/
def userFiles : RouteNode :=
  .node { id := RouteFields.rootId } [
    .node { id := "area", segment := some ":user/:area" } [
      .node { id := "listing", segment := some "list/:page" } [],
      .node { id := "file", segment := some "*" } []]]

/-- The match of a file below a place that the listing takes for itself first. -/
def userFile : RouteMatch where
  chain := [{ id := RouteFields.rootId }, { id := "area", segment := some ":user/:area" },
    { id := "file", segment := some "*" }]
  params := [("user", "ada"), ("area", "docs"), ("*", "list/1/2")]
  matched := ["ada", "docs", "list", "1", "2"]

theorem matchPath_userFiles :
    userFiles.matchPath "/ada/docs/list/1/2" false = some userFile := by
  have ranked : userFiles.ranked = userFiles := by
    simp only [userFiles, ranked, rankedAll, rankSiblings_of_pairwise List.Pairwise.nil]
    rw [rankSiblings_of_pairwise (by decide +kernel), rankSiblings_of_pairwise (by decide +kernel)]
  rw [matchPath, ranked]
  decide +kernel

theorem userFile_writeOut :
    userFiles.matchPath "/ada/docs/list/1/2" false = some userFile ∧
      RoutePart.dynamicNames userFile.parts = ["user", "area"] ∧
      RoutePart.writeOut userFile.params userFile.parts =
        some ["ada", "docs", "list", "1", "2"] ∧
      Entries.keys userFile.params = ["user", "area", "*"] := by
  have names : RoutePart.dynamicNames userFile.parts = ["user", "area"] := by decide +kernel
  have accounted := matchPath_writeOut matchPath_userFiles (by rw [names]; decide)
    (by rw [names]; decide)
  exact ⟨matchPath_userFiles, names, accounted.2.1, accounted.2.2.1⟩

end RouteNode

end ViewDoc
