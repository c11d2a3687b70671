import ViewDoc.Proofs.Decode.Outcome
import ViewDoc.Proofs.Ref.Resolved
import ViewDoc.Tsx.Handler
/-!
Navigation in generated code. The main statement compares the statement for a written destination
with the effect that a view asks for. They differ exactly if a reference stands where the window is
chosen, or whether to replace: a view decides by what the reference reads, generated code by the
reference itself.
-/

set_option autoImplicit false

namespace ViewDoc

open Tsx (Declared Draft Note Scope Statement)

/-- A value is a reference that reads another value. -/
def Value.RefersTo (ctx : Context) (v u : Value) : Prop :=
  ∃ r, Ref.ofValue? v = some r ∧ r.resolve ctx = .ok u

namespace EffectKind

/-- The method that carries out effects of a kind; no method carries out a broadcast. -/
def method? : EffectKind -> Option String
  | .openWindow => some "window.open"
  | .locationAssign => some "window.location.assign"
  | .locationReplace => some "window.location.replace"
  | .historyPush => some "window.history.pushState"
  | .historyReplace => some "window.history.replaceState"
  | .broadcast => none

theorem eq_of_method? {k l : EffectKind} {m : String} (own : k.method? = some m)
    (other : l.method? = some m) : k = l := by
  cases k <;> cases own <;> cases l <;> first | rfl | (revert other; decide)

/-- No method has a bracket in its name, so that a call is cut at the first one. -/
theorem takeWhile_call {k : EffectKind} {m : String} (own : k.method? = some m) (x : String) :
    (m ++ "(" ++ x).toList.takeWhile (· != '(') = m.toList := by
  have plain : m.toList.all (· != '(') = true := by
    cases k <;> cases own <;> rfl
  have mark : ("(" : String).toList = ['('] := rfl
  rw [String.toList_append, String.toList_append, mark, List.append_assoc,
    List.takeWhile_append_of_pos (List.all_eq_true.mp plain), List.singleton_append,
    List.takeWhile_cons_of_neg (by decide), List.append_nil]

/-- A call tells the kind of effect. -/
theorem eq_of_call {k l : EffectKind} {m n x y : String} (own : k.method? = some m)
    (other : l.method? = some n) (same : m ++ "(" ++ x = n ++ "(" ++ y) : k = l := by
  have names : m.toList = n.toList := by
    rw [← takeWhile_call own x, same, takeWhile_call other y]
  obtain rfl := String.toList_injective names
  exact eq_of_method? own other

end EffectKind

namespace Tsx.Statement

/-- A text begins with the call of a method, and this is one of the arguments. -/
def TextCalls (text method argument : String) : Prop :=
  ∃ arguments more, argument ∈ arguments ∧
    text = method ++ "(" ++ (", ".intercalate arguments ++ ");" ++ more)

/-- A statement begins with the call of a method, and one of the arguments is a destination. -/
def Calls (st : Statement) (method url : String) : Prop :=
  TextCalls st.text method (Json.writeText true url)

theorem textCalls_followText {kind : EffectKind} {method : String}
    (own : kind.method? = some method) (url : String) (state : Value) :
    TextCalls (followText kind url state) method url := by
  have calls (text : String) (arguments : List String) (more : String) (among : url ∈ arguments)
      (written : followText kind url state = text)
      (same : text.toList =
        (method ++ "(" ++ (", ".intercalate arguments ++ ");" ++ more)).toList) :
      TextCalls (followText kind url state) method url :=
    ⟨arguments, more, among, written.trans (String.toList_injective same)⟩
  have changesHistory (name stateText : String) (called : method = "window.history." ++ name)
      (written : followText kind url state = "window.history." ++ name ++ "(" ++ stateText ++
        ", '', " ++ url ++ "); " ++ "window.dispatchEvent(new PopStateEvent('popstate'));") :
      TextCalls (followText kind url state) method url := by
    refine calls _ [stateText, "''", url] " window.dispatchEvent(new PopStateEvent('popstate'));"
      (by simp) written ?_
    rw [called]
    simp
  cases kind <;> cases own
  · exact calls ("window.open(" ++ url ++ ", '_blank', 'noopener,noreferrer');")
      [url, "'_blank'", "'noopener,noreferrer'"] "" (by simp) rfl (by simp)
  · exact calls ("window.location.assign(" ++ url ++ ");") [url] "" (by simp) rfl (by simp)
  · exact calls ("window.location.replace(" ++ url ++ ");") [url] "" (by simp) rfl (by simp)
  · exact changesHistory "pushState" _ (by decide) rfl
  · exact changesHistory "replaceState" _ (by decide) rfl

/-- The call in a statement that follows a link tells the kind of effect. -/
theorem Calls.eq_kind {kind other : EffectKind} {method url destination : String} {state : Value}
    (some_method : kind.method?.isSome = true) (own : other.method? = some method)
    (calls : (Statement.follow kind url state).Calls method destination) : kind = other := by
  obtain ⟨name, called⟩ := Option.isSome_iff_exists.mp some_method
  obtain ⟨_, _, -, text⟩ := calls
  obtain ⟨_, _, -, same⟩ := textCalls_followText called (Json.writeText true url) state
  exact EffectKind.eq_of_call called own (same.symm.trans text)

end Tsx.Statement

namespace Value

variable {ctx : Context} {level : Nat} {u v w x : Value} {r : Ref} {s : String}

theorem asText?_eq_some_iff : v.asText? = some s ↔ v = .str s := by
  cases v <;> simp [asText?]

theorem isTruthy_of_ref (ref : Ref.ofValue? v = some r) : v.isTruthy = true := by
  cases v with
  | object es =>
    cases es with
    | nil => cases ref
    | cons e rest => rfl
  | _ => cases ref

theorem not_refersTo (plain : Ref.ofValue? v = none) : ¬ v.RefersTo ctx u := by
  rintro ⟨r, ref, -⟩
  rw [plain] at ref
  cases ref

theorem refersTo_iff (ref : Ref.ofValue? v = some r) (found : r.resolve ctx = .ok u) :
    v.RefersTo ctx x ↔ x = u := by
  constructor
  · rintro ⟨s, same, read⟩
    rw [ref] at same
    cases same
    rw [found] at read
    exact (Except.ok.inj read).symm
  · rintro rfl
    exact ⟨r, ref, found⟩

/-- A value that is resolved holds as it did, unless it refers to one that does not. -/
theorem isTruthy_eq_iff_of_resolveLevels (done : resolveLevels ctx (level + 1) v = .ok w) :
    v.isTruthy = w.isTruthy ↔ ¬ ∃ u, v.RefersTo ctx u ∧ u.isTruthy = false := by
  cases ref : Ref.ofValue? v with
  | none =>
    rw [(resolveContents_keeps (resolveLevels_plain ref done)).2]
    exact ⟨fun _ ⟨u, refers, _⟩ => not_refersTo ref refers, fun _ => rfl⟩
  | some r =>
    obtain ⟨u, found, resolved⟩ := resolveLevels_ref ref done
    rw [isTruthy_of_ref ref, (resolveContents_keeps resolved).2]
    simp only [refersTo_iff ref found, exists_eq_left, Bool.not_eq_false]
    exact eq_comm

/-- A value that is resolved is a text if it was one, or refers to one. -/
theorem eq_str_iff_of_resolveLevels (done : resolveLevels ctx (level + 1) v = .ok w) :
    w = .str s ↔ v = .str s ∨ v.RefersTo ctx (.str s) := by
  cases ref : Ref.ofValue? v with
  | none =>
    have kept := (resolveContents_keeps (resolveLevels_plain ref done)).1
    rw [← asText?_eq_some_iff, kept, asText?_eq_some_iff]
    exact (or_iff_left (not_refersTo ref)).symm
  | some r =>
    obtain ⟨u, found, resolved⟩ := resolveLevels_ref ref done
    have noText : v ≠ .str s := by
      rintro rfl
      cases ref
    rw [← asText?_eq_some_iff, (resolveContents_keeps resolved).1, asText?_eq_some_iff,
      refersTo_iff ref found, or_iff_right noText]
    exact eq_comm

end Value

/-- An object with a key that marks no reference is none. -/
theorem Ref.ofValue?_eq_none_of_get {es : Entries} (key : String) (other : key ∉ tags)
    (present : Entries.get es key ≠ .null) : ofValue? (.object es) = none := by
  have alone {tag : String} {v : Value} (mark : tag ∈ tags) :
      Entries.get [(tag, v)] key = .null := by
    have distinct : tag ≠ key := fun same => other (same ▸ mark)
    rw [Entries.get, Entries.get?, if_neg distinct]
    rfl
  cases ref : ofValue? (.object es) with
  | none => rfl
  | some r =>
    refine absurd ?_ present
    unfold ofValue? at ref
    split at ref
    · rename_i tag path single
      cases single
      refine alone ?_
      unfold ofTag? at ref
      split at ref
      all_goals first | decide | cases ref
    · rename_i single
      cases single
      exact alone (by decide)
    · cases ref

theorem Keyed.named_ofEntries {α : Type} (es : List (String × α)) : named (ofEntries es) = es := by
  induction es with
  | nil => rfl
  | cons e rest ih => exact congrArg (e :: ·) ih

theorem LinkKind.of?_empty : of? "" = none := by
  decide

namespace Navigation

variable {ctx : Context} {params taken : Entries}

/-- The kind of effect that follows a link. -/
def kind (params : Entries) : LinkKind -> EffectKind
  | .external => externalKind params
  | .internal => internalKind params

/-- A reference decides on the way in which a link is followed, and what it reads decides otherwise:
the own window, or not to replace. -/
inductive Misread (ctx : Context) (params : Entries) : LinkKind -> Prop
  | target (refers : (Entries.get params "target").RefersTo ctx (.str "_self")) :
    Misread ctx params .external
  | outside {u : Value} (own : Entries.get params "target" = .str "_self")
      (refers : (Entries.get params "replace").RefersTo ctx u) (fails : u.isTruthy = false) :
    Misread ctx params .external
  | inside {u : Value} (refers : (Entries.get params "replace").RefersTo ctx u)
      (fails : u.isTruthy = false) : Misread ctx params .internal

/-- The statements do what an effect asks for: there is none without an effect, and else a single
one, which calls the method for the effect with its destination. -/
def CarriedOut (effect : Option Effect) (sts : List Statement) : Prop :=
  (effect = none ↔ sts = []) ∧ ∀ e, effect = some e ->
    ∃ st method url, sts = [st] ∧ e.kind.method? = some method ∧ e.url = some url ∧
      st.Calls method url

theorem externalKind_of_blank (other : Entries.get params "target" ≠ .str "_self") :
    externalKind params = .openWindow := by
  rw [externalKind, LinkTarget.ofValue, if_neg other, if_pos rfl]

theorem externalKind_of_here (own : Entries.get params "target" = .str "_self") :
    externalKind params =
      if (Entries.get params "replace").isTruthy then .locationReplace else .locationAssign := by
  rw [externalKind, LinkTarget.ofValue, if_pos own, if_neg nofun]

theorem isSome_method?_kind (params : Entries) (link : LinkKind) :
    (kind params link).method?.isSome = true := by
  cases link with
  | external =>
    rw [kind, externalKind]
    split
    · rfl
    · split <;> rfl
  | internal =>
    rw [kind, internalKind]
    split <;> rfl

/-- Which of two kinds is chosen tells the truth value by which it is. -/
theorem ite_kind_eq_iff {a b : EffectKind} (distinct : a ≠ b) (x y : Bool) :
    (if x then a else b) = (if y then a else b) ↔ x = y := by
  cases x <;> cases y <;> simp [distinct, distinct.symm]

/-- The kinds of effect before and after resolving are the same unless a reference is misread. -/
theorem kind_eq_iff {level : Nat} (link : LinkKind)
    (read : ∀ key, (Entries.get params key).resolveLevels ctx (level + 1) =
      .ok (Entries.get taken key)) :
    kind params link = kind taken link ↔ ¬ Misread ctx params link := by
  have replaces := Value.isTruthy_eq_iff_of_resolveLevels (read "replace")
  have opens := Value.eq_str_iff_of_resolveLevels (s := "_self") (read "target")
  cases link with
  | external =>
    rw [kind, kind]
    by_cases own : Entries.get params "target" = .str "_self"
    · rw [externalKind_of_here own, externalKind_of_here (opens.mpr (.inl own)),
        ite_kind_eq_iff (by decide), replaces]
      refine not_congr ⟨fun ⟨u, refers, fails⟩ => .outside own refers fails, fun misread => ?_⟩
      cases misread with
      | target refers => exact absurd refers (Value.not_refersTo (own ▸ rfl))
      | outside _ refers fails => exact ⟨_, refers, fails⟩
    · rw [externalKind_of_blank own]
      constructor
      · intro same misread
        cases misread with
        | target refers =>
          rw [externalKind_of_here (opens.mpr (.inr refers))] at same
          split at same <;> cases same
        | outside here => exact own here
      · intro fine
        refine (externalKind_of_blank fun here => ?_).symm
        exact (opens.mp here).elim own fun refers => fine (.target refers)
  | internal =>
    rw [kind, kind, internalKind, internalKind, ite_kind_eq_iff (by decide), replaces]
    refine not_congr ⟨fun ⟨u, refers, fails⟩ => .inside refers fails, fun misread => ?_⟩
    cases misread with
    | inside refers fails => exact ⟨_, refers, fails⟩

/-- The effect for a destination has the kind for its link, and there is none without a link. -/
theorem map_effect? {nodeId trigger : String} {effect : Option Effect} {link : Option LinkKind}
    (found : LinkKind.of? (destination params) = link)
    (asked : effect? params nodeId trigger = .ok effect) :
    effect.map (fun e => (e.kind, e.url)) =
      link.map fun l => (kind params l, some (destination params)) := by
  simp only [effect?, found] at asked
  by_cases blank : destination params = ""
  · rw [if_pos blank] at asked
    rw [blank, LinkKind.of?_empty] at found
    cases asked
    cases found
    rfl
  · rw [if_neg blank] at asked
    cases readable : state (Entries.get params "state") with
    | error fault =>
      rw [readable] at asked
      exact nomatch asked
    | ok v =>
      rw [readable] at asked
      rcases link with _ | _ | _ <;> cases asked <;> rfl

theorem exists_effect?_ok (nodeId trigger : String) {v : Value}
    (readable : state (Entries.get params "state") = .ok v) :
    ∃ effect, effect? params nodeId trigger = .ok effect := by
  simp only [effect?, readable]
  generalize LinkKind.of? (destination params) = found
  split
  · exact ⟨none, rfl⟩
  · rcases found with _ | _ | _ <;> exact ⟨_, rfl⟩

theorem effect?_navigate (es : Entries) (nodeId trigger : String) :
    BuiltIn.navigate.effect? (.object es) nodeId trigger =
      Failure.ofFault (effect? es nodeId trigger) := by
  have entries : BuiltIn.paramEntries (.object es) = .ok (Keyed.ofEntries es) := by
    rw [BuiltIn.paramEntries]
    cases es <;> rfl
  simp only [BuiltIn.effect?, entries, Failure.ofFault, Keyed.named_ofEntries, bind, Except.bind]

/-- The statement for a written destination follows its link in the way of its kind, and there is
none without a link. -/
theorem navigation_ok_iff {names : Declared} {scope : Scope} {path written : String}
    {link : Option LinkKind} {sts : List Statement}
    (literal : Entries.get params "to" = .str written)
    (found : LinkKind.of? (Text.trim written) = link) :
    (∃ notes, Draft.navigation names scope path params = .ok (sts, notes)) ↔
      ∃ v, state (Entries.get params "state") = .ok v ∧
        sts = (link.map fun l => Statement.follow (kind params l) (Text.trim written) v).toList := by
  cases readable : state (Entries.get params "state") with
  | error fault =>
    rw [Draft.navigation, readable]
    exact iff_of_false (fun ⟨_, done⟩ => nomatch done) (fun ⟨_, done, _⟩ => nomatch done)
  | ok v =>
    obtain ⟨more, drafted⟩ : ∃ more, Draft.navigation names scope path params =
        .ok ((link.map fun l => Statement.follow (kind params l) (Text.trim written) v).toList,
          more) := by
      simp only [Draft.navigation, readable, literal, found]
      rcases link with _ | _ | _ <;> exact ⟨_, rfl⟩
    rw [drafted]
    constructor
    · rintro ⟨notes, done⟩
      exact ⟨v, rfl, (Prod.mk.inj (Except.ok.inj done)).1.symm⟩
    · rintro ⟨w, same, rfl⟩
      cases same
      exact ⟨more, rfl⟩

theorem carriedOut_none_iff {sts : List Statement} : CarriedOut none sts ↔ sts = [] :=
  ⟨fun h => h.1.mp rfl, fun h => ⟨⟨fun _ => h, fun _ => rfl⟩, nofun⟩⟩

/-- A statement that follows the link of an effect carries it out if it is of its kind. -/
theorem carriedOut_follow_iff {e : Effect} {own : EffectKind} {url : String} {v : Value}
    (leads : e.url = some url) (callable : e.kind.method?.isSome = true)
    (some_method : own.method?.isSome = true) :
    CarriedOut (some e) [.follow own url v] ↔ own = e.kind := by
  constructor
  · rintro ⟨-, each⟩
    obtain ⟨st, method, destination, same, called, -, calls⟩ := each e rfl
    cases same
    exact calls.eq_kind some_method called
  · rintro rfl
    obtain ⟨method, called⟩ := Option.isSome_iff_exists.mp callable
    refine ⟨⟨nofun, nofun⟩, fun d same => ?_⟩
    cases same
    exact ⟨_, method, url, rfl, called, leads, Statement.textCalls_followText called _ v⟩

/-- Params with a written destination resolve to entries, each read on a level of its own, or as it
stands where only a single level is resolved. -/
theorem exists_taken {maxDepth : Int} {written : String} {seen : Value}
    (literal : Entries.get params "to" = .str written)
    (resolved : (Value.object params).resolve ctx maxDepth = .ok seen) :
    ∃ taken, seen = .object taken ∧
      if 1 ≤ maxDepth then
        ∃ level, ∀ key, (Entries.get params key).resolveLevels ctx (level + 1) =
          .ok (Entries.get taken key)
      else ∀ key, Entries.get params key = Entries.get taken key := by
  have plain : Ref.ofValue? (.object params) = none :=
    Ref.ofValue?_eq_none_of_get "to" (by decide) (by rw [literal]; nofun)
  by_cases top : Value.levels maxDepth = 0
  · rw [Value.resolve, top] at resolved
    cases resolved
    refine ⟨params, rfl, ?_⟩
    rw [if_neg (by rw [Value.levels] at top; omega)]
    exact fun key => rfl
  · obtain ⟨level, deep⟩ := Nat.exists_eq_succ_of_ne_zero top
    rw [Value.resolve, deep] at resolved
    obtain ⟨taken, rfl, -⟩ :=
      Value.resolveContents_object plain (Value.resolveLevels_plain plain resolved)
    have read := Value.get_resolveLevels plain resolved
    refine ⟨taken, rfl, ?_⟩
    split
    · rename_i room
      obtain ⟨below, rfl⟩ : ∃ below, level = below + 1 := by
        refine Nat.exists_eq_succ_of_ne_zero fun single => ?_
        rw [Value.levels, single] at deep
        omega
      exact ⟨below, read⟩
    · rename_i shallow
      obtain rfl : level = 0 := by
        rw [Value.levels] at deep
        omega
      exact fun key => Except.ok.inj (read key)

/-- The destination of a written one is its own, and the kinds of effect are the same where no
reference is misread. -/
theorem exists_taken_kinds {maxDepth : Int} {written : String} {seen : Value}
    (literal : Entries.get params "to" = .str written)
    (resolved : (Value.object params).resolve ctx maxDepth = .ok seen) :
    ∃ taken, seen = .object taken ∧ destination taken = Text.trim written ∧
      ∀ link, kind params link = kind taken link ↔ ¬ (1 ≤ maxDepth ∧ Misread ctx params link) := by
  obtain ⟨taken, rfl, levels⟩ := exists_taken literal resolved
  have destination_eq (same : Entries.get taken "to" = .str written) :
      destination taken = Text.trim written := by
    rw [destination, same]
    rfl
  refine ⟨taken, rfl, ?_⟩
  split at levels
  · rename_i room
    obtain ⟨level, read⟩ := levels
    have same := (Value.eq_str_iff_of_resolveLevels (read "to")).mpr (.inl literal)
    refine ⟨destination_eq same, fun link => ?_⟩
    rw [kind_eq_iff link read, and_iff_right room]
  · rename_i shallow
    refine ⟨destination_eq (levels "to" ▸ literal), fun link => ?_⟩
    refine ⟨fun _ deep => shallow deep.1, fun _ => ?_⟩
    cases link <;> simp only [kind, externalKind, internalKind, levels]

/-- A view and generated code both answer an event that navigates to a written destination, where
they can read its state of history. The statements carry out the effect exactly if no reference is
misread. -/
theorem carriedOut_iff (names : Declared) (scope : Scope) (path nodeId trigger : String)
    {maxDepth : Int} {written : String} {seen : Value}
    (literal : Entries.get params "to" = .str written)
    (resolved : (Value.object params).resolve ctx maxDepth = .ok seen) :
    ∃ taken, seen = .object taken ∧
      ((∃ v, state (Entries.get taken "state") = .ok v) ->
        ∃ effect, BuiltIn.navigate.effect? seen nodeId trigger = .ok effect) ∧
      ((∃ v, state (Entries.get params "state") = .ok v) ->
        ∃ sts notes, Draft.navigation names scope path params = .ok (sts, notes)) ∧
      ∀ effect sts notes, BuiltIn.navigate.effect? seen nodeId trigger = .ok effect ->
        Draft.navigation names scope path params = .ok (sts, notes) ->
        (CarriedOut effect sts ↔ ∀ link, LinkKind.of? (Text.trim written) = some link ->
          ¬ (1 ≤ maxDepth ∧ Misread ctx params link)) := by
  obtain ⟨taken, rfl, target, kinds⟩ := exists_taken_kinds literal resolved
  refine ⟨taken, rfl, fun ⟨v, readable⟩ => ?_, fun ⟨v, readable⟩ => ?_, ?_⟩
  · obtain ⟨effect, asked⟩ := exists_effect?_ok nodeId trigger readable
    exact ⟨effect, (effect?_navigate ..).trans (asked ▸ rfl)⟩
  · exact ⟨_, (navigation_ok_iff literal rfl).mpr ⟨v, readable, rfl⟩⟩
  · intro effect sts notes asked drafted
    rw [effect?_navigate, Failure.ofFault_eq_ok_iff] at asked
    generalize found : LinkKind.of? (Text.trim written) = link
    have effects := map_effect? (target ▸ found) asked
    obtain ⟨v, readable, rfl⟩ := (navigation_ok_iff literal found).mp ⟨notes, drafted⟩
    cases link with
    | none =>
      obtain rfl : effect = none := Option.map_eq_none_iff.mp effects
      exact iff_of_true (carriedOut_none_iff.mpr rfl) nofun
    | some link =>
      obtain ⟨e, rfl, facts⟩ := Option.map_eq_some_iff.mp effects
      obtain ⟨ofKind, leads⟩ := Prod.mk.inj facts
      refine (carriedOut_follow_iff (leads.trans (congrArg some target))
        (ofKind ▸ isSome_method?_kind taken link) (isSome_method?_kind params link)).trans ?_
      rw [ofKind, kinds link]
      simp

/-- Params of navigation to a path of the application, where a parameter decides whether to
replace. -/
def swapParams : Entries :=
  [("to", .str "/users"), ("replace", .object [("$param", .str "swap")])]

/-- A context in which the parameter reads a truth value. -/
def swapContext (b : Bool) : Context :=
  { params := [("swap", .bool b)] }

/-- What the params resolve to. -/
def swapTaken (b : Bool) : Entries :=
  [("to", .str "/users"), ("replace", .bool b)]

theorem swapParams_resolve (b : Bool) :
    (Value.object swapParams).resolve (swapContext b) Value.defaultDepth =
      .ok (.object (swapTaken b)) := by
  cases b <;> rfl

theorem not_misread_swapParams (link : LinkKind) : ¬ Misread (swapContext true) swapParams link := by
  intro misread
  cases misread with
  | target refers => exact Value.not_refersTo rfl refers
  | outside own => cases own
  | inside refers fails =>
    obtain rfl := (Value.refersTo_iff (r := .param "swap") rfl rfl).mp refers
    cases fails

/-- Where the parameter says to replace, the statement carries out the effect. -/
theorem swapParams_carriedOut :
    ∃ effect sts notes,
      BuiltIn.navigate.effect? (.object (swapTaken true)) "link" "click" = .ok effect ∧
      Draft.navigation {} {} "ui.root.events.onClick" swapParams = .ok (sts, notes) ∧
      CarriedOut effect sts := by
  obtain ⟨taken, same, asks, drafts, agree⟩ :=
    carriedOut_iff {} {} "ui.root.events.onClick" "link" "click" rfl (swapParams_resolve true)
  cases same
  obtain ⟨effect, asked⟩ := asks ⟨.null, rfl⟩
  obtain ⟨sts, notes, drafted⟩ := drafts ⟨.null, rfl⟩
  exact ⟨effect, sts, notes, asked, drafted,
    (agree _ _ _ asked drafted).mpr fun link _ misread => not_misread_swapParams link misread.2⟩

/-- Where the parameter says not to replace, the statement replaces all the same. -/
theorem swapParams_not_carriedOut :
    (Value.object swapParams).resolve (swapContext false) Value.defaultDepth =
        .ok (.object (swapTaken false)) ∧
      ∃ effect sts notes,
        BuiltIn.navigate.effect? (.object (swapTaken false)) "link" "click" = .ok effect ∧
        Draft.navigation {} {} "ui.root.events.onClick" swapParams = .ok (sts, notes) ∧
        ¬ CarriedOut effect sts := by
  have asked : BuiltIn.navigate.effect? (.object (swapTaken false)) "link" "click" =
      .ok (some { kind := .historyPush, nodeId := "link", trigger := "click",
                  url := some "/users" }) := rfl
  have drafted : Draft.navigation {} {} "ui.root.events.onClick" swapParams =
      .ok ([.follow .historyReplace "/users" .null], []) := rfl
  refine ⟨swapParams_resolve false, _, _, _, asked, drafted, fun done => ?_⟩
  cases (carriedOut_follow_iff rfl rfl rfl).mp done

end Navigation

end ViewDoc
