import ViewDoc.Proofs.Nesting.Markup
import ViewDoc.Proofs.Tsx.Values
/-!
The parameters that nodes read, each for itself and together with the nodes that their markup holds,
and the names that the markup takes from around it.
-/

set_option autoImplicit false

namespace ViewDoc

/-- The parameters that a data scope declaration reads. -/
def DataDecl.reads (d : DataDecl) : List String :=
  d.source.pointed ++ ((d.design false).nonNull?.map Value.reads).getD [] ++
    match d.extend with
    | .object es => Value.readsOfEntries es
    | _ => []

namespace Tsx

/-- The parameters that the statements for an event read. -/
def Declared.eventReads (names : Declared) (e : EventBinding) : List String :=
  match e.action.filter (· ≠ "") with
  | none => []
  | some action =>
    if names.isFunctionProp action then []
    else if BuiltIn.ofName? action = some .navigate then (Entries.get e.params "to").reads
    else (Value.object e.params).reads

/-- The parameters that the attribute for a prop reads. -/
def propReads (key : String) (v : Value) : List String :=
  if key = stylesheetProp ∨ !isAttributeName key then [] else v.reads

/-- The parameters that the attributes of a node read. -/
def Declared.attributeReads (names : Declared) (omitted : List String) (n : CanonicalFields) :
    List String :=
  (Value.object n.style).reads ++
    (n.props.flatMap fun p => if omitted.contains p.1 then [] else propReads p.1 p.2) ++
    n.events.flatMap fun e => names.eventReads e.2

namespace Draft

variable {names : Declared} {bound : List String} {foreign : Diagnostic -> Prop} {scope : Scope}

/-- Which of the two expressions there are decides the scope. -/
theorem reads_chosen (inside : scope.names ⊆ bound) (d : DataDecl) (live design : Option Expr) :
    Reads names bound foreign []
      (fun e => (∀ f ∈ design, f.names ⊆ bound) -> (∀ f ∈ live, f.names ⊆ bound) -> e.names ⊆ bound)
      (match live, design with
        | some e, some f => return .orElse e f
        | some e, none => return e
        | none, some f => return f
        | none, none => return if (Ref.ofValue? d.source).isSome then .undefined else scope.data :
          Draft Expr) := by
  cases live with
  | some e =>
    cases design with
    | some f =>
      exact .pure fun second first => List.append_subset.mpr ⟨first e rfl, second f rfl⟩
    | none => exact .pure fun _ first => first e rfl
  | none =>
    cases design with
    | some f => exact .pure fun second _ => second f rfl
    | none =>
      refine .pure fun _ _ => ?_
      split
      · exact List.nil_subset _
      · exact scope.data_subset inside

theorem reads_baseScope (own : names.own ⊆ bound) (inside : scope.names ⊆ bound) (path : String)
    (d : DataDecl) :
    Reads names bound foreign
      (d.source.pointed ++ ((d.design false).nonNull?.map Value.reads).getD [])
      (fun e => e.names ⊆ bound) (baseScope names scope path d) := by
  refine .bind (reads_source own inside _ _) fun live => ?_
  have none_of : ∀ f ∈ (none : Option Expr), f.names ⊆ bound := fun f found => nomatch found
  dsimp only
  cases (d.design false).nonNull? with
  | none => exact .bind_silent (.pure none_of) (reads_chosen inside d live)
  | some v => exact .bind_last (reads_value own inside _ v) (reads_chosen inside d live)

theorem reads_picked (d : DataDecl) {params : List String} {base : Expr} {whole : Draft Expr}
    (grown : Reads names bound foreign params
      (fun e => base.names ⊆ bound -> e.names ⊆ bound) whole) :
    Reads names bound foreign params (fun e => base.names ⊆ bound -> e.names ⊆ bound) (do
      let whole ← whole
      match d.pick.word? with
      | some p => return .members whole (← Noted.ofExcept (Path.parse p))
      | none => return whole) := by
  refine .bind_last grown fun whole => ?_
  split
  · refine .bind_ofExcept fun steps _ => ?_
    exact .pure fun within => within
  · exact .pure fun within => within

theorem reads_dataScope (own : names.own ⊆ bound) (inside : scope.names ⊆ bound) (path : String)
    (decl : Option DataDecl) :
    Reads names bound foreign ((decl.map DataDecl.reads).getD []) (fun e => e.names ⊆ bound)
      (dataScope names scope path decl) := by
  cases decl with
  | none => exact .pure (scope.data_subset inside)
  | some d =>
    refine .bind (reads_baseScope own inside path d) fun base => ?_
    dsimp only
    cases d.extend with
    | object es =>
      cases es with
      | nil => exact reads_picked d (.pure fun within => within)
      | cons e es =>
        refine reads_picked d (.map (reads_valueEntries own inside _ _) fun fields each within => ?_)
        exact List.append_subset.mpr ⟨within, Expr.namesOfEntries_subset each⟩
    | _ => exact reads_picked d (.pure fun within => within)

theorem reads_followed (own : names.own ⊆ bound) (inside : scope.names ⊆ bound) (path : String)
    (params : Entries) (state v : Value) :
    Reads names bound foreign v.reads (fun ss => ∀ s ∈ ss, s.names ⊆ bound) (do
      match ← value names scope (path ++ ".params.to") v with
      | some e => return if e.isUndefined then []
          else [.followEither e (Navigation.externalKind params) (Navigation.internalKind params)
            state]
      | none => return [] : Draft (List Statement)) := by
  refine .bind_last (reads_value own inside _ v) fun o => ?_
  cases o with
  | none => exact .pure fun _ => List.forall_mem_nil _
  | some e =>
    refine .pure fun within => ?_
    split
    · exact List.forall_mem_nil _
    · exact List.forall_mem_singleton.mpr (within e rfl)

theorem reads_navigation (own : names.own ⊆ bound) (inside : scope.names ⊆ bound) (path : String)
    (params : Entries) :
    Reads names bound foreign (Entries.get params "to").reads
      (fun ss => ∀ s ∈ ss, s.names ⊆ bound) (navigation names scope path params) := by
  refine .bind_ofExcept fun state _ => ?_
  dsimp only
  cases Entries.get params "to" with
  | str written =>
    have none_read (kind : EffectKind) (url : String) :
        ∀ s ∈ [Statement.follow kind url state], s.names ⊆ bound :=
      List.forall_mem_singleton.mpr (List.nil_subset bound)
    dsimp only
    split
    · exact .pure (none_read _ _)
    · exact .pure (none_read _ _)
    · exact .bind_pure (.warn (by decide) _ _ _) fun _ _ => List.forall_mem_nil _
  | _ => exact reads_followed own inside path params state _

theorem reads_dispatch (own : names.own ⊆ bound) (inside : scope.names ⊆ bound)
    (path nodeId action : String) (params : Entries) :
    Reads names bound foreign (Value.object params).reads
      (fun ss => ∀ s ∈ ss, s.names ⊆ bound) (dispatch names scope path nodeId action params) := by
  refine .bind_last (reads_value own inside _ _) fun o => ?_
  have passed (within : ∀ e ∈ o, e.names ⊆ bound) : (o.getD (.object [])).names ⊆ bound := by
    cases o with
    | none => exact List.nil_subset _
    | some e => exact within e rfl
  dsimp only
  split
  · exact .pure fun within => List.forall_mem_singleton.mpr (passed within)
  · split
    · exact .pure fun _ => List.forall_mem_singleton.mpr (List.nil_subset _)
    · exact .pure fun within => List.forall_mem_singleton.mpr (passed within)

theorem isFunctionProp_mem {action : String} (isFunction : names.isFunctionProp action = true) :
    action ∈ Entries.keys names.props := by
  rw [Declared.isFunctionProp] at isFunction
  split at isFunction
  · rename_i p found
    exact List.mem_map_of_mem (Entries.mem_of_get? found)
  · cases isFunction

theorem reads_statements (own : names.own ⊆ bound) (inside : scope.names ⊆ bound)
    (n : CanonicalFields) (key : String) (e : EventBinding) :
    Reads names bound foreign (names.eventReads e) (fun ss => ∀ s ∈ ss, s.names ⊆ bound)
      (statements names scope n key e) := by
  rw [statements, Declared.eventReads]
  cases e.action.filter (· ≠ "") with
  | none => exact .pure (List.forall_mem_nil _)
  | some action =>
    dsimp only
    split
    · rename_i isFunction
      refine .pure (List.forall_mem_singleton.mpr fun x same => ?_)
      exact List.mem_singleton.mp same ▸ own (Declared.prop_mem_own (isFunctionProp_mem isFunction))
    · split
      · exact reads_navigation own inside _ _
      · exact reads_dispatch own inside _ _ _ _

/-- Stylesheets are noted, and what is no stylesheet is reported. -/
theorem reads_stylesheetsFrom (path : String) (i : Nat) (items : List Value) :
    Reads names bound foreign [] (fun _ => True) (stylesheetsFrom path i items) := by
  induction items generalizing i with
  | nil => exact .pure trivial
  | cons v rest ih =>
    have rest_silent := (ih (i + 1)).imp fun _ _ (_ : True) => trivial
    rw [stylesheetsFrom]
    split
    · exact .bind_silent (.note rfl fun d same => by cases same) fun _ => rest_silent
    · exact .bind_silent (.warn (by decide) _ _ _) fun _ => rest_silent

theorem reads_stylesheets (path : String) (v : Value) :
    Reads names bound foreign [] (fun _ => True) (stylesheets path v) := by
  cases v with
  | list items => exact reads_stylesheetsFrom path 0 items
  | _ => exact .warn (by decide) _ _ _

theorem reads_propAttribute (own : names.own ⊆ bound) (inside : scope.names ⊆ bound)
    (path key : String) (v : Value) :
    Reads names bound foreign (propReads key v) (fun o => ∀ a ∈ o, a.names ⊆ bound)
      (propAttribute names scope path key v) := by
  have none_of : ∀ a ∈ (none : Option Attribute), a.names ⊆ bound := fun a found => nomatch found
  have braced (v : Value) : Reads names bound foreign v.reads (fun o => ∀ a ∈ o, a.names ⊆ bound)
      (do return (← value names scope (path ++ ".props." ++ key) v).map fun e =>
        (⟨key, .braced e⟩ : Attribute)) := by
    refine .bind_pure (reads_value own inside _ v) fun o within a found => ?_
    obtain ⟨e, given, rfl⟩ := Option.map_eq_some_iff.mp found
    exact within e given
  rw [propAttribute, propReads]
  by_cases isStylesheet : key = stylesheetProp
  · rw [if_pos isStylesheet, if_pos (.inl isStylesheet)]
    exact .bind_pure (reads_stylesheets _ v) fun _ _ => none_of
  · by_cases invalid : !isAttributeName key
    · rw [if_neg isStylesheet, if_pos invalid, if_pos (.inr invalid)]
      exact .bind_pure (.warn (by decide) _ _ _) fun _ _ => none_of
    · rw [if_neg isStylesheet, if_neg invalid, if_neg (not_or.mpr ⟨isStylesheet, invalid⟩)]
      dsimp only
      cases v with
      | str s =>
        dsimp only
        split
        · refine .pure fun a same => ?_
          exact Option.mem_some.mp same ▸ List.nil_subset _
        · exact braced (.str s)
      | _ => exact braced _

theorem reads_propAttributes (own : names.own ⊆ bound) (inside : scope.names ⊆ bound)
    (path : String) (omitted : List String) (props : Entries) :
    Reads names bound foreign
      (props.flatMap fun p => if omitted.contains p.1 then [] else propReads p.1 p.2)
      (fun as => ∀ a ∈ as, a.names ⊆ bound) (propAttributes names scope path omitted props) := by
  induction props with
  | nil => exact .pure (List.forall_mem_nil _)
  | cons p rest ih =>
    obtain ⟨key, v⟩ := p
    have joined {params : List String} {first : Draft (Option Attribute)}
        (head : Reads names bound foreign params (fun o => ∀ a ∈ o, a.names ⊆ bound) first) :
        Reads names bound foreign
          (params ++ rest.flatMap fun p => if omitted.contains p.1 then [] else propReads p.1 p.2)
          (fun as => ∀ a ∈ as, a.names ⊆ bound) (do
            let a ← first
            let others ← propAttributes names scope path omitted rest
            return a.toList ++ others) := by
      refine .bind head fun o => .bind_pure ih fun as others own => ?_
      exact List.forall_mem_append.mpr ⟨fun a mem => own a (Option.mem_toList.mp mem), others⟩
    rw [propAttributes, List.flatMap_cons]
    dsimp only
    split
    · exact joined (.pure fun a found => (Option.not_mem_none a found).elim)
    · exact joined (reads_propAttribute own inside path key v)

theorem reads_handlers (own : names.own ⊆ bound) (inside : scope.names ⊆ bound)
    (n : CanonicalFields) (found : List (String × List Statement))
    (events : List (String × EventBinding)) :
    Reads names bound foreign (events.flatMap fun e => names.eventReads e.2)
      (fun hs => (∀ h ∈ found, ∀ s ∈ h.2, s.names ⊆ bound) -> ∀ h ∈ hs, ∀ s ∈ h.2, s.names ⊆ bound)
      (handlers names scope n found events) := by
  induction events generalizing found with
  | nil => exact .pure fun given => given
  | cons event rest ih =>
    obtain ⟨key, e⟩ := event
    refine .bind (reads_statements own inside n key e) fun more => ?_
    refine (ih _).imp fun hs later fresh given => later fun h mem => ?_
    split at mem
    · exact given h mem
    · obtain rfl | mem := Entries.mem_of_mem_set mem
      · have before : ∀ s ∈ (Entries.get? found (Trigger.handler e.trigger)).getD [],
            s.names ⊆ bound := by
          cases known : Entries.get? found (Trigger.handler e.trigger) with
          | none => exact List.forall_mem_nil _
          | some statements => exact given _ (Entries.mem_of_get? known)
        exact List.forall_mem_append.mpr ⟨before, fresh⟩
      · exact given h mem

theorem reads_attributes (own : names.own ⊆ bound) (inside : scope.names ⊆ bound)
    (n : CanonicalFields) (omitted : List String) :
    Reads names bound foreign (names.attributeReads omitted n)
      (fun as => ∀ a ∈ as, a.names ⊆ bound) (attributes names scope n omitted) := by
  have later {params : List String} {style : Draft (Option Expr)}
      (head : Reads names bound foreign params (fun o => ∀ e ∈ o, e.names ⊆ bound) style) :
      Reads names bound foreign
        (params ++ ((n.props.flatMap fun p =>
          if omitted.contains p.1 then [] else propReads p.1 p.2) ++
            n.events.flatMap fun e => names.eventReads e.2))
        (fun as => ∀ a ∈ as, a.names ⊆ bound) (do
          let style ← style
          let props ← propAttributes names scope n.path omitted n.props
          let found ← handlers names scope n [] n.events
          return (style.map fun e => (⟨"style", .braced e⟩ : Attribute)).toList ++ props ++
            found.map fun h => ⟨h.1, .handler h.2⟩) := by
    refine .bind head fun style => ?_
    refine .bind (reads_propAttributes own inside n.path omitted n.props) fun props => ?_
    refine .bind_pure (reads_handlers own inside n [] n.events)
      fun found handled attributed styled => ?_
    refine List.forall_mem_append.mpr ⟨List.forall_mem_append.mpr ⟨fun a mem => ?_, attributed⟩, ?_⟩
    · obtain ⟨e, given, rfl⟩ := Option.map_eq_some_iff.mp (Option.mem_toList.mp mem)
      exact styled e given
    · intro a mem
      obtain ⟨h, handler, rfl⟩ := List.mem_map.mp mem
      intro x read
      obtain ⟨s, among, read⟩ := List.mem_flatMap.mp read
      exact handled (List.forall_mem_nil _) h handler s among read
  rw [attributes, Declared.attributeReads, List.append_assoc]
  dsimp only
  split
  · rename_i empty
    rw [List.isEmpty_iff.mp empty]
    exact later (.pure fun e found => (Option.not_mem_none e found).elim)
  · exact later (reads_value own inside _ _)

theorem reads_referred (own : names.own ⊆ bound) (inside : scope.names ⊆ bound) (path : String)
    (v : Value) :
    Reads names bound foreign v.pointed (fun o => ∀ m ∈ o, m.free ⊆ bound) (
      match Ref.ofValue? v with
      | some r => return some (.value (← reference names scope (path ++ ".text") r))
      | none => do
        if ← Noted.ofExcept (isFiniteNumber v) then return some (.value (.literal v))
        else
          warn "CODEGEN_VALUE_NOT_SERIALIZABLE" "Text must be a string, number or reference."
            (path ++ ".text")
          return none : Draft (Option Markup)) := by
  rw [Value.pointed]
  cases Ref.ofValue? v with
  | some r =>
    refine .bind_pure (reads_reference own inside _ r) fun e within m same => ?_
    exact Option.mem_some.mp same ▸ within
  | none =>
    dsimp only
    refine .bind_ofExcept fun finite _ => ?_
    split
    · refine .pure fun m same => ?_
      exact Option.mem_some.mp same ▸ List.nil_subset _
    · exact .bind_pure (.warn (by decide) _ _ _) fun _ _ m found => (Option.not_mem_none m found).elim

theorem reads_text (own : names.own ⊆ bound) (inside : scope.names ⊆ bound) (path : String)
    (v : Value) :
    Reads names bound foreign v.pointed (fun o => ∀ m ∈ o, m.free ⊆ bound)
      (text names scope path v) := by
  cases v with
  | null => exact .pure fun m found => (Option.not_mem_none m found).elim
  | str s =>
    have plain (m : Markup) (literal : m.free = []) : ∀ x ∈ some m, x.free ⊆ bound := fun x same =>
      Option.mem_some.mp same ▸ literal ▸ List.nil_subset _
    rw [text]
    split
    · exact .pure fun m found => (Option.not_mem_none m found).elim
    · split
      · exact .pure (plain _ rfl)
      · exact .pure (plain _ rfl)
  | _ => exact reads_referred own inside path _

theorem reads_listSource (own : names.own ⊆ bound) (inside : scope.names ⊆ bound) (path : String)
    (l : ListDecl) :
    Reads names bound foreign l.source.pointed (fun e => e.names ⊆ bound)
      (listSource names scope path l) := by
  refine .bind_last (reads_source own inside _ _) fun o => ?_
  cases o with
  | some e => exact .pure fun within => within e rfl
  | none =>
    dsimp only
    split
    · exact .bind_ofExcept fun _ _ => .pure fun _ => scope.data_subset inside
    · exact .pure fun _ => scope.data_subset inside

theorem reads_loop (own : names.own ⊆ bound) (inside : scope.names ⊆ bound) (path : String)
    (l : ListDecl) :
    Reads names bound foreign l.source.pointed (fun loop => loop.source.names ⊆ bound)
      (loop names scope path l) := by
  refine .bind_last (reads_listSource own inside path l) fun source => ?_
  dsimp only
  split
  · refine .bind_pure (P := fun _ => True) (.map (P := fun _ => True) (.ofExcept ?_) ?_) ?_
    · exact fun _ _ => trivial
    · exact fun _ _ => trivial
    · exact fun _ _ within => within
  · exact .bind_pure (P := fun _ => True) (.pure trivial) fun _ _ within => within

end Draft

theorem Scope.mem_of_mem_named {known : List (String × String)} {given : Option String} {x : String}
    {wider : List String} (mem : x ∈ wider) (before : ∀ e ∈ known, e.2 ∈ wider) :
    ∀ e : String × String, (e ∈ match given with
      | some word => Entries.set known word x
      | none => known) -> e.2 ∈ wider := by
  cases given with
  | none => exact before
  | some word =>
    intro e found
    obtain rfl | found := Entries.mem_of_mem_set found
    · exact mem
    · exact before e found

/-- The scope of a template is made of what the scope around it is made of, and of the variables of
the loop. -/
theorem Scope.inLoop_subset {scope : Scope} {bound : List String} (inside : scope.names ⊆ bound)
    (l : ListDecl) (item index : String) :
    (scope.inLoop l item index).names ⊆ item :: index :: bound := by
  have around : bound ⊆ item :: index :: bound :=
    fun x mem => List.mem_cons_of_mem _ (List.mem_cons_of_mem _ mem)
  have second : index ∈ item :: index :: bound := List.mem_cons_of_mem _ List.mem_cons_self
  have aliases : ∀ e ∈ scope.aliases, e.2 ∈ item :: index :: bound :=
    fun e mem => around (scope.alias_mem inside mem)
  refine List.append_subset.mpr ⟨fun x mem => around (scope.data_subset inside mem), ?_⟩
  refine List.append_subset.mpr ⟨List.append_subset.mpr ⟨?_, ?_⟩, ?_⟩
  · exact fun x same => List.mem_singleton.mp same ▸ List.mem_cons_self
  · exact fun x same => List.mem_singleton.mp same ▸ second
  · intro x mem
    obtain ⟨e, found, rfl⟩ := List.mem_map.mp mem
    exact Scope.mem_of_mem_named second (Scope.mem_of_mem_named List.mem_cons_self aliases) e found

namespace Blueprint

/-- The parameters that a node reads itself. -/
def reads (b : Blueprint) (t : CanonicalNode) : List String :=
  let n := t.value
  (n.data.map DataDecl.reads).getD [] ++
    b.names.attributeReads (b.registry.resolve b.icons n).omitProps n ++
    if b.isVoid t then []
    else n.text.pointed ++ (n.list.map fun l => l.source.pointed).getD []

/-- The parameters that a node reads together with what its markup holds, down to a nesting
budget. -/
def readsWithin (b : Blueprint) : Nat -> CanonicalNode -> List String
  | 0, _ => []
  | budget + 1, t =>
    b.reads t ++
      if b.isVoid t then []
      else
        match t.value.list with
        | none => t.children.flatMap (readsWithin b budget)
        | some l =>
          (Draft.template l t.children).flatMap (readsWithin b budget) ++
            ((Draft.emptyNode? b.document l).map (readsWithin b budget)).getD []

end Blueprint

namespace Draft

variable {b : Blueprint} {bound : List String} {foreign : Diagnostic -> Prop} {scope : Scope}

theorem reads_list {draft : Scope -> CanonicalNode -> Draft Markup} {path : String}
    {l : ListDecl} {children : List CanonicalNode} {reads : CanonicalNode -> List String}
    (own : b.names.own ⊆ bound) (inside : scope.names ⊆ bound)
    (each : ∀ bound scope c, b.names.own ⊆ bound -> scope.names ⊆ bound ->
      Reads b.names bound foreign (reads c) (fun m => m.free ⊆ bound) (draft scope c)) :
    Reads b.names bound foreign
      (l.source.pointed ++ ((template l children).flatMap reads ++
        ((emptyNode? b.document l).map reads).getD []))
      (fun m => m.free ⊆ bound) (list b draft scope path l children) := by
  refine .bind (reads_loop own inside path l) fun loop => ?_
  have around : bound ⊆ loop.item :: loop.index :: bound :=
    fun x mem => List.mem_cons_of_mem _ (List.mem_cons_of_mem _ mem)
  have copies : Reads b.names bound foreign ((template l children).flatMap reads)
      (fun ms => ∀ m ∈ ms, m.free ⊆ loop.item :: loop.index :: bound)
      ((template l children).mapM (draft (scope.inLoop l loop.item loop.index))) := by
    refine .mapM fun c _ => .narrow around (each _ _ c ?_ (Scope.inLoop_subset inside l _ _))
    exact fun x mem => around (own mem)
  refine .bind copies fun template => ?_
  cases emptyNode? b.document l with
  | none => exact .pure fun each source => Markup.free_each_subset source each
  | some c =>
    refine .bind_pure (each bound scope c own inside) fun empty stand each source => ?_
    exact Markup.free_eachOr_subset source stand each

theorem reads_resolution
    (told : ∀ n, ∀ d ∈ (b.registry.resolve b.icons n).diagnostics,
      d.code = Note.undeclaredCode -> foreign d) (n : CanonicalFields) :
    Reads b.names bound foreign [] (fun _ => True) (resolution b n) := by
  refine .bind_silent (.note rfl fun d same => nomatch same) fun _ => ?_
  exact .bind_pure (.forM_report (told n)) fun _ _ _ => trivial

/-- The element of a node whose markup goes into its text, its list or its children. -/
theorem reads_element {reads : CanonicalNode -> List String}
    {draft : Scope -> CanonicalNode -> Draft Markup}
    (own : b.names.own ⊆ bound) (inside : scope.names ⊆ bound)
    (each : ∀ bound scope c, b.names.own ⊆ bound -> scope.names ⊆ bound ->
      Reads b.names bound foreign (reads c) (fun m => m.free ⊆ bound) (draft scope c))
    (tag : String) (attributes : List Attribute) (t : CanonicalNode) :
    Reads b.names bound foreign
      (t.value.text.pointed ++ match t.value.list with
        | none => t.children.flatMap reads
        | some l => l.source.pointed ++ ((template l t.children).flatMap reads ++
            ((emptyNode? b.document l).map reads).getD []))
      (fun m : Markup => (∀ a ∈ attributes, a.names ⊆ bound) -> m.free ⊆ bound) (do
        let text ← text b.names scope t.value.path t.value.text
        let inner ← match t.value.list with
          | some l => List.singleton <$> list b draft scope t.value.path l t.children
          | none => t.children.mapM (draft scope)
        return .element tag attributes (text.toList ++ inner) : Draft Markup) := by
  refine .bind (reads_text own inside t.value.path t.value.text) fun text => ?_
  have element {params : List String} {inner : Draft (List Markup)}
      (within : Reads b.names bound foreign params (fun ms => ∀ m ∈ ms, m.free ⊆ bound) inner) :
      Reads b.names bound foreign params
        (fun m : Markup => (∀ m ∈ text, m.free ⊆ bound) -> (∀ a ∈ attributes, a.names ⊆ bound) ->
          m.free ⊆ bound)
        (do return .element tag attributes (text.toList ++ (← inner)) : Draft Markup) := by
    refine .bind_pure within fun inner each shown attributed => ?_
    refine Markup.free_element_subset attributed (List.forall_mem_append.mpr ⟨?_, each⟩)
    exact fun m mem => shown m (Option.mem_toList.mp mem)
  cases t.value.list with
  | some l =>
    refine element (.map ?_ fun m within => List.forall_mem_singleton.mpr within)
    exact reads_list own inside each
  | none => exact element (.mapM fun c _ => each bound _ c own inside)

/-- A node reads what it and the nodes in its markup read, and its markup takes from around it
nothing but what the component and the loops around it bind. -/
theorem reads_node
    (told : ∀ n, ∀ d ∈ (b.registry.resolve b.icons n).diagnostics,
      d.code = Note.undeclaredCode -> foreign d)
    (own : b.names.own ⊆ bound) (inside : scope.names ⊆ bound) (budget : Nat) (t : CanonicalNode) :
    Reads b.names bound foreign (b.readsWithin budget t) (fun m => m.free ⊆ bound)
      (node b budget scope t) := by
  induction budget generalizing bound scope t with
  | zero => exact fun _ _ done => nomatch done
  | succ budget ih =>
    rw [Blueprint.readsWithin, Blueprint.reads, List.append_assoc, List.append_assoc]
    refine .bind (reads_dataScope own inside t.value.path t.value.data) fun data => ?_
    dsimp only
    -- The names of the data expression are bound only where the parameters in it are.
    refine .assuming (R := fun bound (m : Markup) => m.free ⊆ bound) fun wider around known => ?_
    have own : b.names.own ⊆ wider := fun x mem => around (own mem)
    have inside : Scope.names { scope with data } ⊆ wider :=
      List.append_subset.mpr ⟨known, fun x mem => around (scope.loopNames_subset inside mem)⟩
    refine .bind_silent_of_ok (reads_resolution told t.value) fun r notes resolved => ?_
    obtain rfl : r = _ := eq_of_resolution_ok resolved
    refine .bind (reads_attributes own inside t.value _) fun attributes => ?_
    by_cases isVoid : b.isVoid t = true
    · have drop : voidElements.contains
          (Text.lower (b.registry.resolve b.icons t.value).element) = true := isVoid
      have bare (attributed : ∀ a ∈ attributes, a.names ⊆ wider) (tag : String) :
          (Markup.element tag attributes []).free ⊆ wider :=
        Markup.free_element_subset attributed (List.forall_mem_nil _)
      rw [if_pos isVoid, if_pos isVoid, if_pos drop]
      split
      · exact .bind_pure (.warn (by decide) _ _ _) fun _ _ attributed _ => bare attributed _
      · exact .pure fun attributed _ => bare attributed _
    · have keep : ¬ voidElements.contains
          (Text.lower (b.registry.resolve b.icons t.value).element) = true := isVoid
      rw [if_neg isVoid, if_neg isVoid, if_neg keep]
      have element := reads_element own inside (fun _ _ c own inside => ih own inside c)
        (b.registry.resolve b.icons t.value).element attributes t
      have element := element.imp fun m shown attributed (_ : True) => shown attributed
      cases list : t.value.list with
      | none => simpa [list] using element
      | some l => simpa [list] using element

end Draft

end Tsx

end ViewDoc
