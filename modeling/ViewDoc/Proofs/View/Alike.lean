import ViewDoc.Proofs.Icon.Shown
import ViewDoc.View.Render
/-!
Stages that are rendered alike. In a registry whose other adapters leave icon providers alone, nodes
resolve to the same elements as long as the same providers are ready. Providers reach a view through
these resolutions, and the selection through the marks of its elements: two stages with the same of
both, and the same of all else, have the same view. Their reports and notes may differ.
-/

set_option autoImplicit false

namespace ViewDoc

/-- What an element shows of a resolution. -/
def Resolution.shown (r : Resolution) : String × List String × Bool :=
  (r.element, r.omitProps, r.fallback)

theorem Adapter.iconResolution_shown (icons : IconRegistry) (n : CanonicalFields) (ref : IconRef) :
    (Adapter.iconResolution icons n ref).shown =
      match (icons.resolve ref).element.filter (· ≠ "") with
      | none => ("span", ["iconRef"], true)
      | some element => (element, ["iconRef"], false) := by
  cases shown : (icons.resolve ref).element with
  | none =>
    rw [Adapter.iconResolution, shown]
    simp only [Option.filter_none]
    split <;> rfl
  | some element =>
    rw [Adapter.iconResolution, shown, IconRegistry.resolve_status_ready shown]
    simp only
    cases (some element).filter fun s => decide (s ≠ "") <;> rfl

namespace ComponentRegistry

/-- The adapters of a registry take no notice of icon providers, but for the one for icons. -/
def IconsApart (r : ComponentRegistry) : Prop :=
  ∀ g, ∀ a ∈ (r.entries g).adapters,
    a = Adapter.icon ∨ ∀ icons icons' n, a.resolve icons n = a.resolve icons' n

private theorem findSome?_congr {α β : Type} {f g : α -> Option β} {l : List α}
    (each : ∀ a ∈ l, f a = g a) : l.findSome? f = l.findSome? g := by
  induction l with
  | nil => rfl
  | cons a rest ih =>
    rw [List.findSome?_cons, List.findSome?_cons, each a (.head rest),
      ih fun b mem => each b (.tail a mem)]

theorem standard_iconsApart : standard.IconsApart := by
  rintro (_ | _ | _) a mem <;>
    simp only [entries, standard, List.not_mem_nil, List.mem_cons, or_false] at mem
  · rcases mem with rfl | rfl
    · exact .inl rfl
    · exact .inr fun _ _ _ => rfl
  · obtain rfl := mem
    exact .inr fun _ _ _ => rfl

variable {r : ComponentRegistry} {icons icons' : IconRegistry}

theorem showsIcons_of_mem {g : RegistryGroup} {a : Adapter} (mem : a ∈ (r.entries g).adapters)
    (reads : a.readsIcons = true) : r.showsIcons = true := by
  have asked : g ∈ RegistryGroup.order := by cases g <;> decide
  exact List.any_eq_true.mpr ⟨g, asked, List.any_eq_true.mpr ⟨a, mem, reads⟩⟩

theorem resolveIn?_shown (apart : r.IconsApart)
    (same : r.showsIcons = true ->
      ∀ ref, (icons.resolve ref).element = (icons'.resolve ref).element)
    (n : CanonicalFields) (g : RegistryGroup) :
    (r.resolveIn? icons n g).map Resolution.shown =
      (r.resolveIn? icons' n g).map Resolution.shown := by
  rw [resolveIn?, resolveIn?]
  split
  · rfl
  · rw [List.map_findSome?, List.map_findSome?]
    refine findSome?_congr fun a mem => ?_
    rcases apart g a mem with rfl | indifferent
    · have same := same (showsIcons_of_mem mem rfl)
      simp only [Function.comp_apply, Adapter.icon, Option.map_map]
      refine congrArg (fun f => (Adapter.iconRef? n).map f) (funext fun ref => ?_)
      simp only [Function.comp_apply, Adapter.iconResolution_shown, same]
    · rw [Function.comp_apply, Function.comp_apply, indifferent icons icons' n]

/-- Nodes resolve to the same elements where icon references amount to the same, if icons are shown
at all. -/
theorem resolve_shown (apart : r.IconsApart)
    (same : r.showsIcons = true ->
      ∀ ref, (icons.resolve ref).element = (icons'.resolve ref).element)
    (n : CanonicalFields) : (r.resolve icons n).shown = (r.resolve icons' n).shown := by
  have groups : Option.map Resolution.shown ∘ r.resolveIn? icons n =
      Option.map Resolution.shown ∘ r.resolveIn? icons' n :=
    funext (resolveIn?_shown apart same n)
  rw [resolve, resolve, ← Option.getD_map Resolution.shown, ← Option.getD_map Resolution.shown,
    List.map_findSome?, List.map_findSome?, groups]

end ComponentRegistry

namespace Stage

/-- Two stages whose nodes have the same marks and resolve to the same elements. -/
structure Alike (s t : Stage) : Prop where
  document : s.document = t.document
  settings : s.settings = t.settings
  outlets : s.outlets = t.outlets
  params : s.params = t.params
  state : s.state = t.state
  path : s.path = t.path
  marks : ∀ n fallback, s.marks n fallback = t.marks n fallback
  shown : ∀ n, (s.registry.resolve s.icons n).shown = (t.registry.resolve t.icons n).shown

/-- The resolution of a node, without its reports. -/
theorem result_resolutionOf (s : Stage) (n : CanonicalFields) :
    (s.resolutionOf n).result = .ok (s.registry.resolve s.icons n) := by
  unfold resolutionOf
  simp only [Noted.result_bind, Noted.result_forM_note]
  rfl

namespace Alike

variable {s t : Stage}

theorem resolve (h : Alike s t) : s.resolve = t.resolve := by
  funext frame v
  rw [Stage.resolve, Stage.resolve, h.settings]

theorem propsOf (h : Alike s t) (frame : Frame) (omitted : List String) (props : Entries) :
    s.propsOf frame omitted props = t.propsOf frame omitted props := by
  induction props with
  | nil => rfl
  | cons p rest ih =>
    obtain ⟨key, v⟩ := p
    rw [Stage.propsOf, Stage.propsOf, ih, h.resolve]

theorem eventsOf (h : Alike s t) (frame : Frame) (events : List (String × EventBinding)) :
    s.eventsOf frame events = t.eventsOf frame events := by
  induction events with
  | nil => rfl
  | cons e rest ih =>
    obtain ⟨key, e⟩ := e
    rw [Stage.eventsOf, Stage.eventsOf, ih, h.resolve]

theorem elementOf (h : Alike s t) (frame : Frame) (n : CanonicalFields) :
    s.elementOf frame n (s.registry.resolve s.icons n) =
      t.elementOf frame n (t.registry.resolve t.icons n) := by
  have shown := h.shown n
  simp only [Resolution.shown, Prod.mk.injEq] at shown
  obtain ⟨element, omitProps, fallback⟩ := shown
  simp only [Stage.elementOf, h.propsOf, h.eventsOf, h.resolve, h.marks, element, omitProps,
    fallback]

theorem routePathOf (h : Alike s t) (frame : Frame) (n : CanonicalFields) :
    s.routePathOf frame n = t.routePathOf frame n := by
  simp only [Stage.routePathOf, h.path]

section

variable {drawS drawT : Frame -> CanonicalNode -> Noted ViewNote View}

theorem routeViews (h : Alike s t)
    (draw : ∀ frame c, (drawS frame c).result = (drawT frame c).result) (frame : Frame)
    (n : CanonicalFields) (children : List CanonicalNode) :
    (s.routeViews drawS frame n children).result =
      (t.routeViews drawT frame n children).result := by
  unfold Stage.routeViews
  rw [h.routePathOf]
  refine Noted.result_bind_congr rfl fun path => Noted.result_bind_congr rfl fun candidates => ?_
  simp only
  split
  · exact Noted.result_bind_congr (draw _ _) fun v => rfl
  · rfl

theorem listViews (h : Alike s t)
    (draw : ∀ frame c, (drawS frame c).result = (drawT frame c).result) (frame : Frame)
    (l : ListDecl) (children : List CanonicalNode) :
    (s.listViews drawS frame l children).result =
      (t.listViews drawT frame l children).result := by
  unfold Stage.listViews
  rw [h.document]
  refine Noted.result_bind_congr rfl fun plan => ?_
  split
  · split
    · exact Noted.result_bind_congr (draw _ _) fun v => rfl
    · rfl
  · refine Noted.result_mapM_congr (fun e => ?_) plan.entries
    exact Noted.result_bind_congr (Noted.result_mapM_congr (draw _) _) fun copies => rfl

theorem childViews (h : Alike s t)
    (draw : ∀ frame c, (drawS frame c).result = (drawT frame c).result) (frame : Frame)
    (n : CanonicalFields) (children : List CanonicalNode) :
    (s.childViews drawS frame n children).result =
      (t.childViews drawT frame n children).result := by
  unfold Stage.childViews
  split
  · exact h.routeViews draw frame n children
  · split
    · exact h.listViews draw frame _ children
    · exact Noted.result_mapM_congr (draw frame) children

end

theorem viewOf (h : Alike s t) (budget : Nat) (frame : Frame) (c : CanonicalNode) :
    (s.viewOf budget frame c).result = (t.viewOf budget frame c).result := by
  induction budget generalizing frame c with
  | zero => rfl
  | succ budget ih =>
    have element : (s.registry.resolve s.icons c.value).element =
        (t.registry.resolve t.icons c.value).element := congrArg Prod.fst (h.shown c.value)
    rw [Stage.viewOf, Stage.viewOf, h.settings, h.outlets]
    refine Noted.result_bind_congr rfl fun scope => ?_
    rw [Noted.result_bind, Noted.result_bind, result_resolutionOf, result_resolutionOf]
    show Noted.result (_ >>= _) = Noted.result (_ >>= _)
    rw [h.elementOf, element]
    refine Noted.result_bind_congr rfl fun fields => ?_
    split
    · rfl
    · refine Noted.result_bind_congr rfl fun text => ?_
      simp only
      split
      · rfl
      · exact Noted.result_bind_congr (h.childViews ih _ _ _) fun views => rfl

theorem view (h : Alike s t) : s.view.result = t.view.result := by
  unfold Stage.view
  rw [h.params, h.state, h.document]
  apply h.viewOf

end Alike

/-- Icon providers are shown by what their references amount to. -/
theorem alike_icons (s : Stage) {icons : IconRegistry} (apart : s.registry.IconsApart)
    (same : s.registry.showsIcons = true ->
      ∀ ref, (s.icons.resolve ref).element = (icons.resolve ref).element) :
    Alike s { s with icons } :=
  ⟨rfl, rfl, rfl, rfl, rfl, rfl, fun _ _ => rfl, ComponentRegistry.resolve_shown apart same⟩

/-- The selection is not shown where elements cannot be selected. -/
theorem alike_selected (s : Stage) (selected : Option String)
    (fixed : s.settings.selectable = false) : Alike s { s with selected } := by
  refine ⟨rfl, rfl, rfl, rfl, rfl, rfl, ?_, fun _ => rfl⟩
  intro n fallback
  simp [marks, fixed]

end Stage

end ViewDoc
