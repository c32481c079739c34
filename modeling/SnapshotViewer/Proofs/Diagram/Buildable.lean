import SnapshotViewer.Proofs.View.ForeignSelection
import SnapshotViewer.Proofs.View.KeptSelection

/-!
# Diagrams that can be built

`Builder.CanBuild` says that building a diagram cannot fail: there is a scheduler for every
snapshot, the templates of the labels are texts, and no filter of the two chains fails. If nothing
but captured snapshots is visible, showing the window of a view cannot fail then, wherever it is.
`View.Displays` says what a view shows after that. Main statement: `View.moveWindow_displays`.
-/

namespace SnapshotViewer

theorem Window.ofBounds_single {i size : Nat} (h : i < size) : ofBounds i i size = .ok ⟨i, i⟩ :=
  if_pos ⟨Int.natCast_nonneg i, Int.le_refl _, Int.ofNat_lt.2 h⟩

namespace Builder

/-- Diagrams can be built: there is a scheduler that assigns blocks to every snapshot, the labels
have texts for templates, and no filter of the two chains fails. -/
structure CanBuild (b : Builder) (w : World) : Prop where
  scheduler : ∃ s, b.scheduler = some s ∧ ∀ x, ∃ blocks, s.assign x = .ok blocks
  templates : ∀ n, ∃ lines, b.templates.lines n = .ok lines
  filters : ∀ f ∈ w.filtersFor b.chain (some b.sequenceChain), ∀ figures,
    ∃ changed, f.2.apply figures = .ok changed

variable {b : Builder} {w w' : World} {r : SnapshotRef}

theorem CanBuild.congr (h : b.CanBuild w) (hchains : w'.chains = w.chains)
    (hfilters : w'.filters = w.filters) : b.CanBuild w' where
  scheduler := h.scheduler
  templates := h.templates
  filters := by
    unfold World.filtersFor World.filtersOf
    rw [hchains, hfilters]
    exact h.filters

theorem CanBuild.figures (h : b.CanBuild w) (s : Snapshot) :
    ∃ figures, Figure.ofSnapshot b.templates s = .ok figures := by
  unfold Figure.ofSnapshot
  induction s.nodeList with
  | nil => exact ⟨[], rfl⟩
  | cons n rest ih =>
    obtain ⟨figures, hfigures⟩ := ih
    obtain ⟨lines, hlines⟩ := h.templates n
    refine ⟨{ node := n, lines, block := s.blockOf? n.id } :: figures, ?_⟩
    rw [List.mapM_cons, Figure.ofNode, hlines, hfigures]
    rfl

/-- Assigning blocks changes neither the filters nor what is stored. -/
theorem CanBuild.ensureBlocks (h : b.CanBuild w) (hr : r < w.snapshots.length) :
    (b.ensureBlocks r).Ends w (fun _ u => u.chains = w.chains ∧ u.filters = w.filters ∧
      u.snapshots.length = w.snapshots.length) fun _ _ => False := by
  obtain ⟨scheduler, hscheduler, hassign⟩ := h.scheduler
  obtain ⟨s, hs⟩ : ∃ s, w.snapshots[r]? = some s := ⟨_, List.getElem?_eq_getElem hr⟩
  obtain ⟨⟨blocks, log⟩, hblocks⟩ := hassign s
  unfold Builder.ensureBlocks
  rw [Act.ends_bind, Act.ends_of_ok (Act.runIn_snapshot hs)]
  split
  · exact Act.ends_pure.2 ⟨rfl, rfl, rfl⟩
  · rw [hscheduler]
    dsimp only
    rw [Act.ends_bind, Act.ends_record, Act.ends_bind, hblocks,
      Act.ends_of_ok (Act.runIn_ofExcept_ok _ _)]
    refine Act.ends_modify.2 ⟨rfl, rfl, ?_⟩
    simp [assignBlocks, World.modifySnapshot, World.recordAll, World.record]

/-- The diagram of a stored snapshot is built. -/
theorem CanBuild.rebuild (h : b.CanBuild w) (hr : r < w.snapshots.length) :
    (b.rebuild r).Ends w (fun _ _ => True) fun _ _ => False := by
  unfold Builder.rebuild
  refine (h.ensureBlocks hr).bind fun _ u ⟨hchains, hfilters, hlength⟩ => ?_
  obtain ⟨s, hs⟩ : ∃ s, u.snapshots[r]? = some s := ⟨_, List.getElem?_eq_getElem (hlength ▸ hr)⟩
  obtain ⟨figures, hfigures⟩ := h.figures s
  rw [Act.ends_bind, Act.ends_of_ok (Act.runIn_snapshot hs), Act.ends_bind, hfigures,
    Act.ends_of_ok (Act.runIn_ofExcept_ok _ _), Act.ends_bind, Act.ends_get, Act.ends_bind,
    Act.ends_modify]
  have hpainted : (u.paint b.chain (some b.sequenceChain) figures).failure = none :=
    Painting.run_succeeds (h.congr hchains hfilters).filters figures
  rw [hpainted]
  dsimp only
  rw [Act.ends_bind, Act.debug, Act.ends_record, Act.ends_bind, Act.ends_get, Act.ends_bind,
    Act.ends_modify]
  exact Act.ends_pure.2 trivial

end Builder

namespace World

/-- The snapshots are stored, and none of them is a difference. -/
def Captured (w : World) (rs : List SnapshotRef) : Prop :=
  ∀ r ∈ rs, ∃ s, w.snapshots[r]? = some s ∧ s.isDifference = false

variable {w w' : World} {rs : List SnapshotRef} {r : SnapshotRef}

theorem captured_of_plain (hstored : ∀ r ∈ rs, r < w.snapshots.length)
    (hplain : ∀ r ∈ rs, w.isDifference r = false) : w.Captured rs := by
  intro r hr
  have hs := List.getElem?_eq_getElem (hstored r hr)
  have hp := hplain r hr
  rw [isDifference, hs] at hp
  exact ⟨_, hs, hp⟩

theorem Captured.mono {es : List Event} (h : w.Captured rs) (hkept : SnapshotsKept es w w') :
    w'.Captured rs := by
  intro r hr
  obtain ⟨s, hs, hplain⟩ := h r hr
  obtain ⟨s', hs', hsame⟩ := hkept.kept r s hs
  refine ⟨s', hs', ?_⟩
  rw [Snapshot.isDifference, hsame.origin]
  exact hplain

theorem Captured.isDifference (h : w.Captured rs) (hr : r ∈ rs) : w.isDifference r = false := by
  obtain ⟨s, hs, hplain⟩ := h r hr
  rw [World.isDifference, hs]
  exact hplain

/-- A captured snapshot stands for itself. -/
theorem Captured.unwrap (h : w.Captured rs) (hr : r ∈ rs) (isFirst : Bool) :
    w.unwrap isFirst r = .ok r := by
  obtain ⟨s, hs, hplain⟩ := h r hr
  rw [World.unwrap, hs]
  unfold Snapshot.isDifference at hplain
  cases horigin : s.origin with
  | captured => simp only [horigin]
  | difference => rw [horigin] at hplain; cases hplain

end World

namespace View

open World

variable {a : Announce} {v : ViewRef} {w : World} {view : View}

/-! ## Showing the window -/

theorem entry_of_fits (hfits : view.window.FitsIn view.graphs.length) :
    ∃ low high, view.Denotes low high := by
  obtain ⟨hlow, hordered, hhigh⟩ := hfits
  have hlt : view.window.low.toNat < view.graphs.length := by omega
  have hlt' : view.window.high.toNat < view.graphs.length := by omega
  exact ⟨_, _, List.getElem?_eq_getElem hlt, List.getElem?_eq_getElem hlt'⟩

/-- The graph of two stored snapshots is stored. -/
theorem currentGraph_succeeds (counted : Bool) {first second : SnapshotRef}
    (hfirst : first < w.snapshots.length) (hsecond : second < w.snapshots.length) :
    (Act.currentGraph counted first second).Ends w (fun graph u => graph < u.snapshots.length ∧
      u.views = w.views ∧ u.chains = w.chains ∧ u.filters = w.filters) fun _ _ => False := by
  unfold Act.currentGraph Act.makeDifference
  split
  · exact Act.ends_pure.2 ⟨hfirst, rfl, rfl, rfl⟩
  · have hs : (w.record (.compared first second counted)).snapshots[first]? = some _ :=
      List.getElem?_eq_getElem hfirst
    have ht : (w.record (.compared first second counted)).snapshots[second]? = some _ :=
      List.getElem?_eq_getElem hsecond
    rw [Act.ends_bind, Act.ends_record, Act.ends_bind, Act.ends_of_ok (Act.runIn_snapshot hs),
      Act.ends_bind, Act.ends_of_ok (Act.runIn_snapshot ht), Act.ends_bind, Act.ends_get,
      Act.ends_bind, Act.ends_set]
    refine Act.ends_pure.2 ⟨?_, rfl, rfl, rfl⟩
    simp [World.archive, World.record]

/-- A window whose ends are resolved is shown if diagrams can be built. -/
theorem windowMoved_returns (hview : w.views[v]? = some view) {first second : SnapshotRef}
    (hfirst : w.firstGraph view = .ok first) (hsecond : w.secondGraph view = .ok second)
    (hbuild : view.builder.CanBuild w) :
    (windowMoved a v).Ends w (fun _ _ => True) fun _ _ => False := by
  have hends : (showEnds a v first second).Ends w (fun _ _ => True) fun _ _ => False := by
    unfold showEnds
    rw [Act.ends_bind, Act.ends_of_ok (Act.runIn_view hview), Act.ends_bind, Act.debug,
      Act.ends_record]
    refine (currentGraph_succeeds view.counted (w := w.record _) (firstOf_lt hfirst)
      (secondOf_lt hsecond)).bind fun graph u ⟨hgraph, hviews, hchains, hfilters⟩ => ?_
    rw [Act.ends_bind, Act.ends_modifyView]
    have hview₁ := views_modifyView_self (hviews ▸ hview : u.views[v]? = some view)
      fun view => { view with selection := some ⟨first, second, graph⟩ }
    refine Act.Ends.bind (Q := fun _ _ => True) ?_ fun _ u _ =>
      (announce_succeeds _ u).bind fun _ u _ => announce_succeeds _ u
    unfold draw
    rw [Act.ends_bind, Act.ends_of_ok (Act.runIn_view hview₁)]
    have hbuild₁ : view.builder.CanBuild (u.modifyView v fun view =>
        { view with selection := some ⟨first, second, graph⟩ }) := hbuild.congr hchains hfilters
    exact (hbuild₁.rebuild hgraph).bind fun d u _ => Act.ends_modifyView.2 trivial
  exact windowMoved_of_showEnds hview hfirst hsecond hends

/-- A window over captured snapshots is shown if diagrams can be built. -/
theorem windowMoved_succeeds (hview : w.views[v]? = some view) (hcaptured : w.Captured view.graphs)
    (hfits : view.window.FitsIn view.graphs.length) (hbuild : view.builder.CanBuild w) :
    (windowMoved a v).Ends w (fun _ _ => True) fun _ _ => False := by
  obtain ⟨low, high, hlow, hhigh⟩ := entry_of_fits hfits
  exact windowMoved_returns hview
    ((firstGraph_of_low hlow hfits w).trans (hcaptured.unwrap (mem_of_itemAt? hlow) true))
    ((secondGraph_of_high hhigh hfits w).trans (hcaptured.unwrap (mem_of_itemAt? hhigh) false))
    hbuild

/-- What a view shows in the middle of a change, when its window was resolved. -/
def Displays (v : ViewRef) (hide : Value) (graphs : List SnapshotRef) (w : World) : Prop :=
  ∃ view, w.views[v]? = some view ∧ view.busy = true ∧ view.hideDuplicates = hide ∧
    view.graphs = graphs ∧ Resolved w view

section

variable (ha : ∀ n w w', a v n w = some w' → Framed none w w')

include ha

/-- The window is moved to where it fits. -/
theorem moveWindow_displays (hview : w.views[v]? = some view) (hbusy : view.busy = true)
    (hcaptured : w.Captured view.graphs) (hbuild : view.builder.CanBuild w) {window : Window}
    (hfits : window.FitsIn view.graphs.length) : (do
      Act.modifyView v fun view => { view with window }
      windowMoved a v : Act Bool).Ends w
        (fun _ u => Displays v view.hideDuplicates view.graphs u) fun _ _ => False := by
  rw [Act.ends_bind, Act.ends_modifyView]
  have hview₁ := views_modifyView_self hview fun view => { view with window }
  have hshown : (windowMoved a v).Ends (w.modifyView v fun view => { view with window })
      (fun _ _ => True) fun _ _ => False :=
    windowMoved_succeeds hview₁ hcaptured hfits (hbuild.congr rfl rfl)
  refine ((hshown.and (keepsGraphs_windowMoved ha _)).and
    (turns_windowMoved ha _ _ hview₁ hbusy)).mono ?_ fun _ _ h => h.1.1
  rintro _ u ⟨⟨-, hkept⟩, view₂, hview₂, hbusy₂, -, hresolved⟩
  obtain ⟨x, hx, -, hhide, hgraphs, -⟩ := hkept _ hview₁ hbusy
  cases hx.symm.trans hview₂
  exact ⟨view₂, hview₂, hbusy₂, hhide, hgraphs, hresolved⟩

/-- A visible snapshot is selected. -/
theorem setWindow_displays (hview : w.views[v]? = some view) (hbusy : view.busy = true)
    (hcaptured : w.Captured view.graphs) (hbuild : view.builder.CanBuild w) {i : Nat}
    (hi : i < view.graphs.length) : (setWindow a v i i).Ends w
      (fun _ u => Displays v view.hideDuplicates view.graphs u) fun _ _ => False := by
  have hbounds := Window.ofBounds_single hi
  unfold setWindow
  rw [Act.ends_bind, Act.ends_of_ok (Act.runIn_view hview), Act.ends_bind, hbounds,
    Act.ends_of_ok (Act.runIn_ofExcept_ok _ w)]
  exact moveWindow_displays ha hview hbusy hcaptured hbuild (Window.fitsIn_of_ofBounds hbounds)

theorem announceKept_displays {hide : Value} {graphs : List SnapshotRef}
    (h : Displays v hide graphs w) (replaced : Bool) : (announceKept a v replaced).Ends w
      (fun _ u => Displays v hide graphs u) fun _ _ => False := by
  obtain ⟨view, hview, hbusy, rfl, rfl, hresolved⟩ := h
  refine (((announceKept_succeeds replaced w).and (keepsGraphs_announceKept ha replaced w)).and
    (turns_announceKept ha replaced w view hview hbusy)).mono ?_ fun _ _ h => h.1.1
  rintro _ u ⟨⟨-, hkept⟩, view₂, hview₂, hbusy₂, -, hrefresh⟩
  obtain ⟨x, hx, -, hhide, hgraphs, -⟩ := hkept _ hview hbusy
  cases hx.symm.trans hview₂
  exact ⟨view₂, hview₂, hbusy₂, hhide, hgraphs, hrefresh hresolved⟩

end

end View

end SnapshotViewer
