import SnapshotViewer.Proofs.Diagram.Rebuild
import SnapshotViewer.Proofs.Run.WellFormed
import SnapshotViewer.Proofs.View.ChangeParts

/-!
# One figure for each node

A diagram is drawn with one figure for each node of its graph, in order. The filters that are run
over it may change figures, but are not to add, remove or move any (`Filter.InPlace`; colour filters
never do). Then the diagrams of a session keep to the nodes of their graphs until a snapshot is
edited, whatever filters are run later (`World.Figured`). Main statement: `World.Reaches.figured`.
-/

namespace SnapshotViewer

/-! ## Filters -/

namespace Filter

/-- The filter leaves every figure in its place. -/
def InPlace (f : Filter) : Prop :=
  ∀ figures changed, f.apply figures = .ok changed → changed.map Figure.id = figures.map Figure.id

end Filter

theorem ColorRule.ids_foldl (rules : List ColorRule) (figures : List Figure) :
    (rules.foldl (fun figures r => r.paint figures) figures).map Figure.id =
      figures.map Figure.id := by
  rw [foldl_paint, List.map_map]
  rfl

theorem Filter.inPlace_color (name : String) (rules : List ColorRule) :
    (Filter.color name rules).InPlace := by
  intro figures changed h
  cases h
  exact ColorRule.ids_foldl rules figures

theorem Painting.ids_run {fs : List (FilterRef × Filter)} (h : ∀ f ∈ fs, f.2.InPlace)
    (figures : List Figure) (hok : (run fs figures).failure = none) :
    (run fs figures).figures.map Figure.id = figures.map Figure.id := by
  induction fs generalizing figures with
  | nil => rfl
  | cons f rest ih =>
    obtain ⟨ref, f⟩ := f
    unfold run at hok ⊢
    cases happly : f.apply figures with
    | error e => simp [happly] at hok
    | ok changed =>
      rw [happly] at hok
      dsimp only at hok ⊢
      rw [ih (fun g hg => h g (List.mem_cons_of_mem _ hg)) changed hok]
      exact h (ref, f) List.mem_cons_self figures changed happly

theorem Figure.ids_mapM {t : Templates} {s : Snapshot} {nodes : List Node} {figures : List Figure}
    (h : nodes.mapM (ofNode t s) = .ok figures) : figures.map Figure.id = nodes.map Node.id := by
  induction nodes generalizing figures with
  | nil =>
    cases h
    rfl
  | cons n rest ih =>
    rw [List.mapM_cons, ofNode] at h
    cases hlines : t.lines n with
    | error e =>
      rw [hlines] at h
      cases h
    | ok lines =>
      cases hrest : rest.mapM (ofNode t s) with
      | error e =>
        rw [hlines, hrest] at h
        cases h
      | ok others =>
        rw [hlines, hrest] at h
        cases h
        rw [List.map_cons, List.map_cons, ih hrest]
        rfl

/-- A snapshot has one figure for each node. -/
theorem Figure.ids_ofSnapshot {t : Templates} {s : Snapshot} {figures : List Figure}
    (h : ofSnapshot t s = .ok figures) : figures.map Figure.id = s.nodeIds := by
  rw [ids_mapM h, Snapshot.nodeList, List.map_map]
  rfl

/-! ## Diagrams -/

namespace World

/-- The filters leave every figure in its place. -/
def InPlace (w : World) : Prop := ∀ f ∈ w.filters, f.InPlace

/-- The diagram has one figure for each node of its graph. -/
def Depicts (w : World) (d : Diagram) : Prop :=
  ∃ s, w.snapshots[d.graph]? = some s ∧ d.figures.map Figure.id = s.nodeIds

/-- The filters leave every figure in its place, and the diagrams of all views have one for each
node. -/
structure Figured (w : World) : Prop where
  filters : w.InPlace
  views : ∀ view ∈ w.views, ∀ d, view.diagram = some d → w.Depicts d

variable {w w' : World}

theorem InPlace.filtersOf (h : w.InPlace) {c : ChainRef} {f : FilterRef × Filter}
    (hf : f ∈ w.filtersOf c) : f.2.InPlace := by
  obtain ⟨ref, -, href⟩ := List.mem_filterMap.1 hf
  obtain ⟨filter, hfilter, rfl⟩ := Option.map_eq_some_iff.1 href
  exact h filter (List.mem_of_getElem? hfilter)

theorem InPlace.filtersFor (h : w.InPlace) {c : ChainRef} {q : Option ChainRef}
    {f : FilterRef × Filter} (hf : f ∈ w.filtersFor c q) : f.2.InPlace := by
  unfold World.filtersFor at hf
  split at hf
  · exact h.filtersOf hf
  · split at hf
    · exact h.filtersOf hf
    · exact (List.mem_append.1 hf).elim h.filtersOf h.filtersOf

/-- What is drawn now has one figure for each node. -/
theorem InPlace.depicts {b : Builder} {d : Diagram} (h : w.InPlace)
    (hpainted : b.Painted w d.graph d.figures) : w.Depicts d := by
  obtain ⟨s, hs, -, hfigures⟩ := hpainted
  obtain ⟨figures, hof, hpainting, heq⟩ := Builder.figures_eq_ok.1 hfigures
  have hpaint := Painting.ids_run (fun f hf => h.filtersFor hf) figures hpainting
  have hoverlay (fs : List Figure) : (Builder.overlay s fs).map Figure.id = fs.map Figure.id := by
    rw [Builder.overlay_eq, List.map_map]
    rfl
  exact ⟨s, hs, by rw [heq, hoverlay]; exact hpaint.trans (Figure.ids_ofSnapshot hof)⟩

/-- A diagram has its figures as long as nobody edits the nodes. -/
theorem Depicts.mono {d : Diagram} {es : List Event} (h : w.Depicts d)
    (hkept : SnapshotsKept es w w') (hes : Unedited es) : w'.Depicts d := by
  obtain ⟨s, hs, hids⟩ := h
  obtain ⟨s', hs', hsame⟩ := hkept.kept _ s hs
  refine ⟨s', hs', hids.trans ?_⟩
  rw [Snapshot.nodeIds, Snapshot.nodeIds, (hsame.content hes).1]

/-! ## Steps -/

/-- The world stays figured until a snapshot is edited. -/
def KeepsFigured (w w' : World) : Prop :=
  ∃ es, w'.trace = w.trace ++ es ∧ (Unedited es → w.Figured → w'.Figured)

theorem chains_keepsFigured : Act.Chains KeepsFigured := by
  refine ⟨fun w => ⟨[], (List.append_nil _).symm, fun _ h => h⟩, fun h h' => ?_⟩
  obtain ⟨es, htrace, hes⟩ := h
  obtain ⟨es', htrace', hes'⟩ := h'
  refine ⟨es ++ es', by rw [htrace', htrace, List.append_assoc], fun hunedited h => ?_⟩
  exact hes' hunedited.right (hes hunedited.left h)

/-- A step that draws nothing. -/
theorem keepsFigured_of {es : List Event} (htrace : w'.trace = w.trace ++ es)
    (hkept : SnapshotsKept es w w') (hfilters : w'.filters = w.filters)
    (hviews : ∀ view' ∈ w'.views, ∀ d, view'.diagram = some d →
      ∃ view ∈ w.views, view.diagram = some d) : KeepsFigured w w' := by
  refine ⟨es, htrace, fun hes h => ⟨?_, fun view' hview' d hd => ?_⟩⟩
  · unfold InPlace
    rw [hfilters]
    exact h.filters
  · obtain ⟨view, hview, hsame⟩ := hviews view' hview' d hd
    exact (h.views view hview d hsame).mono hkept hes

/-- A step that writes neither snapshots, filters nor views. -/
theorem keepsFigured_of_eq {es : List Event} (htrace : w'.trace = w.trace ++ es)
    (hsnapshots : w'.snapshots = w.snapshots) (hfilters : w'.filters = w.filters)
    (hviews : w'.views = w.views) : KeepsFigured w w' :=
  keepsFigured_of htrace (.of_eq hsnapshots) hfilters fun view hview _ hd =>
    ⟨view, hviews ▸ hview, hd⟩

theorem keepsFigured_record (w : World) (e : Event) : KeepsFigured w (w.record e) :=
  keepsFigured_of_eq rfl rfl rfl rfl

theorem keepsFigured_modifySnapshot (w : World) (r : SnapshotRef) {f : Snapshot → Snapshot}
    (hf : ∀ s, KeptAs True s (f s)) : KeepsFigured w (w.modifySnapshot r f) :=
  keepsFigured_of (List.append_nil _).symm
    (.modify rfl fun s => ⟨(hf s).name, (hf s).origin, fun _ => (hf s).content trivial⟩) rfl
    fun view hview _ hd => ⟨view, hview, hd⟩

theorem keepsFigured_archive (w : World) (id : Int) (first second : SnapshotRef) (s t : Snapshot) :
    KeepsFigured w (w.archive (Difference.ofPair id first second s t)) :=
  keepsFigured_of (List.append_nil _).symm (.archive rfl rfl) rfl
    fun view hview _ hd => ⟨view, hview, hd⟩

/-- The views after one was written to. -/
theorem mem_modifyView {v : ViewRef} {f : View → View} {view : View}
    (h : view ∈ (w.modifyView v f).views) : view ∈ w.views ∨ ∃ x ∈ w.views, view = f x := by
  obtain ⟨u, hu⟩ := List.mem_iff_getElem?.1 h
  rw [views_modifyView] at hu
  split at hu
  · obtain ⟨x, hx, rfl⟩ := Option.map_eq_some_iff.1 hu
    exact .inr ⟨x, List.mem_of_getElem? hx, rfl⟩
  · exact .inl (List.mem_of_getElem? hu)

theorem keepsFigured_modifyView (w : World) (v : ViewRef) {f : View → View}
    (hf : ∀ view, (f view).diagram = view.diagram) : KeepsFigured w (w.modifyView v f) := by
  refine keepsFigured_of (List.append_nil _).symm (.of_eq rfl) rfl fun view hview d hd => ?_
  obtain hsame | ⟨x, hx, rfl⟩ := mem_modifyView hview
  · exact ⟨view, hsame, hd⟩
  · exact ⟨x, hx, (hf x).symm.trans hd⟩

end World

namespace View

open World

variable {a : Announce} {v : ViewRef} {w w' : World}

theorem renders_keepsFigured : Renders KeepsFigured where
  chains := chains_keepsFigured
  note w e _ := keepsFigured_record w e
  assign w r _ blocks log _ _ := by
    refine chains_assignBlocks chains_keepsFigured (fun w r f hf => ?_)
      (fun w _ => keepsFigured_record w _) w r blocks log
    refine keepsFigured_modifySnapshot w r fun s => ?_
    rw [hf s]
    exact ⟨rfl, rfl, fun _ => ⟨rfl, rfl⟩⟩
  archive w first second s t _ _ := keepsFigured_archive w w.nextId first second s t
  count _ _ := keepsFigured_of_eq (List.append_nil _).symm rfl rfl rfl

/-- A diagram is drawn with one figure for each node. -/
theorem draw_keepsFigured (graph : SnapshotRef) : (draw v graph).Within KeepsFigured := by
  intro w
  unfold draw
  rw [Act.ends_bind]
  refine Act.ends_view (fun view _ => ?_) fun _ => chains_keepsFigured.refl w
  refine Act.Ends.bind (((renders_keepsFigured.rebuild view.builder graph w).and
    (view.builder.rebuild_painted graph w)).mono (fun _ _ h => h) fun _ _ h => h.1) fun d w₁ h => ?_
  obtain ⟨⟨es, htrace, hfigured⟩, hgraph, hpainted⟩ := h
  subst hgraph
  refine Act.ends_modifyView.2 ⟨es, htrace, fun hes hw => ?_⟩
  have hw₁ := hfigured hes hw
  refine ⟨hw₁.filters, fun view' hview' d' hd' => ?_⟩
  obtain hsame | ⟨x, hx, rfl⟩ := mem_modifyView hview'
  · exact hw₁.views view' hsame d' hd'
  · cases hd'
    exact hw₁.filters.depicts hpainted

section

variable (ha : ∀ n w w', a v n w = some w' → KeepsFigured w w')

include ha

theorem announce_keepsFigured (n : Notice) : (announce a v n).Within KeepsFigured :=
  Act.within_yield fun w w' h => ha n w w' h

theorem showEnds_keepsFigured (first second : SnapshotRef) :
    (showEnds a v first second).Within KeepsFigured := by
  have hc := chains_keepsFigured
  unfold showEnds
  refine (Act.within_view hc v).bind hc fun view => ?_
  refine (Act.within_modify fun w => keepsFigured_record w _).bind hc fun _ => ?_
  refine (renders_keepsFigured.currentGraph _ _ _).bind hc fun graph => ?_
  refine Act.Within.bind hc (Act.within_modify fun w => ?_) fun _ => ?_
  · exact keepsFigured_modifyView w v fun _ => rfl
  · exact (draw_keepsFigured graph).bind hc fun _ =>
      (announce_keepsFigured ha _).bind hc fun _ => announce_keepsFigured ha _

/-- Whatever comes of a change, it keeps the world figured. -/
theorem performs_keepsFigured : Performs a v KeepsFigured fun _ w w' => KeepsFigured w w' where
  chains := chains_keepsFigured
  write w _ hf _ := keepsFigured_modifyView w v fun view => (hf view).diagram
  logged w _ := keepsFigured_record w _
  announce n w w' _ h := ha n w w' h
  shows w _ first second _ _ _ _ := showEnds_keepsFigured ha first second w
  stops _ w _ := chains_keepsFigured.refl w
  unresolved _ w _ _ _ := chains_keepsFigured.refl w
  fails _ _ _ _ h h' := chains_keepsFigured.trans h h'

theorem perform_keepsFigured (m : Mutation) : (perform a v m).Within KeepsFigured := by
  by_cases hm : m = .filterChainChanged
  · exact hm ▸ filterChainChanged_within chains_keepsFigured draw_keepsFigured
      (announce_keepsFigured ha _)
  · exact (performs_keepsFigured ha).perform hm

theorem serves_keepsFigured : Serves a v KeepsFigured where
  chains := chains_keepsFigured
  carryOut m := carryOut_within chains_keepsFigured (fun w _ => keepsFigured_record w _)
    (fun w _ _ _ => keepsFigured_record w _) (perform_keepsFigured ha m)
  dropped w _ := keepsFigured_record w _
  dispatch w f hf := keepsFigured_modifyView w v fun view => by rw [hf view]

theorem mutate_keepsFigured (m : Mutation) : (mutate a v m).Within KeepsFigured :=
  (serves_keepsFigured ha).mutate (fun w _ => keepsFigured_record w _)
    (fun w _ => keepsFigured_record w _) m

theorem close_keepsFigured : (close a v).Within KeepsFigured := by
  have hc := chains_keepsFigured
  unfold close
  refine (Act.within_view hc v).bind hc fun view => ?_
  split
  · refine (Act.within_modify fun w => ?_).bind hc fun _ => announce_keepsFigured ha _
    refine hc.trans (hc.trans ?_ (keepsFigured_modifyView _ v ?_)) (keepsFigured_record _ _)
    · exact keepsFigured_of_eq (List.append_nil _).symm rfl rfl rfl
    · exact fun _ => rfl
  · exact Act.within_pure hc _

end

/-- A view is opened by drawing its first diagram, or is taken back. -/
theorem welcomes_keepsFigured (scheduler : Option Scheduler) :
    Welcomes scheduler KeepsFigured where
  chains := chains_keepsFigured
  shown w group builder counted hide s _ := by
    have hc := chains_keepsFigured
    have hadded : KeepsFigured w (withUnopened w group builder counted hide) := by
      refine keepsFigured_of (List.append_nil _).symm (.of_eq rfl) rfl fun view hview d hd => ?_
      obtain hview | hview := List.mem_append.1 hview
      · exact ⟨view, hview, hd⟩
      · rw [List.mem_singleton.1 hview] at hd
        cases hd
    have hfirst : (showFirst w.views.length s).Within KeepsFigured :=
      (performs_keepsFigured fun _ u _ h => by
        cases h
        exact hc.refl u).showFirst s
    refine Act.ends_onFailure.2 ((hfirst _).mono (fun _ w₁ h => ?_) fun e w₁ h => ?_)
    · exact hc.trans (hc.trans hadded h) (keepsFigured_modifyView w₁ _ fun _ => rfl)
    · refine hc.trans (hc.trans hadded h) (hc.trans ?_ (keepsFigured_record _ _))
      exact keepsFigured_of (List.append_nil _).symm (.of_eq rfl) rfl
        fun view hview _ hd => ⟨view, List.mem_of_mem_take hview, hd⟩
  enrolled _ _ _ := keepsFigured_of_eq rfl rfl rfl rfl

end View

/-! ## Runs -/

namespace World

variable {R : Respond} {w w' : World}

section

variable (hR : ∀ k u u', R k u = some u' → KeepsFigured u u')

include hR

theorem announceView_keepsFigured (v : ViewRef) (n : Notice) (w w' : World)
    (h : announceView R v n w = some w') : KeepsFigured w w' :=
  announceView_within chains_keepsFigured hR (fun u _ => keepsFigured_record u _)
    (fun u => keepsFigured_record u _) h

theorem announceShared_keepsFigured {signal : Signal} (h : announceShared R signal w = some w') :
    KeepsFigured w w' := by
  refine emit_within chains_keepsFigured (fun slot u u' hu => ?_)
    (fun u => keepsFigured_record u _) h
  cases slot with
  | listener k => exact hR k u u' hu
  | follow v =>
    exact follow_ends ((View.mutate_keepsFigured (announceView_keepsFigured hR v) _ u).mono
      (fun _ _ h => h) fun _ x h => chains_keepsFigured.trans h (keepsFigured_record x _)) hu

/-- Every effect of a command keeps the world figured, unless it edits a snapshot. -/
theorem effect_keepsFigured (h : Command.Effect R w w') : KeepsFigured w w' := by
  have hc := chains_keepsFigured
  have hannounced {u : World} {signal : Signal} (h : announceShared R signal u = some w')
      (hu : KeepsFigured w u) : KeepsFigured w w' :=
    hc.trans hu (announceShared_keepsFigured hR h)
  cases h with
  | nothing => exact hc.refl w
  | keep | listen | unlisten => exact keepsFigured_of_eq (List.append_nil _).symm rfl rfl rfl
  | compare =>
    exact hc.trans (keepsFigured_archive w _ _ _ _ _)
      (keepsFigured_of_eq (List.append_nil _).symm rfl rfl rfl)
  | edit r _ _ => exact ⟨[.edited r], rfl, fun hes => absurd List.mem_cons_self (hes r)⟩
  | clearBlocks r =>
    refine hc.trans (keepsFigured_modifySnapshot w r fun s => ?_) (keepsFigured_record _ _)
    exact ⟨rfl, rfl, fun _ => ⟨rfl, rfl⟩⟩
  | addRule f name rules =>
    refine ⟨[.ruled f], rfl, fun hes h => ⟨fun g hg => ?_, h.views⟩⟩
    obtain hg | rfl := List.mem_or_eq_of_mem_set hg
    · exact h.filters g hg
    · exact Filter.inPlace_color name rules
  | change h => exact (View.mutate_keepsFigured (announceView_keepsFigured hR _) _).of_runIn h
  | openView h => exact ((View.welcomes_keepsFigured _).openOn _ _ _ _ _).of_runIn h
  | closeView h => exact (View.close_keepsFigured (announceView_keepsFigured hR _)).of_runIn h
  | @join _ g s _ h =>
    have hjoined : KeepsFigured w (w.modifySnapshot s fun t => { t with group := some g }) :=
      keepsFigured_modifySnapshot w s fun _ => ⟨rfl, rfl, fun _ => ⟨rfl, rfl⟩⟩
    exact hannounced h (hc.trans hjoined
      (keepsFigured_of_eq (List.append_nil _).symm rfl rfl rfl))
  | leave _ h | rechain h =>
    exact hannounced h (keepsFigured_of_eq (List.append_nil _).symm rfl rfl rfl)
  | notify h => exact announceShared_keepsFigured hR h

end

/-- Every run keeps the world figured until a snapshot is edited. -/
theorem Reaches.figured (h : Reaches w w') : KeepsFigured w w' :=
  h.within chains_keepsFigured
    (fun _ _ => keepsFigured_of_eq (List.append_nil _).symm rfl rfl rfl)
    (fun w _ _ _ _ => keepsFigured_record w _) fun _ hR _ _ h => effect_keepsFigured hR h

/-- In a session whose filters leave every figure in its place, every diagram has one figure for
each node of its graph, unless a snapshot was edited. -/
theorem Initial.figured (hw : Initial w) (hfilters : w.InPlace) {commands : List Command}
    (hrun : w.run commands = some w') (hes : Unedited w'.trace) : w'.Figured := by
  obtain ⟨es, htrace, hfigured⟩ := (reaches_run hrun).figured
  rw [hw.trace, List.nil_append] at htrace
  refine hfigured (htrace ▸ hes) ⟨hfilters, fun view hview => ?_⟩
  rw [hw.views] at hview
  cases hview

end World

end SnapshotViewer
