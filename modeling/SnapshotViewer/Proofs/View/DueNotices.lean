import SnapshotViewer.Proofs.Diagram.CurrentFigures
import SnapshotViewer.Proofs.View.Notices
import SnapshotViewer.Proofs.View.PartialFailure

/-!
# What is still to be announced

In the middle of a change a view has written fields that it has not announced yet.
`View.Tuned v due` says that only the notices in `due` are still to come: an observer holds
everything else of the view, and its announcements have told everything that is shown. The lemmas
say of every operation which notices are due after it if others are due before (`View.Tuning`). Main
statement: `View.tuning_carryOut`: a change that starts with nothing due ends so, unless it fails.
-/

namespace SnapshotViewer

namespace View

open World

/-- What a reading of a view has to show for its selection. -/
def shownFor (view : View) (s : Selection) :
    Option SnapshotRef × Option Diagram × Except Failure SnapshotRef × Except Failure SnapshotRef :=
  (some s.graph, view.diagram.map fun d => { d with controlFlow := false }, .ok s.first,
    .ok s.second)

/-- The notices in `due` are still to be announced of a view, and nothing else is. The window is
resolved unless it is due. -/
structure Tuned (v : ViewRef) (due : List Notice) (w : World) (view : View) : Prop where
  mirrored : Mirrored v due w.trace (w.reading view)
  told : ∃ r s, Told v w.trace r ∧ view.selection = some s ∧ s.Shows w ∧ r.shown = view.shownFor s
  resolved : .windowChanged ∉ due → Resolved w view

/-- The notices in `due` are still to be announced of a busy view, and nothing else is. -/
def Tunes (v : ViewRef) (due : List Notice) (w : World) : Prop :=
  ∃ view, w.views[v]? = some view ∧ view.busy = true ∧ Tuned v due w view

/-- What others do while a change of a view is under way: they only make changes wait for it, or
close it. -/
structure Undisturbed (v : ViewRef) (es : List Event) (w w' : World) : Prop where
  trace : w'.trace = w.trace ++ es
  snapshots : SnapshotsKept es w w'
  view : ∀ view, w.views[v]? = some view → view.busy = true →
    ∃ closed pending, w'.views[v]? = some { view with closed, pending }
  interlude : ∀ view, w.views[v]? = some view → view.busy = true → Resolved w view →
    Interlude v (w.reading view) es

/-- Nothing is told of a view, and snapshots are kept. -/
def Unheard (v : ViewRef) (w w' : World) : Prop :=
  ∃ es, w'.trace = w.trace ++ es ∧ (∀ e ∈ es, ¬ e.Tells v) ∧ SnapshotsKept es w w'

/-- A view has announced something, and the notice was delivered. -/
structure Delivered (v : ViewRef) (n : Notice) (es : List Event) (w : World) (view : View)
    (w' : World) (view' : View) : Prop where
  trace : w'.trace = w.trace ++ [.announced v n (w.reading view)] ++ es
  snapshots : ∃ es, SnapshotsKept es w w'
  found : w'.views[v]? = some view'
  busy : view'.busy = true
  resolved : Resolved w' view'
  reading : w'.reading view' = w.reading view
  selection : view'.selection = view.selection
  diagram : view'.diagram = view.diagram
  interlude : Interlude v (w.reading view) es

variable {a : Announce} {v : ViewRef} {w w' : World} {view view' : View} {es : List Event}
  {due due' : List Notice} {α β : Type}

/-! ## Readings -/

/-- What a resolved window resolves to stays what it is. -/
theorem Resolved.ends_eq (h : Resolved w view) (hkept : SnapshotsKept es w w')
    (hgraphs : view'.graphs = view.graphs) (hwindow : view'.window = view.window) :
    w'.firstGraph view' = w.firstGraph view ∧ w'.secondGraph view' = w.secondGraph view := by
  obtain ⟨s, -, hfirst, hsecond⟩ := h
  unfold World.firstGraph at hfirst ⊢
  unfold World.secondGraph at hsecond ⊢
  rw [hgraphs, hwindow, hfirst, hsecond]
  exact ⟨hkept.firstOf hfirst, hkept.secondOf hsecond⟩

/-- Readings do not tell what waits, nor whether the view is busy or closed. -/
theorem Resolved.reading_eq (h : Resolved w view) (hkept : SnapshotsKept es w w')
    (busy closed : Bool) (pending : List Mutation) :
    w'.reading { view with busy, closed, pending } = w.reading view := by
  obtain ⟨hfirst, hsecond⟩ : w'.firstGraph { view with busy, closed, pending } = w.firstGraph view ∧
      w'.secondGraph { view with busy, closed, pending } = w.secondGraph view :=
    h.ends_eq hkept rfl rfl
  unfold World.reading
  rw [hfirst, hsecond]
  rfl

theorem Resolved.shown_reading (h : Resolved w view) :
    ∃ s, view.selection = some s ∧ (w.reading view).shown = view.shownFor s := by
  obtain ⟨s, hs, hfirst, hsecond⟩ := h
  refine ⟨s, hs, ?_⟩
  unfold Reading.shown World.reading shownFor
  dsimp only
  rw [hfirst, hsecond, graph?, hs, shownDiagram?, Option.map_map]
  rfl

/-! ## Steps and announcements -/

theorem unheard_modifyView (w : World) (f : View → View) : Unheard v w (w.modifyView v f) :=
  ⟨[], (List.append_nil _).symm, by simp, .of_eq rfl⟩

theorem unheard_record (w : World) {e : Event} (he : ¬ e.Tells v) : Unheard v w (w.record e) :=
  ⟨[e], rfl, by simpa using he, .of_eq rfl⟩

/-- What can be read off the view has changed where notices are due, and nothing was told. -/
theorem Tuned.turn (h : Tuned v due w view) (hunheard : Unheard v w w')
    (hselection : view'.selection = view.selection) (hdiagram : view'.diagram = view.diagram)
    (hagrees : ∀ n, n ∉ due' → n ∉ due ∧ Reading.Agrees n (w.reading view) (w'.reading view'))
    (hresolved : .windowChanged ∉ due' → Resolved w' view') : Tuned v due' w' view' := by
  obtain ⟨es, htrace, hes, hkept⟩ := hunheard
  obtain ⟨r, s, htold, hs, hshows, hr⟩ := h.told
  refine ⟨?_, ⟨r, s, ?_, hselection.trans hs, Shows.mono hshows hkept, ?_⟩, hresolved⟩
  · rw [htrace]
    exact (h.mirrored.confirmed fun e he => Event.confirms_of_not_tells (hes e he)).turn hagrees
  · rw [htrace]
    exact htold.unheard hes
  · rw [hr, shownFor, shownFor, hdiagram]

/-- What was told confirms what can be read off the view, and nothing of that was written. -/
theorem Tuned.confirmed (h : Tuned v [] w view) (htrace : w'.trace = w.trace ++ es)
    (hes : ∀ e ∈ es, e.Confirms v (w.reading view)) (hkept : SnapshotsKept es w w')
    (busy closed : Bool) (pending : List Mutation) :
    Tuned v [] w' { view with busy, closed, pending } := by
  have hresolved := h.resolved List.not_mem_nil
  obtain ⟨r, s, htold, hs, hshows, hr⟩ := h.told
  obtain ⟨s', hs', hshown⟩ := hresolved.shown_reading
  cases hs.symm.trans hs'
  obtain ⟨r₁, htold₁, hr₁⟩ := htold.confirmed (hshown.trans hr.symm) hes
  refine ⟨?_, ⟨r₁, s, htrace ▸ htold₁, hs, Shows.mono hshows hkept, hr₁.trans hr⟩,
    fun _ => hresolved.mono hkept rfl rfl rfl⟩
  rw [htrace, hresolved.reading_eq hkept]
  exact h.mirrored.confirmed hes

/-- Nothing was told, and nothing of what can be read off the view was written. -/
theorem Tuned.dispatch (h : Tuned v [] w view) (hunheard : Unheard v w w') (busy closed : Bool)
    (pending : List Mutation) : Tuned v [] w' { view with busy, closed, pending } := by
  obtain ⟨es, htrace, hes, hkept⟩ := hunheard
  exact h.confirmed htrace (fun e he => Event.confirms_of_not_tells (hes e he)) hkept busy closed
    pending

/-- A notice that was due is announced, and reads the same as was told before. -/
theorem Tuned.delivered {n : Notice} (h : Tuned v (n :: due) w view) (hn : n ≠ .graphChanged)
    (hresolved : Resolved w view) (hd : Delivered v n es w view w' view') :
    Tuned v due w' view' where
  mirrored := by
    rw [hd.trace, hd.reading]
    exact h.mirrored.announced.confirmed hd.interlude.confirms
  told := by
    obtain ⟨es', hkept⟩ := hd.snapshots
    obtain ⟨r, s, htold, hs, hshows, hr⟩ := h.told
    obtain ⟨s', hs', hreading⟩ := hresolved.shown_reading
    cases hs.symm.trans hs'
    obtain ⟨r₁, htold₁, hr₁⟩ := (htold.kept hn (hreading.trans hr.symm)).confirmed rfl
      hd.interlude.confirms
    refine ⟨r₁, s, hd.trace ▸ htold₁, hd.selection.trans hs, Shows.mono hshows hkept, ?_⟩
    rw [hr₁, hreading, shownFor, shownFor, hd.diagram]
  resolved _ := hd.resolved

/-- An operation leaves the notices of `after` due if those in `due` were before it. -/
def Tuning (v : ViewRef) (due : List Notice) (act : Act α) (after : α → List Notice) : Prop :=
  ∀ w, Tunes v due w → act.Ends w (fun x w' => Tunes v (after x) w') fun _ _ => True

variable {after : α → List Notice} {after' : β → List Notice}

theorem Tuning.bind {act : Act α} {next : α → Act β} (h : Tuning v due act after)
    (hnext : ∀ x, Tuning v (after x) (next x) after') : Tuning v due (act >>= next) after' :=
  fun w hw => (h w hw).bind fun x w' hx => hnext x w' hx

/-- What follows a look leaves due what the whole does. -/
theorem tuning_after {act : Act α} {next : α → Act β} (h : act.Within Eq)
    (hnext : ∀ x, Tuning v due (next x) after') : Tuning v due (act >>= next) after' := by
  intro w hw
  refine Act.ends_bind.2 ((h w).mono (fun x w' heq => ?_) fun _ _ _ => trivial)
  exact heq ▸ hnext x w hw

theorem Tuning.congr {act : Act α} {after₂ : α → List Notice} (h : Tuning v due act after)
    (heq : ∀ x, after x = after₂ x) : Tuning v due act after₂ :=
  funext heq ▸ h

theorem tuning_pure (x : α) (hdue : after x = due) : Tuning v due (pure x) after :=
  fun _ hw => Act.ends_pure.2 (hdue ▸ hw)

/-- What is answered does not matter. -/
theorem tuning_ignore {act : Act α} (h : Tuning v due act fun _ => due') :
    Tuning v due (do let _ ← act) fun _ => due' :=
  h.bind fun _ => tuning_pure _ rfl

/-- An operation begins with a look at its view. -/
theorem tuning_view {next : View → Act α} (h : ∀ w view, w.views[v]? = some view →
    view.busy = true → Tuned v due w view →
      (next view).Ends w (fun x w' => Tunes v (after x) w') fun _ _ => True) :
    Tuning v due (Act.view v >>= next) after := by
  intro w ⟨view, hview, hbusy, htuned⟩
  rw [Act.ends_bind, Act.ends_of_ok (Act.runIn_view hview)]
  exact h w view hview hbusy htuned

/-- What fails in any case leaves due whatever is asked for. -/
theorem tuning_of_fails {act : Act α} (h : ∀ w, act.Ends w (fun _ _ => False) fun _ _ => True) :
    Tuning v due act after :=
  fun w _ => (h w).mono (fun _ _ hf => hf.elim) fun _ _ h => h

/-- Fields of the view are written; what is about them is due afterwards. -/
theorem tuning_write (due' : List Notice) {f : View → View}
    (hbusy : ∀ view, (f view).busy = view.busy)
    (hselection : ∀ view, (f view).selection = view.selection)
    (hdiagram : ∀ view, (f view).diagram = view.diagram)
    (hagrees : ∀ (w : World) (view : View) (n : Notice), n ∉ due' → n ∉ due ∧
      Reading.Agrees n (w.reading view) ((w.modifyView v f).reading (f view)))
    (hwindow : .windowChanged ∉ due' → ∀ view,
      (f view).graphs = view.graphs ∧ (f view).window = view.window) :
    Tuning v due (Act.modifyView v f) fun _ => due' := by
  intro w ⟨view, hview, hb, htuned⟩
  have hkept : SnapshotsKept [] w (w.modifyView v f) := .of_eq rfl
  refine Act.ends_modifyView.2 ⟨f view, World.views_modifyView_self hview f, (hbusy view).trans hb,
    htuned.turn (unheard_modifyView w f) (hselection view) (hdiagram view) (hagrees w view)
      fun hdue => ?_⟩
  obtain ⟨hgraphs, hwindow⟩ := hwindow hdue view
  have hbefore : .windowChanged ∉ due := (hagrees w view _ hdue).1
  exact (htuned.resolved hbefore).mono hkept hgraphs hwindow (hselection view)

/-- Something is noted. -/
theorem tuning_record {e : Event} (he : ¬ e.Tells v) :
    Tuning v due (Act.record e) fun _ => due := by
  intro w ⟨view, hview, hbusy, htuned⟩
  have hkept : SnapshotsKept [] w (w.record e) := .of_eq rfl
  refine Act.ends_record.2 ⟨view, hview, hbusy, htuned.turn (unheard_record w he) rfl rfl
    (fun n hn => ⟨hn, .refl n _⟩) fun hdue => ?_⟩
  exact (htuned.resolved hdue).mono hkept rfl rfl rfl

/-! ## Showing the window -/

/-- Nothing but notes lies between two worlds, and no comparison. -/
def Noted (w w' : World) : Prop :=
  ∃ notes, w'.trace = w.trace ++ notes ∧ ∀ e ∈ notes, e.IsNote ∧ ¬ e.Compares

theorem draws_noted : Draws Noted where
  chains := by
    refine ⟨fun w => ⟨[], (List.append_nil _).symm, by simp⟩, fun {w w' w''} h h' => ?_⟩
    obtain ⟨notes, htrace, hnotes⟩ := h
    obtain ⟨notes', htrace', hnotes'⟩ := h'
    refine ⟨notes ++ notes', by rw [htrace', htrace, List.append_assoc], fun e he => ?_⟩
    exact (List.mem_append.1 he).elim (hnotes e) (hnotes' e)
  note w e he hne := ⟨[e], rfl, by simpa using ⟨he, hne⟩⟩
  assign w r s blocks log _ _ := by
    refine ⟨log.map .logged, rfl, fun e he => ?_⟩
    obtain ⟨x, -, rfl⟩ := List.mem_map.1 he
    exact ⟨trivial, id⟩
  count w n := ⟨[], (List.append_nil _).symm, by simp⟩

theorem draw_noted (graph : SnapshotRef) : (draw v graph).Within Noted := by
  have hc := draws_noted.chains
  unfold draw
  refine (Act.within_view hc v).bind hc fun view => ?_
  refine (draws_noted.rebuild _ _).bind hc fun d => ?_
  exact Act.within_modify fun w => ⟨[], (List.append_nil _).symm, by simp⟩

/-- Two snapshots are compared once, and one with itself never. -/
theorem currentGraph_notes (counted : Bool) (first second : SnapshotRef) (w : World) :
    (Act.currentGraph counted first second).Ends w (fun _ w' => w'.trace =
      w.trace ++ if first = second then [] else [.compared first second counted])
      fun _ _ => True := by
  unfold Act.currentGraph
  split
  · exact Act.ends_pure.2 (List.append_nil _).symm
  · unfold Act.makeDifference
    rw [Act.ends_bind, Act.ends_record, Act.ends_bind]
    refine Act.ends_snapshot (fun s _ => ?_) fun _ => trivial
    rw [Act.ends_bind]
    refine Act.ends_snapshot (fun t _ => ?_) fun _ => trivial
    rw [Act.ends_bind, Act.ends_get, Act.ends_bind, Act.ends_set, Act.ends_pure]
    rfl

/-- The graph of a selection was resolved for its two snapshots and drawn. Meanwhile, the two were
compared if they are not one. -/
structure Replaced (v : ViewRef) (s : Selection) (w : World) (view : View) (w' : World) :
    Prop where
  found : ∃ d, w'.views[v]? = some { view with selection := some s, diagram := some d } ∧
    d.graph = s.graph ∧ view.builder.Painted w' s.graph d.figures
  shows : s.Shows w'
  new : s.first ≠ s.second → w.snapshots.length ≤ s.graph
  snapshots : ∃ es, SnapshotsKept es w w'
  notes : ∃ notes, w'.trace = w.trace ++ notes ∧ (∀ e ∈ notes, e.IsNote) ∧
    comparisons notes = comparisonsFor s.first s.second

/-- All that is left to announce, besides what is in `due`, is the window. It reads now what is to
be told then. -/
structure Showing (v : ViewRef) (due : List Notice) (w : World) (view : View) : Prop where
  resolved : Resolved w view
  mirrored : Mirrored v (.windowChanged :: due) w.trace (w.reading view)
  told : Told v (w.trace ++ [.announced v .windowChanged (w.reading view)]) (w.reading view)
  shows : ∀ s, view.selection = some s → s.Shows w

theorem Showing.delivered (h : Showing v due w view)
    (hd : Delivered v .windowChanged es w view w' view') : Tuned v due w' view' where
  mirrored := by
    rw [hd.trace, hd.reading]
    exact h.mirrored.announced.confirmed hd.interlude.confirms
  told := by
    obtain ⟨es', hkept⟩ := hd.snapshots
    obtain ⟨s, hs, hreading⟩ := h.resolved.shown_reading
    obtain ⟨r₁, htold, hr₁⟩ := h.told.confirmed rfl hd.interlude.confirms
    refine ⟨r₁, s, hd.trace ▸ htold, hd.selection.trans hs, Shows.mono (h.shows s hs) hkept, ?_⟩
    rw [hr₁, hreading, shownFor, shownFor, hd.diagram]
  resolved _ := hd.resolved

/-- The ends were resolved before the difference was stored, and resolve to the same still. -/
theorem Replaced.resolved {s : Selection} (h : Replaced v s w view w')
    (hfirst : w.firstGraph view = .ok s.first) (hsecond : w.secondGraph view = .ok s.second)
    (d : Diagram) : Resolved w' { view with selection := some s, diagram := some d } := by
  obtain ⟨es, hkept⟩ := h.snapshots
  exact ⟨s, rfl, hkept.firstOf hfirst, hkept.secondOf hsecond⟩

/-- Before the ends of a window are announced, their graph was resolved and drawn. -/
theorem showEnds_replaces {first second : SnapshotRef} {Q : Unit → World → Prop}
    (hview : w.views[v]? = some view) (hfirst : w.firstGraph view = .ok first)
    (hnext : ∀ s w₁, s.first = first → s.second = second → Replaced v s w view w₁ →
      (do announce a v .graphChanged; announce a v .diagramChanged : Act Unit).Ends w₁ Q
        fun _ _ => True) :
    (showEnds a v first second).Ends w Q fun _ _ => True := by
  have hstored : first < w.snapshots.length := World.firstOf_lt hfirst
  unfold showEnds
  rw [Act.ends_bind, Act.ends_of_ok (Act.runIn_view hview), Act.ends_bind]
  refine Act.ends_record.2 ?_
  rw [Act.ends_bind]
  refine ((((renders_stored.currentGraph _ _ _ _).and (Act.currentGraph_shows ?_)).and
    (currentGraph_new _)).and (currentGraph_notes _ _ _ _)).mono (fun graph w₁ h => ?_)
    fun _ _ _ => trivial
  · exact hstored
  obtain ⟨⟨⟨⟨hviews, es, hkept⟩, hshows⟩, hnew⟩, htrace⟩ := h
  rw [Act.ends_bind, Act.ends_modifyView]
  have hview₁ := World.views_modifyView_self (hviews ▸ hview : w₁.views[v]? = some view)
    fun view => { view with selection := some ⟨first, second, graph⟩ }
  refine (((draw_ends hview₁ graph).and (draw_noted graph _)).and (draw_painted hview₁ graph)).mono
    (fun _ _ h => h) (fun _ _ _ => trivial) |>.bind fun _ w₂ h => ?_
  obtain ⟨⟨⟨_, es', -, -, hkept'⟩, notes, htrace', hnotes⟩, hdrawn⟩ := h
  refine hnext ⟨first, second, graph⟩ w₂ rfl rfl ⟨hdrawn, ?_, hnew, ?_, ?_⟩
  · exact Shows.mono (w := w₁) hshows hkept'
  · have hstored : SnapshotsKept es w w₁ := hkept
    exact ⟨es ++ es', hstored.trans hkept'⟩
  · have hnone : comparisons notes = [] := comparisons_of_none fun e he => (hnotes e he).2
    let compared : List Event :=
      if first = second then [] else [.compared first second view.counted]
    have hcompared : (∀ e ∈ compared, e.IsNote) ∧
        comparisons compared = comparisonsFor first second := by
      dsimp only [compared]
      unfold comparisonsFor
      split <;> simp [comparisons, Event.IsNote]
    refine ⟨[.logged ?r] ++ compared ++ notes, ?_, fun e he => ?_, ?_⟩
    · rw [htrace', World.modifyView, htrace, World.record]
      simp only [List.append_assoc]
      rfl
    · rcases List.mem_append.1 he with he | he
      · rcases List.mem_append.1 he with he | he
        · cases List.mem_singleton.1 he
          exact trivial
        · exact hcompared.1 e he
      · exact (hnotes e he).1
    · rw [comparisons_append, comparisons_append, hnone, List.append_nil]
      exact hcompared.2

section

variable (ha : ∀ n w w', a v n w = some w' → ∃ es, Undisturbed v es (w.noteReading v n) w')

include ha

theorem announce_delivered (n : Notice) (hview : w.views[v]? = some view)
    (hbusy : view.busy = true) (hresolved : Resolved w view) :
    (announce a v n).Ends w (fun _ w' => ∃ es view', Delivered v n es w view w' view')
      fun _ _ => True := by
  refine Act.ends_yield.2 fun w' hw' => ?_
  obtain ⟨es, h⟩ := ha n w w' hw'
  rw [noteReading_of_found hview] at h
  obtain ⟨closed, pending, hview'⟩ := h.view view hview hbusy
  have hkept : SnapshotsKept es w w' := h.snapshots
  exact ⟨es, _, h.trace, ⟨es, hkept⟩, hview', hbusy, hresolved.mono hkept rfl rfl rfl,
    hresolved.reading_eq hkept view.busy closed pending, rfl, rfl,
    h.interlude view hview hbusy hresolved⟩

/-- A notice is not due any more when it was announced. The window has to be resolved by then. -/
theorem announce_ends {n : Notice} (hn : n ≠ .graphChanged) (hview : w.views[v]? = some view)
    (hbusy : view.busy = true) (htuned : Tuned v (n :: due) w view) (hresolved : Resolved w view) :
    (announce a v n).Ends w (fun _ w' => Tunes v due w') fun _ _ => True := by
  refine (announce_delivered ha n hview hbusy hresolved).mono (fun _ w' h => ?_) fun _ _ h => h
  obtain ⟨es, view', hd⟩ := h
  exact ⟨view', hd.found, hd.busy, htuned.delivered hn hresolved hd⟩

/-- Notices other than that of the window are announced when the window is not due. -/
theorem tuning_announce {n : Notice} (hn : n ≠ .graphChanged)
    (hwindow : .windowChanged ∉ n :: due) : Tuning v (n :: due) (announce a v n) fun _ => due :=
  fun _ ⟨_, hview, hbusy, htuned⟩ =>
    announce_ends ha hn hview hbusy htuned (htuned.resolved hwindow)

theorem tuning_announceKept (replaced : Bool) :
    Tuning v (if replaced then [] else [.diagramChanged]) (announceKept a v replaced)
      fun _ => [] := by
  cases replaced with
  | true => exact tuning_pure _ rfl
  | false => exact tuning_announce ha (by simp) (by simp)


/-- When the ends of a window are shown, the graph and the diagram are not due any more. -/
theorem showEnds_showing {first second : SnapshotRef} (hview : w.views[v]? = some view)
    (hbusy : view.busy = true) (htuned : Tuned v due w view)
    (hdue : due ⊆ [.windowChanged, .diagramChanged]) (hfirst : w.firstGraph view = .ok first)
    (hsecond : w.secondGraph view = .ok second) (hknows : ¬ view.knows first second = true) :
    (showEnds a v first second).Ends w (fun _ w' => ∃ view', w'.views[v]? = some view' ∧
      view'.busy = true ∧ Showing v [] w' view') fun _ _ => True := by
  refine showEnds_replaces hview hfirst fun t w₁ ht₁ ht₂ hreplaced => ?_
  subst ht₁ ht₂
  obtain ⟨d, hview₁, hd, -⟩ := hreplaced.found
  have hresolved := hreplaced.resolved hfirst hsecond d
  obtain ⟨-, hshows, hnew, ⟨es, hkept⟩, notes, htrace, hnotes, -⟩ := hreplaced
  obtain ⟨r, s, htold, hs, hshows₀, hr⟩ := htuned.told
  have hquiet : ∀ e ∈ notes, ¬ e.Tells v := fun e he => (hnotes e he).not_tells
  have hne : ¬ (s.first = t.first ∧ s.second = t.second) := fun h => hknows ((knows_iff hs _ _).2 h)
  have hgraph : s.graph ≠ t.graph := by
    obtain ⟨x, hx⟩ := World.firstOf_ok hfirst
    exact Shows.graph_ne hshows₀ hshows ⟨x, hx⟩ hnew hne
  refine (announce_delivered ha _ hview₁ hbusy hresolved).bind fun _ w₂ hd₂ => ?_
  obtain ⟨es₁, view₂, hd₂⟩ := hd₂
  refine (announce_delivered ha _ hd₂.found hd₂.busy hd₂.resolved).mono (fun _ w₃ hd₃ => ?_)
    fun _ _ h => h
  obtain ⟨es₂, view₃, hd₃⟩ := hd₃
  have hreading := hd₃.reading.trans hd₂.reading
  have htrace₃ := hd₃.trace
  rw [hd₂.trace, hd₂.reading, htrace] at htrace₃
  have hinterlude := hd₃.interlude
  rw [hd₂.reading] at hinterlude
  refine ⟨view₃, hd₃.found, hd₃.busy, hd₃.resolved, ?_, ?_, fun s₃ hs₃ => ?_⟩
  · rw [htrace₃, hreading]
    have hturned : Mirrored v [.graphChanged, .diagramChanged, .windowChanged]
        (w.trace ++ notes) (w₁.reading { view with selection := some t, diagram := some d }) := by
      refine (htuned.mirrored.confirmed fun e he =>
        Event.confirms_of_not_tells (hquiet e he)).turn fun n hn => ⟨fun hmem => hn ?_, ?_⟩
      · exact List.mem_cons_of_mem _ (by simpa [or_comm] using hdue hmem)
      · cases n with
        | selectedNodesChanged => rfl
        | hiddenNodesChanged => rfl
        | _ => simp at hn
    exact ((hturned.announced.confirmed hd₂.interlude.confirms).announced).confirmed
      hinterlude.confirms
  · rw [htrace₃, hreading]
    have htold₁ := htold.unheard hquiet
    obtain ⟨t', ht', hshown⟩ := hresolved.shown_reading
    cases ht'
    have hshown' := hr.symm
    simp only [Reading.shown, shownFor, Prod.mk.injEq] at hshown hshown'
    refine htold₁.replaced (fun h => hne ?_) ?_ ?_ hd₂.interlude hinterlude
    · have hfirst' := hshown'.2.2.1.trans (h.1.symm.trans hshown.2.2.1)
      have hsecond' := hshown'.2.2.2.trans (h.2.symm.trans hshown.2.2.2)
      exact ⟨Except.ok.inj hfirst', Except.ok.inj hsecond'⟩
    · rw [hshown.1, ← hshown'.1]
      exact fun h => hgraph (Option.some.inj h).symm
    · exact congrArg some hd
  · cases ((hd₃.selection.trans hd₂.selection).symm.trans hs₃)
    obtain ⟨es', hkept₂⟩ := hd₂.snapshots
    obtain ⟨es'', hkept₃⟩ := hd₃.snapshots
    exact Shows.mono (Shows.mono hshows hkept₂) hkept₃

/-- When the window is shown, the graph is what the window resolves to, and only the window is to be
announced in any case. -/
theorem showWindow_showing (hview : w.views[v]? = some view) (hbusy : view.busy = true)
    (htuned : Tuned v (.windowChanged :: due) w view) (hdue : due ⊆ [.diagramChanged]) :
    (showWindow a v).Ends w (fun replaced w' => ∃ view', w'.views[v]? = some view' ∧
      view'.busy = true ∧ Showing v (if replaced then [] else due) w' view') fun _ _ => True := by
  obtain ⟨r, s, htold, hs, hshows, hr⟩ := htuned.told
  refine ends_showWindow hview (fun _ _ => trivial) (fun _ _ _ _ => trivial)
    (fun first second hfirst hsecond hknows => ?_) fun first second hfirst hsecond hknows => ?_
  · have hresolved : Resolved w view := (resolved_iff_knows hfirst hsecond).2 hknows
    obtain ⟨s', hs', hshown⟩ := hresolved.shown_reading
    cases hs.symm.trans hs'
    refine ⟨view, hview, hbusy, hresolved, htuned.mirrored,
      htold.kept (by simp) (hshown.trans hr.symm), fun t ht => ?_⟩
    cases hs.symm.trans ht
    exact hshows
  · have hdue' : .windowChanged :: due ⊆ [.windowChanged, .diagramChanged] :=
      List.cons_subset_cons _ hdue
    exact showEnds_showing ha hview hbusy htuned hdue' hfirst hsecond (Bool.eq_false_iff.1 hknows)

theorem tuning_windowMoved (hdue : due ⊆ [.diagramChanged]) :
    Tuning v (.windowChanged :: due) (windowMoved a v)
      fun replaced => if replaced then [] else due := by
  intro w ⟨view, hview, hbusy, htuned⟩
  unfold windowMoved
  refine (showWindow_showing ha hview hbusy htuned hdue).bind fun replaced w₁ h => ?_
  obtain ⟨view₁, hview₁, hbusy₁, hshowing⟩ := h
  refine (announce_delivered ha _ hview₁ hbusy₁ hshowing.resolved).bind fun _ w₂ hd => ?_
  obtain ⟨es, view₂, hd⟩ := hd
  exact Act.ends_pure.2 ⟨view₂, hd.found, hd.busy, hshowing.delivered hd⟩

/-! ## Selecting -/

omit ha in
theorem tuning_move (due : List Notice) (hdue : due' ⊆ .windowChanged :: due) (window : Window) :
    Tuning v due' (Act.modifyView v fun view => { view with window })
      fun _ => .windowChanged :: due := by
  refine tuning_write _ (fun _ => rfl) (fun _ => rfl) (fun _ => rfl)
    (fun w view n hn => ⟨fun hmem => hn (hdue hmem), ?_⟩)
    fun hwindow => absurd List.mem_cons_self hwindow
  cases n with
  | windowChanged => exact absurd List.mem_cons_self hn
  | _ => rfl

theorem tuning_setWindow (hdue' : due' ⊆ .windowChanged :: due) (hdue : due ⊆ [.diagramChanged])
    (low high : Int) : Tuning v due' (setWindow a v low high)
      fun replaced => if replaced then [] else due :=
  tuning_after (Act.within_view Command.chains_eq v) fun _ =>
    tuning_after (Act.within_ofExcept Command.chains_eq _) fun window =>
      (tuning_move due hdue' window).bind fun _ => tuning_windowMoved ha hdue

theorem tuning_selectVisible (hdue' : due' ⊆ .windowChanged :: due)
    (hdue : due ⊆ [.diagramChanged]) (s : SnapshotRef) : Tuning v due' (selectVisible a v s)
      fun replaced => if replaced then [] else due := by
  refine tuning_after (Act.within_view Command.chains_eq v) fun view => ?_
  split
  · exact tuning_setWindow ha hdue' hdue _ _
  · exact tuning_of_fails (foreign_fails s)

omit ha in
/-- The visible snapshots and whether duplicates are hidden are written. -/
theorem tuning_refilterWith (hdue : due ⊆ [.windowChanged, .diagramChanged]) (hide : Value) :
    Tuning v due (refilterWith v hide) fun _ => [.windowChanged, .diagramChanged] := by
  unfold refilterWith
  refine tuning_after (Act.within_view Command.chains_eq v) fun view => ?_
  refine tuning_after (Act.within_group Command.chains_eq _) fun group => ?_
  refine tuning_after (Act.within_get Command.chains_eq) fun w => ?_
  refine tuning_write _ (fun _ => rfl) (fun _ => rfl) (fun _ => rfl)
    (fun w view n hn => ⟨fun hmem => hn (hdue hmem), ?_⟩)
    fun hwindow => absurd List.mem_cons_self hwindow
  cases n with
  | windowChanged => simp at hn
  | diagramChanged => simp at hn
  | _ => rfl

/-- Duplicates are shown or hidden, and what is selected then announces what was written. When they
are hidden, it is not among them. -/
theorem tuning_toggleDuplicates {select : SnapshotRef → Act Bool} {hide : Bool}
    (hselect : ∀ target w view, w.views[v]? = some view → view.busy = true →
      Tuned v [.windowChanged, .diagramChanged] w view → (hide = true → target ∈ view.graphs) →
      (select target).Ends w
        (fun replaced w' => Tunes v (if replaced then [] else [.diagramChanged]) w')
        fun _ _ => True) :
    Tuning v [] (toggleDuplicates select a v hide) fun _ => [] := by
  unfold toggleDuplicates
  refine tuning_view fun w view hview hbusy htuned => ?_
  split
  · exact Act.ends_pure.2 ⟨view, hview, hbusy, htuned⟩
  split
  · rename_i hempty
    exact absurd (List.isEmpty_iff.1 hempty) (htuned.resolved List.not_mem_nil).graphs_ne_nil
  cases hgroup : w.groups[view.group]? with
  | none =>
    refine ((within_targetOf Command.chains_eq hide w).mono (fun _ _ h => h)
      fun _ _ _ => trivial).bind fun target w' hw => ?_
    subst hw
    unfold refilterWith
    rw [Act.ends_bind, Act.ends_bind, Act.ends_of_ok (Act.runIn_view hview), Act.ends_bind]
    exact Act.ends_group (fun group h => absurd h (by simp [hgroup])) fun _ => trivial
  | some group =>
    refine ((targetOf_ends hview hgroup hide).mono (fun _ _ h => h) fun _ _ _ => trivial).bind
      fun target w' hw => ?_
    obtain ⟨rfl, htarget⟩ := hw
    have hrefilter := runIn_refilterWith hview hgroup (.bool hide)
    have htunes := tuning_refilterWith (List.nil_subset _) (.bool hide) _
      ⟨view, hview, hbusy, htuned⟩
    rw [Act.ends_of_ok hrefilter] at htunes
    obtain ⟨view₁, hview₁, hbusy₁, htuned₁⟩ := htunes
    rw [Act.ends_bind, Act.ends_of_ok hrefilter]
    refine (hselect target _ view₁ hview₁ hbusy₁ htuned₁ fun hhide => ?_).bind
      fun replaced w₂ h => tuning_announceKept ha replaced w₂ h
    subst hhide
    cases (World.views_modifyView_self hview _).symm.trans hview₁
    exact htarget rfl

theorem tuning_showDuplicates : Tuning v [] (showDuplicates a v) fun _ => [] := by
  unfold showDuplicates
  refine tuning_after (Act.within_view Command.chains_eq v) fun view => ?_
  split
  · refine tuning_toggleDuplicates ha fun target w view hview hbusy htuned _ => ?_
    exact tuning_selectVisible ha (List.Subset.refl _) (List.Subset.refl _) target w
      ⟨view, hview, hbusy, htuned⟩
  · exact tuning_pure _ rfl

theorem tuning_locate (s : SnapshotRef) : Tuning v [] (locate a v s) fun _ => [] := by
  unfold locate
  refine tuning_after (Act.within_view Command.chains_eq v) fun view => ?_
  split
  · exact tuning_pure _ rfl
  · refine (tuning_showDuplicates ha).bind fun _ => ?_
    refine tuning_after (Act.within_view Command.chains_eq v) fun view => ?_
    split
    · exact tuning_pure _ rfl
    · exact tuning_of_fails (foreign_fails s)

theorem tuning_selectGraph (s : SnapshotRef) : Tuning v [] (selectGraph a v s) fun _ => [] :=
  (tuning_locate ha s).bind fun i =>
    (tuning_setWindow ha (List.nil_subset _) (List.nil_subset _) i i).congr fun _ => ite_self []

theorem tuning_selectDifference (s : SnapshotRef) :
    Tuning v [] (selectDifference a v s) fun _ => [] := by
  refine (tuning_locate ha s).bind fun i => ?_
  refine tuning_after (Act.within_view Command.chains_eq v) fun view => ?_
  refine tuning_after (Act.within_ofExcept Command.chains_eq _) fun window => ?_
  refine (tuning_move [] (List.nil_subset _) window).bind fun _ => tuning_ignore ?_
  exact (tuning_windowMoved ha (List.nil_subset _)).congr fun _ => ite_self []

/-- A selection after duplicates were hidden finds its target at once. -/
theorem tuning_selectGraph_of_visible {s : SnapshotRef} (hview : w.views[v]? = some view)
    (hbusy : view.busy = true) (htuned : Tuned v [.windowChanged, .diagramChanged] w view)
    (hs : s ∈ view.graphs) :
    (selectGraph a v s).Ends w
      (fun replaced w' => Tunes v (if replaced then [] else [.diagramChanged]) w')
      fun _ _ => True := by
  unfold selectGraph locate
  rw [Act.ends_bind, Act.ends_bind, Act.ends_of_ok (Act.runIn_view hview)]
  split
  · rename_i i hi
    exact Act.ends_pure.2 (tuning_setWindow ha (List.Subset.refl _) (List.Subset.refl _) i i w
      ⟨view, hview, hbusy, htuned⟩)
  · rename_i hnone
    exact absurd hs (Sequence.indexOf?_eq_none.1 hnone)

theorem tuning_setHideDuplicates (hide : Bool) :
    Tuning v [] (setHideDuplicates a v hide) fun _ => [] := by
  refine tuning_toggleDuplicates ha fun target w view hview hbusy htuned htarget => ?_
  cases hide with
  | false =>
    exact tuning_selectVisible ha (List.Subset.refl _) (List.Subset.refl _) target w
      ⟨view, hview, hbusy, htuned⟩
  | true => exact tuning_selectGraph_of_visible ha hview hbusy htuned (htarget rfl)

/-! ## Nodes, toggles and following -/

theorem tuning_setSelectedNodes (ids : NodeSet) :
    Tuning v [] (setSelectedNodes a v ids) fun _ => [] := by
  intro w ⟨view, hview, hbusy, htuned⟩
  have hresolved := htuned.resolved List.not_mem_nil
  have hkept (f : View → View) : SnapshotsKept [] w (w.modifyView v f) := .of_eq rfl
  unfold setSelectedNodes
  rw [Act.ends_bind, Act.ends_get, Act.ends_bind, Act.ends_modifyView]
  have hwritten (f : View → View) : Tuned v [.windowChanged, .selectedNodesChanged]
      (w.modifyView v f)
      { view with
        selectedNodes := ids
        colors := Highlight.colors ids.toList (w.contents view.graphs) } := by
    refine htuned.turn (unheard_modifyView w f) rfl rfl (fun n hn => ⟨List.not_mem_nil, ?_⟩)
      fun hwindow => absurd List.mem_cons_self hwindow
    cases n with
    | windowChanged => simp at hn
    | selectedNodesChanged => simp at hn
    | _ => rfl
  exact (announce_ends ha (by simp) (World.views_modifyView_self hview _) hbusy (hwritten _)
    (hresolved.mono (hkept _) rfl rfl rfl)).bind
      fun _ w₁ h => tuning_announce ha (by simp) (by simp) w₁ h

theorem tuning_setHiddenNodes (ids : NodeSet) :
    Tuning v [] (setHiddenNodes a v ids) fun _ => [] := by
  have hwrite : Tuning v [] (Act.modifyView v fun view => { view with hiddenNodes := ids })
      fun _ => [.hiddenNodesChanged] := by
    refine tuning_write _ (fun _ => rfl) (fun _ => rfl) (fun _ => rfl)
      (fun w view n hn => ⟨List.not_mem_nil, ?_⟩) fun _ _ => ⟨rfl, rfl⟩
    cases n with
    | hiddenNodesChanged => exact absurd List.mem_cons_self hn
    | _ => rfl
  exact hwrite.bind fun _ => tuning_announce ha (by simp) (by simp)

theorem tuning_showOnly (ids : NodeSet) : Tuning v [] (showOnly a v ids) fun _ => [] :=
  tuning_after (Act.within_view Command.chains_eq v) fun _ =>
    tuning_after (Act.within_group Command.chains_eq _) fun _ =>
      tuning_after (Act.within_get Command.chains_eq) fun _ => tuning_setHiddenNodes ha _

theorem tuning_showFigures (ids : List Int) : Tuning v [] (showFigures a v ids) fun _ => [] :=
  tuning_after (Act.within_view Command.chains_eq v) fun _ => tuning_setHiddenNodes ha _

theorem tuning_setToggle (t : Toggle) (on : Bool) :
    Tuning v [] (setToggle a v t on) fun _ => [] := by
  refine tuning_after (Act.within_view Command.chains_eq v) fun view => ?_
  split
  · have hwrite : Tuning v [] (Act.modifyView v fun view =>
        { view with toggles := view.toggles.set t on }) fun _ => [.diagramChanged] := by
      refine tuning_write _ (fun _ => rfl) (fun _ => rfl) (fun _ => rfl)
        (fun w view n hn => ⟨List.not_mem_nil, ?_⟩) fun _ _ => ⟨rfl, rfl⟩
      cases n with
      | diagramChanged => exact absurd List.mem_cons_self hn
      | _ => rfl
    exact hwrite.bind fun _ => tuning_announce ha (by simp) (by simp)
  · exact tuning_pure _ rfl

omit ha in
theorem tuning_refilterShowing :
    Tuning v [] (refilterShowing v) fun _ => [.windowChanged, .diagramChanged] := by
  unfold refilterShowing
  have hrefilter : Tuning v [] (refilter v) fun _ => [.windowChanged, .diagramChanged] :=
    tuning_after (Act.within_view Command.chains_eq v) fun _ =>
      tuning_refilterWith (List.nil_subset _) _
  refine hrefilter.bind fun _ => ?_
  · refine tuning_after (Act.within_view Command.chains_eq v) fun view => ?_
    split
    · refine tuning_after (Act.within_group Command.chains_eq _) fun group => ?_
      exact (tuning_record (by exact id)).bind fun _ => tuning_refilterWith (List.Subset.refl _) _
    · exact tuning_pure _ rfl

omit ha in
theorem tuning_keepOn (low high : Option SnapshotRef) :
    Tuning v [.windowChanged, .diagramChanged] (keepOn v low high)
      fun _ => [.windowChanged, .diagramChanged] := by
  refine tuning_after (Act.within_view Command.chains_eq v) fun view => ?_
  split
  · refine tuning_after (Act.within_ofExcept Command.chains_eq _) fun window => ?_
    refine tuning_write _ (fun _ => rfl) (fun _ => rfl) (fun _ => rfl)
      (fun w view n hn => ⟨hn, ?_⟩) fun hwindow => absurd List.mem_cons_self hwindow
    cases n with
    | windowChanged => exact absurd List.mem_cons_self hn
    | _ => rfl
  · exact tuning_pure _ rfl

theorem tuning_groupChanged : Tuning v [] (groupChanged a v) fun _ => [] := by
  refine tuning_after (Act.within_view Command.chains_eq v) fun before => ?_
  refine tuning_refilterShowing.bind fun _ => ?_
  refine (tuning_keepOn _ _).bind fun _ => ?_
  refine (tuning_windowMoved ha (List.Subset.refl _)).bind fun replaced => ?_
  refine (tuning_announceKept ha replaced).bind fun _ => ?_
  exact tuning_after (Act.within_view Command.chains_eq v) fun _ => tuning_setSelectedNodes ha _

/-- The diagram is drawn anew and announced. That the change was begun stands right before what was
noted while drawing. -/
theorem filterChainChanged_tunes (h : Tunes v [] w) :
    (filterChainChanged a v).Ends (w.record (.begun v .filterChainChanged))
      (fun _ w' => Tunes v [] w') fun _ _ => True := by
  obtain ⟨view, hview, hbusy, htuned⟩ := h
  obtain ⟨r, s, htold, hs, hshows, hr⟩ := htuned.told
  have hresolved := htuned.resolved List.not_mem_nil
  have hgraph : view.graph? = some s.graph := by rw [graph?, hs, Option.map_some]
  unfold filterChainChanged
  rw [Act.ends_bind, Act.ends_of_ok (Act.runIn_view (w := w.record _) hview), hgraph]
  refine ((draw_ends (w := w.record _) hview s.graph).and (draw_noted _ _)).mono (fun _ _ h => h)
    (fun _ _ _ => trivial) |>.bind fun _ w₁ hdrawn => ?_
  obtain ⟨⟨d, es, hview₁, -, hkept⟩, notes, htrace, hnotes⟩ := hdrawn
  have hkept' : SnapshotsKept es w w₁ := hkept
  have hresolved₁ : Resolved w₁ { view with diagram := some d } := hresolved.mono hkept' rfl rfl rfl
  obtain ⟨hfirst, hsecond⟩ : w₁.firstGraph { view with diagram := some d } = w.firstGraph view ∧
      w₁.secondGraph { view with diagram := some d } = w.secondGraph view :=
    hresolved.ends_eq hkept' rfl rfl
  refine (announce_delivered ha _ hview₁ hbusy hresolved₁).mono (fun _ w₂ hd => ?_) fun _ _ h => h
  obtain ⟨es', view₂, hd⟩ := hd
  have hquiet : ∀ e ∈ [.begun v .filterChainChanged] ++ notes, ¬ e.Tells v := fun e he =>
    (List.mem_append.1 he).elim (fun he => List.mem_singleton.1 he ▸ id)
      fun he => (hnotes e he).1.not_tells
  refine ⟨view₂, hd.found, hd.busy, ?_, ?_, fun _ => hd.resolved⟩
  · rw [hd.trace, hd.reading, htrace, World.record, List.append_assoc w.trace]
    have hturned : Mirrored v [.diagramChanged]
        (w.trace ++ ([.begun v .filterChainChanged] ++ notes))
        (w₁.reading { view with diagram := some d }) := by
      refine (htuned.mirrored.confirmed fun e he =>
        Event.confirms_of_not_tells (hquiet e he)).turn fun n hn => ⟨List.not_mem_nil, ?_⟩
      cases n with
      | diagramChanged => exact absurd List.mem_cons_self hn
      | windowChanged =>
        unfold Reading.Agrees Reading.reread World.reading
        dsimp only
        rw [hfirst, hsecond]
      | _ => rfl
    exact hturned.announced.confirmed hd.interlude.confirms
  · obtain ⟨es'', hkept₂⟩ := hd.snapshots
    obtain ⟨t, ht, hshown⟩ := hresolved₁.shown_reading
    cases hs.symm.trans ht
    have hshown' := hshown
    simp only [Reading.shown, shownFor, Prod.mk.injEq] at hshown' hr
    obtain ⟨r₁, htold₁, hr₁⟩ := (htold.redrawn (fun e he => (hnotes e he).1)
      (hshown'.1.trans hr.1.symm) (hshown'.2.2.1.trans hr.2.2.1.symm)
      (hshown'.2.2.2.trans hr.2.2.2.symm)).confirmed rfl hd.interlude.confirms
    refine ⟨r₁, s, ?_, hd.selection.trans hs, Shows.mono (Shows.mono hshows hkept') hkept₂, ?_⟩
    · rw [hd.trace, htrace]
      exact htold₁
    · rw [hr₁, hshown, shownFor, shownFor, hd.diagram]

/-- Every change but that of a filter chain ends with nothing due. -/
theorem tuning_perform {m : Mutation} (hm : m ≠ .filterChainChanged) :
    Tuning v [] (perform a v m) fun _ => [] := by
  cases m with
  | selectGraph s => exact tuning_ignore (tuning_selectGraph ha s)
  | selectDifference s => exact tuning_selectDifference ha s
  | setWindow low high =>
    have hwindow : Tuning v [] (setWindow a v low high)
        fun replaced => if replaced then [] else [] :=
      tuning_setWindow ha (List.nil_subset _) (List.nil_subset _) low high
    exact tuning_ignore (hwindow.congr fun _ => ite_self [])
  | setHideDuplicates hide => exact tuning_setHideDuplicates ha hide
  | setSelectedNodes ids => exact tuning_setSelectedNodes ha ids
  | setHiddenNodes ids => exact tuning_setHiddenNodes ha ids
  | showOnly ids => exact tuning_showOnly ha ids
  | showFigures ids => exact tuning_showFigures ha ids
  | setToggle t on => exact tuning_setToggle ha t on
  | groupChanged => exact tuning_groupChanged ha
  | filterChainChanged => exact absurd rfl hm

/-! ## Calls -/

/-- A change that starts with nothing due ends so, unless it fails. -/
theorem carryOut_tunes (m : Mutation) (h : Tunes v [] w) :
    (carryOut a v m).Ends w (fun _ w' => Tunes v [] w') fun _ w' => failures v w'.trace ≠ [] := by
  obtain ⟨view, hview, -⟩ := id h
  refine ends_carryOut (fun hnone => nomatch hview.symm.trans hnone) fun _ _ => ?_
  have hperform : (perform a v m).Ends (w.record (.begun v m)) (fun _ w' => Tunes v [] w')
      fun _ _ => True := by
    by_cases hm : m = .filterChainChanged
    · exact hm ▸ filterChainChanged_tunes ha h
    · exact tuning_perform ha hm _ (Act.ends_record.1 (tuning_record (by exact id) w h))
  exact hperform.mono (fun _ _ h => h) fun e w' _ => by simp [World.record, failures]

omit ha in
/-- Nothing becomes due when the queue is looked at. -/
theorem takeWaiting_tunes :
    (takeWaiting v).Within fun w w' => Tunes v [] w → Tunes v [] w' := by
  have hc : Act.Chains fun w w' => Tunes v [] w → Tunes v [] w' :=
    ⟨fun _ => id, fun h h' hw => h' (h hw)⟩
  refine takeWaiting_within hc (fun w m hw => ?_) fun w rest h => ?_
  · exact Act.ends_record.1 (tuning_record (by exact id) w hw)
  · obtain ⟨view, hview, hbusy, htuned⟩ := h
    exact ⟨_, World.views_modifyView_self hview _, hbusy,
      htuned.dispatch (unheard_modifyView w _) view.busy view.closed rest⟩

theorem runChange_tunes (m : Mutation) (h : Tunes v [] w) :
    (runChange a v m).Ends w (fun _ w' => Tunes v [] w')
      fun _ w' => failures v w'.trace ≠ [] ∨ Tunes v [] w' := by
  have hcarry (m : Mutation) (w : World) (h : Tunes v [] w) : (carryOut a v m).Ends w
      (fun _ w' => Tunes v [] w') fun _ w' => failures v w'.trace ≠ [] ∨ Tunes v [] w' :=
    (carryOut_tunes ha m h).mono (fun _ _ h => h) fun _ _ h => .inl h
  refine (hcarry m w h).bind fun _ w₁ h₁ => ?_
  refine drain_ends (I := Tunes v []) (J := fun _ => Tunes v []) (fun u hu => ?_) hcarry h₁
  refine (takeWaiting_tunes u).mono (fun next u' hu' => ?_) fun _ _ hu' => .inr (hu' hu)
  cases next with
  | none => exact hu' hu
  | some m => exact hu' hu

end

end View

end SnapshotViewer
