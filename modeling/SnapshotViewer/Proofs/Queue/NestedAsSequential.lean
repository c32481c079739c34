import SnapshotViewer.Proofs.Action.Lockstep
import SnapshotViewer.Proofs.Action.Termination
import SnapshotViewer.Proofs.Queue.AskingListeners

/-!
# Nested changes are sequential ones

A change that a listener asks of a view while another one is under way waits. Main statement: with
listeners that only ask the view for changes, a call that succeeds comes to the same as calling its
change and then all that came to wait, in the order of their arrival, one after the other from the
top with listeners that do nothing.

The two runs are compared change by change. `Abreast` relates the world in the middle of the nested
run to the one in the middle of the sequential run.
-/

namespace SnapshotViewer

/-- The event is about the queue, the calls of listeners or the log. -/
def Event.isAside : Event → Bool
  | .deferred .. | .performed .. | .logged _ => true
  | _ => false

/-- What has happened apart from the queue, the calls of listeners and the log: above all the
signals that were emitted, with what could be read off the view. -/
def outward (es : List Event) : List Event := es.filter fun e => !e.isAside

@[simp] theorem outward_append (es es' : List Event) :
    outward (es ++ es') = outward es ++ outward es' := List.filter_append es es'

namespace World

/-! ## Abreast -/

/-- The view in the middle of a change of the nested run, and in the middle of the same change of
the sequential run, where nothing waits. Of what came to wait, `done` has been taken. -/
structure Attended (v : ViewRef) (done : List Mutation) (w u : World) (view : View) : Prop where
  found : w.views[v]? = some view
  alone : u.views[v]? = some { view with pending := [] }
  busy : view.busy = true
  isOpen : view.closed = false
  members : ∃ group, w.groups[view.group]? = some group ∧ group.members ≠ []
  waits : deferrals v w.trace = done ++ view.pending

/-- The world `w` of the nested run and the world `u` of the sequential run are at the same point.
The listeners of the sequential run are `ls`. -/
structure Abreast (v : ViewRef) (ls : List Listener) (done : List Mutation) (w u : World) :
    Prop where
  rest : { u with views := w.views, listeners := w.listeners, trace := w.trace } = w
  others : ∀ i, i ≠ v → u.views[i]? = w.views[i]?
  view : ∃ view, Attended v done w u view
  trace : outward u.trace = outward w.trace
  listeners : u.listeners = ls
  scripts : w.listeners.map (·.script) = ls.map (·.script)

namespace Abreast

variable {v : ViewRef} {ls : List Listener} {done : List Mutation} {w u : World}

theorem snapshots (h : Abreast v ls done w u) : u.snapshots = w.snapshots :=
  (congrArg World.snapshots h.rest :)

theorem groups (h : Abreast v ls done w u) : u.groups = w.groups :=
  (congrArg World.groups h.rest :)

/-- What does not depend on views, listeners and the trace is the same. -/
theorem read {α : Type} (h : Abreast v ls done w u) (f : World → α)
    (hf : ∀ (z : World) views listeners trace, f { z with views, listeners, trace } = f z) :
    f u = f w :=
  (hf u _ _ _).symm.trans (congrArg f h.rest)

/-- Something is changed alike that is neither view, listener nor trace. -/
theorem change (h : Abreast v ls done w u) {f : World → World}
    (hf : ∀ (z : World) views listeners trace,
      f { z with views, listeners, trace } = { f z with views, listeners, trace })
    (hgroups : (f w).groups = w.groups) : Abreast v ls done (f w) (f u) := by
  have hself (z : World) : f z = { f z with
      views := z.views, listeners := z.listeners, trace := z.trace } :=
    hf z z.views z.listeners z.trace
  have hviews (z : World) : (f z).views = z.views := (congrArg World.views (hself z) :)
  have hlisteners (z : World) : (f z).listeners = z.listeners :=
    (congrArg World.listeners (hself z) :)
  have htrace (z : World) : (f z).trace = z.trace := (congrArg World.trace (hself z) :)
  obtain ⟨view, hview⟩ := h.view
  refine ⟨?_, fun i hi => ?_, ⟨view, ?_, ?_, hview.busy, hview.isOpen, ?_, ?_⟩, ?_, ?_, ?_⟩
  · rw [hviews w, hlisteners w, htrace w, ← hf u]
    exact congrArg f h.rest
  · rw [hviews, hviews]
    exact h.others i hi
  · rw [hviews]
    exact hview.found
  · rw [hviews]
    exact hview.alone
  · rw [hgroups]
    exact hview.members
  · rw [htrace]
    exact hview.waits
  · rw [htrace, htrace]
    exact h.trace
  · rw [hlisteners]
    exact h.listeners
  · rw [hlisteners]
    exact h.scripts

/-- Events are noted in both runs that are the same apart from what is left aside, and of which
none is a change that came to wait. -/
theorem recordAll (h : Abreast v ls done w u) (es es' : List Event)
    (hes : outward es' = outward es) (hdeferred : deferrals v es = []) :
    Abreast v ls done (w.recordAll es) (u.recordAll es') := by
  obtain ⟨view, hview⟩ := h.view
  refine ⟨congrArg (fun z : World => { z with trace := w.trace ++ es }) h.rest, h.others,
    ⟨view, hview.found, hview.alone, hview.busy, hview.isOpen, hview.members, ?_⟩, ?_, h.listeners,
    h.scripts⟩
  · rw [World.recordAll, deferrals_append, hdeferred, List.append_nil]
    exact hview.waits
  · rw [World.recordAll, World.recordAll, outward_append, outward_append, hes, h.trace]

theorem record (h : Abreast v ls done w u) (e : Event) (he : deferrals v [e] = []) :
    Abreast v ls done (w.record e) (u.record e) :=
  h.recordAll [e] [e] rfl he

/-- The view is rewritten alike, but for what waits. -/
theorem modifyView (h : Abreast v ls done w u) {f f' : View → View} {done' : List Mutation}
    (hf : ∀ view, Attended v done w u view → (f view).group = view.group ∧ (f view).busy = true ∧
      (f view).closed = false ∧ deferrals v w.trace = done' ++ (f view).pending ∧
      f' { view with pending := [] } = { f view with pending := [] }) :
    Abreast v ls done' (w.modifyView v f) (u.modifyView v f') := by
  obtain ⟨view, hview⟩ := h.view
  obtain ⟨hgroup, hbusy, hopen, hwaits, halone⟩ := hf view hview
  refine ⟨congrArg (fun z : World => { z with views := w.views.modify v f }) h.rest,
    fun i hi => ?_, ⟨f view, World.views_modifyView_self hview.found f, ?_, hbusy, hopen, ?_,
      hwaits⟩, h.trace, h.listeners, h.scripts⟩
  · rw [World.views_modifyView_of_ne _ hi, World.views_modifyView_of_ne _ hi]
    exact h.others i hi
  · rw [World.views_modifyView_self hview.alone f', halone]
  · rw [hgroup]
    exact hview.members

/-- What listeners ask of the view waits, and nothing else happens in the nested run. -/
theorem asks (h : Abreast v ls done w u) {k : ListenerRef} {w' : World} (hasks : Asks k v w w') :
    Abreast v ls done w' u := by
  induction hasks with
  | refl => exact h
  | trans _ _ ih ih' => exact ih' (ih h)
  | counted w listeners hscripts _ =>
    obtain ⟨view, hview⟩ := h.view
    exact ⟨congrArg (fun z : World => { z with listeners }) h.rest, h.others,
      ⟨view, hview.found, hview.alone, hview.busy, hview.isOpen, hview.members, hview.waits⟩,
      h.trace, h.listeners, hscripts.trans h.scripts⟩
  | noted w c outcome views =>
    have hnoted := h.recordAll [.performed k c outcome views] [] rfl rfl
    rwa [show u.recordAll [] = u by simp [World.recordAll]] at hnoted
  | @asked a m w w' r hrun =>
    obtain ⟨view, hview⟩ := h.view
    obtain ⟨group, hgroup, hmembers⟩ := hview.members
    obtain ⟨r', hwaits⟩ := View.mutate_busy (a := a) (m := m) hview.found hview.isOpen hgroup
      hmembers hview.busy
    rw [hwaits] at hrun
    cases hrun
    refine ⟨?_, fun i hi => ?_, ⟨_, World.views_modifyView_self hview.found _, hview.alone,
      hview.busy, hview.isOpen, ⟨group, hgroup, hmembers⟩, ?_⟩, ?_, h.listeners, h.scripts⟩
    · exact congrArg (fun z : World => (z.record (.logged r')).record (.deferred v m) |>.modifyView
        v fun view => { view with pending := view.pending ++ [m] }) h.rest
    · rw [World.views_modifyView_of_ne _ hi]
      exact h.others i hi
    · change deferrals v (w.trace ++ [.logged r'] ++ [.deferred v m]) = _
      rw [deferrals_append, deferrals_append, hview.waits]
      simp [deferrals]
    · change outward u.trace = outward (w.trace ++ [.logged r'] ++ [.deferred v m])
      rw [outward_append, outward_append, h.trace]
      simp [outward, Event.isAside]

/-- What a view announces is the same in both runs, and what listeners then ask of it waits. -/
theorem announces {R : Respond} (hR : Asking R v (ls.map (·.script))) (h : Abreast v ls done w u)
    (n : Notice) {w' : World} (hw' : announceView R v n w = some w') :
    Abreast v ls done w' (u.announced v n) := by
  obtain ⟨view, hview⟩ := h.view
  have hreading : u.reading { view with pending := [] } = w.reading view :=
    h.read (fun z : World => z.reading view) fun _ _ _ _ => rfl
  have hannounced : Abreast v ls done (w.announced v n) (u.announced v n) := by
    rw [announced_of_found hview.found, announced_of_found hview.alone, hreading]
    exact h.recordAll _ _ rfl rfl
  refine heard_within (T := fun x x' => Abreast v ls done x (u.announced v n) →
    Abreast v ls done x' (u.announced v n)) ⟨fun _ => id, fun h h' => h' ∘ h⟩
    (fun k x x' hx hxu => ?_) hw' hannounced
  exact hxu.asks (hR k x x' hxu.scripts hx)

end Abreast

/-- Nothing comes of an announcement when listeners do nothing. -/
theorem announceView_unheard (v : ViewRef) (n : Notice) (w : World) :
    announceView (fun _ w => some w) v n w = some (w.announced v n) := by
  obtain ⟨w', hw'⟩ := Option.isSome_iff_exists.1
    (isSome_announceView (R := fun _ w => some w) (fun _ _ => rfl) v n w)
  have heq : w.announced v n = w' :=
    heard_within Command.chains_eq (fun _ _ _ hu => Option.some.inj hu) hw'
  rw [hw', heq]

end World

namespace View

variable {v : ViewRef} {ls : List Listener} {done : List Mutation} {w u : World} {R : Respond}

/-! ## A change of both runs -/

theorem parallel_paint (b : Builder) : b.Parallel Eq (World.Abreast v ls done) where
  paint figures h := h.read (fun z => z.paint b.chain (some b.sequenceChain) figures)
    fun _ _ _ _ => rfl
  note e he _ h := h.record e (by cases e <;> simp_all [Event.IsNote, deferrals])
  counts h := (h.read World.diagramCount fun _ _ _ _ => rfl).symm
  count {w u} h := by
    have hcount := h.read World.diagramCount fun _ _ _ _ => rfl
    have hchange := h.change (f := fun z => { z with diagramCount := w.diagramCount + 1 })
      (fun _ _ _ _ => rfl) rfl
    rwa [hcount]

theorem tracks_snapshot (r : SnapshotRef) :
    (Act.snapshot r).Tracks (World.Abreast v ls done) (Act.snapshot r) := by
  intro w u h
  refine Act.matches_bind_ok (Act.runIn_get w) (Act.runIn_get u) ?_
  rw [h.snapshots]
  cases w.snapshots[r]? with
  | none => exact Act.matches_throw h
  | some s => exact Act.matches_pure ⟨rfl, h⟩

theorem tracks_ensureBlocks (b : Builder) (r : SnapshotRef) :
    (b.ensureBlocks r).Tracks (World.Abreast v ls done) (b.ensureBlocks r) := by
  refine (tracks_snapshot r).bind fun s w u h => ?_
  split
  · exact Act.matches_pure ⟨rfl, h⟩
  cases b.scheduler with
  | none => exact Act.matches_throw h
  | some scheduler =>
    have hscheduled := h.record (.scheduled r) rfl
    refine Act.matches_bind_ok (Act.runIn_record _ w) (Act.runIn_record _ u) ?_
    refine Act.matches_ofExcept hscheduled fun p _ => ?_
    refine Act.matches_of_ok (Act.runIn_modify _ _) (Act.runIn_modify _ _) ⟨rfl, ?_⟩
    have hmodify {w u : World} (f : Snapshot → Snapshot) (h : World.Abreast v ls done w u) :
        World.Abreast v ls done (w.modifySnapshot r f) (u.modifySnapshot r f) :=
      h.change (f := fun z => z.modifySnapshot r f) (fun _ _ _ _ => rfl) rfl
    have hlogged : deferrals v (p.2.map .logged) = [] :=
      deferrals_of_quiet fun e he => by
        obtain ⟨x, -, rfl⟩ := List.mem_map.1 he
        exact id
    exact hmodify _ ((hmodify _ hscheduled).recordAll _ _ rfl hlogged)

theorem tracks_currentGraph (counted : Bool) (first second : SnapshotRef) :
    (Act.currentGraph counted first second).Tracks (World.Abreast v ls done)
      (Act.currentGraph counted first second) := by
  unfold Act.currentGraph
  split
  · exact Act.tracks_pure first
  intro w u h
  have hcompared := h.record (.compared first second counted) rfl
  refine Act.matches_bind_ok (Act.runIn_record _ w) (Act.runIn_record _ u) ?_
  refine (tracks_snapshot first).matches hcompared fun s w u h => ?_
  refine (tracks_snapshot second).matches h fun t w u h => ?_
  refine Act.matches_bind_ok (Act.runIn_get w) (Act.runIn_get u) ?_
  refine Act.matches_bind_ok (Act.runIn_set w _) (Act.runIn_set u _) ?_
  rw [World.nextId, World.nextId, h.snapshots]
  refine Act.matches_pure ⟨rfl, ?_⟩
  exact h.change (f := fun z => z.archive _) (fun _ _ _ _ => rfl) rfl

theorem tracks_rebuild (b : Builder) (r : SnapshotRef) :
    (b.rebuild r).Tracks (World.Abreast v ls done) (b.rebuild r) := by
  intro w u h
  have hensure : (b.ensureBlocks r).Matches (b.ensureBlocks r) w u (fun _ _ w' u' =>
      World.Abreast v ls done w' u' ∧
        Option.Rel Builder.LooksLike w'.snapshots[r]? u'.snapshots[r]?)
      (World.Abreast v ls done) := by
    refine (tracks_ensureBlocks b r w u h).mono fun _ _ w' u' ⟨_, h'⟩ => ⟨h', ?_⟩
    rw [h'.snapshots]
    cases w'.snapshots[r]? with
    | none => exact .none
    | some s => exact .some ⟨rfl, rfl, rfl, rfl⟩
  refine ((parallel_paint b).rebuild hensure).mono fun d d' w' u' ⟨h', hserial, hd', hgraph⟩ => ?_
  rw [hd', ← hserial, ← hgraph]
  exact ⟨rfl, h'⟩

theorem tracks_draw (graph : SnapshotRef) :
    (draw v graph).Tracks (World.Abreast v ls done) (draw v graph) := by
  intro w u h
  obtain ⟨view, hview⟩ := h.view
  unfold draw
  refine Act.matches_bind_ok (Act.runIn_view hview.found) (Act.runIn_view hview.alone) ?_
  refine (tracks_rebuild view.builder graph).matches h fun d w u h => ?_
  refine Act.matches_of_ok (Act.runIn_modifyView ..) (Act.runIn_modifyView ..) ⟨rfl, ?_⟩
  exact h.modifyView fun view hview => ⟨rfl, hview.busy, hview.isOpen, hview.waits, rfl⟩

/-- A change is carried out in lockstep in the nested run and in the sequential one. -/
theorem parallel_abreast (hR : World.Asking R v (ls.map (·.script))) :
    Parallel (World.announceView R) (World.announceView fun _ w => some w) v (fun _ => True)
      (World.Abreast v ls done) where
  agrees h := ⟨h.groups, fun _ _ _ _ => trivial, fun _ _ => by rw [h.snapshots],
    fun _ _ _ _ _ _ _ _ _ => trivial⟩
  views h := by
    obtain ⟨view, hview⟩ := h.view
    rw [hview.found, hview.alone]
    exact .some (.intro view.selection view.diagram view.busy [] rfl fun _ _ => trivial)
  write {w u x y f f'} h hx hy hf hf' halike := by
    refine h.modifyView fun view hview => ?_
    cases hview.found.symm.trans hx
    cases hview.alone.symm.trans hy
    refine ⟨hf.group, hf.busy.trans hview.busy, hf.closed.trans hview.isOpen, ?_, ?_⟩
    · rw [hf.pending]
      exact hview.waits
    · generalize hy' : f' { x with pending := [] } = y' at hf' halike
      obtain ⟨selection, diagram, busy, pending, -, -⟩ := halike
      have hselection : selection = (f x).selection := hf'.selection.trans hf.selection.symm
      have hdiagram : diagram = (f x).diagram := hf'.diagram.trans hf.diagram.symm
      have hbusy : busy = (f x).busy := hf'.busy.trans hf.busy.symm
      have hpending : pending = [] := hf'.pending
      rw [hselection, hdiagram, hbusy, hpending]
  logged r h := h.record (.logged r) rfl
  announce n _ _ _ h hw' := ⟨_, World.announceView_unheard v n _, h.announces hR n hw'⟩
  present {w u x first second} h hx _ _ := by
    refine (tracks_currentGraph x.counted first second).matches h fun graph w u h => ?_
    refine Act.matches_bind_ok (Act.runIn_modifyView v _ w) (Act.runIn_modifyView v _ u) ?_
    refine (tracks_draw graph _ _ (h.modifyView fun view hview => ?_)).mono fun _ _ _ _ h => h.2
    exact ⟨rfl, hview.busy, hview.isOpen, hview.waits, rfl⟩
  rechained := by
    intro w u h
    obtain ⟨view, hview⟩ := h.view
    unfold filterChainChanged
    refine Act.matches_bind_ok (Act.runIn_view hview.found) (Act.runIn_view hview.alone) ?_
    unfold View.graph?
    dsimp only
    split
    · exact Act.matches_throw h
    · refine (tracks_draw _).matches h fun _ w u h => ?_
      refine Act.ends_yield.2 fun w' hw' => ⟨(), u.announced v .diagramChanged, ?_, rfl,
        h.announces hR _ hw'⟩
      rw [announce, Act.runIn_yield, World.announceView_unheard]
      rfl

/-! ## One after the other -/

/-- Changes of a view are called one after the other from the top, with listeners that do
nothing. -/
def inTurn (v : ViewRef) (ms : List Mutation) : Act Unit :=
  ms.forM (mutate (World.announceView fun _ w => some w) v)

/-- The view takes changes and none of them is under way. -/
structure Idle (w : World) (view : View) : Prop where
  isOpen : view.closed = false
  idle : view.busy = false
  pending : view.pending = []
  members : ∃ group, w.groups[view.group]? = some group ∧ group.members ≠ []

variable {view : View}

/-- A call of an idle view is the change alone if nothing comes to wait. -/
theorem mutate_alone {a : Announce} {m : Mutation} {view' : View} {u' : World}
    (hview : u.views[v]? = some view) (hidle : Idle u view)
    (hrun : (carryOut a v m).runIn (u.modifyView v fun view => { view with busy := true }) =
      some (.ok (), u')) (hview' : u'.views[v]? = some view') (hpending : view'.pending = []) :
    (mutate a v m).runIn u = some (.ok (), settle v u') := by
  obtain ⟨group, hgroup, hmembers⟩ := hidle.members
  rw [mutate_idle hview hidle.isOpen hgroup hmembers hidle.idle, runChange,
    Act.runIn_bind_ok hrun, drain_of_nothing hview' hpending]
  rfl

theorem runIn_inTurn_append {ms : List Mutation} {m : Mutation} {w u u' : World}
    (h : (inTurn v ms).runIn w = some (.ok (), u))
    (h' : (mutate (World.announceView fun _ w => some w) v m).runIn u = some (.ok (), u')) :
    (inTurn v (ms ++ [m])).runIn w = some (.ok (), u') := by
  have happend : inTurn v (ms ++ [m]) = (do
      inTurn v ms
      inTurn v [m]) := List.forM_append
  rw [happend, Act.runIn_bind_ok h]
  exact (Act.runIn_bind_ok h').trans rfl

theorem views_settle (h : u.views[v]? = some view) :
    (settle v u).views[v]? = some { view with pending := [], busy := false } :=
  World.views_modifyView_self h _

theorem views_settle_of_ne {i : ViewRef} (hi : i ≠ v) (u : World) :
    (settle v u).views[i]? = u.views[i]? :=
  World.views_modifyView_of_ne u hi _

/-- Two lists of views are the same if they agree on one view and on all others. -/
theorem views_ext {w u : World} (v : ViewRef) (hown : u.views[v]? = w.views[v]?)
    (hothers : ∀ i, i ≠ v → u.views[i]? = w.views[i]?) : u.views = w.views := by
  refine List.ext_getElem? fun i => ?_
  by_cases hi : i = v
  · rw [hi, hown]
  · exact hothers i hi

/-- A view is rewritten and then rewritten to what it was. -/
theorem modifyView_back {f g : View → View} (hview : u.views[v]? = some view)
    (h : g (f view) = view) : (u.modifyView v f).modifyView v g = u := by
  have hviews : ((u.modifyView v f).modifyView v g).views = u.views := by
    refine views_ext v ?_ fun i hi => ?_
    · rw [World.views_modifyView_self (World.views_modifyView_self hview f) g, h, hview]
    · rw [World.views_modifyView_of_ne _ hi, World.views_modifyView_of_ne _ hi]
  exact congrArg (fun views => { u with views }) hviews

/-- A change that is carried out in the nested run is called from the top in the sequential one. -/
theorem carryOut_ends_abreast (hR : World.Asking R v (ls.map (·.script))) (m : Mutation)
    (h : World.Abreast v ls done w u) :
    (carryOut (World.announceView R) v m).Ends w
      (fun _ w' => ∃ u', World.Abreast v ls done w' u' ∧
        (mutate (World.announceView fun _ w => some w) v m).runIn (settle v u) =
          some (.ok (), settle v u'))
      fun _ _ => True := by
  have hmatches := (parallel_abreast hR).carryOut (m := m) (fun _ _ => trivial)
    (E := fun _ _ => True) (fun _ _ h => h.record (.begun v m) rfl) (fun _ _ _ => trivial)
    (fun _ _ _ _ _ _ => trivial) h
  refine Act.Ends.mono hmatches (fun _ w' ⟨_, u', hrun, h'⟩ => ⟨u', h', ?_⟩) fun _ _ _ => trivial
  obtain ⟨view, hview⟩ := h.view
  obtain ⟨view', hview'⟩ := h'.view
  refine mutate_alone (views_settle hview.alone) ⟨hview.isOpen, rfl, rfl, ?_⟩ ?_ hview'.alone rfl
  · rw [show (settle v u).groups = w.groups from h.groups]
    exact hview.members
  · -- Between two changes the view is idle for a moment in the sequential run.
    rw [settle, modifyView_back hview.alone (by rw [← hview.busy])]
    exact hrun

/-- The next change is taken from the queue of the nested run. -/
theorem takeWaiting_ends_abreast (h : World.Abreast v ls done w u) :
    (takeWaiting v).Ends w
      (fun next w' => match next with
        | none => World.Abreast v ls done w' u ∧
          ∀ view, w'.views[v]? = some view → view.pending = []
        | some m => World.Abreast v ls (done ++ [m]) w' u)
      fun _ _ => True := by
  refine ends_takeWaiting (fun _ => trivial) (fun view hview hpending => ?_)
    (fun _ _ _ _ _ _ => trivial) (fun view group m rest hfound _ hgroup hstop => ?_)
    fun view _ m rest hfound hpending _ _ _ => ?_
  · refine ⟨h, fun view' hview' => ?_⟩
    cases hview.symm.trans hview'
    exact hpending
  · obtain ⟨view', hview⟩ := h.view
    obtain ⟨group', hgroup', hmembers⟩ := hview.members
    cases hview.found.symm.trans hfound
    cases hgroup.symm.trans hgroup'
    rcases hstop with hclosed | hempty
    · cases hview.isOpen.symm.trans hclosed
    · exact absurd hempty hmembers
  · have htaken : World.Abreast v ls (done ++ [m])
        (w.modifyView v fun view => { view with pending := rest })
        (u.modifyView v fun view => view) := by
      refine h.modifyView fun view' hview => ?_
      cases hview.found.symm.trans hfound
      refine ⟨rfl, hview.busy, hview.isOpen, ?_, rfl⟩
      rw [hview.waits, hpending]
      simp
    rwa [show u.modifyView v (fun view => view) = u from
      congrArg (fun views => { u with views }) (List.modify_id ..)] at htaken

/-- When both runs have ended, the worlds are the same apart from listeners and the trace. -/
theorem settle_eq (h : World.Abreast v ls done w u) :
    settle v u = { settle v w with listeners := ls, trace := u.trace } := by
  obtain ⟨view, hview⟩ := h.view
  have hviews : (settle v u).views = (settle v w).views := by
    refine views_ext v ?_ fun i hi => ?_
    · rw [views_settle hview.alone, views_settle hview.found]
    · rw [views_settle_of_ne hi, views_settle_of_ne hi]
      exact h.others i hi
  have hrest : settle v u = { settle v w with
      views := (settle v u).views, listeners := u.listeners, trace := u.trace } :=
    congrArg (fun z : World => { z with
      views := (settle v u).views, listeners := u.listeners, trace := u.trace }) h.rest
  rw [hrest, hviews, h.listeners]

/-- A call of an idle view that succeeds, with listeners that only ask the view for changes, comes
to the same as calling its change and then all that came to wait, in order, one after the other from
the top with listeners that do nothing. All but the listeners and the trace is the same; and the
traces have everything in common but what is said of the queue, of the calls of listeners and in
the log. -/
theorem mutate_eq_inTurn {w' : World} {m : Mutation}
    (hR : World.Asking R v (w.listeners.map (·.script))) (hview : w.views[v]? = some view)
    (hidle : Idle w view)
    (hrun : (mutate (World.announceView R) v m).runIn w = some (.ok (), w')) :
    ∃ ms u, deferrals v w'.trace = deferrals v w.trace ++ ms ∧
      (inTurn v (m :: ms)).runIn w = some (.ok (), u) ∧
      u = { w' with listeners := w.listeners, trace := u.trace } ∧
      outward u.trace = outward w'.trace := by
  obtain ⟨group, hgroup, hmembers⟩ := hidle.members
  rw [mutate_idle hview hidle.isOpen hgroup hmembers hidle.idle] at hrun
  obtain ⟨⟨outcome, x⟩, hx, hsettled⟩ := Option.map_eq_some_iff.1 hrun
  obtain ⟨rfl, rfl⟩ := Prod.mk.inj hsettled
  let w₁ := w.modifyView v fun view => { view with busy := true }
  have hstart : World.Abreast v w.listeners (deferrals v w.trace ++ []) w₁ w₁ := by
    refine ⟨rfl, fun _ _ => rfl, ⟨_, World.views_modifyView_self hview _, ?_, rfl, hidle.isOpen,
      ⟨group, hgroup, hmembers⟩, ?_⟩, rfl, rfl, rfl⟩
    · rw [World.views_modifyView_self hview, hidle.pending]
    · rw [hidle.pending]
      simp [w₁, World.modifyView]
  -- The invariant: what was carried out so far comes to the same when it is called in turn.
  have hends : (runChange (World.announceView R) v m).Ends w₁
      (fun _ x => ∃ ms u, World.Abreast v w.listeners (deferrals v w.trace ++ ms) x u ∧
        (∀ view, x.views[v]? = some view → view.pending = []) ∧
        (inTurn v (m :: ms)).runIn w = some (.ok (), settle v u)) fun _ _ => True := by
    refine (carryOut_ends_abreast hR m hstart).bind fun _ x hx => ?_
    obtain ⟨u, hu, hfirst⟩ := hx
    refine drain_ends
      (I := fun x => ∃ ms u, World.Abreast v w.listeners (deferrals v w.trace ++ ms) x u ∧
        (inTurn v (m :: ms)).runIn w = some (.ok (), settle v u))
      (J := fun c x => ∃ ms u,
        World.Abreast v w.listeners (deferrals v w.trace ++ (ms ++ [c])) x u ∧
        (inTurn v (m :: ms)).runIn w = some (.ok (), settle v u))
      (fun x hx => ?_) (fun c x hx => ?_) ⟨[], u, hu, ?_⟩
    · obtain ⟨ms, u, hu, hturn⟩ := hx
      refine (takeWaiting_ends_abreast hu).mono (fun next x' hx' => ?_) fun _ _ h => h
      cases next with
      | none => exact ⟨ms, u, hx'.1, hx'.2, hturn⟩
      | some c => exact ⟨ms, u, by rwa [← List.append_assoc], hturn⟩
    · obtain ⟨ms, u, hu, hturn⟩ := hx
      refine (carryOut_ends_abreast hR c hu).mono (fun _ x' hx' => ?_) fun _ _ h => h
      obtain ⟨u', hu', hcall⟩ := hx'
      exact ⟨ms ++ [c], u', hu', runIn_inTurn_append hturn hcall⟩
    · rw [settle, modifyView_back hview (by rw [← hidle.idle, ← hidle.pending])] at hfirst
      exact (Act.runIn_bind_ok hfirst).trans rfl
  obtain ⟨ms, u, hu, hpending, hturn⟩ := hends.1 _ x hx
  obtain ⟨final, hfinal⟩ := hu.view
  refine ⟨ms, settle v u, ?_, hturn, settle_eq hu, hu.trace⟩
  have hwaits := hfinal.waits
  rwa [hpending final hfinal.found, List.append_nil] at hwaits

/-- Two snapshots of a group. A listener of the view goes back to the first one and selects a
node. -/
def echoed : World :=
  let s : Snapshot := { id := 0, name := "s", blocks := .ofList [("b", {})], group := some 0 }
  let w : World :=
    { snapshots := [s, s], pool := [0, 1], groups := [⟨"g", [0, 1]⟩], chains := [[], []] }
  (w.run [.openView 0 0 1 none false (.bool false),
    .listen (.view 0 .graphChanged) 1 [.selectGraph 0 0, .selectNodes 0 [1]]]).getD {}

theorem mutate_eq_inTurn_echoed :
    ∃ w' ms u, (mutate (World.announceView (World.callListener (World.performWithin 1))) 0
        (.selectGraph 1)).runIn echoed = some (.ok (), w') ∧ ms.length = 2 ∧
      (inTurn 0 (.selectGraph 1 :: ms)).runIn echoed = some (.ok (), u) ∧
      u = { w' with listeners := echoed.listeners, trace := u.trace } ∧
      outward u.trace = outward w'.trace := by
  have hrun : ((mutate (World.announceView (World.callListener (World.performWithin 1))) 0
      (.selectGraph 1)).runIn echoed).map
      (fun p => (p.1.isOk, (deferrals 0 p.2.trace).length, (deferrals 0 echoed.trace).length)) =
        some (true, 2, 0) := by
    unfold mutate runChange
    simp only [drain_eq_drainFirst _ _ 3]
    decide +kernel
  have hview : echoed.views[0]?.map
      (fun view => (view.closed, view.busy, view.pending, view.group)) =
        some (false, false, [], 0) := by decide +kernel
  obtain ⟨view, hfound, hfields⟩ := Option.map_eq_some_iff.1 hview
  obtain ⟨⟨outcome, w'⟩, hw', hseen⟩ := Option.map_eq_some_iff.1 hrun
  simp only [Prod.mk.injEq] at hfields hseen
  obtain ⟨hopen, hidle, hpending, hgroup⟩ := hfields
  obtain ⟨hok, hlength, hbefore⟩ := hseen
  cases outcome with
  | error e => cases hok
  | ok x =>
    have hasking : World.Asking (World.callListener (World.performWithin 1)) 0
        (echoed.listeners.map (·.script)) := World.asking_callListener (by decide +kernel) 1
    obtain ⟨ms, u, hms, hturn, hsame, htrace⟩ := mutate_eq_inTurn hasking hfound
      ⟨hopen, hidle, hpending, ⟨"g", [0, 1]⟩, by rw [hgroup]; rfl, by decide⟩ hw'
    refine ⟨w', ms, u, hw', ?_, hturn, hsame, htrace⟩
    rw [hms, List.length_append] at hlength
    omega

end View

end SnapshotViewer
