import SnapshotViewer.Proofs.Interference.SeparateViews

/-!
# Twin worlds

`World.Twins n v w u` says that a view is the same in two worlds, with all that its changes depend
on, although others may have been called in `w` that were not called in `u`. The first `n`
snapshots are in both worlds; one that was stored later is told apart in neither, and may have
different ids and handles in the two of them. What views that are apart do keeps worlds twins
(`World.Twins.spared`).
-/

namespace SnapshotViewer

/-! ## Leaving later snapshots aside -/

/-- The diagram, with its serial number and the handle of a graph from the `n`-th on left aside. -/
def Diagram.upTo (n : Nat) (d : Diagram) : Diagram := { d with serial := 0, graph := min d.graph n }

/-- The selection, with the handle of a graph from the `n`-th on left aside. -/
def Selection.upTo (n : Nat) (s : Selection) : Selection := { s with graph := min s.graph n }

/-- The view, with handles of graphs from the `n`-th on and serial numbers left aside. -/
def View.upTo (n : Nat) (view : View) : View :=
  { view with
    selection := view.selection.map (Selection.upTo n)
    diagram := view.diagram.map (Diagram.upTo n) }

/-- The reading, with handles of graphs from the `n`-th on and serial numbers left aside. -/
def Reading.upTo (n : Nat) (r : Reading) : Reading :=
  { r with graph := r.graph.map (min · n), diagram := r.diagram.map (Diagram.upTo n) }

/-- A signal of the view, or what it lets others read with it. -/
def Event.voice (n : Nat) (v : ViewRef) : Event → Option Event
  | .announced u m r => if u = v then some (.announced u m (r.upTo n)) else none
  | .signalled (.view u m) => if u = v then some (.signalled (.view u m)) else none
  | _ => none

/-- The signals that the view has emitted, with what it let others read. -/
def voice (n : Nat) (v : ViewRef) (es : List Event) : List Event := es.filterMap (Event.voice n v)

theorem voice_append (n : Nat) (v : ViewRef) (es es' : List Event) :
    voice n v (es ++ es') = voice n v es ++ voice n v es' := List.filterMap_append

/-- What does not concern the view is no signal of it. -/
theorem voice_of_elsewhere {n : Nat} {v : ViewRef} {es : List Event}
    (h : ∀ e ∈ es, ¬ e.Regards v) : voice n v es = [] := by
  refine List.filterMap_eq_nil_iff.2 fun e he => ?_
  have hsilent := h e he
  cases e with
  | announced u m r => exact if_neg hsilent
  | signalled s =>
    cases s with
    | view u m => exact if_neg hsilent
    | group g => rfl
    | chain c => rfl
  | _ => rfl

namespace View

variable {n : Nat} {x y : View}

/-- Views that are the same up to later snapshots show the same. -/
theorem alike_of_upTo (h : y.upTo n = x.upTo n) (hgraphs : ∀ r ∈ x.graphs, r < n) :
    Alike (· < n) x y := by
  have hy : y = { x with
      selection := y.selection, diagram := y.diagram, busy := y.busy, pending := y.pending } := by
    cases x
    cases y
    simp_all [upTo]
  have hselection := congrArg View.selection h
  have hends (s : Option Selection) :
      (s.map (Selection.upTo n)).map (fun s => (s.first, s.second)) =
        s.map fun s => (s.first, s.second) := by
    cases s <;> rfl
  rw [hy]
  refine ⟨_, _, _, _, ?_, hgraphs⟩
  rw [← hends y.selection, ← hends x.selection]
  exact congrArg (Option.map fun s => (s.first, s.second)) hselection

/-- Alike views are the same if what is selected and drawn and the queue are. -/
theorem Alike.upTo {known : SnapshotRef → Prop} (h : Alike known x y)
    (hselection : y.selection.map (Selection.upTo n) = x.selection.map (Selection.upTo n))
    (hdiagram : y.diagram.map (Diagram.upTo n) = x.diagram.map (Diagram.upTo n))
    (hbusy : y.busy = x.busy) (hpending : y.pending = x.pending) : y.upTo n = x.upTo n := by
  obtain ⟨selection, diagram, busy, pending, -, -⟩ := h
  dsimp only at hselection hdiagram hbusy hpending
  rw [View.upTo, View.upTo, ← hselection, ← hdiagram, hbusy, hpending]

theorem graph?_upTo (n : Nat) (view : View) : (view.upTo n).graph? = view.graph?.map (min · n) := by
  unfold graph? upTo
  cases view.selection <;> rfl

theorem figures_of_upTo (h : y.upTo n = x.upTo n) : y.figures = x.figures := by
  have hfigures (view : View) :
      view.figures = ((view.upTo n).diagram.map (·.figures)).getD [] := by
    unfold figures View.upTo
    cases view.diagram <;> rfl
  rw [hfigures y, hfigures x, h]

end View

namespace World

/-- The two graphs are the same snapshot, or later ones that are the same but for their ids. -/
structure Pair (n : Nat) (l l' : List Snapshot) (g g' : SnapshotRef) : Prop where
  handle : min g' n = min g n
  stored : ∃ s t, l[g]? = some s ∧ l'[g']? = some t ∧ t.Counterpart s

/-- The view is the same in two worlds with these snapshots. What it shows and what waits for it
are snapshots that both worlds hold from the beginning, and the graphs that are selected are the
same. -/
structure SameView (n : Nat) (l l' : List Snapshot) (x y : View) : Prop where
  same : y.upTo n = x.upTo n
  graphs : ∀ r ∈ x.graphs, r < n
  waiting : ∀ m ∈ x.pending, ∀ r, m.names r → r < n
  shown : ∀ g g', x.graph? = some g → y.graph? = some g' → Pair n l l' g g'

/-- A view is the same in both worlds, with all that its changes depend on. -/
structure Twins (n : Nat) (v : ViewRef) (w u : World) : Prop where
  rest : { u with
    snapshots := w.snapshots
    views := w.views
    listeners := w.listeners
    diagramCount := w.diagramCount
    trace := w.trace } = w
  members : ∀ group ∈ w.groups, ∀ r ∈ group.members, r < n
  pool : ∀ r ∈ w.pool, r < n
  snapshots : ∀ r < n, ∃ s t, w.snapshots[r]? = some s ∧ u.snapshots[r]? = some t ∧ t.Becomes s
  ends : ∀ r < n, ∀ s, w.snapshots[r]? = some s → ∀ first second,
    s.origin = .difference first second → ∀ x, first = some x ∨ second = some x → x < n
  view : ∃ x y, w.views[v]? = some x ∧ u.views[v]? = some y ∧
    SameView n w.snapshots u.snapshots x y
  scripts : u.listeners.map (·.script) = w.listeners.map (·.script)
  listeners : ∀ k ∈ w.hearers v, u.listeners[k]? = w.listeners[k]?
  trace : voice n v u.trace = voice n v w.trace

variable {n : Nat} {v : ViewRef} {w u w' u' : World} {x y : View}

/-- Snapshots may be scheduled and new ones stored in either world. -/
theorem Pair.settles {g g' : SnapshotRef} (h : Pair n w.snapshots u.snapshots g g')
    (hw : Settles w w') (hu : ∀ t, u.snapshots[g']? = some t → u'.snapshots[g']? = some t) :
    Pair n w'.snapshots u'.snapshots g g' := by
  obtain ⟨s, t, hs, ht, hst⟩ := h.stored
  obtain ⟨s', hs', hbecomes⟩ := hw g s hs
  exact ⟨h.handle, s', t, hs', hu t ht, hst.becomes hbecomes⟩

/-- A handle that is known in both worlds is that of both graphs or of none. -/
theorem Pair.eq_iff {l l' : List Snapshot} {g g' r : SnapshotRef} (h : Pair n l l' g g')
    (hr : r < n) : g = r ↔ g' = r := by
  have hmin {a b r : Nat} (h : min b n = min a n) (hr : r < n) : a = r ↔ b = r := by omega
  exact hmin h.handle hr

namespace SameView

variable {l l' : List Snapshot} (h : SameView n l l' x y)

include h

theorem alike : View.Alike (· < n) x y := View.alike_of_upTo h.same h.graphs

theorem group : y.group = x.group := (congrArg View.group h.same :)

theorem builder : y.builder = x.builder := (congrArg View.builder h.same :)

theorem closed : y.closed = x.closed := (congrArg View.closed h.same :)

theorem busy : y.busy = x.busy := (congrArg View.busy h.same :)

theorem pending : y.pending = x.pending := (congrArg View.pending h.same :)

/-- A graph is selected in both worlds or in none. -/
theorem selected : x.graph? = none ∧ y.graph? = none ∨
    ∃ g g', x.graph? = some g ∧ y.graph? = some g' ∧ Pair n l l' g g' := by
  have hgraphs : y.graph?.map (min · n) = x.graph?.map (min · n) := by
    rw [← View.graph?_upTo, ← View.graph?_upTo, h.same]
  cases hg : x.graph? with
  | none =>
    rw [hg, Option.map_none, Option.map_eq_none_iff] at hgraphs
    exact .inl ⟨rfl, hgraphs⟩
  | some g =>
    rw [hg, Option.map_some] at hgraphs
    obtain ⟨g', hg', -⟩ := Option.map_eq_some_iff.1 hgraphs
    exact .inr ⟨g, g', rfl, hg', h.shown g g' hg hg'⟩

end SameView

theorem reading_upTo (w : World) (view : View) :
    (w.reading view).upTo n = w.reading (view.upTo n) := by
  have hdiagram : view.shownDiagram?.map (Diagram.upTo n) = (view.upTo n).shownDiagram? := by
    unfold View.shownDiagram? View.upTo
    cases view.diagram <;> rfl
  rw [Reading.upTo, show (w.reading view).graph = view.graph? from rfl, ← View.graph?_upTo,
    show (w.reading view).diagram = view.shownDiagram? from rfl, hdiagram]
  rfl

namespace Twins

variable (h : Twins n v w u)

include h

/-- What is not stored in snapshots, views, listeners and the trace is the same. -/
theorem read {α : Type} (f : World → α)
    (hf : ∀ (z : World) snapshots views listeners diagramCount trace,
      f { z with snapshots, views, listeners, diagramCount, trace } = f z) : f u = f w :=
  (hf u _ _ _ _ _).symm.trans (congrArg f h.rest)

theorem groups : u.groups = w.groups := h.read World.groups fun _ _ _ _ _ _ => rfl

theorem connections : u.connections = w.connections :=
  h.read World.connections fun _ _ _ _ _ _ => rfl

theorem agrees : w.Agrees (· < n) u where
  groups := h.groups
  members := h.members
  snapshots r hr := by
    obtain ⟨s, t, hs, ht, hst⟩ := h.snapshots r hr
    rw [hs, ht, Option.map_some, Option.map_some, hst.clearBlocks]
  ends := h.ends

/-- Two snapshots that both worlds hold from the beginning. -/
theorem pair {r : SnapshotRef} (hr : r < n) : Pair n w.snapshots u.snapshots r r := by
  obtain ⟨s, t, hs, ht, hst⟩ := h.snapshots r hr
  exact ⟨rfl, s, t, hs, ht, hst.counterpart⟩

/-! ## Steps of others -/

/-- What spares the view in one of the worlds keeps them twins. -/
theorem spared (hspares : Spares v w w') : Twins n v w' u := by
  obtain ⟨x, y, hx, hy, hview⟩ := h.view
  obtain ⟨es, htrace, hes⟩ := hspares.trace
  have hgroups : w'.groups = w.groups := (congrArg World.groups hspares.rest).symm
  have hpool : w'.pool = w.pool := (congrArg World.pool hspares.rest).symm
  refine ⟨?_, ?_, ?_, fun r hr => ?_, fun r hr s hs => ?_, ⟨x, y, hspares.view.trans hx, hy,
    hview.same, hview.graphs, hview.waiting, fun g g' hg hg' => ?_⟩, ?_, fun k hk => ?_, ?_⟩
  · rw [← hspares.rest, ← h.rest]
  · rw [hgroups]
    exact h.members
  · rw [hpool]
    exact h.pool
  · obtain ⟨s, t, hs, ht, hst⟩ := h.snapshots r hr
    obtain ⟨s', hs', hbecomes⟩ := hspares.snapshots r s hs
    exact ⟨s', t, hs', ht, hst.trans hbecomes⟩
  · obtain ⟨s₀, -, hs₀, -, -⟩ := h.snapshots r hr
    obtain ⟨s', hs', hbecomes⟩ := hspares.snapshots r s₀ hs₀
    cases hs.symm.trans hs'
    have hends := h.ends r hr s₀ hs₀
    obtain rfl | rfl := hbecomes
    · exact hends
    · simpa using hends
  · exact (hview.shown g g' hg hg').settles hspares.snapshots fun _ ht => ht
  · rw [hspares.scripts]
    exact h.scripts
  · rw [hspares.hearers] at hk
    rw [h.listeners k hk, hspares.listeners k hk]
  · rw [h.trace, htrace, voice_append, voice_of_elsewhere hes, List.append_nil]

/-! ## Steps in both worlds -/

/-- Events are noted in both worlds that are the same for the view. -/
theorem recordAll {es es' : List Event} (hes : voice n v es' = voice n v es) :
    Twins n v (w.recordAll es) (u.recordAll es') := by
  refine ⟨congrArg (fun z : World => { z with trace := w.trace ++ es }) h.rest, h.members, h.pool,
    h.snapshots, h.ends, h.view, h.scripts, h.listeners, ?_⟩
  rw [World.recordAll, World.recordAll, voice_append, voice_append, hes, h.trace]

theorem record {e e' : Event} (he : e'.voice n v = e.voice n v) :
    Twins n v (w.record e) (u.record e') := by
  refine (h.recordAll ?_ : Twins n v (w.recordAll [e]) (u.recordAll [e']))
  unfold voice
  rw [List.filterMap_cons, List.filterMap_cons, he]

/-- The view is rewritten alike. -/
theorem modifyView {f f' : View → View} (hf : ∀ x y, w.views[v]? = some x → u.views[v]? = some y →
    SameView n w.snapshots u.snapshots x y →
      SameView n w.snapshots u.snapshots (f x) (f' y)) :
    Twins n v (w.modifyView v f) (u.modifyView v f') := by
  obtain ⟨x, y, hx, hy, hview⟩ := h.view
  exact ⟨congrArg (fun z : World => { z with views := w.views.modify v f }) h.rest, h.members,
    h.pool, h.snapshots, h.ends, ⟨f x, f' y, views_modifyView_self hx f,
      views_modifyView_self hy f', hf x y hx hy hview⟩, h.scripts, h.listeners, h.trace⟩

theorem count (m m' : Nat) :
    Twins n v { w with diagramCount := m } { u with diagramCount := m' } := by
  exact ⟨congrArg (fun z : World => { z with diagramCount := m }) h.rest, h.members, h.pool,
    h.snapshots, h.ends, h.view, h.scripts, h.listeners, h.trace⟩

/-- A call of a listener is used up in both worlds. -/
theorem called {k : ListenerRef} {l : Listener} (hl : w.listeners[k]? = some l)
    (hk : k ∈ w.hearers v) (m : Nat) :
    Twins n v { w with listeners := w.listeners.set k { l with remaining := m } }
      { u with listeners := u.listeners.set k { l with remaining := m } } := by
  have hl' : u.listeners[k]? = some l := (h.listeners k hk).trans hl
  refine ⟨congrArg (fun z : World =>
    { z with listeners := w.listeners.set k { l with remaining := m } }) h.rest, h.members, h.pool,
    h.snapshots, h.ends, h.view, ?_, fun i hi => ?_, h.trace⟩
  · dsimp only
    rw [scripts_set hl, scripts_set hl', h.scripts]
  · dsimp only
    by_cases hik : k = i
    · subst hik
      rw [List.getElem?_set_self (List.getElem?_eq_some_iff.1 hl).1,
        List.getElem?_set_self (List.getElem?_eq_some_iff.1 hl').1]
    · rw [List.getElem?_set_ne hik, List.getElem?_set_ne hik]
      exact h.listeners i hi

/-- Snapshots are stored in both worlds that are the same but for their ids. -/
theorem archive {s t : Snapshot} (hst : t.Counterpart s) :
    Twins n v (w.archive s) (u.archive t) ∧
      Pair n (w.archive s).snapshots (u.archive t).snapshots w.snapshots.length
        u.snapshots.length := by
  have hold {w : World} {s s' : Snapshot} {r : SnapshotRef} (hs : w.snapshots[r]? = some s') :
      (w.archive s).snapshots[r]? = some s' := by
    rw [World.archive, List.getElem?_append_left (List.getElem?_eq_some_iff.1 hs).1, hs]
  have hlengths : n ≤ w.snapshots.length ∧ n ≤ u.snapshots.length := by
    refine ⟨Nat.le_of_not_lt fun hlt => ?_, Nat.le_of_not_lt fun hlt => ?_⟩
    · obtain ⟨s, -, hs, -, -⟩ := h.snapshots _ hlt
      exact Nat.lt_irrefl _ (List.getElem?_eq_some_iff.1 hs).1
    · obtain ⟨-, t, -, ht, -⟩ := h.snapshots _ hlt
      exact Nat.lt_irrefl _ (List.getElem?_eq_some_iff.1 ht).1
  obtain ⟨x, y, hx, hy, hview⟩ := h.view
  refine ⟨⟨congrArg (fun z : World => { z with snapshots := w.snapshots ++ [s] }) h.rest,
    h.members, h.pool, fun r hr => ?_, fun r hr s' hs' => ?_, ⟨x, y, hx, hy, hview.same,
      hview.graphs, hview.waiting, fun g g' hg hg' => ?_⟩, h.scripts, h.listeners, h.trace⟩, ?_,
    s, t, List.getElem?_concat_length, List.getElem?_concat_length, hst⟩
  · obtain ⟨s', t', hs', ht', hst'⟩ := h.snapshots r hr
    exact ⟨s', t', hold hs', hold ht', hst'⟩
  · obtain ⟨s₀, -, hs₀, -, -⟩ := h.snapshots r hr
    cases hs'.symm.trans (hold hs₀)
    exact h.ends r hr _ hs₀
  · exact (hview.shown g g' hg hg').settles (settles_archive w s) fun _ => hold
  · rw [Nat.min_eq_right hlengths.1, Nat.min_eq_right hlengths.2]

/-- The graph that the view has selected is scheduled in both worlds. -/
theorem settleAt {g g' : SnapshotRef} (hx : w.views[v]? = some x) (hy : u.views[v]? = some y)
    (hg : x.graph? = some g) (hg' : y.graph? = some g') :
    Twins n v (w.settleAt g) (u.settleAt g') := by
  have hsettled {w : World} {g r : SnapshotRef} {s : Snapshot} (hs : w.snapshots[r]? = some s) :
      (w.settleAt g).snapshots[r]? = some (if g = r then s.settled else s) := by
    by_cases hr : g = r
    · simp [World.settleAt, modifySnapshot, hs, hr]
    · simp [World.settleAt, modifySnapshot, hs, hr]
  obtain ⟨x', y', hx', hy', hview⟩ := h.view
  cases hx.symm.trans hx'
  cases hy.symm.trans hy'
  have hpair := hview.shown g g' hg hg'
  refine ⟨congrArg (fun z : World => { z with snapshots := (w.settleAt g).snapshots }) h.rest,
    h.members, h.pool, fun r hr => ?_, fun r hr s' hs' => ?_, ⟨x, y, hx, hy, hview.same,
      hview.graphs, hview.waiting, fun p p' hp hp' => ?_⟩, h.scripts, h.listeners, h.trace⟩
  · obtain ⟨s, t, hs, ht, hst⟩ := h.snapshots r hr
    refine ⟨_, _, hsettled hs, hsettled ht, ?_⟩
    -- A snapshot that is in both worlds has one handle.
    have hiff := hpair.eq_iff hr
    by_cases hgr : g = r
    · rw [if_pos hgr, if_pos (hiff.1 hgr)]
      exact hst.settled
    · rw [if_neg hgr, if_neg fun hgr' => hgr (hiff.2 hgr')]
      exact hst
  · obtain ⟨s, -, hs, -, -⟩ := h.snapshots r hr
    cases hs'.symm.trans (hsettled hs)
    have hends := h.ends r hr s hs
    split
    · simpa using hends
    · exact hends
  · cases hg.symm.trans hp
    cases hg'.symm.trans hp'
    obtain ⟨s, t, hs, ht, hst⟩ := hpair.stored
    refine ⟨hpair.handle, _, _, hsettled hs, hsettled ht, ?_⟩
    rw [if_pos rfl, if_pos rfl]
    exact hst.settled

/-! ## Readings -/

/-- The same can be read off the view in both worlds. -/
theorem reading (hview : SameView n w.snapshots u.snapshots x y) :
    (u.reading y).upTo n = (w.reading x).upTo n := by
  have hfirst : u.firstGraph (x.upTo n) = w.firstGraph (x.upTo n) :=
    h.agrees.firstOf x.window hview.graphs
  have hsecond : u.secondGraph (x.upTo n) = w.secondGraph (x.upTo n) :=
    h.agrees.secondOf x.window hview.graphs
  rw [reading_upTo, reading_upTo, hview.same, World.reading, World.reading, hfirst, hsecond]

end Twins

end World

end SnapshotViewer
