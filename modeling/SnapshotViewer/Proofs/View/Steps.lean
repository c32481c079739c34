import SnapshotViewer.Proofs.Action.Outcome

/-!
# The steps of a change

A change of a view is made of few kinds of steps: it writes fields of the view, each in one of the
ways that `View.Write` lists; it notes something; it assigns blocks to a snapshot; it stores a
difference; and it announces. `View.Steps a v w w'` says that such steps lead from `w` to `w'`.
Main statement: whatever the outcome of a change, `Steps` lead to the world after it.
-/

namespace SnapshotViewer

/-- The event is of no view: something logged, filtered, scheduled or compared. -/
def Event.IsNote : Event → Prop
  | .logged _ | .filtered _ | .scheduled _ | .compared .. => True
  | _ => False

/-- Two snapshots were compared. -/
def Event.Compares : Event → Prop
  | .compared .. => True
  | _ => False

/-- The graph of a selection is what is shown for its two snapshots: the snapshot itself if they are
one, and else a difference of exactly these two. -/
structure Selection.Shows (w : World) (s : Selection) : Prop where
  stored : s.graph < w.snapshots.length
  single : s.first = s.second → s.graph = s.first
  pair : s.first ≠ s.second →
    ∃ d, w.snapshots[s.graph]? = some d ∧ d.origin = .difference (some s.first) (some s.second)

/-- The window lies within `size` positions. -/
def Window.FitsIn (window : Window) (size : Nat) : Prop :=
  0 ≤ window.low ∧ window.low ≤ window.high ∧ window.high < size

theorem Window.fitsIn_of_ofBounds {low high : Int} {size : Nat} {window : Window}
    (h : Window.ofBounds low high size = .ok window) : window.FitsIn size := by
  unfold Window.ofBounds at h
  split at h
  · cases h
    assumption
  · cases h

theorem Window.eq_of_ofBounds {low high : Int} {size : Nat} {window : Window}
    (h : Window.ofBounds low high size = .ok window) : window = ⟨low, high⟩ := by
  unfold Window.ofBounds at h
  split at h
  · exact (Except.ok.inj h).symm
  · cases h

theorem Window.fitsIn_of_anchorTo {before window : Window} {index : Int} {size : Nat}
    (h : before.anchorTo index size = .ok window) : window.FitsIn size := by
  unfold Window.anchorTo at h
  split at h
  · exact fitsIn_of_ofBounds h
  · exact fitsIn_of_ofBounds h

theorem Window.mem_of_entryAt {α : Type} {entries : List α} {i : Int} {x : α}
    (h : Window.entryAt entries i = some x) : x ∈ entries := by
  unfold Window.entryAt at h
  split at h
  · exact List.mem_of_getElem? h
  · split at h
    · exact List.mem_of_getElem? h
    · cases h

theorem Window.mem_of_lowEntry? {α : Type} {window : Window} {entries : List α} {x : α}
    (h : window.lowEntry? entries = some x) : x ∈ entries := by
  unfold Window.lowEntry? at h
  split at h
  · exact mem_of_entryAt h
  · exact List.mem_of_getLast? h

/-- An end that a window resolves to is stored, and was captured. -/
theorem World.unwrap_ok {w : World} {isFirst : Bool} {r x : SnapshotRef}
    (h : w.unwrap isFirst r = .ok x) :
    ∃ s, w.snapshots[x]? = some s ∧ s.isDifference = false := by
  unfold World.unwrap at h
  split at h
  · cases h
  · rename_i s hs
    split at h
    · rename_i horigin
      cases h
      exact ⟨s, hs, by simp [Snapshot.isDifference, horigin]⟩
    · unfold World.capturedEnd at h
      split at h
      · cases h
      · split at h
        · cases h
        · rename_i inner t ht
          split at h
          · cases h
          · rename_i hcaptured
            cases h
            exact ⟨t, ht, by simpa using hcaptured⟩

theorem World.firstOf_ok {w : World} {window : Window} {graphs : List SnapshotRef} {x : SnapshotRef}
    (h : w.firstOf window graphs = .ok x) :
    ∃ s, w.snapshots[x]? = some s ∧ s.isDifference = false := by
  unfold World.firstOf at h
  split at h
  · cases h
  · exact World.unwrap_ok h

theorem World.secondOf_ok {w : World} {window : Window} {graphs : List SnapshotRef}
    {x : SnapshotRef} (h : w.secondOf window graphs = .ok x) :
    ∃ s, w.snapshots[x]? = some s ∧ s.isDifference = false := by
  unfold World.secondOf at h
  split at h
  · split at h
    · cases h
    · exact World.unwrap_ok h
  · exact World.firstOf_ok h

theorem World.firstOf_lt {w : World} {window : Window} {graphs : List SnapshotRef} {x : SnapshotRef}
    (h : w.firstOf window graphs = .ok x) : x < w.snapshots.length := by
  obtain ⟨s, hs, -⟩ := World.firstOf_ok h
  exact (List.getElem?_eq_some_iff.1 hs).1

theorem World.secondOf_lt {w : World} {window : Window} {graphs : List SnapshotRef}
    {x : SnapshotRef} (h : w.secondOf window graphs = .ok x) : x < w.snapshots.length := by
  obtain ⟨s, hs, -⟩ := World.secondOf_ok h
  exact (List.getElem?_eq_some_iff.1 hs).1

/-! ## Resolving graphs and building diagrams -/

/-- What a relation has to allow so that diagrams can be built within it. -/
structure Draws (T : World → World → Prop) : Prop where
  chains : Act.Chains T
  note : ∀ w e, Event.IsNote e → ¬ e.Compares → T w (w.record e)
  assign : ∀ w r s blocks log, w.snapshots[r]? = some s → s.blocks.isEmpty = true →
    T w (Builder.assignBlocks w r blocks log)
  count : ∀ w n, T w { w with diagramCount := n }

/-- What a relation has to allow so that graphs can be resolved within it. -/
structure Derives (T : World → World → Prop) : Prop where
  chains : Act.Chains T
  note : ∀ w e, Event.IsNote e → T w (w.record e)
  archive : ∀ w (first second : SnapshotRef) s t, w.snapshots[first]? = some s →
    w.snapshots[second]? = some t →
    T w (w.archive (Difference.ofPair w.nextId first second s t))

/-- What a relation has to allow so that graphs can be resolved and diagrams built within it. -/
structure Renders (T : World → World → Prop) : Prop where
  chains : Act.Chains T
  note : ∀ w e, Event.IsNote e → T w (w.record e)
  assign : ∀ w r s blocks log, w.snapshots[r]? = some s → s.blocks.isEmpty = true →
    T w (Builder.assignBlocks w r blocks log)
  archive : ∀ w (first second : SnapshotRef) s t, w.snapshots[first]? = some s →
    w.snapshots[second]? = some t →
    T w (w.archive (Difference.ofPair w.nextId first second s t))
  count : ∀ w n, T w { w with diagramCount := n }

/-- Blocks are assigned by rewriting the snapshot and noting what the scheduler has logged. -/
theorem chains_assignBlocks {T : World → World → Prop} (hT : Act.Chains T)
    (hmodify : ∀ w r f, (∀ s : Snapshot, f s = { s with blocks := (f s).blocks }) →
      T w (w.modifySnapshot r f))
    (hlogged : ∀ w r, T w (w.record (.logged r))) (w : World) (r : SnapshotRef)
    (blocks : OrderedMap String Block) (log : List Log.Record) :
    T w (Builder.assignBlocks w r blocks log) := by
  refine hT.trans (hT.trans (hmodify w r (fun s => { s with blocks }) fun _ => rfl)
    (hT.recordAll (fun e he w => ?_) _)) (hmodify _ r _ collectStrays_eq)
  obtain ⟨x, -, rfl⟩ := List.mem_map.1 he
  exact hlogged w x

/-- Once blocks are assigned, a diagram is built by noting what is run and counting. -/
theorem Builder.rebuild_within {T : World → World → Prop} (hT : Act.Chains T)
    (hnote : ∀ w e, Event.IsNote e → ¬ e.Compares → T w (w.record e))
    (hcount : ∀ w n, T w { w with diagramCount := n }) {b : Builder} {r : SnapshotRef}
    (hensure : (b.ensureBlocks r).Within T) : (b.rebuild r).Within T := by
  unfold Builder.rebuild
  refine hensure.bind hT fun _ => ?_
  refine (Act.within_snapshot hT r).bind hT fun s => ?_
  refine (Act.within_ofExcept hT _).bind hT fun figures => ?_
  refine (Act.within_get hT).bind hT fun u => ?_
  refine (Act.within_modify fun w => ?_).bind hT fun _ => ?_
  · refine hT.recordAll (fun e he w => ?_) w
    obtain ⟨f, -, rfl⟩ := List.mem_map.1 he
    exact hnote w _ trivial id
  split
  · exact Act.within_throw hT _
  · refine (Act.within_modify fun w => hnote w _ ?_ ?_).bind hT fun _ => ?_
    · exact trivial
    · exact id
    refine (Act.within_get hT).bind hT fun u => ?_
    refine (Act.within_modify fun w => ?_).bind hT fun _ => Act.within_pure hT _
    exact hcount w _

namespace Draws

variable {T : World → World → Prop} (hT : Draws T)

include hT

theorem ensureBlocks (b : Builder) (r : SnapshotRef) : (b.ensureBlocks r).Within T := by
  intro w
  unfold Builder.ensureBlocks
  rw [Act.ends_bind]
  refine Act.ends_snapshot (fun s hs => ?_) fun _ => hT.chains.refl w
  split
  · exact Act.ends_pure.2 (hT.chains.refl w)
  · rename_i hblocks
    split
    · exact Act.ends_throw.2 (hT.chains.refl w)
    · have hnoted : T w (w.record (.scheduled r)) := hT.note w _ trivial id
      rw [Act.ends_bind, Act.ends_record, Act.ends_bind]
      refine Act.ends_ofExcept (fun p _ => Act.ends_modify.2 ?_) fun _ _ => hnoted
      exact hT.chains.trans hnoted (hT.assign _ r s _ _ hs (by simpa using hblocks))

theorem rebuild (b : Builder) (r : SnapshotRef) : (b.rebuild r).Within T :=
  Builder.rebuild_within hT.chains hT.note hT.count (hT.ensureBlocks b r)

end Draws

namespace Derives

variable {T : World → World → Prop} (hT : Derives T)

include hT

theorem makeDifference (first second : SnapshotRef) :
    (Act.makeDifference first second).Within T := by
  intro w
  unfold Act.makeDifference
  rw [Act.ends_bind]
  refine Act.ends_snapshot (fun s hs => ?_) fun _ => hT.chains.refl w
  rw [Act.ends_bind]
  refine Act.ends_snapshot (fun t ht => ?_) fun _ => hT.chains.refl w
  rw [Act.ends_bind, Act.ends_get, Act.ends_bind, Act.ends_set, Act.ends_pure]
  exact hT.archive w first second s t hs ht

theorem currentGraph (counted : Bool) (first second : SnapshotRef) :
    (Act.currentGraph counted first second).Within T := by
  unfold Act.currentGraph
  split
  · exact Act.within_pure hT.chains _
  · refine Act.Within.bind hT.chains (Act.within_modify fun w => hT.note w _ ?_) fun _ =>
      hT.makeDifference first second
    exact trivial

end Derives

namespace Renders

variable {T : World → World → Prop} (hT : Renders T)

include hT

theorem draws : Draws T where
  chains := hT.chains
  note w e he _ := hT.note w e he
  assign := hT.assign
  count := hT.count

/-- What is rendered within a relation is rendered within a weaker one. -/
theorem mono {T' : World → World → Prop} (hc : Act.Chains T') (h : ∀ w w', T w w' → T' w w') :
    Renders T' where
  chains := hc
  note w e he := h _ _ (hT.note w e he)
  assign w r s blocks log hs hblocks := h _ _ (hT.assign w r s blocks log hs hblocks)
  archive w first second s t hs ht := h _ _ (hT.archive w first second s t hs ht)
  count w n := h _ _ (hT.count w n)

theorem record {e : Event} (he : e.IsNote) : (Act.record e).Within T :=
  Act.within_modify fun w => hT.note w e he

theorem rebuild (b : Builder) (r : SnapshotRef) : (b.rebuild r).Within T := hT.draws.rebuild b r

theorem derives : Derives T := ⟨hT.chains, hT.note, hT.archive⟩

theorem currentGraph (counted : Bool) (first second : SnapshotRef) :
    (Act.currentGraph counted first second).Within T :=
  hT.derives.currentGraph counted first second

end Renders

/-- A diagram is one of the graph that it was built for. -/
theorem Builder.rebuild_graph (b : Builder) (r : SnapshotRef) (w : World) :
    (b.rebuild r).Ends w (fun d _ => d.graph = r) fun _ _ => True := by
  unfold Builder.rebuild
  refine Act.ends_of_next fun _ w => Act.ends_of_next fun s w => Act.ends_of_next fun figures w =>
    Act.ends_of_next fun u w => Act.ends_of_next fun _ w => ?_
  split
  · exact Act.ends_throw.2 trivial
  · refine Act.ends_of_next fun _ w => Act.ends_of_next fun u w => Act.ends_of_next fun _ w => ?_
    exact Act.ends_pure.2 rfl

/-- The graph for two stored snapshots is what is shown for them. -/
theorem Act.currentGraph_shows {counted : Bool} {first second : SnapshotRef} {w : World}
    (hfirst : first < w.snapshots.length) :
    (Act.currentGraph counted first second).Ends w
      (fun graph w' => Selection.Shows w' ⟨first, second, graph⟩) fun _ _ => True := by
  unfold Act.currentGraph
  split
  · rename_i heq
    exact Act.ends_pure.2 ⟨hfirst, fun _ => rfl, fun hne => absurd heq hne⟩
  · rename_i hne
    unfold Act.makeDifference
    rw [Act.ends_bind, Act.ends_record, Act.ends_bind]
    refine Act.ends_snapshot (fun s hs => ?_) fun _ => trivial
    rw [Act.ends_bind]
    refine Act.ends_snapshot (fun t ht => ?_) fun _ => trivial
    rw [Act.ends_bind, Act.ends_get, Act.ends_bind, Act.ends_set, Act.ends_pure]
    refine ⟨?_, fun heq => absurd heq hne, fun _ => ?_⟩
    · rw [World.archive, List.length_append]
      exact Nat.lt_succ_self _
    · exact ⟨_, List.getElem?_concat_length, rfl⟩

namespace View

/-- The ways in which a change rewrites its view. -/
inductive Write (w : World) (view : View) : View → Prop where
  | refilter (hide : Value) {group : Group} (h : w.groups[view.group]? = some group) :
      Write w view (refiltered w hide group.members view)
  | move (window : Window) (h : window.FitsIn view.graphs.length) :
      Write w view { view with window }
  | select (s : Selection) (h : s.Shows w) : Write w view { view with selection := some s }
  | draw (d : Diagram) : Write w view { view with diagram := some d }
  | selectNodes (ids : NodeSet) :
      Write w view
        { view with
          selectedNodes := ids
          colors := Highlight.colors ids.toList (w.contents view.graphs) }
  | hideNodes (ids : NodeSet) : Write w view { view with hiddenNodes := ids }
  | toggle (ts : Toggles) : Write w view { view with toggles := ts }

/-- Two states of a view that have in common what no change of the view writes. -/
structure SameDispatch (view view' : View) : Prop where
  group : view'.group = view.group
  builder : view'.builder = view.builder
  counted : view'.counted = view.counted
  closed : view'.closed = view.closed
  busy : view'.busy = view.busy
  pending : view'.pending = view.pending

theorem Write.sameDispatch {w : World} {view view' : View} (h : Write w view view') :
    SameDispatch view view' := by
  cases h <;> exact ⟨rfl, rfl, rfl, rfl, rfl, rfl⟩

/-- Steps of a change of a view lead from one world to another. -/
inductive Steps (a : Announce) (v : ViewRef) : World → World → Prop where
  | refl (w : World) : Steps a v w w
  | write {w w' : World} (h : Steps a v w w') (f : View → View)
      (hf : ∀ view, w'.views[v]? = some view → Write w' view (f view)) :
      Steps a v w (w'.modifyView v f)
  | note {w w' : World} (h : Steps a v w w') (e : Event) (he : e.IsNote) :
      Steps a v w (w'.record e)
  | assign {w w' : World} (h : Steps a v w w') {r : SnapshotRef} {s : Snapshot}
      (hs : w'.snapshots[r]? = some s) (hblocks : s.blocks.isEmpty = true)
      (blocks : OrderedMap String Block) (log : List Log.Record) :
      Steps a v w (Builder.assignBlocks w' r blocks log)
  | archive {w w' : World} (h : Steps a v w w') {first second : SnapshotRef} {s t : Snapshot}
      (hs : w'.snapshots[first]? = some s) (ht : w'.snapshots[second]? = some t) :
      Steps a v w (w'.archive (Difference.ofPair w'.nextId first second s t))
  | count {w w' : World} (h : Steps a v w w') (n : Nat) :
      Steps a v w { w' with diagramCount := n }
  | announce {w w' w'' : World} (h : Steps a v w w') (n : Notice) (ha : a v n w' = some w'') :
      Steps a v w w''

variable {a : Announce} {v : ViewRef} {w : World}

theorem Steps.trans {w w' w'' : World} (h : Steps a v w w') (h' : Steps a v w' w'') :
    Steps a v w w'' := by
  induction h' with
  | refl => exact h
  | write _ f hf ih => exact ih.write f hf
  | note _ e he ih => exact ih.note e he
  | assign _ hs hblocks blocks log ih => exact ih.assign hs hblocks blocks log
  | archive _ hs ht ih => exact ih.archive hs ht
  | count _ n ih => exact ih.count n
  | announce _ n ha ih => exact ih.announce n ha

theorem chains_steps : Act.Chains (Steps a v) := ⟨Steps.refl, Steps.trans⟩

/-- Whatever the outcome of a step, `Steps` lead to the world after it. -/
abbrev Stepping (a : Announce) (v : ViewRef) {α : Type} (act : Act α) (w : World) : Prop :=
  act.Ends w (fun _ w' => Steps a v w w') fun _ w' => Steps a v w w'

/-- After steps of a change, further ones lead on from there. -/
theorem Steps.andThen {α : Type} {act : Act α} {w' : World} (h : Steps a v w w')
    (hact : Stepping a v act w') :
    act.Ends w' (fun _ w'' => Steps a v w w'') fun _ w'' => Steps a v w w'' :=
  hact.mono (fun _ _ h' => h.trans h') fun _ _ h' => h.trans h'

/-! ## Single steps -/

/-- A change that goes on after it has written fields of the view. -/
theorem steps_write {β : Type} {f : View → View} {next : PUnit → Act β}
    (hf : ∀ view, w.views[v]? = some view → Write w view (f view))
    (h : (next ()).Within (Steps a v)) : Stepping a v (Act.modifyView v f >>= next) w := by
  rw [Stepping, Act.ends_bind, Act.ends_modifyView]
  exact ((Steps.refl w).write f hf).andThen (h _)

theorem steps_modifyView {f : View → View}
    (hf : ∀ view, w.views[v]? = some view → Write w view (f view)) :
    Stepping a v (Act.modifyView v f) w :=
  Act.ends_modifyView.2 ((Steps.refl w).write f hf)

theorem steps_record {e : Event} (he : e.IsNote) : (Act.record e).Within (Steps a v) :=
  Act.within_modify fun w => (Steps.refl w).note e he

theorem steps_debug (logger text : String) : (Act.debug logger text).Within (Steps a v) :=
  steps_record trivial

theorem steps_announce (n : Notice) : (announce a v n).Within (Steps a v) :=
  Act.within_yield fun w _ h => (Steps.refl w).announce n h

/-- Resolving graphs and building diagrams takes steps of a change. -/
theorem renders_steps : Renders (Steps a v) where
  chains := chains_steps
  note w e he := (Steps.refl w).note e he
  assign w _ _ _ _ hs hblocks := (Steps.refl w).assign hs hblocks _ _
  archive w _ _ _ _ hs ht := (Steps.refl w).archive hs ht
  count w n := (Steps.refl w).count n

theorem steps_draw (graph : SnapshotRef) : (draw v graph).Within (Steps a v) := by
  unfold draw
  refine (Act.within_view chains_steps v).bind chains_steps fun view => ?_
  refine (renders_steps.rebuild _ _).bind chains_steps fun diagram => ?_
  exact fun w => steps_modifyView fun view _ => .draw diagram

/-! ## Resolving the window -/

theorem runIn_refilterWith {view : View} {group : Group} (hview : w.views[v]? = some view)
    (hgroup : w.groups[view.group]? = some group) (hide : Value) :
    (refilterWith v hide).runIn w =
      some (.ok (), w.modifyView v (refiltered w hide group.members)) := by
  unfold refilterWith
  rw [Act.runIn_bind_ok (Act.runIn_view hview), Act.runIn_bind_ok (Act.runIn_group hgroup),
    Act.runIn_bind_ok (Act.runIn_get w), Act.runIn_modifyView]

/-- The rule for refiltering: the visible snapshots are those of the group now. -/
theorem ends_refilterWith {hide : Value} {Q : Unit → World → Prop} {E : Failure → World → Prop}
    (hmissing : E .noSuchHandle w)
    (hrefiltered : ∀ view group, w.views[v]? = some view → w.groups[view.group]? = some group →
      Q () (w.modifyView v (refiltered w hide group.members))) :
    (refilterWith v hide).Ends w Q E := by
  unfold refilterWith
  rw [Act.ends_bind]
  refine Act.ends_view (fun view hview => ?_) fun _ => hmissing
  rw [Act.ends_bind]
  refine Act.ends_group (fun group hgroup => ?_) fun _ => hmissing
  rw [Act.ends_bind, Act.ends_get, Act.ends_modifyView]
  exact hrefiltered view group hview hgroup

theorem steps_refilterWith (hide : Value) : (refilterWith v hide).Within (Steps a v) := by
  intro w
  refine ends_refilterWith (Steps.refl w) fun view group hview hgroup => ?_
  refine (Steps.refl w).write _ fun view' hview' => ?_
  cases hview.symm.trans hview'
  exact .refilter hide hgroup

theorem steps_refilter : (refilter v).Within (Steps a v) :=
  (Act.within_view chains_steps v).bind chains_steps fun _ => steps_refilterWith _

/-- The rule for the window: one of its ends is not resolved, its graph is shown already, or it is
shown now. -/
theorem ends_showWindow {view : View} {Q : Bool → World → Prop} {E : Failure → World → Prop}
    (hview : w.views[v]? = some view)
    (hlow : ∀ e, w.firstGraph view = .error e → E e w)
    (hhigh : ∀ first e, w.firstGraph view = .ok first → w.secondGraph view = .error e → E e w)
    (hknown : ∀ first second, w.firstGraph view = .ok first → w.secondGraph view = .ok second →
      view.knows first second = true → Q false w)
    (hshown : ∀ first second, w.firstGraph view = .ok first → w.secondGraph view = .ok second →
      view.knows first second = false →
      (showEnds a v first second).Ends w (fun _ w' => Q true w') E) :
    (showWindow a v).Ends w Q E := by
  unfold showWindow
  rw [Act.ends_bind, Act.ends_of_ok (Act.runIn_view hview), Act.ends_bind, Act.ends_get,
    Act.ends_bind]
  refine Act.ends_ofExcept (fun first hfirst => ?_) hlow
  rw [Act.ends_bind]
  refine Act.ends_ofExcept (fun second hsecond => ?_) fun e => hhigh first e hfirst
  cases hknows : view.knows first second with
  | true => exact Act.ends_pure.2 (hknown first second hfirst hsecond hknows)
  | false =>
    exact (hshown first second hfirst hsecond hknows).bind fun _ _ h => Act.ends_pure.2 h

theorem ends_showWindow_of_ok {view : View} {first second : SnapshotRef} {Q : Bool → World → Prop}
    {E : Failure → World → Prop} (hview : w.views[v]? = some view)
    (hfirst : w.firstGraph view = .ok first) (hsecond : w.secondGraph view = .ok second)
    (hknown : view.knows first second = true → Q false w)
    (hshown : view.knows first second = false →
      (showEnds a v first second).Ends w (fun _ w' => Q true w') E) :
    (showWindow a v).Ends w Q E := by
  refine ends_showWindow hview (fun e he => nomatch hfirst.symm.trans he)
    (fun _ e _ he => nomatch hsecond.symm.trans he) (fun low high hlow hhigh hknows => ?_)
    fun low high hlow hhigh hknows => ?_
  · cases hfirst.symm.trans hlow
    cases hsecond.symm.trans hhigh
    exact hknown hknows
  · cases hfirst.symm.trans hlow
    cases hsecond.symm.trans hhigh
    exact hshown hknows

theorem steps_showEnds {first second : SnapshotRef} (hfirst : first < w.snapshots.length) :
    Stepping a v (showEnds a v first second) w := by
  unfold showEnds
  rw [Stepping, Act.ends_bind]
  refine Act.ends_view (fun view hview => ?_) fun _ => Steps.refl w
  rw [Act.ends_bind]
  refine Act.ends_record.2 (Steps.andThen ((Steps.refl w).note _ ?_) ?_)
  · exact trivial
  rw [Stepping, Act.ends_bind]
  refine Act.Ends.mono ((renders_steps.currentGraph _ _ _ _).and (Act.currentGraph_shows ?_))
    (fun graph w' h => ?_) fun _ _ h => h.1
  · exact hfirst
  refine h.1.andThen (steps_write (fun view _ => .select _ h.2) ?_)
  refine (steps_draw _).bind chains_steps fun _ => ?_
  exact (steps_announce _).bind chains_steps fun _ => steps_announce _

theorem steps_showWindow : (showWindow a v).Within (Steps a v) := by
  intro w
  cases hview : w.views[v]? with
  | none =>
    exact (Act.ends_of_error (Act.runIn_bind_error (Act.runIn_view_none hview))).2 (Steps.refl w)
  | some view =>
    refine ends_showWindow hview (fun _ _ => Steps.refl w) (fun _ _ _ _ => Steps.refl w)
      (fun _ _ _ _ _ => Steps.refl w) fun _ _ hfirst _ _ => ?_
    exact steps_showEnds (World.firstOf_lt hfirst)

theorem steps_windowMoved : (windowMoved a v).Within (Steps a v) := by
  unfold windowMoved
  refine steps_showWindow.bind chains_steps fun replaced => ?_
  exact (steps_announce _).bind chains_steps fun _ => Act.within_pure chains_steps _

theorem steps_announceKept (replaced : Bool) : (announceKept a v replaced).Within (Steps a v) := by
  unfold announceKept
  split
  · exact Act.within_pure chains_steps _
  · exact steps_announce _

/-- Showing the window stays within a relation if resolving graphs, replacing the selection and the
diagram, and announcing do. -/
theorem within_windowMoved {T : World → World → Prop} (hT : Renders T)
    (hshow : ∀ w (selection : View → Option Selection) (diagram : View → Option Diagram),
      T w (w.modifyView v fun view =>
        { view with selection := selection view, diagram := diagram view }))
    (ha : ∀ n, (announce a v n).Within T) : (windowMoved a v).Within T := by
  have hc := hT.chains
  unfold windowMoved showWindow showEnds draw
  refine Act.Within.bind hc ?_ fun replaced => ?_
  · refine (Act.within_view hc v).bind hc fun view => ?_
    refine (Act.within_get hc).bind hc fun u => ?_
    refine (Act.within_ofExcept hc _).bind hc fun first => ?_
    refine (Act.within_ofExcept hc _).bind hc fun second => ?_
    split
    · exact Act.within_pure hc _
    refine Act.Within.bind hc ?_ fun _ => Act.within_pure hc _
    refine (Act.within_view hc v).bind hc fun _ => ?_
    refine Act.Within.bind hc (hT.record trivial) fun _ => ?_
    refine (hT.currentGraph _ _ _).bind hc fun graph => ?_
    refine Act.Within.bind hc (Act.within_modify fun w => ?_) fun _ => ?_
    · exact hshow w (fun _ => some ⟨first, second, graph⟩) View.diagram
    refine Act.Within.bind hc ?_ fun _ => (ha _).bind hc fun _ => ha _
    refine (Act.within_view hc v).bind hc fun view => ?_
    refine (hT.rebuild _ _).bind hc fun diagram => ?_
    exact Act.within_modify fun w => hshow w View.selection fun _ => some diagram
  · exact (ha _).bind hc fun _ => Act.within_pure hc _

/-! ## Selecting -/

theorem steps_setWindow (low high : Int) : (setWindow a v low high).Within (Steps a v) := by
  intro w
  unfold setWindow
  rw [Act.ends_bind]
  refine Act.ends_view (fun view hview => ?_) fun _ => Steps.refl w
  rw [Act.ends_bind]
  refine Act.ends_ofExcept (fun window hwindow => ?_) fun _ _ => Steps.refl w
  refine steps_write (fun view' hview' => ?_) steps_windowMoved
  cases hview.symm.trans hview'
  exact .move window (Window.fitsIn_of_ofBounds hwindow)

theorem within_foreign {T : World → World → Prop} (hT : Act.Chains T) {α : Type}
    (s : SnapshotRef) : (foreign v s : Act α).Within T := by
  unfold foreign
  refine (Act.within_view hT v).bind hT fun view => ?_
  refine (Act.within_group hT _).bind hT fun group => ?_
  exact (Act.within_get hT).bind hT fun _ => Act.within_throw hT _

theorem steps_selectVisible (s : SnapshotRef) : (selectVisible a v s).Within (Steps a v) := by
  unfold selectVisible
  refine (Act.within_view chains_steps v).bind chains_steps fun view => ?_
  split
  · exact steps_setWindow _ _
  · exact within_foreign chains_steps s

/-- Looking for the anchor changes nothing. -/
theorem within_targetOf {T : World → World → Prop} (hT : Act.Chains T) (hide : Bool) :
    (targetOf v hide).Within T := by
  unfold targetOf anchorOf
  refine Act.Within.bind hT ?_ fun anchor => ?_
  · refine (Act.within_view hT v).bind hT fun view => ?_
    refine (Act.within_group hT _).bind hT fun group => ?_
    refine (Act.within_get hT).bind hT fun w => ?_
    refine (Act.within_ofExcept hT _).bind hT fun first => ?_
    split
    · exact Act.within_pure hT _
    · split
      · exact Act.within_pure hT _
      · exact Act.within_throw hT _
  · refine (Act.within_view hT v).bind hT fun view => ?_
    refine (Act.within_group hT _).bind hT fun group => ?_
    refine (Act.within_get hT).bind hT fun w => ?_
    split
    · exact Act.within_ofExcept hT _
    · exact Act.within_pure hT _

theorem steps_toggleDuplicates {select : SnapshotRef → Act Bool}
    (hselect : ∀ s, (select s).Within (Steps a v)) (hide : Bool) :
    (toggleDuplicates select a v hide).Within (Steps a v) := by
  unfold toggleDuplicates
  refine (Act.within_view chains_steps v).bind chains_steps fun view => ?_
  split
  · exact Act.within_pure chains_steps _
  · split
    · exact steps_refilterWith _
    · refine (within_targetOf chains_steps hide).bind chains_steps fun target => ?_
      refine (steps_refilterWith _).bind chains_steps fun _ => ?_
      exact (hselect target).bind chains_steps fun replaced => steps_announceKept replaced

theorem steps_showDuplicates : (showDuplicates a v).Within (Steps a v) := by
  unfold showDuplicates
  refine (Act.within_view chains_steps v).bind chains_steps fun view => ?_
  split
  · exact steps_toggleDuplicates steps_selectVisible false
  · exact Act.within_pure chains_steps _

theorem steps_locate (s : SnapshotRef) : (locate a v s).Within (Steps a v) := by
  unfold locate
  refine (Act.within_view chains_steps v).bind chains_steps fun view => ?_
  split
  · exact Act.within_pure chains_steps _
  · refine steps_showDuplicates.bind chains_steps fun _ => ?_
    refine (Act.within_view chains_steps v).bind chains_steps fun view => ?_
    split
    · exact Act.within_pure chains_steps _
    · exact within_foreign chains_steps s

theorem steps_selectGraph (s : SnapshotRef) : (selectGraph a v s).Within (Steps a v) :=
  (steps_locate s).bind chains_steps fun _ => steps_setWindow _ _

theorem steps_selectDifference (s : SnapshotRef) :
    (selectDifference a v s).Within (Steps a v) := by
  unfold selectDifference
  refine (steps_locate s).bind chains_steps fun i => ?_
  intro w
  rw [Act.ends_bind]
  refine Act.ends_view (fun view hview => ?_) fun _ => Steps.refl w
  rw [Act.ends_bind]
  refine Act.ends_ofExcept (fun window hwindow => ?_) fun _ _ => Steps.refl w
  refine steps_write (fun view' hview' => ?_) ?_
  · cases hview.symm.trans hview'
    exact .move window (Window.fitsIn_of_anchorTo hwindow)
  · exact steps_windowMoved.bind chains_steps fun _ => Act.within_pure chains_steps _

theorem steps_setHideDuplicates (hide : Bool) :
    (setHideDuplicates a v hide).Within (Steps a v) := by
  refine steps_toggleDuplicates (fun s => ?_) hide
  cases hide with
  | false => exact steps_selectVisible s
  | true => exact steps_selectGraph s

/-! ## Nodes and toggles -/

theorem steps_setSelectedNodes (ids : NodeSet) :
    (setSelectedNodes a v ids).Within (Steps a v) := by
  intro w
  unfold setSelectedNodes
  rw [Act.ends_bind, Act.ends_get]
  refine steps_write (fun view _ => .selectNodes ids) ?_
  exact (steps_announce _).bind chains_steps fun _ => steps_announce _

theorem steps_setHiddenNodes (ids : NodeSet) : (setHiddenNodes a v ids).Within (Steps a v) :=
  fun _ => steps_write (fun _ _ => .hideNodes ids) (steps_announce _)

theorem steps_showOnly (ids : NodeSet) : (showOnly a v ids).Within (Steps a v) := by
  unfold showOnly
  refine (Act.within_view chains_steps v).bind chains_steps fun view => ?_
  refine (Act.within_group chains_steps _).bind chains_steps fun group => ?_
  exact (Act.within_get chains_steps).bind chains_steps fun _ => steps_setHiddenNodes _

theorem steps_showFigures (ids : List Int) : (showFigures a v ids).Within (Steps a v) :=
  (Act.within_view chains_steps v).bind chains_steps fun _ => steps_setHiddenNodes _

theorem steps_setToggle (t : Toggle) (on : Bool) : (setToggle a v t on).Within (Steps a v) := by
  unfold setToggle
  refine (Act.within_view chains_steps v).bind chains_steps fun view => ?_
  split
  · exact fun w => steps_write (fun _ _ => .toggle _) (steps_announce _)
  · exact Act.within_pure chains_steps _

/-! ## Following a group or a filter chain -/

theorem steps_refilterShowing : (refilterShowing v).Within (Steps a v) := by
  unfold refilterShowing
  refine steps_refilter.bind chains_steps fun _ => ?_
  refine (Act.within_view chains_steps v).bind chains_steps fun view => ?_
  split
  · refine (Act.within_group chains_steps _).bind chains_steps fun group => ?_
    exact (steps_debug _ _).bind chains_steps fun _ => steps_refilterWith _
  · exact Act.within_pure chains_steps _

theorem steps_keepOn (low high : Option SnapshotRef) :
    (keepOn v low high).Within (Steps a v) := by
  intro w
  unfold keepOn
  rw [Act.ends_bind]
  refine Act.ends_view (fun view hview => ?_) fun _ => Steps.refl w
  split
  · rw [Act.ends_bind]
    refine Act.ends_ofExcept (fun window hwindow => ?_) fun _ _ => Steps.refl w
    refine steps_modifyView fun view' hview' => ?_
    cases hview.symm.trans hview'
    exact .move window (Window.fitsIn_of_ofBounds hwindow)
  · exact Act.ends_pure.2 (Steps.refl w)

/-- What follows a change of the group when the visible snapshots are computed. -/
theorem steps_followOn (lowTarget highTarget : Option SnapshotRef) : Act.Within (Steps a v) (do
    keepOn v lowTarget highTarget
    announceKept a v (← windowMoved a v)
    setSelectedNodes a v (← Act.view v).selectedNodes) := by
  refine (steps_keepOn _ _).bind chains_steps fun _ => ?_
  refine steps_windowMoved.bind chains_steps fun replaced => ?_
  refine (steps_announceKept _).bind chains_steps fun _ => ?_
  exact (Act.within_view chains_steps v).bind chains_steps fun _ => steps_setSelectedNodes _

theorem steps_groupChanged : (groupChanged a v).Within (Steps a v) := by
  unfold groupChanged
  refine (Act.within_view chains_steps v).bind chains_steps fun before => ?_
  exact steps_refilterShowing.bind chains_steps fun _ => steps_followOn _ _

/-- A change of a filter chain is followed within a relation if drawing and announcing are within
it. -/
theorem filterChainChanged_within {T : World → World → Prop} (hT : Act.Chains T)
    (hdraw : ∀ graph, (draw v graph).Within T)
    (hannounce : (announce a v .diagramChanged).Within T) : (filterChainChanged a v).Within T := by
  unfold filterChainChanged
  refine (Act.within_view hT v).bind hT fun view => ?_
  split
  · exact Act.within_throw hT _
  · exact (hdraw _).bind hT fun _ => hannounce

theorem steps_filterChainChanged : (filterChainChanged a v).Within (Steps a v) :=
  filterChainChanged_within chains_steps steps_draw (steps_announce _)

/-- A change of a view takes steps of the view only. -/
theorem steps_perform (m : Mutation) : (perform a v m).Within (Steps a v) := by
  have ignoring {α : Type} {act : Act α} (h : act.Within (Steps a v)) :
      (do let _ ← act : Act Unit).Within (Steps a v) :=
    h.bind chains_steps fun _ => Act.within_pure chains_steps _
  cases m with
  | selectGraph s => exact ignoring (steps_selectGraph s)
  | selectDifference s => exact steps_selectDifference s
  | setWindow low high => exact ignoring (steps_setWindow low high)
  | setHideDuplicates hide => exact steps_setHideDuplicates hide
  | setSelectedNodes ids => exact steps_setSelectedNodes ids
  | setHiddenNodes ids => exact steps_setHiddenNodes ids
  | showOnly ids => exact steps_showOnly ids
  | showFigures ids => exact steps_showFigures ids
  | setToggle t on => exact steps_setToggle t on
  | groupChanged => exact steps_groupChanged
  | filterChainChanged => exact steps_filterChainChanged

end View

end SnapshotViewer
