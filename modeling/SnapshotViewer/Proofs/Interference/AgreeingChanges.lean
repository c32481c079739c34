import SnapshotViewer.Proofs.Interference.AgreeingWorlds

/-!
# Twin worlds in step

A change of a view that is the same in two worlds is carried out in both of them in lockstep, with
the listeners that hear of it, as deep as these can be called within each other in either world.
`World.InStep` relates the worlds while the change is under way: what the listeners ask of the view
then waits in both worlds. Main statement: `World.Twins.perform`.
-/

namespace SnapshotViewer

namespace World

/-- No listener can be called any more. -/
def Spent (w : World) : Prop := ∀ l ∈ w.listeners, l.remaining = 0

/-- The view takes changes, and one is under way. -/
def Engaged (w : World) (v : ViewRef) : Prop :=
  ∃ view group, w.views[v]? = some view ∧ view.busy = true ∧ view.closed = false ∧
    w.groups[view.group]? = some group ∧ group.members ≠ []

/-- Twin worlds with a change of the view under way. Listeners can be called within each other up to
the depth `d` in the first world and up to the depth `d'` in the second one. The connections are
`cs`. -/
structure InStep (d d' n : Nat) (v : ViewRef) (cs : List Connection) (w u : World) : Prop where
  twins : Twins n v w u
  connections : w.connections = cs
  self : w.KeepsToItself v
  engaged : w.Engaged v
  spent : d = 0 → w.Spent
  spent' : d' = 0 → u.Spent

variable {d d' n : Nat} {v : ViewRef} {cs : List Connection} {w u w' u' : World} {x y : View}
  {m : Mutation}

/-- Lists are run through in lockstep. -/
theorem foldlM_lockstep {α : Type} {T : World → World → Prop} {f g : World → α → Option World}
    {l : List α} (hf : ∀ x ∈ l, ∀ w u w', T w u → f w x = some w' → ∃ u', g u x = some u' ∧ T w' u')
    (h : T w u) (hrun : l.foldlM f w = some w') : ∃ u', l.foldlM g u = some u' ∧ T w' u' := by
  induction l generalizing w u with
  | nil =>
    cases hrun
    exact ⟨u, rfl, h⟩
  | cons x rest ih =>
    rw [List.foldlM_cons] at hrun
    obtain ⟨w₁, hw₁, hrest⟩ := Option.bind_eq_some_iff.1 hrun
    obtain ⟨u₁, hu₁, h₁⟩ := hf x List.mem_cons_self w u w₁ h hw₁
    obtain ⟨u', hu', h'⟩ := ih (fun y hy => hf y (List.mem_cons_of_mem x hy)) h₁ hrest
    refine ⟨u', ?_, h'⟩
    rw [List.foldlM_cons, hu₁]
    exact hu'

namespace InStep

variable (h : InStep d d' n v cs w u)

include h

/-- The worlds stay in step if they stay twins, and the view keeps to what it is engaged in. -/
theorem of_twins (htwins : Twins n v w' u') (hconnections : w'.connections = w.connections)
    (hgroups : w'.groups = w.groups) (hlisteners : w'.listeners = w.listeners)
    (hlisteners' : u'.listeners = u.listeners) (hview : ∀ view, w.views[v]? = some view →
      ∃ view', w'.views[v]? = some view' ∧ view'.group = view.group ∧
        view'.builder = view.builder ∧ view'.closed = view.closed ∧ view'.busy = view.busy) :
    InStep d d' n v cs w' u' := by
  obtain ⟨view, group, hfound, hbusy, hopen, hgroup, hmembers⟩ := h.engaged
  obtain ⟨view', hfound', hsame, hbuilder, hclosed, hbusy'⟩ := hview view hfound
  obtain ⟨view₁, hfound₁, hscheduler⟩ := h.self.view
  cases hfound.symm.trans hfound₁
  refine ⟨htwins, hconnections.trans h.connections,
    ⟨⟨view', hfound', by rw [hbuilder, hscheduler]⟩, ?_⟩,
    ⟨view', group, hfound', hbusy'.trans hbusy, hclosed.trans hopen, ?_, hmembers⟩,
    fun hd => ?_, fun hd => ?_⟩
  · rw [hearers, hconnections, hlisteners]
    exact h.self.scripts
  · rw [hgroups, hsame, hgroup]
  · rw [Spent, hlisteners]
    exact h.spent hd
  · rw [Spent, hlisteners']
    exact h.spent' hd

/-- The worlds stay in step if they stay twins and no view is rewritten. -/
theorem of_views (htwins : Twins n v w' u') (hconnections : w'.connections = w.connections)
    (hgroups : w'.groups = w.groups) (hlisteners : w'.listeners = w.listeners)
    (hlisteners' : u'.listeners = u.listeners) (hviews : w'.views = w.views) :
    InStep d d' n v cs w' u' :=
  h.of_twins htwins hconnections hgroups hlisteners hlisteners'
    fun view hview => ⟨view, hviews ▸ hview, rfl, rfl, rfl, rfl⟩

theorem recordAll {es es' : List Event} (hes : voice n v es' = voice n v es) :
    InStep d d' n v cs (w.recordAll es) (u.recordAll es') :=
  h.of_views (h.twins.recordAll hes) rfl rfl rfl rfl rfl

theorem record {e e' : Event} (he : e'.voice n v = e.voice n v) :
    InStep d d' n v cs (w.record e) (u.record e') :=
  h.of_views (h.twins.record he) rfl rfl rfl rfl rfl

theorem modifyView {f f' : View → View} (hf : ∀ x y, w.views[v]? = some x → u.views[v]? = some y →
    SameView n w.snapshots u.snapshots x y →
      SameView n w.snapshots u.snapshots (f x) (f' y))
    (hkept : ∀ x, w.views[v]? = some x → (f x).group = x.group ∧ (f x).builder = x.builder ∧
      (f x).closed = x.closed ∧ (f x).busy = x.busy) :
    InStep d d' n v cs (w.modifyView v f) (u.modifyView v f') :=
  h.of_twins (h.twins.modifyView hf) rfl rfl rfl rfl
    fun view hview => ⟨f view, views_modifyView_self hview f, hkept view hview⟩

/-! ## Listeners -/

/-- The change that is asked for while another one is under way waits in both worlds. -/
theorem mutate (a a' : View.Announce) {m : Mutation} (hm : ∀ r, m.names r → r < n) :
    (View.mutate a v m).Matches (View.mutate a' v m) w u (fun _ _ => InStep d d' n v cs)
      (InStep d d' n v cs) := by
  obtain ⟨view, group, hfound, hbusy, hopen, hgroup, hmembers⟩ := h.engaged
  obtain ⟨x, y, hx, hy, hview⟩ := h.twins.view
  cases hfound.symm.trans hx
  obtain ⟨r, hrun⟩ := View.mutate_busy (a := a) (m := m) hfound hopen hgroup hmembers hbusy
  obtain ⟨r', hrun'⟩ := View.mutate_busy (a := a') (m := m) hy (hview.closed.trans hopen)
    (by rw [hview.group, h.twins.groups, hgroup]) hmembers (hview.busy.trans hbusy)
  refine Act.matches_of_ok hrun hrun' ?_
  have hlogged : InStep d d' n v cs (w.record (.logged r)) (u.record (.logged r')) := h.record rfl
  have hnoted : InStep d d' n v cs ((w.record (.logged r)).record (.deferred v m))
      ((u.record (.logged r')).record (.deferred v m)) := hlogged.record rfl
  refine hnoted.modifyView (fun x y _ _ hview => ⟨?_, hview.graphs, fun m' hm' => ?_, hview.shown⟩)
    fun x _ => ⟨rfl, rfl, rfl, rfl⟩
  · exact congrArg (fun view : View => { view with pending := view.pending ++ [m] }) hview.same
  · obtain hm' | hm' := List.mem_append.1 hm'
    · exact hview.waiting m' hm'
    · rwa [List.mem_singleton.1 hm']

end InStep

/-- The same change is asked for in twin worlds. -/
theorem Twins.requested (h : Twins n v w u) {c : Command} (hc : c.asks v = true) :
    c.requested.Matches c.requested w u
      (fun m m' w' u' => m' = m ∧ w' = w ∧ u' = u ∧ ∀ s, m.names s → s < n)
      fun w' u' => w' = w ∧ u' = u := by
  have hpooled (place : Nat) : (Act.pooled place).Matches (Act.pooled place) w u
      (fun s s' w' u' => s' = s ∧ w' = w ∧ u' = u ∧ s < n) fun w' u' => w' = w ∧ u' = u := by
    have hpool : u.pool = w.pool := h.read World.pool fun _ _ _ _ _ _ => rfl
    refine Act.matches_bind_ok (Act.runIn_get w) (Act.runIn_get u) ?_
    rw [hpool]
    cases hs : w.pool[place]? with
    | none => exact Act.matches_throw ⟨rfl, rfl⟩
    | some s => exact Act.matches_pure ⟨rfl, rfl, rfl, h.pool s (List.mem_of_getElem? hs)⟩
  cases c with
  | selectGraph _ place | selectDifference _ place =>
    refine (hpooled place).bind fun s s' w₁ u₁ ⟨hs, hw, hu, hlt⟩ => Act.matches_pure ?_
    subst hs hw hu
    refine ⟨rfl, rfl, rfl, fun r hr => ?_⟩
    cases hr
    exact hlt
  | showFigures _ ids =>
    cases beq_iff_eq.1 hc
    obtain ⟨x, y, hx, hy, hview⟩ := h.view
    refine Act.matches_bind_ok (Act.runIn_view hx) (Act.runIn_view hy) (Act.matches_pure ?_)
    rw [View.figures_of_upTo hview.same]
    exact ⟨rfl, rfl, rfl, fun _ hs => hs.elim⟩
  | setFlag _ flag on =>
    cases flag <;> exact Act.matches_pure ⟨rfl, rfl, rfl, fun _ hs => hs.elim⟩
  | setWindow | setHideDuplicates | selectNodes | hideNodes | showOnly =>
    exact Act.matches_pure ⟨rfl, rfl, rfl, fun _ hs => hs.elim⟩
  | _ => cases hc

/-- A command that asks the view for a change comes to the same in twin worlds if the change
does. -/
theorem Twins.execute (h : Twins n v w u) {T : World → World → Prop} (hT : T w u) {R R' : Respond}
    (hmutate : ∀ m : Mutation, (∀ r, m.names r → r < n) →
      (View.mutate (announceView R) v m).Matches (View.mutate (announceView R') v m) w u
        (fun _ _ => T) T) {c : Command} (hc : c.asks v = true) {r : Except Failure Reply}
    (hrun : (c.execute R).runIn w = some (r, w')) :
    ∃ u', (c.execute R').runIn u = some (r, u') ∧ T w' u' := by
  have hmatches : (c.execute R).Matches (c.execute R') w u
      (fun x y w' u' => y = x ∧ T w' u') T := by
    rw [Command.execute_asks hc R, Command.execute_asks hc R']
    refine Act.Matches.bind (E := T) (Act.Ends.mono (h.requested hc) (fun _ _ h => h)
      fun _ _ ⟨u', hu', hw, hu⟩ => ⟨u', hu', hw ▸ hu ▸ hT⟩)
      fun m m' w₁ u₁ ⟨hm, hw, hu, hnames⟩ => ?_
    subst hm hw hu
    exact (hmutate _ hnames).bind fun _ _ _ _ h => Act.matches_pure ⟨rfl, h⟩
  cases r with
  | ok x =>
    obtain ⟨_, u', hu', rfl, h'⟩ := hmatches.1 x w' hrun
    exact ⟨u', hu', h'⟩
  | error e => exact hmatches.2 e w' hrun

/-- A listener that is not there or has no calls left does nothing. -/
theorem respondWithin_spent {depth : Nat} {k : ListenerRef}
    (h : ∀ l, w.listeners[k]? = some l → l.remaining = 0) : respondWithin depth k w = some w := by
  cases depth with
  | zero => rfl
  | succ depth =>
    change callListener (performWithin depth) k w = some w
    unfold callListener
    cases hl : w.listeners[k]? with
    | none => rfl
    | some l =>
      obtain ⟨remaining, script⟩ := l
      cases h _ hl
      rfl

/-- A listener that has calls left uses one up and carries out its script. -/
theorem respondWithin_called {depth left : Nat} {k : ListenerRef} {l : Listener}
    (hl : w.listeners[k]? = some l) (hleft : l.remaining = left + 1) :
    respondWithin (depth + 1) k w = playScript (performWithin depth) k
      { w with listeners := w.listeners.set k { l with remaining := left } } l.script := by
  obtain ⟨remaining, script⟩ := l
  cases hleft
  change callListener (performWithin depth) k w = _
  unfold callListener
  rw [hl]

namespace InStep

/-- A command of a listener comes to an end in both worlds. -/
theorem execute (h : InStep d d' n v cs w u) (R R' : Respond) {c : Command}
    (hc : c.keepsTo v = true) {r : Except Failure Reply}
    (hrun : (c.execute R).runIn w = some (r, w')) :
    ∃ r' u', (c.execute R').runIn u = some (r', u') ∧ InStep d d' n v cs w' u' := by
  obtain hasks | hlooks := Bool.or_eq_true_iff.1 hc
  · exact ⟨r, h.twins.execute h (fun m hm => h.mutate _ _ hm) hasks hrun⟩
  · obtain ⟨r₁, hr₁⟩ := Command.execute_looks hlooks R w
    obtain ⟨r', hr'⟩ := Command.execute_looks hlooks R' u
    cases hrun.symm.trans hr₁
    exact ⟨r', u, hr', h⟩

/-- Whoever hears of the view responds in both worlds, or in none. -/
theorem respond (h : InStep d d' n v cs w u) {k : ListenerRef} (hk : k ∈ w.hearers v)
    (hrun : respondWithin d k w = some w') :
    ∃ u', respondWithin d' k u = some u' ∧ InStep d d' n v cs w' u' := by
  have hsame := h.twins.listeners k hk
  by_cases hspent : ∀ l, w.listeners[k]? = some l → l.remaining = 0
  · rw [respondWithin_spent hspent] at hrun
    cases hrun
    exact ⟨u, respondWithin_spent fun l hl => hspent l (hsame ▸ hl), h⟩
  obtain ⟨l, hl⟩ := Classical.not_forall.1 hspent
  obtain ⟨hl, hne⟩ := Classical.not_imp.1 hl
  have hl' : u.listeners[k]? = some l := hsame.trans hl
  obtain ⟨m, hm⟩ := Nat.exists_eq_succ_of_ne_zero hne
  obtain ⟨e, rfl⟩ := Nat.exists_eq_succ_of_ne_zero fun hd =>
    hne (h.spent hd l (List.mem_of_getElem? hl))
  obtain ⟨e', rfl⟩ := Nat.exists_eq_succ_of_ne_zero fun hd =>
    hne (h.spent' hd l (List.mem_of_getElem? hl'))
  have hscript : ∀ c ∈ l.script, c.keepsTo v = true :=
    h.self.scripts k hk l.script (by rw [List.getElem?_map, hl]; rfl)
  have hcalled : InStep (e + 1) (e' + 1) n v cs
      { w with listeners := w.listeners.set k { l with remaining := m } }
      { u with listeners := u.listeners.set k { l with remaining := m } } := by
    refine ⟨h.twins.called hl hk m, h.connections, ⟨h.self.view, ?_⟩, h.engaged, by simp, by simp⟩
    dsimp only
    rw [scripts_set hl]
    exact h.self.scripts
  rw [respondWithin_called hl hm] at hrun
  rw [respondWithin_called hl' hm]
  refine foldlM_lockstep (fun c hc w u w' h hw' => ?_) hcalled hrun
  obtain ⟨⟨r, w₁⟩, hw₁, rfl⟩ := Option.map_eq_some_iff.1 hw'
  rw [performWithin_eq] at hw₁
  obtain ⟨r', u₁, hu₁, h₁⟩ := h.execute _ (respondWithin e') (hscript c hc) hw₁
  refine ⟨u₁.record (.performed k c r' u₁.glimpses), ?_, h₁.record rfl⟩
  rw [performWithin_eq, hu₁]
  rfl

/-! ## Announcements -/

theorem announced (h : InStep d d' n v cs w u) (notice : Notice) :
    InStep d d' n v cs (w.announced v notice) (u.announced v notice) := by
  obtain ⟨x, y, hx, hy, hview⟩ := h.twins.view
  rw [announced_of_found hx, announced_of_found hy]
  refine h.recordAll ?_
  simp [voice, Event.voice, h.twins.reading hview]

/-- What the view announces is heard in both worlds. -/
theorem announces (h : InStep d d' n v cs w u) (notice : Notice)
    (hrun : announceView (respondWithin d) v notice w = some w') :
    ∃ u', announceView (respondWithin d') v notice u = some u' ∧ InStep d d' n v cs w' u' := by
  rw [announceView_eq] at hrun ⊢
  rw [h.twins.connections, h.connections] at *
  refine foldlM_lockstep (fun c hc w u w' h hw' => ?_) (h.announced notice) hrun
  obtain ⟨hc, hsignal⟩ := List.mem_filter.1 hc
  unfold deliver at hw' ⊢
  rw [h.twins.connections]
  split at hw'
  · rename_i hconnected
    rw [if_pos hconnected]
    cases hslot : c.slot with
    | listener k =>
      rw [hslot] at hw'
      exact h.respond (mem_hearers (h.connections ▸ hc) (beq_iff_eq.1 hsignal) hslot) hw'
    | follow a =>
      rw [hslot] at hw'
      cases hw'
      exact ⟨u, rfl, h⟩
  · rename_i hconnected
    rw [if_neg hconnected]
    cases hw'
    exact ⟨u, rfl, h⟩

/-! ## Drawing -/

/-- The graph for two snapshots is the same in both worlds. -/
theorem currentGraph (h : InStep d d' n v cs w u) (counted : Bool) {first second : SnapshotRef}
    (hfirst : first < n) (hsecond : second < n) :
    (Act.currentGraph counted first second).Matches (Act.currentGraph counted first second) w u
      (fun g g' w' u' => InStep d d' n v cs w' u' ∧ Pair n w'.snapshots u'.snapshots g g')
      (InStep d d' n v cs) := by
  unfold Act.currentGraph
  split
  · exact Act.matches_pure ⟨h, h.twins.pair hfirst⟩
  obtain ⟨s, t, hs, ht, hst⟩ := h.twins.snapshots first hfirst
  obtain ⟨s', t', hs', ht', hst'⟩ := h.twins.snapshots second hsecond
  have hcompared : InStep d d' n v cs (w.record (.compared first second counted))
      (u.record (.compared first second counted)) := h.record rfl
  have hdifference : (Difference.ofPair u.nextId first second t t').Counterpart
      (Difference.ofPair w.nextId first second s s') :=
    .inl (Difference.ofPair_becomes hst hst' ..)
  obtain ⟨htwins, hpair⟩ := hcompared.twins.archive hdifference
  refine Act.matches_bind_ok (Act.runIn_record _ w) (Act.runIn_record _ u) ?_
  unfold Act.makeDifference
  refine Act.matches_bind_ok (Act.runIn_snapshot hs) (Act.runIn_snapshot ht) ?_
  refine Act.matches_bind_ok (Act.runIn_snapshot hs') (Act.runIn_snapshot ht') ?_
  refine Act.matches_bind_ok (Act.runIn_get _) (Act.runIn_get _) ?_
  refine Act.matches_bind_ok (Act.runIn_set _ _) (Act.runIn_set _ _) ?_
  exact Act.matches_pure ⟨hcompared.of_views htwins rfl rfl rfl rfl rfl, hpair⟩

theorem builds (b : Builder) :
    b.Parallel (fun _ _ => True) (InStep d d' n v cs) where
  paint figures h := h.twins.read (fun z => z.paint b.chain (some b.sequenceChain) figures)
    fun _ _ _ _ _ _ => rfl
  note _ _ _ h := h.record rfl
  counts _ := trivial
  count h := h.of_views (h.twins.count _ _) rfl rfl rfl rfl rfl

/-- The graph that is selected is drawn alike in both worlds. -/
theorem draw (h : InStep d d' n v cs w u) {g g' : SnapshotRef} (hx : w.views[v]? = some x)
    (hy : u.views[v]? = some y) (hg : x.graph? = some g) (hg' : y.graph? = some g') :
    (View.draw v g).Matches (View.draw v g') w u (fun _ _ => InStep d d' n v cs)
      (InStep d d' n v cs) := by
  obtain ⟨x', y', hx', hy', hview⟩ := h.twins.view
  cases hx.symm.trans hx'
  cases hy.symm.trans hy'
  obtain ⟨x', hx', hb⟩ := h.self.view
  cases hx.symm.trans hx'
  have hpair := hview.shown g g' hg hg'
  obtain ⟨s, t, hs, ht, hst⟩ := hpair.stored
  have hensure : (x.builder.ensureBlocks g).Matches (x.builder.ensureBlocks g') w u
      (fun _ _ w' u' => InStep d d' n v cs w' u' ∧
        Option.Rel Builder.LooksLike w'.snapshots[g]? u'.snapshots[g']?)
      (InStep d d' n v cs) := by
    obtain ⟨es, hes, hrun⟩ := Builder.runIn_ensureBlocks_byComponent hb hs
    obtain ⟨es', hes', hrun'⟩ := Builder.runIn_ensureBlocks_byComponent hb ht
    have hsettled : InStep d d' n v cs (w.settleAt g) (u.settleAt g') :=
      h.of_views (h.twins.settleAt hx hy hg hg') rfl rfl rfl rfl rfl
    refine Act.matches_of_ok hrun hrun' ⟨hsettled.recordAll ?_, ?_⟩
    · rw [voice_of_elsewhere fun e he => (hes e he).1.not_regards v,
        voice_of_elsewhere fun e he => (hes' e he).1.not_regards v]
    · have hstored {w : World} {r : SnapshotRef} {s : Snapshot} {es : List Event}
          (hs : w.snapshots[r]? = some s) :
          ((w.settleAt r).recordAll es).snapshots[r]? = some s.settled := by
        simp [World.recordAll, World.settleAt, modifySnapshot, hs]
      rw [hstored hs, hstored ht]
      exact .some hst.looksLike
  unfold View.draw
  refine Act.matches_bind_ok (Act.runIn_view hx) (Act.runIn_view hy) ?_
  rw [hview.builder]
  refine ((builds x.builder).rebuild hensure).bind fun e e' w₁ u₁ hbuilt => ?_
  obtain ⟨h₁, _, he', he⟩ := hbuilt
  have hdiagram : e'.upTo n = e.upTo n := by
    rw [he', Diagram.upTo, Diagram.upTo, he]
    dsimp only
    rw [hpair.handle]
  refine Act.matches_of_ok (Act.runIn_modifyView ..) (Act.runIn_modifyView ..) ?_
  refine h₁.modifyView (fun x y _ _ hview => ⟨?_, hview.graphs, hview.waiting, hview.shown⟩)
    fun _ _ => ⟨rfl, rfl, rfl, rfl⟩
  have hdrawn (view : View) (d : Diagram) : { view with diagram := some d }.upTo n =
      { view.upTo n with diagram := some (d.upTo n) } := rfl
  rw [hdrawn, hdrawn, hdiagram, hview.same]

/-- The graph for two ends is shown alike in both worlds. -/
theorem present (h : InStep d d' n v cs w u) (counted : Bool) {first second : SnapshotRef}
    (hfirst : first < n) (hsecond : second < n) :
    (View.present v counted first second).Matches (View.present v counted first second) w u
      (fun _ _ => InStep d d' n v cs) (InStep d d' n v cs) := by
  unfold View.present
  refine (h.currentGraph counted hfirst hsecond).bind fun g g' w u ⟨h, hpair⟩ => ?_
  refine Act.matches_bind_ok (Act.runIn_modifyView ..) (Act.runIn_modifyView ..) ?_
  obtain ⟨x, y, hx, hy, -⟩ := h.twins.view
  have hselected : InStep d d' n v cs
      (w.modifyView v fun view => { view with selection := some { first, second, graph := g } })
      (u.modifyView v fun view =>
        { view with selection := some { first, second, graph := g' } }) := by
    refine h.modifyView (fun x y _ _ hview => ⟨?_, hview.graphs, hview.waiting,
      fun p p' hp hp' => ?_⟩) fun _ _ => ⟨rfl, rfl, rfl, rfl⟩
    · have hselect (view : View) (s : Selection) : { view with selection := some s }.upTo n =
          { view.upTo n with selection := some (s.upTo n) } := rfl
      rw [hselect, hselect, hview.same, Selection.upTo, Selection.upTo]
      dsimp only
      rw [hpair.handle]
    · cases hp
      cases hp'
      exact hpair
  exact hselected.draw (views_modifyView_self hx _) (views_modifyView_self hy _) rfl rfl

end InStep

end World

namespace View

open World

variable {d d' n : Nat} {v : ViewRef} {cs : List Connection} {w u w' u' : World} {x y : View}

/-! ## Changes -/

theorem parallel_inStep :
    Parallel (announceView (respondWithin d)) (announceView (respondWithin d')) v (· < n)
      (InStep d d' n v cs) where
  agrees h := h.twins.agrees
  views h := by
    obtain ⟨x, y, hx, hy, hview⟩ := h.twins.view
    rw [hx, hy]
    exact .some hview.alike
  write {w u x y f f'} h hx hy hf hf' halike := by
    refine h.modifyView (fun x' y' hx' hy' hview => ?_) fun x' hx' => ?_
    · cases hx.symm.trans hx'
      cases hy.symm.trans hy'
      refine ⟨halike.upTo ?_ ?_ ?_ ?_, halike.graphs, ?_, ?_⟩
      · rw [hf.selection, hf'.selection]
        exact (congrArg View.selection hview.same :)
      · rw [hf.diagram, hf'.diagram]
        exact (congrArg View.diagram hview.same :)
      · rw [hf.busy, hf'.busy]
        exact hview.busy
      · rw [hf.pending, hf'.pending]
        exact hview.pending
      · rw [hf.pending]
        exact hview.waiting
      · rw [graph?, graph?, hf.selection, hf'.selection]
        exact hview.shown
    · cases hx.symm.trans hx'
      exact ⟨hf.group, hf.builder, hf.closed, hf.busy⟩
  logged _ h := h.record rfl
  announce notice _ _ _ h hrun := h.announces notice hrun
  present h hx hfirst hsecond := by
    obtain ⟨x', y, hx', -, hview⟩ := h.twins.view
    cases hx.symm.trans hx'
    exact h.present _ (h.twins.agrees.firstOf_known hview.graphs hfirst)
      (h.twins.agrees.secondOf_known hview.graphs hsecond)
  rechained := by
    intro w u h
    obtain ⟨x, y, hx, hy, hview⟩ := h.twins.view
    unfold filterChainChanged
    refine Act.matches_bind_ok (Act.runIn_view hx) (Act.runIn_view hy) ?_
    obtain ⟨hg, hg'⟩ | ⟨g, g', hg, hg', -⟩ := hview.selected
    · rw [hg, hg']
      exact Act.matches_throw h
    · rw [hg, hg']
      refine (h.draw hx hy hg hg').bind fun _ _ w u h => Act.ends_yield.2 fun w' hw' => ?_
      obtain ⟨u', hu', h'⟩ := h.announces .diagramChanged hw'
      refine ⟨(), u', ?_, rfl, h'⟩
      rw [announce, Act.runIn_yield, hu']
      rfl

/-- The next change is taken from the queue in both worlds. -/
theorem takeWaiting_inStep (h : InStep d d' n v cs w u) :
    (takeWaiting v).Matches (takeWaiting v) w u (fun next next' w' u' => next' = next ∧
      (∀ m, next = some m → ∀ r, m.names r → r < n) ∧ InStep d d' n v cs w' u')
      (InStep d d' n v cs) := by
  obtain ⟨x, group, hx, hbusy, hopen, hgroup, hmembers⟩ := h.engaged
  obtain ⟨x', y, hx', hy, hview⟩ := h.twins.view
  cases hx.symm.trans hx'
  unfold takeWaiting
  refine Act.matches_bind_ok (Act.runIn_view hx) (Act.runIn_view hy) ?_
  rw [hview.pending]
  cases hwaiting : x.pending with
  | nil => exact Act.matches_pure ⟨rfl, by simp, h⟩
  | cons m rest =>
    have hnames := hview.waiting
    rw [hwaiting] at hnames
    refine Act.matches_bind_ok (Act.runIn_modifyView ..) (Act.runIn_modifyView ..) ?_
    have htaken : InStep d d' n v cs (w.modifyView v fun view => { view with pending := rest })
        (u.modifyView v fun view => { view with pending := rest }) := by
      refine h.modifyView (fun x' y' hx' _ hview => ⟨?_, hview.graphs, ?_, hview.shown⟩)
        fun _ _ => ⟨rfl, rfl, rfl, rfl⟩
      · exact congrArg (fun view : View => { view with pending := rest }) hview.same
      · exact fun m' hm' => hnames m' (List.mem_cons_of_mem m hm')
    have hidle {w : World} {x : View} (hx : w.views[v]? = some x)
        (hgroup : w.groups[x.group]? = some group) (hopen : x.closed = false) :
        (isIdle v).runIn (w.modifyView v fun view => { view with pending := rest }) = some
          (.ok false, w.modifyView v fun view => { view with pending := rest }) := by
      have hfound := views_modifyView_self hx fun view => { view with pending := rest }
      rw [runIn_isIdle hfound hgroup]
      simp [hopen, hmembers]
    refine Act.matches_bind_ok (hidle hx hgroup hopen)
      (hidle hy (by rw [hview.group, h.twins.groups, hgroup]) (hview.closed.trans hopen)) ?_
    refine Act.matches_pure ⟨rfl, fun m' hm' => ?_, htaken⟩
    cases hm'
    exact hnames m List.mem_cons_self

/-- A change is carried out in both worlds, with all that come to wait meanwhile. -/
theorem runChange_inStep (h : InStep d d' n v cs w u) {m : Mutation}
    (hm : ∀ r, m.names r → r < n) :
    (runChange (announceView (respondWithin d)) v m).Matches
      (runChange (announceView (respondWithin d')) v m) w u (fun _ _ => InStep d d' n v cs)
      (InStep d d' n v cs) := by
  have hcarry (m : Mutation) (hm : ∀ r, m.names r → r < n) (w u : World)
      (h : InStep d d' n v cs w u) :
      (carryOut (announceView (respondWithin d)) v m).Matches
        (carryOut (announceView (respondWithin d')) v m) w u (fun _ _ => InStep d d' n v cs)
        (InStep d d' n v cs) :=
    parallel_inStep.carryOut hm (fun _ _ h => h.record rfl) (fun _ _ h => h)
      (fun _ _ _ _ _ h => h.record rfl) h
  exact (hcarry m hm w u h).bind fun _ _ w u h =>
    drain_matches (fun w u h => takeWaiting_inStep h) hcarry h

end View

namespace World

variable {d d' n : Nat} {v : ViewRef} {w u w' u' : World}

/-! ## Calls -/

/-- A call of an idle view comes to the same in twin worlds. -/
theorem Twins.mutate (h : Twins n v w u) (hself : w.KeepsToItself v) (hspent : d = 0 → w.Spent)
    (hspent' : d' = 0 → u.Spent) (hidle : ∀ view, w.views[v]? = some view → view.busy = false)
    {m : Mutation} (hm : ∀ r, m.names r → r < n) :
    (View.mutate (announceView (respondWithin d)) v m).Matches
      (View.mutate (announceView (respondWithin d')) v m) w u (fun _ _ => Twins n v)
      (Twins n v) := by
  obtain ⟨x, y, hx, hy, hview⟩ := h.view
  have hdropped (text text' : String) : Act.Matches
      (do Act.debug View.logger text; View.drop v [m])
      (do Act.debug View.logger text'; View.drop v [m]) w u (fun _ _ => Twins n v) (Twins n v) := by
    refine Act.matches_bind_ok (Act.runIn_debug ..) (Act.runIn_debug ..) ?_
    have hlogged (r r' : Log.Record) : Twins n v (w.record (.logged r)) (u.record (.logged r')) :=
      h.record rfl
    exact Act.matches_of_ok (Act.runIn_modify ..) (Act.runIn_modify ..)
      ((hlogged _ _).recordAll rfl)
  unfold View.mutate
  refine Act.matches_bind_ok (Act.runIn_view hx) (Act.runIn_view hy) ?_
  rw [hview.group, hview.closed, hview.busy]
  cases hg : w.groups[x.group]? with
  | none =>
    exact Act.matches_of_error (Act.runIn_bind_error (Act.runIn_group_none hg))
      (Act.runIn_bind_error (Act.runIn_group_none (h.groups ▸ hg))) h
  | some group =>
    refine Act.matches_bind_ok (Act.runIn_group hg) (Act.runIn_group (h.groups ▸ hg)) ?_
    split
    · exact hdropped _ _
    rename_i hopen
    split
    · exact hdropped _ _
    rename_i hmembers
    rw [hidle x hx, if_neg Bool.false_ne_true, if_neg Bool.false_ne_true]
    refine Act.matches_bind_ok (Act.runIn_modifyView ..) (Act.runIn_modifyView ..) ?_
    have hstart : InStep d d' n v w.connections
        (w.modifyView v fun view => { view with busy := true })
        (u.modifyView v fun view => { view with busy := true }) := by
      obtain ⟨x', hx', hscheduler⟩ := hself.view
      cases hx.symm.trans hx'
      refine ⟨h.modifyView fun x y _ _ hview => ⟨?_, hview.graphs, hview.waiting, hview.shown⟩, rfl,
        ⟨⟨_, views_modifyView_self hx _, hscheduler⟩, hself.scripts⟩,
        ⟨_, group, views_modifyView_self hx _, rfl, by simpa using hopen, hg,
          by simpa using hmembers⟩, hspent, hspent'⟩
      exact congrArg (fun view : View => { view with busy := true }) hview.same
    have hsettled (w u : World) (h : InStep d d' n v w.connections w u) :
        Twins n v (View.settle v w) (View.settle v u) := by
      refine h.twins.modifyView fun x y _ _ hview => ⟨?_, hview.graphs, by simp, hview.shown⟩
      exact congrArg (fun view : View => { view with pending := [], busy := false }) hview.same
    refine (View.runChange_inStep hstart hm).ensuring (fun _ _ w' u' h => ?_) fun w' u' h => ?_
    · exact hsettled w' u' (h.connections ▸ h)
    · exact hsettled w' u' (h.connections ▸ h)

/-- Who has no calls left cannot be called. -/
theorem spent_of_budget (h : w.budget = 0) : w.Spent := by
  unfold budget at h
  unfold Spent
  generalize w.listeners = ls at h ⊢
  induction ls with
  | nil => simp
  | cons l rest ih =>
    rw [List.foldr_cons] at h
    intro l' hl'
    obtain rfl | hl' := List.mem_cons.1 hl'
    · have hzero : l'.remaining * (Command.scriptWeight l'.script + 1) = 0 := by omega
      exact (Nat.mul_eq_zero.1 hzero).resolve_right (Nat.succ_ne_zero _)
    · exact ih (by omega) l' hl'

/-- A call of an idle view comes to the same in twin worlds, and leaves twin worlds. -/
theorem Twins.perform (h : Twins n v w u) (hself : w.KeepsToItself v)
    (hidle : ∀ view, w.views[v]? = some view → view.busy = false) {c : Command}
    (hc : c.asks v = true) {r : Except Failure Reply} (hrun : w.perform c = some (r, w')) :
    ∃ u', u.perform c = some (r, u') ∧ Twins n v w' u' := by
  have hspent {z : World} (hd : z.budget + c.weight = 0) : z.Spent :=
    spent_of_budget (by omega)
  rw [World.perform, performWithin_eq] at hrun
  rw [World.perform, performWithin_eq]
  exact h.execute h (fun _ hm => h.mutate hself hspent hspent hidle hm) hc hrun

end World

end SnapshotViewer
