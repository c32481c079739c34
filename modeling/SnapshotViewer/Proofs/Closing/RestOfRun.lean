import SnapshotViewer.Proofs.Closing.NothingStarts
import SnapshotViewer.Proofs.Queue.ServiceOrder
import SnapshotViewer.Proofs.View.FollowingChains

/-!
# The rest of a run

`World.Continues` says what can be left of a run from a world in the middle of it, so that a view
can be closed there. Whatever is left, nothing of the closed view starts any more, and what is not
left of its own change does not concern it at all (`Continues.ceasing`, `Continues.resting`). The
views that stay open stay connected and are told of what they follow (`Attends`, `Received`). Main
statement: `View.close_final`.
-/

namespace SnapshotViewer

namespace View

/-- The rest of a change of a view stays within a relation: further steps, that it fails, the
changes that wait for it, and its end. -/
structure Finishes (a : Announce) (v : ViewRef) (T : World → World → Prop) : Prop where
  steps : ∀ w w', Steps a v w w' → T w w'
  failed : ∀ w m e partway, T w (w.record (.failed v m e partway))
  drain : (drain a v).Within T
  settle : ∀ w, T w (settle v w)

variable {a : Announce} {v : ViewRef} {T T' : World → World → Prop}

theorem Carries.finishes (hT : Carries a v T) : Finishes a v T where
  steps := hT.steps
  failed := hT.failed
  drain := drain_within hT.chains hT.takeWaiting hT.carryOut
  settle w := hT.dispatch w _ fun _ => rfl

theorem Finishes.mono (h : Finishes a v T) (hmono : ∀ w w', T w w' → T' w w') :
    Finishes a v T' where
  steps w w' hsteps := hmono w w' (h.steps w w' hsteps)
  failed w m e partway := hmono _ _ (h.failed w m e partway)
  drain w := (h.drain w).mono (fun _ w' => hmono w w') fun _ w' => hmono w w'
  settle w := hmono _ _ (h.settle w)

end View

namespace World

open View

/-- What can be left of a run in the middle of it. Commands follow, and among them are those of the
listeners that are being called. If a change of a view is under way, the rest of it is left; `P`
says of which views there may be one. If a signal was emitted, views are told of it. -/
inductive Continues (P : ViewRef → Prop) : World → World → Prop where
  | refl (w : World) : Continues P w w
  | trans {w w' w'' : World} (h : Continues P w w') (h' : Continues P w' w'') : Continues P w w''
  | commands {w w' : World} (h : Reaches w w') : Continues P w w'
  | steps {R : Respond} (hR : Listening R) {u : ViewRef} (hu : P u) {w w' : World}
      (h : Steps (announceView R) u w w') : Continues P w w'
  | failed {u : ViewRef} (hu : P u) (w : World) (m : Mutation) (e : Failure) (partway : Bool) :
      Continues P w (w.record (.failed u m e partway))
  | drain {R : Respond} (hR : Listening R) {u : ViewRef} (hu : P u) {w w' : World}
      {r : Except Failure Unit} (h : (View.drain (announceView R) u).runIn w = some (r, w')) :
      Continues P w w'
  | settle {u : ViewRef} (hu : P u) (w : World) : Continues P w (View.settle u w)
  | follow {R : Respond} (hR : Listening R) {signal : Signal} {u : ViewRef} {w w' : World}
      (h : w.follow R signal u = some w') : Continues P w w'
  | uncaught (w : World) (e : Failure) : Continues P w (w.record (.uncaught e))

variable {R : Respond} {P : ViewRef → Prop} {T : World → World → Prop} {u v : ViewRef}
  {w w' w'' : World} {view view' : View} {m : Mutation}

/-- The rest of a run stays within a relation that runs stay within, and the rest of a change. -/
theorem Continues.within (hT : Act.Chains T) (hreaches : ∀ w w', Reaches w w' → T w w')
    (hrest : ∀ R u, Listening R → P u → Finishes (announceView R) u T)
    (hfollow : ∀ R, Listening R → ∀ signal u w w', w.follow R signal u = some w' → T w w')
    (huncaught : ∀ w e, T w (w.record (.uncaught e))) (h : Continues P w w') : T w w' := by
  induction h with
  | refl w => exact hT.refl w
  | trans _ _ ih ih' => exact hT.trans ih ih'
  | commands h => exact hreaches _ _ h
  | steps hR hu h => exact (hrest _ _ hR hu).steps _ _ h
  | failed hu w m e partway =>
    exact (hrest _ _ listening_unheard hu).failed w m e partway
  | drain hR hu h => exact (hrest _ _ hR hu).drain.of_runIn h
  | settle hu w => exact (hrest _ _ listening_unheard hu).settle w
  | follow hR h => exact hfollow _ hR _ _ _ _ h
  | uncaught w e => exact huncaught w e

/-! ## A view that was closed -/

theorem Reaches.resting (h : Reaches w w') : Resting v w w' :=
  concerns_resting.reaches shares_resting h

theorem Listening.callsWithin_resting (hR : Listening R) : CallsWithin R (Resting v) :=
  concerns_resting.calls shares_resting hR

/-- The rest of a change of another view. -/
theorem finishes_resting (hR : Listening R) (hu : u ≠ v) :
    Finishes (announceView R) u (Resting v) :=
  have hcalls := hR.callsWithin_resting
  (concerns_resting.carries hu (concerns_resting.announceView hcalls hu)).finishes

/-- The rest of a change of the view itself starts nothing. -/
theorem finishes_ceasing (hR : Listening R) : Finishes (announceView R) v (Ceasing v) where
  steps _ _ h := h.ceasing (announceView_ceasing hR.callsWithin_resting)
  failed _ _ _ _ := ceasing_record (by simp) nofun
  drain := drain_ceasing (announceView_ceasing hR.callsWithin_resting)
  settle := settle_ceasing

/-- Whatever is left of a run, nothing of a view starts after it was closed. -/
theorem Continues.ceasing (h : Continues P w w') : Ceasing v w w' := by
  refine h.within chains_ceasing (fun _ _ h => h.resting.ceasing) (fun R u hR _ => ?_)
    (fun R hR _ _ _ _ h => (concerns_resting.follow hR.callsWithin_resting h).ceasing)
    fun _ _ => ceasing_record (by simp) nofun
  by_cases hu : u = v
  · subst hu
    exact finishes_ceasing hR
  · exact (finishes_resting hR hu).mono fun _ _ => Resting.ceasing

/-- What is left of a run besides changes of a view does not concern the view once it is closed. -/
theorem Continues.resting (h : Continues (· ≠ v) w w') : Resting v w w' :=
  h.within chains_resting (fun _ _ h => h.resting) (fun _ _ hR hu => finishes_resting hR hu)
    (fun _ hR _ _ _ _ h => concerns_resting.follow hR.callsWithin_resting h)
    fun w _ => concerns_resting.record w id

/-! ## The views that stay open -/

/-- The trace has grown, groups are kept, and a view stays connected while it is open. -/
structure Attends (u : ViewRef) (w w' : World) : Prop where
  grows : Grows w w'
  groups : w'.groups.length = w.groups.length
  follows : ∀ view, w.views[u]? = some view → ∃ view', w'.views[u]? = some view' ∧
    SameOwners view view' ∧
    (view'.closed = false → ∀ c ∈ w.connections, c.slot = .follow u → c ∈ w'.connections)

theorem Framed.attends {own : Option ViewRef} (h : Framed own w w') : Attends u w w' := by
  obtain ⟨es, hframe⟩ := h
  refine ⟨⟨es, hframe.trace⟩, hframe.groups, fun view hview => ?_⟩
  obtain ⟨view', hview', howners, -⟩ := hframe.views u view hview
  refine ⟨view', hview', howners, fun hopen c hc hslot => hframe.follows c hc u hslot ?_⟩
  intro x hx
  cases hview'.symm.trans hx
  exact hopen

theorem chains_attends : Act.Chains (Attends u) := by
  have hrefl (w : World) : Framed none w w := chains_framed.refl w
  refine ⟨fun w => (hrefl w).attends, fun h h' => ?_⟩
  refine ⟨chains_grows.trans h.grows h'.grows, h'.groups.trans h.groups, fun view hview => ?_⟩
  obtain ⟨view', hview', howners, hfollows⟩ := h.follows view hview
  obtain ⟨view'', hview'', howners', hfollows'⟩ := h'.follows view' hview'
  refine ⟨view'', hview'', howners.trans howners', fun hopen c hc hslot => ?_⟩
  exact hfollows' hopen c (hfollows (howners'.isOpen hopen) c hc hslot) hslot

theorem Continues.attends (h : Continues P w w') : Attends u w w' := by
  refine h.within chains_attends (fun _ _ h => h.framed.attends) (fun _ v hR _ => ?_)
    (fun _ hR _ _ _ _ h => (follow_framed (fun k x x' hx => (hR k x x' hx).framed) h).attends)
    fun w e => ?_
  · exact (carries_framed (hR.announceView_framed v)).finishes.mono fun _ _ => Framed.attends
  · have huncaught : Framed none w (w.record (.uncaught e)) := framed_record w id
    exact huncaught.attends

theorem concerns_attends : Concerns u (Attends u) where
  chains := chains_attends
  elsewhere es _ _ h := ⟨⟨es, h.trace⟩, by rw [h.groups], fun view hview =>
    ⟨view, h.view.trans hview, .refl view, fun _ c hc hslot => (h.follows c hslot).2 hc⟩⟩
  mutate R hR m w := by
    have ha := announceView_framed (fun k x x' hx => (hR k x x' hx).1) u
    exact (mutate_framed ha m w).mono (fun _ _ h => h.attends) fun _ _ h => h.attends
  opened s c q scheduler counted hide _ _ _ _ h :=
    ((openOn_framed s c q scheduler counted hide).of_runIn h).attends
  closed w view hview _ := by
    have hnoted : Framed none (shut u w) ((shut u w).noteReading u .windowChanged) :=
      noteReading_within chains_framed (fun x _ => framed_record x id) (shut u w)
    exact (((framed_shut hview).trans hnoted).trans (framed_signalled _ _)).attends

/-- A change has arrived at a view, which has begun it, made it wait or dropped it. -/
def Received (u : ViewRef) (m : Mutation) (w w' : World) : Prop :=
  ∃ es, w'.trace = w.trace ++ es ∧ ∃ e ∈ es, e = .begun u m ∨ e = .deferred u m ∨ e = .dropped u m

theorem Received.after (h : Grows w w') (h' : Received u m w' w'') : Received u m w w'' := by
  obtain ⟨es, htrace⟩ := h
  obtain ⟨es', htrace', e, he, hm⟩ := h'
  refine ⟨es ++ es', by rw [htrace', htrace, List.append_assoc], e, ?_, hm⟩
  exact List.mem_append_right es he

theorem Received.before (h : Received u m w w') (h' : Grows w' w'') : Received u m w w'' := by
  obtain ⟨es, htrace, e, he, hm⟩ := h
  obtain ⟨es', htrace'⟩ := h'
  refine ⟨es ++ es', by rw [htrace', htrace, List.append_assoc], e, ?_, hm⟩
  exact List.mem_append_left es' he

theorem received_record (w : World) {e : Event}
    (he : e = .begun u m ∨ e = .deferred u m ∨ e = .dropped u m) : Received u m w (w.record e) :=
  ⟨[e], rfl, e, List.mem_cons_self, he⟩

/-- A change that is called for arrives, whatever comes of it. -/
theorem mutate_received {a : Announce} (ha : ∀ n w w', a u n w = some w' → Framed none w w')
    (hview : w.views[u]? = some view) (hgroup : view.group < w.groups.length) (m : Mutation) :
    (mutate a u m).Ends w (fun _ w' => Received u m w w') fun _ w' => Received u m w w' := by
  have hcarried : (carryOut a u m).Ends
      (w.modifyView u fun view => { view with busy := true })
      (fun _ w' => Received u m w w') fun _ w' => Received u m w w' := by
    have hbegun : Received u m w
        ((w.modifyView u fun view => { view with busy := true }).record (.begun u m)) :=
      received_record w (.inl rfl)
    refine (carryOut_ends ha m _).mono (fun _ w' h => ?_) fun e w' h => ?_
    · obtain ⟨es, h⟩ := h
      exact hbegun.before ⟨es, h.1.trace⟩
    · rcases h with ⟨-, hnone⟩ | ⟨es, x, partway, h, rfl⟩
      · cases hnone.symm.trans (views_modifyView_self hview _)
      · exact (hbegun.before ⟨es, h.1.trace⟩).before ⟨_, rfl⟩
  refine ends_mutate (fun hnone => ?_) (fun x hx hnone => ?_)
    (fun _ _ r _ _ _ => .after ⟨_, rfl⟩ (received_record (w.record (.logged r)) (.inr (.inr rfl))))
    (fun _ _ r _ _ _ _ _ =>
      .after ⟨_, rfl⟩ (received_record (w.record (.logged r)) (.inr (.inl rfl))))
    fun _ _ _ _ _ _ _ => ?_
  · cases hview.symm.trans hnone
  · cases hview.symm.trans hx
    exact absurd hgroup (Nat.not_lt.2 (List.getElem?_eq_none_iff.1 hnone))
  · refine Act.Ends.bind hcarried fun _ x hx => ?_
    have hdrained := (carries_framed ha).finishes.drain x
    exact hdrained.mono (fun _ _ h => hx.before h.grows) fun _ _ h => hx.before h.grows

/-- An announcement of a group or a filter chain arrives at every open view that is connected to it,
unless the view is closed first. -/
theorem announceShared_received (hR : Listening R) {c : Connection}
    (hview : w.views[u]? = some view) (hgroup : view.group < w.groups.length)
    (hc : c ∈ w.connections) (hslot : c.slot = .follow u)
    (h : announceShared R c.signal w = some w') : Received u (following c.signal) w w' ∨
      ∃ view', w'.views[u]? = some view' ∧ view'.closed = true := by
  have hcalls : CallsWithin R (Attends u) := fun k x x' hx =>
    ⟨(hR k x x' hx).framed, (hR k x x' hx).sound, (hR k x x' hx).framed.attends⟩
  obtain ⟨x, x', hbefore, hwithin, hafter, htold⟩ :=
    concerns_attends.reached hcalls hview hc rfl hslot h
  have hsignalled : Framed none w (w.record (.signalled c.signal)) := framed_signalled w c.signal
  have hstart : Attends u w x := chains_attends.trans hsignalled.attends hbefore
  obtain ⟨now, hnow, howners, -⟩ := hstart.follows view hview
  rcases htold with hfollow | hclosed
  · refine .inl ((Received.after hstart.grows ?_).before hafter.grows)
    have ha := hR.announceView_framed u
    refine follow_ends (P := Received u (following c.signal) x) ?_ hfollow
    refine (mutate_received ha hnow ?_ _).mono (fun _ _ h => h) fun e _ h => h.before ⟨_, rfl⟩
    rw [howners.group, hstart.groups]
    exact hgroup
  · obtain ⟨view', hview', howners', -⟩ := (chains_attends.trans hwithin hafter).follows now hnow
    exact .inr ⟨view', hview', howners'.closed (hclosed now hnow)⟩

end World

namespace View

open World

variable {R : Respond} {v : ViewRef} {w w' : World} {view : View}

/-! ## Closing is final -/

/-- Behind the event that a view was closed, nothing of it starts in a session. -/
theorem shut_of_closed {es es' : List Event} (hw : w.Reachable)
    (htrace : w.trace = es ++ .closed v :: es') : IsShut v w ∧ ∀ e ∈ es', ¬ e.Starts v := by
  obtain ⟨w₀, commands, hinitial, hrun⟩ := hw
  obtain ⟨es₀, hes₀, -⟩ := (reaches_run hrun).resting (v := v)
  have hall : es₀ = es ++ .closed v :: es' := by
    rw [← htrace, hes₀.trace, hinitial.trace, List.nil_append]
  subst hall
  refine ⟨hes₀.closes (List.mem_append_right _ List.mem_cons_self), fun e he => ?_⟩
  exact (List.pairwise_cons.1 (List.pairwise_append.1 hes₀.final).2.1).1 e he rfl

/-- In a session, an open view is connected to its group and to its filter chains. -/
theorem attached_of_reachable (hw : w.Reachable) : Attached v w ∧ AttachedToChains v w := by
  obtain ⟨w₀, commands, hinitial, hrun⟩ := hw
  have hnone (x : View) : w₀.views[v]? ≠ some x := by simp [hinitial.views]
  exact ⟨(reaches_run hrun).follows.1 fun x hx => absurd hx (hnone x),
    (reaches_run hrun).staysUpToDate.1 fun x hx => absurd hx (hnone x)⟩

/-- What there is to say of closing a view, at whatever moment of a run, for the rest of it.
`shut v w` is the world `w` in which the view has just been closed. -/
structure ClosesForGood (R : Respond) (v : ViewRef) : Prop where
  /-- An open view is closed, which it announces once. -/
  closes : ∀ w view, w.views[v]? = some view → view.closed = false →
    (close (announceView R) v).runIn w =
      (announceView R v .windowChanged (shut v w)).map fun w' => (.ok (), w')
  /-- A view that is closed already stays as it is, and announces nothing. -/
  again : ∀ w view, w.views[v]? = some view → view.closed = true →
    (close (announceView R) v).runIn w = some (.ok (), w)
  /-- For whatever is left of the run, the view stays closed, what has waited is discarded, and
  nothing starts any more: no change is carried out or made to wait. -/
  ceases : ∀ w view w', w.views[v]? = some view → Continues (fun _ => True) (shut v w) w' →
    IsShut v w' ∧ ∃ es, w'.trace = (shut v w).trace ++ es ∧ ∀ e ∈ es, ¬ e.Starts v
  /-- Once no change is under way, the view stays as it is in all respects and takes part in
  nothing: it announces nothing, and no field of it is written. -/
  rests : ∀ w view w', w.views[v]? = some view → view.closed = true → view.busy = false →
    Continues (· ≠ v) w w' → w'.views[v]? = some view ∧
      ∃ es, w'.trace = w.trace ++ es ∧ ∀ e ∈ es, ¬ e.Engages v
  /-- In the trace of a session, nothing of the view starts behind its being closed. Between
  commands it is closed then, with nothing under way. -/
  history : ∀ (w : World) es es', w.Reachable → w.trace = es ++ .closed v :: es' →
    (∀ e ∈ es', ¬ e.Starts v) ∧
      ∃ view, w.views[v]? = some view ∧ view.closed = true ∧ view.pending = [] ∧ view.busy = false
  /-- Other views stay connected to what they follow, as long as they are open themselves. -/
  connected : ∀ w w' u other c, u ≠ v → w.views[u]? = some other → c ∈ w.connections →
    c.slot = .follow u → Continues (fun _ => True) (shut v w) w' →
      c ∈ w'.connections ∨ ∃ other', w'.views[u]? = some other' ∧ other'.closed = true
  /-- In a session, every open view is connected to its group and its filter chains. -/
  attached : ∀ u (w : World), w.Reachable → Attached u w ∧ AttachedToChains u w
  /-- What a group or a chain announces arrives at every open view that is connected to it, also if
  others are closed meanwhile, unless the view itself is. -/
  told : ∀ u w w' other c, w.views[u]? = some other → other.group < w.groups.length →
    c ∈ w.connections → c.slot = .follow u → announceShared R c.signal w = some w' →
      Received u (following c.signal) w w' ∨
        ∃ other', w'.views[u]? = some other' ∧ other'.closed = true

/-- Closing a view is final, whenever and by whom it is closed, and concerns no other view. -/
theorem close_final (hR : Listening R) (v : ViewRef) : ClosesForGood R v where
  closes w view hview hopen := by
    rw [close, Act.runIn_bind_ok (Act.runIn_view hview), hopen]
    rfl
  again w view hview hclosed := by
    rw [close, Act.runIn_bind_ok (Act.runIn_view hview), hclosed]
    rfl
  ceases w view w' hview h := by
    have hshut : IsShut v (shut v w) :=
      ⟨_, views_modifyView_self (w := w.disconnect _) hview _, rfl, rfl⟩
    obtain ⟨es, hes⟩ := h.ceasing (v := v)
    exact ⟨(hes.stays hshut).1, es, hes.trace, (hes.stays hshut).2⟩
  rests w view w' hview hclosed hidle h := by
    obtain ⟨es, hes, hrest⟩ := h.resting
    obtain ⟨hview', hengages⟩ := hrest view hview hclosed hidle
    exact ⟨hview', es, hes.trace, hengages⟩
  history w es es' hw htrace := by
    obtain ⟨⟨view, hview, hclosed, hpending⟩, hsilent⟩ := shut_of_closed hw htrace
    exact ⟨hsilent, view, hview, hclosed, hpending, (hw.idle hview).1⟩
  connected w w' u other c hu hother hc hslot h := by
    have hother' : (shut v w).views[u]? = some other :=
      (views_modifyView_of_ne (w.disconnect _) hu _).trans hother
    have hkept : c ∈ (shut v w).connections :=
      (mem_disconnect w (by simpa using Ne.symm hu) hslot).2 hc
    obtain ⟨view', hview', -, hfollows⟩ := h.attends.follows other hother'
    cases hclosed : view'.closed with
    | false => exact .inl (hfollows hclosed c hkept hslot)
    | true => exact .inr ⟨view', hview', hclosed⟩
  attached u w hw := attached_of_reachable hw
  told u w w' other c hother hgroup hc hslot h :=
    announceShared_received hR hother hgroup hc hslot h

/-- A group of two snapshots. -/
def withTwo : World :=
  let s : Snapshot := { id := 0, name := "s", blocks := .ofList [("b", {})], group := some 0 }
  { snapshots := [s, s], pool := [0, 1], groups := [⟨"g", [0, 1]⟩], chains := [[], []] }

theorem initial_withTwo : Initial withTwo where
  sound := ⟨by decide, by decide, by simp [withTwo]⟩
  views := rfl
  trace := rfl

/-- Two views of `withTwo`. When the first one announces another graph, a listener changes a toggle
of it and then closes it. -/
def closable : World :=
  (withTwo.run [.openView 0 0 1 none false (.bool false), .openView 0 0 1 none false (.bool false),
    .listen (.view 0 .graphChanged) 1
      [.setFlag 0 (.toggle .emptyBlocks) false, .closeView 0]]).getD {}

theorem reachable_closable : closable.Reachable := initial_withTwo.reachable (by decide +kernel)

/-- The listener of `closable`. -/
def closableRespond : Respond := callListener (performWithin 2)

theorem listening_closableRespond : Listening closableRespond :=
  reaches_callListener fun _ _ _ _ h => reaches_performWithin 2 h

/-- The first view of `closable` is closed while it selects a snapshot. -/
theorem closable_select :
    ((mutate (announceView closableRespond) 0 (.selectGraph 1)).runIn closable).any
      (fun p => beginnings 0 p.2.trace = [.selectGraph 1] ∧
        deferrals 0 p.2.trace = [.setToggle .emptyBlocks false] ∧
        p.2.trace.any (fun e => match e with | .closed 0 => true | _ => false) = true) = true := by
  unfold mutate runChange
  simp only [drain_eq_drainFirst _ _ 3]
  decide +kernel

theorem reachable_closableClosed {r : Except Failure Unit}
    (h : (mutate (announceView closableRespond) 0 (.selectGraph 1)).runIn closable = some (r, w)) :
    w.Reachable := by
  have hdepth : closable.budget + (Command.selectGraph 0 1).weight = 3 := by decide +kernel
  have hpool : closable.pool[1]? = some 1 := by decide +kernel
  refine reachable_closable.perform (c := .selectGraph 0 1) (r := r.map fun _ => .done) ?_
  rw [World.perform, hdepth]
  exact (Act.runIn_bind_ok (Command.runIn_pooled hpool)).trans
    ((Command.runIn_change 0 (.selectGraph 1) closable).trans (by rw [← closableRespond, h]; rfl))

/-- The change that waits when the first view of `closable` is closed is not carried out, and the
second view stays connected. -/
theorem close_final_midway : Listening closableRespond ∧ ClosesForGood closableRespond 0 ∧
    ∃ (w : World) (es es' : List Event) (view : View), w.Reachable ∧
      w.trace = es ++ .closed 0 :: es' ∧ beginnings 0 w.trace = [.selectGraph 1] ∧
      deferrals 0 w.trace = [.setToggle .emptyBlocks false] ∧ (∀ e ∈ es', ¬ e.Starts 0) ∧
      w.views[0]? = some view ∧ (close (announceView closableRespond) 0).runIn w =
        some (.ok (), w) ∧ Attached 1 w := by
  have hfinal := close_final listening_closableRespond 0
  obtain ⟨⟨r, w⟩, hrun, hseen⟩ := Option.any_eq_true _ _ |>.1 closable_select
  obtain ⟨hbegun, hdeferred, hclosed⟩ := of_decide_eq_true hseen
  have hw : w.Reachable := reachable_closableClosed hrun
  obtain ⟨e, he, hmatch⟩ := List.any_eq_true.1 hclosed
  split at hmatch
  · obtain ⟨es, es', htrace⟩ := List.append_of_mem he
    obtain ⟨hsilent, view, hview, hshut, -⟩ := hfinal.history w es es' hw htrace
    exact ⟨listening_closableRespond, hfinal, w, es, es', view, hw, htrace, hbegun, hdeferred,
      hsilent, hview, hfinal.again w view hview hshut, (hfinal.attached 1 w hw).1⟩
  · cases hmatch

end View

end SnapshotViewer
