import SnapshotViewer.Proofs.Run.Frame

/-!
# Frames of changes, announcements and runs

The steps of a change, the queue, the emission of signals and the commands, one after the other:
each stays within `World.Framed` if the calls of listeners do. What may come of a call, of a change
and of the queue is said once, by the rules `View.ends_mutate`, `View.ends_carryOut`,
`View.ends_takeWaiting` and `View.drain_ends`. Main statement: `World.Reaches.framed`.
-/

namespace SnapshotViewer

namespace View

variable {a : Announce} {v : ViewRef} {R : Respond}

/-! ## Rules for steps and for the queue -/

/-- A relation that every step of a change stays within. -/
theorem Steps.within {T : World → World → Prop} (hT : Renders T)
    (hwrite : ∀ w f, (∀ view, w.views[v]? = some view → Write w view (f view)) →
      T w (w.modifyView v f))
    (hannounce : ∀ n w w', a v n w = some w' → T w w')
    {w w' : World} (h : Steps a v w w') : T w w' := by
  induction h with
  | refl => exact hT.chains.refl _
  | write _ f hf ih => exact hT.chains.trans ih (hwrite _ f hf)
  | note _ e he ih => exact hT.chains.trans ih (hT.note _ e he)
  | assign _ hs hblocks _ _ ih => exact hT.chains.trans ih (hT.assign _ _ _ _ _ hs hblocks)
  | archive _ hs ht ih => exact hT.chains.trans ih (hT.archive _ _ _ _ _ hs ht)
  | count _ n ih => exact hT.chains.trans ih (hT.count _ n)
  | announce _ n ha ih => exact hT.chains.trans ih (hannounce n _ _ ha)

/-- The queue is run through by taking one change and running through the rest. -/
theorem drain_eq (a : Announce) (v : ViewRef) : drain a v = (do
    match ← takeWaiting v with
    | none => return ()
    | some m =>
      carryOut a v m
      drain a v) := by
  funext w
  change w.drainFrom a v = _
  rw [World.drainFrom]
  rfl

/-- The rule for the queue: `I` holds whenever the next change is taken, and `J m` whenever the
change `m` is carried out. -/
theorem drain_ends {I : World → Prop} {J : Mutation → World → Prop} {Q : World → Prop}
    {E : Failure → World → Prop}
    (htake : ∀ w, I w → (takeWaiting v).Ends w
      (fun next w' => match next with | none => Q w' | some m => J m w') E)
    (hcarry : ∀ m w, J m w → (carryOut a v m).Ends w (fun _ w' => I w') E) {w : World} (h : I w) :
    (drain a v).Ends w (fun _ w' => Q w') E := by
  let P : World → Except Failure Unit × World → Prop := fun w p =>
    I w → match p with
      | (.ok _, w') => Q w'
      | (.error e, w') => E e w'
  -- The queue is run through by a least fixed point: what holds of all shorter runs holds of it.
  have hall : ∀ w p, World.drainFrom a v w = some p → P w p := by
    refine World.drainFrom.partial_correctness a v P fun next ih w p hp hI => ?_
    let rest : Act Unit := ExceptT.mk next
    have hrest : ∀ u, I u → rest.Ends u (fun _ w' => Q w') E := fun u hu =>
      ⟨fun _ _ hu' => ih u _ hu' hu, fun _ _ hu' => ih u _ hu' hu⟩
    have hends : Act.Ends (do
        match ← takeWaiting v with
        | none => return ()
        | some m =>
          carryOut a v m
          rest) w (fun _ w' => Q w') E := by
      refine (htake w hI).bind fun taken u hu => ?_
      cases taken with
      | none => exact Act.ends_pure.2 hu
      | some m => exact (hcarry m u hu).bind fun _ u' hu' => hrest u' hu'
    obtain ⟨r, w'⟩ := p
    cases r with
    | ok x => exact hends.1 x w' hp
    | error e => exact hends.2 e w' hp
  exact ⟨fun _ _ hr => hall w _ hr h, fun _ _ hr => hall w _ hr h⟩

/-- The queue is run through within a relation if its parts are. -/
theorem drain_within {T : World → World → Prop} (hT : Act.Chains T)
    (htake : (takeWaiting v).Within T) (hcarry : ∀ m, (carryOut a v m).Within T) :
    (drain a v).Within T := by
  intro w
  refine drain_ends (I := T w) (J := fun _ => T w) (fun u hu => ?_) (fun m u hu => ?_) (hT.refl w)
  · refine (htake u).mono (fun next u' hu' => ?_) fun _ _ hu' => hT.trans hu hu'
    cases next with
    | none => exact hT.trans hu hu'
    | some m => exact hT.trans hu hu'
  · exact (hcarry m u).mono (fun _ _ hu' => hT.trans hu hu') fun _ _ hu' => hT.trans hu hu'

/-- The queue with up to `n` changes taken from it one by one. -/
def drainFirst (a : Announce) (v : ViewRef) : Nat → Act Unit
  | 0 => drain a v
  | n + 1 => do
    match ← takeWaiting v with
    | none => return ()
    | some m =>
      carryOut a v m
      drainFirst a v n

/-- Runs of the queue can be followed for as many changes as needed. -/
theorem drain_eq_drainFirst (a : Announce) (v : ViewRef) (n : Nat) :
    drain a v = drainFirst a v n := by
  induction n with
  | zero => rfl
  | succ n ih =>
    rw [drain_eq, ih]
    rfl

/-! ## The steps of a change -/

/-- The steps of a change are framed, and others only make changes wait for the view meanwhile. -/
structure Receives (v : ViewRef) (es : List Event) (view view' : View) : Prop where
  busy : view'.busy = true
  waits : view'.closed = false → view'.pending = view.pending ++ deferrals v es
  quiet : beginnings v es = [] ∧ failures v es = []

/-- What holds of two worlds with steps of a change of a view between them. -/
def OwnFrame (v : ViewRef) (es : List Event) (w w' : World) : Prop :=
  World.Frame (some v) es w w' ∧ ∀ view, w.views[v]? = some view → view.busy = true →
    ∃ view', w'.views[v]? = some view' ∧ Receives v es view view'

theorem OwnFrame.of_frame {es : List Event} {w w' : World} (h : World.Frame none es w w') :
    OwnFrame v es w w' := by
  refine ⟨h.weaken, fun view hview hbusy => ?_⟩
  obtain ⟨view', hview', -, hleft⟩ := h.views v view hview
  have hleft := hleft (by simp)
  exact ⟨view', hview', hleft.busy.trans hbusy, hleft.waits hbusy, hleft.quiet hbusy⟩

theorem OwnFrame.trans {es es' : List Event} {w w' w'' : World} (h : OwnFrame v es w w')
    (h' : OwnFrame v es' w' w'') : OwnFrame v (es ++ es') w w'' := by
  refine ⟨h.1.trans h'.1, fun view hview hbusy => ?_⟩
  obtain ⟨view', hview', hfirst⟩ := h.2 view hview hbusy
  obtain ⟨view'', hview'', hsecond⟩ := h'.2 view' hview' hfirst.busy
  obtain ⟨u, hu, howners, -⟩ := h'.1.views v view' hview'
  cases hview''.symm.trans hu
  refine ⟨view'', hview'', hsecond.busy, fun hopen => ?_, ?_⟩
  · rw [hsecond.waits hopen, hfirst.waits (howners.isOpen hopen), deferrals_append,
      List.append_assoc]
  · simp [hfirst.quiet, hsecond.quiet]

theorem chains_ownFrame : Act.Chains fun w w' => ∃ es, OwnFrame v es w w' :=
  ⟨fun w => ⟨[], .of_frame (.refl w)⟩, fun ⟨_, h⟩ ⟨_, h'⟩ => ⟨_, h.trans h'⟩⟩

/-- Resolving graphs and building diagrams changes no view. -/
theorem renders_framed {own : Option ViewRef} : Renders (World.Framed own) where
  chains := World.chains_framed
  note w e he := World.framed_record w he.not_isDispatch
  assign w r _ blocks log _ _ := by
    refine chains_assignBlocks World.chains_framed (fun w r f hf => ?_) (fun w _ => ?_) w r blocks
      log
    · exact World.framed_modifySnapshot w r fun s => by
        rw [hf s]
        exact ⟨rfl, rfl, fun _ => ⟨rfl, rfl⟩⟩
    · exact World.framed_record w (by simp [Event.IsDispatch])
  archive w _ _ _ _ _ _ := World.framed_archive w rfl
  count _ _ := ⟨[], .of_views rfl (by simp) (by simp) (.of_eq rfl) rfl fun _ hc _ _ => hc⟩

/-- The steps of a change leave everything else alone, if what is announced does. -/
theorem Steps.frame (ha : ∀ n w w', a v n w = some w' → World.Framed none w w') {w w' : World}
    (h : Steps a v w w') : ∃ es, OwnFrame v es w w' := by
  have of_framed {w w' : World} (h : World.Framed none w w') : ∃ es, OwnFrame v es w w' :=
    h.imp fun _ => OwnFrame.of_frame
  have hrenders : Renders fun w w' => ∃ es, OwnFrame v es w w' :=
    renders_framed.mono chains_ownFrame fun _ _ => of_framed
  refine Steps.within hrenders (fun w f hf => ?_) (fun n w w' hn => of_framed (ha n w w' hn)) h
  refine ⟨[], .of_own (by simp [World.modifyView]) (fun _ _ => ⟨rfl, rfl, rfl⟩) rfl rfl rfl
    (fun u hu => World.views_modifyView_of_ne w hu f) fun view hview => ?_,
    fun view hview hbusy => ?_⟩
  · have hsame := (hf view hview).sameDispatch
    exact ⟨f view, World.views_modifyView_self hview f, hsame.group, hsame.builder,
      hsame.counted, fun hc => hsame.closed.trans hc⟩
  · have hsame := (hf view hview).sameDispatch
    refine ⟨f view, World.views_modifyView_self hview f, hsame.busy.trans hbusy, fun _ => ?_,
      rfl, rfl⟩
    rw [hsame.pending]
    exact (List.append_nil _).symm

/-- The steps of a change let the trace grow, if what is announced does. -/
theorem Steps.grows (ha : ∀ n w w', a v n w = some w' → World.Grows w w') {w w' : World}
    (h : Steps a v w w') : World.Grows w w' := by
  have hframed : Renders (World.Framed none) := renders_framed
  have hrenders : Renders World.Grows := hframed.mono World.chains_grows fun _ _ h => h.grows
  exact Steps.within hrenders (fun w f _ => ⟨[], (List.append_nil _).symm⟩) ha h

/-! ## What comes of a call -/

theorem isIdle_within {T : World → World → Prop} (hT : Act.Chains T) : (isIdle v).Within T := by
  unfold isIdle
  refine (Act.within_view hT v).bind hT fun view => ?_
  exact (Act.within_group hT _).bind hT fun group => Act.within_pure hT _

theorem runIn_isIdle {w : World} {view : View} {group : Group} (hview : w.views[v]? = some view)
    (hgroup : w.groups[view.group]? = some group) :
    (isIdle v).runIn w = some (.ok (view.closed || group.members.isEmpty), w) := by
  unfold isIdle
  rw [Act.runIn_bind_ok (Act.runIn_view hview), Act.runIn_bind_ok (Act.runIn_group hgroup),
    Act.runIn_pure]

section

variable {w : World} {view : View} {group : Group} {m : Mutation}

theorem mutate_viewless (hview : w.views[v]? = none) :
    (mutate a v m).runIn w = some (.error .noSuchHandle, w) :=
  Act.runIn_bind_error (Act.runIn_view_none hview)

theorem mutate_groupless (hview : w.views[v]? = some view)
    (hgroup : w.groups[view.group]? = none) :
    (mutate a v m).runIn w = some (.error .noSuchHandle, w) := by
  unfold mutate
  rw [Act.runIn_bind_ok (Act.runIn_view hview)]
  exact Act.runIn_bind_error (Act.runIn_group_none hgroup)

/-- A change that arrives at a view which takes none any more is dropped. -/
theorem mutate_dropped (hview : w.views[v]? = some view)
    (hgroup : w.groups[view.group]? = some group)
    (hstop : view.closed = true ∨ group.members = []) :
    ∃ r, (mutate a v m).runIn w = some (.ok (), (w.record (.logged r)).record (.dropped v m)) := by
  unfold mutate
  rw [Act.runIn_bind_ok (Act.runIn_view hview), Act.runIn_bind_ok (Act.runIn_group hgroup)]
  by_cases hclosed : view.closed = true
  · rw [if_pos hclosed, Act.runIn_bind_ok (Act.runIn_debug _ _ w)]
    exact ⟨_, rfl⟩
  · rw [if_neg hclosed, if_pos (List.isEmpty_iff.2 (hstop.resolve_left hclosed)),
      Act.runIn_bind_ok (Act.runIn_debug _ _ w)]
    exact ⟨_, rfl⟩

/-- A change that arrives while another one is under way waits behind those that wait already. -/
theorem mutate_busy (hview : w.views[v]? = some view) (hopen : view.closed = false)
    (hgroup : w.groups[view.group]? = some group) (hmembers : group.members ≠ [])
    (hbusy : view.busy = true) :
    ∃ r, (mutate a v m).runIn w = some (.ok (),
      ((w.record (.logged r)).record (.deferred v m)).modifyView v fun view =>
        { view with pending := view.pending ++ [m] }) := by
  refine ⟨{ level := Log.debug, logger, text := "queueing nested " ++ m.name }, ?_⟩
  unfold mutate
  rw [Act.runIn_bind_ok (Act.runIn_view hview), Act.runIn_bind_ok (Act.runIn_group hgroup)]
  rw [if_neg (by simp [hopen]), if_neg (by simpa using hmembers), if_pos hbusy]
  rw [Act.runIn_bind_ok (Act.runIn_debug _ _ w), Act.runIn_bind_ok (Act.runIn_record _ _)]
  rfl

/-- A change that arrives at an idle view is carried out, with all that come to wait meanwhile. -/
theorem mutate_idle (hview : w.views[v]? = some view) (hopen : view.closed = false)
    (hgroup : w.groups[view.group]? = some group) (hmembers : group.members ≠ [])
    (hidle : view.busy = false) :
    (mutate a v m).runIn w =
      ((runChange a v m).runIn (w.modifyView v fun view => { view with busy := true })).map
        fun (outcome, w) => (outcome, settle v w) := by
  unfold mutate
  rw [Act.runIn_bind_ok (Act.runIn_view hview), Act.runIn_bind_ok (Act.runIn_group hgroup)]
  rw [if_neg (by simp [hopen]), if_neg (by simpa using hmembers), if_neg (by simp [hidle])]
  rw [Act.runIn_bind_ok (Act.runIn_modifyView v _ w)]
  rfl

/-- The rule for calls: the change that arrives is dropped, waits, or is carried out with all that
come to wait meanwhile. -/
theorem ends_mutate {Q : World → Prop} {E : Failure → World → Prop}
    (hviewless : w.views[v]? = none → E .noSuchHandle w)
    (hgroupless : ∀ view, w.views[v]? = some view → w.groups[view.group]? = none →
      E .noSuchHandle w)
    (hdropped : ∀ view group r, w.views[v]? = some view → w.groups[view.group]? = some group →
      view.closed = true ∨ group.members = [] → Q ((w.record (.logged r)).record (.dropped v m)))
    (hdeferred : ∀ view group r, w.views[v]? = some view → w.groups[view.group]? = some group →
      view.closed = false → group.members ≠ [] → view.busy = true →
      Q (((w.record (.logged r)).record (.deferred v m)).modifyView v fun view =>
        { view with pending := view.pending ++ [m] }))
    (hcarried : ∀ view group, w.views[v]? = some view → w.groups[view.group]? = some group →
      view.closed = false → group.members ≠ [] → view.busy = false →
      (runChange a v m).Ends (w.modifyView v fun view => { view with busy := true })
        (fun _ w' => Q (settle v w')) fun e w' => E e (settle v w')) :
    (mutate a v m).Ends w (fun _ w' => Q w') E := by
  cases hview : w.views[v]? with
  | none => exact (Act.ends_of_error (mutate_viewless hview)).2 (hviewless hview)
  | some view =>
    cases hgroup : w.groups[view.group]? with
    | none =>
      exact (Act.ends_of_error (mutate_groupless hview hgroup)).2 (hgroupless view hview hgroup)
    | some group =>
      by_cases hstop : view.closed = true ∨ group.members = []
      · obtain ⟨r, hrun⟩ := mutate_dropped (a := a) (m := m) hview hgroup hstop
        exact (Act.ends_of_ok hrun).2 (hdropped view group r hview hgroup hstop)
      · rw [not_or, Bool.not_eq_true] at hstop
        obtain ⟨hopen, hmembers⟩ := hstop
        cases hbusy : view.busy with
        | true =>
          obtain ⟨r, hrun⟩ := mutate_busy (a := a) (m := m) hview hopen hgroup hmembers hbusy
          exact (Act.ends_of_ok hrun).2 (hdeferred view group r hview hgroup hopen hmembers hbusy)
        | false =>
          rw [Act.Ends, mutate_idle hview hopen hgroup hmembers hbusy]
          exact Act.ends_ensuring.2 (hcarried view group hview hgroup hopen hmembers hbusy)

/-- The rule for a change: it is noted, its steps follow, and it is noted if it has failed. -/
theorem ends_carryOut {Q : Unit → World → Prop} {E : Failure → World → Prop}
    (hviewless : w.views[v]? = none → E .noSuchHandle w)
    (hperform : ∀ view, w.views[v]? = some view → (perform a v m).Ends (w.record (.begun v m)) Q
      fun e w' =>
        E e (w'.record (.failed v m e (w'.views[v]?.map View.sight != some view.sight)))) :
    (carryOut a v m).Ends w Q E := by
  unfold carryOut
  rw [Act.ends_bind]
  refine Act.ends_view (fun view hview => ?_) hviewless
  rw [Act.ends_bind, Act.ends_record, Act.ends_onFailure]
  exact hperform view hview

/-- Nothing is taken if nothing waits. -/
theorem takeWaiting_of_nothing (hview : w.views[v]? = some view) (hpending : view.pending = []) :
    (takeWaiting v).runIn w = some (.ok none, w) := by
  unfold takeWaiting
  rw [Act.runIn_bind_ok (Act.runIn_view hview), hpending]
  exact Act.runIn_pure none w

/-- Nothing is carried out if nothing waits. -/
theorem drain_of_nothing (hview : w.views[v]? = some view) (hpending : view.pending = []) :
    (drain a v).runIn w = some (.ok (), w) := by
  rw [drain_eq, Act.runIn_bind_ok (takeWaiting_of_nothing hview hpending)]
  exact Act.runIn_pure () w

/-- The rule for the next change: none waits, or it is taken, or all that wait are dropped. -/
theorem ends_takeWaiting {Q : Option Mutation → World → Prop} {E : Failure → World → Prop}
    (hviewless : w.views[v]? = none → E .noSuchHandle w)
    (hnothing : ∀ view, w.views[v]? = some view → view.pending = [] → Q none w)
    (hgroupless : ∀ view m rest, w.views[v]? = some view → view.pending = m :: rest →
      w.groups[view.group]? = none →
      E .noSuchHandle (w.modifyView v fun view => { view with pending := rest }))
    (hdropped : ∀ view group m rest, w.views[v]? = some view → view.pending = m :: rest →
      w.groups[view.group]? = some group → view.closed = true ∨ group.members = [] →
      Q none ((w.modifyView v fun view => { view with pending := rest }).recordAll
        ((m :: rest).map (.dropped v))))
    (htaken : ∀ view group m rest, w.views[v]? = some view → view.pending = m :: rest →
      w.groups[view.group]? = some group → view.closed = false → group.members ≠ [] →
      Q (some m) (w.modifyView v fun view => { view with pending := rest })) :
    (takeWaiting v).Ends w Q E := by
  unfold takeWaiting
  rw [Act.ends_bind]
  refine Act.ends_view (fun view hview => ?_) hviewless
  cases hpending : view.pending with
  | nil => exact Act.ends_pure.2 (hnothing view hview hpending)
  | cons m rest =>
    have hview' := World.views_modifyView_self hview fun view => { view with pending := rest }
    rw [Act.ends_bind, Act.ends_modifyView, Act.ends_bind]
    cases hgroup : w.groups[view.group]? with
    | none =>
      unfold isIdle
      rw [Act.ends_bind, Act.ends_of_ok (Act.runIn_view hview'), Act.ends_bind]
      exact Act.ends_group (fun group h => nomatch hgroup.symm.trans h) fun _ =>
        hgroupless view m rest hview hpending hgroup
    | some group =>
      rw [Act.ends_of_ok (runIn_isIdle hview' hgroup)]
      split
      · rename_i hstop
        rw [Bool.or_eq_true, List.isEmpty_iff] at hstop
        rw [Act.ends_bind]
        refine Act.ends_modify.2 (Act.ends_pure.2 ?_)
        exact hdropped view group m rest hview hpending hgroup hstop
      · rename_i hgo
        rw [Bool.or_eq_true, not_or, Bool.not_eq_true, List.isEmpty_iff] at hgo
        exact Act.ends_pure.2 (htaken view group m rest hview hpending hgroup hgo.1 hgo.2)

end

/-! ## Carrying out changes -/

/-- What a relation has to allow so that calls of a view stay within it, whatever its changes are
made of. -/
structure Serves (a : Announce) (v : ViewRef) (T : World → World → Prop) : Prop where
  chains : Act.Chains T
  carryOut : ∀ m, (carryOut a v m).Within T
  dropped : ∀ w m, T w (w.record (.dropped v m))
  dispatch : ∀ w f, (∀ view : View, f view =
    { view with busy := (f view).busy, pending := (f view).pending }) → T w (w.modifyView v f)

/-- What a relation has to allow so that the changes of a view can be carried out within it. -/
structure Carries (a : Announce) (v : ViewRef) (T : World → World → Prop) : Prop where
  chains : Act.Chains T
  steps : ∀ w w', Steps a v w w' → T w w'
  begun : ∀ w m, T w (w.record (.begun v m))
  failed : ∀ w m e partway, T w (w.record (.failed v m e partway))
  dropped : ∀ w m, T w (w.record (.dropped v m))
  dispatch : ∀ w f, (∀ view : View, f view =
    { view with busy := (f view).busy, pending := (f view).pending }) → T w (w.modifyView v f)

/-- Changes are dropped within a relation if each of them is. -/
theorem drop_within {T : World → World → Prop} (hT : Act.Chains T)
    (hdropped : ∀ w m, T w (w.record (.dropped v m))) (ms : List Mutation) :
    (drop v ms).Within T :=
  Act.within_modify fun w => hT.recordAll (fun e he w => by
    obtain ⟨m, -, rfl⟩ := List.mem_map.1 he
    exact hdropped w m) w

/-- A change is carried out within a relation if its steps are. -/
theorem carryOut_within {T : World → World → Prop} (hT : Act.Chains T)
    (hbegun : ∀ w m, T w (w.record (.begun v m)))
    (hfailed : ∀ w m e partway, T w (w.record (.failed v m e partway))) {m : Mutation}
    (hperform : (perform a v m).Within T) : (carryOut a v m).Within T := by
  intro w
  refine ends_carryOut (fun _ => hT.refl w) fun _ _ => (hperform _).mono (fun _ w' h => ?_)
    fun e w' h => ?_
  · exact hT.trans (hbegun w m) h
  · exact hT.trans (hT.trans (hbegun w m) h) (hfailed w' m e _)

/-- The next change is taken within a relation if changes can be taken and dropped within it. -/
theorem takeWaiting_within {T : World → World → Prop} (hT : Act.Chains T)
    (hdropped : ∀ w m, T w (w.record (.dropped v m)))
    (htaken : ∀ w rest, T w (w.modifyView v fun view => { view with pending := rest })) :
    (takeWaiting v).Within T := by
  intro w
  refine ends_takeWaiting (fun _ => hT.refl w) (fun _ _ _ => hT.refl w)
    (fun _ _ rest _ _ _ => htaken w rest) (fun _ _ m rest _ _ _ _ => ?_)
    fun _ _ _ rest _ _ _ _ _ => htaken w rest
  have hdrop : (drop v (m :: rest)).Within T := drop_within hT hdropped (m :: rest)
  exact hT.trans (htaken w rest) (Act.ends_modify.1 (hdrop _))

section

variable {T : World → World → Prop} (hT : Serves a v T)

include hT

theorem Serves.takeWaiting : (takeWaiting v).Within T :=
  takeWaiting_within hT.chains hT.dropped fun w _ => hT.dispatch w _ fun _ => rfl

theorem Serves.runChange (m : Mutation) : (runChange a v m).Within T :=
  (hT.carryOut m).bind hT.chains fun _ => drain_within hT.chains hT.takeWaiting hT.carryOut

/-- A call of a view stays within a relation that its changes are carried out within. -/
theorem Serves.mutate (hlogged : ∀ w r, T w (w.record (.logged r)))
    (hdeferred : ∀ w m, T w (w.record (.deferred v m))) (m : Mutation) :
    (mutate a v m).Within T := by
  intro w
  have hsettle (w' : World) : T w' (settle v w') := hT.dispatch w' _ fun _ => rfl
  refine ends_mutate (fun _ => hT.chains.refl w) (fun _ _ _ => hT.chains.refl w)
    (fun _ _ r _ _ _ => hT.chains.trans (hlogged w r) (hT.dropped _ m))
    (fun _ _ r _ _ _ _ _ => ?_) fun _ _ _ _ _ _ _ => ?_
  · have hdeferred' := hT.chains.trans (hlogged w r) (hdeferred _ m)
    exact hT.chains.trans hdeferred' (hT.dispatch _ _ fun _ => rfl)
  · have hstart : T w (w.modifyView v fun view => { view with busy := true }) :=
      hT.dispatch w _ fun _ => rfl
    have hend {w' : World} (h : T (w.modifyView v fun view => { view with busy := true }) w') :
        T w (settle v w') := hT.chains.trans (hT.chains.trans hstart h) (hsettle w')
    exact (hT.runChange m _).mono (fun _ _ h => hend h) fun _ _ h => hend h

end

section

variable {T : World → World → Prop} (hT : Carries a v T)

include hT

theorem Carries.carryOut (m : Mutation) : (carryOut a v m).Within T :=
  carryOut_within hT.chains hT.begun hT.failed fun w =>
    (steps_perform m w).mono (fun _ w' h => hT.steps w w' h) fun _ w' h => hT.steps w w' h

theorem Carries.serves : Serves a v T :=
  ⟨hT.chains, hT.carryOut, hT.dropped, hT.dispatch⟩

theorem Carries.takeWaiting : (takeWaiting v).Within T := hT.serves.takeWaiting

theorem Carries.runChange (m : Mutation) : (runChange a v m).Within T := hT.serves.runChange m

/-- A call of a view stays within a relation that its changes can be carried out within. -/
theorem Carries.mutate (hlogged : ∀ w r, T w (w.record (.logged r)))
    (hdeferred : ∀ w m, T w (w.record (.deferred v m))) (m : Mutation) :
    (mutate a v m).Within T := hT.serves.mutate hlogged hdeferred m

end

/-- The changes of a view are carried out with everything else left alone, if what is announced
leaves all views alone. -/
theorem carries_framed (ha : ∀ n w w', a v n w = some w' → World.Framed none w w') :
    Carries a v (World.Framed (some v)) where
  chains := World.chains_framed
  steps w w' h := by
    obtain ⟨es, hes⟩ := h.frame ha
    exact ⟨es, hes.1⟩
  begun w m := World.framed_record_own w fun u hu => ⟨rfl, by simp [beginnings, hu.symm], rfl⟩
  failed w m e partway :=
    World.framed_record_own w fun u hu => ⟨rfl, rfl, by simp [failures, hu.symm]⟩
  dropped w m := World.framed_record w (by simp [Event.IsDispatch])
  dispatch w f hf := World.framed_modifyView w fun view _ => by
    rw [hf view]
    exact ⟨rfl, rfl, rfl, id⟩

theorem settle_framed (w : World) : World.Framed (some v) w (settle v w) :=
  World.framed_modifyView w fun _ _ => ⟨rfl, rfl, rfl, id⟩

/-- When a change has ended, nothing is under way and nothing waits. -/
theorem settle_idle {w : World} {view : View} (h : (settle v w).views[v]? = some view) :
    view.busy = false ∧ view.pending = [] := by
  unfold settle at h
  rw [World.views_modifyView, if_pos rfl] at h
  obtain ⟨before, -, rfl⟩ := Option.map_eq_some_iff.1 h
  exact ⟨rfl, rfl⟩

/-- A call of a view leaves all views alone that a change is under way of. -/
theorem mutate_framed (ha : ∀ n w w', a v n w = some w' → World.Framed none w w') (m : Mutation) :
    (mutate a v m).Within (World.Framed none) := by
  intro w
  have hchains : Act.Chains (World.Framed none) := World.chains_framed
  have hlogged (r : Log.Record) : World.Framed none w (w.record (.logged r)) :=
    World.framed_record w (by simp [Event.IsDispatch])
  refine ends_mutate (fun _ => hchains.refl w) (fun _ _ _ => hchains.refl w)
    (fun _ _ r _ _ _ => ?_) (fun view _ r hview _ _ _ hbusy => ?_)
    fun view _ hview _ _ _ hidle => ?_
  · exact (hlogged r).trans (World.framed_record _ (by simp [Event.IsDispatch]))
  · exact (hlogged r).trans (World.framed_defer (w := w.record _) hview hbusy m)
  · have hstart : World.Framed (some v) w (w.modifyView v fun view => { view with busy := true }) :=
      World.framed_modifyView w fun _ _ => ⟨rfl, rfl, rfl, id⟩
    have hend {w' : World} (h : World.Framed (some v)
        (w.modifyView v fun view => { view with busy := true }) w') :
        World.Framed none w (settle v w') := by
      refine ((hstart.trans h).trans (settle_framed w')).of_own (fun before hbefore => ?_)
        fun after hafter => settle_idle hafter
      cases hview.symm.trans hbefore
      exact hidle
    exact ((carries_framed ha).runChange m _).mono (fun _ _ h => hend h) fun _ _ h => hend h

/-! ## Opening and closing views -/

/-- A view that is being opened concerns no other view. -/
theorem Steps.framed_silent {w w' : World} (h : Steps (fun _ _ w => some w) v w w') :
    World.Framed (some v) w w' := by
  obtain ⟨es, hes⟩ := h.frame fun n w w' hn => by
    cases hn
    exact World.chains_framed.refl w
  exact ⟨es, hes.1⟩

theorem steps_showFirst (s : SnapshotRef) :
    (showFirst v s).Within (Steps (fun _ _ w => some w) v) :=
  steps_refilter.bind chains_steps fun _ =>
    (steps_selectGraph s).bind chains_steps fun _ => Act.within_pure chains_steps _

theorem Steps.silent {w w' : World} (h : Steps (fun _ _ w => some w) v w w') :
    w'.connections = w.connections ∧ w'.views.length = w.views.length := by
  have hrenders : Renders fun w w' : World =>
      w'.connections = w.connections ∧ w'.views.length = w.views.length :=
    ⟨⟨fun _ => ⟨rfl, rfl⟩, fun h h' => ⟨h'.1.trans h.1, h'.2.trans h.2⟩⟩, fun _ _ _ => ⟨rfl, rfl⟩,
      fun _ _ _ _ _ _ _ => ⟨rfl, rfl⟩, fun _ _ _ _ _ _ _ => ⟨rfl, rfl⟩,
      fun _ _ => ⟨rfl, rfl⟩⟩
  refine Steps.within hrenders (fun _ _ _ => ⟨rfl, List.length_modify _ _ _⟩)
    (fun _ w w' hn => ?_) h
  cases hn
  exact ⟨rfl, rfl⟩

/-- Nothing is noted but what is of no view. -/
def Noting (w w' : World) : Prop := ∃ es, w'.trace = w.trace ++ es ∧ ∀ e ∈ es, e.IsNote

theorem noting_of_same {w w' : World} (h : w'.trace = w.trace) : Noting w w' :=
  ⟨[], by rw [h, List.append_nil], by simp⟩

theorem chains_noting : Act.Chains Noting := by
  refine ⟨fun _ => noting_of_same rfl, ?_⟩
  rintro _ _ w'' ⟨es, htrace, hes⟩ ⟨es', htrace', hes'⟩
  refine ⟨es ++ es', by rw [htrace', htrace, List.append_assoc], fun e he => ?_⟩
  exact (List.mem_append.1 he).elim (hes e) (hes' e)

theorem renders_noting : Renders Noting where
  chains := chains_noting
  note _ e he := ⟨[e], rfl, by simpa using he⟩
  assign w r _ blocks log _ _ := chains_assignBlocks chains_noting
    (fun _ _ _ _ => noting_of_same rfl) (fun _ r => ⟨[.logged r], rfl, by simp [Event.IsNote]⟩) w r
    blocks log
  archive _ _ _ _ _ _ _ := noting_of_same rfl
  count _ _ := noting_of_same rfl

/-- Nothing else is noted of a view that is being opened. -/
theorem Steps.noting {w w' : World} (h : Steps (fun _ _ w => some w) v w w') : Noting w w' := by
  refine h.within renders_noting (fun _ _ _ => noting_of_same rfl) fun _ w w' hn => ?_
  cases hn
  exact chains_noting.refl w

/-- A new view at the end of the views concerns no other view. -/
theorem framed_unopened (w : World) (view : View) :
    World.Framed (some w.views.length) w { w with views := w.views ++ [view] } := by
  refine ⟨[], .of_own (by simp) (fun _ _ => ⟨rfl, rfl, rfl⟩) rfl rfl rfl (fun u hu => ?_)
    fun before hbefore => by simp at hbefore⟩
  dsimp only
  by_cases hlt : u < w.views.length
  · rw [List.getElem?_append_left hlt]
  · have hgt : w.views.length < u := Nat.lt_of_le_of_ne (Nat.le_of_not_lt hlt) (Ne.symm hu)
    have hend : (w.views ++ [view]).length ≤ u := by
      rw [List.length_append]
      exact hgt
    rw [List.getElem?_eq_none hend, List.getElem?_eq_none (Nat.le_of_lt hgt)]

/-- A view that fails to open is not kept, so that the views are left alone. -/
theorem framed_take {w w' : World} (h : World.Framed (some w.views.length) w w')
    (hconnections : w'.connections = w.connections) :
    World.Framed none w { w' with views := w'.views.take w.views.length } := by
  obtain ⟨es, h⟩ := h
  refine ⟨es, h.trace, h.snapshots, h.groups, fun u view hview => ?_,
    fun u view' _ hnone hsome => ?_, fun c hc _ _ _ => hconnections ▸ hc⟩
  · have hlt : u < w.views.length := (List.getElem?_eq_some_iff.1 hview).1
    obtain ⟨view', hview', howners, hleft⟩ := h.views u view hview
    refine ⟨view', by rwa [List.getElem?_take_of_lt hlt], howners, fun _ => hleft fun heq => ?_⟩
    cases heq
    exact absurd hlt (Nat.lt_irrefl _)
  · have hge : w.views.length ≤ u := List.getElem?_eq_none_iff.1 hnone
    have hlen : (w'.views.take w.views.length).length ≤ u :=
      Nat.le_trans (List.length_take_le _ _) hge
    cases hsome.symm.trans (List.getElem?_eq_none hlen)

/-- A new view of a group before anything is selected in it. -/
def withUnopened (w : World) (group : GroupRef) (builder : Builder) (counted : Bool)
    (hide : Value) : World :=
  { w with views := w.views ++ [unopened w.settings group builder counted hide] }

/-- The rule for building a view: it is refused, or it shows its first snapshot and is kept or taken
back. -/
theorem ends_build {w : World} {s : SnapshotRef} {builder : Builder} {counted : Bool} {hide : Value}
    {Q : ViewRef → World → Prop} {E : Failure → World → Prop} (hmissing : E .noSuchHandle w)
    (hungrouped : ∀ snapshot : Snapshot, w.snapshots[s]? = some snapshot → snapshot.group = none →
      E (.ungrouped snapshot.name) w)
    (hshown : ∀ (snapshot : Snapshot) group, w.snapshots[s]? = some snapshot →
      snapshot.group = some group →
      (showFirst w.views.length s).Ends (withUnopened w group builder counted hide)
        (fun _ w' => Q w.views.length (settle w.views.length w'))
        fun e w' => E e ({ w' with views := w'.views.take w.views.length }.record (.unopened e))) :
    (build s builder counted hide).Ends w Q E := by
  have hchain {c : ChainRef} {next : List FilterRef → Act ViewRef}
      (hnext : ∀ filters, (next filters).Ends w Q E) : (Act.chain c >>= next).Ends w Q E := by
    unfold Act.chain
    rw [Act.ends_bind, Act.ends_bind, Act.ends_get]
    exact Act.ends_found (fun filters _ => hnext filters) fun _ => hmissing
  unfold build
  rw [Act.ends_bind]
  refine Act.ends_snapshot (fun snapshot hs => hchain fun _ => hchain fun _ => ?_) fun _ => hmissing
  cases hgroup : snapshot.group with
  | none => exact Act.ends_throw.2 (hungrouped snapshot hs hgroup)
  | some group =>
    dsimp only
    rw [Act.ends_bind, Act.ends_get, Act.ends_bind, Act.ends_set, Act.ends_bind, Act.ends_onFailure]
    refine (hshown snapshot group hs hgroup).mono (fun _ w' h => ?_) fun _ _ h => h
    exact Act.ends_bind.2 (Act.ends_modify.2 (Act.ends_pure.2 h))

/-- Building a view leaves the others alone. -/
theorem build_framed (s : SnapshotRef) (builder : Builder) (counted : Bool) (hide : Value) :
    (build s builder counted hide).Within (World.Framed none) := by
  intro w
  have hrefl : World.Framed none w w := World.chains_framed.refl w
  refine ends_build hrefl (fun _ _ _ => hrefl) fun _ group _ _ => ?_
  have hopened := framed_unopened w (unopened w.settings group builder counted hide)
  refine (steps_showFirst s _).mono (fun _ w' h => ?_) fun e w' h => ?_
  · refine ((hopened.trans h.framed_silent).trans (settle_framed w')).of_own
      (fun view hview => by simp at hview) fun view hview => settle_idle hview
  · exact (framed_take (hopened.trans h.framed_silent) h.silent.1).trans
      (World.framed_record _ (by simp [Event.IsDispatch]))

/-- Another connection takes no connection away. -/
theorem framed_connect (w : World) (signal : Signal) (slot : Slot) :
    World.Framed none w (w.connect signal slot) :=
  ⟨[], .of_views rfl (by simp [World.connect]) (by simp) (.of_eq rfl) rfl
    fun _ hc _ _ => List.mem_append_left _ hc⟩

theorem enrol_framed (v : ViewRef) (view : View) (w : World) :
    World.Framed none w (enrol v view w) := by
  have hopened : World.Framed none w (w.record (.opened v (w.reading view))) :=
    World.framed_record w (by simp [Event.IsDispatch])
  exact ((hopened.trans (framed_connect _ _ _)).trans (framed_connect _ _ _)).trans
    (framed_connect _ _ _)

theorem openOn_framed (s : SnapshotRef) (c q : ChainRef) (scheduler : Option Scheduler)
    (counted : Bool) (hide : Value) :
    (openOn s c q scheduler counted hide).Within (World.Framed none) := by
  have hchains : Act.Chains (World.Framed none) := World.chains_framed
  unfold openOn
  refine (Act.within_get hchains).bind hchains fun w => ?_
  refine (build_framed s _ counted _).bind hchains fun v => ?_
  refine (Act.within_view hchains v).bind hchains fun view => ?_
  exact (Act.within_modify (enrol_framed v view)).bind hchains fun _ => Act.within_pure hchains _

/-- What there is to show of a relation so that views are opened within it: showing the first
snapshot is one step, after which the view is kept or taken back. -/
structure Welcomes (scheduler : Option Scheduler) (T : World → World → Prop) : Prop where
  chains : Act.Chains T
  shown : ∀ w group builder counted hide s, builder.scheduler = scheduler →
    ((showFirst w.views.length s).onFailure fun e w' =>
      { w' with views := w'.views.take w.views.length }.record (.unopened e)).Ends
        (withUnopened w group builder counted hide) (fun _ w' => T w (settle w.views.length w'))
        fun _ w' => T w w'
  enrolled : ∀ v view w, T w (enrol v view w)

/-- What a relation has to allow so that views are opened within it. -/
structure Admits (T : World → World → Prop) : Prop where
  chains : Act.Chains T
  started : ∀ w group builder counted hide, T w (withUnopened w group builder counted hide)
  steps : ∀ v w w', Steps (fun _ _ w => some w) v w w' → T w w'
  settled : ∀ v w, T w (settle v w)
  taken : ∀ n w e, T w ({ w with views := w.views.take n }.record (.unopened e))
  enrolled : ∀ v view w, T w (enrol v view w)

theorem Admits.welcomes {T : World → World → Prop} (hT : Admits T)
    (scheduler : Option Scheduler) : Welcomes scheduler T where
  chains := hT.chains
  shown w group builder counted hide s _ := by
    have hstarted := hT.started w group builder counted hide
    refine Act.ends_onFailure.2 ((steps_showFirst s _).mono (fun _ w' h => ?_) fun e w' h => ?_)
    · exact hT.chains.trans (hT.chains.trans hstarted (hT.steps _ _ _ h)) (hT.settled _ w')
    · exact hT.chains.trans (hT.chains.trans hstarted (hT.steps _ _ _ h)) (hT.taken _ w' e)
  enrolled := hT.enrolled

/-- A view is opened within a relation, or fails to open within it. -/
theorem Welcomes.openOn {T : World → World → Prop} {scheduler : Option Scheduler}
    (hT : Welcomes scheduler T) (s : SnapshotRef) (c q : ChainRef) (counted : Bool) (hide : Value) :
    (openOn s c q scheduler counted hide).Within T := by
  have hbuild (builder : Builder) (hide : Value) (hbuilder : builder.scheduler = scheduler) :
      (build s builder counted hide).Within T := fun w =>
    ends_build (hT.chains.refl w) (fun _ _ _ => hT.chains.refl w) fun _ group _ _ =>
      Act.ends_onFailure.1 (hT.shown w group builder counted hide s hbuilder)
  unfold View.openOn
  refine (Act.within_get hT.chains).bind hT.chains fun w => ?_
  refine (hbuild _ _ rfl).bind hT.chains fun v => ?_
  refine (Act.within_view hT.chains v).bind hT.chains fun view => ?_
  exact (Act.within_modify (hT.enrolled v view)).bind hT.chains fun _ =>
    Act.within_pure hT.chains _

/-- A view opens by showing its first snapshot, and is connected to its group afterwards. If it
fails to open, there is no view. -/
theorem openOn_ends (s : SnapshotRef) (c q : ChainRef) (scheduler : Option Scheduler)
    (counted : Bool) (hide : Value) (w : World) :
    (openOn s c q scheduler counted hide).Ends w
      (fun _ w' => ∃ group builder hide' w₁ view x,
        (showFirst w.views.length s).runIn (withUnopened w group builder counted hide') =
          some (.ok x, w₁) ∧
        (settle w.views.length w₁).views[w.views.length]? = some view ∧
        w' = enrol w.views.length view (settle w.views.length w₁))
      fun _ w' => w'.views[w.views.length]? = none := by
  have hnone : w.views[w.views.length]? = none := List.getElem?_eq_none (Nat.le_refl _)
  unfold openOn
  rw [Act.ends_bind, Act.ends_get]
  refine Act.Ends.bind (Q := fun u w' => ∃ group builder hide' w₁ x,
    (showFirst w.views.length s).runIn (withUnopened w group builder counted hide') =
      some (.ok x, w₁) ∧ u = w.views.length ∧ w' = settle w.views.length w₁)
    (ends_build hnone (fun _ _ _ => hnone) fun _ group _ _ => ⟨fun x w₁ hrun => ?_,
      fun e w₁ hrun => ?_⟩) fun u w' hopened => ?_
  · exact ⟨group, _, _, w₁, x, hrun, rfl, rfl⟩
  · exact List.getElem?_eq_none (List.length_take_le _ _)
  · obtain ⟨group, builder, hide', w₁, x, hrun, rfl, rfl⟩ := hopened
    rw [Act.ends_bind]
    refine Act.ends_view (fun view hview => ?_) fun hmissing => hmissing
    rw [Act.ends_bind, Act.ends_modify, Act.ends_pure]
    exact ⟨group, builder, hide', w₁, view, x, hrun, hview, rfl⟩

/-- A view that is closed forgets what waits, and only its own connections are removed. -/
theorem framed_shut {w : World} {v : ViewRef} {view : View} (hview : w.views[v]? = some view) :
    World.Framed none w (shut v w) := by
  have hself := World.views_modifyView_self (w := w.disconnect (.follow v)) hview
    fun view => { view with closed := true, pending := [] }
  refine ⟨[.closed v], rfl, .of_eq rfl, rfl,
    fun u before hu => ?_, fun u after _ hnone hsome => ?_, fun c hc u hu hopen => ?_⟩
  · by_cases huv : u = v
    · subst huv
      cases hview.symm.trans hu
      refine ⟨_, hself, ⟨rfl, rfl, rfl, fun _ => rfl⟩, fun _ => ⟨rfl, fun _ _ => rfl, ?_, ?_, ?_⟩⟩
      · intro _ hopen
        cases hopen
      · exact fun _ => ⟨rfl, rfl⟩
      · exact fun _ => rfl
    · exact ⟨before, (World.views_modifyView_of_ne _ huv _).trans hu, .refl before,
        fun _ => .refl before rfl rfl rfl⟩
  · by_cases huv : u = v
    · subst huv
      cases hview.symm.trans hnone
    · rw [shut, World.record, World.views_modifyView_of_ne _ huv] at hsome
      cases hnone.symm.trans hsome
  · refine List.mem_filter.2 ⟨hc, ?_⟩
    have huv : u ≠ v := by
      rintro rfl
      cases hopen _ hself
    simp [hu, huv]

theorem close_framed (ha : ∀ n w w', a v n w = some w' → World.Framed none w w') :
    (close a v).Within (World.Framed none) := by
  have hchains : Act.Chains (World.Framed none) := World.chains_framed
  intro w
  unfold close
  rw [Act.ends_bind]
  refine Act.ends_view (fun view hview => ?_) fun _ => hchains.refl w
  split
  · rw [Act.ends_bind, Act.ends_modify]
    exact Act.ends_yield.2 fun w' h => (framed_shut hview).trans (ha _ _ _ h)
  · exact Act.ends_pure.2 (hchains.refl w)

end View

namespace World

variable {R : Respond}

/-! ## Announcements and runs -/

theorem framed_signalled {own : Option ViewRef} (w : World) (signal : Signal) :
    Framed own w (w.record (.signalled signal)) :=
  framed_record w (by simp [Event.IsDispatch])

/-- What holds when a change that follows a signal has ended, with its failure noted if it has
failed, holds when the signal was followed. -/
theorem follow_ends {P : World → Prop} {signal : Signal} {v : ViewRef} {w w' : World}
    (hends : (View.mutate (announceView R) v (View.following signal)).Ends w (fun _ u => P u)
      fun e u => P (u.record (.uncaught e)))
    (h : w.follow R signal v = some w') : P w' := by
  obtain ⟨⟨r, u⟩, hu, hw'⟩ := Option.map_eq_some_iff.1 h
  cases r with
  | ok x =>
    cases hw'
    exact hends.1 x u hu
  | error e =>
    cases hw'
    exact hends.2 e u hu

section

variable (hR : ∀ k u u', R k u = some u' → Framed none u u')

include hR

theorem announceView_framed (v : ViewRef) (n : Notice) (w w' : World)
    (h : announceView R v n w = some w') : Framed none w w' :=
  announceView_within chains_framed hR (fun u _ => framed_record u (by simp [Event.IsDispatch]))
    (fun u => framed_signalled u _) h

theorem follow_framed {signal : Signal} {v : ViewRef} {w w' : World}
    (h : w.follow R signal v = some w') : Framed none w w' :=
  follow_ends ((View.mutate_framed (announceView_framed hR v) _ w).mono (fun _ _ h => h)
    fun _ u h => h.trans (framed_record u (by simp [Event.IsDispatch]))) h

/-- Whoever is called for a signal. -/
theorem call_framed {signal : Signal} (slot : Slot) (w w' : World) (h : (match slot with
      | .listener k => R k w
      | .follow v => w.follow R signal v) = some w') : Framed none w w' := by
  cases slot with
  | listener k => exact hR k w w' h
  | follow v => exact follow_framed hR h

theorem announceShared_framed {signal : Signal} {w w' : World}
    (h : announceShared R signal w = some w') : Framed none w w' :=
  emit_within chains_framed (fun slot u u' hu => call_framed hR slot u u' hu)
    (fun u => framed_signalled u _) h

/-- Every effect of a command leaves all views alone that a change is under way of. -/
theorem effect_framed {w w' : World} (h : Command.Effect R w w') : Framed none w w' := by
  have of_same_views {w w' : World} {es : List Event} (hviews : w'.views = w.views)
      (htrace : w'.trace = w.trace ++ es) (hes : ∀ e ∈ es, ¬ e.IsDispatch)
      (hsnapshots : SnapshotsKept es w w') (hgroups : w'.groups.length = w.groups.length)
      (hconnections : w'.connections = w.connections) : Framed none w w' :=
    ⟨es, .of_views hviews htrace hes hsnapshots hgroups fun _ hc _ _ => hconnections ▸ hc⟩
  cases h with
  | nothing => exact chains_framed.refl w
  | keep => exact of_same_views rfl (List.append_nil _).symm (by simp) (.of_eq rfl) rfl rfl
  | compare => exact of_same_views rfl (List.append_nil _).symm (by simp) (.archive rfl rfl) rfl rfl
  | edit r f hf =>
    refine of_same_views rfl rfl (by simp [Event.IsDispatch]) (.modify rfl fun s => ?_) rfl rfl
    rw [hf s]
    exact ⟨rfl, rfl, fun h => absurd List.mem_cons_self (h r)⟩
  | clearBlocks r =>
    exact of_same_views rfl rfl (by simp [Event.IsDispatch])
      (.modify rfl fun s => ⟨rfl, rfl, fun _ => ⟨rfl, rfl⟩⟩) rfl rfl
  | addRule => exact of_same_views rfl rfl (by simp [Event.IsDispatch]) (.of_eq rfl) rfl rfl
  | listen signal l =>
    have hadded : Framed none w { w with listeners := w.listeners ++ [l] } :=
      of_same_views rfl (List.append_nil _).symm (by simp) (.of_eq rfl) rfl rfl
    exact hadded.trans (View.framed_connect _ _ _)
  | unlisten k =>
    refine ⟨[], .of_views rfl (by simp [disconnect]) (by simp) (.of_eq rfl) rfl
      fun c hc v hv => List.mem_filter.2 ⟨hc, ?_⟩⟩
    simp [hv]
  | change h => exact (View.mutate_framed (announceView_framed hR _) _).of_runIn h
  | openView h => exact (View.openOn_framed _ _ _ _ _ _).of_runIn h
  | closeView h => exact (View.close_framed (announceView_framed hR _)).of_runIn h
  | @join _ g s _ h =>
    have hgroup : Framed none w (w.modifySnapshot s fun snapshot =>
        { snapshot with group := some g }) :=
      framed_modifySnapshot w s fun s => ⟨rfl, rfl, fun _ => ⟨rfl, rfl⟩⟩
    refine hgroup.trans (Framed.trans ?_ (announceShared_framed hR h))
    exact of_same_views rfl (List.append_nil _).symm (by simp) (.of_eq rfl)
      (List.length_modify _ _ _) rfl
  | leave _ h =>
    refine Framed.trans ?_ (announceShared_framed hR h)
    exact of_same_views rfl (List.append_nil _).symm (by simp) (.of_eq rfl)
      (List.length_modify _ _ _) rfl
  | rechain h =>
    refine Framed.trans ?_ (announceShared_framed hR h)
    exact of_same_views rfl (List.append_nil _).symm (by simp) (.of_eq rfl) rfl rfl
  | notify h => exact announceShared_framed hR h

end

/-- A run leaves all views alone that a change is under way of: it only makes changes wait for them,
or closes them. -/
theorem Reaches.framed {w w' : World} (h : Reaches w w') : Framed none w w' := by
  refine h.within chains_framed (fun w listeners => ?_) (fun w k c outcome views => ?_)
    fun R hR w w' h => effect_framed hR h
  · exact ⟨[], .of_views rfl (by simp) (by simp) (.of_eq rfl) rfl fun _ hc _ _ => hc⟩
  · exact framed_record w (by simp [Event.IsDispatch])

/-- What listeners do when a view announces something is framed. -/
theorem Listening.announceView_framed (hR : Listening R) (v : ViewRef) (n : Notice) (w w' : World)
    (h : announceView R v n w = some w') : Framed none w w' :=
  World.announceView_framed (fun k u u' hu => (hR k u u' hu).framed) v n w w' h

end World

end SnapshotViewer
