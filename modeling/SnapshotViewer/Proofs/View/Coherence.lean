import SnapshotViewer.Proofs.Run.ConcerningOneView
import SnapshotViewer.Proofs.View.Redrawing

/-!
# Coherence of runs

Only a change that fails partway can leave a view whose window, graph and diagram do not fit
together: a run in which none does keeps coherent views coherent and opens coherent views
(`World.Reaches.coherent`). A selection that returns leaves the window resolved, whatever was before
(`View.turns_runChange`). Its diagram is redrawn only if the window resolves to other snapshots than
the last time.
-/

namespace SnapshotViewer

namespace View

open World

variable {a : Announce} {v : ViewRef} {w w' : World} {view view' : View} {es : List Event}

/-- A view that looks the same as a coherent one is coherent. -/
theorem Coherent.of_sight (h : Coherent w view) (hkept : SnapshotsKept es w w')
    (hsight : view'.sight = view.sight) : Coherent w' view' := by
  simp only [sight, Prod.mk.injEq] at hsight
  obtain ⟨hgraphs, hwindow, hselection, hdiagram⟩ := hsight
  refine ⟨h.1.mono hkept hgraphs hwindow hselection, ?_⟩
  obtain ⟨s, d, hs, hd, hgraph⟩ := h.2
  rw [hd, Option.map_some] at hdiagram
  obtain ⟨d', hd', hgraph'⟩ := Option.map_eq_some_iff.1 hdiagram
  exact ⟨s, d', hselection.trans hs, hd', hgraph'.trans hgraph⟩

/-- No change of the view has failed partway. -/
def Whole (v : ViewRef) (es : List Event) : Prop := ∀ m, (m, true) ∉ failures v es

theorem Whole.left {es es' : List Event} (h : Whole v (es ++ es')) : Whole v es := fun m hm =>
  h m (by rw [failures_append]; exact List.mem_append_left _ hm)

theorem Whole.right {es es' : List Event} (h : Whole v (es ++ es')) : Whole v es' := fun m hm =>
  h m (by rw [failures_append]; exact List.mem_append_right _ hm)

/-! ## While a change is under way -/

/-- A busy view stays coherent unless a change of it fails partway. -/
def CoherentBusy (v : ViewRef) (w w' : World) : Prop :=
  ∃ es, w'.trace = w.trace ++ es ∧ ∀ view, w.views[v]? = some view → view.busy = true →
    ∃ view', w'.views[v]? = some view' ∧ view'.busy = true ∧
      (Whole v es → Coherent w view → Coherent w' view')

theorem chains_coherentBusy : Act.Chains (CoherentBusy v) := by
  refine ⟨fun w => ⟨[], (List.append_nil _).symm, fun view hview hbusy =>
    ⟨view, hview, hbusy, fun _ h => h⟩⟩, fun {w w' w''} h h' => ?_⟩
  obtain ⟨es, htrace, h⟩ := h
  obtain ⟨es', htrace', h'⟩ := h'
  refine ⟨es ++ es', by rw [htrace', htrace, List.append_assoc], fun view hview hbusy => ?_⟩
  obtain ⟨view', hview', hbusy', hcoherent⟩ := h view hview hbusy
  obtain ⟨view'', hview'', hbusy'', hcoherent'⟩ := h' view' hview' hbusy'
  exact ⟨view'', hview'', hbusy'', fun hes hw => hcoherent' hes.right (hcoherent hes.left hw)⟩

theorem coherentBusy_dispatch (w : World) {f : View → View}
    (hbusy : ∀ view, (f view).busy = view.busy)
    (hsight : ∀ view, (f view).sight = view.sight) : CoherentBusy v w (w.modifyView v f) := by
  refine ⟨[], (List.append_nil _).symm, fun view hview hb => ?_⟩
  have hkept : SnapshotsKept [] w (w.modifyView v f) := .of_eq rfl
  exact ⟨f view, views_modifyView_self hview f, (hbusy view).trans hb,
    fun _ h => h.of_sight hkept (hsight view)⟩

theorem takeWaiting_coherent : (takeWaiting v).Within (CoherentBusy v) := by
  refine takeWaiting_within chains_coherentBusy (fun w m => ?_) fun w rest => ?_
  · exact ⟨[.dropped v m], rfl, fun view hview hbusy => ⟨view, hview, hbusy, fun _ h => h⟩⟩
  · exact coherentBusy_dispatch w (fun _ => rfl) fun _ => rfl

variable (ha : ∀ n w w', a v n w = some w' → Framed none w w')

include ha

theorem carryOut_coherent (m : Mutation) : (carryOut a v m).Within (CoherentBusy v) := by
  intro w
  refine ends_carryOut (fun _ => chains_coherentBusy.refl w) fun view hview => ?_
  have hsteps := (steps_perform (a := a) (v := v) m (w.record (.begun v m))).mono
    (fun _ _ h => h.frame ha) fun _ _ h => h.frame ha
  have htrace {es : List Event} {w' : World} (h : OwnFrame v es (w.record (.begun v m)) w') :
      w'.trace = w.trace ++ ([.begun v m] ++ es) := by
    rw [h.1.trace, World.record, List.append_assoc]
  refine ⟨fun x w' hrun => ?_, fun e w' hrun => ?_⟩
  · obtain ⟨es, hes⟩ := hsteps.1 x w' hrun
    refine ⟨_, htrace hes, fun view₀ hview₀ hbusy => ?_⟩
    cases hview.symm.trans hview₀
    obtain ⟨view', hview', hbusy', hredrawn, hresolved⟩ :=
      (turns_perform ha m (w.record (.begun v m)) view hview hbusy).1 x w' hrun
    exact ⟨view', hview', hbusy', fun _ h => ⟨hresolved h.1, hredrawn.drawn h.2⟩⟩
  · obtain ⟨es, hes⟩ := hsteps.2 e w' hrun
    refine ⟨[.begun v m] ++ es ++
      [.failed v m e (w'.views[v]?.map sight != some view.sight)], ?_,
      fun view₀ hview₀ hbusy => ?_⟩
    · rw [World.record, htrace hes, List.append_assoc]
    cases hview.symm.trans hview₀
    obtain ⟨view', hview', hreceives⟩ := hes.2 view hview hbusy
    refine ⟨view', hview', hreceives.busy, fun hwhole hcoherent => ?_⟩
    -- The failure is not noted as one partway, so that the view looks as before the change.
    have hsight : view'.sight = view.sight := by
      have hnot := hwhole.right m
      rw [hview', Option.map_some] at hnot
      refine Decidable.byContradiction fun hne => hnot ?_
      simp [failures, hne]
    have hkept : SnapshotsKept es w w' := hes.1.snapshots
    exact hcoherent.of_sight hkept hsight

theorem runChange_coherent (m : Mutation) : (runChange a v m).Within (CoherentBusy v) :=
  (carryOut_coherent ha m).bind chains_coherentBusy fun _ =>
    drain_within chains_coherentBusy takeWaiting_coherent (carryOut_coherent ha)

end View

namespace World

open View

variable {v : ViewRef} {w w' : World} {R : Respond}

/-! ## Between changes -/

/-- An idle view is coherent. -/
def IdleCoherent (v : ViewRef) (w : World) : Prop :=
  ∀ view, w.views[v]? = some view → view.busy = false → Coherent w view

/-- An idle view stays coherent unless a change of it fails partway. -/
def CoherentWhileWhole (v : ViewRef) (w w' : World) : Prop :=
  ∃ es, w'.trace = w.trace ++ es ∧ (Whole v es → IdleCoherent v w → IdleCoherent v w')

theorem chains_coherentWhileWhole : Act.Chains (CoherentWhileWhole v) := by
  refine ⟨fun w => ⟨[], (List.append_nil _).symm, fun _ h => h⟩, fun {w w' w''} h h' => ?_⟩
  obtain ⟨es, htrace, h⟩ := h
  obtain ⟨es', htrace', h'⟩ := h'
  exact ⟨es ++ es', by rw [htrace', htrace, List.append_assoc],
    fun hes hw => h' hes.right (h hes.left hw)⟩

/-- A view that is busy in the end is not idle. -/
theorem coherentWhileWhole_of_busy {es : List Event} {view' : View}
    (htrace : w'.trace = w.trace ++ es) (hview' : w'.views[v]? = some view')
    (hbusy : view'.busy = true) : CoherentWhileWhole v w w' := by
  refine ⟨es, htrace, fun _ _ view hview hidle => ?_⟩
  cases hview.symm.trans hview'
  rw [hbusy] at hidle
  cases hidle

theorem Aside.coherent {es : List Event} (h : Aside v es w w') :
    CoherentWhileWhole v w w' := by
  refine ⟨es, h.trace, fun _ hw view' hview' hidle => ?_⟩
  rcases h.view with hsame | ⟨view, hview, hclosed⟩
  · exact (hw view' (hsame ▸ hview') hidle).of_sight h.snapshots rfl
  · cases hclosed.symm.trans hview'
    exact (hw view hview hidle).of_sight h.snapshots rfl

/-- A change of the view that arrives keeps it coherent unless it fails partway. -/
theorem mutate_coherent (hR : ∀ k u u', R k u = some u' → Framed none u u') (m : Mutation) :
    (View.mutate (announceView R) v m).Within (CoherentWhileWhole v) := by
  have hchains := chains_coherentWhileWhole (v := v)
  have ha := announceView_framed hR v
  have hlogged (w : World) (r : Log.Record) : CoherentWhileWhole v w (w.record (.logged r)) :=
    Aside.coherent (aside_of_views rfl rfl rfl rfl rfl rfl)
  have hdropped (w : World) (m : Mutation) : CoherentWhileWhole v w (w.record (.dropped v m)) :=
    Aside.coherent (aside_of_views rfl rfl rfl rfl rfl rfl)
  intro w
  refine ends_mutate (fun _ => hchains.refl w) (fun _ _ _ => hchains.refl w)
    (fun _ _ r _ _ _ => hchains.trans (hlogged w r) (hdropped _ m))
    (fun view _ r hview _ _ _ hbusy => ?_) fun view _ hview _ _ _ hidle => ?_
  · refine coherentWhileWhole_of_busy (List.append_assoc _ _ _)
      (views_modifyView_self (w := (w.record _).record _) hview _) ?_
    exact hbusy
  · have hstart := views_modifyView_self hview fun view => { view with busy := true }
    have hend {w' : World} (h : CoherentBusy v
        (w.modifyView v fun view => { view with busy := true }) w') :
        CoherentWhileWhole v w (settle v w') := by
      obtain ⟨es, htrace, h⟩ := h
      obtain ⟨view', hview', -, hcoherent⟩ := h _ hstart rfl
      refine ⟨es, htrace, fun hwhole hw after hafter _ => ?_⟩
      cases (views_modifyView_self hview' _).symm.trans hafter
      have hbefore := hw view hview hidle
      have hkept : SnapshotsKept [] w (w.modifyView v fun view => { view with busy := true }) :=
        .of_eq rfl
      have hkept' : SnapshotsKept [] w' (settle v w') := .of_eq rfl
      exact (hcoherent hwhole (hbefore.of_sight hkept rfl)).of_sight hkept' rfl
    exact (runChange_coherent ha m _).mono (fun _ _ h => hend h) fun _ _ h => hend h

/-- A view that has opened is coherent: there was no graph before that could have been kept. -/
theorem showFirst_coherent {group : GroupRef} {builder : Builder} {counted : Bool} {hide : Value}
    {s : SnapshotRef} {x : Unit} (h : (View.showFirst w.views.length s).runIn
      (View.withUnopened w group builder counted hide) = some (.ok x, w')) :
    ∃ view', w'.views[w.views.length]? = some view' ∧ Coherent w' view' := by
  have ha (n : Notice) (u u' : World) (hu : (some u : Option World) = some u') :
      Framed none u u' := by
    cases hu
    exact chains_framed.refl u
  have hturns : Turns w.views.length Resolves (View.showFirst w.views.length s) := by
    refine Turns.thenResolves ?_ fun _ => turns_answer (turns_selectGraph ha s)
    exact turns_after (Act.within_view Command.chains_eq _) fun _ => turns_refilterWith _
  have hfound : (View.withUnopened w group builder counted hide).views[w.views.length]? =
      some (unopened w.settings group builder counted hide) := List.getElem?_concat_length
  obtain ⟨view', hview', -, hredrawn, hresolved⟩ := (hturns _ _ hfound rfl).1 x w' h
  refine ⟨view', hview', hresolved, hredrawn.resolve_right fun hsame => ?_⟩
  obtain ⟨selection, hselection, -⟩ := hresolved
  cases hselection.symm.trans hsame.1

/-- Opening a view. -/
theorem openOn_coherent {s : SnapshotRef} {c q : ChainRef} {scheduler : Option Scheduler}
    {counted : Bool} {hide : Value} {r : Except Failure ViewRef} (hw : w.views.length = v)
    (h : (View.openOn s c q scheduler counted hide).runIn w = some (r, w')) :
    CoherentWhileWhole v w w' := by
  subst hw
  obtain ⟨es, hframe⟩ := (View.openOn_framed s c q scheduler counted hide).of_runIn h
  refine ⟨es, hframe.trace, fun _ _ view' hview' hidle => ?_⟩
  have hends := View.openOn_ends s c q scheduler counted hide w
  cases r with
  | error e => cases hview'.symm.trans (hends.2 e w' h)
  | ok u =>
    obtain ⟨group, builder, hide', w₁, view, x, hrun, hview, rfl⟩ := hends.1 u w' h
    obtain ⟨before, hbefore, hcoherent⟩ := showFirst_coherent hrun
    have hsettled := views_modifyView_self hbefore
      fun view => { view with pending := [], busy := false }
    cases hsettled.symm.trans hview'
    have hkept : SnapshotsKept [] w₁ (settle w.views.length w₁) := .of_eq rfl
    exact hcoherent.of_sight hkept rfl

theorem concerns_coherent : Concerns v (CoherentWhileWhole v) where
  chains := chains_coherentWhileWhole
  elsewhere _ _ _ h := h.aside.coherent
  mutate _ hR := mutate_coherent fun k u u' hu => (hR k u u' hu).1
  opened _ _ _ _ _ _ _ _ _ hw h := openOn_coherent hw h
  closed _ _ hview _ := by
    obtain ⟨es, haside⟩ := aside_shut hview
    exact haside.coherent

/-- What views share is not among what a view resolves or draws. -/
theorem shares_coherent : Shares (CoherentWhileWhole v) where
  regrouped R hR g w w₁ w' hregroups hw' := by
    have hfirst : CoherentWhileWhole v w w₁ := by
      refine ⟨[], by rw [hregroups.trace, List.append_nil], fun _ hw view hview hidle => ?_⟩
      rw [hregroups.views] at hview
      exact (hw view hview hidle).of_sight hregroups.snapshots rfl
    exact chains_coherentWhileWhole.trans hfirst (concerns_coherent.announceGroup hR hw')
  rechained R hR c filters w w' hw' := by
    have hfirst : CoherentWhileWhole v w (w.setChain c filters) :=
      Aside.coherent (aside_of_views (List.append_nil _).symm rfl rfl rfl rfl rfl)
    refine chains_coherentWhileWhole.trans hfirst (concerns_coherent.announceShared hR ?_ hw')
    exact Aside.coherent (aside_of_views rfl rfl rfl rfl rfl rfl)
  notified R hR c w w' hw' := concerns_coherent.announceShared hR
    (Aside.coherent (aside_of_views rfl rfl rfl rfl rfl rfl)) hw'
  ruled w f filter := Aside.coherent (aside_of_views rfl rfl rfl rfl rfl rfl)

/-- Runs keep coherent views coherent and open coherent views, unless a change fails partway. -/
theorem Reaches.coherent (h : Reaches w w') : CoherentWhileWhole v w w' :=
  concerns_coherent.reaches shares_coherent h

theorem Reachable.coherent (h : w.Reachable) {view : View} (hview : w.views[v]? = some view)
    (hwhole : Whole v w.trace) : Coherent w view := by
  obtain ⟨hidle, -⟩ := h.idle hview
  obtain ⟨w₀, commands, hinitial, hrun⟩ := h
  obtain ⟨es, htrace, hcoherent⟩ := (reaches_run hrun).coherent (v := v)
  rw [hinitial.trace, List.nil_append] at htrace
  refine hcoherent (htrace ▸ hwhole) (fun before hbefore => ?_) view hview hidle
  rw [hinitial.views] at hbefore
  cases hbefore

end World

namespace View

open World

variable {a : Announce} {R : Respond} {v : ViewRef} {w w' : World} {view : View} {group : Group}
  {m : Mutation}

/-! ## Calls that return -/

theorem turns_onFailure {P : Effect} {α : Type} {act : Act α}
    {change : Failure → World → World} (h : Turns v P act) : Turns v P (act.onFailure change) :=
  fun w view hview hbusy => Act.ends_onFailure.2 ((h w view hview hbusy).mono
    (fun _ _ h => h) fun _ _ _ => trivial)

/-- Noting that a change begins changes nothing of the view. -/
theorem turns_begun (m : Mutation) : Turns v Refreshes (Act.record (.begun v m)) :=
  turns_of_stored (Act.within_modify fun _ => ⟨rfl, [], .of_eq rfl⟩)

theorem turns_drop (ms : List Mutation) : Turns v Refreshes (drop v ms) :=
  turns_of_stored (Act.within_modify fun _ => ⟨rfl, [], .of_eq rfl⟩)

section

variable (ha : ∀ n w w', a v n w = some w' → Framed none w w')

include ha

theorem turns_carryOut (m : Mutation) : Turns v Refreshes (carryOut a v m) := by
  refine turns_after (Act.within_view Command.chains_eq v) fun before => ?_
  exact (turns_begun m).refreshes fun _ => turns_onFailure (turns_perform ha m)

theorem turns_carryOut_of_selects (hm : Selects m) : Turns v Resolves (carryOut a v m) := by
  refine turns_after (Act.within_view Command.chains_eq v) fun before => ?_
  exact (turns_begun m).toRedraws.thenResolves fun _ =>
    turns_onFailure (turns_perform_of_selects ha hm)

theorem turns_drain : Turns v Refreshes (drain a v) := by
  intro w view hview hbusy
  refine drain_ends
    (I := fun u => ∃ x, u.views[v]? = some x ∧ x.busy = true ∧ Refreshes w view u x)
    (J := fun _ u => ∃ x, u.views[v]? = some x ∧ x.busy = true ∧ Refreshes w view u x)
    (fun u hu => ?_) (fun m u hu => ?_) ⟨view, hview, hbusy, .refl w view⟩
  · obtain ⟨x, hx, hbusy, hrefreshes⟩ := hu
    have hturns : Turns v Refreshes (takeWaiting v) := by
      refine turns_after (Act.within_view Command.chains_eq v) fun view => ?_
      split
      · exact turns_of_same (Act.within_pure Command.chains_eq _)
      · refine Turns.refreshes (turns_display (fun _ => rfl) (fun _ => rfl) (fun _ => rfl)
          (fun _ => rfl) fun _ => rfl) fun _ => ?_
        refine turns_after (isIdle_within Command.chains_eq) fun idle => ?_
        split
        · exact (turns_drop _).refreshes fun _ =>
            turns_of_same (Act.within_pure Command.chains_eq _)
        · exact turns_of_same (Act.within_pure Command.chains_eq _)
    refine (hturns u x hx hbusy).mono (fun next u' hu' => ?_) fun _ _ h => h
    obtain ⟨x', hx', hbusy', hnext⟩ := hu'
    have h : ∃ x, u'.views[v]? = some x ∧ x.busy = true ∧ Refreshes w view u' x :=
      ⟨x', hx', hbusy', hrefreshes.1.trans hnext.1, fun hr => hnext.2 (hrefreshes.2 hr)⟩
    cases next with
    | none => exact h
    | some m => exact h
  · obtain ⟨x, hx, hbusy, hrefreshes⟩ := hu
    refine (turns_carryOut ha m u x hx hbusy).mono (fun _ u' hu' => ?_) fun _ _ h => h
    obtain ⟨x', hx', hbusy', hnext⟩ := hu'
    exact ⟨x', hx', hbusy', hrefreshes.1.trans hnext.1, fun hr => hnext.2 (hrefreshes.2 hr)⟩

theorem turns_runChange (hm : Selects m) : Turns v Resolves (runChange a v m) :=
  (turns_carryOut_of_selects ha hm).resolves fun _ => turns_drain ha

end

end View

end SnapshotViewer
