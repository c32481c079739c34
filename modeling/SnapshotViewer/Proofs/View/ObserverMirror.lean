import SnapshotViewer.Proofs.View.DueNotices
import SnapshotViewer.Proofs.View.FollowingGroups

/-!
# What observers hold of a view

Between changes nothing is left to be announced of a view, as long as no change of it has failed:
every operation of the view announces what it has written (`View.runChange_tunes`), and whatever
else happens either does not touch the view, makes a change wait, or closes the view, which is
announced too (`World.StaysTuned`). Main statement: `World.Reachable.mirror_exact`.
-/

namespace SnapshotViewer

namespace View

open World

variable {v : ViewRef} {w w' w'' : World} {es es' : List Event}

/-- What is selected is shown for its two snapshots, if it was so before. -/
theorem Write.selectionShows {view view' : View} (h : Write w view view')
    (hbefore : ∀ s, view.selection = some s → s.Shows w) (s : Selection)
    (hs : view'.selection = some s) : s.Shows w := by
  cases h with
  | select t ht =>
    cases hs
    exact ht
  | _ => exact hbefore s hs

theorem Undisturbed.refl (w : World) : Undisturbed v [] w w where
  trace := (List.append_nil _).symm
  snapshots := .of_eq rfl
  view view hview _ := ⟨view.closed, view.pending, hview⟩
  interlude _ _ _ _ := interlude_of_quiet (by simp)

theorem Undisturbed.trans (h : Undisturbed v es w w') (h' : Undisturbed v es' w' w'') :
    Undisturbed v (es ++ es') w w'' where
  trace := by rw [h'.trace, h.trace, List.append_assoc]
  snapshots := h.snapshots.trans h'.snapshots
  view view hview hbusy := by
    obtain ⟨closed, pending, hview'⟩ := h.view view hview hbusy
    obtain ⟨closed', pending', hview''⟩ := h'.view _ hview' hbusy
    exact ⟨closed', pending', hview''⟩
  interlude view hview hbusy hresolved := by
    obtain ⟨closed, pending, hview'⟩ := h.view view hview hbusy
    have hsecond := h'.interlude _ hview' hbusy (hresolved.mono h.snapshots rfl rfl rfl)
    have hreading := hresolved.reading_eq h.snapshots view.busy closed pending
    exact (h.interlude view hview hbusy hresolved).append (hreading ▸ hsecond)

end View

namespace World

open View

/-- Nothing is left to be announced of a view when no change of it is under way, unless one has
failed. -/
def TunedIdle (v : ViewRef) (w : World) : Prop :=
  failures v w.trace = [] → ∀ view, w.views[v]? = some view → view.busy = false → Tuned v [] w view

/-- A change of a view that is under way is not disturbed, and between changes there is still
nothing left to be announced. -/
structure StaysTuned (v : ViewRef) (w w' : World) : Prop where
  undisturbed : ∃ es, Undisturbed v es w w'
  idle : TunedIdle v w → TunedIdle v w'

/-- The graph that a view has selected is what is shown for its two snapshots. -/
def SelectionShows (v : ViewRef) (w : World) : Prop :=
  ∀ view s, w.views[v]? = some view → view.selection = some s → s.Shows w

variable {R : Respond} {v : ViewRef} {w w' w'' : World} {view : View} {es es' : List Event}

/-! ## Rules -/

theorem chains_undisturbed : Act.Chains fun w w' => ∃ es, Undisturbed v es w w' :=
  ⟨fun w => ⟨[], .refl w⟩, fun ⟨_, h⟩ ⟨_, h'⟩ => ⟨_, h.trans h'⟩⟩

theorem chains_staysTuned : Act.Chains (StaysTuned v) :=
  ⟨fun w => ⟨chains_undisturbed.refl w, id⟩,
    fun h h' => ⟨chains_undisturbed.trans h.undisturbed h'.undisturbed,
      fun hw => h'.idle (h.idle hw)⟩⟩

/-- A change that has failed is not forgotten. -/
theorem flawless_before (htrace : w'.trace = w.trace ++ es) (h : failures v w'.trace = []) :
    failures v w.trace = [] := by
  rw [htrace, failures_append, List.append_eq_nil_iff] at h
  exact h.1

/-- Nothing is told of the view, and at most what waits for it is another. -/
theorem staysTuned_of_unheard (h : Unheard v w w') (pending : View → List Mutation)
    (hviews : w'.views[v]? =
      w.views[v]?.map fun view => { view with pending := pending view }) : StaysTuned v w w' := by
  obtain ⟨es, htrace, hes, hkept⟩ := id h
  refine ⟨⟨es, htrace, hkept, fun view hview _ => ?_, fun _ _ _ _ => interlude_of_quiet hes⟩,
    fun hw hflawless view' hview' hidle => ?_⟩
  · rw [hview, Option.map_some] at hviews
    exact ⟨view.closed, pending view, hviews⟩
  · obtain ⟨view, hview, rfl⟩ := Option.map_eq_some_iff.1 (hviews.symm.trans hview')
    exact (hw (flawless_before htrace hflawless) view hview hidle).dispatch h view.busy view.closed
      (pending view)

/-- Nothing is told of the view, and it stays as it is. -/
theorem staysTuned_of_same (h : Unheard v w w') (hviews : w'.views[v]? = w.views[v]?) :
    StaysTuned v w w' := by
  refine staysTuned_of_unheard h View.pending ?_
  rw [hviews]
  exact Option.map_id'.symm ▸ rfl

theorem staysTuned_record (w : World) {e : Event} (he : ¬ e.Tells v) :
    StaysTuned v w (w.record e) := staysTuned_of_same (unheard_record w he) rfl

theorem Elsewhere.unheard (h : Elsewhere v es w w') : Unheard v w w' := by
  refine ⟨es, h.trace, fun e he htells => h.silent e he ?_, h.snapshots⟩
  cases e <;> simp_all [Event.Tells, Event.Regards]

/-- A view is closed, which is announced. What can be read off it is what could be read before. -/
theorem staysTuned_shut (hview : w.views[v]? = some view) :
    StaysTuned v w ((View.shut v w).noteReading v .windowChanged) := by
  have hself : (View.shut v w).views[v]? = some { view with closed := true, pending := [] } :=
    views_modifyView_self (w := w.disconnect _) hview _
  rw [noteReading_of_found hself]
  let r := (View.shut v w).reading { view with closed := true, pending := [] }
  have hkept {es : List Event} :
      SnapshotsKept es w ((View.shut v w).record (.announced v .windowChanged r)) := .of_eq rfl
  have htrace : ((View.shut v w).record (.announced v .windowChanged r)).trace =
      w.trace ++ [.closed v, .announced v .windowChanged r] := List.append_assoc ..
  have hconfirms (h : Resolved w view) :
      Interlude v (w.reading view) [.closed v, .announced v .windowChanged r] := by
    have hshut : SnapshotsKept [] w (View.shut v w) := .of_eq rfl
    have hreading : r = w.reading view := h.reading_eq hshut view.busy true []
    exact hreading ▸ interlude_of_closed
  refine ⟨⟨_, htrace, hkept, fun before hbefore _ => ?_, fun before hbefore _ hresolved => ?_⟩,
    fun hw hflawless view' hview' hidle => ?_⟩
  · cases hview.symm.trans hbefore
    exact ⟨true, [], hself⟩
  · cases hview.symm.trans hbefore
    exact hconfirms hresolved
  · cases hself.symm.trans hview'
    have htuned := hw (flawless_before htrace hflawless) view hview hidle
    exact htuned.confirmed htrace (hconfirms (htuned.resolved List.not_mem_nil)).confirms hkept
      view.busy true []

/-! ## Changes -/

theorem announceView_undisturbed (hR : CallsWithin R (StaysTuned v)) (n : Notice) (w w' : World)
    (h : announceView R v n w = some w') : ∃ es, Undisturbed v es (w.noteReading v n) w' :=
  announced_within chains_undisturbed (fun k u u' hu => (hR k u u' hu).2.2.undisturbed)
    (fun u => (staysTuned_record u id).undisturbed) h

/-- A change that is carried out leaves nothing to be announced, unless it fails. -/
theorem runChange_tunedIdle (hR : CallsWithin R (StaysTuned v)) (m : Mutation)
    (hview : w.views[v]? = some view) (htuned : Tuned v [] w view) :
    (runChange (announceView R) v m).Ends (w.modifyView v fun view => { view with busy := true })
      (fun _ w' => TunedIdle v (settle v w')) fun _ w' => TunedIdle v (settle v w') := by
  have hstart : Tunes v [] (w.modifyView v fun view => { view with busy := true }) :=
    ⟨_, views_modifyView_self hview _, rfl,
      htuned.dispatch (unheard_modifyView w _) true view.closed view.pending⟩
  have hsettle {w' : World} (h : Tunes v [] w') : TunedIdle v (settle v w') := by
    intro _ view' hview' _
    obtain ⟨x, hx, -, htuned'⟩ := h
    cases (views_modifyView_self hx _).symm.trans hview'
    exact htuned'.dispatch (unheard_modifyView w' _) false x.closed []
  refine (runChange_tunes (announceView_undisturbed hR) m hstart).mono (fun _ _ h => hsettle h)
    fun _ w' h => ?_
  rcases h with hfailed | h
  · exact fun hflawless => absurd hflawless hfailed
  · exact hsettle h

theorem mutate_staysTuned (hR : CallsWithin R (StaysTuned v)) (m : Mutation) :
    (View.mutate (announceView R) v m).Within (StaysTuned v) := by
  have hc := chains_staysTuned (v := v)
  have hlogged (w : World) (r : Log.Record) : StaysTuned v w (w.record (.logged r)) :=
    staysTuned_record w id
  have hdropped (w : World) (m : Mutation) : StaysTuned v w (w.record (.dropped v m)) :=
    staysTuned_record w id
  have hdeferred (w : World) (m : Mutation) : StaysTuned v w ((w.record (.deferred v m)).modifyView
      v fun view => { view with pending := view.pending ++ [m] }) := by
    refine staysTuned_of_unheard ⟨[.deferred v m], rfl, by simp [Event.Tells], .of_eq rfl⟩
      (fun view => view.pending ++ [m]) ?_
    rw [views_modifyView, if_pos rfl]
    rfl
  intro w
  refine View.ends_mutate (fun _ => hc.refl w) (fun _ _ _ => hc.refl w)
    (fun _ _ r _ _ _ => hc.trans (hlogged w r) (hdropped _ m))
    (fun _ _ r _ _ _ _ _ => hc.trans (hlogged w r) (hdeferred _ m))
    fun view _ hview _ _ _ hidle => ?_
  have hframed := (View.carries_framed (v := v)
    (announceView_framed (fun k u u' hu => (hR k u u' hu).1) v)).runChange m
      (w.modifyView v fun view => { view with busy := true })
  have hend {w' : World} (h : Framed (some v)
      (w.modifyView v fun view => { view with busy := true }) w')
      (htuned : TunedIdle v w → failures v w.trace = [] → TunedIdle v (settle v w')) :
      StaysTuned v w (settle v w') := by
    obtain ⟨es, hframe⟩ := h
    refine ⟨⟨es, hframe.trace, hframe.snapshots, fun before hbefore hbusy => ?_,
      fun before hbefore hbusy => ?_⟩, fun hw hflawless => ?_⟩
    · cases hview.symm.trans hbefore
      cases hidle.symm.trans hbusy
    · cases hview.symm.trans hbefore
      cases hidle.symm.trans hbusy
    · exact htuned hw (flawless_before hframe.trace hflawless) hflawless
  by_cases h : TunedIdle v w ∧ failures v w.trace = []
  · have htuned := runChange_tunedIdle hR m hview (h.1 h.2 view hview hidle)
    exact (hframed.and htuned).mono (fun _ _ h' => hend h'.1 fun _ _ => h'.2)
      fun _ _ h' => hend h'.1 fun _ _ => h'.2
  · exact hframed.mono (fun _ _ h' => hend h' fun hw hflawless => absurd ⟨hw, hflawless⟩ h)
      fun _ _ h' => hend h' fun hw hflawless => absurd ⟨hw, hflawless⟩ h

/-! ## Opening -/

/-- No step of a change selects a graph but for the two snapshots that it is shown for. -/
theorem Steps.selectionShows {a : Announce} (ha : ∀ n w w', a v n w = some w' →
    SelectionShows v w → SelectionShows v w') (h : Steps a v w w') :
    SelectionShows v w → SelectionShows v w' := by
  have hc : Act.Chains fun w w' => SelectionShows v w → SelectionShows v w' :=
    ⟨fun _ => id, fun h h' hw => h' (h hw)⟩
  have hrenders : Renders fun w w' => SelectionShows v w → SelectionShows v w' := by
    refine renders_stored.mono hc fun w w' ⟨hviews, es, hkept⟩ hw view s hview hs => ?_
    exact Shows.mono (hw view s (hviews ▸ hview) hs) hkept
  refine Steps.within hrenders (fun w f hf hw view s hview hs => ?_) ha h
  have hkept : SnapshotsKept [] w (w.modifyView v f) := .of_eq rfl
  rw [views_modifyView, if_pos rfl] at hview
  obtain ⟨before, hbefore, rfl⟩ := Option.map_eq_some_iff.1 hview
  exact Shows.mono ((hf before hbefore).selectionShows (fun t ht => hw before t hbefore ht) s hs)
    hkept

/-- A view that has opened shows what its window resolves to. -/
theorem showFirst_shows {group : GroupRef} {builder : Builder} {counted : Bool} {hide : Value}
    {s : SnapshotRef} {x : Unit} (h : (View.showFirst w.views.length s).runIn
      (View.withUnopened w group builder counted hide) = some (.ok x, w')) :
    ∃ view' t, w'.views[w.views.length]? = some view' ∧ Resolved w' view' ∧
      view'.selection = some t ∧ t.Shows w' := by
  obtain ⟨view', hview', hresolved, -⟩ := showFirst_coherent h
  have hsteps := (steps_showFirst s (View.withUnopened w group builder counted hide)).1 x w' h
  obtain ⟨t, ht, -⟩ := id hresolved
  refine ⟨view', t, hview', hresolved, ht, ?_⟩
  refine Steps.selectionShows (v := w.views.length) (fun n u u' hu => ?_) hsteps
    (fun view s hview hs => ?_) view' t hview' ht
  · cases hu
    exact id
  · cases (List.getElem?_concat_length).symm.trans hview
    cases hs

theorem openOn_staysTuned {s : SnapshotRef} {c q : ChainRef} {scheduler : Option Scheduler}
    {counted : Bool} {hide : Value} {r : Except Failure ViewRef} (hw : w.views.length = v)
    (h : (View.openOn s c q scheduler counted hide).runIn w = some (r, w')) :
    StaysTuned v w w' := by
  subst hw
  obtain ⟨es, hframe⟩ := (View.openOn_framed s c q scheduler counted hide).of_runIn h
  have hnone : w.views[w.views.length]? = none := List.getElem?_eq_none (Nat.le_refl _)
  refine ⟨⟨es, hframe.trace, hframe.snapshots, fun view hview => ?_, fun view hview => ?_⟩,
    fun _ _ view' hview' _ => ?_⟩
  · cases hnone.symm.trans hview
  · cases hnone.symm.trans hview
  have hends := View.openOn_ends s c q scheduler counted hide w
  cases r with
  | error e => cases hview'.symm.trans (hends.2 e w' h)
  | ok u =>
    obtain ⟨group, builder, hide', w₁, view, x, hrun, hview, rfl⟩ := hends.1 u w' h
    cases hview.symm.trans hview'
    obtain ⟨before, t, hbefore, hresolved, ht, hshows⟩ := showFirst_shows hrun
    cases (views_modifyView_self hbefore _).symm.trans hview
    have hkept : SnapshotsKept [] w₁ (settle w.views.length w₁) := .of_eq rfl
    have hresolved' : Resolved (settle w.views.length w₁)
        { before with pending := [], busy := false } := hresolved.mono hkept rfl rfl rfl
    obtain ⟨t', ht', hshown⟩ := hresolved'.shown_reading
    cases ht.symm.trans ht'
    exact ⟨mirrored_opened .., ⟨_, t, .opened .., ht, Shows.mono hshows hkept, hshown⟩,
      fun _ => hresolved'⟩

/-! ## Runs -/

theorem concerns_staysTuned : Concerns v (StaysTuned v) where
  chains := chains_staysTuned
  elsewhere _ _ _ h := staysTuned_of_same h.unheard h.view
  mutate _ hR m := mutate_staysTuned hR m
  opened _ _ _ _ _ _ _ _ _ hw h := openOn_staysTuned hw h
  closed _ _ hview _ := chains_staysTuned.trans (staysTuned_shut hview) (staysTuned_record _ id)

/-- What views share can be changed without anything being told of a view. -/
theorem shares_staysTuned : Shares (StaysTuned v) where
  regrouped R hR g w w₁ w' hregroups hw' := by
    have hfirst : StaysTuned v w w₁ := by
      refine staysTuned_of_same ⟨[], ?_, by simp, hregroups.snapshots⟩ (by rw [hregroups.views])
      rw [hregroups.trace, List.append_nil]
    exact chains_staysTuned.trans hfirst (concerns_staysTuned.announceGroup hR hw')
  rechained R hR c filters w w' hw' := by
    have hfirst : StaysTuned v w (w.setChain c filters) :=
      staysTuned_of_same ⟨[], (List.append_nil _).symm, by simp, .of_eq rfl⟩ rfl
    exact chains_staysTuned.trans hfirst
      (concerns_staysTuned.announceShared hR (staysTuned_record _ id) hw')
  notified R hR c w w' hw' :=
    concerns_staysTuned.announceShared hR (staysTuned_record w id) hw'
  ruled w f filter := staysTuned_of_same ⟨[.ruled f], rfl, by simp [Event.Tells], .of_eq rfl⟩ rfl

/-- A run leaves nothing to be announced between the changes of a view, unless one fails. -/
theorem Reaches.staysTuned (h : Reaches w w') : StaysTuned v w w' :=
  concerns_staysTuned.reaches shares_staysTuned h

theorem Reachable.tuned (hw : w.Reachable) (hview : w.views[v]? = some view)
    (hflawless : failures v w.trace = []) : Tuned v [] w view := by
  obtain ⟨hidle, -⟩ := hw.idle hview
  obtain ⟨w₀, commands, hinitial, hrun⟩ := hw
  refine (reaches_run hrun).staysTuned.idle (fun _ before hbefore => ?_) hflawless view hview hidle
  rw [hinitial.views] at hbefore
  cases hbefore

/-- Every observable change is announced: whatever commands were carried out, and whatever listeners
did meanwhile, an observer who has read everything when a view was opened, and since then at each
notice what the notice is about, holds exactly what can be read off the view now, if no change of it
has failed. It does not matter at what moment of a delivery the observer reads: until a notice is
delivered, nothing changes that can be read off the view (`View.Delivered.reading`). -/
theorem Reachable.mirror_exact (hw : w.Reachable) (hview : w.views[v]? = some view)
    (hflawless : failures v w.trace = []) : mirror v w.trace = some (w.reading view) :=
  (hw.tuned hview hflawless).mirrored.eq

/-- A session can go on from `duplicateHidden` by comparing the third snapshot with the first
one. -/
theorem reachable_compared {r : Except Failure Unit}
    (h : (View.mutate (announceView fun _ w => some w) 0 (.selectDifference 2)).runIn
      duplicateHidden = some (r, w)) : w.Reachable := by
  refine reachable_duplicateHidden.execute (c := .selectDifference 0 2)
    (r := r.map fun _ => .done) (by decide +kernel) ?_
  have hplace : duplicateHidden.pool[2]? = some 2 := by decide +kernel
  rw [Command.execute, Act.runIn_bind_ok (Command.runIn_pooled hplace), Command.runIn_change, h]
  rfl

theorem mirror_exact_duplicateHidden : ∃ (w : World) (view : View), w.Reachable ∧
    w.views[0]? = some view ∧ view.graphs = [0, 2] ∧ view.window = ⟨0, 1⟩ ∧
    failures 0 w.trace = [] ∧ mirror 0 w.trace = some (w.reading view) := by
  obtain ⟨⟨r, w⟩, hrun, hseen⟩ := Option.any_eq_true _ _ |>.1 duplicateHidden_compare
  obtain ⟨hflawless, -, -, view, hview, -, -, hgraphs, hwindow⟩ := of_decide_eq_true hseen
  have hreached := reachable_compared hrun
  exact ⟨w, view, hreached, hview, hgraphs, hwindow, hflawless,
    hreached.mirror_exact hview hflawless⟩

end World

end SnapshotViewer
