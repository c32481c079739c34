import SnapshotViewer.Proofs.View.ChangeParts
import SnapshotViewer.Proofs.View.ObserverMirror

/-!
# What services are called for

Comparing two snapshots, assigning blocks and running filters are calls of services, and each is
noted. `Accounted` says that a trace has no calls but those that it gives a reason for: another
graph is announced next, a view is opened, or a change of a filter chain is followed. Two snapshots
are compared once for each graph that is shown for them. As long as nothing fails, every command
keeps its calls accounted for. Main statement: `World.Reachable.calls_accounted`.
-/

namespace SnapshotViewer

/-- The event is a call of a service. -/
def Event.IsCall : Event → Prop
  | .compared .. | .scheduled _ | .filtered _ => True
  | _ => False

/-- The event is one that services are called for: a view is opened, or announces another graph. -/
def Event.HasCalls : Event → Prop
  | .opened .. | .announced _ .graphChanged _ => True
  | _ => False

/-- The event says that something has failed. -/
def Event.isFailure : Event → Bool
  | .failed .. | .unopened _ => true
  | _ => false

/-- Nothing has failed: neither a change of a view, nor to open one. -/
def Flawless (es : List Event) : Prop := ∀ e ∈ es, e.isFailure = false

instance (es : List Event) : Decidable (Flawless es) :=
  inferInstanceAs (Decidable (∀ e ∈ es, e.isFailure = false))

/-- What happens while a view is opened: it shows two snapshots, maybe after others, each time other
ones than the time before. -/
inductive Opening : List Event → Option (SnapshotRef × SnapshotRef) → Prop where
  | nil : Opening [] none
  | logged {es : List Event} {ends : Option (SnapshotRef × SnapshotRef)} (h : Opening es ends)
      (r : Log.Record) : Opening (es ++ [.logged r]) ends
  | shown {es notes : List Event} {ends : Option (SnapshotRef × SnapshotRef)}
      {first second : SnapshotRef} (h : Opening es ends) (hnotes : ∀ e ∈ notes, e.IsNote)
      (hcomparisons : comparisons notes = comparisonsFor first second)
      (hends : ends ≠ some (first, second)) : Opening (es ++ notes) (some (first, second))

/-- All calls of services are accounted for. -/
inductive Accounted : List Event → Prop where
  | nil : Accounted []
  | other {es : List Event} {e : Event} (h : Accounted es) (he : ¬ e.IsCall)
      (he' : ¬ e.HasCalls) : Accounted (es ++ [e])
  | replaced {es notes : List Event} {v : ViewRef} {r : Reading} {first second : SnapshotRef}
      (h : Accounted es) (hnotes : ∀ e ∈ notes, e.IsNote) (hfirst : r.first = .ok first)
      (hsecond : r.second = .ok second)
      (hcomparisons : comparisons notes = comparisonsFor first second) :
      Accounted (es ++ notes ++ [.announced v .graphChanged r])
  | redrawn {es notes : List Event} {v : ViewRef} {r : Reading} (h : Accounted es)
      (hnotes : ∀ e ∈ notes, e.IsNote) (hcomparisons : comparisons notes = []) :
      Accounted (es ++ [.begun v .filterChainChanged] ++ notes ++ [.announced v .diagramChanged r])
  | opened {es notes : List Event} {v : ViewRef} {r : Reading} {first second : SnapshotRef}
      (h : Accounted es) (hnotes : Opening notes (some (first, second)))
      (hfirst : r.first = .ok first) (hsecond : r.second = .ok second) :
      Accounted (es ++ notes ++ [.opened v r])

theorem Accounted.append {es es' : List Event} (h : Accounted es) (h' : Accounted es') :
    Accounted (es ++ es') := by
  induction h' with
  | nil => rwa [List.append_nil]
  | other _ he he' ih =>
    rw [← List.append_assoc]
    exact ih.other he he'
  | replaced _ hnotes hfirst hsecond hcomparisons ih =>
    rw [← List.append_assoc, ← List.append_assoc]
    exact ih.replaced hnotes hfirst hsecond hcomparisons
  | redrawn _ hnotes hcomparisons ih =>
    rw [← List.append_assoc, ← List.append_assoc, ← List.append_assoc]
    exact ih.redrawn hnotes hcomparisons
  | opened _ hnotes hfirst hsecond ih =>
    rw [← List.append_assoc, ← List.append_assoc]
    exact ih.opened hnotes hfirst hsecond

theorem accounted_single {e : Event} (he : ¬ e.IsCall) (he' : ¬ e.HasCalls) : Accounted [e] :=
  Accounted.nil.other he he'

theorem Flawless.left {es es' : List Event} (h : Flawless (es ++ es')) : Flawless es :=
  fun e he => h e (List.mem_append_left _ he)

theorem Flawless.right {es es' : List Event} (h : Flawless (es ++ es')) : Flawless es' :=
  fun e he => h e (List.mem_append_right _ he)

theorem Flawless.failures {es : List Event} (h : Flawless es) (v : ViewRef) :
    failures v es = [] := by
  refine List.filterMap_eq_nil_iff.2 fun e he => ?_
  have := h e he
  cases e <;> simp_all [Event.isFailure]

namespace World

/-- The trace has grown by events that account for all their calls, unless something has failed. -/
def Accounts (w w' : World) : Prop :=
  ∃ es, w'.trace = w.trace ++ es ∧ (Flawless es → Accounted es)

variable {a : View.Announce} {R : Respond} {v : ViewRef} {w w' w'' : World} {α : Type}

theorem chains_accounts : Act.Chains Accounts := by
  refine ⟨fun w => ⟨[], (List.append_nil _).symm, fun _ => .nil⟩, fun h h' => ?_⟩
  obtain ⟨es, htrace, hes⟩ := h
  obtain ⟨es', htrace', hes'⟩ := h'
  refine ⟨es ++ es', by rw [htrace', htrace, List.append_assoc], fun hflawless => ?_⟩
  exact (hes hflawless.left).append (hes' hflawless.right)

/-- Nothing is noted. -/
theorem accounts_of_same (htrace : w'.trace = w.trace) : Accounts w w' :=
  ⟨[], htrace.trans (List.append_nil _).symm, fun _ => .nil⟩

theorem Accounts.start (h : Accounts w' w'') (htrace : w'.trace = w.trace) : Accounts w w'' :=
  chains_accounts.trans (accounts_of_same htrace) h

theorem accounts_record (w : World) {e : Event} (he : ¬ e.IsCall) (he' : ¬ e.HasCalls) :
    Accounts w (w.record e) :=
  ⟨[e], rfl, fun _ => accounted_single he he'⟩

/-- When something has failed, no calls have to be accounted for. -/
theorem accounts_failed (h : Grows w w') {e : Event} (he : e.isFailure = true) :
    Accounts w (w'.record e) := by
  obtain ⟨es, htrace⟩ := h
  refine ⟨es ++ [e], by rw [record, htrace, List.append_assoc], fun hflawless => ?_⟩
  exact absurd he (by simp [hflawless e (List.mem_append_right _ List.mem_cons_self)])

theorem Accounts.grows (h : Accounts w w') : Grows w w' := h.imp fun _ h => h.1

end World

namespace View

open World

variable {a : Announce} {R : Respond} {v : ViewRef} {w w' : World} {view : View}

/-! ## Changes -/

/-- What a replacement has noted was compared for its ends. -/
theorem Replaced.reading {s : Selection} (h : Replaced v s w view w')
    (hfirst : w.firstGraph view = .ok s.first) (hsecond : w.secondGraph view = .ok s.second) :
    ∃ view', w'.views[v]? = some view' ∧ (w'.reading view').first = .ok s.first ∧
      (w'.reading view').second = .ok s.second := by
  obtain ⟨d, hview', -⟩ := h.found
  obtain ⟨es, hkept⟩ := h.snapshots
  exact ⟨_, hview', hkept.firstOf hfirst, hkept.secondOf hsecond⟩

section

variable (ha : ∀ n w w', a v n w = some w' → Accounts (w.noteReading v n) w')

include ha

/-- What is announced but for another graph has no calls. -/
theorem accounts_announce {n : Notice} (hn : n ≠ .graphChanged) (h : a v n w = some w') :
    Accounts w w' := by
  refine chains_accounts.trans (noteReading_within chains_accounts (fun u r => ?_) w) (ha n w w' h)
  refine accounts_record u id fun hcalls => ?_
  cases n <;> simp_all [Event.HasCalls]

theorem performs_accounts : Performs a v Accounts fun _ _ _ => True where
  chains := chains_accounts
  write w f _ _ := accounts_of_same rfl
  logged w _ := accounts_record w id id
  announce _ _ _ hn h := accounts_announce ha hn h
  shows w view first second hview hfirst hsecond _ := by
    refine showEnds_replaces hview hfirst fun s w₁ hs₁ hs₂ hreplaced => ?_
    subst hs₁ hs₂
    obtain ⟨view₁, hview₁, hfirst₁, hsecond₁⟩ := hreplaced.reading hfirst hsecond
    obtain ⟨notes, htrace, hnotes, hcomparisons⟩ := hreplaced.notes
    have hreplacement : Accounts w (w₁.noteReading v .graphChanged) := by
      rw [noteReading_of_found hview₁]
      refine ⟨notes ++ [.announced v .graphChanged (w₁.reading view₁)], ?_, fun _ => ?_⟩
      · rw [record, htrace, List.append_assoc]
      · exact Accounted.nil.replaced hnotes hfirst₁ hsecond₁ hcomparisons
    have hgraph : (announce a v .graphChanged).Ends w₁ (fun _ w₂ => Accounts w w₂)
        fun _ _ => True :=
      Act.ends_yield.2 fun w₂ hw₂ => chains_accounts.trans hreplacement (ha _ _ _ hw₂)
    exact hgraph.bind fun _ w₂ h₂ => Act.ends_yield.2 fun w₃ hw₃ =>
      chains_accounts.trans h₂ (accounts_announce ha (by simp) hw₃)

/-- A change of a filter chain is followed by running the filters, and comparing nothing. -/
theorem filterChainChanged_accounts (w : World) :
    (filterChainChanged a v).Ends (w.record (.begun v .filterChainChanged))
      (fun _ w' => Accounts w w') fun _ _ => True := by
  unfold filterChainChanged
  rw [Act.ends_bind]
  refine Act.ends_view (fun view hview => ?_) fun _ => trivial
  split
  · exact Act.ends_throw.2 trivial
  · rename_i graph _
    have hdrawn : (draw v graph).Ends (w.record (.begun v .filterChainChanged)) (fun _ w₁ =>
        (∃ view₁, w₁.views[v]? = some view₁) ∧ Noted (w.record (.begun v .filterChainChanged)) w₁)
        fun _ _ => True :=
      ((draw_ends (w := w.record _) hview graph).and (draw_noted graph _)).mono
        (fun _ w₁ ⟨⟨d, _, hview₁, _⟩, hnoted⟩ => ⟨⟨_, hview₁⟩, hnoted⟩) fun _ _ _ => trivial
    refine hdrawn.bind fun _ w₁ ⟨⟨view₁, hview₁⟩, notes, htrace, hnotes⟩ => ?_
    refine Act.ends_yield.2 fun w₂ hw₂ => chains_accounts.trans ?_ (ha _ _ _ hw₂)
    rw [noteReading_of_found hview₁]
    refine ⟨[.begun v .filterChainChanged] ++ notes ++
      [.announced v .diagramChanged (w₁.reading view₁)], ?_, fun _ => ?_⟩
    · rw [record, htrace, record]
      simp only [List.append_assoc]
    · exact Accounted.nil.redrawn (fun e he => (hnotes e he).1)
        (comparisons_of_none fun e he => (hnotes e he).2)

theorem serves_accounts : Serves a v Accounts where
  chains := chains_accounts
  carryOut m := by
    have hgrows (n : Notice) (w w' : World) (h : a v n w = some w') : Grows w w' :=
      chains_grows.trans (noteReading_within chains_grows (fun u r => ⟨[_], rfl⟩) w)
        (ha n w w' h).grows
    intro w
    refine ends_carryOut (fun _ => chains_accounts.refl w) fun _ _ => ?_
    have hperform : (perform a v m).Ends (w.record (.begun v m)) (fun _ w' => Accounts w w')
        fun _ _ => True := by
      by_cases hm : m = .filterChainChanged
      · exact hm ▸ filterChainChanged_accounts ha w
      · exact ((performs_accounts ha).perform hm _).mono
          (fun _ _ h => chains_accounts.trans (accounts_record w id id) h) fun _ _ h => h
    refine (hperform.and (steps_perform m _)).mono (fun _ _ h => h.1) fun e w' h => ?_
    obtain ⟨es, htrace⟩ := h.2.grows hgrows
    refine accounts_failed ⟨[.begun v m] ++ es, ?_⟩ rfl
    rw [htrace, record, List.append_assoc]
  dropped w _ := accounts_record w id id
  dispatch w f _ := accounts_of_same rfl

end

/-! ## Opening a view -/

/-- The two snapshots that a view shows. -/
def ends? (view : View) : Option (SnapshotRef × SnapshotRef) :=
  view.selection.map fun s => (s.first, s.second)

theorem ends?_ne_of_not_knows {first second : SnapshotRef}
    (h : view.knows first second = false) : view.ends? ≠ some (first, second) := by
  intro hends
  obtain ⟨s, hs, hpair⟩ := Option.map_eq_some_iff.1 hends
  cases hpair
  have hknows : view.knows s.first s.second = true := (knows_iff hs _ _).2 ⟨rfl, rfl⟩
  cases h.symm.trans hknows

/-- What is noted while a view is opened belongs to the snapshots that it shows. -/
def Opens (v : ViewRef) (w w' : World) : Prop :=
  ∀ view es, w.views[v]? = some view → Opening es view.ends? → ∃ view' es',
    w'.views[v]? = some view' ∧ w'.trace = w.trace ++ es' ∧ Opening (es ++ es') view'.ends?

theorem chains_opens : Act.Chains (Opens v) := by
  refine ⟨fun w view es hview h => ⟨view, [], hview, (List.append_nil _).symm, ?_⟩,
    fun h h' view es hview hes => ?_⟩
  · rwa [List.append_nil]
  · obtain ⟨view₁, es₁, hview₁, htrace₁, hes₁⟩ := h view es hview hes
    obtain ⟨view₂, es₂, hview₂, htrace₂, hes₂⟩ := h' view₁ (es ++ es₁) hview₁ hes₁
    refine ⟨view₂, es₁ ++ es₂, hview₂, ?_, ?_⟩
    · rw [htrace₂, htrace₁, List.append_assoc]
    · rwa [← List.append_assoc]

theorem performs_opens : Performs (fun _ _ w => some w) v (Opens v) fun _ _ _ => True where
  chains := chains_opens
  write w f hf _ view es hview h := by
    refine ⟨f view, [], views_modifyView_self hview f, (List.append_nil _).symm, ?_⟩
    rw [List.append_nil, ends?, (hf view).selection]
    exact h
  logged w r view es hview h := ⟨view, [.logged r], hview, rfl, h.logged r⟩
  announce _ w w' _ h := by
    cases h
    exact chains_opens.refl w
  shows w view first second hview hfirst _ hknows := by
    refine showEnds_replaces hview hfirst fun s w₁ hs₁ hs₂ hreplaced => ?_
    subst hs₁ hs₂
    obtain ⟨notes, htrace, hnotes, hcomparisons⟩ := hreplaced.notes
    obtain ⟨d, hview₁, -⟩ := hreplaced.found
    have hopens : Opens v w w₁ := by
      intro before es hbefore hes
      cases hview.symm.trans hbefore
      exact ⟨_, notes, hview₁, htrace, hes.shown hnotes hcomparisons (ends?_ne_of_not_knows hknows)⟩
    refine Act.ends_bind.2 (Act.ends_yield.2 fun w₂ h₂ => Act.ends_yield.2 fun w₃ h₃ => ?_)
    cases h₂
    cases h₃
    exact hopens

theorem showFirst_opens (s : SnapshotRef) : (showFirst v s).Completes (Opens v) :=
  performs_opens.showFirst s

/-- A view that is built shows the two snapshots that its window resolves to, and what was noted
meanwhile belongs to them. If it fails, this is noted, or nothing at all. -/
theorem build_opens (s : SnapshotRef) (builder : Builder) (counted : Bool) (hide : Value)
    (w : World) : (build s builder counted hide).Ends w
      (fun v w' => ∃ view es first second, w'.views[v]? = some view ∧ w'.trace = w.trace ++ es ∧
        Opening es (some (first, second)) ∧ w'.firstGraph view = .ok first ∧
        w'.secondGraph view = .ok second)
      fun _ w' => Accounts w w' := by
  have hrefl : Accounts w w := chains_accounts.refl w
  refine ends_build hrefl (fun _ _ _ => hrefl) fun _ group _ _ =>
    ⟨fun x w₁ hrun => ?_, fun e w₁ hrun => ?_⟩
  · obtain ⟨view, hview, ⟨t, ht, hfirst, hsecond⟩, -⟩ := showFirst_coherent hrun
    obtain ⟨view', es, hview', htrace, hopening⟩ :=
      (showFirst_opens s _).1 x w₁ hrun _ [] List.getElem?_concat_length .nil
    cases hview.symm.trans hview'
    rw [ends?, ht] at hopening
    exact ⟨_, es, t.first, t.second, views_modifyView_self hview _, htrace, hopening, hfirst,
      hsecond⟩
  · obtain ⟨es, htrace⟩ := ((steps_showFirst s _).2 e w₁ hrun).grows fun _ u u' hu => by
      cases hu
      exact chains_grows.refl u
    have hgrows : Grows w { w₁ with views := w₁.views.take w.views.length } := ⟨es, htrace⟩
    exact accounts_failed hgrows rfl

theorem openOn_accounts (s : SnapshotRef) (c q : ChainRef) (scheduler : Option Scheduler)
    (counted : Bool) (hide : Value) :
    (openOn s c q scheduler counted hide).Within Accounts := by
  intro w
  unfold openOn
  rw [Act.ends_bind, Act.ends_get]
  refine (build_opens s _ counted _ w).bind fun v w₁ h₁ => ?_
  obtain ⟨view, es, first, second, hview, htrace, hopening, hfirst, hsecond⟩ := h₁
  rw [Act.ends_bind, Act.ends_of_ok (Act.runIn_view hview), Act.ends_bind, Act.ends_modify,
    Act.ends_pure]
  refine ⟨es ++ [.opened v (w₁.reading view)], ?_, fun _ => ?_⟩
  · change w₁.trace ++ _ = _
    rw [htrace, List.append_assoc]
  · exact Accounted.nil.opened hopening hfirst hsecond

end View

namespace World

open View

variable {R : Respond} {v : ViewRef} {w w' : World}

/-! ## Runs -/

section

variable (hR : ∀ k u u', R k u = some u' → Accounts u u')

include hR

theorem announceView_accounts (v : ViewRef) (n : Notice) (w w' : World)
    (h : announceView R v n w = some w') : Accounts (w.noteReading v n) w' :=
  announced_within chains_accounts hR (fun u => accounts_record u id id) h

theorem mutate_accounts (v : ViewRef) (m : Mutation) :
    (View.mutate (announceView R) v m).Within Accounts :=
  (serves_accounts (announceView_accounts hR v)).mutate (fun w _ => accounts_record w id id)
    (fun w _ => accounts_record w id id) m

theorem announceShared_accounts {signal : Signal} (h : announceShared R signal w = some w') :
    Accounts w w' := by
  refine emit_within chains_accounts (fun slot u u' hu => ?_)
    (fun u => accounts_record u id id) h
  cases slot with
  | listener k => exact hR k u u' hu
  | follow v =>
    exact follow_ends ((mutate_accounts hR v _ u).mono (fun _ _ h => h)
      fun _ x h => chains_accounts.trans h (accounts_record x id id)) hu

theorem close_accounts (v : ViewRef) : (View.close (announceView R) v).Within Accounts := by
  unfold View.close
  refine (Act.within_view chains_accounts v).bind chains_accounts fun view => ?_
  split
  · refine (Act.within_modify fun w => ?_).bind chains_accounts fun _ => ?_
    · exact ⟨[.closed v], rfl, fun _ => accounted_single id id⟩
    · exact Act.within_yield fun w w' h =>
        accounts_announce (announceView_accounts hR v) (by simp) h
  · exact Act.within_pure chains_accounts _

/-- Every effect of a command accounts for its calls. -/
theorem effect_accounts (h : Command.Effect R w w') : Accounts w w' := by
  cases h with
  | nothing => exact chains_accounts.refl w
  | keep => exact accounts_of_same rfl
  | compare => exact accounts_of_same rfl
  | edit r f _ => exact accounts_record (w.modifySnapshot r f) id id
  | clearBlocks r => exact accounts_record (w.modifySnapshot r _) id id
  | addRule f name rules =>
    exact accounts_record { w with filters := w.filters.set f (.color name rules) } id id
  | listen => exact accounts_of_same rfl
  | unlisten => exact accounts_of_same rfl
  | change h => exact (mutate_accounts hR _ _).of_runIn h
  | openView h => exact (openOn_accounts _ _ _ _ _ _).of_runIn h
  | closeView h => exact (close_accounts hR _).of_runIn h
  | join _ h => exact (announceShared_accounts hR h).start rfl
  | leave _ h => exact (announceShared_accounts hR h).start rfl
  | rechain h => exact (announceShared_accounts hR h).start rfl
  | notify h => exact announceShared_accounts hR h

end

theorem Reaches.accounts (h : Reaches w w') : Accounts w w' :=
  h.within chains_accounts (fun _ _ => accounts_of_same rfl)
    (fun w _ _ _ _ => accounts_record w id id)
    fun _ hR _ _ h => effect_accounts hR h

/-- The current graph is replaced when the window resolves to two other snapshots, and only then,
and services are called for nothing else, as long as nothing has failed. For every view, the
announcements since it was opened have followed each other as `Told` says, up to what it shows now:
its graph, its diagram and the two snapshots are those that were read last, or another graph was
announced for two other snapshots, next its diagram and then its window. All that the view announces
meanwhile is that it was closed, by a listener. The two snapshots of a new graph were compared right
before it was announced, once and if they are not one; no other snapshots were compared, and no
blocks assigned and no filters run, but to draw that graph, to open a view or to follow a filter
chain. -/
theorem Reachable.calls_accounted (hw : w.Reachable) (hflawless : Flawless w.trace) :
    Accounted w.trace ∧ ∀ v view, w.views[v]? = some view →
      ∃ r, Told v w.trace r ∧ r.shown = (w.reading view).shown := by
  refine ⟨?_, fun v view hview => ?_⟩
  · obtain ⟨w₀, commands, hinitial, hrun⟩ := id hw
    obtain ⟨es, htrace, hes⟩ := (reaches_run hrun).accounts
    rw [hinitial.trace, List.nil_append] at htrace
    exact htrace ▸ hes (htrace ▸ hflawless)
  · have htuned := hw.tuned hview (hflawless.failures v)
    obtain ⟨r, s, htold, hs, -, hr⟩ := htuned.told
    obtain ⟨s', hs', hshown⟩ := (htuned.resolved List.not_mem_nil).shown_reading
    cases hs.symm.trans hs'
    exact ⟨r, htold, hr.trans hshown.symm⟩

/-- When the third snapshot of `duplicateHidden` is compared with the first one, this is the only
comparison, and nothing fails. -/
theorem duplicateHidden_calls :
    ((View.mutate (announceView fun _ w => some w) 0 (.selectDifference 2)).runIn
      duplicateHidden).any
      (fun p => Flawless p.2.trace ∧ comparisons p.2.trace = [(0, 2)] ∧
        p.2.views[0]?.isSome) = true := by
  unfold View.mutate runChange
  simp only [drain_eq_drainFirst _ _ 3]
  decide +kernel

theorem calls_accounted_duplicateHidden : ∃ (w : World) (view : View) (r : Reading),
    w.Reachable ∧ Flawless w.trace ∧ comparisons w.trace = [(0, 2)] ∧ Accounted w.trace ∧
    w.views[0]? = some view ∧ Told 0 w.trace r ∧ r.shown = (w.reading view).shown := by
  obtain ⟨⟨r, w⟩, hrun, hseen⟩ := Option.any_eq_true _ _ |>.1 duplicateHidden_calls
  obtain ⟨hflawless, hcomparisons, hsome⟩ := of_decide_eq_true hseen
  obtain ⟨view, hview⟩ := Option.isSome_iff_exists.1 hsome
  have hreached := reachable_compared hrun
  obtain ⟨haccounted, htold⟩ := hreached.calls_accounted hflawless
  obtain ⟨x, hx, hshown⟩ := htold 0 view hview
  exact ⟨w, view, x, hreached, hflawless, hcomparisons, haccounted, hview, hx, hshown⟩

end World

end SnapshotViewer
