import SnapshotViewer.Proofs.Run.ConcerningOneView

/-!
# Nothing starts in a closed view

A view that is closed is not connected to anything, and forgets what waits. `World.Ceasing` says of
two worlds that nothing of a view starts between them after it was closed; this holds of everything,
also of the rest of a change that is under way when the view is closed. `World.Resting` says that a
view that was closed, and of which no change is under way, stays as it is in all respects; this
holds of everything but the steps of a change of the view. Main statement: `World.concerns_resting`.
-/

namespace SnapshotViewer

/-- The event starts something of a view: it is opened, or one of its changes is carried out or made
to wait. -/
def Event.Starts (v : ViewRef) : Event → Prop
  | .opened u _ | .deferred u _ | .begun u _ => u = v
  | _ => False

/-- The view takes part in the event. It takes no part in the change that it drops. -/
def Event.Engages (v : ViewRef) : Event → Prop
  | .opened u _ | .closed u | .announced u _ _ | .signalled (.view u _) | .deferred u _
  | .begun u _ | .failed u _ _ _ => u = v
  | _ => False

theorem Event.Engages.regards {v : ViewRef} {e : Event} (h : e.Engages v) : e.Regards v := by
  unfold Event.Engages at h
  split at h <;> first | exact h | exact h.elim

theorem Event.Starts.engages {v : ViewRef} {e : Event} (h : e.Starts v) : e.Engages v := by
  unfold Event.Starts at h
  split at h <;> first | exact h | exact h.elim

namespace World

/-- The view is closed and nothing waits for it. -/
def IsShut (v : ViewRef) (w : World) : Prop :=
  ∃ view, w.views[v]? = some view ∧ view.closed = true ∧ view.pending = []

/-- With the events `es` between two worlds, nothing of a view starts after it was closed. -/
structure Ceases (v : ViewRef) (es : List Event) (w w' : World) : Prop where
  trace : w'.trace = w.trace ++ es
  final : es.Pairwise fun e e' => e = .closed v → ¬ e'.Starts v
  closes : .closed v ∈ es → IsShut v w'
  stays : IsShut v w → IsShut v w' ∧ ∀ e ∈ es, ¬ e.Starts v

/-- Nothing of a view starts after it was closed. -/
def Ceasing (v : ViewRef) (w w' : World) : Prop := ∃ es, Ceases v es w w'

/-- Besides, a closed view of which no change is under way stays as it is, and takes part in
nothing. -/
def Resting (v : ViewRef) (w w' : World) : Prop :=
  ∃ es, Ceases v es w w' ∧ ∀ view, w.views[v]? = some view → view.closed = true →
    view.busy = false → w'.views[v]? = some view ∧ ∀ e ∈ es, ¬ e.Engages v

/-- No view is closed between two worlds. -/
def Unclosed (w w' : World) : Prop := ∃ es, w'.trace = w.trace ++ es ∧ ∀ u, .closed u ∉ es

variable {v : ViewRef} {es es' : List Event} {w w' w'' : World} {view : View}

theorem Ceases.trans (h : Ceases v es w w') (h' : Ceases v es' w' w'') :
    Ceases v (es ++ es') w w'' where
  trace := by rw [h'.trace, h.trace, List.append_assoc]
  final := by
    refine List.pairwise_append.2 ⟨h.final, h'.final, fun e he e' he' hclosed => ?_⟩
    subst hclosed
    exact (h'.stays (h.closes he)).2 e' he'
  closes hmem := (List.mem_append.1 hmem).elim (fun he => (h'.stays (h.closes he)).1) h'.closes
  stays hshut := by
    obtain ⟨hshut', hes⟩ := h.stays hshut
    obtain ⟨hshut'', hes'⟩ := h'.stays hshut'
    exact ⟨hshut'', fun e he => (List.mem_append.1 he).elim (hes e) (hes' e)⟩

/-- The view itself is not written to. -/
theorem Ceases.of_view (htrace : w'.trace = w.trace ++ es) (hview : w'.views[v]? = w.views[v]?)
    (hclosed : .closed v ∉ es) (hes : IsShut v w → ∀ e ∈ es, ¬ e.Starts v) : Ceases v es w w' where
  trace := htrace
  final := List.pairwise_of_forall_mem_list fun _ he _ _ h => absurd (h ▸ he) hclosed
  closes h := absurd h hclosed
  stays hshut := by
    refine ⟨?_, hes hshut⟩
    unfold IsShut
    rw [hview]
    exact hshut

theorem Resting.of_view (htrace : w'.trace = w.trace ++ es) (hview : w'.views[v]? = w.views[v]?)
    (hes : ∀ e ∈ es, ¬ e.Engages v) : Resting v w w' :=
  ⟨es, .of_view htrace hview (fun h => hes _ h rfl) fun _ e he hstarts => hes e he hstarts.engages,
    fun _ hfound _ _ => ⟨hview.trans hfound, hes⟩⟩

theorem Resting.ceasing (h : Resting v w w') : Ceasing v w w' := ⟨h.choose, h.choose_spec.1⟩

/-- A view that is open stays as it is, in the sense of `Resting`, as long as it ceases. -/
theorem Ceasing.resting (h : Ceasing v w w') (hopen : ∀ view, w.views[v]? = some view →
    view.closed = false) : Resting v w w' := by
  obtain ⟨es, h⟩ := h
  refine ⟨es, h, fun view hview hclosed => ?_⟩
  rw [hopen view hview] at hclosed
  cases hclosed

theorem chains_ceasing : Act.Chains (Ceasing v) := by
  refine ⟨fun w => ⟨[], .of_view (List.append_nil _).symm rfl List.not_mem_nil (by simp)⟩, ?_⟩
  rintro _ _ _ ⟨es, h⟩ ⟨es', h'⟩
  exact ⟨es ++ es', h.trans h'⟩

theorem chains_resting : Act.Chains (Resting v) := by
  refine ⟨fun w => .of_view (List.append_nil _).symm rfl (by simp), ?_⟩
  rintro _ _ _ ⟨es, h, hrest⟩ ⟨es', h', hrest'⟩
  refine ⟨es ++ es', h.trans h', fun view hview hclosed hidle => ?_⟩
  obtain ⟨hview', hes⟩ := hrest view hview hclosed hidle
  obtain ⟨hview'', hes'⟩ := hrest' view hview' hclosed hidle
  exact ⟨hview'', fun e he => (List.mem_append.1 he).elim (hes e) (hes' e)⟩

/-- An event is noted that starts nothing, or is of a view that is open or has something to do. -/
theorem ceasing_record {e : Event} (hclosed : e ≠ .closed v)
    (hstarts : e.Starts v → ¬ IsShut v w) : Ceasing v w (w.record e) := by
  refine ⟨[e], .of_view rfl rfl (fun h => hclosed (List.mem_singleton.1 h).symm) ?_⟩
  intro hshut e' he' h
  cases List.mem_singleton.1 he'
  exact hstarts h hshut

/-- The view is written to, and neither opened nor made to have something to do. -/
theorem ceasing_modifyView {f : View → View} (hf : ∀ view, w.views[v]? = some view →
    view.closed = true → view.pending = [] → (f view).closed = true ∧ (f view).pending = []) :
    Ceasing v w (w.modifyView v f) := by
  refine ⟨[], (List.append_nil _).symm, .nil, by simp, fun ⟨view, hview, hclosed, hpending⟩ => ?_⟩
  obtain ⟨hclosed', hpending'⟩ := hf view hview hclosed hpending
  exact ⟨⟨_, views_modifyView_self hview f, hclosed', hpending'⟩, by simp⟩

end World

namespace View

open World

variable {R : Respond} {a : Announce} {v : ViewRef} {w w' : World} {view : View}

/-! ## The changes of the view -/

theorem renders_ceasing : Renders (Ceasing v) :=
  (renders_rendered (v := v)).mono chains_ceasing fun _ _ ⟨es, _, h⟩ =>
    ⟨es, .of_view h.trace h.view (fun hclosed => h.silent _ hclosed rfl) fun _ e he hstarts =>
      h.silent e he hstarts.engages.regards⟩

section

variable (ha : ∀ n w w', a v n w = some w' → Ceasing v w w')

include ha

/-- A change that was begun starts nothing. -/
theorem Steps.ceasing (h : Steps a v w w') : Ceasing v w w' := by
  refine h.within renders_ceasing (fun w f hf => ?_) ha
  refine ceasing_modifyView fun view hview hclosed hpending => ?_
  have hsame := (hf view hview).sameDispatch
  exact ⟨hsame.closed.trans hclosed, hsame.pending.trans hpending⟩

/-- A change is carried out of a view that is open, or has something to do. -/
theorem carryOut_ceasing (m : Mutation) (hopen : ¬ IsShut v w) :
    (carryOut a v m).Ends w (fun _ w' => Ceasing v w w') fun _ w' => Ceasing v w w' := by
  have hbegun : Ceasing v w (w.record (.begun v m)) := ceasing_record (by simp) fun _ => hopen
  refine ends_carryOut (fun _ => chains_ceasing.refl w) fun _ _ => ?_
  refine (steps_perform m _).mono (fun _ w' h => chains_ceasing.trans hbegun (h.ceasing ha))
    fun e w' h => ?_
  exact chains_ceasing.trans (chains_ceasing.trans hbegun (h.ceasing ha))
    (ceasing_record (by simp) nofun)

omit ha in
/-- A change that waits is only taken by a view that is open. -/
theorem takeWaiting_ceasing : (takeWaiting v).Ends w
    (fun next w' => Ceasing v w w' ∧ ∀ m, next = some m → ¬ IsShut v w')
    fun _ w' => Ceasing v w w' := by
  have htaken {view : View} {m : Mutation} {rest : List Mutation} (hview : w.views[v]? = some view)
      (hpending : view.pending = m :: rest) :
      Ceasing v w (w.modifyView v fun view => { view with pending := rest }) := by
    refine ceasing_modifyView fun x hx _ hnone => ?_
    cases hview.symm.trans hx
    rw [hpending] at hnone
    cases hnone
  refine ends_takeWaiting (fun _ => chains_ceasing.refl w)
    (fun _ _ _ => ⟨chains_ceasing.refl w, fun _ h => nomatch h⟩)
    (fun _ _ _ hview hpending _ => htaken hview hpending)
    (fun view _ m rest hview hpending _ _ => ?_) fun view _ m rest hview hpending _ hopen _ => ?_
  · have hdropped : (drop v (m :: rest)).Within (Ceasing v) :=
      drop_within chains_ceasing (fun _ _ => ceasing_record (by simp) nofun) _
    refine ⟨chains_ceasing.trans (htaken hview hpending) (Act.ends_modify.1 (hdropped _)),
      fun _ h => nomatch h⟩
  · refine ⟨htaken hview hpending, fun _ _ ⟨x, hx, hclosed, _⟩ => ?_⟩
    cases (views_modifyView_self hview _).symm.trans hx
    cases hopen.symm.trans hclosed

theorem drain_ceasing : (drain a v).Within (Ceasing v) := by
  intro w₀
  refine drain_ends (I := fun w => Ceasing v w₀ w) (J := fun _ w => Ceasing v w₀ w ∧ ¬ IsShut v w)
    (Q := fun w => Ceasing v w₀ w) (fun w h => ?_) (fun m w h => ?_) (chains_ceasing.refl w₀)
  · refine takeWaiting_ceasing.mono (fun next w' h' => ?_) fun _ w' h' => chains_ceasing.trans h h'
    cases next with
    | none => exact chains_ceasing.trans h h'.1
    | some m => exact ⟨chains_ceasing.trans h h'.1, h'.2 m rfl⟩
  · exact (carryOut_ceasing ha m h.2).mono (fun _ w' h' => chains_ceasing.trans h.1 h')
      fun _ w' h' => chains_ceasing.trans h.1 h'

omit ha in
theorem settle_ceasing (w : World) : Ceasing v w (settle v w) :=
  ceasing_modifyView fun _ _ hclosed _ => ⟨hclosed, rfl⟩

/-- A change that arrives at a closed view is dropped. One that arrives at an open view starts, and
what starts after it starts before the view is closed. -/
theorem mutate_resting (m : Mutation) : (mutate a v m).Within (Resting v) := by
  intro w
  refine ends_mutate (fun _ => chains_resting.refl w) (fun _ _ _ => chains_resting.refl w)
    (fun _ _ r _ _ _ => ?_) (fun view _ r hview _ hopen _ _ => ?_)
    fun view _ hview _ hopen _ _ => ?_
  · have hlogged : Resting v w (w.record (.logged r)) :=
      .of_view rfl rfl (by simp [Event.Engages])
    exact chains_resting.trans hlogged (.of_view rfl rfl (by simp [Event.Engages]))
  · -- It has to wait for the one that is under way.
    have hunshut : ¬ IsShut v w := fun ⟨x, hx, hclosed, _⟩ => by
      cases hview.symm.trans hx
      cases hopen.symm.trans hclosed
    have hlogged : Ceasing v w (w.record (.logged r)) := ceasing_record (by simp) nofun
    have hdeferred : Ceasing v (w.record (.logged r))
        ((w.record (.logged r)).record (.deferred v m)) := ceasing_record (by simp) fun _ => hunshut
    refine Ceasing.resting ?_ fun x hx => ?_
    · refine chains_ceasing.trans (chains_ceasing.trans hlogged hdeferred) ?_
      refine ceasing_modifyView fun x hx hclosed _ => ?_
      cases hview.symm.trans hx
      cases hopen.symm.trans hclosed
    · cases hview.symm.trans hx
      exact hopen
  · have hbusy : Ceasing v w (w.modifyView v fun view => { view with busy := true }) :=
      ceasing_modifyView fun _ _ hclosed hpending => ⟨hclosed, hpending⟩
    have hstart : ¬ IsShut v (w.modifyView v fun view => { view with busy := true }) := by
      rintro ⟨x, hx, hclosed, -⟩
      cases (views_modifyView_self hview _).symm.trans hx
      cases hopen.symm.trans hclosed
    have hend {w' : World} (h : Ceasing v w w') : Resting v w (settle v w') := by
      refine (chains_ceasing.trans h (settle_ceasing w')).resting fun x hx => ?_
      cases hview.symm.trans hx
      exact hopen
    refine ((carryOut_ceasing ha m hstart).mono (fun _ w' h => chains_ceasing.trans hbusy h)
      fun _ w' h => hend (chains_ceasing.trans hbusy h)).bind fun _ w₁ h₁ => ?_
    exact (drain_ceasing ha w₁).mono (fun _ w' h => hend (chains_ceasing.trans h₁ h))
      fun _ w' h => hend (chains_ceasing.trans h₁ h)

end

/-! ## Opening views -/

theorem chains_unclosed : Act.Chains Unclosed := by
  refine ⟨fun w => ⟨[], (List.append_nil _).symm, by simp⟩, ?_⟩
  rintro _ _ w'' ⟨es, htrace, hes⟩ ⟨es', htrace', hes'⟩
  refine ⟨es ++ es', by rw [htrace', htrace, List.append_assoc], fun u hu => ?_⟩
  exact (List.mem_append.1 hu).elim (hes u) (hes' u)

theorem unclosed_of_same (htrace : w'.trace = w.trace) : Unclosed w w' :=
  ⟨[], by rw [htrace, List.append_nil], by simp⟩

theorem unclosed_record (w : World) {e : Event} (he : ∀ u, e ≠ .closed u) :
    Unclosed w (w.record e) := ⟨[e], rfl, fun u hu => he u (List.mem_singleton.1 hu).symm⟩

theorem admits_unclosed : Admits Unclosed where
  chains := chains_unclosed
  started _ _ _ _ _ := unclosed_of_same rfl
  steps _ _ _ h := by
    obtain ⟨es, htrace, hes⟩ := h.noting
    exact ⟨es, htrace, fun u hu => hes _ hu⟩
  settled _ _ := unclosed_of_same rfl
  taken n w _ := unclosed_record { w with views := w.views.take n } (by simp)
  enrolled _ _ w := unclosed_record w (by simp)

/-- A view that is not there yet is opened. -/
theorem openOn_resting {s : SnapshotRef} {c q : ChainRef} {scheduler : Option Scheduler}
    {counted : Bool} {hide : Value} {r : Except Failure ViewRef} (hw : w.views.length = v)
    (h : (openOn s c q scheduler counted hide).runIn w = some (r, w')) : Resting v w w' := by
  obtain ⟨es, htrace, hes⟩ :=
    ((admits_unclosed.welcomes scheduler).openOn s c q counted hide).of_runIn h
  have hnone : w.views[v]? = none := List.getElem?_eq_none (Nat.le_of_eq hw)
  have hunshut : ¬ IsShut v w := by
    rintro ⟨x, hx, -⟩
    cases hnone.symm.trans hx
  refine ⟨es, ⟨htrace, ?_, fun hmem => absurd hmem (hes v), fun h => absurd h hunshut⟩,
    fun x hx _ _ => ?_⟩
  · exact List.pairwise_of_forall_mem_list fun e he _ _ h => absurd (h ▸ he) (hes v)
  · cases hnone.symm.trans hx

end View

namespace World

variable {R : Respond} {v u : ViewRef} {w w' w'' : World} {view : View}

/-! ## Runs -/

/-- A view is closed, which it announces. -/
theorem shut_resting (hview : w.views[v]? = some view) (hopen : view.closed = false) :
    Resting v w ((View.shut v w).announced v .windowChanged) := by
  have hself : (View.shut v w).views[v]? = some { view with closed := true, pending := [] } :=
    views_modifyView_self (w := w.disconnect _) hview _
  have hunshut : ¬ IsShut v w := by
    rintro ⟨x, hx, hclosed, -⟩
    cases hview.symm.trans hx
    rw [hopen] at hclosed
    cases hclosed
  rw [announced_of_found hself]
  refine Ceasing.resting ⟨.closed v :: [.announced v .windowChanged _,
    .signalled (.view v .windowChanged)], List.append_assoc .., ?_, fun _ => ⟨_, hself, rfl, rfl⟩,
    fun h => absurd h hunshut⟩ fun x hx => ?_
  · simp [Event.Starts]
  · cases hview.symm.trans hx
    exact hopen

theorem announceView_ceasing (hR : CallsWithin R (Resting v)) (n : Notice) (w w' : World)
    (h : announceView R v n w = some w') : Ceasing v w w' :=
  announceView_within chains_ceasing (fun k u u' hu => (hR k u u' hu).2.2.ceasing)
    (fun _ _ => ceasing_record (by simp) nofun) (fun _ => ceasing_record (by simp) nofun) h

theorem concerns_resting : Concerns v (Resting v) where
  chains := chains_resting
  elsewhere _ _ _ h := .of_view h.trace h.view fun e he hengages => h.silent e he hengages.regards
  mutate _ hR m := View.mutate_resting (announceView_ceasing hR) m
  opened _ _ _ _ _ _ _ _ _ hw h := View.openOn_resting hw h
  closed _ _ hview hopen := shut_resting hview hopen

theorem shares_resting : Shares (Resting v) where
  regrouped R hR g w w₁ w' hregroups hw' := by
    have htrace : w₁.trace = w.trace ++ [] := by rw [hregroups.trace, List.append_nil]
    have hfirst : Resting v w w₁ := .of_view htrace (by rw [hregroups.views]) (by simp)
    exact chains_resting.trans hfirst (concerns_resting.announceGroup hR hw')
  rechained R hR c filters w w' hw' := by
    have hfirst : Resting v w (w.setChain c filters) :=
      .of_view (List.append_nil _).symm rfl (by simp)
    refine chains_resting.trans hfirst (concerns_resting.announceShared hR ?_ hw')
    exact .of_view rfl rfl (by simp [Event.Engages])
  notified R hR c w w' hw' := concerns_resting.announceShared hR
    (.of_view rfl rfl (by simp [Event.Engages])) hw'
  ruled w f filter := by
    have htrace : ({ w with filters := w.filters.set f filter }.record (.ruled f)).trace =
        w.trace ++ [.ruled f] := rfl
    exact .of_view htrace rfl (by simp [Event.Engages])

end World

end SnapshotViewer
