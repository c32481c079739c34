import SnapshotViewer.Proofs.Nesting.UnnestedGroups
import SnapshotViewer.Proofs.View.OutdatedSequence

/-!
# What a call comes to

A view that is open and idle carries out a change as soon as it is called. Showing the window writes
nothing of the view but its selection and its diagram, and announces it (`Presents`, `Tallies`); it
fails only if the graph for the window or its diagram cannot be built (`Unbuilt`). The lemmas say so
of the operations that move the window (`Renews`). `Answers` says of a call that it brings about
what it should unless building fails. Main statements: `windowMoved_renews` and `Poised.answers`.
-/

namespace SnapshotViewer

/-! ## Counting announcements -/

/-- How often a view has announced a notice. -/
def heard (v : ViewRef) (n : Notice) (es : List Event) : Nat :=
  es.countP fun
    | .announced u n' _ => u == v && n' == n
    | _ => false

/-- A view has announced these notices, and besides each time that it was closed. -/
def Tallies (v : ViewRef) (ns : List Notice) (es : List Event) : Prop :=
  ∀ n, heard v n es = ns.count n + if n = .windowChanged then closings v es else 0

section

variable {v : ViewRef} {ns ns' : List Notice} {es es' : List Event} {r : Reading}

theorem heard_append (v : ViewRef) (n : Notice) (es es' : List Event) :
    heard v n (es ++ es') = heard v n es + heard v n es' := List.countP_append

theorem Tallies.append (h : Tallies v ns es) (h' : Tallies v ns' es') :
    Tallies v (ns ++ ns') (es ++ es') := by
  intro n
  have hes := h n
  have hes' := h' n
  unfold closings at *
  rw [heard_append, List.countP_append, List.count_append, hes, hes']
  split <;> omega

/-- What happens while a notice is delivered announces nothing but that the view was closed. -/
theorem Interlude.tallies (h : Interlude v r es) : Tallies v [] es := by
  intro n
  by_cases hn : n = .windowChanged
  · subst hn
    rw [if_pos rfl, List.count_nil, Nat.zero_add, ← h.announced]
    refine List.countP_congr fun e he => ?_
    cases e with
    | announced u n r' =>
      have hconfirms := h.confirms _ he
      simp only [Bool.and_eq_true, beq_iff_eq]
      exact ⟨fun heq => heq.1, fun hu => ⟨hu, (hconfirms hu).1⟩⟩
    | _ => exact Iff.rfl
  · rw [if_neg hn, List.count_nil]
    refine List.countP_eq_zero.2 fun e he => ?_
    cases e with
    | announced u n' r' =>
      have hconfirms := h.confirms _ he
      simp only [Bool.and_eq_true, beq_iff_eq, not_and]
      exact fun hu hn' => hn (hn'.symm.trans (hconfirms hu).1)
    | _ => exact Bool.false_ne_true

theorem tallies_of_notes (r : Reading) (h : ∀ e ∈ es, e.IsNote) : Tallies v [] es :=
  Interlude.tallies (interlude_of_quiet (r := r) fun e he => (h e he).not_tells)

theorem tallies_announced (n : Notice) (r : Reading) : Tallies v [n] [.announced v n r] := by
  intro n'
  by_cases hn : n = n' <;> simp [heard, closings, hn]

end

namespace World

/-- An entry that is captured, or the difference of two captured snapshots, stands for one. -/
theorem Flat.resolves {w : World} {r : SnapshotRef} (h : w.Flat r) (isFirst : Bool) :
    ∃ x, w.unwrap isFirst r = .ok x := by
  obtain hcaptured | ⟨d, first, second, hd, horigin, hends⟩ := h
  · exact ⟨r, hcaptured.unwrap List.mem_cons_self isFirst⟩
  · exact ⟨_, unwrap_difference hd horigin hends isFirst⟩

end World

namespace View

open World

variable {R : Respond} {a : Announce} {v : ViewRef} {w w₁ u : World} {view view' view'' : View}
  {group : Group} {ns ns' : List Notice} {es es' : List Event} {m : Mutation} {α : Type}

/-! ## Showing the window -/

/-- Two states of a view have in common all but the selection with its diagram, and what is not
written by a change: what waits and whether the view is closed. -/
def Reshown (view view' : View) : Prop :=
  ∃ selection diagram closed pending, view' = { view with selection, diagram, closed, pending }

theorem Reshown.refl (view : View) : Reshown view view :=
  ⟨view.selection, view.diagram, view.closed, view.pending, rfl⟩

theorem Reshown.trans (h : Reshown view view') (h' : Reshown view' view'') :
    Reshown view view'' := by
  obtain ⟨_, _, _, _, rfl⟩ := h
  obtain ⟨selection, diagram, closed, pending, rfl⟩ := h'
  exact ⟨selection, diagram, closed, pending, rfl⟩

theorem Reshown.move (h : Reshown view view') (window : Window) :
    Reshown { view with window } { view' with window } := by
  obtain ⟨selection, diagram, closed, pending, rfl⟩ := h
  exact ⟨selection, diagram, closed, pending, rfl⟩

/-- From a view in a world a step has come to another state of the view: nothing was written but
what is shown, and `ns` was announced. -/
structure Presents (v : ViewRef) (ns : List Notice) (es : List Event) (w : World) (view : View)
    (u : World) (view' : View) : Prop where
  found : u.views[v]? = some view'
  trace : u.trace = w.trace ++ es
  shown : Reshown view view'
  redrawn : Redrawn view view'
  told : Tallies v ns es

theorem Presents.trans (h : Presents v ns es w view w₁ view')
    (h' : Presents v ns' es' w₁ view' u view'') :
    Presents v (ns ++ ns') (es ++ es') w view u view'' where
  found := h'.found
  trace := by rw [h'.trace, h.trace, List.append_assoc]
  shown := h.shown.trans h'.shown
  redrawn := h.redrawn.trans h'.redrawn
  told := h.told.append h'.told

/-- The window is written between two steps. -/
theorem Presents.thenMove {window : Window} (h : Presents v ns es w view w₁ view')
    (h' : Presents v ns' es' w₁ { view' with window } u view'') :
    Presents v (ns ++ ns') (es ++ es') w { view with window } u view'' where
  found := h'.found
  trace := by rw [h'.trace, h.trace, List.append_assoc]
  shown := (h.shown.move window).trans h'.shown
  redrawn := by
    have hmoved : Redrawn { view with window } { view' with window } := h.redrawn
    exact hmoved.trans h'.redrawn
  told := h.told.append h'.told

theorem Presents.refl (hview : w.views[v]? = some view) : Presents v [] [] w view w view where
  found := hview
  trace := (List.append_nil _).symm
  shown := .refl view
  redrawn := .refl view
  told := tallies_of_notes (w.reading view) (by simp)

theorem Presents.busy (h : Presents v ns es w view u view') : view'.busy = view.busy := by
  obtain ⟨_, _, _, _, heq⟩ := h.shown
  rw [heq]

theorem Presents.window (h : Presents v ns es w view u view') : view'.window = view.window := by
  obtain ⟨_, _, _, _, heq⟩ := h.shown
  rw [heq]

theorem Presents.graphs (h : Presents v ns es w view u view') : view'.graphs = view.graphs := by
  obtain ⟨_, _, _, _, heq⟩ := h.shown
  rw [heq]

/-- In the course of a change, the graph for the window of its view cannot be resolved, because an
entry is a difference of differences, or the diagram of the graph cannot be drawn. -/
inductive Unbuilt (a : Announce) (v : ViewRef) (w : World) : Failure → World → Prop where
  | nested {u : World} {view : View} {r : SnapshotRef} {e : Failure} (h : Steps a v w u)
      (hview : u.views[v]? = some view) (hr : r ∈ view.graphs) (hnested : ¬ u.Flat r)
      (he : u.ends view = .error e) : Unbuilt a v w e u
  | undrawn {u u' : World} {view : View} {graph : SnapshotRef} {e : Failure} (h : Steps a v w u)
      (hview : u.views[v]? = some view) (hresolved : Resolved u view)
      (hgraph : view.graph? = some graph) (he : (draw v graph).runIn u = some (.error e, u')) :
      Unbuilt a v w e u'

theorem Unbuilt.after {e : Failure} (h : Unbuilt a v w₁ e u) (hsteps : Steps a v w w₁) :
    Unbuilt a v w e u := by
  cases h with
  | nested h hview hr hnested he => exact .nested (hsteps.trans h) hview hr hnested he
  | undrawn h hview hresolved hgraph he => exact .undrawn (hsteps.trans h) hview hresolved hgraph he

/-- From a view in a world a step has renewed what the view shows, and announced `ns`. -/
def Renewed (a : Announce) (v : ViewRef) (ns : List Notice) (w : World) (view : View) (u : World) :
    Prop :=
  ∃ es view', Presents v ns es w view u view' ∧ Resolved u view' ∧ Steps a v w u

/-- A step is taken after fields of the view were written, which announces nothing. -/
theorem Renewed.after (h : Renewed a v ns w₁ view u) (hsteps : Steps a v w w₁)
    (htrace : w₁.trace = w.trace) : Renewed a v ns w view u := by
  obtain ⟨es, view', hp, hresolved, hu⟩ := h
  exact ⟨es, view', ⟨hp.found, hp.trace.trans (by rw [htrace]), hp.shown, hp.redrawn, hp.told⟩,
    hresolved, hsteps.trans hu⟩

/-- What another graph has announced of it, before the window. -/
def replacing (replaced : Bool) : List Notice :=
  if replaced then [.graphChanged, .diagramChanged] else []

/-- A window over flat entries resolves. -/
theorem ends_of_flat (hfits : view.window.FitsIn view.graphs.length)
    (hflat : ∀ r ∈ view.graphs, w.Flat r) : ∃ ends, w.ends view = .ok ends := by
  obtain ⟨low, high, hlow, hhigh⟩ := entry_of_fits hfits
  obtain ⟨first, hfirst⟩ := (hflat low (mem_of_itemAt? hlow)).resolves true
  obtain ⟨second, hsecond⟩ := (hflat high (mem_of_itemAt? hhigh)).resolves false
  exact ⟨(first, second), ends_ok ((firstGraph_of_low hlow hfits w).trans hfirst)
    ((secondGraph_of_high hhigh hfits w).trans hsecond)⟩

theorem ends_eq_ok {first second : SnapshotRef} (h : w.ends view = .ok (first, second)) :
    w.firstGraph view = .ok first ∧ w.secondGraph view = .ok second := by
  unfold World.ends at h
  cases hfirst : w.firstGraph view with
  | error e => rw [hfirst] at h; cases h
  | ok x =>
    cases hsecond : w.secondGraph view with
    | error e => rw [hfirst, hsecond] at h; cases h
    | ok y =>
      rw [hfirst, hsecond] at h
      cases h
      exact ⟨rfl, rfl⟩

/-- When the ends of a window are resolved, nothing but drawing can fail. -/
theorem showEnds_unbuilt {first second : SnapshotRef} (hview : w.views[v]? = some view)
    (hfirst : w.firstGraph view = .ok first) (hsecond : w.secondGraph view = .ok second) :
    (showEnds a v first second).Ends w (fun _ _ => True) (Unbuilt a v w) := by
  have hstored := firstOf_lt hfirst
  -- nothing fails until the graph is drawn
  have hgraph (e : Event) : (Act.currentGraph view.counted first second).Ends (w.record e)
      (fun graph w₁ => (w₁.views = w.views ∧ ∃ es, SnapshotsKept es w w₁) ∧
        Selection.Shows w₁ ⟨first, second, graph⟩ ∧ Steps a v (w.record e) w₁)
      fun _ _ => False := by
    have hsteps : (Act.currentGraph view.counted first second).Within (Steps a v) :=
      renders_steps.currentGraph _ _ _
    refine ((currentGraph_succeeds view.counted (w := w.record e) hstored
      (secondOf_lt hsecond)).and ((renders_stored.currentGraph view.counted first second
        (w.record e)).and ((Act.currentGraph_shows (w := w.record e) hstored).and
          (hsteps (w.record e))))).mono (fun _ _ h => h.2) fun _ _ h => h.1
  unfold showEnds
  rw [Act.ends_bind, Act.ends_of_ok (Act.runIn_view hview), Act.ends_bind, Act.debug,
    Act.ends_record]
  refine Act.Ends.bind ((hgraph _).mono (fun _ _ h => h) fun _ _ h => h.elim) fun graph w₁ h => ?_
  obtain ⟨⟨hviews, es, hkept⟩, hshows, hsteps₁⟩ := h
  have hsteps₀ : Steps a v w w₁ := by
    refine Steps.trans ((Steps.refl w).note _ ?_) hsteps₁
    exact trivial
  rw [Act.ends_bind, Act.ends_modifyView]
  have hview₁ := views_modifyView_self (hviews ▸ hview : w₁.views[v]? = some view)
    fun view => { view with selection := some ⟨first, second, graph⟩ }
  have hresolved : Resolved (w₁.modifyView v fun view =>
      { view with selection := some ⟨first, second, graph⟩ })
      { view with selection := some ⟨first, second, graph⟩ } := by
    have hends : Resolved w { view with selection := some ⟨first, second, graph⟩ } :=
      ⟨_, rfl, hfirst, hsecond⟩
    have hstored : SnapshotsKept es w w₁ := hkept
    have hsame : SnapshotsKept [] w₁ (w₁.modifyView v fun view =>
        { view with selection := some ⟨first, second, graph⟩ }) := .of_eq rfl
    exact (hends.mono hstored rfl rfl rfl).mono hsame rfl rfl rfl
  rw [Act.ends_bind]
  refine ⟨fun _ u _ => (announce_succeeds _ u).bind fun _ u _ => announce_succeeds _ u,
    fun e u hrun => .undrawn ?_ hview₁ hresolved rfl hrun⟩
  exact hsteps₀.write _ fun _ _ => .select _ hshows

/-- A window that fits is shown unless building fails. -/
theorem windowMoved_unbuilt (hview : w.views[v]? = some view)
    (hfits : view.window.FitsIn view.graphs.length) :
    (windowMoved a v).Ends w (fun _ _ => True) (Unbuilt a v w) := by
  cases hends : w.ends view with
  | error e =>
    rw [Act.ends_of_error (windowMoved_of_error hview hends)]
    have hnested : ∃ r ∈ view.graphs, ¬ w.Flat r := by
      refine Classical.byContradiction fun hnone => ?_
      obtain ⟨ends, hok⟩ := ends_of_flat hfits fun r hr =>
        Classical.byContradiction fun hflat => hnone ⟨r, hr, hflat⟩
      cases hends.symm.trans hok
    obtain ⟨r, hr, hflat⟩ := hnested
    exact .nested (.refl w) hview hr hflat hends
  | ok ends =>
    obtain ⟨hfirst, hsecond⟩ := ends_eq_ok hends
    exact windowMoved_of_showEnds hview hfirst hsecond (showEnds_unbuilt hview hfirst hsecond)

section

variable (ha : ∀ n w w', a v n w = some w' → ∃ es, Undisturbed v es (w.noteReading v n) w')

include ha

theorem announce_presents (n : Notice) {E : Failure → World → Prop}
    (hview : w.views[v]? = some view) (hbusy : view.busy = true) (hresolved : Resolved w view) :
    (announce a v n).Ends w (fun _ u => ∃ es closed pending,
      Presents v [n] es w view u { view with closed, pending } ∧
      Resolved u { view with closed, pending }) E := by
  refine Act.ends_yield.2 fun u hu => ?_
  obtain ⟨es, h⟩ := ha n w u hu
  rw [noteReading_of_found hview] at h
  obtain ⟨closed, pending, hview'⟩ := h.view view hview hbusy
  have hkept : SnapshotsKept es w u := h.snapshots
  refine ⟨_, closed, pending, ⟨hview', h.trace.trans (List.append_assoc ..),
    ⟨_, _, closed, pending, rfl⟩, .inr ⟨rfl, rfl⟩, ?_⟩, hresolved.mono hkept rfl rfl rfl⟩
  exact (tallies_announced n _).append (h.interlude view hview hbusy hresolved).tallies

theorem showEnds_presents {first second : SnapshotRef} (hview : w.views[v]? = some view)
    (hbusy : view.busy = true) (hfirst : w.firstGraph view = .ok first)
    (hsecond : w.secondGraph view = .ok second) :
    (showEnds a v first second).Ends w (fun _ u => ∃ es view',
      Presents v (replacing true) es w view u view' ∧ Resolved u view') fun _ _ => True := by
  refine showEnds_replaces hview hfirst fun s w₁ hs₁ hs₂ hreplaced => ?_
  subst hs₁ hs₂
  obtain ⟨d, hview₁, hd, -⟩ := hreplaced.found
  have hresolved := hreplaced.resolved hfirst hsecond d
  obtain ⟨notes, htrace, hnotes, -⟩ := hreplaced.notes
  have hdrawn : Presents v [] notes w view w₁
      { view with selection := some s, diagram := some d } :=
    ⟨hview₁, htrace, ⟨_, _, _, _, rfl⟩, .inl ⟨s, d, rfl, rfl, hd⟩,
      tallies_of_notes (w.reading view) hnotes⟩
  refine (announce_presents ha _ hview₁ hbusy hresolved).bind fun _ w₂ h => ?_
  obtain ⟨es₂, _, _, h₂, hresolved₂⟩ := h
  refine (announce_presents ha _ h₂.found hbusy hresolved₂).mono (fun _ w₃ h => ?_) fun _ _ h => h
  obtain ⟨es₃, _, _, h₃, hresolved₃⟩ := h
  exact ⟨_, _, hdrawn.trans (h₂.trans h₃), hresolved₃⟩

theorem showWindow_presents (hview : w.views[v]? = some view) (hbusy : view.busy = true) :
    (showWindow a v).Ends w (fun replaced u => ∃ es view',
      Presents v (replacing replaced) es w view u view' ∧ Resolved u view') fun _ _ => True := by
  refine ends_showWindow hview (fun _ _ => trivial) (fun _ _ _ _ => trivial)
    (fun first second hfirst hsecond hknows => ?_)
    fun first second hfirst hsecond _ => showEnds_presents ha hview hbusy hfirst hsecond
  exact ⟨[], view, .refl hview, (resolved_iff_knows hfirst hsecond).2 hknows⟩

/-- A window that fits is shown, with another graph if it resolves to other ends, and announced. -/
theorem windowMoved_renews (hview : w.views[v]? = some view) (hbusy : view.busy = true)
    (hfits : view.window.FitsIn view.graphs.length) :
    (windowMoved a v).Ends w
      (fun replaced u => Renewed a v (replacing replaced ++ [.windowChanged]) w view u)
      (Unbuilt a v w) := by
  have hpresents : (windowMoved a v).Ends w (fun replaced u => ∃ es view',
      Presents v (replacing replaced ++ [.windowChanged]) es w view u view' ∧ Resolved u view')
      fun _ _ => True := by
    unfold windowMoved
    refine (showWindow_presents ha hview hbusy).bind fun replaced w₁ h => ?_
    obtain ⟨es₁, view₁, h₁, hresolved₁⟩ := h
    refine (announce_presents ha _ h₁.found (h₁.busy.trans hbusy) hresolved₁).bind fun _ w₂ h => ?_
    obtain ⟨es₂, _, _, h₂, hresolved₂⟩ := h
    exact Act.ends_pure.2 ⟨_, _, h₁.trans h₂, hresolved₂⟩
  refine ((hpresents.and (steps_windowMoved w)).and (windowMoved_unbuilt hview hfits)).mono
    (fun replaced u h => ?_) fun _ _ h => h.2
  obtain ⟨⟨⟨es, view', hp, hresolved⟩, hsteps⟩, -⟩ := h
  exact ⟨es, view', hp, hresolved, hsteps⟩

/-- The window is moved to where it fits. -/
theorem moveWindow_renews {window : Window} (hview : w.views[v]? = some view)
    (hbusy : view.busy = true) (hfits : window.FitsIn view.graphs.length) :
    (do
      Act.modifyView v fun view => { view with window }
      windowMoved a v : Act Bool).Ends w
      (fun replaced u =>
        Renewed a v (replacing replaced ++ [.windowChanged]) w { view with window } u)
      (Unbuilt a v w) := by
  have hmoved := views_modifyView_self hview fun view => { view with window }
  have hsteps : Steps a v w (w.modifyView v fun view => { view with window }) :=
    (Steps.refl w).write _ fun x hx => by
      cases hview.symm.trans hx
      exact .move window hfits
  rw [Act.ends_bind, Act.ends_modifyView]
  exact (windowMoved_renews ha hmoved hbusy hfits).mono (fun _ _ h => h.after hsteps rfl)
    fun _ _ h => h.after hsteps

theorem setWindow_renews {i : Nat} (hview : w.views[v]? = some view) (hbusy : view.busy = true)
    (hi : i < view.graphs.length) :
    (setWindow a v i i).Ends w
      (fun replaced u => Renewed a v (replacing replaced ++ [.windowChanged]) w
        { view with window := ⟨i, i⟩ } u) (Unbuilt a v w) := by
  have hbounds := Window.ofBounds_single hi
  unfold setWindow
  rw [Act.ends_bind, Act.ends_of_ok (Act.runIn_view hview), Act.ends_bind, hbounds,
    Act.ends_of_ok (Act.runIn_ofExcept_ok _ w)]
  exact moveWindow_renews ha hview hbusy (Window.fitsIn_of_ofBounds hbounds)

end

/-! ## Calls -/

/-- Between changes an open view of a group that is not empty is consistent, and nothing waits. -/
structure Poised (v : ViewRef) (w : World) (view : View) (group : Group) : Prop where
  found : w.views[v]? = some view
  isOpen : view.closed = false
  grouped : w.groups[view.group]? = some group
  idle : view.busy = false
  nothingWaits : view.pending = []
  sound : Sound w
  consistent : w.Consistent view group

/-- What is known of the view when a change of it begins. -/
structure Begins (v : ViewRef) (w : World) (view : View) (group : Group) : Prop where
  found : w.views[v]? = some view
  busy : view.busy = true
  grouped : w.groups[view.group]? = some group
  sound : Sound w
  graphs : view.graphs = Sequence.visible w.isDuplicate view.hides group.members
  fits : view.window.FitsIn view.graphs.length
  first : ∃ first, w.firstGraph view = .ok first
  drawn : Drawn view

namespace Poised

variable (h : Poised v w view group)

include h

theorem members_ne_nil : group.members ≠ [] := by
  intro hnil
  refine h.consistent.nonempty ?_
  rw [h.consistent.graphs, hnil]
  rfl

theorem captured (hplain : ∀ r ∈ group.members, w.isDifference r = false) :
    w.Captured group.members :=
  captured_of_plain (h.sound.members group (List.mem_of_getElem? h.grouped)) hplain

theorem begins (m : Mutation) : Begins v (begun v m w) { view with busy := true } group where
  found := begun_view h.found
  busy := rfl
  grouped := h.grouped
  sound := begun_sound h.sound
  graphs := h.consistent.graphs
  fits := h.consistent.window
  first := by
    obtain ⟨s, -, hfirst, -⟩ := h.consistent.graph
    exact ⟨s.first, hfirst⟩
  drawn := h.consistent.diagram

end Poised

/-- A call of a view brings about `Q`, with the state of the view when its steps are done, or fails
because building fails. If nobody has asked for another change meanwhile, it returns then. -/
inductive Answers (R : Respond) (v : ViewRef) (m : Mutation) (w : World)
    (Q : World → View → Prop) : Prop where
  | completed {u : World} {view' : View}
      (h : (perform (announceView R) v m).runIn (begun v m w) = some (.ok (), u))
      (hview : u.views[v]? = some view') (hQ : Q u view')
      (hreturns : view'.pending = [] →
        (mutate (announceView R) v m).runIn w = some (.ok (), settle v u))
  | unbuilt {e : Failure} {u w' : World}
      (h : (perform (announceView R) v m).runIn (begun v m w) = some (.error e, u))
      (hunbuilt : Unbuilt (announceView R) v (begun v m w) e u)
      (hfails : (mutate (announceView R) v m).runIn w = some (.error e, w'))

/-- A call of an idle view answers as the steps of its change do. -/
theorem Poised.answers {Q : World → View → Prop} (h : Poised v w view group)
    (hhalts : ∀ k u, (R k u).isSome = true)
    (hends : (perform (announceView R) v m).Ends (begun v m w)
      (fun _ u => ∃ view', u.views[v]? = some view' ∧ Q u view')
      (Unbuilt (announceView R) v (begun v m w))) : Answers R v m w Q := by
  have hrun := mutate_runIn (a := announceView R) (m := m) h.found h.isOpen h.grouped
    h.members_ne_nil h.idle
  obtain ⟨⟨r, u⟩, hu⟩ := Option.isSome_iff_exists.1
    (halts_perform (fun n x => isSome_announceView hhalts v n x) m (begun v m w))
  cases r with
  | ok x =>
    obtain ⟨view', hview', hQ⟩ := hends.1 x u hu
    refine .completed hu hview' hQ fun hpending => ?_
    rw [hrun, hu, Option.bind_some]
    dsimp only
    rw [drain_of_nothing hview' hpending]
    rfl
  | error e =>
    have hfails : (mutate (announceView R) v m).runIn w = some (.error e, settle v (u.record
        (.failed v m e (u.views[v]?.map View.sight != some view.sight)))) := by
      rw [hrun, hu]
      rfl
    exact .unbuilt hu (hends.2 e u hu) hfails

end View

/-- In a session in which no change of a view has failed and no snapshot was edited, the view is
poised for a change whenever it is open and its group is not empty. -/
theorem World.Reachable.poised {w : World} {v : ViewRef} {view : View} {group : Group}
    (hw : w.Reachable) (hview : w.views[v]? = some view) (hopen : view.closed = false)
    (hgroup : w.groups[view.group]? = some group) (hmembers : group.members ≠ [])
    (hflawless : failures v w.trace = []) (hes : World.Unedited w.trace) :
    View.Poised v w view group := by
  obtain ⟨hidle, hpending, hconsistent⟩ :=
    hw.consistent hview hopen hgroup hmembers hflawless hes
  exact ⟨hview, hopen, hgroup, hidle, hpending, hw.sound, hconsistent⟩

end SnapshotViewer
