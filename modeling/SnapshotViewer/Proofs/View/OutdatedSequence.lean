import SnapshotViewer.Proofs.Action.Termination
import SnapshotViewer.Proofs.Diagram.Buildable
import SnapshotViewer.Proofs.Sequence.BackingUp
import SnapshotViewer.Proofs.View.LostAnchor

/-!
# Changes of a view that lags behind its group

A view keeps the snapshots that it shows, and computes them anew only when it follows its group. A
change that is carried out before, because a listener asks for it while the group announces its own
change, works with the old ones (`View.graphs`) and with the present members of the group at once.
Where diagrams can always be built (`Builder.CanBuild`), it fails only because of that. The snapshot
that stays selected when duplicates are shown or hidden is the entry at the low bound, whether the
group still holds it or not (`Ready.anchorOf`), so that everything depends on it: it may have left
the group (`View.Unmoored`). Main statements: `perform_setHideDuplicates_iff` on showing and hiding
duplicates, and `perform_picks_member` on selecting a member of the group.
-/

namespace SnapshotViewer

namespace World

/-- The world in which a group announces that a snapshot has left it. -/
def leaving (g : GroupRef) (s : SnapshotRef) (w : World) : World :=
  (w.modifyGroup g fun group => { group with members := group.members.erase s }).record
    (.signalled (.group g))

/-- The world in which a group announces that a snapshot has joined it. -/
def joining (g : GroupRef) (s : SnapshotRef) (w : World) : World :=
  ((w.modifySnapshot s fun snapshot => { snapshot with group := some g }).modifyGroup g
    fun group => { group with members := group.members ++ [s] }).record (.signalled (.group g))

end World

namespace View

open World

variable {R : Respond} {a : Announce} {v : ViewRef} {w w' : World} {view view' : View}
  {group : Group} {members : List SnapshotRef} {s low : SnapshotRef} {m : Mutation} {hide : Bool}

/-! ## What stays selected -/

/-- The entry at the low bound of the window has left the group. -/
def Unmoored (view : View) (members : List SnapshotRef) : Prop :=
  ∃ low, view.itemAt? view.window.low = some low ∧ low ∉ members

/-- What stays selected is the first snapshot that the window resolves to if the group holds it, and
else the entry at the low bound. -/
theorem runIn_anchorOf {first current : SnapshotRef} (hview : w.views[v]? = some view)
    (hgroup : w.groups[view.group]? = some group) (hfits : view.window.FitsIn view.graphs.length)
    (hfirst : w.firstGraph view = .ok first) (hfound : first ∈ group.members → current = first)
    (hnone : first ∉ group.members → view.itemAt? view.window.low = some current) :
    (anchorOf v).runIn w = some (.ok current, w) := by
  have hmin : min view.window.low (view.graphs.length - 1) = view.window.low := by
    obtain ⟨-, hordered, hhigh⟩ := hfits
    omega
  unfold anchorOf
  rw [Act.runIn_bind_ok (Act.runIn_view hview), Act.runIn_bind_ok (Act.runIn_group hgroup),
    Act.runIn_bind_ok (Act.runIn_get w), hfirst, Act.runIn_bind_ok (Act.runIn_ofExcept_ok _ w)]
  by_cases hmem : first ∈ group.members
  · rw [if_pos (List.contains_iff_mem.2 hmem), hfound hmem]
    exact Act.runIn_pure first w
  · rw [if_neg (mt List.contains_iff_mem.1 hmem), hmin, hnone hmem]
    exact Act.runIn_pure current w

/-- A change of a view is under way, and neither the view nor its group holds differences. What the
view shows need not be what its group holds. -/
structure Ready (v : ViewRef) (w : World) (view : View) (group : Group) : Prop where
  found : w.views[v]? = some view
  busy : view.busy = true
  grouped : w.groups[view.group]? = some group
  sound : Sound w
  members : ∀ r ∈ group.members, w.isDifference r = false
  graphs : ∀ r ∈ view.graphs, w.isDifference r = false

namespace Ready

variable (h : Ready v w view group)

include h

theorem captured_members : w.Captured group.members :=
  captured_of_plain (h.sound.members group (List.mem_of_getElem? h.grouped)) h.members

theorem captured_graphs : w.Captured view.graphs :=
  captured_of_plain (h.sound.view h.found).graphs h.graphs

theorem fits (hgraphs : view.graphs ≠ []) : view.window.FitsIn view.graphs.length :=
  have hsound := h.sound.view h.found
  ⟨hsound.low, hsound.ordered, hsound.high hgraphs⟩

/-- What stays selected is the entry at the low bound, whether the group holds it or not. -/
theorem anchorOf (hlow : view.itemAt? view.window.low = some low) :
    (anchorOf v).runIn w = some (.ok low, w) := by
  have hmem := mem_of_itemAt? hlow
  have hfits := h.fits (List.ne_nil_of_mem hmem)
  have hfirst : w.firstGraph view = .ok low :=
    (firstGraph_of_low hlow hfits w).trans (h.captured_graphs.unwrap hmem true)
  exact runIn_anchorOf h.found h.grouped hfits hfirst (fun _ => rfl) fun _ => hlow

theorem targetOf (hlow : view.itemAt? view.window.low = some low) :
    (targetOf v hide).runIn w = (Act.ofExcept (if hide then
      Sequence.resolveUnhidden w.nameOf w.isDuplicate group.members low else .ok low)).runIn w := by
  unfold View.targetOf
  rw [Act.runIn_bind_ok (h.anchorOf hlow), Act.runIn_bind_ok (Act.runIn_view h.found),
    Act.runIn_bind_ok (Act.runIn_group h.grouped), Act.runIn_bind_ok (Act.runIn_get w)]
  cases hide <;> rfl

/-- If the group holds what stays selected, there is something to select among what is shown
then. -/
theorem targetOf_visible (hlow : view.itemAt? view.window.low = some low)
    (hmem : low ∈ group.members)
    (hsome : hide = true → ∃ s ∈ group.members, w.isDuplicate s = false) :
    ∃ target, (View.targetOf v hide).runIn w = some (.ok target, w) ∧
      target ∈ Sequence.visible w.isDuplicate hide group.members := by
  rw [h.targetOf hlow]
  cases hide with
  | false => exact ⟨low, Act.runIn_pure low w, List.mem_filter.2 ⟨hmem, rfl⟩⟩
  | true =>
    obtain ⟨target, htarget⟩ := Sequence.resolveUnhidden_succeeds w.nameOf hmem (hsome rfl)
    rw [if_pos rfl, htarget]
    exact ⟨target, Act.runIn_pure target w, Sequence.mem_visible_of_resolveUnhidden htarget⟩

/-- The view with the visible snapshots computed anew, in the middle of the same change. -/
theorem refiltered (hide : Bool) :
    Ready v (w.modifyView v (refiltered w (.bool hide) group.members))
      (refiltered w (.bool hide) group.members view) group where
  found := views_modifyView_self h.found _
  busy := h.busy
  grouped := h.grouped
  sound := h.sound.modifyView v fun x hx =>
    have hgroup : w.groups[x.group]? = some group := by
      cases h.found.symm.trans hx
      exact h.grouped
    SoundView.write h.sound (h.sound.view hx) (.refilter _ hgroup)
  members := h.members
  graphs r hr := h.members r (List.mem_of_mem_filter hr)

end Ready

/-! ## Showing and hiding duplicates -/

/-- A way to select moves the window to a snapshot that is visible. -/
def SelectsVisible (a : Announce) (v : ViewRef) (select : SnapshotRef → Act Bool) : Prop :=
  ∀ {u : World} {view : View} {target : SnapshotRef} {i : Nat}, u.views[v]? = some view →
    Sequence.indexOf? view.graphs target = some i →
    (select target).runIn u = (setWindow a v i i).runIn u

theorem selectsVisible_selectGraph : SelectsVisible a v (selectGraph a v) := fun hview hi => by
  rw [selectGraph, Act.runIn_bind_ok (locate_visible hview hi)]

theorem selectsVisible_selectVisible : SelectsVisible a v (selectVisible a v) := fun hview hi => by
  rw [selectVisible, Act.runIn_bind_ok (Act.runIn_view hview), hi]

section

variable {select : SnapshotRef → Act Bool} (hselect : SelectsVisible a v select)
  (h : Ready v w view group) (hnew : view.hideDuplicates.sameBool hide = false)

include h hnew

omit h in
/-- The first steps of showing or hiding duplicates. -/
theorem toggleDuplicates_runIn (hview : w.views[v]? = some view) (hgraphs : view.graphs ≠ []) :
    (toggleDuplicates select a v hide).runIn w = (do
      let target ← targetOf v hide
      refilterWith v (.bool hide)
      announceKept a v (← select target) : Act Unit).runIn w := by
  unfold toggleDuplicates
  rw [Act.runIn_bind_ok (Act.runIn_view hview), if_neg (by simp [hnew]),
    if_neg (by simpa using hgraphs)]

omit h in
/-- Duplicates are shown or hidden if what stays selected is found. -/
theorem toggleDuplicates_found {target : SnapshotRef} (hview : w.views[v]? = some view)
    (hgroup : w.groups[view.group]? = some group) (hgraphs : view.graphs ≠ [])
    (htarget : (targetOf v hide).runIn w = some (.ok target, w)) :
    (toggleDuplicates select a v hide).runIn w = (do
      announceKept a v (← select target) : Act Unit).runIn
        (w.modifyView v (refiltered w (.bool hide) group.members)) := by
  rw [toggleDuplicates_runIn hnew hview hgraphs, Act.runIn_bind_ok htarget,
    Act.runIn_bind_ok (runIn_refilterWith hview hgroup _)]

include hselect

omit h in
/-- The window is moved to what is to be selected if this is visible then. -/
theorem toggleDuplicates_selects {target : SnapshotRef} {i : Nat}
    (hview : w.views[v]? = some view) (hgroup : w.groups[view.group]? = some group)
    (hgraphs : view.graphs ≠ []) (htarget : (targetOf v hide).runIn w = some (.ok target, w))
    (hi : Sequence.indexOf? (Sequence.visible w.isDuplicate hide group.members) target = some i) :
    (toggleDuplicates select a v hide).runIn w = (do
      announceKept a v (← setWindow a v i i) : Act Unit).runIn
        (w.modifyView v (refiltered w (.bool hide) group.members)) := by
  rw [toggleDuplicates_found hnew hview hgroup hgraphs htarget, Act.runIn_bind,
    hselect (views_modifyView_self hview _) hi, ← Act.runIn_bind]

/-- If the group holds what stays selected, duplicates are shown or hidden. -/
theorem toggleDuplicates_displays (ha : ∀ n w w', a v n w = some w' → Framed none w w')
    (hbuild : view.builder.CanBuild w) (hgraphs : view.graphs ≠ [])
    (hmoored : ¬ Unmoored view group.members)
    (hsome : hide = true → ∃ s ∈ group.members, w.isDuplicate s = false) :
    (toggleDuplicates select a v hide).Ends w (fun _ u => Displays v (.bool hide)
      (Sequence.visible w.isDuplicate hide group.members) u) fun _ _ => False := by
  obtain ⟨low, -, hlow, -⟩ := entry_of_fits (h.fits hgraphs)
  have hmem : low ∈ group.members :=
    Decidable.byContradiction fun hgone => hmoored ⟨low, hlow, hgone⟩
  obtain ⟨target, htarget, hvisible⟩ := h.targetOf_visible hlow hmem hsome
  have hready : Ready v _ _ group := h.refiltered hide
  obtain ⟨i, hi⟩ := Sequence.indexOf?_of_mem hvisible
  have hrest : (do announceKept a v (← setWindow a v i i) : Act Unit).Ends
      (w.modifyView v (refiltered w (.bool hide) group.members)) (fun _ u => Displays v (.bool hide)
        (Sequence.visible w.isDuplicate hide group.members) u) fun _ _ => False :=
    (setWindow_displays ha hready.found hready.busy hready.captured_graphs
      (hbuild.congr rfl rfl) (lt_of_indexOf? hi)).bind fun replaced u hshown =>
        announceKept_displays ha hshown replaced
  unfold Act.Ends at hrest ⊢
  rw [toggleDuplicates_selects hselect hnew h.found h.grouped hgraphs htarget hi]
  exact hrest

end

/-- What stays selected is not found in the group any more, so that duplicates are not hidden. -/
theorem toggleDuplicates_unmoored_hide {select : SnapshotRef → Act Bool} (h : Ready v w view group)
    (hnew : view.hideDuplicates.sameBool true = false)
    (hlow : view.itemAt? view.window.low = some low) (hgone : low ∉ group.members) :
    (toggleDuplicates select a v true).runIn w =
      some (.error (.notInSequence (w.nameOf low)), w) := by
  rw [toggleDuplicates_runIn hnew h.found (List.ne_nil_of_mem (mem_of_itemAt? hlow))]
  refine Act.runIn_bind_error ?_
  rw [h.targetOf hlow, if_pos rfl, Sequence.resolveUnhidden, Sequence.indexOf?_eq_none.2 hgone]
  exact Act.runIn_ofExcept_error _ w

/-- What stays selected is not found among what is shown then, when duplicates are shown already. -/
theorem toggleDuplicates_unmoored_show (h : Ready v w view group)
    (hnew : view.hideDuplicates.sameBool false = false)
    (hlow : view.itemAt? view.window.low = some low) (hgone : low ∉ group.members) :
    (toggleDuplicates (selectVisible a v) a v false).runIn w =
      some (.error (.foreignSnapshot (w.nameOf low) group.name),
        w.modifyView v (refiltered w (.bool false) group.members)) := by
  have hready : Ready v _ _ group := h.refiltered false
  have htarget : (targetOf v false).runIn w = some (.ok low, w) := h.targetOf hlow
  have hnone : Sequence.indexOf? (refiltered w (.bool false) group.members view).graphs low =
      none := Sequence.indexOf?_eq_none.2 fun hmem => hgone (List.mem_of_mem_filter hmem)
  rw [toggleDuplicates_found hnew h.found h.grouped (List.ne_nil_of_mem (mem_of_itemAt? hlow))
    htarget]
  refine Act.runIn_bind_error ?_
  unfold selectVisible foreign
  rw [Act.runIn_bind_ok (Act.runIn_view hready.found), hnone]
  dsimp only
  rw [Act.runIn_bind_ok (Act.runIn_view hready.found),
    Act.runIn_bind_ok (Act.runIn_group hready.grouped), Act.runIn_bind_ok (Act.runIn_get _),
    Act.runIn_throw]
  rfl

/-- A view that shows nothing has no snapshot to keep selected. -/
theorem toggleDuplicates_empty {select : SnapshotRef → Act Bool} (h : Ready v w view group)
    (hnew : view.hideDuplicates.sameBool hide = false) (hgraphs : view.graphs = []) :
    (toggleDuplicates select a v hide).runIn w =
      some (.ok (), w.modifyView v (refiltered w (.bool hide) group.members)) := by
  unfold toggleDuplicates
  rw [Act.runIn_bind_ok (Act.runIn_view h.found), if_neg (by simp [hnew]),
    if_pos (by simp [hgraphs]), runIn_refilterWith h.found h.grouped]

/-- Showing or hiding duplicates returns. Then they are shown or hidden, and what is visible of the
group is shown, with the graph that the window resolves to. -/
def Toggles (R : Respond) (v : ViewRef) (hide : Bool) (w : World) (view : View) (group : Group) :
    Prop :=
  ∃ w' view', (perform (announceView R) v (.setHideDuplicates hide)).runIn w = some (.ok (), w') ∧
    w'.views[v]? = some view' ∧ view'.hideDuplicates = .bool hide ∧
    view'.graphs = Sequence.visible w.isDuplicate hide group.members ∧
    (view.graphs ≠ [] → Resolved w' view')

/-- While the group holds a snapshot that is no duplicate, duplicates are shown or hidden if and
only if it holds the entry at the low bound of the window. If it does not, nothing is hidden, or
duplicates are shown before the call fails. -/
theorem perform_setHideDuplicates_iff (hR : Listening R) (hhalts : ∀ k u, (R k u).isSome = true)
    (h : Ready v w view group) (hbuild : view.builder.CanBuild w)
    (hnew : view.hideDuplicates.sameBool hide = false)
    (hsome : ∃ s ∈ group.members, w.isDuplicate s = false) :
    (Toggles R v hide w view group ↔ ¬ Unmoored view group.members) ∧
    ∀ low, view.itemAt? view.window.low = some low → low ∉ group.members →
      (perform (announceView R) v (.setHideDuplicates hide)).runIn w = some (
        if hide then (.error (.notInSequence (w.nameOf low)), w)
        else (.error (.foreignSnapshot (w.nameOf low) group.name),
          w.modifyView v (refiltered w (.bool false) group.members))) := by
  have hfails : ∀ low, view.itemAt? view.window.low = some low → low ∉ group.members →
      (perform (announceView R) v (.setHideDuplicates hide)).runIn w = some (
        if hide then (.error (.notInSequence (w.nameOf low)), w)
        else (.error (.foreignSnapshot (w.nameOf low) group.name),
          w.modifyView v (refiltered w (.bool false) group.members))) := by
    intro low hlow hgone
    cases hide with
    | true => exact toggleDuplicates_unmoored_hide h hnew hlow hgone
    | false => exact toggleDuplicates_unmoored_show h hnew hlow hgone
  refine ⟨⟨?_, fun hmoored => ?_⟩, hfails⟩
  · rintro ⟨w', view', hrun, -⟩ ⟨low, hlow, hgone⟩
    rw [hfails low hlow hgone] at hrun
    cases hide <;> cases hrun
  · by_cases hgraphs : view.graphs = []
    · exact ⟨_, _, toggleDuplicates_empty h hnew hgraphs, views_modifyView_self h.found _, rfl, rfl,
        fun hshown => absurd hgraphs hshown⟩
    · have hends : (perform (announceView R) v (.setHideDuplicates hide)).Ends w
          (fun _ u => Displays v (.bool hide)
            (Sequence.visible w.isDuplicate hide group.members) u) fun _ _ => False := by
        refine toggleDuplicates_displays ?_ h hnew (hR.announceView_framed v) hbuild hgraphs hmoored
          fun _ => hsome
        cases hide
        · exact selectsVisible_selectVisible
        · exact selectsVisible_selectGraph
      obtain ⟨x, w', hrun, view', hview', -, hhide, hgraphs', hresolved⟩ :=
        (halts_perform (fun n u => isSome_announceView hhalts v n u) _).returns hends
      exact ⟨w', view', hrun, hview', hhide, hgraphs', fun _ => hresolved⟩

/-- What is known of the view of `fourShown`. -/
theorem fourShown_view : ∃ view, fourShown.views[0]? = some view ∧ view.closed = false ∧
    view.group = 0 ∧ view.graphs = [0, 1, 2, 3] ∧ view.window = ⟨0, 0⟩ ∧
    view.hideDuplicates = .bool false ∧ view.builder =
      { scheduler := some .byComponent, chain := 0, sequenceChain := 1
        templates := ({} : Settings).templates } :=
  ⟨_, rfl, rfl, rfl, rfl, rfl, rfl, rfl⟩

/-- The view of `fourShown` can have its diagrams built as long as its chains are empty. -/
theorem canBuild_fourShown (hview : fourShown.views[0]? = some view)
    (hchains : w.chains = fourShown.chains) (hfilters : w.filters = fourShown.filters) :
    view.builder.CanBuild w := by
  obtain ⟨x, hx, -, -, -, -, -, hbuilder⟩ := fourShown_view
  cases hview.symm.trans hx
  rw [hbuilder]
  refine Builder.CanBuild.congr (w := fourShown) ?_ hchains hfilters
  refine ⟨⟨_, rfl, fun _ => ⟨_, rfl⟩⟩, fun _ => ⟨_, rfl⟩, ?_⟩
  have hnone : fourShown.filtersFor 0 (some 1) = [] := rfl
  rw [hnone]
  exact nofun

/-- A change of the view of `fourShown` begins when its group holds other snapshots of it. -/
theorem ready_fourShown (hview : fourShown.views[0]? = some view)
    (hmembers : ∀ r ∈ members, r < 5) :
    Ready 0 (beginsAmong members fourShown) { view with busy := true } ⟨"g", members⟩ := by
  obtain ⟨x, hx, -, hgroup, hgraphs, -⟩ := fourShown_view
  cases hview.symm.trans hx
  have hplain : ∀ r < 5, fourShown.isDifference r = false := by decide +kernel
  have hshown : ∀ r ∈ view.graphs, r < 5 := by
    rw [hgraphs]
    decide
  refine ⟨views_modifyView_self (w := fourShown.modifyGroup 0 _) hview _, rfl, ?_, ?_,
    fun r hr => hplain r (hmembers r hr), fun r hr => hplain r (hshown r hr)⟩
  · rw [hgroup]
    rfl
  · refine Sound.dispatch (reachable_fourShown.sound.modifyGroup 0 fun group _ r hr => ?_) 0
      fun _ => rfl
    exact hmembers r hr

/-- Duplicates are hidden when the second of four snapshots has left the group, and are not when the
first one has, on which the window is. -/
theorem perform_setHideDuplicates_left : ∃ view, fourShown.views[0]? = some view ∧
    Toggles (fun _ w => some w) 0 true (beginsAmong [0, 2, 3] fourShown) { view with busy := true }
      ⟨"g", [0, 2, 3]⟩ ∧
    ¬ Toggles (fun _ w => some w) 0 true (beginsAmong [1, 2, 3] fourShown)
      { view with busy := true } ⟨"g", [1, 2, 3]⟩ := by
  obtain ⟨view, hview, -, -, hgraphs, hwindow, hhide, -⟩ := fourShown_view
  have hsome : fourShown.isDuplicate 2 = false := by decide +kernel
  have hlow : itemAt? { view with busy := true } view.window.low = some 0 := by
    rw [itemAt?, hwindow, hgraphs]
    rfl
  have hbuild (members : List SnapshotRef) :
      view.builder.CanBuild (beginsAmong members fourShown) := canBuild_fourShown hview rfl rfl
  have hiff (members : List SnapshotRef) (hmembers : ∀ r ∈ members, r < 5) (htwo : 2 ∈ members) :=
    (perform_setHideDuplicates_iff listening_unheard (fun _ _ => rfl)
      (ready_fourShown hview hmembers) (hbuild members) (congrArg (·.sameBool true) hhide)
      ⟨2, htwo, hsome⟩).1
  refine ⟨view, hview, (hiff [0, 2, 3] (by decide) (by decide)).2 ?_, fun htoggles => ?_⟩
  · rintro ⟨low, hlow', hgone⟩
    cases hlow.symm.trans hlow'
    exact hgone (by decide)
  · exact (hiff [1, 2, 3] (by decide) (by decide)).1 htoggles ⟨0, hlow, by decide⟩

theorem fourShown_leave_hide :
    ((View.mutate (announceView fun _ w => some w) 0 (.setHideDuplicates true)).runIn
      (leaving 0 0 fourShown)).any (fun p => failureOf p.1 = some (.notInSequence "s")) = true := by
  unfold View.mutate runChange
  simp only [drain_eq_drainFirst _ _ 3]
  decide +kernel

/-- Hiding duplicates fails while a group announces that the selected snapshot has left it, although
there are snapshots left that are no duplicates. -/
theorem unhidden_while_leaving : ¬ ∀ (R : Respond) (w w' : World) (v : ViewRef) (view : View)
    (group : Group) (s : SnapshotRef) (hide : Bool) (r : Except Failure Unit), Listening R →
    w.Reachable → w.views[v]? = some view → view.closed = false →
    w.groups[view.group]? = some group → (∀ r ∈ group.members, w.isDifference r = false) →
    view.builder.CanBuild w → view.hideDuplicates.sameBool hide = false →
    (∃ x ∈ group.members.erase s, w.isDuplicate x = false) →
    (View.mutate (announceView R) v (.setHideDuplicates hide)).runIn (leaving view.group s w) =
      some (r, w') → r = .ok () := by
  intro hall
  obtain ⟨view, hview, hopen, hgroup, -, -, hhide, -⟩ := fourShown_view
  obtain ⟨⟨r, w'⟩, hrun, hfailed⟩ := Option.any_eq_true _ _ |>.1 fourShown_leave_hide
  have hsome : fourShown.isDuplicate 2 = false := by decide +kernel
  have hplain : ∀ r < 5, fourShown.isDifference r = false := by decide +kernel
  have hok := hall _ _ w' 0 view ⟨"g", [0, 1, 2, 3]⟩ 0 true r listening_unheard reachable_fourShown
    hview hopen (by rw [hgroup]; rfl) (fun r hr => hplain r (by revert r; decide))
    (canBuild_fourShown hview rfl rfl) (congrArg (·.sameBool true) hhide) ⟨2, by decide, hsome⟩
    (by rw [hgroup]; exact hrun)
  rw [hok] at hfailed
  cases of_decide_eq_true hfailed

/-! ## Selecting a member of the group -/

theorem visible_false (isDuplicate : SnapshotRef → Bool) (members : List SnapshotRef) :
    Sequence.visible isDuplicate false members = members :=
  List.filter_eq_self.2 fun _ _ => rfl

/-- The window that a selection asks for fits. -/
theorem windowFor_succeeds (hsound : SoundView w view) {i : Nat} (hi : i < view.graphs.length) :
    ∃ window, windowFor view i m = .ok window ∧ window.FitsIn view.graphs.length := by
  have hbounds : ∃ window, Window.ofBounds i i view.graphs.length = .ok window ∧
      window.FitsIn view.graphs.length :=
    ⟨_, Window.ofBounds_single hi, Window.fitsIn_of_ofBounds (Window.ofBounds_single hi)⟩
  cases m with
  | selectDifference s =>
    obtain ⟨window, hwindow⟩ := hsound.anchorTo hi
    exact ⟨window, hwindow, Window.fitsIn_of_anchorTo hwindow⟩
  | _ => exact hbounds

/-- Duplicates are shown, if the group holds what stays selected. -/
theorem showDuplicates_shown (ha : ∀ n w w', a v n w = some w' → Framed none w w')
    (h : Ready v w view group) (hbuild : view.builder.CanBuild w) (hhides : view.hides = true)
    (hmoored : ¬ Unmoored view group.members) :
    (showDuplicates a v).Ends w (fun _ u => DuplicatesShown v group.members u)
      fun _ _ => False := by
  have hnew := Value.sameBool_false_of_isTrue hhides
  unfold showDuplicates
  rw [Act.ends_bind, Act.ends_of_ok (Act.runIn_view h.found), if_pos hhides]
  by_cases hgraphs : view.graphs = []
  · refine (Act.ends_of_ok (toggleDuplicates_empty h hnew hgraphs)).2
      ⟨_, views_modifyView_self h.found _, h.busy, rfl, visible_false _ _⟩
  · refine (toggleDuplicates_displays selectsVisible_selectVisible h hnew ha hbuild hgraphs hmoored
      nofun).mono (fun _ u hshown => ?_) fun _ _ h => h
    obtain ⟨view', hview', hbusy, hhide, hgraphs', -⟩ := hshown
    exact ⟨view', hview', hbusy, hhide, hgraphs'.trans (visible_false _ _)⟩

/-- A member of the group that is not visible is found once duplicates are shown. -/
theorem locate_member (ha : ∀ n w w', a v n w = some w' → Framed none w w')
    (h : Ready v w view group) (hbuild : view.builder.CanBuild w) (hs : s ∈ group.members)
    (hnone : s ∉ view.graphs) (hhides : view.hides = true)
    (hmoored : ¬ Unmoored view group.members) :
    (locate a v s).Ends w (fun i u => DuplicatesShown v group.members u ∧
      Sequence.indexOf? group.members s = some i) fun _ _ => False := by
  unfold locate
  rw [Act.ends_bind, Act.ends_of_ok (Act.runIn_view h.found), Sequence.indexOf?_eq_none.2 hnone]
  refine (showDuplicates_shown ha h hbuild hhides hmoored).bind fun _ u hshown => ?_
  obtain ⟨view', hview', -, -, hgraphs⟩ := id hshown
  obtain ⟨i, hi⟩ := Sequence.indexOf?_of_mem hs
  rw [Act.ends_bind, Act.ends_of_ok (Act.runIn_view hview'), hgraphs, hi]
  exact Act.ends_pure.2 ⟨hshown, rfl⟩

/-- A selection that has found its snapshot moves the window there. -/
theorem picks_found (ha : ∀ n w w', a v n w = some w' → Framed none w w')
    (hview : w.views[v]? = some view) (hbusy : view.busy = true) (hsound : Sound w)
    (hcaptured : w.Captured view.graphs) (hbuild : view.builder.CanBuild w) {i : Nat}
    (hi : i < view.graphs.length) : (do
      let view ← Act.view v
      let window ← Act.ofExcept (windowFor view i m)
      Act.modifyView v fun view => { view with window }
      let _ ← windowMoved a v : Act Unit).Ends w
        (fun _ u => Displays v view.hideDuplicates view.graphs u) fun _ _ => False := by
  obtain ⟨window, hwindow, hfits⟩ := windowFor_succeeds (m := m) (hsound.view hview) hi
  rw [Act.ends_bind, Act.ends_of_ok (Act.runIn_view hview), Act.ends_bind, hwindow,
    Act.ends_of_ok (Act.runIn_ofExcept_ok _ w), ← bind_assoc]
  exact (moveWindow_displays ha hview hbusy hcaptured hbuild hfits).bind fun _ u hshown =>
    Act.ends_pure.2 hshown

/-- A visible snapshot is selected, whether the group holds it or not. -/
theorem perform_picks_visible (ha : ∀ n w w', a v n w = some w' → Framed none w w')
    (h : Ready v w view group) (hbuild : view.builder.CanBuild w) (hm : Picks s m)
    (hs : s ∈ view.graphs) : (perform a v m).Ends w
      (fun _ u => Displays v view.hideDuplicates view.graphs u) fun _ _ => False := by
  obtain ⟨i, hi⟩ := Sequence.indexOf?_of_mem hs
  rw [perform_picks hm, Act.ends_bind, Act.ends_of_ok (locate_visible h.found hi)]
  exact picks_found ha h.found h.busy h.sound h.captured_graphs hbuild (lt_of_indexOf? hi)

/-- A member of the group is not found if it is not visible and duplicates are shown. -/
theorem perform_picks_missing (h : Ready v w view group) (hm : Picks s m) (hs : s ∉ view.graphs)
    (hshown : view.hides = false) : (perform a v m).runIn w =
      some (.error (.foreignSnapshot (w.nameOf s) group.name), w) := by
  rw [perform_picks hm]
  exact Act.runIn_bind_error
    (locate_foreign h.found h.grouped (Sequence.indexOf?_eq_none.2 hs) hshown)

/-- A member of the group is not looked for again if what stays selected has left the group. -/
theorem perform_picks_unmoored (h : Ready v w view group) (hm : Picks s m) (hs : s ∉ view.graphs)
    (hhides : view.hides = true) (hlow : view.itemAt? view.window.low = some low)
    (hgone : low ∉ group.members) : (perform a v m).runIn w =
      some (.error (.foreignSnapshot (w.nameOf low) group.name),
        w.modifyView v (refiltered w (.bool false) group.members)) := by
  rw [perform_picks hm]
  refine Act.runIn_bind_error ?_
  unfold locate showDuplicates
  rw [Act.runIn_bind_ok (Act.runIn_view h.found), Sequence.indexOf?_eq_none.2 hs]
  dsimp only
  refine Act.runIn_bind_error ?_
  rw [Act.runIn_bind_ok (Act.runIn_view h.found), if_pos hhides]
  exact toggleDuplicates_unmoored_show h (Value.sameBool_false_of_isTrue hhides) hlow hgone

/-- A member of the group that is not visible is selected, with all duplicates shown, if the group
holds what stays selected. -/
theorem perform_picks_hidden (hR : Listening R) (h : Ready v w view group)
    (hbuild : ∀ u, Steps (announceView R) v w u → view.builder.CanBuild u) (hm : Picks s m)
    (hs : s ∈ group.members) (hnone : s ∉ view.graphs) (hhides : view.hides = true)
    (hmoored : ¬ Unmoored view group.members) : (perform (announceView R) v m).Ends w
      (fun _ u => Displays v (.bool false) group.members u) fun _ _ => False := by
  have ha := hR.announceView_framed v
  have hlocate : (locate (announceView R) v s).Ends w (fun i u =>
      (DuplicatesShown v group.members u ∧ Sequence.indexOf? group.members s = some i) ∧
        Steps (announceView R) v w u) fun _ _ => False :=
    ((locate_member ha h (hbuild w (.refl w)) hs hnone hhides hmoored).and (steps_locate s w)).mono
      (fun _ _ h => h) fun _ _ h => h.1
  rw [perform_picks hm]
  refine hlocate.bind fun i u ⟨⟨⟨view', hview', hbusy, hhide, hgraphs⟩, hi⟩, hsteps⟩ => ?_
  obtain ⟨es, hframe, -⟩ := hsteps.frame ha
  obtain ⟨x, hx, howners, -⟩ := hframe.views v view h.found
  cases hx.symm.trans hview'
  have hsound : Sound u :=
    hsteps.sound (announceView_sound (fun k u u' hu => (hR k u u' hu).sound) v) h.sound
  have hcaptured : u.Captured view'.graphs := hgraphs ▸ h.captured_members.mono hframe.snapshots
  have hbuild' : view'.builder.CanBuild u := howners.builder ▸ hbuild u hsteps
  rw [← hgraphs] at hi ⊢
  rw [← hhide]
  exact picks_found ha hview' hbusy hsound hcaptured hbuild' (lt_of_indexOf? hi)

/-- Selecting a snapshot returns, and duplicates are only shown if they were hidden and the snapshot
is one. -/
def Heeds (R : Respond) (v : ViewRef) (s : SnapshotRef) (m : Mutation) (w : World) (view : View) :
    Prop :=
  ∃ w' view', (perform (announceView R) v m).runIn w = some (.ok (), w') ∧
    w'.views[v]? = some view' ∧ Resolved w' view' ∧
    (view'.hideDuplicates ≠ view.hideDuplicates → view.hides = true ∧ w.isDuplicate s = true)

/-- What comes of selecting a member of the group, alone or for a comparison. -/
structure MemberPicked (R : Respond) (v : ViewRef) (s : SnapshotRef) (m : Mutation) (w : World)
    (view : View) (group : Group) : Prop where
  /-- It is selected, and duplicates are only shown for a duplicate, if and only if the view shows
  it already, or it is a hidden duplicate and the group still holds the entry at the low bound. -/
  heeds_iff : Heeds R v s m w view ↔ s ∈ view.graphs ∨
    view.hides = true ∧ w.isDuplicate s = true ∧ ¬ Unmoored view group.members
  /-- While duplicates are shown, a member that the view does not show is taken for foreign. -/
  missing : s ∉ view.graphs → view.hides = false → (perform (announceView R) v m).runIn w =
    some (.error (.foreignSnapshot (w.nameOf s) group.name), w)
  /-- While they are hidden, it is taken for a hidden duplicate, whether it is one or not. -/
  hidden : s ∉ view.graphs → view.hides = true → ¬ Unmoored view group.members →
    ∃ w' view', (perform (announceView R) v m).runIn w = some (.ok (), w') ∧
      w'.views[v]? = some view' ∧ view'.hideDuplicates = .bool false ∧
      view'.graphs = group.members
  unmoored : s ∉ view.graphs → view.hides = true →
    ∀ low, view.itemAt? view.window.low = some low → low ∉ group.members →
      (perform (announceView R) v m).runIn w =
        some (.error (.foreignSnapshot (w.nameOf low) group.name),
          w.modifyView v (refiltered w (.bool false) group.members))

/-- A member of the group is looked for among what the view shows, which can be older than the
group. -/
theorem perform_picks_member (hR : Listening R) (hhalts : ∀ k u, (R k u).isSome = true)
    (h : Ready v w view group)
    (hbuild : ∀ u, Steps (announceView R) v w u → view.builder.CanBuild u)
    (hs : s ∈ group.members) (hm : Picks s m) : MemberPicked R v s m w view group := by
  have hperform : (perform (announceView R) v m).Halts :=
    halts_perform (fun n u => isSome_announceView hhalts v n u) m
  have hhidden : s ∉ view.graphs → view.hides = true → ¬ Unmoored view group.members →
      ∃ w', (perform (announceView R) v m).runIn w = some (.ok (), w') ∧
        Displays v (.bool false) group.members w' := by
    intro hnone hhides hmoored
    obtain ⟨x, w', hrun, hshown⟩ :=
      hperform.returns (perform_picks_hidden hR h hbuild hm hs hnone hhides hmoored)
    exact ⟨w', hrun, hshown⟩
  have hunmoored := fun hnone hhides low (hlow : view.itemAt? view.window.low = some low) hgone =>
    perform_picks_unmoored (a := announceView R) h hm hnone hhides hlow hgone
  have hmissing := perform_picks_missing (a := announceView R) h hm
  refine ⟨⟨?_, ?_⟩, hmissing, fun hnone hhides hmoored => ?_, hunmoored⟩
  · rintro ⟨w', view', hrun, hview', -, hkept⟩
    by_cases hnone : s ∈ view.graphs
    · exact .inl hnone
    · cases hhides : view.hides with
      | false =>
        rw [hmissing hnone hhides] at hrun
        cases hrun
      | true =>
        have hmoored : ¬ Unmoored view group.members := by
          rintro ⟨low, hlow, hgone⟩
          rw [hunmoored hnone hhides low hlow hgone] at hrun
          cases hrun
        obtain ⟨u, hrun', x, hx, -, hhide, -⟩ := hhidden hnone hhides hmoored
        cases hrun.symm.trans hrun'
        cases hview'.symm.trans hx
        -- duplicates were hidden and are shown now
        refine .inr ⟨rfl, (hkept fun hsame => ?_).2, hmoored⟩
        rw [hides, ← hsame, hhide] at hhides
        cases hhides
  · intro hcase
    by_cases hvisible : s ∈ view.graphs
    · obtain ⟨x, w', hrun, view', hview', -, hhide, -, hresolved⟩ := hperform.returns
        (perform_picks_visible (hR.announceView_framed v) h (hbuild w (.refl w)) hm hvisible)
      exact ⟨w', view', hrun, hview', hresolved, fun hne => absurd hhide hne⟩
    · obtain ⟨hhides, hduplicate, hmoored⟩ := hcase.resolve_left hvisible
      obtain ⟨w', hrun, view', hview', -, -, -, hresolved⟩ := hhidden hvisible hhides hmoored
      exact ⟨w', view', hrun, hview', hresolved, fun _ => ⟨hhides, hduplicate⟩⟩
  · obtain ⟨w', hrun, view', hview', -, hhide, hgraphs, -⟩ := hhidden hnone hhides hmoored
    exact ⟨w', view', hrun, hview', hhide, hgraphs⟩

/-- The chains are the same lists of the same filters. -/
def SameFilters (w w' : World) : Prop := w'.chains = w.chains ∧ w'.filters = w.filters

theorem renders_sameFilters : Renders SameFilters where
  chains := ⟨fun _ => ⟨rfl, rfl⟩, fun h h' => ⟨h'.1.trans h.1, h'.2.trans h.2⟩⟩
  note _ _ _ := ⟨rfl, rfl⟩
  assign _ _ _ _ _ _ _ := ⟨rfl, rfl⟩
  archive _ _ _ _ _ _ _ := ⟨rfl, rfl⟩
  count _ _ := ⟨rfl, rfl⟩

/-- A relation that nothing but listeners can leave. -/
theorem Steps.heeds {R : Respond} {T : World → World → Prop} (hT : Renders T)
    (hview : ∀ w f, T w (w.modifyView v f)) (hrecord : ∀ w e, T w (w.record e))
    (hR : ∀ k u u', R k u = some u' → T u u') (h : Steps (announceView R) v w w') : T w w' :=
  h.within hT (fun w f _ => hview w f) fun _ _ _ hu =>
    announceView_within hT.chains hR (fun _ _ => hrecord _ _) (fun _ => hrecord _ _) hu

/-- A change of a view leaves the chains as they are if nobody hears what it announces. -/
theorem Steps.sameFilters (h : Steps (announceView fun _ w => some w) v w w') :
    SameFilters w w' :=
  h.heeds renders_sameFilters (fun _ _ => ⟨rfl, rfl⟩) (fun _ _ => ⟨rfl, rfl⟩) fun _ u _ hu => by
    cases hu
    exact renders_sameFilters.chains.refl u

/-- When a fifth snapshot has joined four, one of the four is selected, and the fifth is not. -/
theorem perform_picks_member_joined : ∃ view, fourShown.views[0]? = some view ∧
    Heeds (fun _ w => some w) 0 1 (.selectGraph 1) (beginsAmong [0, 1, 2, 3, 4] fourShown)
      { view with busy := true } ∧
    ¬ Heeds (fun _ w => some w) 0 4 (.selectGraph 4) (beginsAmong [0, 1, 2, 3, 4] fourShown)
      { view with busy := true } := by
  obtain ⟨view, hview, -, -, hgraphs, -, hhide, -⟩ := fourShown_view
  have hbuild (u : World) (h : Steps (announceView fun _ w => some w) 0
      (beginsAmong [0, 1, 2, 3, 4] fourShown) u) : view.builder.CanBuild u :=
    canBuild_fourShown hview h.sameFilters.1 h.sameFilters.2
  have hiff (s : SnapshotRef) (hs : s ∈ [0, 1, 2, 3, 4]) :=
    (perform_picks_member listening_unheard (fun _ _ => rfl)
      (ready_fourShown hview (by decide : ∀ r ∈ [0, 1, 2, 3, 4], r < 5)) hbuild hs
      (.inl rfl : Picks s (.selectGraph s))).heeds_iff
  refine ⟨view, hview, (hiff 1 (by decide)).2 (.inl ?_), fun hheeds => ?_⟩
  · rw [hgraphs]
    decide
  · rcases (hiff 4 (by decide)).1 hheeds with hmem | ⟨hhides, -⟩
    · rw [hgraphs] at hmem
      exact absurd hmem (by decide)
    · rw [hides, hhide] at hhides
      cases hhides

theorem fourShown_join_select :
    ((View.mutate (announceView fun _ w => some w) 0 (.selectGraph 4)).runIn
      (joining 0 4 fourShown)).any (fun p => failureOf p.1 = some (.foreignSnapshot "s" "g")) =
      true := by
  unfold View.mutate runChange
  simp only [drain_eq_drainFirst _ _ 3]
  decide +kernel

/-- A snapshot cannot be selected while a group announces that it has joined it. -/
theorem unselected_while_joining : ¬ ∀ (R : Respond) (w w' : World) (v : ViewRef) (view : View)
    (group : Group) (s : SnapshotRef) (m : Mutation) (r : Except Failure Unit), Listening R →
    w.Reachable → w.views[v]? = some view → view.closed = false →
    w.groups[view.group]? = some group → (∀ r ∈ group.members ++ [s], w.isDifference r = false) →
    s ∈ w.pool → view.builder.CanBuild w → Picks s m →
    (View.mutate (announceView R) v m).runIn (joining view.group s w) = some (r, w') →
    r = .ok () := by
  intro hall
  obtain ⟨view, hview, hopen, hgroup, -⟩ := fourShown_view
  obtain ⟨⟨r, w'⟩, hrun, hfailed⟩ := Option.any_eq_true _ _ |>.1 fourShown_join_select
  have hplain : ∀ r < 5, fourShown.isDifference r = false := by decide +kernel
  have hok := hall _ _ w' 0 view ⟨"g", [0, 1, 2, 3]⟩ 4 (.selectGraph 4) r listening_unheard
    reachable_fourShown hview hopen (by rw [hgroup]; rfl)
    (fun r hr => hplain r (by revert r; decide)) (by decide +kernel)
    (canBuild_fourShown hview rfl rfl) (.inl rfl) (by rw [hgroup]; exact hrun)
  rw [hok] at hfailed
  cases of_decide_eq_true hfailed

end View

end SnapshotViewer
