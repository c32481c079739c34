import SnapshotViewer.Proofs.View.CallOutcome

/-!
# Selecting a member of the group

A member of the group that is hidden is found by showing duplicates first, which selects another
snapshot on the way: the one that stays selected (`StaysSelected`). `Located` says from which state
of the view, and at which position, the window is moved to the member then. That showing duplicates
selects a snapshot does not show duplicates again (`selectWithin_succ`). Main statement:
`mutate_selectGraph`: what a call that selects a member comes to.
-/

namespace SnapshotViewer.View

open World

variable {R : Respond} {a : Announce} {v : ViewRef} {w w₁ u : World} {view view' base : View}
  {group : Group} {members : List SnapshotRef} {s current target : SnapshotRef} {m : Mutation}
  {hide : Bool} {i : Nat} {α β : Type}

/-! ## What stays selected -/

/-- What stays selected while duplicates are shown or hidden: the first snapshot that the window
resolves to if the group holds it, and else the entry at the low bound. -/
def StaysSelected (w : World) (view : View) (members : List SnapshotRef) (current : SnapshotRef) :
    Prop :=
  ∃ first, w.firstGraph view = .ok first ∧ (first ∈ members → current = first) ∧
    (first ∉ members → view.itemAt? view.window.low = some current)

/-- What is selected alone once duplicates are hidden or shown, while a snapshot stays selected. -/
def keptBy (w : World) (hide : Bool) (members : List SnapshotRef) (current : SnapshotRef) :
    Except Failure SnapshotRef :=
  if hide then Sequence.resolveUnhidden w.nameOf w.isDuplicate members current else .ok current

namespace Begins

variable (h : Begins v w view group)

include h

theorem graphs_ne_nil : view.graphs ≠ [] := by
  obtain ⟨hlow, hordered, hhigh⟩ := h.fits
  exact List.length_pos_iff.1 (by omega)

theorem mem_of_visible {r : SnapshotRef} (hr : r ∈ view.graphs) : r ∈ group.members := by
  rw [h.graphs] at hr
  exact List.mem_of_mem_filter hr

/-- Something stays selected, and it is an entry of the group. -/
theorem stays :
    ∃ current, StaysSelected w view group.members current ∧ current ∈ group.members := by
  obtain ⟨first, hfirst⟩ := h.first
  obtain ⟨low, -, hlow, -⟩ := entry_of_fits h.fits
  by_cases hmem : first ∈ group.members
  · exact ⟨first, ⟨first, hfirst, fun _ => rfl, fun hnone => absurd hmem hnone⟩, hmem⟩
  · exact ⟨low, ⟨first, hfirst, fun hfound => absurd hfound hmem, fun _ => hlow⟩,
      h.mem_of_visible (mem_of_itemAt? hlow)⟩

theorem mem_of_stays (hcurrent : StaysSelected w view group.members current) :
    current ∈ group.members := by
  obtain ⟨first, -, hfound, hnone⟩ := hcurrent
  by_cases hmem : first ∈ group.members
  · exact hfound hmem ▸ hmem
  · exact h.mem_of_visible (mem_of_itemAt? (hnone hmem))

theorem anchorOf (hcurrent : StaysSelected w view group.members current) :
    (anchorOf v).runIn w = some (.ok current, w) := by
  obtain ⟨first, hfirst, hfound, hnone⟩ := hcurrent
  exact runIn_anchorOf h.found h.grouped h.fits hfirst hfound hnone

theorem targetOf (hcurrent : StaysSelected w view group.members current) :
    (targetOf v hide).runIn w = (Act.ofExcept (keptBy w hide group.members current)).runIn w := by
  unfold View.targetOf
  rw [Act.runIn_bind_ok (h.anchorOf hcurrent), Act.runIn_bind_ok (Act.runIn_view h.found),
    Act.runIn_bind_ok (Act.runIn_group h.grouped), Act.runIn_bind_ok (Act.runIn_get w)]
  cases hide <;> rfl

end Begins

/-! ## Showing and hiding duplicates -/

/-- The view with duplicates shown or hidden, and a snapshot selected alone. -/
def toggled (w : World) (hide : Bool) (members : List SnapshotRef) (i : Nat) (view : View) : View :=
  { refiltered w (.bool hide) members view with window := ⟨i, i⟩ }

/-- What showing or hiding duplicates announces. -/
def toggling (replaced : Bool) : List Notice :=
  replacing replaced ++ [.windowChanged] ++ if replaced then [] else [.diagramChanged]

section

variable (ha : ∀ n w w', a v n w = some w' → ∃ es, Undisturbed v es (w.noteReading v n) w')

include ha

/-- The diagram is announced unless it was replaced, which has announced it. -/
theorem announceKept_renews {ns : List Notice} {E : Failure → World → Prop} (replaced : Bool)
    (h : Renewed a v ns w view w₁) (hbusy : view.busy = true) :
    (announceKept a v replaced).Ends w₁ (fun _ u =>
      Renewed a v (ns ++ if replaced then [] else [.diagramChanged]) w view u) E := by
  obtain ⟨es, view₁, hp, hresolved, hsteps⟩ := h
  cases replaced with
  | true => exact Act.ends_pure.2 ⟨es, view₁, by simpa using hp, hresolved, hsteps⟩
  | false =>
    refine ((announce_presents ha .diagramChanged hp.found (hp.busy.trans hbusy) hresolved).and
      ((steps_announce .diagramChanged w₁).mono (fun _ _ h => h) fun _ _ _ => trivial)).mono
      (fun _ u hx => ?_) fun _ _ h => h.1
    obtain ⟨⟨es', _, _, hp', hresolved'⟩, hsteps'⟩ := hx
    exact ⟨_, _, hp.trans hp', hresolved', hsteps.trans hsteps'⟩

/-- Duplicates are shown or hidden, and the snapshot is selected that is to be selected then. -/
theorem toggleDuplicates_renews (h : Begins v w view group) {select : SnapshotRef → Act Bool}
    (hselect : SelectsVisible a v select) (hnew : view.hideDuplicates.sameBool hide = false)
    (htarget : (targetOf v hide).runIn w = some (.ok target, w))
    (hi : Sequence.indexOf? (Sequence.visible w.isDuplicate hide group.members) target = some i) :
    (toggleDuplicates select a v hide).Ends w (fun _ u => ∃ replaced,
      Renewed a v (toggling replaced) w (toggled w hide group.members i view) u)
      (Unbuilt a v w) := by
  have hview₁ := views_modifyView_self h.found (refiltered w (.bool hide) group.members)
  have hsteps : Steps a v w (w.modifyView v (refiltered w (.bool hide) group.members)) :=
    (Steps.refl w).write _ fun x hx => by
      cases h.found.symm.trans hx
      exact .refilter _ h.grouped
  have hselected : (do announceKept a v (← setWindow a v i i) : Act Unit).Ends
      (w.modifyView v (refiltered w (.bool hide) group.members)) (fun _ u => ∃ replaced,
        Renewed a v (toggling replaced) w (toggled w hide group.members i view) u)
      (Unbuilt a v w) := by
    refine Act.Ends.bind ((setWindow_renews ha hview₁ h.busy (lt_of_indexOf? hi)).mono
      (fun _ _ h => h) fun _ _ he => he.after hsteps) fun replaced u hu => ?_
    exact (announceKept_renews ha replaced (hu.after hsteps rfl) h.busy).mono
      (fun _ u hu => ⟨replaced, hu⟩) fun _ _ h => h
  unfold Act.Ends at hselected ⊢
  rw [toggleDuplicates_selects hselect hnew h.found h.grouped h.graphs_ne_nil htarget hi]
  exact hselected

end

/-! ## Locating a member -/

/-- A member of the group is at a position of the view: of the view as it is, or of the one where
duplicates are shown and what stays selected is selected alone. -/
inductive Located (w : World) (view : View) (members : List SnapshotRef) (s : SnapshotRef) :
    View → Nat → Prop where
  | visible {i : Nat} (hi : Sequence.indexOf? view.graphs s = some i) :
      Located w view members s view i
  | hidden {current : SnapshotRef} {i j : Nat} (hnone : s ∉ view.graphs)
      (hcurrent : StaysSelected w view members current)
      (hj : Sequence.indexOf? members current = some j)
      (hi : Sequence.indexOf? members s = some i) :
      Located w view members s (toggled w false members j view) i

theorem Located.indexOf? (h : Located w view members s base i) :
    Sequence.indexOf? base.graphs s = some i := by
  cases h with
  | visible hi => exact hi
  | hidden _ _ _ hi =>
    change Sequence.indexOf? (Sequence.visible w.isDuplicate false members) s = some i
    rw [visible_false, hi]

/-- If a member of the group is not visible, duplicates are hidden. -/
theorem Begins.hides_of_absent (h : Begins v w view group) (hs : s ∈ group.members)
    (hnone : s ∉ view.graphs) : view.hides = true := by
  cases hhides : view.hides with
  | true => rfl
  | false =>
    rw [h.graphs, hhides, visible_false] at hnone
    exact absurd hs hnone

/-- The window that is asked for depends on the visible snapshots and the window. -/
theorem windowFor_congr (hgraphs : view'.graphs = view.graphs)
    (hwindow : view'.window = view.window) (i : Nat) (m : Mutation) :
    windowFor view' i m = windowFor view i m := by
  cases m <;> simp only [windowFor, hgraphs, hwindow]

/-- A view fits the world when duplicates are shown or hidden and a visible snapshot is selected. -/
theorem Begins.soundView_toggled (h : Begins v w view group)
    (hi : i < (Sequence.visible w.isDuplicate hide group.members).length) :
    SoundView w (toggled w hide group.members i view) := by
  have hrefiltered : SoundView w (refiltered w (.bool hide) group.members view) :=
    SoundView.write h.sound (h.sound.view h.found) (.refilter _ h.grouped)
  exact SoundView.write h.sound hrefiltered
    (.move ⟨i, i⟩ (Window.fitsIn_of_ofBounds (Window.ofBounds_single hi)))

section

variable (ha : ∀ n w w', a v n w = some w' → ∃ es, Undisturbed v es (w.noteReading v n) w')

include ha

/-- A member that is not visible is found once duplicates are shown. -/
theorem locate_renews (h : Begins v w view group) (hs : s ∈ group.members) :
    ∃ base i, Located w view group.members s base i ∧ SoundView w base ∧ base.busy = true ∧
      (locate a v s).Ends w (fun i' u => i' = i ∧ ∃ ns es view', Presents v ns es w base u view' ∧
        Steps a v w u) (Unbuilt a v w) := by
  by_cases hvisible : s ∈ view.graphs
  · obtain ⟨i, hi⟩ := Sequence.indexOf?_of_mem hvisible
    exact ⟨view, i, .visible hi, h.sound.view h.found, h.busy,
      (Act.ends_of_ok (locate_visible h.found hi)).2
        ⟨rfl, [], [], view, .refl h.found, .refl w⟩⟩
  · have hhides := h.hides_of_absent hs hvisible
    obtain ⟨current, hcurrent, hmem⟩ := h.stays
    obtain ⟨j, hj⟩ := Sequence.indexOf?_of_mem hmem
    obtain ⟨i, hi⟩ := Sequence.indexOf?_of_mem hs
    have hj' : Sequence.indexOf? (Sequence.visible w.isDuplicate false group.members) current =
        some j := by rw [visible_false, hj]
    have hlocated : Located w view group.members s _ i := .hidden hvisible hcurrent hj hi
    refine ⟨_, i, hlocated, h.soundView_toggled ?_, h.busy, ?_⟩
    · exact (List.getElem?_eq_some_iff.1 (Sequence.getElem?_of_indexOf? hj')).1
    have htarget : (targetOf v false).runIn w = some (.ok current, w) := h.targetOf hcurrent
    have hshown : (showDuplicates a v).Ends w (fun _ u => ∃ replaced,
        Renewed a v (toggling replaced) w (toggled w false group.members j view) u)
        (Unbuilt a v w) := by
      unfold showDuplicates
      rw [Act.ends_bind, Act.ends_of_ok (Act.runIn_view h.found), if_pos hhides]
      exact toggleDuplicates_renews ha h selectsVisible_selectVisible
        (Value.sameBool_false_of_isTrue hhides) htarget hj'
    unfold locate
    rw [Act.ends_bind, Act.ends_of_ok (Act.runIn_view h.found),
      Sequence.indexOf?_eq_none.2 hvisible]
    refine Act.Ends.bind hshown fun _ u hu => ?_
    obtain ⟨replaced, es, view', hp, -, hsteps⟩ := hu
    rw [Act.ends_bind, Act.ends_of_ok (Act.runIn_view hp.found), hp.graphs, hlocated.indexOf?]
    exact Act.ends_pure.2 ⟨rfl, _, es, view', hp, hsteps⟩

/-- A selection of a member of the group moves the window there, from where it is located. -/
theorem perform_picks_renews (h : Begins v w view group) (hs : s ∈ group.members)
    (hm : Picks s m) : ∃ base i window, Located w view group.members s base i ∧
      windowFor base i m = .ok window ∧ window.FitsIn base.graphs.length ∧
      (perform a v m).Ends w (fun _ u => ∃ ns, Renewed a v ns w { base with window } u)
        (Unbuilt a v w) := by
  obtain ⟨base, i, hlocated, hsound, hbusy, hends⟩ := locate_renews ha h hs
  obtain ⟨window, hwindow, hfits⟩ :=
    windowFor_succeeds (m := m) hsound (lt_of_indexOf? hlocated.indexOf?)
  refine ⟨base, i, window, hlocated, hwindow, hfits, ?_⟩
  rw [perform_picks hm]
  refine hends.bind fun i' w₁ h₁ => ?_
  obtain ⟨rfl, ns, es, view₁, hp, hsteps⟩ := h₁
  rw [Act.ends_bind, Act.ends_of_ok (Act.runIn_view hp.found), Act.ends_bind,
    windowFor_congr hp.graphs hp.window, hwindow, Act.ends_of_ok (Act.runIn_ofExcept_ok _ w₁),
    ← bind_assoc]
  have hmoved := moveWindow_renews ha hp.found (hp.busy.trans hbusy) (hp.graphs ▸ hfits)
  refine Act.Ends.bind (hmoved.mono (fun _ _ h => h) fun _ _ he => he.after hsteps)
    fun replaced u hu => Act.ends_pure.2 ?_
  obtain ⟨es', view₂, hp', hresolved, hsteps'⟩ := hu
  exact ⟨_, _, view₂, hp.thenMove hp', hresolved, hsteps.trans hsteps'⟩

end

/-! ## Showing duplicates once -/

/-- Shows duplicates by `toggle` if they are hidden, and selects a snapshot alone if it is visible
then or was so before. -/
def selectBy (toggle : Act Unit) (a : Announce) (v : ViewRef) (s : SnapshotRef) : Act Bool := do
  let i ← locateBy v s
  setWindow a v i i
where
  /-- The position of a snapshot. If it is not visible, hidden duplicates are shown first. -/
  locateBy (v : ViewRef) (s : SnapshotRef) : Act Nat := do
    match Sequence.indexOf? (← Act.view v).graphs s with
    | some i => return i
    | none =>
      unhideBy v
      match Sequence.indexOf? (← Act.view v).graphs s with
      | some i => return i
      | none => foreign v s
  unhideBy (v : ViewRef) : Act Unit := do
    let view ← Act.view v
    if view.hides then toggle else return ()

/-- Selects a snapshot alone. Showing duplicates selects a snapshot in turn, by the same recursion,
which comes to no end if it shows duplicates more than `n` times. -/
def selectWithin (a : Announce) (v : ViewRef) : Nat → SnapshotRef → Act Bool
  | 0 => selectBy (Act.yield fun _ => none) a v
  | n + 1 => selectBy (toggleDuplicates (selectWithin a v n) a v false) a v

theorem selectGraph_eq_selectBy (a : Announce) (v : ViewRef) :
    selectGraph a v = selectBy (toggleDuplicates (selectVisible a v) a v false) a v := rfl

theorem runIn_bind_congr {act : Act α} {next next' : α → Act β}
    (h : ∀ x u, act.runIn w = some (.ok x, u) → (next x).runIn u = (next' x).runIn u) :
    (act >>= next).runIn w = (act >>= next').runIn w := by
  rw [Act.runIn_bind, Act.runIn_bind]
  cases hrun : act.runIn w with
  | none => rfl
  | some p =>
    obtain ⟨r, u⟩ := p
    cases r with
    | ok x => exact h x u hrun
    | error e => rfl

/-- The failure of a snapshot that is not found is the failure of what follows. -/
theorem foreign_bind (v : ViewRef) (s : SnapshotRef) (next : α → Act β) :
    (foreign v s >>= next) = foreign v s := by
  unfold foreign
  simp only [bind_assoc]
  rfl

/-- While duplicates are shown, a snapshot is selected without showing them. -/
theorem selectBy_shown (toggle : Act Unit) (hview : w.views[v]? = some view)
    (hshown : view.hides = false) (s : SnapshotRef) :
    (selectBy toggle a v s).runIn w = (selectVisible a v s).runIn w := by
  unfold selectBy selectBy.locateBy selectVisible
  rw [Act.runIn_bind_ok (Act.runIn_view hview), bind_assoc,
    Act.runIn_bind_ok (Act.runIn_view hview)]
  cases hi : Sequence.indexOf? view.graphs s with
  | some i => rfl
  | none =>
    have hkept : (selectBy.unhideBy toggle v).runIn w = some (.ok (), w) := by
      unfold selectBy.unhideBy
      rw [Act.runIn_bind_ok (Act.runIn_view hview), if_neg (by simp [hshown]), Act.runIn_pure]
    dsimp only
    rw [bind_assoc, Act.runIn_bind_ok hkept, bind_assoc, Act.runIn_bind_ok (Act.runIn_view hview),
      hi]
    dsimp only
    rw [foreign_bind]

/-- A view that was refiltered shows or hides duplicates as it was told to. -/
theorem refilterWith_hides (v : ViewRef) (hide : Bool) (w : World) :
    (refilterWith v (.bool hide)).Ends w
      (fun _ u => ∃ view, u.views[v]? = some view ∧ view.hides = hide) fun _ _ => True := by
  refine ends_refilterWith trivial fun view group hview _ => ?_
  exact ⟨_, views_modifyView_self hview _, by cases hide <;> rfl⟩

/-- Showing duplicates is not undone or repeated by what is selected meanwhile: it is enough to
show them once. -/
theorem selectWithin_succ (a : Announce) (v : ViewRef) (n : Nat) :
    selectWithin a v (n + 1) = selectGraph a v := by
  have hselect (target : SnapshotRef) (u : World)
      (hu : ∃ view, u.views[v]? = some view ∧ view.hides = false) :
      (selectWithin a v n target).runIn u = (selectVisible a v target).runIn u := by
    obtain ⟨view, hview, hshown⟩ := hu
    cases n <;> exact selectBy_shown _ hview hshown target
  have hrun (w : World) : (toggleDuplicates (selectWithin a v n) a v false).runIn w =
      (toggleDuplicates (selectVisible a v) a v false).runIn w := by
    unfold toggleDuplicates
    refine runIn_bind_congr fun view u _ => ?_
    split
    · rfl
    · split
      · rfl
      · refine runIn_bind_congr fun target u₁ _ => runIn_bind_congr fun _ u₂ hrun => ?_
        have hshown := (refilterWith_hides v false u₁).1 () u₂ hrun
        rw [Act.runIn_bind, hselect target u₂ hshown, ← Act.runIn_bind]
  have htoggle : toggleDuplicates (selectWithin a v n) a v false =
      toggleDuplicates (selectVisible a v) a v false := funext hrun
  rw [selectGraph_eq_selectBy, selectWithin, htoggle]

/-! ## Calls -/

/-- A member of the group is selected alone, in a world `u` that a change has led to from `w`. All
that was not to be changed is as it was. -/
structure SelectedAlone (w : World) (view : View) (group : Group) (s : SnapshotRef) (view' : View) :
    Prop where
  window : ∃ i : Nat, Sequence.indexOf? view'.graphs s = some i ∧ view'.window = ⟨i, i⟩
  entry : view'.itemAt? view'.window.low = some s
  hideDuplicates : view'.hideDuplicates =
    if s ∈ view.graphs then view.hideDuplicates else .bool false
  graphs : view'.graphs = Sequence.visible w.isDuplicate view'.hides group.members
  graph : w.isDifference s = false → view'.graph? = some s
  diagram : Drawn view'
  selectedNodes : view'.selectedNodes = view.selectedNodes
  hiddenNodes : view'.hiddenNodes = view.hiddenNodes
  toggles : view'.toggles = view.toggles
  group : view'.group = view.group

/-- A window whose entries are captured resolves to them. -/
theorem Denotes.ends {high : SnapshotRef} (hcaptured : u.Captured [s, high])
    (hdenotes : view.Denotes s high) (hfits : view.window.FitsIn view.graphs.length) :
    u.firstGraph view = .ok s ∧ u.secondGraph view = .ok high :=
  ⟨(firstGraph_of_low hdenotes.1 hfits u).trans (hcaptured.unwrap List.mem_cons_self true),
    (secondGraph_of_high hdenotes.2 hfits u).trans (hcaptured.unwrap (by simp) false)⟩

/-- The graph for a window over one captured snapshot is the snapshot itself. -/
theorem graph_of_alone (hsound : SoundView u view) (hresolved : Resolved u view)
    (hcaptured : u.Captured [s, s]) (hdenotes : view.Denotes s s) : view.graph? = some s := by
  have hfits : view.window.FitsIn view.graphs.length :=
    ⟨hsound.low, hsound.ordered, hsound.high (List.ne_nil_of_mem (mem_of_itemAt? hdenotes.1))⟩
  obtain ⟨sel, hsel, hfirst, hsecond⟩ := hresolved
  obtain ⟨hfirst', hsecond'⟩ := hdenotes.ends hcaptured hfits
  have heq : sel.first = s := Except.ok.inj (hfirst.symm.trans hfirst')
  have heq' : sel.second = s := Except.ok.inj (hsecond.symm.trans hsecond')
  rw [graph?, hsel, Option.map_some, (hsound.selection sel hsel).single (heq.trans heq'.symm), heq]

/-- The steps of a change leave the world sound and keep what is captured. -/
theorem Steps.keepsCaptured (hR : Listening R) (hsteps : Steps (announceView R) v w u)
    (hsound : Sound w) (hcaptured : w.Captured members) : Sound u ∧ u.Captured members := by
  obtain ⟨es, hframe, -⟩ := hsteps.frame (hR.announceView_framed v)
  exact ⟨hsteps.sound (announceView_sound (fun k x y hx => (hR k x y hx).sound) v) hsound,
    hcaptured.mono hframe.snapshots⟩

/-- Where a member is located, duplicates are shown if it was hidden, and else as they were. -/
theorem Located.hideDuplicates (h : Located w view members s base i) :
    base.hideDuplicates = if s ∈ view.graphs then view.hideDuplicates else .bool false := by
  cases h with
  | visible hi => rw [if_pos (List.mem_of_getElem? (Sequence.getElem?_of_indexOf? hi))]
  | hidden hnone => exact (if_neg hnone).symm

theorem Located.graphs (h : Located w view members s base i)
    (hgraphs : view.graphs = Sequence.visible w.isDuplicate view.hides members) :
    base.graphs = Sequence.visible w.isDuplicate base.hides members := by
  cases h with
  | visible hi => exact hgraphs
  | hidden => rfl

/-- Locating a member writes nothing else of the view. -/
theorem Located.same (h : Located w view members s base i) :
    base.selectedNodes = view.selectedNodes ∧ base.hiddenNodes = view.hiddenNodes ∧
      base.toggles = view.toggles ∧ base.group = view.group ∧ base.selection = view.selection ∧
      base.diagram = view.diagram := by
  cases h <;> exact ⟨rfl, rfl, rfl, rfl, rfl, rfl⟩

/-- Nothing but the groups themselves is written to them, so that they stay if listeners leave them
alone. -/
theorem Steps.sameGroups (hR : ∀ k x y, R k x = some y → y.groups = x.groups)
    (hsteps : Steps (announceView R) v w u) : u.groups = w.groups := by
  have hT : Renders fun x y : World => y.groups = x.groups := {
    chains := ⟨fun _ => rfl, fun h h' => h'.trans h⟩
    note := fun _ _ _ => rfl
    assign := fun _ _ _ _ _ _ _ => rfl
    archive := fun _ _ _ _ _ _ _ => rfl
    count := fun _ _ => rfl }
  exact hsteps.heeds hT (fun _ _ => rfl) (fun _ _ => rfl) hR

theorem Listening.announces_undisturbed (hR : Listening R) (n : Notice) (w w' : World)
    (h : announceView R v n w = some w') : ∃ es, Undisturbed v es (w.noteReading v n) w' :=
  announceView_undisturbed (fun k u u' hu =>
    ⟨(hR k u u' hu).framed, (hR k u u' hu).sound, (hR k u u' hu).staysTuned⟩) n w w' h

/-- The steps that move the window to where a member is located leave it selected alone. -/
theorem Located.selectedAlone {ns : List Notice} (hR : Listening R) (h : Begins v w view group)
    (hs : s ∈ group.members) (hlocated : Located w view group.members s base i)
    (hrenewed : Renewed (announceView R) v ns w { base with window := ⟨i, i⟩ } u) :
    ∃ view', u.views[v]? = some view' ∧ SelectedAlone w view group s view' := by
  obtain ⟨es, view', hp, hresolved, hsteps⟩ := hrenewed
  obtain ⟨hselectedNodes, hhiddenNodes, htoggles, hgroup, hselection, hdiagram⟩ := hlocated.same
  have hdrawn : Drawn view' := by
    refine hp.redrawn.drawn ?_
    obtain ⟨sel, d, hsel, hd, hgraph⟩ := h.drawn
    exact ⟨sel, d, hselection.trans hsel, hdiagram.trans hd, hgraph⟩
  have hgraphs := hp.graphs
  have hwindow : view'.window = ⟨i, i⟩ := hp.window
  obtain ⟨selection, diagram, closed, pending, hview'⟩ := hp.shown
  have hi : Sequence.indexOf? view'.graphs s = some i := hgraphs ▸ hlocated.indexOf?
  have hentry : view'.graphs[i]? = some s := Sequence.getElem?_of_indexOf? hi
  refine ⟨view', hp.found, ⟨⟨i, hi, hwindow⟩, by rw [hwindow]; exact hentry, ?_, ?_,
    fun hplain => ?_, hdrawn, ?_, ?_, ?_, ?_⟩⟩
  · rw [hview', ← hlocated.hideDuplicates]
  · rw [hgraphs]
    refine (hlocated.graphs h.graphs).trans ?_
    rw [hview']
    rfl
  · have hstored := h.sound.members _ (List.mem_of_getElem? h.grouped) s hs
    have hcaptured : w.Captured [s, s] :=
      captured_of_plain (by simpa using hstored) (by simpa using hplain)
    obtain ⟨hsound, hcaptured'⟩ := hsteps.keepsCaptured hR h.sound hcaptured
    refine graph_of_alone (hsound.view hp.found) hresolved hcaptured' ?_
    rw [Denotes, hwindow]
    exact ⟨hentry, hentry⟩
  · rw [hview', ← hselectedNodes]
  · rw [hview', ← hhiddenNodes]
  · rw [hview', ← htoggles]
  · rw [hview', ← hgroup]

/-- A call that selects a member of the group alone does so, unless building fails. The groups stay
as they are if listeners leave them alone. Duplicates are shown at most once, however often a
selection may show them. -/
theorem mutate_selectGraph (hR : Listening R) (hhalts : ∀ k u, (R k u).isSome = true)
    (h : Poised v w view group) (hs : s ∈ group.members) :
    Answers R v (.selectGraph s) w (fun u view' => SelectedAlone w view group s view' ∧
      ((∀ k x y, R k x = some y → y.groups = x.groups) → u.groups = w.groups)) ∧
    ∀ n, selectWithin (announceView R) v (n + 1) s = selectGraph (announceView R) v s := by
  refine ⟨h.answers hhalts ?_, fun n => by rw [selectWithin_succ]⟩
  have hbegins := h.begins (.selectGraph s)
  obtain ⟨base, i, window, hlocated, hwindow, -, hends⟩ :=
    perform_picks_renews (Listening.announces_undisturbed hR) hbegins hs (.inl rfl)
  have halone : window = ⟨i, i⟩ := Except.ok.inj
    (hwindow.symm.trans (Window.ofBounds_single (lt_of_indexOf? hlocated.indexOf?)))
  subst halone
  refine hends.mono (fun _ u hu => ?_) fun _ _ h => h
  obtain ⟨ns, hrenewed⟩ := hu
  obtain ⟨view', hview', halone⟩ := hlocated.selectedAlone hR hbegins hs hrenewed
  obtain ⟨-, -, -, -, hsteps⟩ := hrenewed
  -- that the change has begun is not seen in any of the fields
  refine ⟨view', hview', ⟨halone.window, halone.entry, halone.hideDuplicates, halone.graphs,
    halone.graph, halone.diagram, halone.selectedNodes, halone.hiddenNodes, halone.toggles,
    halone.group⟩, fun hgroups => ?_⟩
  have hsame : u.groups = (begun v (.selectGraph s) w).groups := hsteps.sameGroups hgroups
  exact hsame

/-- In `duplicateHidden` the view hides the second of three snapshots, and a change can begin. -/
theorem poised_duplicateHidden : ∃ view group, Poised 0 duplicateHidden view group ∧
    group.members = [0, 1, 2] ∧ view.graphs = [0, 2] ∧ view.hides = true := by
  obtain ⟨view, hview, hopen, hgroup, hgraphs, hhides⟩ : ∃ view ∈ duplicateHidden.views[0]?,
      view.closed = false ∧ view.group = 0 ∧ view.graphs = [0, 2] ∧
        view.hides = true := by decide +kernel
  have hmembers : duplicateHidden.groups.map (·.members) = [[0, 1, 2]] := by decide +kernel
  obtain ⟨group, hgroup', hgroupMembers⟩ :=
    group_of_members (g := view.group) hmembers (by rw [hgroup]; rfl)
  exact ⟨view, group, reachable_duplicateHidden.poised hview hopen hgroup' (by simp [hgroupMembers])
    (by decide +kernel) (by decide +kernel), hgroupMembers, hgraphs, hhides⟩

theorem duplicateHidden_select :
    ((perform (announceView fun _ w => some w) 0 (.selectGraph 1)).runIn
      (begun 0 (.selectGraph 1) duplicateHidden)).any (fun p => p.1.toOption = some ()) = true := by
  decide +kernel

/-- The hidden snapshot of `duplicateHidden` is selected, and duplicates are shown then. -/
theorem mutate_selectGraph_hidden : ∃ (view view' : View) (group : Group) (u : World),
    Poised 0 duplicateHidden view group ∧ 1 ∈ group.members ∧ 1 ∉ view.graphs ∧
      (perform (announceView fun _ w => some w) 0 (.selectGraph 1)).runIn
        (begun 0 (.selectGraph 1) duplicateHidden) = some (.ok (), u) ∧
      SelectedAlone duplicateHidden view group 1 view' ∧ view'.hideDuplicates = .bool false ∧
      u.groups = duplicateHidden.groups := by
  obtain ⟨view, group, hpoised, hmembers, hgraphs, -⟩ := poised_duplicateHidden
  have hmem : 1 ∈ group.members := by rw [hmembers]; decide
  have hhidden : 1 ∉ view.graphs := by rw [hgraphs]; decide
  obtain ⟨p, hrun, hok⟩ := Option.any_eq_true _ _ |>.1 duplicateHidden_select
  cases (mutate_selectGraph listening_unheard (fun _ _ => rfl) hpoised hmem).1 with
  | completed h hview hQ =>
    obtain ⟨halone, hgroups⟩ := hQ
    refine ⟨view, _, group, _, hpoised, hmem, hhidden, h, halone,
      halone.hideDuplicates.trans (if_neg hhidden), hgroups fun _ _ _ hu => ?_⟩
    cases hu
    rfl
  | unbuilt h =>
    cases h.symm.trans hrun
    cases of_decide_eq_true hok

end SnapshotViewer.View
