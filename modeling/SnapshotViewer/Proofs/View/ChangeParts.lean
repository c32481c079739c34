import SnapshotViewer.Proofs.View.Steps

/-!
# What a change of a view is made of

`View.Steps` lists single writes. Some relations only hold again when several of them are done: the
graph is written before its diagram, and both are written before they are announced. To such a
relation a change is made of larger parts: the ends of the window are shown as a whole
(`View.showEnds`), and apart from that a change writes neither what is selected nor the diagram.
`View.Performs` lists what there is to show of these parts. Main statement: `View.Performs.perform`.
-/

namespace SnapshotViewer

/-- The failure says that a difference would be compared with something. -/
def Failure.nests : Failure → Bool
  | .nestedDifference _ => true
  | _ => false

namespace Act

/-- If the step succeeds, it has led from one world to a `T`-related one, and if it fails, then as
`F` says. -/
def Leads (T : World → World → Prop) (F : Failure → World → World → Prop) {α : Type}
    (act : Act α) : Prop :=
  ∀ w, act.Ends w (fun _ w' => T w w') fun e w' => F e w w'

/-- If the step succeeds, it has led from one world to a related one. -/
abbrev Completes (T : World → World → Prop) {α : Type} (act : Act α) : Prop :=
  act.Leads T fun _ _ _ => True

end Act

namespace View

/-- Two states of a view that show the same and are at the same point of its changes. -/
structure SameDrawn (view view' : View) : Prop extends SameDispatch view view' where
  selection : view'.selection = view.selection
  diagram : view'.diagram = view.diagram

/-- What there is to show of a relation so that every change of a view that succeeds stays within
it, unless it follows a filter chain, and of failures so that every change that fails does as `F`
says. -/
structure Performs (a : Announce) (v : ViewRef) (T : World → World → Prop)
    (F : Failure → World → World → Prop) : Prop where
  chains : Act.Chains T
  write : ∀ w f, (∀ view, SameDrawn view (f view)) →
    (∀ view, w.views[v]? = some view → Write w view (f view)) → T w (w.modifyView v f)
  logged : ∀ w r, T w (w.record (.logged r))
  announce : ∀ n w w', n ≠ .graphChanged → a v n w = some w' → T w w'
  shows : ∀ w view first second, w.views[v]? = some view → w.firstGraph view = .ok first →
    w.secondGraph view = .ok second → view.knows first second = false →
    (showEnds a v first second).Ends w (fun _ w' => T w w') fun e w' => F e w w'
  stops : ∀ e w, e.nests = false → F e w w := by intros; trivial
  unresolved : ∀ e w view, w.views[v]? = some view →
    w.firstGraph view = .error e ∨ w.secondGraph view = .error e → F e w w := by intros; trivial
  fails : ∀ e {w w' w''}, T w w' → F e w' w'' → F e w w'' := by intros; trivial

variable {a : Announce} {v : ViewRef} {T : World → World → Prop}
  {F : Failure → World → World → Prop} {α β : Type}

namespace Performs

variable (hT : Performs a v T F)

include hT

theorem bind {act : Act α} {next : α → Act β} (h : act.Leads T F)
    (hnext : ∀ x, (next x).Leads T F) : (act >>= next).Leads T F :=
  fun w => (h w).bind fun x w' hx =>
    (hnext x w').mono (fun _ _ h' => hT.chains.trans hx h') fun e _ h' => hT.fails e hx h'

/-- What follows in a world that a step has led to. -/
theorem andThen {act : Act α} {w w' : World} (h : T w w')
    (hact : act.Ends w' (fun _ w'' => T w' w'') fun e w'' => F e w' w'') :
    act.Ends w' (fun _ w'' => T w w'') fun e w'' => F e w w'' :=
  hact.mono (fun _ _ h' => hT.chains.trans h h') fun e _ h' => hT.fails e h h'

/-- What is written after a look at the view. -/
theorem modify {f : View → View} (hf : ∀ view, SameDrawn view (f view)) {w : World}
    (hwrite : ∀ view, w.views[v]? = some view → Write w view (f view)) :
    (Act.modifyView v f).Ends w (fun _ w' => T w w') fun e w' => F e w w' :=
  Act.ends_modifyView.2 (hT.write w f hf hwrite)

theorem announces {n : Notice} (hn : n ≠ .graphChanged) : (View.announce a v n).Leads T F :=
  fun w => Act.ends_yield.2 fun w' h => hT.announce n w w' hn h

theorem pure (x : α) : (Pure.pure x : Act α).Leads T F :=
  fun w => Act.ends_pure.2 (hT.chains.refl w)

theorem throw {e : Failure} (he : e.nests = false) : (MonadExcept.throw e : Act α).Leads T F :=
  fun w => Act.ends_throw.2 (hT.stops e w he)

theorem view : (Act.view v).Leads T F :=
  fun w => Act.ends_view (fun _ _ => hT.chains.refl w) fun _ => hT.stops _ w rfl

theorem group (g : GroupRef) : (Act.group g).Leads T F :=
  fun w => Act.ends_group (fun _ _ => hT.chains.refl w) fun _ => hT.stops _ w rfl

theorem get : (MonadState.get : Act World).Leads T F :=
  fun w => Act.ends_get.2 (hT.chains.refl w)

theorem ofExcept {r : Except Failure α} (hr : ∀ e, r = .error e → e.nests = false) :
    (Act.ofExcept r).Leads T F :=
  fun w => Act.ends_ofExcept (fun _ _ => hT.chains.refl w) fun e he => hT.stops e w (hr e he)

theorem debug (logger text : String) : (Act.debug logger text).Leads T F :=
  fun w => Act.ends_record.2 (hT.logged w _)

theorem windowMoved : (windowMoved a v).Leads T F := by
  unfold View.windowMoved showWindow
  refine hT.bind (fun w => ?_) fun replaced => ?_
  · rw [Act.ends_bind]
    refine Act.ends_view (fun view hview => ?_) fun _ => hT.stops _ w rfl
    rw [Act.ends_bind, Act.ends_get, Act.ends_bind]
    refine Act.ends_ofExcept (fun first hfirst => ?_) fun e he =>
      hT.unresolved e w view hview (.inl he)
    rw [Act.ends_bind]
    refine Act.ends_ofExcept (fun second hsecond => ?_) fun e he =>
      hT.unresolved e w view hview (.inr he)
    split
    · exact Act.ends_pure.2 (hT.chains.refl w)
    · rename_i hknows
      exact (hT.shows w view first second hview hfirst hsecond (by simpa using hknows)).bind
        fun _ _ h => Act.ends_pure.2 h
  · exact hT.bind (hT.announces (by simp)) fun _ => hT.pure _

theorem announceKept (replaced : Bool) : (announceKept a v replaced).Leads T F := by
  unfold View.announceKept
  split
  · exact hT.pure _
  · exact hT.announces (by simp)

/-! ## Selecting -/

omit hT in
theorem nests_of_ofBounds {low high size : Int} {e : Failure}
    (h : Window.ofBounds low high size = .error e) : e.nests = false := by
  unfold Window.ofBounds at h
  split at h
  · cases h
  · cases h
    rfl

omit hT in
theorem nests_of_anchorTo {window : Window} {index size : Int} {e : Failure}
    (h : window.anchorTo index size = .error e) : e.nests = false := by
  unfold Window.anchorTo at h
  split at h
  · exact nests_of_ofBounds h
  · exact nests_of_ofBounds h

/-- The window is moved to where it fits. -/
theorem move {window : Window} {w : World} {view : View} (hview : w.views[v]? = some view)
    (hfits : window.FitsIn view.graphs.length) :
    (Act.modifyView v fun view => { view with window }).Ends w (fun _ w' => T w w')
      fun e w' => F e w w' := by
  refine hT.modify (fun view => ?_) fun view' hview' => ?_
  · exact ⟨⟨rfl, rfl, rfl, rfl, rfl, rfl⟩, rfl, rfl⟩
  · cases hview.symm.trans hview'
    exact .move window hfits

theorem setWindow (low high : Int) : (setWindow a v low high).Leads T F := by
  intro w
  unfold View.setWindow
  rw [Act.ends_bind]
  refine Act.ends_view (fun view hview => ?_) fun _ => hT.stops _ w rfl
  rw [Act.ends_bind]
  refine Act.ends_ofExcept (fun window hwindow => ?_) fun e he =>
    hT.stops e w (nests_of_ofBounds he)
  exact (hT.move hview (Window.fitsIn_of_ofBounds hwindow)).bind fun _ w' h =>
    hT.andThen h (hT.windowMoved w')

theorem foreign (s : SnapshotRef) : (foreign v s : Act α).Leads T F :=
  hT.bind hT.view fun _ => hT.bind (hT.group _) fun _ => hT.bind hT.get fun _ => hT.throw rfl

theorem selectVisible (s : SnapshotRef) : (selectVisible a v s).Leads T F := by
  unfold View.selectVisible
  refine hT.bind hT.view fun view => ?_
  split
  · exact hT.setWindow _ _
  · exact hT.foreign s

theorem refilterWith (hide : Value) : (refilterWith v hide).Leads T F := by
  intro w
  unfold View.refilterWith
  rw [Act.ends_bind]
  refine Act.ends_view (fun view hview => ?_) fun _ => hT.stops _ w rfl
  rw [Act.ends_bind]
  refine Act.ends_group (fun group hgroup => ?_) fun _ => hT.stops _ w rfl
  rw [Act.ends_bind, Act.ends_get]
  refine hT.modify (fun view => ?_) fun view' hview' => ?_
  · exact ⟨⟨rfl, rfl, rfl, rfl, rfl, rfl⟩, rfl, rfl⟩
  · cases hview.symm.trans hview'
    exact .refilter hide hgroup

theorem refilter : (refilter v).Leads T F := hT.bind hT.view fun _ => hT.refilterWith _

theorem anchorOf : (anchorOf v).Leads T F := by
  intro w
  unfold View.anchorOf
  rw [Act.ends_bind]
  refine Act.ends_view (fun view hview => ?_) fun _ => hT.stops _ w rfl
  rw [Act.ends_bind]
  refine Act.ends_group (fun group _ => ?_) fun _ => hT.stops _ w rfl
  rw [Act.ends_bind, Act.ends_get, Act.ends_bind]
  refine Act.ends_ofExcept (fun first _ => ?_) fun e he => hT.unresolved e w view hview (.inl he)
  split
  · exact Act.ends_pure.2 (hT.chains.refl w)
  · split
    · exact Act.ends_pure.2 (hT.chains.refl w)
    · exact Act.ends_throw.2 (hT.stops _ w rfl)

theorem targetOf (hide : Bool) : (targetOf v hide).Leads T F := by
  unfold View.targetOf
  refine hT.bind hT.anchorOf fun anchor => hT.bind hT.view fun view => ?_
  refine hT.bind (hT.group _) fun group => hT.bind hT.get fun w => ?_
  split
  · refine hT.ofExcept fun e he => ?_
    unfold Sequence.resolveUnhidden at he
    split at he
    · cases he
      rfl
    · split at he
      · cases he
      · cases he
        rfl
  · exact hT.pure _

theorem toggleDuplicates {select : SnapshotRef → Act Bool}
    (hselect : ∀ s, (select s).Leads T F) (hide : Bool) :
    (toggleDuplicates select a v hide).Leads T F := by
  unfold View.toggleDuplicates
  refine hT.bind hT.view fun view => ?_
  split
  · exact hT.pure _
  split
  · exact hT.refilterWith _
  · refine hT.bind (hT.targetOf hide) fun target => hT.bind (hT.refilterWith _) fun _ => ?_
    exact hT.bind (hselect target) fun replaced => hT.announceKept replaced

theorem showDuplicates : (showDuplicates a v).Leads T F := by
  unfold View.showDuplicates
  refine hT.bind hT.view fun view => ?_
  split
  · exact hT.toggleDuplicates hT.selectVisible false
  · exact hT.pure _

theorem locate (s : SnapshotRef) : (locate a v s).Leads T F := by
  unfold View.locate
  refine hT.bind hT.view fun view => ?_
  split
  · exact hT.pure _
  · refine hT.bind hT.showDuplicates fun _ => hT.bind hT.view fun view => ?_
    split
    · exact hT.pure _
    · exact hT.foreign s

theorem selectGraph (s : SnapshotRef) : (selectGraph a v s).Leads T F :=
  hT.bind (hT.locate s) fun _ => hT.setWindow _ _

theorem selectDifference (s : SnapshotRef) : (selectDifference a v s).Leads T F := by
  unfold View.selectDifference
  refine hT.bind (hT.locate s) fun i w => ?_
  rw [Act.ends_bind]
  refine Act.ends_view (fun view hview => ?_) fun _ => hT.stops _ w rfl
  rw [Act.ends_bind]
  refine Act.ends_ofExcept (fun window hwindow => ?_) fun e he =>
    hT.stops e w (nests_of_anchorTo he)
  exact (hT.move hview (Window.fitsIn_of_anchorTo hwindow)).bind fun _ w' h =>
    hT.andThen h (hT.bind hT.windowMoved (fun _ => hT.pure _) w')

theorem setHideDuplicates (hide : Bool) : (setHideDuplicates a v hide).Leads T F := by
  refine hT.toggleDuplicates (fun s => ?_) hide
  split
  · exact hT.selectGraph s
  · exact hT.selectVisible s

/-! ## Nodes, toggles and following a group -/

theorem setSelectedNodes (ids : NodeSet) : (setSelectedNodes a v ids).Leads T F := by
  intro w
  unfold View.setSelectedNodes
  rw [Act.ends_bind, Act.ends_get]
  refine (hT.modify (fun view => ?_) fun view _ => .selectNodes ids).bind fun _ w' h => ?_
  · exact ⟨⟨rfl, rfl, rfl, rfl, rfl, rfl⟩, rfl, rfl⟩
  · exact hT.andThen h
      (hT.bind (hT.announces (by simp)) (fun _ => hT.announces (by simp)) w')

theorem setHiddenNodes (ids : NodeSet) : (setHiddenNodes a v ids).Leads T F := by
  intro w
  unfold View.setHiddenNodes
  refine (hT.modify (fun view => ?_) fun view _ => .hideNodes ids).bind fun _ w' h => ?_
  · exact ⟨⟨rfl, rfl, rfl, rfl, rfl, rfl⟩, rfl, rfl⟩
  · exact hT.andThen h (hT.announces (by simp) w')

theorem setToggle (t : Toggle) (on : Bool) : (setToggle a v t on).Leads T F := by
  intro w
  unfold View.setToggle
  rw [Act.ends_bind]
  refine Act.ends_view (fun view hview => ?_) fun _ => hT.stops _ w rfl
  split
  · refine (hT.modify (fun view => ?_) fun view _ => .toggle _).bind fun _ w' h => ?_
    · exact ⟨⟨rfl, rfl, rfl, rfl, rfl, rfl⟩, rfl, rfl⟩
    · exact hT.andThen h (hT.announces (by simp) w')
  · exact Act.ends_pure.2 (hT.chains.refl w)

theorem keepOn (low high : Option SnapshotRef) : (keepOn v low high).Leads T F := by
  intro w
  unfold View.keepOn
  rw [Act.ends_bind]
  refine Act.ends_view (fun view hview => ?_) fun _ => hT.stops _ w rfl
  split
  · rw [Act.ends_bind]
    refine Act.ends_ofExcept (fun window hwindow => ?_) fun e he =>
      hT.stops e w (nests_of_ofBounds he)
    exact hT.move hview (Window.fitsIn_of_ofBounds hwindow)
  · exact Act.ends_pure.2 (hT.chains.refl w)

theorem refilterShowing : (refilterShowing v).Leads T F := by
  unfold View.refilterShowing
  refine hT.bind hT.refilter fun _ => hT.bind hT.view fun view => ?_
  split
  · exact hT.bind (hT.group _) fun group => hT.bind (hT.debug _ _) fun _ => hT.refilterWith _
  · exact hT.pure _

theorem groupChanged : (groupChanged a v).Leads T F := by
  unfold View.groupChanged
  refine hT.bind hT.view fun before => hT.bind hT.refilterShowing fun _ => ?_
  refine hT.bind (hT.keepOn _ _) fun _ => hT.bind hT.windowMoved fun replaced => ?_
  refine hT.bind (hT.announceKept replaced) fun _ => hT.bind hT.view fun view => ?_
  exact hT.setSelectedNodes _

/-- Every change of a view, but that of a filter chain, stays within the relation if it succeeds,
and fails as it should. -/
theorem perform {m : Mutation} (hm : m ≠ .filterChainChanged) : (perform a v m).Leads T F := by
  cases m with
  | selectGraph s => exact hT.bind (hT.selectGraph s) fun _ => hT.pure _
  | selectDifference s => exact hT.selectDifference s
  | setWindow low high => exact hT.bind (hT.setWindow low high) fun _ => hT.pure _
  | setHideDuplicates hide => exact hT.setHideDuplicates hide
  | setSelectedNodes ids => exact hT.setSelectedNodes ids
  | setHiddenNodes ids => exact hT.setHiddenNodes ids
  | showOnly ids =>
    refine hT.bind hT.view fun view => hT.bind (hT.group _) fun group => ?_
    exact hT.bind hT.get fun _ => hT.setHiddenNodes _
  | showFigures ids => exact hT.bind hT.view fun _ => hT.setHiddenNodes _
  | setToggle t on => exact hT.setToggle t on
  | groupChanged => exact hT.groupChanged
  | filterChainChanged => exact absurd rfl hm

omit hT in
/-- What is shown when a view is opened. Nobody is connected to it yet. -/
theorem showFirst (hT : Performs (fun _ _ w => some w) v T F) (s : SnapshotRef) :
    (showFirst v s).Leads T F :=
  hT.bind hT.refilter fun _ => hT.bind (hT.selectGraph s) fun _ => hT.pure _

end Performs

end View

end SnapshotViewer
