import SnapshotViewer.Proofs.Run.Reachability

/-!
# Changes come to an end

`Act.Halts` says that a step has an outcome in every world. The rules follow the ways in which steps
are composed. A change of a view only waits for those who hear what it announces, so that it halts
if they do. Main statement: `View.halts_perform`. Together with `Act.Ends`, which says nothing of a
step without an outcome, `Act.Halts.returns` says what a step comes to.
-/

namespace SnapshotViewer

namespace Act

variable {α β : Type}

/-- The step has an outcome in every world. -/
def Halts (act : Act α) : Prop := ∀ w, (act.runIn w).isSome = true

/-- A step that halts and cannot fail returns. -/
theorem Halts.returns {act : Act α} (h : act.Halts) {w : World} {Q : α → World → Prop}
    (hends : act.Ends w Q fun _ _ => False) :
    ∃ x w', act.runIn w = some (.ok x, w') ∧ Q x w' := by
  obtain ⟨⟨r, w'⟩, hrun⟩ := Option.isSome_iff_exists.1 (h w)
  cases r with
  | ok x => exact ⟨x, w', hrun, hends.1 x w' hrun⟩
  | error e => exact (hends.2 e w' hrun).elim

/-! ## Rules -/

theorem halts_pure (x : α) : (pure x : Act α).Halts := fun _ => rfl

theorem halts_throw (e : Failure) : (throw e : Act α).Halts := fun _ => rfl

theorem halts_get : (get : Act World).Halts := fun _ => rfl

theorem halts_set (w : World) : (set w : Act PUnit).Halts := fun _ => rfl

theorem halts_modify (f : World → World) : (modify f : Act PUnit).Halts := fun _ => rfl

theorem halts_modifyView (v : ViewRef) (f : View → View) : (Act.modifyView v f).Halts :=
  halts_modify _

theorem halts_record (e : Event) : (Act.record e).Halts := halts_modify _

theorem halts_debug (logger text : String) : (Act.debug logger text).Halts := halts_record _

theorem halts_ofExcept (r : Except Failure α) : (ofExcept r).Halts := by
  cases r <;> exact fun _ => rfl

theorem halts_yield {others : World → Option World} (h : ∀ w, (others w).isSome = true) :
    (yield others).Halts := by
  intro w
  rw [runIn_yield, Option.isSome_map]
  exact h w

theorem Halts.bind {act : Act α} {next : α → Act β} (h : act.Halts) (hnext : ∀ x, (next x).Halts) :
    (act >>= next).Halts := by
  intro w
  obtain ⟨⟨r, w'⟩, hrun⟩ := Option.isSome_iff_exists.1 (h w)
  cases r with
  | ok x =>
    rw [runIn_bind_ok hrun]
    exact hnext x w'
  | error e =>
    rw [runIn_bind_error hrun]
    rfl

theorem halts_found (o : Option α) : (found o).Halts := by
  cases o <;> exact fun _ => rfl

theorem halts_view (v : ViewRef) : (Act.view v).Halts := halts_get.bind fun _ => halts_found _

theorem halts_group (g : GroupRef) : (Act.group g).Halts := halts_get.bind fun _ => halts_found _

theorem halts_snapshot (r : SnapshotRef) : (Act.snapshot r).Halts :=
  halts_get.bind fun _ => halts_found _

/-! ## Resolving graphs and building diagrams -/

theorem halts_currentGraph (counted : Bool) (first second : SnapshotRef) :
    (Act.currentGraph counted first second).Halts := by
  unfold Act.currentGraph Act.makeDifference
  split
  · exact halts_pure _
  · refine (halts_record _).bind fun _ => (halts_snapshot _).bind fun _ => ?_
    exact (halts_snapshot _).bind fun _ => halts_get.bind fun _ => (halts_set _).bind fun _ =>
      halts_pure _

end Act

open Act

theorem Builder.halts_ensureBlocks (b : Builder) (r : SnapshotRef) : (b.ensureBlocks r).Halts := by
  unfold Builder.ensureBlocks
  refine (halts_snapshot r).bind fun s => ?_
  split
  · exact halts_pure _
  · split
    · exact halts_throw _
    · exact (halts_record _).bind fun _ => (halts_ofExcept _).bind fun _ => halts_modify _

theorem Builder.halts_rebuild (b : Builder) (r : SnapshotRef) : (b.rebuild r).Halts := by
  unfold Builder.rebuild
  refine (b.halts_ensureBlocks r).bind fun _ => (halts_snapshot r).bind fun s => ?_
  refine (halts_ofExcept _).bind fun figures => halts_get.bind fun w => ?_
  refine (halts_modify _).bind fun _ => ?_
  split
  · exact halts_throw _
  · exact (halts_debug _ _).bind fun _ => halts_get.bind fun _ => (halts_modify _).bind fun _ =>
      halts_pure _

namespace View

variable {v : ViewRef}

theorem halts_refilterWith (hide : Value) : (refilterWith v hide).Halts :=
  (halts_view v).bind fun _ => (halts_group _).bind fun _ => halts_get.bind fun _ =>
    halts_modifyView v _

theorem halts_refilter : (refilter v).Halts := (halts_view v).bind fun _ => halts_refilterWith _

theorem halts_draw (graph : SnapshotRef) : (draw v graph).Halts :=
  (halts_view v).bind fun _ => (Builder.halts_rebuild _ graph).bind fun _ => halts_modifyView v _

theorem halts_foreign {α : Type} (s : SnapshotRef) : (foreign v s : Act α).Halts :=
  (halts_view v).bind fun _ => (halts_group _).bind fun _ => halts_get.bind fun _ => halts_throw _

theorem halts_anchorOf : (anchorOf v).Halts := by
  unfold anchorOf
  refine (halts_view v).bind fun view => (halts_group _).bind fun group => ?_
  refine halts_get.bind fun w => (halts_ofExcept _).bind fun first => ?_
  split
  · exact halts_pure _
  · split
    · exact halts_pure _
    · exact halts_throw _

theorem halts_targetOf (hide : Bool) : (targetOf v hide).Halts := by
  unfold targetOf
  refine halts_anchorOf.bind fun anchor => (halts_view v).bind fun view => ?_
  refine (halts_group _).bind fun group => halts_get.bind fun w => ?_
  split
  · exact halts_ofExcept _
  · exact halts_pure _

theorem halts_refilterShowing : (refilterShowing v).Halts := by
  unfold refilterShowing
  refine halts_refilter.bind fun _ => (halts_view v).bind fun view => ?_
  split
  · exact (halts_group _).bind fun _ => (halts_debug _ _).bind fun _ => halts_refilterWith _
  · exact halts_pure _

theorem halts_keepOn (low high : Option SnapshotRef) : (keepOn v low high).Halts := by
  unfold keepOn
  refine (halts_view v).bind fun view => ?_
  split
  · exact (halts_ofExcept _).bind fun _ => halts_modifyView v _
  · exact halts_pure _

/-! ## Changes that announce -/

section

variable {a : Announce} (ha : ∀ n w, (a v n w).isSome = true)

include ha

theorem halts_announce (n : Notice) : (announce a v n).Halts := halts_yield (ha n)

theorem halts_showEnds (first second : SnapshotRef) : (showEnds a v first second).Halts := by
  unfold showEnds
  refine (halts_view v).bind fun _ => (halts_debug _ _).bind fun _ => ?_
  refine (halts_currentGraph _ _ _).bind fun graph => (halts_modifyView v _).bind fun _ => ?_
  exact (halts_draw graph).bind fun _ => (halts_announce ha _).bind fun _ => halts_announce ha _

theorem halts_showWindow : (showWindow a v).Halts := by
  unfold showWindow
  refine (halts_view v).bind fun view => halts_get.bind fun w => ?_
  refine (halts_ofExcept _).bind fun first => (halts_ofExcept _).bind fun second => ?_
  split
  · exact halts_pure _
  · exact (halts_showEnds ha _ _).bind fun _ => halts_pure _

theorem halts_windowMoved : (windowMoved a v).Halts :=
  (halts_showWindow ha).bind fun _ => (halts_announce ha _).bind fun _ => halts_pure _

theorem halts_announceKept (replaced : Bool) : (announceKept a v replaced).Halts := by
  cases replaced
  · exact halts_announce ha _
  · exact halts_pure _

theorem halts_setWindow (low high : Int) : (setWindow a v low high).Halts :=
  (halts_view v).bind fun _ => (halts_ofExcept _).bind fun _ => (halts_modifyView v _).bind fun _ =>
    halts_windowMoved ha

theorem halts_selectVisible (s : SnapshotRef) : (selectVisible a v s).Halts := by
  unfold selectVisible
  refine (halts_view v).bind fun view => ?_
  split
  · exact halts_setWindow ha _ _
  · exact halts_foreign s

theorem halts_toggleDuplicates {select : SnapshotRef → Act Bool} (hselect : ∀ s, (select s).Halts)
    (hide : Bool) : (toggleDuplicates select a v hide).Halts := by
  unfold toggleDuplicates
  refine (halts_view v).bind fun view => ?_
  split
  · exact halts_pure _
  · split
    · exact halts_refilterWith _
    · refine (halts_targetOf hide).bind fun target => (halts_refilterWith _).bind fun _ => ?_
      exact (hselect target).bind fun _ => halts_announceKept ha _

theorem halts_showDuplicates : (showDuplicates a v).Halts := by
  unfold showDuplicates
  refine (halts_view v).bind fun view => ?_
  split
  · exact halts_toggleDuplicates ha (halts_selectVisible ha) false
  · exact halts_pure _

theorem halts_locate (s : SnapshotRef) : (locate a v s).Halts := by
  unfold locate
  refine (halts_view v).bind fun view => ?_
  split
  · exact halts_pure _
  · refine (halts_showDuplicates ha).bind fun _ => (halts_view v).bind fun view => ?_
    split
    · exact halts_pure _
    · exact halts_foreign s

theorem halts_selectGraph (s : SnapshotRef) : (selectGraph a v s).Halts :=
  (halts_locate ha s).bind fun _ => halts_setWindow ha _ _

theorem halts_selectDifference (s : SnapshotRef) : (selectDifference a v s).Halts := by
  unfold selectDifference
  refine (halts_locate ha s).bind fun i => (halts_view v).bind fun view => ?_
  refine (halts_ofExcept _).bind fun window => (halts_modifyView v _).bind fun _ => ?_
  exact (halts_windowMoved ha).bind fun _ => halts_pure _

theorem halts_setSelectedNodes (ids : NodeSet) : (setSelectedNodes a v ids).Halts :=
  halts_get.bind fun _ => (halts_modifyView v _).bind fun _ => (halts_announce ha _).bind fun _ =>
    halts_announce ha _

theorem halts_setHiddenNodes (ids : NodeSet) : (setHiddenNodes a v ids).Halts :=
  (halts_modifyView v _).bind fun _ => halts_announce ha _

theorem halts_setToggle (t : Toggle) (on : Bool) : (setToggle a v t on).Halts := by
  unfold setToggle
  refine (halts_view v).bind fun view => ?_
  split
  · exact (halts_modifyView v _).bind fun _ => halts_announce ha _
  · exact halts_pure _

theorem halts_groupChanged : (groupChanged a v).Halts := by
  unfold groupChanged
  refine (halts_view v).bind fun _ => halts_refilterShowing.bind fun _ => ?_
  refine (halts_keepOn _ _).bind fun _ => (halts_windowMoved ha).bind fun _ => ?_
  refine (halts_announceKept ha _).bind fun _ => (halts_view v).bind fun _ => ?_
  exact halts_setSelectedNodes ha _

theorem halts_filterChainChanged : (filterChainChanged a v).Halts := by
  unfold filterChainChanged
  refine (halts_view v).bind fun view => ?_
  split
  · exact halts_throw _
  · exact (halts_draw _).bind fun _ => halts_announce ha _

/-- A change of a view halts if its announcements do. -/
theorem halts_perform (m : Mutation) : (perform a v m).Halts := by
  cases m with
  | selectGraph s => exact (halts_selectGraph ha s).bind fun _ => halts_pure _
  | selectDifference s => exact halts_selectDifference ha s
  | setWindow low high => exact (halts_setWindow ha low high).bind fun _ => halts_pure _
  | setHideDuplicates hide =>
    refine halts_toggleDuplicates ha (fun s => ?_) hide
    cases hide
    · exact halts_selectVisible ha s
    · exact halts_selectGraph ha s
  | setSelectedNodes ids => exact halts_setSelectedNodes ha ids
  | setHiddenNodes ids => exact halts_setHiddenNodes ha ids
  | showOnly ids =>
    refine (halts_view v).bind fun _ => (halts_group _).bind fun _ => halts_get.bind fun _ => ?_
    exact halts_setHiddenNodes ha _
  | showFigures ids => exact (halts_view v).bind fun _ => halts_setHiddenNodes ha _
  | setToggle t on => exact halts_setToggle ha t on
  | groupChanged => exact halts_groupChanged ha
  | filterChainChanged => exact halts_filterChainChanged ha

end

end View

/-! ## Announcements -/

theorem World.isSome_foldlM {α : Type} {f : World → α → Option World}
    (hf : ∀ w x, (f w x).isSome = true) (l : List α) (w : World) :
    (l.foldlM f w).isSome = true := by
  induction l generalizing w with
  | nil => rfl
  | cons x rest ih =>
    obtain ⟨w', hw'⟩ := Option.isSome_iff_exists.1 (hf w x)
    rw [List.foldlM_cons, hw']
    exact ih w'

/-- What a view announces comes to an end if those who hear it do. -/
theorem World.isSome_announceView {R : Respond} (hR : ∀ k w, (R k w).isSome = true) (v : ViewRef)
    (n : Notice) (w : World) : (announceView R v n w).isSome = true := by
  refine isSome_foldlM (fun w c => ?_) _ _
  unfold deliver
  split
  · cases c.slot
    · rfl
    · exact hR _ w
  · rfl

end SnapshotViewer
