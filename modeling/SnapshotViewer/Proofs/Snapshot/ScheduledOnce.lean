import SnapshotViewer.Proofs.Action.Lockstep
import SnapshotViewer.Proofs.Snapshot.ComponentBlocks

/-!
# Snapshots once they are scheduled

Building a diagram assigns blocks to a snapshot that has none. With the scheduler by components,
`Snapshot.settled` is what becomes of a snapshot then. It is determined by the nodes and edges and
stays as it is from then on (`Snapshot.settled_settled`), so that it does not matter how often and
for whom a snapshot is scheduled. `World.Settles` says that snapshots are left as they are but for
being scheduled.
-/

namespace SnapshotViewer

namespace Snapshot

/-- The snapshot once it has been scheduled by components, with a block for the nodes that are left
over. -/
def settled (s : Snapshot) : Snapshot :=
  if s.blocks.isEmpty then { s with blocks := Scheduler.blocksFor s }.collectStrays else s

theorem settled_eq (s : Snapshot) : s.settled = { s with blocks := s.settled.blocks } := by
  unfold settled
  split
  · exact collectStrays_eq _
  · rfl

@[simp] theorem settled_id (s : Snapshot) : s.settled.id = s.id := by rw [settled_eq]

@[simp] theorem settled_origin (s : Snapshot) : s.settled.origin = s.origin := by rw [settled_eq]

@[simp] theorem clearBlocks_settled (s : Snapshot) : s.settled.clearBlocks = s.clearBlocks := by
  rw [settled_eq]
  rfl

/-- A snapshot is scheduled once: what has become of it stays. -/
@[simp] theorem settled_settled (s : Snapshot) : s.settled.settled = s.settled := by
  cases hempty : s.blocks.isEmpty with
  | false => simp [settled, hempty]
  | true =>
    cases hsettled : s.settled.blocks.isEmpty with
    | false => rw [settled, hsettled, if_neg Bool.false_ne_true]
    | true =>
      -- A snapshot without nodes and edges has no blocks afterwards either.
      have hsame : s.settled.blocks = s.blocks :=
        OrderedMap.eq_of_entries
          ((List.isEmpty_iff.1 hsettled).trans (List.isEmpty_iff.1 hempty).symm)
      have hself : s.settled = s := by rw [settled_eq, hsame]
      rw [hself, hself]

/-- The snapshot under another id. -/
def withId (s : Snapshot) (id : Int) : Snapshot := { s with id }

theorem collectStrays_withId (s : Snapshot) (id : Int) :
    (s.withId id).collectStrays = s.collectStrays.withId id := by
  unfold collectStrays
  rw [show (s.withId id).strays = s.strays from rfl]
  cases s.strays <;> rfl

/-- What is scheduled does not depend on the id. -/
theorem settled_withId (s : Snapshot) (id : Int) : (s.withId id).settled = s.settled.withId id := by
  unfold settled
  rw [show (s.withId id).blocks = s.blocks from rfl]
  split
  · exact collectStrays_withId { s with blocks := Scheduler.blocksFor s } id
  · rfl

/-- The snapshot is kept, or scheduled. -/
def Becomes (s s' : Snapshot) : Prop := s' = s ∨ s' = s.settled

theorem Becomes.refl (s : Snapshot) : s.Becomes s := .inl rfl

theorem Becomes.trans {s s' s'' : Snapshot} (h : s.Becomes s') (h' : s'.Becomes s'') :
    s.Becomes s'' := by
  obtain rfl | rfl := h
  · exact h'
  · obtain rfl | rfl := h'
    · exact .inr rfl
    · exact .inr s.settled_settled

/-- However often it was scheduled, the same comes of scheduling it. -/
theorem Becomes.settled_eq {s s' : Snapshot} (h : s.Becomes s') : s'.settled = s.settled := by
  obtain rfl | rfl := h
  · rfl
  · exact s.settled_settled

theorem Becomes.settled {s s' : Snapshot} (h : s.Becomes s') : s.settled.Becomes s'.settled :=
  .inl h.settled_eq

theorem Becomes.clearBlocks {s s' : Snapshot} (h : s.Becomes s') :
    s'.clearBlocks = s.clearBlocks := by
  obtain rfl | rfl := h
  · rfl
  · exact clearBlocks_settled s

/-- The snapshot is the same but for its id, or scheduled. -/
def Counterpart (s s' : Snapshot) : Prop := s.Becomes (s'.withId s.id)

theorem Becomes.counterpart {s s' : Snapshot} (h : s.Becomes s') : s.Counterpart s' := by
  obtain rfl | rfl := h
  · exact .inl rfl
  · exact .inr (congrArg s.settled.withId (settled_id s).symm)

theorem Counterpart.becomes {s t t' : Snapshot} (h : s.Counterpart t) (h' : t.Becomes t') :
    s.Counterpart t' := by
  obtain rfl | rfl := h'
  · exact h
  · exact Becomes.trans h (.inr (settled_withId t s.id).symm)

theorem Counterpart.settled_eq {s t : Snapshot} (h : s.Counterpart t) :
    t.settled.withId s.id = s.settled :=
  (settled_withId t s.id).symm.trans (Becomes.settled_eq h)

theorem Counterpart.settled {s t : Snapshot} (h : s.Counterpart t) :
    s.settled.Counterpart t.settled := by
  rw [Counterpart, settled_id]
  exact .inl h.settled_eq

/-- Once they are scheduled, the same diagrams are built of both. -/
theorem Counterpart.looksLike {s t : Snapshot} (h : s.Counterpart t) :
    Builder.LooksLike t.settled s.settled := by
  rw [← h.settled_eq]
  exact ⟨rfl, rfl, rfl, rfl⟩

end Snapshot

/-- The difference of two snapshots does not depend on their blocks. -/
theorem Difference.ofPair_becomes {s s' t t' : Snapshot} (hs : s.Becomes s') (ht : t.Becomes t')
    (id : Int) (first second : SnapshotRef) :
    ofPair id first second s' t' = ofPair id first second s t :=
  calc ofPair id first second s' t'
    _ = ofPair id first second s'.clearBlocks t'.clearBlocks := rfl
    _ = ofPair id first second s.clearBlocks t.clearBlocks := by
      rw [hs.clearBlocks, ht.clearBlocks]
    _ = ofPair id first second s t := rfl

namespace World

/-- Snapshots are kept but for being scheduled. -/
def Settles (w w' : World) : Prop :=
  ∀ (r : SnapshotRef) (s : Snapshot), w.snapshots[r]? = some s →
    ∃ s', w'.snapshots[r]? = some s' ∧ s.Becomes s'

theorem chains_settles : Act.Chains Settles where
  refl _ _ s hs := ⟨s, hs, .refl s⟩
  trans h h' r s hs := by
    obtain ⟨s', hs', hbecomes⟩ := h r s hs
    obtain ⟨s'', hs'', hbecomes'⟩ := h' r s' hs'
    exact ⟨s'', hs'', hbecomes.trans hbecomes'⟩

theorem Settles.of_eq {w w' : World} (h : w'.snapshots = w.snapshots) : Settles w w' :=
  fun _ s hs => ⟨s, h ▸ hs, .refl s⟩

theorem settles_archive (w : World) (s : Snapshot) : Settles w (w.archive s) := by
  intro r t ht
  refine ⟨t, ?_, .refl t⟩
  rw [archive, List.getElem?_append_left (List.getElem?_eq_some_iff.1 ht).1, ht]

/-- A snapshot is scheduled. -/
def settleAt (r : SnapshotRef) (w : World) : World := w.modifySnapshot r Snapshot.settled

theorem settles_settleAt (r : SnapshotRef) (w : World) : Settles w (w.settleAt r) := by
  intro q s hs
  by_cases hq : r = q
  · subst hq
    exact ⟨s.settled, by simp [settleAt, modifySnapshot, hs], .inr rfl⟩
  · exact ⟨s, by simp [settleAt, modifySnapshot, hs, hq], .refl s⟩

end World

namespace Builder

/-- A snapshot is scheduled by components without fail. -/
theorem runIn_ensureBlocks_byComponent {b : Builder} (hb : b.scheduler = some .byComponent)
    {w : World} {r : SnapshotRef} {s : Snapshot} (hs : w.snapshots[r]? = some s) :
    ∃ es, (∀ e ∈ es, e.IsNote ∧ ¬ e.Compares) ∧
      (b.ensureBlocks r).runIn w = some (.ok (), (w.settleAt r).recordAll es) := by
  -- Of the snapshots, only the one that is scheduled is replaced.
  have hsettle (snapshots : List Snapshot) (hr : snapshots[r]? = some s.settled)
      (hothers : ∀ i, r ≠ i → snapshots[i]? = w.snapshots[i]?) :
      snapshots = (w.settleAt r).snapshots := by
    refine List.ext_getElem? fun i => ?_
    by_cases hi : r = i
    · subst hi
      simp [hr, World.settleAt, World.modifySnapshot, hs]
    · simp [hothers i hi, World.settleAt, World.modifySnapshot, hi]
  unfold ensureBlocks
  rw [Act.runIn_bind_ok (Act.runIn_snapshot hs)]
  cases hempty : s.blocks.isEmpty with
  | false =>
    have hsame := hsettle w.snapshots (by simp [hs, Snapshot.settled, hempty]) fun _ _ => rfl
    refine ⟨[], by simp, ?_⟩
    rw [show (w.settleAt r).recordAll [] = { w with snapshots := (w.settleAt r).snapshots } by
      simp [World.recordAll, World.settleAt, World.modifySnapshot], ← hsame]
    rfl
  | true =>
    have hassign : Scheduler.byComponent.assign s = .ok ((Scheduler.scheduleComponents s).blocks,
        Scheduler.report s (Scheduler.scheduleComponents s)) := rfl
    rw [Scheduler.scheduleComponents_eq hempty] at hassign
    refine ⟨.scheduled r :: (Scheduler.report s { s with blocks := Scheduler.blocksFor s }).map
      .logged, by simp [Event.IsNote, Event.Compares], ?_⟩
    rw [if_neg (by simp), hb]
    dsimp only
    rw [Act.runIn_bind_ok (Act.runIn_record _ w), hassign,
      Act.runIn_bind_ok (Act.runIn_ofExcept_ok _ _)]
    have hsame := hsettle ((assignBlocks w r (Scheduler.blocksFor s) []).snapshots)
      (by simp [assignBlocks, World.modifySnapshot, World.recordAll, hs, Snapshot.settled, hempty])
      fun i hi => by simp [assignBlocks, World.modifySnapshot, World.recordAll, hi]
    rw [Act.runIn_modify]
    refine congrArg (fun w => some (Except.ok (), w)) ?_
    change { w with
      snapshots := (assignBlocks w r (Scheduler.blocksFor s) []).snapshots
      trace := w.trace ++ [Event.scheduled r] ++ _ } = _
    rw [hsame, List.append_assoc]
    rfl

end Builder

end SnapshotViewer
