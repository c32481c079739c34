import SnapshotViewer.Proofs.Run.WellFormed

/-!
# Differences refer to stored snapshots

In a linked world the two snapshots behind a difference are stored. A difference is computed of
stored snapshots and no snapshot is ever taken away, so that a session that begins linked stays so.
Main statement: `World.Reaches.linked`.
-/

namespace SnapshotViewer

namespace World

/-- The snapshots that differences refer to are stored. -/
def Linked (w : World) : Prop :=
  ∀ s ∈ w.snapshots, ∀ first second, s.origin = .difference first second →
    ∀ x, first = some x ∨ second = some x → x < w.snapshots.length

variable {w w' : World}

theorem Linked.of_eq (h : w.Linked) (hsnapshots : w'.snapshots = w.snapshots) : w'.Linked := by
  unfold Linked
  rw [hsnapshots]
  exact h

/-- A snapshot may be rewritten as long as it says what it is a difference of. -/
theorem Linked.modifySnapshot (h : w.Linked) (r : SnapshotRef) (f : Snapshot → Snapshot)
    (hf : ∀ s, (f s).origin = s.origin) : (w.modifySnapshot r f).Linked := by
  intro s hs first second horigin x hx
  obtain ⟨i, hi⟩ := List.mem_iff_getElem?.1 hs
  rw [World.modifySnapshot, List.getElem?_modify] at hi
  obtain ⟨t, ht, rfl⟩ := Option.map_eq_some_iff.1 hi
  have hsame : t.origin = .difference first second := by
    rw [← horigin]
    split
    · exact (hf t).symm
    · rfl
  rw [World.modifySnapshot, List.length_modify]
  exact h t (List.mem_of_getElem? ht) first second hsame x hx

/-- A difference of stored snapshots is stored. -/
theorem Linked.archive (h : w.Linked) (id : Int) {first second : SnapshotRef} {s t : Snapshot}
    (hs : w.snapshots[first]? = some s) (ht : w.snapshots[second]? = some t) :
    (w.archive (Difference.ofPair id first second s t)).Linked := by
  intro d hd first' second' horigin x hx
  have hlt : x < w.snapshots.length := by
    obtain hd | hd := List.mem_append.1 hd
    · exact h d hd first' second' horigin x hx
    · rw [List.mem_singleton.1 hd] at horigin
      cases horigin
      obtain hx | hx := hx
      · cases hx
        exact (List.getElem?_eq_some_iff.1 hs).1
      · cases hx
        exact (List.getElem?_eq_some_iff.1 ht).1
  rw [World.archive, List.length_append]
  exact Nat.lt_add_right _ hlt

/-- The world stays linked. -/
def KeepsLinked (w w' : World) : Prop := w.Linked → w'.Linked

theorem chains_keepsLinked : Act.Chains KeepsLinked where
  refl _ h := h
  trans h h' hw := h' (h hw)

theorem keepsLinked_of_eq (h : w'.snapshots = w.snapshots) : KeepsLinked w w' :=
  fun hw => hw.of_eq h

end World

namespace View

open World

variable {a : Announce} {v : ViewRef} {w w' : World}

theorem renders_keepsLinked : Renders KeepsLinked where
  chains := chains_keepsLinked
  note _ _ _ := keepsLinked_of_eq rfl
  assign w r _ blocks log _ _ := by
    refine chains_assignBlocks chains_keepsLinked (fun _ r f hf hw => ?_)
      (fun _ _ => keepsLinked_of_eq rfl) w r blocks log
    exact hw.modifySnapshot r f fun s => by rw [hf s]
  archive w _ _ _ _ hs ht hw := hw.archive w.nextId hs ht
  count _ _ := keepsLinked_of_eq rfl

theorem Steps.keepsLinked (ha : ∀ n w w', a v n w = some w' → KeepsLinked w w')
    (h : Steps a v w w') : KeepsLinked w w' :=
  Steps.within renders_keepsLinked (fun _ _ _ => keepsLinked_of_eq rfl) ha h

theorem carries_keepsLinked (ha : ∀ n w w', a v n w = some w' → KeepsLinked w w') :
    Carries a v KeepsLinked where
  chains := chains_keepsLinked
  steps _ _ h := h.keepsLinked ha
  begun _ _ := keepsLinked_of_eq rfl
  failed _ _ _ _ := keepsLinked_of_eq rfl
  dropped _ _ := keepsLinked_of_eq rfl
  dispatch _ _ _ := keepsLinked_of_eq rfl

theorem mutate_keepsLinked (ha : ∀ n w w', a v n w = some w' → KeepsLinked w w') (m : Mutation) :
    (mutate a v m).Within KeepsLinked :=
  (carries_keepsLinked ha).mutate (fun _ _ => keepsLinked_of_eq rfl)
    (fun _ _ => keepsLinked_of_eq rfl) m

theorem admits_keepsLinked : Admits KeepsLinked where
  chains := chains_keepsLinked
  started _ _ _ _ _ := keepsLinked_of_eq rfl
  steps _ _ _ h := h.keepsLinked fun _ u u' hu => by
    cases hu
    exact chains_keepsLinked.refl u
  settled _ _ := keepsLinked_of_eq rfl
  taken _ _ _ := keepsLinked_of_eq rfl
  enrolled _ _ _ := keepsLinked_of_eq rfl

theorem close_keepsLinked (ha : ∀ n w w', a v n w = some w' → KeepsLinked w w') :
    (close a v).Within KeepsLinked := by
  have hc := chains_keepsLinked
  unfold close
  refine (Act.within_view hc v).bind hc fun view => ?_
  split
  · refine Act.Within.bind hc (Act.within_modify fun w => ?_) fun _ => ?_
    · exact keepsLinked_of_eq rfl
    · exact Act.within_yield fun w w' h => ha _ w w' h
  · exact Act.within_pure hc _

end View

namespace World

variable {R : Respond} {w w' : World}

section

variable (hR : ∀ k u u', R k u = some u' → KeepsLinked u u')

include hR

theorem announceView_keepsLinked (v : ViewRef) (n : Notice) (w w' : World)
    (h : announceView R v n w = some w') : KeepsLinked w w' :=
  announceView_within chains_keepsLinked hR (fun _ _ => keepsLinked_of_eq rfl)
    (fun _ => keepsLinked_of_eq rfl) h

theorem announceShared_keepsLinked {signal : Signal} (h : announceShared R signal w = some w') :
    KeepsLinked w w' := by
  refine emit_within chains_keepsLinked (fun slot u u' hu => ?_)
    (fun _ => keepsLinked_of_eq rfl) h
  cases slot with
  | listener k => exact hR k u u' hu
  | follow v =>
    exact follow_ends ((View.mutate_keepsLinked (announceView_keepsLinked hR v) _ u).mono
      (fun _ _ h => h) fun _ _ h hw => (h hw).of_eq rfl) hu

/-- Every effect of a command keeps the world linked. -/
theorem effect_keepsLinked (h : Command.Effect R w w') : KeepsLinked w w' := by
  have hannounced {u : World} {signal : Signal} (h : announceShared R signal u = some w')
      (hu : KeepsLinked w u) : KeepsLinked w w' :=
    chains_keepsLinked.trans hu (announceShared_keepsLinked hR h)
  cases h with
  | nothing | keep | addRule | listen | unlisten => exact keepsLinked_of_eq rfl
  | compare hs ht => exact fun hw => (hw.archive w.nextId hs ht).of_eq rfl
  | edit r f hf => exact fun hw => (hw.modifySnapshot r f fun s => by rw [hf s]).of_eq rfl
  | clearBlocks r =>
    exact fun hw => (hw.modifySnapshot r Snapshot.clearBlocks fun _ => rfl).of_eq rfl
  | change h => exact (View.mutate_keepsLinked (announceView_keepsLinked hR _) _).of_runIn h
  | openView h => exact ((View.admits_keepsLinked.welcomes _).openOn _ _ _ _ _).of_runIn h
  | closeView h => exact (View.close_keepsLinked (announceView_keepsLinked hR _)).of_runIn h
  | @join _ g s _ h =>
    refine hannounced h fun hw => ?_
    exact (hw.modifySnapshot s (fun t => { t with group := some g }) fun _ => rfl).of_eq rfl
  | leave _ h | rechain h => exact hannounced h (keepsLinked_of_eq rfl)
  | notify h => exact announceShared_keepsLinked hR h

end

/-- Every world that a run leads to from a linked one is linked. -/
theorem Reaches.linked (h : Reaches w w') (hw : w.Linked) : w'.Linked :=
  h.within chains_keepsLinked (fun _ _ => keepsLinked_of_eq rfl)
    (fun _ _ _ _ _ => keepsLinked_of_eq rfl) (fun _ hR _ _ h => effect_keepsLinked hR h) hw

/-- The world that a session leads to is linked if it was at the beginning. -/
theorem Linked.run (hw : w.Linked) {commands : List Command}
    (hrun : (w.run commands).isSome = true) : ((w.run commands).getD {}).Linked := by
  obtain ⟨w', hw'⟩ := Option.isSome_iff_exists.1 hrun
  rw [hw', Option.getD_some]
  exact (reaches_run hw').linked hw

end World

end SnapshotViewer
