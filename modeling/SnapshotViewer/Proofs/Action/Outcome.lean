import SnapshotViewer.Session.Run

/-!
# Outcomes of steps

`Act.Ends act w Q E` says that every outcome of a step in the world `w` is a result that satisfies
`Q` or a failure that satisfies `E`, each together with the world after the step. Nothing is said
about a step that does not come to an end. The rules follow the ways in which steps are composed.
-/

namespace SnapshotViewer.Act

variable {α β : Type}

/-- Every outcome is a result that satisfies `Q` or a failure that satisfies `E`. -/
def Ends (act : Act α) (w : World) (Q : α → World → Prop) (E : Failure → World → Prop) : Prop :=
  (∀ x w', act.runIn w = some (.ok x, w') → Q x w') ∧
    ∀ e w', act.runIn w = some (.error e, w') → E e w'

/-! ## Runs of composed steps -/

@[simp] theorem runIn_pure (x : α) (w : World) : (pure x : Act α).runIn w = some (.ok x, w) := rfl

@[simp] theorem runIn_throw (e : Failure) (w : World) :
    (throw e : Act α).runIn w = some (.error e, w) := rfl

@[simp] theorem runIn_get (w : World) : (get : Act World).runIn w = some (.ok w, w) := rfl

@[simp] theorem runIn_set (w w' : World) : (set w' : Act PUnit).runIn w = some (.ok (), w') := rfl

@[simp] theorem runIn_modify (f : World → World) (w : World) :
    (modify f : Act PUnit).runIn w = some (.ok (), f w) := rfl

theorem runIn_bind (act : Act α) (next : α → Act β) (w : World) :
    (act >>= next).runIn w = (act.runIn w).bind fun
      | (.ok x, w) => (next x).runIn w
      | (.error e, w) => some (.error e, w) := by
  change Option.bind (act.runIn w) _ = _
  congr 1
  funext ⟨r, w⟩
  cases r <;> rfl

/-- A composed step goes on in the world after its first part. -/
theorem runIn_bind_ok {act : Act α} {next : α → Act β} {w w' : World} {x : α}
    (h : act.runIn w = some (.ok x, w')) : (act >>= next).runIn w = (next x).runIn w' := by
  rw [runIn_bind, h]
  rfl

/-- A failure of its first part is the failure of a composed step. -/
theorem runIn_bind_error {act : Act α} {next : α → Act β} {w w' : World} {e : Failure}
    (h : act.runIn w = some (.error e, w')) : (act >>= next).runIn w = some (.error e, w') := by
  rw [runIn_bind, h]
  rfl

theorem runIn_found_some (x : α) (w : World) : (found (some x)).runIn w = some (.ok x, w) := rfl

theorem runIn_view {v : ViewRef} {w : World} {view : View} (h : w.views[v]? = some view) :
    (Act.view v).runIn w = some (.ok view, w) := by
  rw [Act.view, runIn_bind_ok (runIn_get w), h, runIn_found_some]

theorem runIn_group {g : GroupRef} {w : World} {group : Group} (h : w.groups[g]? = some group) :
    (Act.group g).runIn w = some (.ok group, w) := by
  rw [Act.group, runIn_bind_ok (runIn_get w), h, runIn_found_some]

theorem runIn_snapshot {r : SnapshotRef} {w : World} {s : Snapshot}
    (h : w.snapshots[r]? = some s) : (Act.snapshot r).runIn w = some (.ok s, w) := by
  rw [Act.snapshot, runIn_bind_ok (runIn_get w), h, runIn_found_some]

theorem runIn_view_none {v : ViewRef} {w : World} (h : w.views[v]? = none) :
    (Act.view v).runIn w = some (.error .noSuchHandle, w) := by
  rw [Act.view, runIn_bind_ok (runIn_get w), h]
  rfl

theorem runIn_group_none {g : GroupRef} {w : World} (h : w.groups[g]? = none) :
    (Act.group g).runIn w = some (.error .noSuchHandle, w) := by
  rw [Act.group, runIn_bind_ok (runIn_get w), h]
  rfl

theorem runIn_snapshot_none {r : SnapshotRef} {w : World} (h : w.snapshots[r]? = none) :
    (Act.snapshot r).runIn w = some (.error .noSuchHandle, w) := by
  rw [Act.snapshot, runIn_bind_ok (runIn_get w), h]
  rfl

@[simp] theorem runIn_modifyView (v : ViewRef) (f : View → View) (w : World) :
    (Act.modifyView v f).runIn w = some (.ok (), w.modifyView v f) := rfl

@[simp] theorem runIn_record (e : Event) (w : World) :
    (Act.record e).runIn w = some (.ok (), w.record e) := rfl

@[simp] theorem runIn_debug (logger text : String) (w : World) :
    (Act.debug logger text).runIn w =
      some (.ok (), w.record (.logged { level := Log.debug, logger, text })) := rfl

@[simp] theorem runIn_ofExcept_ok (x : α) (w : World) :
    (ofExcept (.ok x)).runIn w = some (.ok x, w) := rfl

@[simp] theorem runIn_ofExcept_error (e : Failure) (w : World) :
    (ofExcept (.error e) : Act α).runIn w = some (.error e, w) := rfl

@[simp] theorem runIn_yield (others : World → Option World) (w : World) :
    (yield others).runIn w = (others w).map fun w => (.ok (), w) := rfl

@[simp] theorem runIn_ensuring (act : Act α) (cleanUp : World → World) (w : World) :
    (act.ensuring cleanUp).runIn w =
      (act.runIn w).map fun (outcome, w) => (outcome, cleanUp w) := rfl

theorem runIn_onFailure (act : Act α) (change : Failure → World → World) (w : World) :
    (act.onFailure change).runIn w = (act.runIn w).map fun
      | (.ok x, w) => (.ok x, w)
      | (.error e, w) => (.error e, change e w) := rfl

/-! ## Rules for `Ends` -/

variable {w : World} {Q Q' : α → World → Prop} {E E' : Failure → World → Prop}

theorem Ends.mono {act : Act α} (h : act.Ends w Q E) (hQ : ∀ x w', Q x w' → Q' x w')
    (hE : ∀ e w', E e w' → E' e w') : act.Ends w Q' E' :=
  ⟨fun x w' hr => hQ x w' (h.1 x w' hr), fun e w' hr => hE e w' (h.2 e w' hr)⟩

theorem Ends.and {act : Act α} (h : act.Ends w Q E) (h' : act.Ends w Q' E') :
    act.Ends w (fun x w' => Q x w' ∧ Q' x w') fun e w' => E e w' ∧ E' e w' :=
  ⟨fun x w' hr => ⟨h.1 x w' hr, h'.1 x w' hr⟩, fun e w' hr => ⟨h.2 e w' hr, h'.2 e w' hr⟩⟩

/-- The one outcome of a step that is known to succeed. -/
theorem ends_of_ok {act : Act α} {x : α} {w' : World} (h : act.runIn w = some (.ok x, w')) :
    act.Ends w Q E ↔ Q x w' := by
  constructor
  · intro hend
    exact hend.1 x w' h
  · intro hq
    refine ⟨fun y u hy => ?_, fun e u he => ?_⟩
    · rw [h] at hy
      cases hy
      exact hq
    · rw [h] at he
      cases he

/-- The one outcome of a step that is known to fail. -/
theorem ends_of_error {act : Act α} {e : Failure} {w' : World}
    (h : act.runIn w = some (.error e, w')) : act.Ends w Q E ↔ E e w' := by
  constructor
  · intro hend
    exact hend.2 e w' h
  · intro he
    refine ⟨fun y u hy => ?_, fun e' u he' => ?_⟩
    · rw [h] at hy
      cases hy
    · rw [h] at he'
      cases he'
      exact he

theorem ends_pure {x : α} : (pure x : Act α).Ends w Q E ↔ Q x w := ends_of_ok (runIn_pure x w)

theorem ends_throw {e : Failure} : (throw e : Act α).Ends w Q E ↔ E e w :=
  ends_of_error (runIn_throw e w)

theorem ends_get {Q : World → World → Prop} : (get : Act World).Ends w Q E ↔ Q w w :=
  ends_of_ok (runIn_get w)

theorem ends_modify {f : World → World} {Q : PUnit → World → Prop} :
    (modify f : Act PUnit).Ends w Q E ↔ Q () (f w) :=
  ends_of_ok (runIn_modify f w)

theorem ends_set {w' : World} {Q : PUnit → World → Prop} :
    (set w' : Act PUnit).Ends w Q E ↔ Q () w' :=
  ends_of_ok (runIn_set w w')

theorem ends_bind {act : Act α} {next : α → Act β} {Q : β → World → Prop} :
    (act >>= next).Ends w Q E ↔ act.Ends w (fun x w' => (next x).Ends w' Q E) E := by
  constructor
  · intro h
    refine ⟨fun x w₁ hx => ⟨fun y w₂ hy => ?_, fun e w₂ he => ?_⟩, fun e w₁ he => ?_⟩
    · exact h.1 y w₂ ((runIn_bind_ok hx).trans hy)
    · exact h.2 e w₂ ((runIn_bind_ok hx).trans he)
    · exact h.2 e w₁ (runIn_bind_error he)
  · intro h
    cases hact : act.runIn w with
    | none => exact ⟨fun y u hy => by simp [runIn_bind, hact] at hy,
        fun e u he => by simp [runIn_bind, hact] at he⟩
    | some out =>
      obtain ⟨r, w₁⟩ := out
      cases r with
      | ok x =>
        have hnext := h.1 x w₁ hact
        refine ⟨fun y u hy => hnext.1 y u ?_, fun e u he => hnext.2 e u ?_⟩
        · rwa [runIn_bind_ok hact] at hy
        · rwa [runIn_bind_ok hact] at he
      | error e => exact (ends_of_error (runIn_bind_error hact)).2 (h.2 e w₁ hact)

/-- A composed step ends as required if its first part does and the rest does from there. -/
theorem Ends.bind {act : Act α} {next : α → Act β} {Q' : β → World → Prop}
    (h : act.Ends w Q E) (hnext : ∀ x w', Q x w' → (next x).Ends w' Q' E) :
    (act >>= next).Ends w Q' E :=
  ends_bind.2 (h.mono hnext fun _ _ he => he)

/-- A composed step ends as required if its rest does, from wherever. -/
theorem ends_of_next {act : Act α} {next : α → Act β} {Q : β → World → Prop}
    (h : ∀ x w', (next x).Ends w' Q fun _ _ => True) :
    (act >>= next).Ends w Q fun _ _ => True :=
  ends_bind.2 ⟨fun x w' _ => h x w', fun _ _ _ => trivial⟩

/-- A step on what a handle refers to, if it refers to something. -/
theorem ends_found {o : Option α} (h : ∀ x, o = some x → Q x w)
    (he : o = none → E .noSuchHandle w) : (found o).Ends w Q E := by
  cases o with
  | none => exact (ends_throw (α := α)).2 (he rfl)
  | some x => exact ends_pure.2 (h x rfl)

theorem ends_ofExcept {r : Except Failure α} (h : ∀ x, r = .ok x → Q x w)
    (he : ∀ e, r = .error e → E e w) : (ofExcept r).Ends w Q E := by
  cases r with
  | ok x => exact ends_pure.2 (h x rfl)
  | error e => exact (ends_throw (α := α)).2 (he e rfl)

/-- A step on a view, if the handle refers to one. -/
theorem ends_view {v : ViewRef} {Q : View → World → Prop}
    (h : ∀ view, w.views[v]? = some view → Q view w)
    (he : w.views[v]? = none → E .noSuchHandle w) : (Act.view v).Ends w Q E :=
  ends_bind.2 (ends_get.2 (ends_found h he))

theorem ends_group {g : GroupRef} {Q : Group → World → Prop}
    (h : ∀ group, w.groups[g]? = some group → Q group w)
    (he : w.groups[g]? = none → E .noSuchHandle w) : (Act.group g).Ends w Q E :=
  ends_bind.2 (ends_get.2 (ends_found h he))

theorem ends_snapshot {r : SnapshotRef} {Q : Snapshot → World → Prop}
    (h : ∀ s, w.snapshots[r]? = some s → Q s w)
    (he : w.snapshots[r]? = none → E .noSuchHandle w) : (Act.snapshot r).Ends w Q E :=
  ends_bind.2 (ends_get.2 (ends_found h he))

theorem ends_modifyView {v : ViewRef} {f : View → View} {Q : Unit → World → Prop} :
    (Act.modifyView v f).Ends w Q E ↔ Q () (w.modifyView v f) :=
  ends_of_ok (runIn_modifyView v f w)

theorem ends_record {e : Event} {Q : Unit → World → Prop} :
    (Act.record e).Ends w Q E ↔ Q () (w.record e) :=
  ends_of_ok (runIn_record e w)

theorem ends_yield {others : World → Option World} {Q : Unit → World → Prop} :
    (yield others).Ends w Q E ↔ ∀ w', others w = some w' → Q () w' := by
  cases h : others w with
  | none => simp [Ends, h]
  | some u =>
    have hrun : (yield others).runIn w = some (.ok (), u) := by simp [h]
    simp [ends_of_ok hrun]

theorem ends_ensuring {act : Act α} {cleanUp : World → World} :
    (act.ensuring cleanUp).Ends w Q E ↔
      act.Ends w (fun x w' => Q x (cleanUp w')) fun e w' => E e (cleanUp w') := by
  cases h : act.runIn w with
  | none => simp [Ends, h]
  | some out => obtain ⟨r, u⟩ := out; cases r <;> simp [Ends, h]

theorem ends_onFailure {act : Act α} {change : Failure → World → World} :
    (act.onFailure change).Ends w Q E ↔ act.Ends w Q fun e w' => E e (change e w') := by
  cases h : act.runIn w with
  | none => simp [Ends, runIn_onFailure, h]
  | some out => obtain ⟨r, u⟩ := out; cases r <;> simp [Ends, runIn_onFailure, h]

/-! ## Steps that stay within a relation -/

/-- Every outcome of a step, from every world, is in a world related to the one before. -/
def Within (T : World → World → Prop) (act : Act α) : Prop :=
  ∀ w, act.Ends w (fun _ w' => T w w') fun _ w' => T w w'

variable {T : World → World → Prop}

theorem Within.of_runIn {act : Act α} (h : act.Within T) {w w' : World} {r : Except Failure α}
    (hr : act.runIn w = some (r, w')) : T w w' := by
  cases r with
  | ok x => exact (h w).1 x w' hr
  | error e => exact (h w).2 e w' hr

/-- A relation that a step which changes nothing stays within, and that can be followed twice. -/
structure Chains (T : World → World → Prop) : Prop where
  refl : ∀ w, T w w
  trans : ∀ {w w' w''}, T w w' → T w' w'' → T w w''

/-- Several events are noted one by one. -/
theorem Chains.recordAll (hT : Chains T) {es : List Event} (h : ∀ e ∈ es, ∀ w, T w (w.record e))
    (w : World) : T w (w.recordAll es) := by
  induction es generalizing w with
  | nil =>
    have hrefl := hT.refl w
    rwa [show w.recordAll [] = w by simp [World.recordAll]]
  | cons e rest ih =>
    have hrest := ih (fun e' he' => h e' (List.mem_cons_of_mem e he')) (w.record e)
    have heq : (w.record e).recordAll rest = w.recordAll (e :: rest) := by
      simp [World.recordAll, World.record]
    exact heq ▸ hT.trans (h e List.mem_cons_self w) hrest

theorem Within.bind (hT : Chains T) {act : Act α} {next : α → Act β} (h : act.Within T)
    (hnext : ∀ x, (next x).Within T) : (act >>= next).Within T := by
  intro w
  refine ends_bind.2 ((h w).mono (fun x w₁ h₁ => ?_) fun _ _ h₁ => h₁)
  exact (hnext x w₁).mono (fun _ _ h₂ => hT.trans h₁ h₂) fun _ _ h₂ => hT.trans h₁ h₂

/-- A step that only looks stays within every such relation. -/
theorem Within.of_same (hT : Chains T) {act : Act α}
    (h : ∀ w, act.Ends w (fun _ w' => w' = w) fun _ w' => w' = w) : act.Within T := by
  intro w
  exact (h w).mono (fun _ _ e => e ▸ hT.refl w) fun _ _ e => e ▸ hT.refl w

theorem within_pure (hT : Chains T) (x : α) : (pure x : Act α).Within T :=
  Within.of_same hT fun _ => ends_pure.2 rfl

theorem within_throw (hT : Chains T) (e : Failure) : (throw e : Act α).Within T :=
  Within.of_same hT fun _ => ends_throw.2 rfl

theorem within_get (hT : Chains T) : (get : Act World).Within T :=
  Within.of_same hT fun _ => ends_get.2 rfl

theorem within_modify {f : World → World} (h : ∀ w, T w (f w)) :
    (modify f : Act PUnit).Within T :=
  fun w => ends_modify.2 (h w)

theorem within_yield {others : World → Option World}
    (h : ∀ w w', others w = some w' → T w w') : (yield others).Within T :=
  fun w => ends_yield.2 (h w)

theorem within_found (hT : Chains T) (o : Option α) : (found o).Within T :=
  Within.of_same hT fun _ => ends_found (fun _ _ => rfl) fun _ => rfl

theorem within_ofExcept (hT : Chains T) (r : Except Failure α) : (ofExcept r).Within T :=
  Within.of_same hT fun _ => ends_ofExcept (fun _ _ => rfl) fun _ _ => rfl

theorem within_view (hT : Chains T) (v : ViewRef) : (Act.view v).Within T :=
  (within_get hT).bind hT fun _ => within_found hT _

theorem within_group (hT : Chains T) (g : GroupRef) : (Act.group g).Within T :=
  (within_get hT).bind hT fun _ => within_found hT _

theorem within_snapshot (hT : Chains T) (r : SnapshotRef) : (Act.snapshot r).Within T :=
  (within_get hT).bind hT fun _ => within_found hT _

theorem within_chain (hT : Chains T) (c : ChainRef) : (Act.chain c).Within T :=
  (within_get hT).bind hT fun _ => within_found hT _

theorem within_filter (hT : Chains T) (f : FilterRef) : (Act.filter f).Within T :=
  (within_get hT).bind hT fun _ => within_found hT _

end SnapshotViewer.Act
