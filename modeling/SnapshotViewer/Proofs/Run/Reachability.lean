import SnapshotViewer.Proofs.Action.Outcome

/-!
# What commands and listeners do to the world

`Command.EffectIn` lists the effects that a command can have, and `Command.effect_of_execute` shows
that there are no others. `World.Reaches w w'` says that commands lead from `w` to `w'`, with all
the calls of listeners that they set off, and `World.ReachesIn` the same of commands that are not
free to do anything. `World.ReachesIn.within` and `World.Reaches.within` are the inductions that the
invariants are proved by: a relation that every effect stays within, if the calls of listeners do,
holds between the worlds before and after a run.
-/

namespace SnapshotViewer

namespace Command

/-- What commands are free to do: whether they edit snapshots, which snapshots they make members of
which groups, and with which schedulers they open views. -/
structure Scope where
  edits : Prop
  joins : World → GroupRef → SnapshotRef → Prop
  opens : Option Scheduler → Prop

/-- Commands are free to do anything. -/
abbrev Scope.all : Scope := ⟨True, fun _ _ _ => True, fun _ => True⟩

/-- A command that is free to be carried out in a world. -/
def Allowed (p : Scope) (w : World) : Command → Prop
  | .addNode .. | .setProperty .. => p.edits
  | .addMember g place => ∀ s, w.pool[place]? = some s → p.joins w g s
  | .openView _ _ _ scheduler _ _ => p.opens scheduler
  | _ => True

theorem allowed_all (w : World) (c : Command) : c.Allowed .all w := by
  cases c with
  | addMember => exact fun _ _ => trivial
  | _ => exact trivial

/-- The effects of a command on the world. Listeners are called as `R` says. -/
inductive EffectIn (p : Scope) (R : Respond) : World → World → Prop where
  | nothing (w : World) : EffectIn p R w w
  | keep {w : World} {v : ViewRef} {view : View} {s : Selection} (hview : w.views[v]? = some view)
      (hs : view.selection = some s) : EffectIn p R w { w with pool := w.pool ++ [s.graph] }
  | compare {w : World} {first second : SnapshotRef} {s t : Snapshot}
      (hs : w.snapshots[first]? = some s) (ht : w.snapshots[second]? = some t) :
      EffectIn p R w
        { w.archive (Difference.ofPair w.nextId first second s t) with
          pool := w.pool ++ [w.snapshots.length] }
  | edit (w : World) (r : SnapshotRef) (f : Snapshot → Snapshot)
      (hf : ∀ s, f s = { s with nodes := (f s).nodes, properties := (f s).properties })
      (hp : p.edits) :
      EffectIn p R w ((w.modifySnapshot r f).record (.edited r))
  | clearBlocks (w : World) (r : SnapshotRef) :
      EffectIn p R w ((w.modifySnapshot r Snapshot.clearBlocks).record (.unblocked r))
  | addRule (w : World) (f : FilterRef) (name : String) (rules : List ColorRule) :
      EffectIn p R w ({ w with filters := w.filters.set f (.color name rules) }.record (.ruled f))
  | listen (w : World) (signal : Signal) (l : Listener) :
      EffectIn p R w
        ({ w with listeners := w.listeners ++ [l] }.connect signal (.listener w.listeners.length))
  | unlisten (w : World) (k : ListenerRef) : EffectIn p R w (w.disconnect (.listener k))
  | change {w w' : World} {v : ViewRef} {m : Mutation} {r : Except Failure Unit}
      (h : (View.mutate (World.announceView R) v m).runIn w = some (r, w')) : EffectIn p R w w'
  | openView {w w' : World} {s : SnapshotRef} {c q : ChainRef} {scheduler : Option Scheduler}
      {counted : Bool} {hide : Value} {r : Except Failure ViewRef}
      (h : (View.openOn s c q scheduler counted hide).runIn w = some (r, w'))
      (hp : p.opens scheduler) : EffectIn p R w w'
  | closeView {w w' : World} {v : ViewRef} {r : Except Failure Unit}
      (h : (View.close (World.announceView R) v).runIn w = some (r, w')) : EffectIn p R w w'
  | join {w w' : World} {g : GroupRef} {s : SnapshotRef} (hs : s ∈ w.pool)
      (h : World.announceShared R (.group g)
        ((w.modifySnapshot s fun snapshot => { snapshot with group := some g }).modifyGroup g
          fun group => { group with members := group.members ++ [s] }) = some w')
      (hp : p.joins w g s) : EffectIn p R w w'
  | leave {w w' : World} {g : GroupRef} {f : List SnapshotRef → List SnapshotRef}
      (hf : ∀ l, f l ⊆ l)
      (h : World.announceShared R (.group g)
        (w.modifyGroup g fun group => { group with members := f group.members }) = some w') :
      EffectIn p R w w'
  | rechain {w w' : World} {c : ChainRef} {filters : List FilterRef}
      (h : World.announceShared R (.chain c) (w.setChain c filters) = some w') : EffectIn p R w w'
  | notify {w w' : World} {c : ChainRef} (h : World.announceShared R (.chain c) w = some w') :
      EffectIn p R w w'

/-- The effects of a command that is free to do anything. -/
abbrev Effect (R : Respond) : World → World → Prop := EffectIn .all R

variable {p : Scope} {R : Respond} {w : World} {α β : Type}

/-- Whatever the outcome of a step, it has an effect of a command. -/
abbrev Effecting (p : Scope) (R : Respond) (act : Act α) (w : World) : Prop :=
  act.Ends w (fun _ w' => EffectIn p R w w') fun _ w' => EffectIn p R w w'

/-- A step that only looks has no effect. -/
theorem effecting_of_same {act : Act α} (h : act.Within Eq) : Effecting p R act w :=
  (h w).mono (fun _ _ e => e ▸ .nothing w) fun _ _ e => e ▸ .nothing w

/-- What follows a look has the effect of the whole. -/
theorem effecting_after {act : Act α} {next : α → Act β} (h : act.Within Eq)
    (hnext : ∀ x, Effecting p R (next x) w) : Effecting p R (act >>= next) w := by
  refine Act.ends_bind.2 ((h w).mono (fun x w' e => ?_) fun _ _ e => e ▸ .nothing w)
  exact e ▸ hnext x

/-- What is answered does not matter. -/
theorem effecting_answer {act : Act α} {answer : α → β} (h : Effecting p R act w) :
    Effecting p R (do return answer (← act)) w :=
  Act.ends_bind.2 (h.mono (fun _ _ e => Act.ends_pure.2 e) fun _ _ e => e)

theorem chains_eq : Act.Chains (Eq : World → World → Prop) := ⟨fun _ => rfl, Eq.trans⟩

theorem same_pooled (place : Nat) : (Act.pooled place).Within Eq :=
  (Act.within_get chains_eq).bind chains_eq fun _ => Act.within_found chains_eq _

/-- A snapshot that a command names is in the pool. -/
theorem effecting_pooled {place : Nat} {next : SnapshotRef → Act β}
    (h : ∀ s, w.pool[place]? = some s → Effecting p R (next s) w) :
    Effecting p R (Act.pooled place >>= next) w := by
  unfold Act.pooled
  rw [Effecting, Act.ends_bind, Act.ends_bind, Act.ends_get]
  exact Act.ends_found (fun s hs => h s hs) fun _ => .nothing w

/-- A step of which nothing is known but what it comes to. -/
theorem effecting_of_runIn {act : Act α}
    (h : ∀ r w', act.runIn w = some (r, w') → EffectIn p R w w') : Effecting p R act w :=
  ⟨fun _ _ hr => h _ _ hr, fun _ _ hr => h _ _ hr⟩

/-- A step that ends with an announcement to others. -/
theorem effecting_yield {others : World → Option World} {u : World}
    (h : ∀ w', others u = some w' → EffectIn p R w w') :
    (Act.yield others).Ends u (fun _ w' => EffectIn p R w w') fun _ w' => EffectIn p R w w' :=
  Act.ends_yield.2 h

/-! ## Each kind of command -/

theorem effecting_change (v : ViewRef) (m : Mutation) : Effecting p R (change R v m) w :=
  effecting_answer (effecting_of_runIn fun _ _ h => .change h)

theorem runIn_change (v : ViewRef) (m : Mutation) (w : World) :
    (change R v m).runIn w = ((View.mutate (World.announceView R) v m).runIn w).map fun p =>
      (p.1.map fun _ => .done, p.2) := by
  unfold change
  rw [Act.runIn_bind]
  cases (View.mutate (World.announceView R) v m).runIn w with
  | none => rfl
  | some p =>
    obtain ⟨r, u⟩ := p
    cases r <;> rfl

theorem runIn_pooled {place : Nat} {s : SnapshotRef} {w : World} (h : w.pool[place]? = some s) :
    (Act.pooled place).runIn w = some (.ok s, w) := by
  rw [Act.pooled, Act.runIn_bind_ok (Act.runIn_get w), h, Act.runIn_found_some]

theorem same_view (v : ViewRef) : (Act.view v).Within Eq := Act.within_view chains_eq v

theorem same_refs (rs : List SnapshotRef) : (refs rs).Within Eq :=
  (Act.within_get chains_eq).bind chains_eq fun _ => Act.within_pure chains_eq _

theorem effecting_keepGraph (v : ViewRef) : Effecting p R (execute R (.keepGraph v)) w := by
  unfold execute graphOf
  rw [Effecting, Act.ends_bind, Act.ends_bind]
  refine Act.ends_view (fun view hview => ?_) fun _ => .nothing w
  refine Act.ends_found (fun graph hgraph => ?_) fun _ => .nothing w
  obtain ⟨s, hs, rfl⟩ := Option.map_eq_some_iff.1 hgraph
  rw [Act.ends_bind, Act.ends_get]
  dsimp only
  split
  · exact Act.ends_pure.2 (.nothing w)
  · rw [Act.ends_bind, Act.ends_modify, Act.ends_pure]
    exact .keep hview hs

theorem effecting_makeDifference (first second : Nat) :
    Effecting p R (execute R (.makeDifference first second)) w := by
  unfold execute
  refine effecting_after (same_pooled first) fun first => ?_
  refine effecting_after (same_pooled second) fun second => ?_
  unfold Act.makeDifference
  rw [Effecting, Act.ends_bind, Act.ends_bind]
  refine Act.ends_snapshot (fun s hs => ?_) fun _ => .nothing w
  rw [Act.ends_bind]
  refine Act.ends_snapshot (fun t ht => ?_) fun _ => .nothing w
  rw [Act.ends_bind, Act.ends_get, Act.ends_bind, Act.ends_set, Act.ends_pure, Act.ends_bind,
    Act.ends_get, Act.ends_bind, Act.ends_modify, Act.ends_pure]
  exact .compare hs ht

theorem effecting_addMember {g : GroupRef} {place : Nat}
    (hp : (Command.addMember g place).Allowed p w) :
    Effecting p R (execute R (.addMember g place)) w := by
  unfold execute Act.addMember Act.announce
  refine effecting_pooled fun s hs => effecting_answer ?_
  refine effecting_after (Act.within_group chains_eq g) fun group => ?_
  rw [Effecting, Act.ends_bind, Act.ends_modify, Act.ends_bind, Act.ends_modify]
  exact effecting_yield fun w' h => .join (List.mem_of_getElem? hs) h (hp s hs)

theorem effecting_removeMember (g : GroupRef) (place : Nat) :
    Effecting p R (execute R (.removeMember g place)) w := by
  unfold execute Act.removeMember Act.announce
  refine effecting_after (same_pooled place) fun s => effecting_answer ?_
  refine effecting_after (Act.within_group chains_eq g) fun group => ?_
  split
  · rw [Effecting, Act.ends_bind, Act.ends_modify]
    exact effecting_yield fun w' h => .leave (fun l => List.erase_subset) h
  · exact effecting_of_same
      ((Act.within_get chains_eq).bind chains_eq fun _ => Act.within_throw chains_eq _)

theorem effecting_clearGroup (g : GroupRef) : Effecting p R (execute R (.clearGroup g)) w := by
  unfold execute Act.clearGroup Act.announce
  refine effecting_answer (effecting_after (Act.within_group chains_eq g) fun group => ?_)
  rw [Effecting, Act.ends_bind, Act.ends_modify]
  exact effecting_yield fun w' h => .leave (f := fun _ => []) (fun l => List.nil_subset l) h

theorem effecting_changeChain (c : ChainRef) (filters : List FilterRef) :
    Effecting p R (Act.changeChain R c filters) w := by
  unfold Act.changeChain Act.announce
  rw [Effecting, Act.ends_bind, Act.ends_modify]
  exact effecting_yield fun w' h => .rechain h

theorem same_positionOf (filters : List FilterRef) (f : FilterRef) :
    (Act.positionOf filters f).Within Eq := by
  unfold Act.positionOf
  refine (Act.within_filter chains_eq f).bind chains_eq fun filter => ?_
  split
  · exact Act.within_pure chains_eq _
  · exact Act.within_throw chains_eq _

theorem effecting_addFilter (c : ChainRef) (f : FilterRef) :
    Effecting p R (Act.addFilter R c f) w := by
  refine effecting_after (Act.within_chain chains_eq c) fun filters => ?_
  exact effecting_after (Act.within_filter chains_eq f) fun _ => effecting_changeChain c _

theorem effecting_removeFilter (c : ChainRef) (f : FilterRef) :
    Effecting p R (Act.removeFilter R c f) w := by
  refine effecting_after (Act.within_chain chains_eq c) fun filters => ?_
  split
  · exact effecting_changeChain c _
  · exact effecting_of_same (Act.within_throw chains_eq _)

theorem effecting_moveFilterUp (c : ChainRef) (f : FilterRef) :
    Effecting p R (Act.moveFilterUp R c f) w := by
  refine effecting_after (Act.within_chain chains_eq c) fun filters => ?_
  refine effecting_after (same_positionOf filters f) fun i => ?_
  cases i with
  | zero => exact effecting_of_same (Act.within_pure chains_eq _)
  | succ i => exact effecting_changeChain c _

theorem effecting_moveFilterDown (c : ChainRef) (f : FilterRef) :
    Effecting p R (Act.moveFilterDown R c f) w := by
  refine effecting_after (Act.within_chain chains_eq c) fun filters => ?_
  refine effecting_after (same_positionOf filters f) fun i => ?_
  split
  · exact effecting_changeChain c _
  · exact effecting_of_same (Act.within_pure chains_eq _)

theorem effecting_addRule (f : FilterRef) (property pattern color : String) :
    Effecting p R (Act.addRule f property pattern color) w := by
  refine effecting_after (Act.within_filter chains_eq f) fun filter => ?_
  split
  · exact effecting_of_same (Act.within_throw chains_eq _)
  · refine effecting_after (Act.within_ofExcept chains_eq _) fun rule => ?_
    rw [Filter.addRule, Effecting, Act.ends_bind, Act.ends_of_ok (Act.runIn_ofExcept_ok _ w),
      Act.ends_bind, Act.ends_modify, Act.ends_record]
    exact .addRule w f _ _

theorem effecting_edit {s : SnapshotRef} {f : Snapshot → Snapshot}
    (hf : ∀ s, f s = { s with nodes := (f s).nodes, properties := (f s).properties })
    (hp : p.edits) : Effecting p R (Act.edit s f) w := by
  unfold Act.edit
  rw [Effecting, Act.ends_bind, Act.ends_modify, Act.ends_record]
  exact .edit w s f hf hp

theorem effecting_listen (signal : Signal) (limit : Nat) (script : List Command) :
    Effecting p R (Act.listen signal limit script) w := by
  refine effecting_after ?_ fun _ => ?_
  · cases signal with
    | view v n =>
      exact (same_view v).bind chains_eq fun _ => Act.within_pure chains_eq _
    | group g =>
      exact (Act.within_group chains_eq g).bind chains_eq fun _ => Act.within_pure chains_eq _
    | chain c =>
      exact (Act.within_chain chains_eq c).bind chains_eq fun _ => Act.within_pure chains_eq _
  · rw [Effecting, Act.ends_bind, Act.ends_get, Act.ends_bind, Act.ends_modify, Act.ends_bind,
      Act.ends_modify, Act.ends_pure]
    exact .listen w signal _

theorem effecting_unlisten (k : ListenerRef) : Effecting p R (Act.unlisten k) w := by
  unfold Act.unlisten
  rw [Effecting, Act.ends_bind, Act.ends_get, Act.ends_bind]
  refine Act.ends_found (fun _ _ => ?_) fun _ => .nothing w
  rw [Act.ends_bind, Act.ends_set, Act.ends_pure]
  exact .unlisten w k

/-- Every command has one of the listed effects. -/
theorem effecting_execute {c : Command} (hp : c.Allowed p w) : Effecting p R (execute R c) w := by
  cases c with
  | openView s chain sequenceChain scheduler counted hide =>
    refine effecting_after (same_pooled s) fun s => effecting_answer ?_
    exact effecting_of_runIn fun _ _ h => .openView h hp
  | selectGraph v s => exact effecting_after (same_pooled s) fun s => effecting_change v _
  | selectDifference v s => exact effecting_after (same_pooled s) fun s => effecting_change v _
  | setWindow v low high => exact effecting_change v _
  | setHideDuplicates v hide => exact effecting_change v _
  | selectNodes v ids => exact effecting_change v _
  | hideNodes v ids => exact effecting_change v _
  | showOnly v ids => exact effecting_change v _
  | showFigures v ids => exact effecting_after (same_view v) fun _ => effecting_change v _
  | selectedFigures v =>
    exact effecting_of_same ((same_view v).bind chains_eq fun _ => Act.within_pure chains_eq _)
  | setFlag v flag on =>
    cases flag with
    | toggle t => exact effecting_change v _
    | hideDuplicates => exact effecting_change v _
  | forward v => exact effecting_of_same ((same_view v).bind chains_eq fun _ => same_refs _)
  | backward v => exact effecting_of_same ((same_view v).bind chains_eq fun _ => same_refs _)
  | closeView v => exact effecting_answer (effecting_of_runIn fun _ _ h => .closeView h)
  | owners v =>
    exact effecting_of_same ((same_view v).bind chains_eq fun _ => Act.within_pure chains_eq _)
  | keepGraph v => exact effecting_keepGraph v
  | graphRecord v =>
    refine effecting_of_same (Act.Within.bind chains_eq ?_ fun graph => ?_)
    · exact (same_view v).bind chains_eq fun _ => Act.within_found chains_eq _
    · exact (Act.within_snapshot chains_eq _).bind chains_eq fun _ => Act.within_pure chains_eq _
  | makeDifference first second => exact effecting_makeDifference first second
  | addMember g s => exact effecting_addMember hp
  | removeMember g s => exact effecting_removeMember g s
  | clearGroup g => exact effecting_clearGroup g
  | groupNodes g =>
    refine effecting_of_same ((Act.within_group chains_eq g).bind chains_eq fun _ => ?_)
    exact (Act.within_get chains_eq).bind chains_eq fun _ => Act.within_pure chains_eq _
  | groupMembers g =>
    exact effecting_of_same ((Act.within_group chains_eq g).bind chains_eq fun _ => same_refs _)
  | addFilter c f => exact effecting_answer (effecting_addFilter c f)
  | removeFilter c f => exact effecting_answer (effecting_removeFilter c f)
  | moveFilterUp c f => exact effecting_answer (effecting_moveFilterUp c f)
  | moveFilterDown c f => exact effecting_answer (effecting_moveFilterDown c f)
  | clearChain c =>
    refine effecting_after (Act.within_chain chains_eq c) fun _ => ?_
    exact effecting_answer (effecting_changeChain c [])
  | notifyChain c =>
    refine effecting_after (Act.within_chain chains_eq c) fun _ => effecting_answer ?_
    exact effecting_yield fun w' h => .notify h
  | addRule f property pattern color =>
    exact effecting_answer (effecting_addRule f property pattern color)
  | addNode s id properties =>
    refine effecting_after (same_pooled s) fun s => ?_
    refine effecting_after (Act.within_ofExcept chains_eq _) fun ps => ?_
    exact effecting_answer (effecting_edit (fun _ => rfl) hp)
  | setProperty s key value =>
    refine effecting_after (same_pooled s) fun s => ?_
    exact effecting_answer (effecting_edit (fun _ => rfl) hp)
  | clearBlocks s =>
    refine effecting_after (same_pooled s) fun s => ?_
    unfold Effecting
    rw [Act.ends_bind, Act.ends_modify, Act.ends_bind, Act.ends_record, Act.ends_pure]
    exact .clearBlocks w s
  | blocks s =>
    refine effecting_of_same ((same_pooled s).bind chains_eq fun _ => ?_)
    exact (Act.within_snapshot chains_eq _).bind chains_eq fun _ => Act.within_pure chains_eq _
  | listen signal limit script => exact effecting_answer (effecting_listen signal limit script)
  | unlisten k => exact effecting_answer (effecting_unlisten k)

/-- Whatever the outcome of a command, it has one of the listed effects. -/
theorem effect_of_execute {c : Command} (hp : c.Allowed p w) {w' : World}
    {r : Except Failure Reply} (h : (execute R c).runIn w = some (r, w')) : EffectIn p R w w' := by
  cases r with
  | ok x => exact (effecting_execute hp).1 x w' h
  | error e => exact (effecting_execute hp).2 e w' h

end Command

namespace World

/-! ## Runs -/

/-- Commands lead from one world to another, with all the calls of listeners that they set off. -/
inductive Reaches : World → World → Prop where
  | refl (w : World) : Reaches w w
  | trans {w w' w'' : World} (h : Reaches w w') (h' : Reaches w' w'') : Reaches w w''
  | called (w : World) (listeners : List Listener) : Reaches w { w with listeners }
  | noted (w : World) (k : ListenerRef) (c : Command) (outcome : Except Failure Reply)
      (views : List Glimpse) : Reaches w (w.record (.performed k c outcome views))
  | command {R : Respond} (hR : ∀ k u u', R k u = some u' → Reaches u u') {c : Command}
      {w w' : World} {r : Except Failure Reply} (h : (c.execute R).runIn w = some (r, w')) :
      Reaches w w'

theorem chains_reaches : Act.Chains Reaches := ⟨Reaches.refl, Reaches.trans⟩

/-- Commands that are free to do no more than `p` says lead from one world to another, with all the
calls of listeners that they set off. -/
inductive ReachesIn (p : Command.Scope) : World → World → Prop where
  | refl (w : World) : ReachesIn p w w
  | trans {w w' w'' : World} (h : ReachesIn p w w') (h' : ReachesIn p w' w'') : ReachesIn p w w''
  | called (w : World) (listeners : List Listener) : ReachesIn p w { w with listeners }
  | noted (w : World) (k : ListenerRef) (c : Command) (outcome : Except Failure Reply)
      (views : List Glimpse) : ReachesIn p w (w.record (.performed k c outcome views))
  | command {R : Respond} (hR : ∀ k u u', R k u = some u' → ReachesIn p u u') {c : Command}
      {w w' : World} {r : Except Failure Reply} (hp : c.Allowed p w)
      (h : (c.execute R).runIn w = some (r, w')) : ReachesIn p w w'

/-- A relation that every effect of a command stays within, if the calls of listeners do, holds
between the worlds before and after a run. -/
theorem ReachesIn.within {p : Command.Scope} {T : World → World → Prop} (hT : Act.Chains T)
    (hcalled : ∀ w listeners, T w { w with listeners })
    (hnoted : ∀ w k c outcome views, T w (w.record (.performed k c outcome views)))
    (heffect : ∀ R, (∀ k u u', R k u = some u' → T u u') →
      ∀ w w', Command.EffectIn p R w w' → T w w')
    {w w' : World} (h : ReachesIn p w w') : T w w' := by
  induction h with
  | refl w => exact hT.refl w
  | trans _ _ ih ih' => exact hT.trans ih ih'
  | called w listeners => exact hcalled w listeners
  | noted w k c outcome views => exact hnoted w k c outcome views
  | command _ hp h ih => exact heffect _ ih _ _ (Command.effect_of_execute hp h)

theorem Reaches.free {w w' : World} (h : Reaches w w') : ReachesIn .all w w' := by
  induction h with
  | refl w => exact .refl w
  | trans _ _ ih ih' => exact .trans ih ih'
  | called w listeners => exact .called w listeners
  | noted w k c outcome views => exact .noted w k c outcome views
  | command _ h ih => exact .command ih (Command.allowed_all _ _) h

theorem ReachesIn.reaches {p : Command.Scope} {w w' : World} (h : ReachesIn p w w') :
    Reaches w w' := by
  induction h with
  | refl w => exact .refl w
  | trans _ _ ih ih' => exact .trans ih ih'
  | called w listeners => exact .called w listeners
  | noted w k c outcome views => exact .noted w k c outcome views
  | command _ _ h ih => exact .command ih h

/-- The induction for runs that are free to do anything. -/
theorem Reaches.within {T : World → World → Prop} (hT : Act.Chains T)
    (hcalled : ∀ w listeners, T w { w with listeners })
    (hnoted : ∀ w k c outcome views, T w (w.record (.performed k c outcome views)))
    (heffect : ∀ R, (∀ k u u', R k u = some u' → T u u') →
      ∀ w w', Command.Effect R w w' → T w w')
    {w w' : World} (h : Reaches w w') : T w w' :=
  h.free.within hT hcalled hnoted heffect

/-- What is done for every entry of a list in turn stays within a relation. -/
theorem foldlM_within {α : Type} {T : World → World → Prop} (hT : Act.Chains T)
    {f : World → α → Option World} {l : List α} (hf : ∀ x ∈ l, ∀ w w', f w x = some w' → T w w')
    {w w' : World} (h : l.foldlM f w = some w') : T w w' := by
  induction l generalizing w with
  | nil =>
    cases h
    exact hT.refl _
  | cons x rest ih =>
    rw [List.foldlM_cons] at h
    obtain ⟨u, hu, hrest⟩ := Option.bind_eq_some_iff.1 h
    have hx := hf x List.mem_cons_self w u hu
    exact hT.trans hx (ih (fun y hy => hf y (List.mem_cons_of_mem x hy)) hrest)

/-- The listeners do nothing but carry out commands. -/
def Listening (R : Respond) : Prop := ∀ k u u', R k u = some u' → Reaches u u'

theorem listening_unheard : Listening fun _ w => some w := by
  intro k u u' h
  cases h
  exact .refl u

theorem reaches_callListener {perform : Command → World → Option (Except Failure Reply × World)}
    (hperform : ∀ c w r w', perform c w = some (r, w') → Reaches w w') :
    Listening (callListener perform) := by
  intro k w w' h
  unfold callListener at h
  split at h
  · cases h
    exact .refl w
  · split at h
    · cases h
      exact .refl w
    · refine (Reaches.called w _).trans (foldlM_within chains_reaches (fun c _ u u' hc => ?_) h)
      obtain ⟨⟨r, u₁⟩, hu, rfl⟩ := Option.map_eq_some_iff.1 hc
      exact (hperform c u r u₁ hu).trans (.noted u₁ k c r _)

/-- A command is carried out with listeners that do nothing but carry out commands. -/
theorem execute_of_performWithin (depth : Nat) {c : Command} {w w' : World}
    {r : Except Failure Reply} (h : performWithin depth c w = some (r, w'))
    (ih : ∀ d < depth, ∀ c w r w', performWithin d c w = some (r, w') → Reaches w w') :
    ∃ R, Listening R ∧ (c.execute R).runIn w = some (r, w') := by
  cases depth with
  | zero => exact ⟨_, listening_unheard, h⟩
  | succ depth =>
    exact ⟨_, reaches_callListener (ih depth (Nat.lt_succ_self depth)), h⟩

theorem reaches_performWithin (depth : Nat) {c : Command} {w w' : World}
    {r : Except Failure Reply} (h : performWithin depth c w = some (r, w')) : Reaches w w' := by
  induction depth using Nat.strongRecOn generalizing c w r w' with
  | ind depth ih =>
    obtain ⟨R, hR, hrun⟩ := execute_of_performWithin depth h fun d hd c w r w' hc => ih d hd hc
    exact .command hR hrun

theorem reaches_perform {c : Command} {w w' : World} {r : Except Failure Reply}
    (h : w.perform c = some (r, w')) : Reaches w w' :=
  reaches_performWithin _ h

theorem reaches_run {commands : List Command} {w w' : World} (h : w.run commands = some w') :
    Reaches w w' := by
  refine foldlM_within chains_reaches (fun c _ u u' hc => ?_) h
  obtain ⟨⟨r, u₁⟩, hu, rfl⟩ := Option.map_eq_some_iff.1 hc
  exact reaches_perform hu

/-- A slot is called within a relation, or not at all. -/
theorem deliver_within {T : World → World → Prop} (hT : Act.Chains T)
    {call : Slot → World → Option World} (hcall : ∀ slot u u', call slot u = some u' → T u u')
    {c : Connection} {w w' : World} (h : deliver call w c = some w') : T w w' := by
  unfold deliver at h
  split at h
  · exact hcall _ _ _ h
  · cases h
    exact hT.refl w

/-- A signal is emitted within a relation if its slots are called within it. -/
theorem emit_within {T : World → World → Prop} (hT : Act.Chains T)
    {call : Slot → World → Option World} {signal : Signal}
    (hcall : ∀ slot u u', call slot u = some u' → T u u')
    (hsignal : ∀ u, T u (u.record (.signalled signal))) {w w' : World}
    (h : w.emit call signal = some w') : T w w' :=
  hT.trans (hsignal w) (foldlM_within hT (fun _ _ _ _ hc => deliver_within hT hcall hc) h)

theorem noteReading_of_found {v : ViewRef} {view : View} {w : World} (h : w.views[v]? = some view)
    (n : Notice) : w.noteReading v n = w.record (.announced v n (w.reading view)) := by
  rw [noteReading, h]

/-- What can be read off a view is noted, if it is there. -/
theorem noteReading_within {T : World → World → Prop} (hT : Act.Chains T) {v : ViewRef}
    {n : Notice} (hannounced : ∀ u r, T u (u.record (.announced v n r))) (w : World) :
    T w (w.noteReading v n) := by
  unfold noteReading
  split
  · exact hannounced w _
  · exact hT.refl w

/-- A view has announced a change, and nobody has heard of it yet. -/
def announced (v : ViewRef) (n : Notice) (w : World) : World :=
  (w.noteReading v n).record (.signalled (.view v n))

theorem announced_of_found {v : ViewRef} {view : View} {w : World} (h : w.views[v]? = some view)
    (n : Notice) : w.announced v n =
      w.recordAll [.announced v n (w.reading view), .signalled (.view v n)] := by
  unfold announced
  rw [noteReading_of_found h]
  exact congrArg (fun trace => { w with trace }) (List.append_assoc ..)

/-- Those who are connected to a view when it announces a change are called one after the other. -/
theorem announceView_eq (R : Respond) (v : ViewRef) (n : Notice) (w : World) :
    announceView R v n w = (w.connections.filter fun c => c.signal == .view v n).foldlM
      (deliver fun slot w => match slot with | .listener k => R k w | .follow _ => some w)
      (w.announced v n) := by
  have hsame : (w.noteReading v n).connections = w.connections := by
    unfold noteReading
    split <;> rfl
  rw [← hsame]
  rfl

/-- Once a view has announced a change, listeners are called within a relation if each of them
is. -/
theorem heard_within {T : World → World → Prop} (hT : Act.Chains T) {R : Respond}
    (hR : ∀ k u u', R k u = some u' → T u u') {v : ViewRef} {n : Notice} {w w' : World}
    (h : announceView R v n w = some w') : T (w.announced v n) w' := by
  refine foldlM_within hT (fun _ _ _ _ hc => deliver_within hT (fun slot u u' hu => ?_) hc) h
  cases slot with
  | listener k => exact hR k u u' hu
  | follow _ =>
    cases hu
    exact hT.refl u

/-- Once it is noted what can be read off a view, listeners are called within a relation if each of
them is. -/
theorem announced_within {T : World → World → Prop} (hT : Act.Chains T) {R : Respond}
    (hR : ∀ k u u', R k u = some u' → T u u') {v : ViewRef} {n : Notice}
    (hsignal : ∀ u, T u (u.record (.signalled (.view v n)))) {w w' : World}
    (h : announceView R v n w = some w') : T (w.noteReading v n) w' :=
  hT.trans (hsignal _) (heard_within hT hR h)

/-- A view announces within a relation if listeners are called within it. -/
theorem announceView_within {T : World → World → Prop} (hT : Act.Chains T) {R : Respond}
    (hR : ∀ k u u', R k u = some u' → T u u') {v : ViewRef} {n : Notice}
    (hannounced : ∀ u r, T u (u.record (.announced v n r)))
    (hsignal : ∀ u, T u (u.record (.signalled (.view v n)))) {w w' : World}
    (h : announceView R v n w = some w') : T w w' :=
  hT.trans (noteReading_within hT hannounced w) (announced_within hT hR hsignal h)

end World

end SnapshotViewer
