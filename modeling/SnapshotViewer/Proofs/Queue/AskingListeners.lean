import SnapshotViewer.Proofs.Queue.ServiceOrder

/-!
# Listeners that only ask for changes

`Command.asks` tells which commands call a view for a change, and `Command.requested` which change
that is. `World.Asks` says what a listener does that carries out nothing but such commands.
-/

namespace SnapshotViewer

/-- The command is a call of a view for a change. -/
def Command.asks (v : ViewRef) : Command → Bool
  | .selectGraph u _ | .selectDifference u _ | .setWindow u _ _ | .setHideDuplicates u _
  | .selectNodes u _ | .hideNodes u _ | .showOnly u _ | .showFigures u _ | .setFlag u _ _ => u == v
  | _ => false

/-- The change that a command calls a view for. -/
def Command.requested : Command → Act Mutation
  | .selectGraph _ s => do return .selectGraph (← Act.pooled s)
  | .selectDifference _ s => do return .selectDifference (← Act.pooled s)
  | .setWindow _ low high => return .setWindow low high
  | .setHideDuplicates _ hide | .setFlag _ .hideDuplicates hide => return .setHideDuplicates hide
  | .selectNodes _ ids => return .setSelectedNodes (.ofList ids)
  | .hideNodes _ ids => return .setHiddenNodes (.ofList ids)
  | .showOnly _ ids => return .showOnly (.ofList ids)
  | .showFigures v ids => do
    let view ← Act.view v
    return .showFigures ((Figure.select view.figures ids).map Figure.id)
  | .setFlag _ (.toggle t) on => return .setToggle t on
  | _ => throw .noSuchMember

/-- A call of a view for a change looks up what it is about and does nothing else. -/
theorem Command.execute_asks {c : Command} {v : ViewRef} (hc : c.asks v = true) (R : Respond) :
    c.execute R = c.requested >>= change R v := by
  cases c with
  | setFlag u flag on =>
    cases beq_iff_eq.1 hc
    cases flag <;> rfl
  | selectGraph u | selectDifference u | setWindow u | setHideDuplicates u | selectNodes u
  | hideNodes u | showOnly u | showFigures u =>
    cases beq_iff_eq.1 hc
    simp only [execute, requested, bind_assoc, pure_bind]
  | _ => cases hc

theorem Command.same_requested (c : Command) : c.requested.Within Eq := by
  unfold requested
  split
  · exact (same_pooled _).bind chains_eq fun _ => Act.within_pure chains_eq _
  · exact (same_pooled _).bind chains_eq fun _ => Act.within_pure chains_eq _
  · exact Act.within_pure chains_eq _
  · exact Act.within_pure chains_eq _
  · exact Act.within_pure chains_eq _
  · exact Act.within_pure chains_eq _
  · exact Act.within_pure chains_eq _
  · exact Act.within_pure chains_eq _
  · exact (same_view _).bind chains_eq fun _ => Act.within_pure chains_eq _
  · exact Act.within_pure chains_eq _
  · exact Act.within_throw chains_eq _

namespace World

/-- What a listener does that only asks a view for changes. It counts how often it is called, and
notes what it has done. What would be announced of a change that is asked for is left open: while
another one is under way it only waits. -/
inductive Asks (k : ListenerRef) (v : ViewRef) : World → World → Prop where
  | refl (w : World) : Asks k v w w
  | trans {w w' w'' : World} (h : Asks k v w w') (h' : Asks k v w' w'') : Asks k v w w''
  | counted (w : World) (listeners : List Listener)
      (hscripts : listeners.map (·.script) = w.listeners.map (·.script))
      (hothers : ∀ i, i ≠ k → listeners[i]? = w.listeners[i]?) : Asks k v w { w with listeners }
  | noted (w : World) (c : Command) (outcome : Except Failure Reply) (views : List Glimpse) :
      Asks k v w (w.record (.performed k c outcome views))
  | asked {a : View.Announce} {m : Mutation} {w w' : World} {r : Except Failure Unit}
      (h : (View.mutate a v m).runIn w = some (r, w')) : Asks k v w w'

/-- As long as listeners have these scripts, they only ask a view for changes. -/
def Asking (R : Respond) (v : ViewRef) (scripts : List (List Command)) : Prop :=
  ∀ k u u', u.listeners.map (·.script) = scripts → R k u = some u' → Asks k v u u'

theorem asks_execute (k : ListenerRef) {R : Respond} {c : Command} {v : ViewRef}
    (hc : c.asks v = true) {w w' : World} {r : Except Failure Reply}
    (h : (c.execute R).runIn w = some (r, w')) : Asks k v w w' := by
  have hends : (c.execute R).Ends w (fun _ w' => Asks k v w w') fun _ w' => Asks k v w w' := by
    rw [Command.execute_asks hc R, Act.ends_bind]
    refine (c.same_requested w).mono (fun m u hu => ?_) fun _ u hu => hu ▸ .refl w
    subst hu
    have hasked {x : Except Failure Reply} {w' : World}
        (h : (Command.change R v m).runIn w = some (x, w')) : Asks k v w w' := by
      rw [Command.runIn_change] at h
      obtain ⟨⟨r, u⟩, hu, heq⟩ := Option.map_eq_some_iff.1 h
      exact (Prod.mk.inj heq).2 ▸ .asked hu
    exact ⟨fun _ _ h => hasked h, fun _ _ h => hasked h⟩
  cases r with
  | ok x => exact hends.1 x w' h
  | error e => exact hends.2 e w' h

/-- A listener keeps its script when a call of it is used up. -/
theorem scripts_set {ls : List Listener} {k : ListenerRef} {l : Listener} (hl : ls[k]? = some l)
    (n : Nat) : (ls.set k { l with remaining := n }).map (·.script) = ls.map (·.script) := by
  rw [List.map_set]
  refine List.ext_getElem? fun i => ?_
  by_cases hi : k = i
  · subst hi
    rw [List.getElem?_set_self (by simpa using (List.getElem?_eq_some_iff.1 hl).1),
      List.getElem?_map, hl]
    rfl
  · rw [List.getElem?_set_ne hi]

/-- A listener asks a view for changes if that is all that its script does. -/
theorem asks_callListener {k : ListenerRef} {v : ViewRef} {w w' : World} {depth : Nat}
    (hscript : ∀ l, w.listeners[k]? = some l → ∀ c ∈ l.script, c.asks v = true)
    (h : callListener (performWithin depth) k w = some w') : Asks k v w w' := by
  unfold callListener at h
  split at h
  · cases h
    exact .refl w
  rename_i l hl
  split at h
  · cases h
    exact .refl w
  rename_i n _
  refine .trans (.counted w (w.listeners.set k { l with remaining := n }) (scripts_set hl n)
    fun i hi => ?_) (foldlM_within ⟨.refl, .trans⟩ (fun c hc x x' hx => ?_) h)
  · rw [List.getElem?_set_ne hi.symm]
  · obtain ⟨⟨r, x₁⟩, hx₁, rfl⟩ := Option.map_eq_some_iff.1 hx
    refine .trans ?_ (.noted x₁ c r _)
    cases depth with
    | zero => exact asks_execute k (hscript l hl c hc) hx₁
    | succ depth => exact asks_execute k (hscript l hl c hc) hx₁

/-- Listeners ask a view for changes if that is all that their scripts do. -/
theorem asking_callListener {v : ViewRef} {scripts : List (List Command)}
    (hscripts : ∀ script ∈ scripts, ∀ c ∈ script, c.asks v = true) (depth : Nat) :
    Asking (callListener (performWithin depth)) v scripts := by
  intro k u u' hu h
  refine asks_callListener (fun l hl => hscripts _ ?_) h
  exact hu ▸ List.mem_map_of_mem (List.mem_of_getElem? hl)

end World

end SnapshotViewer
