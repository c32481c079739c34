import SnapshotViewer.Proofs.Queue.AskingListeners
import SnapshotViewer.Proofs.Run.ConcerningOneView
import SnapshotViewer.Proofs.Snapshot.ScheduledOnce
import SnapshotViewer.Proofs.View.ChangeParts

/-!
# Views that are apart

Two views are apart if no listener connects them: those that hear of a view ask only this view for
changes, and none hears of both. `World.Spares v w w'` says what the calls of another view then
leave as it is: the view itself, all that it shares with others except for snapshots that are
scheduled and new ones, and its listeners. Main statement: `World.Apart.perform`.
-/

namespace SnapshotViewer

/-! ## Commands that keep to a view -/

namespace Act

variable {α β : Type}

/-- The step comes to an end and changes nothing. -/
def Looks (act : Act α) : Prop := ∀ w, ∃ r, act.runIn w = some (r, w)

theorem looks_pure (x : α) : (pure x : Act α).Looks := fun _ => ⟨.ok x, rfl⟩

theorem looks_get : (get : Act World).Looks := fun w => ⟨.ok w, rfl⟩

theorem looks_found (o : Option α) : (found o).Looks := by
  intro w
  cases o with
  | none => exact ⟨.error .noSuchHandle, rfl⟩
  | some x => exact ⟨.ok x, rfl⟩

theorem Looks.bind {act : Act α} {next : α → Act β} (h : act.Looks) (hnext : ∀ x, (next x).Looks) :
    (act >>= next).Looks := by
  intro w
  obtain ⟨r, hr⟩ := h w
  cases r with
  | ok x =>
    obtain ⟨r', hr'⟩ := hnext x w
    exact ⟨r', (runIn_bind_ok hr).trans hr'⟩
  | error e => exact ⟨.error e, runIn_bind_error hr⟩

theorem looks_view (v : ViewRef) : (Act.view v).Looks := looks_get.bind fun _ => looks_found _

theorem looks_group (g : GroupRef) : (Act.group g).Looks := looks_get.bind fun _ => looks_found _

theorem looks_snapshot (r : SnapshotRef) : (Act.snapshot r).Looks :=
  looks_get.bind fun _ => looks_found _

end Act

namespace Command

/-- The command only looks. -/
def looks : Command → Bool
  | .selectedFigures _ | .forward _ | .backward _ | .owners _ | .graphRecord _ | .groupNodes _
  | .groupMembers _ | .blocks _ => true
  | _ => false

/-- The command asks the view for a change or only looks. -/
def keepsTo (v : ViewRef) (c : Command) : Bool := c.asks v || c.looks

theorem execute_looks {c : Command} (hc : c.looks = true) (R : Respond) : (c.execute R).Looks := by
  have hrefs (rs : List SnapshotRef) : (refs rs).Looks :=
    Act.looks_get.bind fun _ => Act.looks_pure _
  cases c with
  | selectedFigures v => exact (Act.looks_view v).bind fun _ => Act.looks_pure _
  | forward v => exact (Act.looks_view v).bind fun view => hrefs view.forward
  | backward v => exact (Act.looks_view v).bind fun view => hrefs view.backward
  | owners v => exact (Act.looks_view v).bind fun _ => Act.looks_pure _
  | graphRecord v =>
    refine Act.Looks.bind ((Act.looks_view v).bind fun _ => Act.looks_found _) fun graph => ?_
    exact (Act.looks_snapshot graph).bind fun _ => Act.looks_pure _
  | groupNodes g =>
    exact (Act.looks_group g).bind fun _ => Act.looks_get.bind fun _ => Act.looks_pure _
  | groupMembers g => exact (Act.looks_group g).bind fun group => hrefs group.members
  | blocks place =>
    refine Act.Looks.bind (Act.looks_get.bind fun _ => Act.looks_found _) fun s => ?_
    exact (Act.looks_snapshot s).bind fun _ => Act.looks_pure _
  | _ => cases hc

end Command

namespace World

/-- What listeners do where they can be called within calls of listeners up to a depth. -/
def respondWithin : Nat → Respond
  | 0 => fun _ w => some w
  | depth + 1 => callListener (performWithin depth)

theorem performWithin_eq (depth : Nat) (c : Command) (w : World) :
    performWithin depth c w = (c.execute (respondWithin depth)).runIn w := by
  cases depth <;> rfl

/-! ## Apart -/

/-- The signal is one of the view. -/
def ofView (v : ViewRef) : Signal → Bool
  | .view u _ => u == v
  | _ => false

/-- The listeners that hear of a view. -/
def hearers (w : World) (v : ViewRef) : List ListenerRef :=
  w.connections.filterMap fun c =>
    match c.slot with
    | .listener k => if ofView v c.signal then some k else none
    | .follow _ => none

theorem mem_hearers {w : World} {v : ViewRef} {c : Connection} {n : Notice} {k : ListenerRef}
    (hc : c ∈ w.connections) (hsignal : c.signal = .view v n) (hslot : c.slot = .listener k) :
    k ∈ w.hearers v := by
  refine List.mem_filterMap.2 ⟨c, hc, ?_⟩
  rw [hslot, hsignal]
  exact if_pos (beq_self_eq_true v)

/-- Snapshots are scheduled for the view by components, and the listeners that hear of it only ask
it for changes and look. -/
structure KeepsToItself (w : World) (v : ViewRef) : Prop where
  view : ∃ view, w.views[v]? = some view ∧ view.builder.scheduler = some .byComponent
  scripts : ∀ k ∈ w.hearers v, ∀ script, (w.listeners.map (·.script))[k]? = some script →
    ∀ c ∈ script, c.keepsTo v = true

/-- No listener connects two views. -/
structure Apart (w : World) (a b : ViewRef) : Prop where
  ne : a ≠ b
  first : w.KeepsToItself a
  second : w.KeepsToItself b
  listeners : ∀ k ∈ w.hearers a, k ∉ w.hearers b

theorem Apart.symm {w : World} {a b : ViewRef} (h : w.Apart a b) : w.Apart b a :=
  ⟨h.ne.symm, h.second, h.first, fun k hk hk' => h.listeners k hk' hk⟩

/-- A view is left as it is, with all that it shares with others except for snapshots that are
scheduled and new ones, and its listeners are not called. -/
structure Spares (v : ViewRef) (w w' : World) : Prop where
  rest : { w with
    snapshots := w'.snapshots
    views := w'.views
    listeners := w'.listeners
    diagramCount := w'.diagramCount
    trace := w'.trace } = w'
  snapshots : Settles w w'
  view : w'.views[v]? = w.views[v]?
  scripts : w'.listeners.map (·.script) = w.listeners.map (·.script)
  listeners : ∀ k ∈ w.hearers v, w'.listeners[k]? = w.listeners[k]?
  trace : ∃ es, w'.trace = w.trace ++ es ∧ ∀ e ∈ es, ¬ e.Regards v

variable {a b v : ViewRef} {w w' w'' : World}

theorem Spares.connections (h : Spares v w w') : w'.connections = w.connections :=
  (congrArg World.connections h.rest).symm

theorem Spares.hearers (h : Spares v w w') (u : ViewRef) : w'.hearers u = w.hearers u := by
  rw [World.hearers, h.connections, World.hearers]

theorem Spares.refl (w : World) : Spares v w w :=
  ⟨rfl, chains_settles.refl w, rfl, rfl, fun _ _ => rfl, [], (List.append_nil _).symm, by simp⟩

theorem Spares.trans (h : Spares v w w') (h' : Spares v w' w'') : Spares v w w'' where
  rest := by
    rw [← h'.rest, ← h.rest]
  snapshots := chains_settles.trans h.snapshots h'.snapshots
  view := h'.view.trans h.view
  scripts := h'.scripts.trans h.scripts
  listeners k hk := (h'.listeners k (h.hearers v ▸ hk)).trans (h.listeners k hk)
  trace := by
    obtain ⟨es, htrace, hes⟩ := h.trace
    obtain ⟨es', htrace', hes'⟩ := h'.trace
    refine ⟨es ++ es', by rw [htrace', htrace, List.append_assoc], fun e he => ?_⟩
    exact (List.mem_append.1 he).elim (hes e) (hes' e)

/-- A step that calls no listener and notes nothing. -/
theorem Spares.of_step (hrest : { w with
      snapshots := w'.snapshots
      views := w'.views
      diagramCount := w'.diagramCount } = w')
    (hsnapshots : Settles w w') (hview : w'.views[v]? = w.views[v]?) : Spares v w w' := by
  have hlisteners : w'.listeners = w.listeners := (congrArg World.listeners hrest).symm
  have htrace : w'.trace = w.trace := (congrArg World.trace hrest).symm
  refine ⟨?_, hsnapshots, hview, by rw [hlisteners], fun _ _ => by rw [hlisteners], [], ?_, by simp⟩
  · rw [hlisteners, htrace]
    exact hrest
  · rw [htrace, List.append_nil]

theorem spares_recordAll (w : World) {es : List Event} (hes : ∀ e ∈ es, ¬ e.Regards v) :
    Spares v w (w.recordAll es) :=
  ⟨rfl, .of_eq rfl, rfl, rfl, fun _ _ => rfl, es, rfl, hes⟩

/-! ## Steps that keep views apart -/

/-- Two views that are apart stay so, and the second one is spared. -/
def KeepsApart (a b : ViewRef) (w w' : World) : Prop := w.Apart a b → w'.Apart a b ∧ Spares b w w'

theorem chains_keepsApart : Act.Chains (KeepsApart a b) where
  refl w h := ⟨h, .refl w⟩
  trans h h' hapart := by
    obtain ⟨hapart', hspares⟩ := h hapart
    obtain ⟨hapart'', hspares'⟩ := h' hapart'
    exact ⟨hapart'', hspares.trans hspares'⟩

/-- The first view may be rewritten, with the same means to show it. -/
theorem keepsApart_of_spares (hspares : w.Apart a b → Spares b w w')
    (hview : ∀ view, w.views[a]? = some view →
      ∃ view', w'.views[a]? = some view' ∧ view'.builder = view.builder) : KeepsApart a b w w' := by
  intro h
  have hspares := hspares h
  obtain ⟨view, hfound, hscheduler⟩ := h.first.view
  obtain ⟨view', hfound', hbuilder⟩ := hview view hfound
  refine ⟨⟨h.ne, ⟨⟨view', hfound', by rw [hbuilder, hscheduler]⟩, ?_⟩, ⟨?_, ?_⟩, ?_⟩, hspares⟩
  · rw [hspares.hearers, hspares.scripts]
    exact h.first.scripts
  · rw [hspares.view]
    exact h.second.view
  · rw [hspares.hearers, hspares.scripts]
    exact h.second.scripts
  · rw [hspares.hearers, hspares.hearers]
    exact h.listeners

/-- A step that rewrites no view. -/
theorem keepsApart_of_views (hspares : w.Apart a b → Spares b w w') (hviews : w'.views = w.views) :
    KeepsApart a b w w' :=
  keepsApart_of_spares hspares fun view h => ⟨view, hviews ▸ h, rfl⟩

theorem keepsApart_recordAll (w : World) {es : List Event} (hes : ∀ e ∈ es, ¬ e.Regards b) :
    KeepsApart a b w (w.recordAll es) :=
  keepsApart_of_views (fun _ => spares_recordAll w hes) rfl

theorem keepsApart_record (w : World) {e : Event} (he : ¬ e.Regards b) :
    KeepsApart a b w (w.record e) := by
  have hes : ∀ e' ∈ [e], ¬ e'.Regards b := by simpa using he
  exact keepsApart_recordAll w hes

/-- An event that concerns the first view does not concern the second one. -/
theorem keepsApart_recordOwn (w : World) {e : Event} (he : a ≠ b → ¬ e.Regards b) :
    KeepsApart a b w (w.record e) :=
  fun h => keepsApart_record w (he h.ne) h

theorem keepsApart_modifyView (w : World) {f : View → View}
    (hf : ∀ view, (f view).builder = view.builder) : KeepsApart a b w (w.modifyView a f) :=
  keepsApart_of_spares
    (fun h => .of_step rfl (.of_eq rfl) (views_modifyView_of_ne w h.ne.symm f))
    fun view h => ⟨f view, views_modifyView_self h f, hf view⟩

theorem derives_keepsApart : Derives (KeepsApart a b) where
  chains := chains_keepsApart
  note w _ he := keepsApart_record w (he.not_regards b)
  archive w _ _ _ _ _ _ :=
    keepsApart_of_views (fun _ => .of_step rfl (settles_archive w _) rfl) rfl

end World

namespace View

open World

variable {a b : ViewRef} {announcing : Announce}

theorem ensureBlocks_keepsApart {builder : Builder}
    (hb : builder.scheduler = some .byComponent) (r : SnapshotRef) :
    (builder.ensureBlocks r).Within (KeepsApart a b) := by
  intro w
  cases hs : w.snapshots[r]? with
  | none =>
    unfold Builder.ensureBlocks
    rw [Act.ends_bind]
    refine Act.ends_snapshot (fun s hs' => ?_) fun _ => chains_keepsApart.refl w
    cases hs.symm.trans hs'
  | some s =>
    obtain ⟨es, hes, hrun⟩ := Builder.runIn_ensureBlocks_byComponent hb hs
    refine (Act.ends_of_ok hrun).2 (chains_keepsApart.trans ?_ (keepsApart_recordAll _ ?_))
    · exact keepsApart_of_views (fun _ => .of_step rfl (settles_settleAt r w) rfl) rfl
    · exact fun e he => (hes e he).1.not_regards b

theorem draw_keepsApart (graph : SnapshotRef) : (draw a graph).Within (KeepsApart a b) := by
  intro w
  unfold draw
  rw [Act.ends_bind]
  refine Act.ends_view (fun view hview => ?_) fun _ => chains_keepsApart.refl w
  by_cases hb : view.builder.scheduler = some .byComponent
  · refine Act.Within.bind chains_keepsApart (Builder.rebuild_within chains_keepsApart
      (fun w e he _ => keepsApart_record w (he.not_regards b)) (fun w n => ?_)
      (ensureBlocks_keepsApart hb graph)) (fun diagram => ?_) w
    · exact keepsApart_of_views (fun _ => .of_step rfl (.of_eq rfl) rfl) rfl
    · exact Act.within_modify fun w => keepsApart_modifyView w fun _ => rfl
  · -- The views are not apart, as snapshots are not scheduled by components for the first one.
    have hvacuous (w' : World) : KeepsApart a b w w' := by
      intro h
      obtain ⟨view', hview', hb'⟩ := h.first.view
      cases hview.symm.trans hview'
      exact absurd hb' hb
    exact ⟨fun _ w' _ => hvacuous w', fun _ w' _ => hvacuous w'⟩

section

variable (ha : ∀ n w w', announcing a n w = some w' → KeepsApart a b w w')

include ha

theorem announce_keepsApart (n : Notice) : (announce announcing a n).Within (KeepsApart a b) :=
  Act.within_yield fun w w' h => ha n w w' h

theorem performs_keepsApart :
    Performs announcing a (KeepsApart a b) fun _ => KeepsApart a b where
  chains := chains_keepsApart
  write w f hf _ := keepsApart_modifyView w fun view => (hf view).builder
  logged w _ := keepsApart_record w id
  announce n w w' _ h := ha n w w' h
  shows w _ first second _ _ _ _ := by
    have hc := chains_keepsApart (a := a) (b := b)
    unfold showEnds
    refine Act.Within.bind hc (Act.within_view hc a) (fun view => ?_) w
    refine Act.Within.bind hc (Act.within_modify fun w => keepsApart_record w id) fun _ => ?_
    refine (derives_keepsApart.currentGraph _ _ _).bind hc fun graph => ?_
    refine Act.Within.bind hc (Act.within_modify fun w => keepsApart_modifyView w fun _ => rfl)
      fun _ => ?_
    refine (draw_keepsApart graph).bind hc fun _ => ?_
    exact (announce_keepsApart ha _).bind hc fun _ => announce_keepsApart ha _
  stops _ w _ := chains_keepsApart.refl w
  unresolved _ w _ _ _ := chains_keepsApart.refl w
  fails _ _ _ _ h h' := chains_keepsApart.trans h h'

theorem perform_keepsApart (m : Mutation) : (perform announcing a m).Within (KeepsApart a b) := by
  by_cases hm : m = .filterChainChanged
  · exact hm ▸ filterChainChanged_within chains_keepsApart draw_keepsApart
      (announce_keepsApart ha _)
  · exact (performs_keepsApart ha).perform hm

/-- The changes of a view keep it apart from others if what it announces does. -/
theorem serves_keepsApart : Serves announcing a (KeepsApart a b) where
  chains := chains_keepsApart
  carryOut m := carryOut_within chains_keepsApart (fun w _ => keepsApart_recordOwn w id)
    (fun w _ _ _ => keepsApart_recordOwn w id) (perform_keepsApart ha m)
  dropped w _ := keepsApart_recordOwn w id
  dispatch w f hf := keepsApart_modifyView w fun view => by rw [hf view]

end

end View

namespace World

variable {a b : ViewRef} {w w' : World} {R : Respond}

/-- What a view announces keeps it apart from others if those that hear of it do. -/
theorem announceView_keepsApart
    (hR : ∀ k w w', k ∈ w.hearers a → R k w = some w' → KeepsApart a b w w') (n : Notice)
    (h : announceView R a n w = some w') : KeepsApart a b w w' := by
  have hannounced : KeepsApart a b w (w.announced a n) := by
    have hnoted : KeepsApart a b w (w.noteReading a n) :=
      noteReading_within chains_keepsApart (fun u _ => keepsApart_recordOwn u id) w
    exact chains_keepsApart.trans hnoted (keepsApart_recordOwn _ id)
  refine fun hapart => ?_
  obtain ⟨hapart', hspares⟩ := hannounced hapart
  rw [announceView_eq] at h
  -- The listeners are called as they were connected at first, which does not change.
  have hheard : w.connections = (w.announced a n).connections →
      KeepsApart a b (w.announced a n) w' := by
    refine foldlM_within (T := fun x x' => w.connections = x.connections → KeepsApart a b x x')
      ⟨fun x _ => chains_keepsApart.refl x, fun h h' hx hapart => ?_⟩
      (fun c hc x x' hx hsame => ?_) h
    · obtain ⟨hapart', hspares⟩ := h hx hapart
      obtain ⟨hapart'', hspares'⟩ := h' (hx.trans hspares.connections.symm) hapart'
      exact ⟨hapart'', hspares.trans hspares'⟩
    · obtain ⟨hc, hsignal⟩ := List.mem_filter.1 hc
      unfold deliver at hx
      split at hx
      · cases hslot : c.slot with
        | listener k =>
          rw [hslot] at hx
          exact hR k x x' (mem_hearers (hsame ▸ hc) (beq_iff_eq.1 hsignal) hslot) hx
        | follow u =>
          rw [hslot] at hx
          cases hx
          exact chains_keepsApart.refl x
      · cases hx
        exact chains_keepsApart.refl x
  obtain ⟨hapart'', hspares'⟩ := hheard hspares.connections.symm hapart'
  exact ⟨hapart'', hspares.trans hspares'⟩

/-- A command that keeps to a view keeps it apart from others, if those that hear of it do. -/
theorem execute_keepsApart
    (hR : ∀ k w w', k ∈ w.hearers a → R k w = some w' → KeepsApart a b w w') {c : Command}
    (hc : c.keepsTo a = true) : (c.execute R).Within (KeepsApart a b) := by
  have hchains := chains_keepsApart (a := a) (b := b)
  obtain hasks | hlooks := Bool.or_eq_true_iff.1 hc
  · have hmutate (m : Mutation) : (View.mutate (announceView R) a m).Within (KeepsApart a b) :=
      (View.serves_keepsApart fun n w w' h => announceView_keepsApart hR n h).mutate
        (fun w _ => keepsApart_record w id) (fun w _ => keepsApart_recordOwn w id) m
    rw [Command.execute_asks hasks R]
    refine Act.Within.bind hchains (fun w => ?_) fun m => ?_
    · exact (c.same_requested w).mono (fun _ _ h => h ▸ hchains.refl w)
        fun _ _ h => h ▸ hchains.refl w
    · exact (hmutate m).bind hchains fun _ => Act.within_pure hchains _
  · intro w
    obtain ⟨r, hr⟩ := Command.execute_looks hlooks R w
    cases r with
    | ok x => exact (Act.ends_of_ok hr).2 (hchains.refl w)
    | error e => exact (Act.ends_of_error hr).2 (hchains.refl w)

/-- A listener that hears of a view keeps it apart from others, if its commands do. -/
theorem callListener_keepsApart
    {perform : Command → World → Option (Except Failure Reply × World)}
    (hperform : ∀ c, c.keepsTo a = true → ∀ w r w', perform c w = some (r, w') →
      KeepsApart a b w w') {k : ListenerRef} (hk : k ∈ w.hearers a)
    (h : callListener perform k w = some w') : KeepsApart a b w w' := by
  intro hapart
  unfold callListener at h
  split at h
  · cases h
    exact chains_keepsApart.refl w hapart
  rename_i l hl
  split at h
  · cases h
    exact chains_keepsApart.refl w hapart
  rename_i n _
  have hscript : ∀ c ∈ l.script, c.keepsTo a = true :=
    hapart.first.scripts k hk l.script (by rw [List.getElem?_map, hl]; rfl)
  have hcalled : KeepsApart a b w
      { w with listeners := w.listeners.set k { l with remaining := n } } := by
    refine keepsApart_of_views (fun hapart => ⟨rfl, .of_eq rfl, rfl, scripts_set hl n,
      fun i hi => ?_, [], (List.append_nil _).symm, by simp⟩) rfl
    refine List.getElem?_set_ne fun heq => ?_
    exact hapart.listeners k hk (heq ▸ hi)
  refine chains_keepsApart.trans hcalled (foldlM_within chains_keepsApart
    (fun c hc x x' hx => ?_) h) hapart
  obtain ⟨⟨r, x₁⟩, hx₁, rfl⟩ := Option.map_eq_some_iff.1 hx
  exact chains_keepsApart.trans (hperform c (hscript c hc) x r x₁ hx₁) (keepsApart_record x₁ id)

theorem performWithin_keepsApart (depth : Nat) {c : Command} (hc : c.keepsTo a = true)
    {r : Except Failure Reply} (h : performWithin depth c w = some (r, w')) :
    KeepsApart a b w w' := by
  induction depth generalizing c w w' r with
  | zero =>
    refine (execute_keepsApart (fun k w w' _ hw => ?_) hc).of_runIn h
    cases hw
    exact chains_keepsApart.refl w
  | succ depth ih =>
    exact (execute_keepsApart (fun k w w' hk hw =>
      callListener_keepsApart (fun c hc w r w' => ih hc) hk hw) hc).of_runIn h

/-- Views that are apart stay so when one of them is called, and the other one is spared. -/
theorem Apart.perform (h : w.Apart a b) {c : Command} (hc : c.asks a = true)
    {r : Except Failure Reply} (hrun : w.perform c = some (r, w')) :
    w'.Apart a b ∧ Spares b w w' :=
  performWithin_keepsApart _ (Bool.or_eq_true_iff.2 (.inl hc)) hrun h

end World

end SnapshotViewer
