import SnapshotViewer.Proofs.Run.WellFormed

/-!
# Relations about one view

To show that a run stays within a relation that is about one view, it is enough to consider what can
concern the view: that a change of it arrives, that it is opened (`World.Concerns v T` lists these),
and that a group changes. All else is done `Elsewhere`. Main statement: `World.Concerns.reaches`.
-/

namespace SnapshotViewer

/-- The event concerns a view: it is one of the view, or of what all views share of filters. -/
def Event.Regards (v : ViewRef) : Event → Prop
  | .opened u _ | .closed u | .announced u _ _ | .deferred u _ | .dropped u _ | .begun u _
  | .failed u _ _ _ | .signalled (.view u _) => u = v
  | .signalled (.chain _) | .ruled _ => True
  | _ => False

theorem Event.IsNote.not_regards {e : Event} (he : e.IsNote) (v : ViewRef) : ¬ e.Regards v := by
  cases e <;> simp_all [Event.IsNote, Event.Regards]

namespace World

/-- Snapshots keep their blocks, unless the blocks of one were removed. -/
def BlocksKept (es : List Event) (w w' : World) : Prop :=
  ∀ (r : SnapshotRef) (s : Snapshot), w.snapshots[r]? = some s → s.blocks.isEmpty = false →
    Event.unblocked r ∉ es → ∃ s', w'.snapshots[r]? = some s' ∧ s'.blocks = s.blocks

/-- Something is done that does not concern a view. -/
structure Elsewhere (v : ViewRef) (es : List Event) (w w' : World) : Prop where
  trace : w'.trace = w.trace ++ es
  snapshots : SnapshotsKept es w w'
  blocks : BlocksKept es w w'
  silent : ∀ e ∈ es, ¬ e.Regards v
  groups : w'.groups = w.groups
  chains : w'.chains = w.chains
  filters : w'.filters = w.filters
  view : w'.views[v]? = w.views[v]?
  follows : ∀ c : Connection, c.slot = .follow v → (c ∈ w'.connections ↔ c ∈ w.connections)

/-- Something is done that neither changes groups nor a view, unless that it is closed. -/
structure Aside (v : ViewRef) (es : List Event) (w w' : World) : Prop where
  trace : w'.trace = w.trace ++ es
  snapshots : SnapshotsKept es w w'
  quiet : failures v es = []
  groups : w'.groups = w.groups
  view : w'.views[v]? = w.views[v]? ∨ ∃ view, w.views[v]? = some view ∧
    w'.views[v]? = some { view with closed := true, pending := [] }
  follows : ∀ c ∈ w.connections, c.slot = .follow v →
    (∀ view', w'.views[v]? = some view' → view'.closed = false) → c ∈ w'.connections

/-- The members of a group change, and with them at most the groups of snapshots. -/
structure Regroups (g : GroupRef) (w w' : World) : Prop where
  trace : w'.trace = w.trace
  snapshots : SnapshotsKept [] w w'
  blocks : BlocksKept [] w w'
  size : w'.groups.length = w.groups.length
  groups : ∀ g', g' ≠ g → w'.groups[g']? = w.groups[g']?
  chains : w'.chains = w.chains
  filters : w'.filters = w.filters
  views : w'.views = w.views
  connections : w'.connections = w.connections

theorem BlocksKept.of_eq {es : List Event} {w w' : World} (h : w'.snapshots = w.snapshots) :
    BlocksKept es w w' :=
  fun _ s hs _ _ => ⟨s, h ▸ hs, rfl⟩

/-- A snapshot that is replaced by another state of it keeps its blocks if it has any. -/
theorem BlocksKept.modify {es : List Event} {w w' : World} {r : SnapshotRef}
    {f : Snapshot → Snapshot} (h : w'.snapshots = w.snapshots.modify r f)
    (hf : ∀ s, w.snapshots[r]? = some s → s.blocks.isEmpty = false → Event.unblocked r ∉ es →
      (f s).blocks = s.blocks) : BlocksKept es w w' := by
  intro q s hs hblocks hes
  by_cases hq : r = q
  · subst hq
    exact ⟨f s, by simp [h, hs], hf s hs hblocks hes⟩
  · exact ⟨s, by simp [h, hs, hq], rfl⟩

theorem BlocksKept.archive {es : List Event} (w : World) (s : Snapshot) :
    BlocksKept es w (w.archive s) := by
  intro r t ht _ _
  refine ⟨t, ?_, rfl⟩
  rw [World.archive, List.getElem?_append_left (List.getElem?_eq_some_iff.1 ht).1, ht]

theorem BlocksKept.trans {es es' : List Event} {w w' w'' : World} (h : BlocksKept es w w')
    (h' : BlocksKept es' w' w'') : BlocksKept (es ++ es') w w'' := by
  intro r s hs hblocks hes
  rw [List.mem_append, not_or] at hes
  obtain ⟨s', hs', heq⟩ := h r s hs hblocks hes.1
  obtain ⟨s'', hs'', heq'⟩ := h' r s' hs' (heq ▸ hblocks) hes.2
  exact ⟨s'', hs'', heq'.trans heq⟩

theorem groups_modifyGroup_of_ne (w : World) {g g' : GroupRef} (h : g' ≠ g) (f : Group → Group) :
    (w.modifyGroup g f).groups[g']? = w.groups[g']? := by
  unfold modifyGroup
  rw [List.getElem?_modify]
  cases w.groups[g']? with
  | none => rfl
  | some group => simp [Ne.symm h]

theorem regroups_join (w : World) (s : SnapshotRef) (g : GroupRef) :
    Regroups g w
      ((w.modifySnapshot s fun snapshot => { snapshot with group := some g }).modifyGroup g
        fun group => { group with members := group.members ++ [s] }) where
  trace := rfl
  snapshots := .modify rfl fun _ => ⟨rfl, rfl, fun _ => ⟨rfl, rfl⟩⟩
  blocks := .modify rfl fun _ _ _ _ => rfl
  size := List.length_modify ..
  groups _ h := groups_modifyGroup_of_ne (w.modifySnapshot s _) h _
  chains := rfl
  filters := rfl
  views := rfl
  connections := rfl

theorem regroups_leave (w : World) (members : List SnapshotRef → List SnapshotRef) (g : GroupRef) :
    Regroups g w
      (w.modifyGroup g fun group => { group with members := members group.members }) where
  trace := rfl
  snapshots := .of_eq rfl
  blocks := .of_eq rfl
  size := List.length_modify ..
  groups _ h := groups_modifyGroup_of_ne w h _
  chains := rfl
  filters := rfl
  views := rfl
  connections := rfl

/-- Calls of listeners are framed, keep the world sound and stay within a relation. -/
def CallsWithin (R : Respond) (T : World → World → Prop) : Prop :=
  ∀ k u u', R k u = some u' → Framed none u u' ∧ (Sound u → Sound u') ∧ T u u'

/-- What there is to show of a relation about a view so that all stays within it that is not done to
what views share. -/
structure Concerns (v : ViewRef) (T : World → World → Prop) : Prop where
  chains : Act.Chains T
  elsewhere : ∀ es w w', Elsewhere v es w w' → T w w'
  mutate : ∀ R, CallsWithin R T → ∀ m, (View.mutate (announceView R) v m).Within T
  opened : ∀ s c q scheduler counted hide r w w', w.views.length = v →
    (View.openOn s c q scheduler counted hide).runIn w = some (r, w') → T w w'
  closed : ∀ w view, w.views[v]? = some view → view.closed = false →
    T w ((View.shut v w).announced v .windowChanged)

/-- What there is to show in addition so that runs stay within the relation: what is done to a
group, a filter chain or a filter. -/
structure Shares (T : World → World → Prop) : Prop where
  regrouped : ∀ R, CallsWithin R T → ∀ g w w₁ w', Regroups g w w₁ →
    announceShared R (.group g) w₁ = some w' → T w w'
  rechained : ∀ R, CallsWithin R T → ∀ c filters w w',
    announceShared R (.chain c) (w.setChain c filters) = some w' → T w w'
  notified : ∀ R, CallsWithin R T → ∀ c w w', announceShared R (.chain c) w = some w' → T w w'
  ruled : ∀ w f filter, T w ({ w with filters := w.filters.set f filter }.record (.ruled f))

variable {v : ViewRef} {T : World → World → Prop} {R : Respond}

/-- Nothing but the trace, the connections and snapshots change. -/
theorem Elsewhere.of_views {es : List Event} {w w' : World} (htrace : w'.trace = w.trace ++ es)
    (hsnapshots : SnapshotsKept es w w') (hblocks : BlocksKept es w w')
    (hes : ∀ e ∈ es, ¬ e.Regards v) (hgroups : w'.groups = w.groups)
    (hchains : w'.chains = w.chains) (hfilters : w'.filters = w.filters)
    (hviews : w'.views[v]? = w.views[v]?)
    (hconnections : ∀ c : Connection, c.slot = .follow v →
      (c ∈ w'.connections ↔ c ∈ w.connections)) : Elsewhere v es w w' :=
  ⟨htrace, hsnapshots, hblocks, hes, hgroups, hchains, hfilters, hviews, hconnections⟩

theorem failures_of_silent {es : List Event} (h : ∀ e ∈ es, ¬ e.Regards v) :
    failures v es = [] := by
  refine List.filterMap_eq_nil_iff.2 fun e he => ?_
  have := h e he
  cases e <;> simp_all [Event.Regards]

theorem Elsewhere.aside {es : List Event} {w w' : World} (h : Elsewhere v es w w') :
    Aside v es w w' :=
  ⟨h.trace, h.snapshots, failures_of_silent h.silent, h.groups, .inl h.view,
    fun c hc hv _ => (h.follows c hv).2 hc⟩

/-- What views share may change, as long as groups do not. -/
theorem aside_of_views {es : List Event} {w w' : World} (htrace : w'.trace = w.trace ++ es)
    (hsnapshots : w'.snapshots = w.snapshots) (hes : failures v es = [])
    (hgroups : w'.groups = w.groups) (hviews : w'.views = w.views)
    (hconnections : w'.connections = w.connections) : Aside v es w w' :=
  ⟨htrace, .of_eq hsnapshots, hes, hgroups, .inl (by rw [hviews]),
    fun _ hc _ _ => hconnections ▸ hc⟩

/-- A view is closed and announces it. -/
theorem aside_shut {w : World} {view : View} (hview : w.views[v]? = some view) :
    ∃ es, Aside v es w ((View.shut v w).announced v .windowChanged) := by
  have hself : (View.shut v w).views[v]? = some { view with closed := true, pending := [] } :=
    views_modifyView_self (w := w.disconnect _) hview _
  rw [announced_of_found hself]
  refine ⟨.closed v :: [.announced v .windowChanged _, .signalled (.view v .windowChanged)],
    List.append_assoc .., .of_eq rfl, rfl, rfl, .inr ⟨view, hview, hself⟩, fun c hc hv hopen => ?_⟩
  cases hopen _ hself

theorem Elsewhere.refl (w : World) : Elsewhere v [] w w :=
  .of_views (List.append_nil _).symm (.of_eq rfl) (.of_eq rfl) (by simp) rfl rfl rfl rfl
    fun _ _ => .rfl

theorem Elsewhere.trans {es es' : List Event} {w w' w'' : World} (h : Elsewhere v es w w')
    (h' : Elsewhere v es' w' w'') : Elsewhere v (es ++ es') w w'' where
  trace := by rw [h'.trace, h.trace, List.append_assoc]
  snapshots := h.snapshots.trans h'.snapshots
  blocks := h.blocks.trans h'.blocks
  silent e he := (List.mem_append.1 he).elim (h.silent e) (h'.silent e)
  groups := h'.groups.trans h.groups
  chains := h'.chains.trans h.chains
  filters := h'.filters.trans h.filters
  view := h'.view.trans h.view
  follows c hv := (h'.follows c hv).trans (h.follows c hv)

/-- A slot that is not one of the view is disconnected. -/
theorem mem_disconnect (w : World) {slot : Slot} (hslot : slot ≠ .follow v) {c : Connection}
    (hc : c.slot = .follow v) : c ∈ (w.disconnect slot).connections ↔ c ∈ w.connections :=
  List.mem_filter.trans ⟨And.left, fun h => ⟨h, by simpa [hc] using Ne.symm hslot⟩⟩

/-- Nothing is done but what resolving graphs and building diagrams takes. -/
def Rendered (v : ViewRef) (w w' : World) : Prop :=
  ∃ es, (∀ e ∈ es, e.IsNote) ∧ Elsewhere v es w w'

/-- Resolving graphs and building diagrams does not concern a view. -/
theorem renders_rendered : Renders (Rendered v) := by
  have same {es : List Event} {w w' : World} (hes : ∀ e ∈ es, e.IsNote)
      (htrace : w'.trace = w.trace ++ es) (hsnapshots : SnapshotsKept es w w')
      (hblocks : BlocksKept es w w') (hgroups : w'.groups = w.groups)
      (hchains : w'.chains = w.chains) (hfilters : w'.filters = w.filters)
      (hviews : w'.views = w.views) (hconnections : w'.connections = w.connections) :
      Rendered v w w' := by
    exact ⟨es, hes, .of_views htrace hsnapshots hblocks (fun e he => (hes e he).not_regards v)
      hgroups hchains hfilters (by rw [hviews]) fun _ _ => by rw [hconnections]⟩
  constructor
  case chains =>
    refine ⟨fun w => ⟨[], by simp, .refl w⟩, fun h h' => ?_⟩
    obtain ⟨es, hes, h⟩ := h
    obtain ⟨es', hes', h'⟩ := h'
    exact ⟨es ++ es', fun e he => (List.mem_append.1 he).elim (hes e) (hes' e), h.trans h'⟩
  case note =>
    intro w e he
    exact same (by simpa using he) rfl (.of_eq rfl) (.of_eq rfl) rfl rfl rfl rfl rfl
  case assign =>
    intro w r s blocks log hs hblocks
    have htrace : (Builder.assignBlocks w r blocks log).trace = w.trace ++ log.map .logged := rfl
    refine same (fun e he => ?_) htrace (.assignBlocks w r blocks log)
      (.modify (List.modify_modify_eq ..) fun t ht hne => ?_) rfl rfl rfl rfl rfl
    · obtain ⟨x, -, rfl⟩ := List.mem_map.1 he
      exact trivial
    · cases hs.symm.trans ht
      rw [hblocks] at hne
      cases hne
  case archive =>
    intro w first second s t _ _
    exact same (by simp) (List.append_nil _).symm (.archive rfl rfl) (.archive w _) rfl rfl rfl rfl
      rfl
  case count =>
    intro w n
    exact same (by simp) (List.append_nil _).symm (.of_eq rfl) (.of_eq rfl) rfl rfl rfl rfl rfl

namespace Concerns

variable (hT : Concerns v T)

include hT

/-- An event that does not concern the view. -/
theorem record (w : World) {e : Event} (he : ¬ e.Regards v) : T w (w.record e) :=
  hT.elsewhere [e] w _ (.of_views rfl (.of_eq rfl) (.of_eq rfl) (by simpa using he) rfl rfl rfl rfl
    fun _ _ => .rfl)

/-- A step that writes neither views, groups, filters nor connections. -/
theorem stored {es : List Event} {w w' : World} (htrace : w'.trace = w.trace ++ es)
    (hsnapshots : SnapshotsKept es w w') (hblocks : BlocksKept es w w')
    (hes : ∀ e ∈ es, ¬ e.Regards v) (hgroups : w'.groups = w.groups)
    (hchains : w'.chains = w.chains) (hfilters : w'.filters = w.filters)
    (hviews : w'.views = w.views) (hconnections : w'.connections = w.connections) : T w w' :=
  hT.elsewhere es w w' (.of_views htrace hsnapshots hblocks hes hgroups hchains hfilters
    (by rw [hviews]) fun _ _ => by rw [hconnections])

/-- Another view is written to. -/
theorem modifyOther (w : World) {u : ViewRef} (hu : u ≠ v) (f : View → View) :
    T w (w.modifyView u f) :=
  hT.elsewhere [] w _ (.of_views (List.append_nil _).symm (.of_eq rfl) (.of_eq rfl) (by simp) rfl
    rfl rfl (views_modifyView_of_ne w hu.symm f) fun _ _ => .rfl)

theorem renders : Renders T :=
  (renders_rendered (v := v)).mono hT.chains fun w w' ⟨es, _, h⟩ => hT.elsewhere es w w' h

theorem announceView (hR : CallsWithin R T) {u : ViewRef} (hu : u ≠ v) (n : Notice) (w w' : World)
    (h : announceView R u n w = some w') : T w w' :=
  announceView_within hT.chains (fun k u u' hu => (hR k u u' hu).2.2)
    (fun x _ => hT.record x hu) (fun x => hT.record x hu) h

/-- The changes of another view. -/
theorem carries {a : View.Announce} {u : ViewRef} (hu : u ≠ v)
    (ha : ∀ n w w', a u n w = some w' → T w w') : View.Carries a u T where
  chains := hT.chains
  steps _ _ h := h.within hT.renders (fun w f _ => hT.modifyOther w hu f) ha
  begun w _ := hT.record w hu
  failed w _ _ _ := hT.record w hu
  dropped w _ := hT.record w hu
  dispatch w f _ := hT.modifyOther w hu f

theorem mutateAny (hR : CallsWithin R T) (u : ViewRef) (m : Mutation) :
    (View.mutate (World.announceView R) u m).Within T := by
  by_cases hu : u = v
  · subst hu
    exact hT.mutate R hR m
  · exact (hT.carries hu (hT.announceView hR hu)).mutate (fun w _ => hT.record w id)
      (fun w _ => hT.record w hu) m

theorem follow (hR : CallsWithin R T) {signal : Signal} {u : ViewRef} {w w' : World}
    (h : w.follow R signal u = some w') : T w w' :=
  follow_ends ((hT.mutateAny hR u _ w).mono (fun _ _ h => h)
    fun _ x h => hT.chains.trans h (hT.record x id)) h

/-- Whoever is called for a signal. -/
theorem call (hR : CallsWithin R T) (signal : Signal) (slot : Slot) (w w' : World)
    (h : (match slot with
      | .listener k => R k w
      | .follow v => w.follow R signal v) = some w') : T w w' := by
  cases slot with
  | listener k => exact (hR k w w' h).2.2
  | follow u => exact hT.follow hR h

/-- Whoever is connected to a signal is called once it is noted. -/
theorem delivered (hR : CallsWithin R T) {signal : Signal} {w w' : World}
    (h : World.announceShared R signal w = some w') : T (w.record (.signalled signal)) w' :=
  foldlM_within hT.chains (fun _ _ _ _ hx => deliver_within hT.chains
    (fun slot u u' hu => hT.call hR signal slot u u' hu) hx) h

theorem announceShared (hR : CallsWithin R T) {signal : Signal} {w w' : World}
    (hsignal : T w (w.record (.signalled signal))) (h : World.announceShared R signal w = some w') :
    T w w' := hT.chains.trans hsignal (hT.delivered hR h)

/-- A signal reaches an open view that is connected to it, unless the view is closed before its
turn. -/
theorem reached (hR : CallsWithin R T) {signal : Signal} {view : View} {d : Connection}
    {w w' : World} (hview : w.views[v]? = some view) (hd : d ∈ w.connections)
    (hsignal : d.signal = signal) (hslot : d.slot = .follow v)
    (h : World.announceShared R signal w = some w') :
    ∃ u u', T (w.record (.signalled signal)) u ∧ T u u' ∧ T u' w' ∧
      (u.follow R signal v = some u' ∨ ∀ x, u.views[v]? = some x → x.closed = true) := by
  have hmem : d ∈ w.connections.filter fun d => d.signal == signal :=
    List.mem_filter.2 ⟨hd, by simp [hsignal]⟩
  obtain ⟨l, l', hl⟩ := List.append_of_mem hmem
  unfold World.announceShared emit at h
  rw [hl, List.foldlM_append] at h
  obtain ⟨u, hu, h⟩ := Option.bind_eq_some_iff.1 h
  rw [List.foldlM_cons] at h
  obtain ⟨u', hu', h⟩ := Option.bind_eq_some_iff.1 h
  -- The slots before the one of the view, the slot of the view, and those behind it.
  have hdeliver (c : Connection) (x x' : World) (hx : _ = some x') : T x x' :=
    deliver_within hT.chains (fun slot y y' hy => hT.call hR signal slot y y' hy) (c := c) hx
  have hframed : Framed none w u := by
    refine (framed_signalled w _).trans (foldlM_within chains_framed (fun _ _ _ _ hx =>
      deliver_within chains_framed (fun slot x x' hx => ?_) hx) hu)
    exact call_framed (fun k x x' hx => (hR k x x' hx).1) slot x x' hx
  refine ⟨u, u', foldlM_within hT.chains (fun c _ x x' hx => hdeliver c x x' hx) hu,
    hdeliver d u u' hu', foldlM_within hT.chains (fun c _ x x' hx => hdeliver c x x' hx) h, ?_⟩
  by_cases hclosed : ∀ x, u.views[v]? = some x → x.closed = true
  · exact .inr hclosed
  · -- The view is still open, so that its connection has not been removed.
    obtain ⟨x, hx⟩ := Classical.not_forall.1 hclosed
    obtain ⟨hx, hopen⟩ := Classical.not_imp.1 hx
    have hconnected := (hframed.follows hview hx (by simpa using hopen)).2 d hd hslot
    unfold deliver at hu'
    rw [if_pos (List.any_eq_true.2 ⟨d, hconnected, by simp⟩), hslot] at hu'
    exact .inl hu'

theorem announceGroup (hR : CallsWithin R T) {g : GroupRef} {w w' : World}
    (h : World.announceShared R (.group g) w = some w') : T w w' :=
  hT.announceShared hR (hT.record w id) h

/-- A slot that is not one of the view is connected. -/
theorem connect (w : World) (signal : Signal) {slot : Slot} (hslot : slot ≠ .follow v) :
    T w (w.connect signal slot) := by
  refine hT.elsewhere [] w _ (.of_views (List.append_nil _).symm (.of_eq rfl) (.of_eq rfl) (by simp)
    rfl rfl rfl rfl fun c hc => ?_)
  refine List.mem_append.trans ⟨fun h => h.elim id fun h => ?_, .inl⟩
  cases List.mem_singleton.1 h
  exact absurd hc hslot

/-- Another view is opened. -/
theorem buildOther {w : World} (hw : w.views.length ≠ v) (s : SnapshotRef) (builder : Builder)
    (counted : Bool) (hide : Value) : (View.build s builder counted hide).Ends w
      (fun u w' => u = w.views.length ∧ T w w') fun _ w' => T w w' := by
  have hviews (u : World) (views : List View) (h : views[v]? = u.views[v]?) :
      T u { u with views } :=
    hT.elsewhere [] u _ (.of_views (List.append_nil _).symm (.of_eq rfl) (.of_eq rfl) (by simp)
      rfl rfl rfl h fun _ _ => .rfl)
  have hopened (view : View) : T w { w with views := w.views ++ [view] } := by
    refine hviews w _ ?_
    rcases Nat.lt_or_gt_of_ne hw with hlt | hgt
    · have hend : (w.views ++ [view]).length ≤ v := by
        rw [List.length_append]
        exact hlt
      rw [List.getElem?_eq_none hend, List.getElem?_eq_none (Nat.le_of_lt hlt)]
    · rw [List.getElem?_append_left hgt]
  have hsteps {u u' : World} (h : View.Steps (fun _ _ w => some w) w.views.length u u') :
      T u u' := by
    refine (hT.carries hw fun _ x x' hx => ?_).steps u u' h
    cases hx
    exact hT.chains.refl x
  refine View.ends_build (hT.chains.refl w) (fun _ _ _ => hT.chains.refl w) fun _ _ _ _ =>
    (View.steps_showFirst s _).mono (fun _ w' h => ?_) fun e w' h => ?_
  · exact ⟨rfl, hT.chains.trans (hT.chains.trans (hopened _) (hsteps h)) (hT.modifyOther w' hw _)⟩
  · refine hT.chains.trans (hT.chains.trans (hT.chains.trans (hopened _) (hsteps h))
      (hviews w' _ ?_)) (hT.record _ id)
    rcases Nat.lt_or_gt_of_ne hw with hlt | hgt
    · have hlength := h.silent.2
      rw [View.withUnopened, List.length_append] at hlength
      have hend : w'.views.length ≤ v := hlength ▸ hlt
      rw [List.getElem?_eq_none hend, List.getElem?_eq_none]
      exact Nat.le_trans (List.length_take_le _ _) (Nat.le_of_lt hlt)
    · exact List.getElem?_take_of_lt hgt

theorem openAny {s : SnapshotRef} {c q : ChainRef} {scheduler : Option Scheduler} {counted : Bool}
    {hide : Value} {r : Except Failure ViewRef} {w w' : World}
    (h : (View.openOn s c q scheduler counted hide).runIn w = some (r, w')) : T w w' := by
  by_cases hw : w.views.length = v
  · exact hT.opened s c q scheduler counted hide r w w' hw h
  · have hends : (View.openOn s c q scheduler counted hide).Ends w (fun _ w' => T w w')
        fun _ w' => T w w' := by
      unfold View.openOn
      rw [Act.ends_bind, Act.ends_get]
      refine (hT.buildOther hw s _ counted _).bind fun u w₁ h₁ => ?_
      obtain ⟨rfl, h₁⟩ := h₁
      rw [Act.ends_bind]
      refine Act.ends_view (fun view _ => ?_) fun _ => h₁
      rw [Act.ends_bind, Act.ends_modify, Act.ends_pure]
      have hopened := hT.record w₁ (e := .opened w.views.length (w₁.reading view)) hw
      refine hT.chains.trans h₁ (hT.chains.trans hopened ?_)
      have hslot : Slot.follow w.views.length ≠ .follow v := by simpa using hw
      exact hT.chains.trans (hT.chains.trans (hT.connect _ _ hslot) (hT.connect _ _ hslot))
        (hT.connect _ _ hslot)
    cases r with
    | ok x => exact hends.1 x w' h
    | error e => exact hends.2 e w' h

theorem closeAny (hR : CallsWithin R T) (u : ViewRef) :
    (View.close (World.announceView R) u).Within T := by
  intro w
  unfold View.close
  rw [Act.ends_bind]
  refine Act.ends_view (fun view hview => ?_) fun _ => hT.chains.refl w
  split
  · rename_i hopen
    rw [Act.ends_bind, Act.ends_modify]
    refine Act.ends_yield.2 fun w' h => ?_
    by_cases hu : u = v
    · subst hu
      exact hT.chains.trans (hT.closed w view hview (by simpa using hopen))
        (heard_within hT.chains (fun k x x' hx => (hR k x x' hx).2.2) h)
    · refine hT.chains.trans ?_ (hT.announceView hR hu _ _ _ h)
      refine hT.elsewhere [.closed u] w _ ?_
      refine .of_views rfl (.of_eq rfl) (.of_eq rfl) (by simpa [Event.Regards] using hu) rfl rfl
        rfl ?_ fun c hc => mem_disconnect w (by simpa using hu) hc
      exact views_modifyView_of_ne (w.disconnect _) (Ne.symm hu) _
  · exact Act.ends_pure.2 (hT.chains.refl w)

/-- Every effect of a command stays within the relation. -/
theorem effect (hS : Shares T) (hR : CallsWithin R T) {w w' : World}
    (h : Command.Effect R w w') : T w w' := by
  have same {w w' : World} {es : List Event} (htrace : w'.trace = w.trace ++ es)
      (hes : ∀ e ∈ es, ¬ e.Regards v) (hsnapshots : w'.snapshots = w.snapshots)
      (hgroups : w'.groups = w.groups) (hchains : w'.chains = w.chains)
      (hfilters : w'.filters = w.filters) (hviews : w'.views = w.views)
      (hconnections : w'.connections = w.connections) : T w w' :=
    hT.stored htrace (.of_eq hsnapshots) (.of_eq hsnapshots) hes hgroups hchains hfilters hviews
      hconnections
  cases h with
  | nothing => exact hT.chains.refl w
  | keep => exact same (List.append_nil _).symm (by simp) rfl rfl rfl rfl rfl rfl
  | compare =>
    exact hT.stored (List.append_nil _).symm (.archive rfl rfl) (.archive w _) (by simp) rfl rfl rfl
      rfl rfl
  | edit r f hf =>
    have hkept : SnapshotsKept [.edited r] w ((w.modifySnapshot r f).record (.edited r)) := by
      refine .modify rfl fun s => ?_
      rw [hf s]
      exact ⟨rfl, rfl, fun h => absurd List.mem_cons_self (h r)⟩
    refine hT.stored rfl hkept (.modify rfl fun s _ _ _ => ?_) (by simp [Event.Regards]) rfl rfl rfl
      rfl rfl
    rw [hf s]
  | clearBlocks r =>
    refine hT.stored rfl (.modify rfl fun _ => ⟨rfl, rfl, fun _ => ⟨rfl, rfl⟩⟩)
      (.modify rfl fun s _ _ hes => ?_) (by simp [Event.Regards]) rfl rfl rfl rfl rfl
    exact absurd List.mem_cons_self hes
  | addRule f name rules => exact hS.ruled w f _
  | listen signal l =>
    have hadded : T w { w with listeners := w.listeners ++ [l] } :=
      same (List.append_nil _).symm (by simp) rfl rfl rfl rfl rfl rfl
    exact hT.chains.trans hadded (hT.connect _ _ (by simp))
  | unlisten k =>
    refine hT.elsewhere [] w _ (.of_views (List.append_nil _).symm (.of_eq rfl) (.of_eq rfl)
      (by simp) rfl rfl rfl rfl fun c hc => mem_disconnect w (by simp) hc)
  | change h => exact (hT.mutateAny hR _ _).of_runIn h
  | openView h => exact hT.openAny h
  | closeView h => exact (hT.closeAny hR _).of_runIn h
  | join _ h => exact hS.regrouped R hR _ w _ w' (regroups_join _ _ _) h
  | leave _ h => exact hS.regrouped R hR _ w _ w' (regroups_leave _ _ _) h
  | rechain h => exact hS.rechained R hR _ _ w w' h
  | notify h => exact hS.notified R hR _ w w' h

/-- A run stays within a relation about one view. -/
theorem reaches (hS : Shares T) {w w' : World} (h : Reaches w w') : T w w' := by
  have hchains : Act.Chains fun w w' => Framed none w w' ∧ (Sound w → Sound w') ∧ T w w' :=
    ⟨fun w => ⟨chains_framed.refl w, id, hT.chains.refl w⟩, fun h h' =>
      ⟨h.1.trans h'.1, fun hw => h'.2.1 (h.2.1 hw), hT.chains.trans h.2.2 h'.2.2⟩⟩
  refine (h.within hchains (fun w listeners => ?_) (fun w k c outcome views => ?_)
    fun R hR w w' h => ?_).2.2
  · have hreaches := Reaches.called w listeners
    exact ⟨hreaches.framed, hreaches.sound, hT.stored (List.append_nil _).symm (.of_eq rfl)
      (.of_eq rfl) (by simp) rfl rfl rfl rfl rfl⟩
  · have hreaches := Reaches.noted w k c outcome views
    exact ⟨hreaches.framed, hreaches.sound, hT.record w id⟩
  · exact ⟨effect_framed (fun k u u' hu => (hR k u u' hu).1) h,
      effect_sound (fun k u u' hu => (hR k u u' hu).2.1) h, hT.effect hS hR h⟩

/-- Listeners that do nothing but carry out commands are called within a relation. -/
theorem calls (hS : Shares T) (hR : Listening R) : CallsWithin R T := fun k u u' hu =>
  ⟨(hR k u u' hu).framed, (hR k u u' hu).sound, hT.reaches hS (hR k u u' hu)⟩

end Concerns

end World

end SnapshotViewer
