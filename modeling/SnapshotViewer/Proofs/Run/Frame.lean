import SnapshotViewer.Proofs.Run.Reachability
import SnapshotViewer.Proofs.View.Steps

/-!
# What a run leaves as it is

`World.Frame own es w w'` says what holds of two worlds when the events `es` lie between them. The
trace has grown by them, snapshots keep their names and origins, and their nodes and properties
unless one was edited, and a view that is open still follows what it has followed. A view that a
change is under way of is left alone: others only make changes wait for it, or close it. `own` is a
view that this does not hold of, because the change itself is between the worlds.

The modules behind this one show it of the steps of a change (`View.Steps.frame`) and of runs
(`World.Reaches.framed`).
-/

namespace SnapshotViewer

/-! ## Events of a view -/

/-- The event says when a change of a view was carried out or had to wait. -/
def Event.IsDispatch : Event → Prop
  | .deferred .. | .begun .. | .failed .. => True
  | _ => False

/-- The changes of a view that came to wait. -/
def deferrals (v : ViewRef) (es : List Event) : List Mutation :=
  es.filterMap fun
    | .deferred u m => if u = v then some m else none
    | _ => none

/-- The changes of a view that were carried out. -/
def beginnings (v : ViewRef) (es : List Event) : List Mutation :=
  es.filterMap fun
    | .begun u m => if u = v then some m else none
    | _ => none

/-- The changes of a view that failed, and whether they failed partway. -/
def failures (v : ViewRef) (es : List Event) : List (Mutation × Bool) :=
  es.filterMap fun
    | .failed u m _ partway => if u = v then some (m, partway) else none
    | _ => none

@[simp] theorem deferrals_append (v : ViewRef) (es es' : List Event) :
    deferrals v (es ++ es') = deferrals v es ++ deferrals v es' := List.filterMap_append

@[simp] theorem beginnings_append (v : ViewRef) (es es' : List Event) :
    beginnings v (es ++ es') = beginnings v es ++ beginnings v es' := List.filterMap_append

@[simp] theorem failures_append (v : ViewRef) (es es' : List Event) :
    failures v (es ++ es') = failures v es ++ failures v es' := List.filterMap_append

theorem deferrals_of_quiet {v : ViewRef} {es : List Event} (h : ∀ e ∈ es, ¬ e.IsDispatch) :
    deferrals v es = [] := by
  refine List.filterMap_eq_nil_iff.2 fun e he => ?_
  have := h e he
  cases e <;> simp_all [Event.IsDispatch]

theorem beginnings_of_quiet {v : ViewRef} {es : List Event} (h : ∀ e ∈ es, ¬ e.IsDispatch) :
    beginnings v es = [] := by
  refine List.filterMap_eq_nil_iff.2 fun e he => ?_
  have := h e he
  cases e <;> simp_all [Event.IsDispatch]

theorem failures_of_quiet {v : ViewRef} {es : List Event} (h : ∀ e ∈ es, ¬ e.IsDispatch) :
    failures v es = [] := by
  refine List.filterMap_eq_nil_iff.2 fun e he => ?_
  have := h e he
  cases e <;> simp_all [Event.IsDispatch]

/-- Dropping changes is not among what is said of a queue. -/
theorem not_isDispatch_of_dropped {v : ViewRef} {ms : List Mutation} :
    ∀ e ∈ ms.map (Event.dropped v), ¬ e.IsDispatch := by
  intro e he
  obtain ⟨m, -, rfl⟩ := List.mem_map.1 he
  exact id

theorem Event.IsNote.not_isDispatch {e : Event} (h : e.IsNote) : ¬ e.IsDispatch := by
  cases e <;> simp_all [Event.IsNote, Event.IsDispatch]

/-! ## Lookups -/

namespace World

theorem views_modifyView (w : World) (v u : ViewRef) (f : View → View) :
    (w.modifyView v f).views[u]? = if v = u then w.views[u]?.map f else w.views[u]? := by
  unfold modifyView
  rw [List.getElem?_modify]
  split <;> cases w.views[u]? <;> rfl

theorem views_modifyView_self {w : World} {v : ViewRef} {view : View}
    (h : w.views[v]? = some view) (f : View → View) :
    (w.modifyView v f).views[v]? = some (f view) := by
  rw [views_modifyView, if_pos rfl, h]
  rfl

theorem views_modifyView_of_ne (w : World) {v u : ViewRef} (h : u ≠ v) (f : View → View) :
    (w.modifyView v f).views[u]? = w.views[u]? := by
  rw [views_modifyView, if_neg h.symm]

/-! ## Frames -/

/-- No snapshot was edited in place. -/
def Unedited (es : List Event) : Prop := ∀ r, Event.edited r ∉ es

instance (es : List Event) : Decidable (Unedited es) :=
  decidable_of_iff (∀ e ∈ es, (match e with | .edited _ => false | _ => true) = true)
    ⟨fun h r hr => Bool.false_ne_true (h _ hr), fun h e he => by
      cases e with
      | edited r => exact absurd he (h r)
      | _ => rfl⟩

/-- Two states of a snapshot. The nodes and properties are the same if it is `still`. -/
structure KeptAs (still : Prop) (s s' : Snapshot) : Prop where
  name : s'.name = s.name
  origin : s'.origin = s.origin
  content : still → s'.nodes = s.nodes ∧ s'.properties = s.properties

/-- Snapshots are kept, and those that are new are no duplicates. -/
structure KeptIn (still : Prop) (l l' : List Snapshot) : Prop where
  kept : ∀ (r : SnapshotRef) (s : Snapshot), l[r]? = some s → ∃ s', l'[r]? = some s' ∧
    KeptAs still s s'
  fresh : still → ∀ (r : SnapshotRef) (s' : Snapshot), l[r]? = none → l'[r]? = some s' →
    s'.isDuplicate = false

/-- Snapshots are kept as they are unless some were edited. -/
def SnapshotsKept (es : List Event) (w w' : World) : Prop :=
  KeptIn (Unedited es) w.snapshots w'.snapshots

/-- Two states of a view with the same group and the same means to show it. -/
structure SameOwners (view view' : View) : Prop where
  group : view'.group = view.group
  builder : view'.builder = view.builder
  counted : view'.counted = view.counted
  closed : view.closed = true → view'.closed = true

/-- What others do to a view: if a change of it is under way, they only make changes wait for it, or
close it. -/
structure LeftAlone (v : ViewRef) (es : List Event) (view view' : View) : Prop where
  busy : view'.busy = view.busy
  idle : view.busy = false → view.pending = [] → view'.pending = []
  waits : view.busy = true → view'.closed = false →
    view'.pending = view.pending ++ deferrals v es
  quiet : view.busy = true → beginnings v es = [] ∧ failures v es = []
  rest : view.busy = true → view' = { view with closed := view'.closed, pending := view'.pending }

/-- What holds of two worlds with the events `es` between them, apart from a view `own`. -/
structure Frame (own : Option ViewRef) (es : List Event) (w w' : World) : Prop where
  trace : w'.trace = w.trace ++ es
  snapshots : SnapshotsKept es w w'
  groups : w'.groups.length = w.groups.length
  views : ∀ v view, w.views[v]? = some view → ∃ view', w'.views[v]? = some view' ∧
    SameOwners view view' ∧ (own ≠ some v → LeftAlone v es view view')
  fresh : ∀ v view', own ≠ some v → w.views[v]? = none → w'.views[v]? = some view' →
    view'.busy = false ∧ view'.pending = []
  follows : ∀ c ∈ w.connections, ∀ v, c.slot = .follow v →
    (∀ view', w'.views[v]? = some view' → view'.closed = false) → c ∈ w'.connections

theorem Unedited.left {es es' : List Event} (h : Unedited (es ++ es')) : Unedited es :=
  fun r hr => h r (List.mem_append_left _ hr)

theorem Unedited.right {es es' : List Event} (h : Unedited (es ++ es')) : Unedited es' :=
  fun r hr => h r (List.mem_append_right _ hr)

theorem KeptAs.refl {still : Prop} (s : Snapshot) : KeptAs still s s :=
  ⟨rfl, rfl, fun _ => ⟨rfl, rfl⟩⟩

theorem KeptAs.isDuplicate {still : Prop} {s s' : Snapshot} (h : KeptAs still s s') (hs : still) :
    s'.isDuplicate = s.isDuplicate := by
  unfold Snapshot.isDuplicate
  rw [(h.content hs).2]

theorem SnapshotsKept.of_eq {es : List Event} {w w' : World} (h : w'.snapshots = w.snapshots) :
    SnapshotsKept es w w' where
  kept _ s hs := ⟨s, h ▸ hs, .refl s⟩
  fresh _ r s' hnone hsome := by
    rw [h, hnone] at hsome
    cases hsome

theorem SnapshotsKept.trans {es es' : List Event} {w w' w'' : World} (h : SnapshotsKept es w w')
    (h' : SnapshotsKept es' w' w'') : SnapshotsKept (es ++ es') w w'' where
  kept r s hs := by
    obtain ⟨s', hs', hkept⟩ := h.kept r s hs
    obtain ⟨s'', hs'', hkept'⟩ := h'.kept r s' hs'
    refine ⟨s'', hs'', hkept'.name.trans hkept.name, hkept'.origin.trans hkept.origin,
      fun hes => ?_⟩
    obtain ⟨hnodes, hproperties⟩ := hkept.content hes.left
    obtain ⟨hnodes', hproperties'⟩ := hkept'.content hes.right
    exact ⟨hnodes'.trans hnodes, hproperties'.trans hproperties⟩
  fresh hes r s'' hnone hsome := by
    cases hmid : w'.snapshots[r]? with
    | none => exact h'.fresh hes.right r s'' hmid hsome
    | some s' =>
      obtain ⟨t, ht, hkept⟩ := h'.kept r s' hmid
      cases hsome.symm.trans ht
      exact (hkept.isDuplicate hes.right).trans (h.fresh hes.left r s' hnone hmid)

/-- A snapshot that is replaced by another state of it. -/
theorem SnapshotsKept.modify {es : List Event} {w w' : World} {r : SnapshotRef}
    {f : Snapshot → Snapshot} (h : w'.snapshots = w.snapshots.modify r f)
    (hf : ∀ s, KeptAs (Unedited es) s (f s)) : SnapshotsKept es w w' where
  kept q s hs := by
    by_cases hq : r = q
    · exact ⟨f s, by simp [h, hs, hq], hf s⟩
    · exact ⟨s, by simp [h, hs, hq], .refl s⟩
  fresh _ q s' hnone hsome := by
    rw [h, List.getElem?_modify, hnone] at hsome
    cases hsome

theorem SnapshotsKept.assignBlocks {es : List Event} (w : World) (r : SnapshotRef)
    (blocks : OrderedMap String Block) (log : List Log.Record) :
    SnapshotsKept es w (Builder.assignBlocks w r blocks log) := by
  refine .modify (List.modify_modify_eq ..) fun s => ?_
  rw [Function.comp_apply, collectStrays_eq]
  exact ⟨rfl, rfl, fun _ => ⟨rfl, rfl⟩⟩

theorem SnapshotsKept.archive {es : List Event} {w w' : World} {s : Snapshot}
    (h : w'.snapshots = w.snapshots ++ [s]) (hs : s.isDuplicate = false) :
    SnapshotsKept es w w' where
  kept r t ht := by
    refine ⟨t, ?_, .refl t⟩
    rw [h, List.getElem?_append_left (List.getElem?_eq_some_iff.1 ht).1, ht]
  fresh _ r s' hnone hsome := by
    rw [h, List.getElem?_append_right (List.getElem?_eq_none_iff.1 hnone)] at hsome
    rw [List.mem_singleton.1 (List.mem_of_getElem? hsome), hs]

theorem SameOwners.refl (view : View) : SameOwners view view := ⟨rfl, rfl, rfl, id⟩

theorem SameOwners.trans {view view' view'' : View} (h : SameOwners view view')
    (h' : SameOwners view' view'') : SameOwners view view'' :=
  ⟨h'.group.trans h.group, h'.builder.trans h.builder, h'.counted.trans h.counted,
    fun hc => h'.closed (h.closed hc)⟩

/-- A view that is open was open before. -/
theorem SameOwners.isOpen {view view' : View} (h : SameOwners view view')
    (hopen : view'.closed = false) : view.closed = false := by
  cases hclosed : view.closed with
  | false => rfl
  | true => exact absurd (h.closed hclosed) (by simp [hopen])

/-- A view that nothing has happened to. -/
theorem LeftAlone.refl {v : ViewRef} {es : List Event} (view : View) (hd : deferrals v es = [])
    (hb : beginnings v es = []) (hf : failures v es = []) : LeftAlone v es view view where
  busy := rfl
  idle _ h := h
  waits _ _ := by rw [hd, List.append_nil]
  quiet _ := ⟨hb, hf⟩
  rest _ := rfl

theorem LeftAlone.trans {v : ViewRef} {es es' : List Event} {view view' view'' : View}
    (h : LeftAlone v es view view') (h' : LeftAlone v es' view' view'')
    (hclosed : view'.closed = true → view''.closed = true) :
    LeftAlone v (es ++ es') view view'' where
  busy := h'.busy.trans h.busy
  idle hi hp := h'.idle (h.busy.trans hi) (h.idle hi hp)
  waits hb hopen := by
    have hopen' : view'.closed = false := by
      cases hc : view'.closed with
      | false => rfl
      | true => rw [hclosed hc] at hopen; cases hopen
    rw [h'.waits (h.busy.trans hb) hopen, h.waits hb hopen', deferrals_append, List.append_assoc]
  quiet hb := by
    obtain ⟨h₁, h₂⟩ := h.quiet hb
    obtain ⟨h₃, h₄⟩ := h'.quiet (h.busy.trans hb)
    simp [h₁, h₂, h₃, h₄]
  rest hb := by
    have hsecond := h'.rest (h.busy.trans hb)
    have hfirst := h.rest hb
    rw [hfirst] at hsecond
    exact hsecond

/-- A step that leaves all views as they are. -/
theorem Frame.of_views {own : Option ViewRef} {es : List Event} {w w' : World}
    (hviews : w'.views = w.views) (htrace : w'.trace = w.trace ++ es)
    (hes : ∀ e ∈ es, ¬ e.IsDispatch) (hsnapshots : SnapshotsKept es w w')
    (hgroups : w'.groups.length = w.groups.length)
    (hfollows : ∀ c ∈ w.connections, ∀ v, c.slot = .follow v → c ∈ w'.connections) :
    Frame own es w w' where
  trace := htrace
  snapshots := hsnapshots
  groups := hgroups
  views v view hview :=
    ⟨view, by rw [hviews, hview], .refl view, fun _ => .refl view (deferrals_of_quiet hes)
      (beginnings_of_quiet hes) (failures_of_quiet hes)⟩
  fresh v view' _ hnone hsome := by
    rw [hviews, hnone] at hsome
    cases hsome
  follows c hc v hv _ := hfollows c hc v hv

theorem Frame.refl {own : Option ViewRef} (w : World) : Frame own [] w w :=
  .of_views rfl (by simp) (by simp) (.of_eq rfl) rfl fun _ hc _ _ => hc

theorem Frame.trans {own : Option ViewRef} {es es' : List Event} {w w' w'' : World}
    (h : Frame own es w w') (h' : Frame own es' w' w'') : Frame own (es ++ es') w w'' where
  trace := by rw [h'.trace, h.trace, List.append_assoc]
  snapshots := h.snapshots.trans h'.snapshots
  groups := h'.groups.trans h.groups
  views v view hview := by
    obtain ⟨view', hview', howners, hleft⟩ := h.views v view hview
    obtain ⟨view'', hview'', howners', hleft'⟩ := h'.views v view' hview'
    exact ⟨view'', hview'', howners.trans howners',
      fun hv => (hleft hv).trans (hleft' hv) howners'.closed⟩
  fresh v view'' hv hnone hsome := by
    cases hmid : w'.views[v]? with
    | none => exact h'.fresh v view'' hv hmid hsome
    | some view' =>
      obtain ⟨hbusy, hpending⟩ := h.fresh v view' hv hnone hmid
      obtain ⟨u, hu, -, hleft⟩ := h'.views v view' hmid
      cases hsome.symm.trans hu
      exact ⟨(hleft hv).busy.trans hbusy, (hleft hv).idle hbusy hpending⟩
  follows c hc v hv hopen := by
    refine h'.follows c (h.follows c hc v hv fun view' hview' => ?_) v hv hopen
    obtain ⟨view'', hview'', howners, -⟩ := h'.views v view' hview'
    exact howners.isOpen (hopen view'' hview'')

/-- What holds of all views holds apart from one. -/
theorem Frame.weaken {own : Option ViewRef} {es : List Event} {w w' : World}
    (h : Frame none es w w') : Frame own es w w' where
  trace := h.trace
  snapshots := h.snapshots
  groups := h.groups
  views v view hview := by
    obtain ⟨view', hview', howners, hleft⟩ := h.views v view hview
    exact ⟨view', hview', howners, fun _ => hleft (by simp)⟩
  fresh v view' _ := h.fresh v view' (by simp)
  follows := h.follows

/-- Some events lie between two worlds. -/
def Framed (own : Option ViewRef) (w w' : World) : Prop := ∃ es, Frame own es w w'

theorem Framed.trans {own : Option ViewRef} {w w' w'' : World} (h : Framed own w w')
    (h' : Framed own w' w'') : Framed own w w'' := by
  obtain ⟨es, h⟩ := h
  obtain ⟨es', h'⟩ := h'
  exact ⟨es ++ es', h.trans h'⟩

theorem chains_framed {own : Option ViewRef} : Act.Chains (Framed own) :=
  ⟨fun w => ⟨[], .refl w⟩, Framed.trans⟩

/-- A view has the same owners, and one that is open still follows what it has followed. -/
theorem Framed.follows {own : Option ViewRef} {v : ViewRef} {view view' : View} {w w' : World}
    (h : Framed own w w') (hview : w.views[v]? = some view) (hview' : w'.views[v]? = some view')
    (hopen : view'.closed = false) : SameOwners view view' ∧
      ∀ c ∈ w.connections, c.slot = .follow v → c ∈ w'.connections := by
  obtain ⟨es, hframe⟩ := h
  obtain ⟨u, hu, howners, -⟩ := hframe.views v view hview
  cases hview'.symm.trans hu
  refine ⟨howners, fun c hc hslot => hframe.follows c hc v hslot fun x hx => ?_⟩
  cases hview'.symm.trans hx
  exact hopen

/-- The trace has grown. -/
def Grows (w w' : World) : Prop := ∃ es, w'.trace = w.trace ++ es

theorem chains_grows : Act.Chains Grows :=
  ⟨fun w => ⟨[], (List.append_nil _).symm⟩, fun ⟨es, h⟩ ⟨es', h'⟩ =>
    ⟨es ++ es', by rw [h', h, List.append_assoc]⟩⟩

theorem Framed.grows {own : Option ViewRef} {w w' : World} (h : Framed own w w') : Grows w w' := by
  obtain ⟨es, h⟩ := h
  exact ⟨es, h.trace⟩

/-- A view whose change was under way is left alone in the end if it is idle before and after. -/
theorem Framed.of_own {v : ViewRef} {w w' : World} (h : Framed (some v) w w')
    (hidle : ∀ view, w.views[v]? = some view → view.busy = false)
    (hsettled : ∀ view', w'.views[v]? = some view' → view'.busy = false ∧ view'.pending = []) :
    Framed none w w' := by
  obtain ⟨es, h⟩ := h
  refine ⟨es, h.trace, h.snapshots, h.groups, fun u view hview => ?_, fun u view' _ => ?_,
    h.follows⟩
  · obtain ⟨view', hview', howners, hleft⟩ := h.views u view hview
    refine ⟨view', hview', howners, fun _ => ?_⟩
    by_cases huv : u = v
    · subst huv
      have hi := hidle view hview
      obtain ⟨hb, hp⟩ := hsettled view' hview'
      exact ⟨hb.trans hi.symm, fun _ _ => hp, fun hc => absurd hc (by simp [hi]),
        fun hc => absurd hc (by simp [hi]), fun hc => absurd hc (by simp [hi])⟩
    · exact hleft fun heq => huv (by cases heq; rfl)
  · intro hnone hsome
    by_cases huv : u = v
    · subst huv
      exact hsettled view' hsome
    · exact h.fresh u view' (fun heq => huv (by cases heq; rfl)) hnone hsome

/-! ## Single steps -/

/-- A step that concerns one view only, whose change is under way. -/
theorem Frame.of_own {v : ViewRef} {es : List Event} {w w' : World}
    (htrace : w'.trace = w.trace ++ es)
    (hes : ∀ u ≠ v, deferrals u es = [] ∧ beginnings u es = [] ∧ failures u es = [])
    (hsnapshots : w'.snapshots = w.snapshots) (hgroups : w'.groups = w.groups)
    (hconnections : w'.connections = w.connections)
    (hothers : ∀ u ≠ v, w'.views[u]? = w.views[u]?)
    (hself : ∀ view, w.views[v]? = some view → ∃ view', w'.views[v]? = some view' ∧
      SameOwners view view') : Frame (some v) es w w' := by
  refine ⟨htrace, .of_eq hsnapshots, congrArg List.length hgroups, fun u view hview => ?_,
    fun u view' hu hnone hsome => ?_, fun c hc _ _ _ => hconnections ▸ hc⟩
  · by_cases huv : u = v
    · subst huv
      obtain ⟨view', hview', howners⟩ := hself view hview
      exact ⟨view', hview', howners, fun hne => absurd rfl hne⟩
    · obtain ⟨hd, hb, hf⟩ := hes u huv
      exact ⟨view, (hothers u huv).trans hview, .refl view, fun _ => .refl view hd hb hf⟩
  · rw [hothers u fun heq => hu (by rw [heq]), hnone] at hsome
    cases hsome

theorem framed_modifyView {v : ViewRef} (w : World) {f : View → View}
    (hf : ∀ view, w.views[v]? = some view → SameOwners view (f view)) :
    Framed (some v) w (w.modifyView v f) :=
  ⟨[], .of_own (by simp [modifyView]) (fun _ _ => ⟨rfl, rfl, rfl⟩) rfl rfl rfl
    (fun u hu => views_modifyView_of_ne w hu f)
    fun view hview => ⟨f view, views_modifyView_self hview f, hf view hview⟩⟩

/-- What is noted about the change of a view does not concern other views. -/
theorem framed_record_own {v : ViewRef} (w : World) {e : Event}
    (he : ∀ u ≠ v, deferrals u [e] = [] ∧ beginnings u [e] = [] ∧ failures u [e] = []) :
    Framed (some v) w (w.record e) :=
  ⟨[e], .of_own rfl he rfl rfl rfl (fun _ _ => rfl) fun view hview => ⟨view, hview, .refl view⟩⟩

theorem framed_record {own : Option ViewRef} (w : World) {e : Event} (he : ¬ e.IsDispatch) :
    Framed own w (w.record e) :=
  ⟨[e], .of_views rfl rfl (by simpa using he) (.of_eq rfl) rfl fun _ hc _ _ => hc⟩

/-- A snapshot gets other blocks or another group. -/
theorem framed_modifySnapshot {own : Option ViewRef} (w : World) (r : SnapshotRef)
    {f : Snapshot → Snapshot} (hf : ∀ s, KeptAs True s (f s)) :
    Framed own w (w.modifySnapshot r f) := by
  refine ⟨[], .of_views rfl (by simp [modifySnapshot]) (by simp) (.modify rfl fun s => ?_) rfl
    fun _ hc _ _ => hc⟩
  exact ⟨(hf s).name, (hf s).origin, fun _ => (hf s).content trivial⟩

theorem framed_archive {own : Option ViewRef} (w : World) {s : Snapshot}
    (hs : s.isDuplicate = false) : Framed own w (w.archive s) :=
  ⟨[], .of_views rfl (by simp [archive]) (by simp) (.archive rfl hs) rfl fun _ hc _ _ => hc⟩

/-- A change that has to wait is appended to those that wait already. -/
theorem framed_defer {w : World} {v : ViewRef} {view : View} (hview : w.views[v]? = some view)
    (hbusy : view.busy = true) (m : Mutation) :
    Framed none w ((w.record (.deferred v m)).modifyView v fun view =>
      { view with pending := view.pending ++ [m] }) := by
  refine ⟨[.deferred v m], rfl, .of_eq rfl, rfl, fun u before hu => ?_,
    fun u after _ hnone hsome => ?_, fun _ hc _ _ _ => hc⟩
  · by_cases huv : u = v
    · subst huv
      cases hview.symm.trans hu
      refine ⟨_, views_modifyView_self (w := w.record _) hu _, ⟨rfl, rfl, rfl, id⟩, fun _ => ?_⟩
      exact ⟨rfl, fun hidle => absurd hidle (by simp [hbusy]), fun _ _ => by simp [deferrals],
        fun _ => ⟨rfl, rfl⟩, fun _ => rfl⟩
    · refine ⟨before, (views_modifyView_of_ne _ huv _).trans hu, .refl before, fun _ => ?_⟩
      exact .refl before (by simp [deferrals, Ne.symm huv]) rfl rfl
  · by_cases huv : u = v
    · subst huv
      cases hview.symm.trans hnone
    · rw [views_modifyView_of_ne _ huv] at hsome
      cases hnone.symm.trans hsome

end World

end SnapshotViewer
