import SnapshotViewer.Proofs.Run.FramedRuns

/-!
# The changes that wait

While a change of a view is under way, others that arrive wait (`mutate_busy`). The outermost call
carries them out in the order of their arrival: what it has carried out is the first change and then
a first part of those that arrived (`Progress`). A part is left over only if the view was closed,
its group was empty, or a change failed. The last is a loss: what waits behind a change that fails
is forgotten.
-/

namespace SnapshotViewer.View

variable {R : Respond} {a : Announce} {v : ViewRef} {w : World} {view : View} {group : Group}
  {m : Mutation}

/-! ## Being carried out -/

/-- The changes that wait at first and those that arrive later, in order. -/
def arrivals (view : View) (v : ViewRef) (es : List Event) : List Mutation :=
  view.pending ++ deferrals v es

theorem arrivals_append (view : View) (v : ViewRef) (es es' : List Event) :
    arrivals view v (es ++ es') = arrivals view v es ++ deferrals v es' := by
  simp [arrivals]

/-- Of the changes that arrived since the world `w₀`, where the view was `view₀`, the first `k` were
taken, the rest waits unless the view is closed, and none has failed. -/
structure Progress (v : ViewRef) (w₀ : World) (view₀ : View) (es : List Event) (k : Nat)
    (w : World) (view : View) : Prop where
  trace : w.trace = w₀.trace ++ es
  found : w.views[v]? = some view
  busy : view.busy = true
  group : view.group = view₀.group
  groups : w.groups.length = w₀.groups.length
  bound : k ≤ (arrivals view₀ v es).length
  pending : view.closed = false → view.pending = (arrivals view₀ v es).drop k
  flawless : failures v es = []

variable {w₀ : World} {view₀ : View} {es es' : List Event} {k : Nat}

/-- What was taken is the same when more has arrived. -/
theorem take_arrivals (hk : k ≤ (arrivals view₀ v es).length) (es' : List Event) :
    (arrivals view₀ v (es ++ es')).take k = (arrivals view₀ v es).take k := by
  rw [arrivals_append, List.take_append_of_le_length hk]

/-- Steps of a change make changes wait, and take none. -/
theorem Progress.steps {w' : World} (h : Progress v w₀ view₀ es k w view)
    (h' : OwnFrame v es' w w') : ∃ view', Progress v w₀ view₀ (es ++ es') k w' view' ∧
      beginnings v (es ++ es') = beginnings v es := by
  obtain ⟨view', hview', hreceives⟩ := h'.2 view h.found h.busy
  obtain ⟨u, hu, howners, -⟩ := h'.1.views v view h.found
  cases hview'.symm.trans hu
  refine ⟨view', ⟨?_, hview', hreceives.busy, howners.group.trans h.group,
    h'.1.groups.trans h.groups, ?_, fun hopen => ?_, ?_⟩, ?_⟩
  · rw [h'.1.trace, h.trace, List.append_assoc]
  · rw [arrivals_append, List.length_append]
    have := h.bound
    omega
  · rw [hreceives.waits hopen, h.pending (howners.isOpen hopen), arrivals_append,
      List.drop_append_of_le_length h.bound]
  · rw [failures_append, h.flawless, hreceives.quiet.2, List.append_nil]
  · rw [beginnings_append, hreceives.quiet.1, List.append_nil]

/-- An event that is noted with the view as it was. -/
theorem Progress.record (h : Progress v w₀ view₀ es k w view) {e : Event}
    (hd : deferrals v [e] = []) (hf : failures v [e] = []) :
    Progress v w₀ view₀ (es ++ [e]) k (w.record e) view := by
  have harrivals : arrivals view₀ v (es ++ [e]) = arrivals view₀ v es := by
    rw [arrivals_append, hd, List.append_nil]
  refine ⟨?_, h.found, h.busy, h.group, h.groups, ?_, fun hopen => ?_, ?_⟩
  · rw [World.record, h.trace, List.append_assoc]
  · rw [harrivals]
    exact h.bound
  · rw [harrivals]
    exact h.pending hopen
  · rw [failures_append, h.flawless, hf, List.append_nil]

/-- A change of a view is carried out: it is noted as begun, its steps follow, and it is noted if it
has failed. -/
theorem carryOut_ends (ha : ∀ n w w', a v n w = some w' → World.Framed none w w') (x : Mutation)
    (w : World) : (carryOut a v x).Ends w
      (fun _ w' => ∃ es, OwnFrame v es (w.record (.begun v x)) w')
      fun e w' => w' = w ∧ w.views[v]? = none ∨ ∃ es u partway,
        OwnFrame v es (w.record (.begun v x)) u ∧ w' = u.record (.failed v x e partway) := by
  refine ends_carryOut (fun hnone => .inl ⟨rfl, hnone⟩) fun _ _ => ?_
  exact (steps_perform x _).mono (fun _ w' h => h.frame ha) fun e w' h =>
    .inr ((h.frame ha).imp fun es hes => ⟨w', _, hes, rfl⟩)

/-- The changes that were begun are `m` and the first `k` that arrived since `w₀`. -/
structure Served (v : ViewRef) (m : Mutation) (w₀ : World) (view₀ : View) (es : List Event)
    (k : Nat) (w : World) (view : View) : Prop where
  trace : w.trace = w₀.trace ++ es
  found : w.views[v]? = some view
  group : view.group = view₀.group
  groups : w.groups.length = w₀.groups.length
  bound : k ≤ (arrivals view₀ v es).length
  begun : beginnings v es = m :: (arrivals view₀ v es).take k

theorem Progress.served (h : Progress v w₀ view₀ es k w view)
    (hbegun : beginnings v es = m :: (arrivals view₀ v es).take k) :
    Served v m w₀ view₀ es k w view :=
  ⟨h.trace, h.found, h.group, h.groups, h.bound, hbegun⟩

/-- Events that say nothing of the queue are noted. -/
theorem Served.recordAll (h : Served v m w₀ view₀ es k w view) (hes' : ∀ e ∈ es', ¬ e.IsDispatch) :
    Served v m w₀ view₀ (es ++ es') k (w.recordAll es') view ∧
      arrivals view₀ v (es ++ es') = arrivals view₀ v es := by
  have harrivals : arrivals view₀ v (es ++ es') = arrivals view₀ v es := by
    rw [arrivals_append, deferrals_of_quiet hes', List.append_nil]
  refine ⟨⟨?_, h.found, h.group, h.groups, ?_, ?_⟩, harrivals⟩
  · rw [World.recordAll, h.trace, List.append_assoc]
  · rw [harrivals]
    exact h.bound
  · rw [beginnings_append, beginnings_of_quiet hes', List.append_nil, harrivals]
    exact h.begun

/-- The queue was left with changes in it only if the view takes none any more. -/
def Finished (v : ViewRef) (m : Mutation) (w₀ : World) (view₀ : View) (w : World) : Prop :=
  ∃ es k view, Served v m w₀ view₀ es k w view ∧ failures v es = [] ∧
    (k < (arrivals view₀ v es).length → view.closed = true ∨
      ∃ group, w.groups[view₀.group]? = some group ∧ group.members = [])

/-- The change that was begun last has failed, and no other. -/
def Broken (v : ViewRef) (m : Mutation) (w₀ : World) (view₀ : View) (w : World) : Prop :=
  ∃ es k view last partway, Served v m w₀ view₀ es k w view ∧
    (beginnings v es).getLast? = some last ∧ failures v es = [(last, partway)]

/-- The change that was begun last fails. -/
theorem Progress.broken {x : Mutation} (h : Progress v w₀ view₀ es k w view)
    (hbegun : beginnings v es = m :: (arrivals view₀ v es).take k)
    (hlast : (beginnings v es).getLast? = some x) (e : Failure) (partway : Bool) :
    Broken v m w₀ view₀ (w.record (.failed v x e partway)) := by
  have harrivals : arrivals view₀ v (es ++ [.failed v x e partway]) = arrivals view₀ v es := by
    rw [arrivals_append]
    exact List.append_nil _
  have hsame : beginnings v (es ++ [.failed v x e partway]) = beginnings v es := by
    rw [beginnings_append]
    exact List.append_nil _
  refine ⟨es ++ [.failed v x e partway], k, view, x, partway, ⟨?_, h.found, h.group, h.groups,
    ?_, ?_⟩, ?_, ?_⟩
  · rw [World.record, h.trace, List.append_assoc]
  · rw [harrivals]
    exact h.bound
  · rw [hsame, harrivals, hbegun]
  · rw [hsame, hlast]
  · rw [failures_append, h.flawless]
    simp [failures]

/-- The first change, or one that was taken, is carried out. -/
theorem carryOut_served (ha : ∀ n w w', a v n w = some w' → World.Framed none w w') {x : Mutation}
    (h : Progress v w₀ view₀ es k w view)
    (hbegun : beginnings v es ++ [x] = m :: (arrivals view₀ v es).take k) :
    (carryOut a v x).Ends w
      (fun _ w' => ∃ es' view', Progress v w₀ view₀ es' k w' view' ∧
        beginnings v es' = m :: (arrivals view₀ v es').take k)
      fun _ w' => Broken v m w₀ view₀ w' := by
  have hnoted := h.record (e := .begun v x) rfl rfl
  have hbegun' : beginnings v (es ++ [.begun v x]) = beginnings v es ++ [x] := by
    rw [beginnings_append]
    simp [beginnings]
  -- Steps of the change begin no other one, and what arrives meanwhile is behind what was taken.
  have hlater {es' : List Event} {u : World} (hes : OwnFrame v es' (w.record (.begun v x)) u) :
      ∃ es'' view', Progress v w₀ view₀ es'' k u view' ∧
        beginnings v es'' = m :: (arrivals view₀ v es'').take k ∧
        (beginnings v es'').getLast? = some x := by
    obtain ⟨view', hprogress, hsame⟩ := hnoted.steps hes
    refine ⟨es ++ [.begun v x] ++ es', view', hprogress, ?_, ?_⟩
    · rw [hsame, hbegun', hbegun, List.append_assoc, take_arrivals h.bound]
    · rw [hsame, hbegun', List.getLast?_concat]
  refine (carryOut_ends ha x w).mono (fun _ w' hw' => ?_) fun e w' hw' => ?_
  · obtain ⟨es', hes'⟩ := hw'
    obtain ⟨es'', view', hprogress, hsame, -⟩ := hlater hes'
    exact ⟨es'', view', hprogress, hsame⟩
  · obtain ⟨-, hnone⟩ | ⟨es', u, partway, hes', rfl⟩ := hw'
    · cases h.found.symm.trans hnone
    · obtain ⟨es'', view', hprogress, hsame, hlast⟩ := hlater hes'
      exact hprogress.broken hsame hlast e partway

/-- Taking the next change: either it is the next that has arrived, or the queue is finished. -/
theorem takeWaiting_ends (hgroup : view₀.group < w₀.groups.length)
    (h : Progress v w₀ view₀ es k w view)
    (hbegun : beginnings v es = m :: (arrivals view₀ v es).take k) :
    (takeWaiting v).Ends w
      (fun next w' => match next with
        | none => Finished v m w₀ view₀ w'
        | some x => ∃ view', Progress v w₀ view₀ es (k + 1) w' view' ∧
            beginnings v es ++ [x] = m :: (arrivals view₀ v es).take (k + 1))
      fun _ _ => False := by
  have hfound (x : View) (hx : w.views[v]? = some x) : x = view :=
    Option.some.inj (hx.symm.trans h.found)
  have hrest (rest : List Mutation) :=
    World.views_modifyView_self h.found fun view => { view with pending := rest }
  refine ends_takeWaiting (fun hnone => ?_) (fun x hx hpending => ?_) (fun x _ _ hx _ hnone => ?_)
    (fun x group y rest hx _ hgroup' hstop => ?_) fun x _ y rest hx hpending _ hopen _ => ?_
  · cases h.found.symm.trans hnone
  · obtain rfl := hfound x hx
    refine ⟨es, k, x, h.served hbegun, h.flawless, fun hlt => ?_⟩
    cases hclosed : x.closed with
    | true => exact .inl rfl
    | false =>
      have hdrop := h.pending hclosed
      rw [hpending] at hdrop
      exact absurd (List.drop_eq_nil_iff.1 hdrop.symm) (by omega)
  · obtain rfl := hfound x hx
    rw [h.group, List.getElem?_eq_none_iff, h.groups] at hnone
    exact absurd hgroup (Nat.not_lt.2 hnone)
  · obtain rfl := hfound x hx
    have hquiet := @not_isDispatch_of_dropped v (y :: rest)
    have hserved : Served v m w₀ view₀ es k (w.modifyView v fun view =>
        { view with pending := rest }) { x with pending := rest } :=
      ⟨h.trace, hrest rest, h.group, h.groups, h.bound, hbegun⟩
    refine ⟨_, k, _, (hserved.recordAll hquiet).1, ?_, fun _ => ?_⟩
    · rw [failures_append, h.flawless, failures_of_quiet hquiet, List.append_nil]
    · exact hstop.imp id fun hempty => ⟨group, h.group ▸ hgroup', hempty⟩
  · obtain rfl := hfound x hx
    have hdrop : (arrivals view₀ v es).drop k = y :: rest := (h.pending hopen).symm.trans hpending
    have hlt : k < (arrivals view₀ v es).length := by
      refine Nat.lt_of_not_le fun hle => ?_
      rw [List.drop_eq_nil_of_le hle] at hdrop
      cases hdrop
    rw [List.drop_eq_getElem_cons hlt] at hdrop
    injection hdrop with hy hleft
    refine ⟨_, ⟨h.trace, hrest rest, h.busy, h.group, h.groups, hlt, fun _ => hleft.symm,
      h.flawless⟩, ?_⟩
    rw [hbegun, List.take_succ_eq_append_getElem hlt, hy, List.cons_append]

/-- The outermost call of a view carries out its change, and then those that have arrived, until the
queue is finished or a change fails. -/
theorem runChange_served (ha : ∀ n w w', a v n w = some w' → World.Framed none w w')
    (hgroup : view₀.group < w₀.groups.length) (h : Progress v w₀ view₀ [] 0 w view) :
    (runChange a v m).Ends w (fun _ w' => Finished v m w₀ view₀ w')
      fun _ w' => Broken v m w₀ view₀ w' := by
  refine Act.Ends.bind (carryOut_served ha (x := m) (m := m) h rfl) fun _ w' hw' => ?_
  refine drain_ends
    (I := fun w => ∃ es k view, Progress v w₀ view₀ es k w view ∧
      beginnings v es = m :: (arrivals view₀ v es).take k)
    (J := fun x w => ∃ es k view, Progress v w₀ view₀ es k w view ∧
      beginnings v es ++ [x] = m :: (arrivals view₀ v es).take k)
    (fun u hu => ?_) (fun x u hu => ?_) ?_
  · obtain ⟨es, k, view, hprogress, hbegun⟩ := hu
    refine (takeWaiting_ends hgroup hprogress hbegun).mono (fun next u' hnext => ?_)
      fun _ _ hfalse => hfalse.elim
    cases next with
    | none => exact hnext
    | some x => exact ⟨es, k + 1, hnext⟩
  · obtain ⟨es, k, view, hprogress, hbegun⟩ := hu
    refine (carryOut_served ha hprogress hbegun).mono (fun _ u' hu' => ?_) fun _ _ hu' => hu'
    obtain ⟨es', view', hprogress', hbegun'⟩ := hu'
    exact ⟨es', k, view', hprogress', hbegun'⟩
  · obtain ⟨es', view', hprogress, hbegun⟩ := hw'
    exact ⟨es', 0, view', hprogress, hbegun⟩

/-- A change that arrives while another one of the view is under way waits behind those that wait
already. If none is under way, it is carried out, and then those that arrive meanwhile, in order and
each once. Changes are left over only if the view is closed or its group is empty when their turn
comes, or if the change before them has failed. -/
theorem served_in_order (hR : World.Listening R) (hview : w.views[v]? = some view)
    (hopen : view.closed = false) (hgroup : w.groups[view.group]? = some group)
    (hmembers : group.members ≠ []) (m : Mutation) :
    (view.busy = true → ∃ r, (mutate (World.announceView R) v m).runIn w = some (.ok (),
      ((w.record (.logged r)).record (.deferred v m)).modifyView v fun view =>
        { view with pending := view.pending ++ [m] })) ∧
    (view.busy = false → ∀ r w', (mutate (World.announceView R) v m).runIn w = some (r, w') →
      ∃ es k view', Served v m w view es k w' view' ∧
        view'.busy = false ∧ view'.pending = [] ∧
        match r with
        | .ok _ => failures v es = [] ∧ (k < (arrivals view v es).length → view'.closed = true ∨
            ∃ group', w'.groups[view.group]? = some group' ∧ group'.members = [])
        | .error _ => ∃ last partway, (beginnings v es).getLast? = some last ∧
            failures v es = [(last, partway)]) := by
  refine ⟨fun hbusy => mutate_busy hview hopen hgroup hmembers hbusy, fun hidle r w' hrun => ?_⟩
  rw [mutate_idle hview hopen hgroup hmembers hidle] at hrun
  obtain ⟨⟨outcome, u⟩, hu, hsettled⟩ := Option.map_eq_some_iff.1 hrun
  cases hsettled
  have hstart : Progress v w view [] 0
      (w.modifyView v fun view => { view with busy := true }) { view with busy := true } :=
    ⟨(List.append_nil _).symm, World.views_modifyView_self hview _, rfl, rfl, rfl, Nat.zero_le _,
      fun _ => by simp [arrivals, deferrals], rfl⟩
  have hends := runChange_served (m := m) (hR.announceView_framed v)
    (List.getElem?_eq_some_iff.1 hgroup).1 hstart
  have hsettle {es : List Event} {k : Nat} {view' : View}
      (h : Served v m w view es k u view') :
      Served v m w view es k (settle v u) { view' with pending := [], busy := false } :=
    ⟨h.trace, World.views_modifyView_self h.found _, h.group, h.groups, h.bound, h.begun⟩
  cases r with
  | ok x =>
    obtain ⟨es, k, view', hserved, hflawless, hrest⟩ := hends.1 x u hu
    exact ⟨es, k, _, hsettle hserved, rfl, rfl, hflawless, hrest⟩
  | error e =>
    obtain ⟨es, k, view', last, partway, hserved, hlast, hfailed⟩ := hends.2 e u hu
    exact ⟨es, k, _, hsettle hserved, rfl, rfl, last, partway, hlast, hfailed⟩

/-- Two snapshots of a group. A listener of the view asks for a window outside the group and then
selects a node. -/
def listened : World :=
  let s : Snapshot := { id := 0, name := "s", blocks := .ofList [("b", {})], group := some 0 }
  let w : World :=
    { snapshots := [s, s], pool := [0, 1], groups := [⟨"g", [0, 1]⟩], chains := [[], []] }
  (w.run [.openView 0 0 1 none false (.bool false),
    .listen (.view 0 .graphChanged) 1 [.setWindow 0 0 99, .selectNodes 0 [1]]]).getD {}

/-- The listener of `listened`. -/
def listenedRespond : Respond := World.callListener (World.performWithin 1)

/-- What is carried out when the second snapshot of `listened` is selected. -/
theorem listened_select :
    ((mutate (World.announceView listenedRespond) 0 (.selectGraph 1)).runIn listened).map
      (fun p => (beginnings 0 (p.2.trace.drop listened.trace.length),
        deferrals 0 (p.2.trace.drop listened.trace.length),
        p.2.views.map (·.closed), p.2.groups.map (·.members))) =
      some ([.selectGraph 1, .setWindow 0 99], [.setWindow 0 99, .setSelectedNodes (.ofList [1])],
        [false], [[0, 1]]) := by
  unfold mutate runChange
  simp only [drain_eq_drainFirst _ _ 3]
  decide +kernel

theorem listening_listenedRespond : World.Listening listenedRespond :=
  World.reaches_callListener fun _ _ _ _ h => World.reaches_performWithin 1 h

theorem listened_view : ∃ view, listened.views[0]? = some view ∧ view.closed = false ∧
    view.busy = false ∧ view.group = 0 ∧ view.pending = [] := by
  have h : listened.views[0]?.map (fun view => (view.closed, view.busy, view.group, view.pending)) =
      some (false, false, 0, []) := by decide +kernel
  obtain ⟨view, hview, hfields⟩ := Option.map_eq_some_iff.1 h
  simp only [Prod.mk.injEq] at hfields
  exact ⟨view, hview, hfields⟩

theorem served_in_order_listened : ∃ view r w', listened.views[0]? = some view ∧
    (mutate (World.announceView listenedRespond) 0 (.selectGraph 1)).runIn listened =
      some (r, w') ∧
    ∃ es k view', Served 0 (.selectGraph 1) listened view es k w' view' ∧
      view'.busy = false ∧ view'.pending = [] := by
  obtain ⟨view, hview, hopen, hidle, hgroup, -⟩ := listened_view
  obtain ⟨⟨r, w'⟩, hrun, -⟩ := Option.map_eq_some_iff.1 listened_select
  have hmembers : listened.groups[view.group]? = some ⟨"g", [0, 1]⟩ := by
    rw [hgroup]
    rfl
  obtain ⟨-, hserved⟩ := served_in_order listening_listenedRespond hview hopen hmembers
    (by decide) (.selectGraph 1)
  obtain ⟨es, k, view', hes, hbusy, hpending, -⟩ := hserved hidle r w' hrun
  exact ⟨view, r, w', hview, hrun, es, k, view', hes, hbusy, hpending⟩

/-- A change that waits is lost when one before it fails: not everything that arrives is carried
out, although the view stays open and its group is not empty. -/
theorem arrival_lost_after_failure : ¬ ∀ (R : Respond) (w w' : World) (v : ViewRef) (view : View)
    (group : Group) (m : Mutation) (r : Except Failure Unit), World.Listening R →
    w.views[v]? = some view → view.closed = false → view.busy = false →
    w.groups[view.group]? = some group → group.members ≠ [] →
    (mutate (World.announceView R) v m).runIn w = some (r, w') →
    ∃ es view' group', w'.trace = w.trace ++ es ∧ w'.views[v]? = some view' ∧
      w'.groups[view.group]? = some group' ∧
      (view'.closed = true ∨ group'.members = [] ∨ beginnings v es = m :: arrivals view v es) := by
  intro hall
  obtain ⟨view, hview, hopen, hidle, hgroup, hpending⟩ := listened_view
  obtain ⟨⟨r, w'⟩, hrun, hseen⟩ := Option.map_eq_some_iff.1 listened_select
  obtain ⟨es, view', group', htrace, hview', hgroup', hserved⟩ :=
    hall listenedRespond listened w' 0 view ⟨"g", [0, 1]⟩ (.selectGraph 1) r
      listening_listenedRespond hview hopen hidle (by rw [hgroup]; rfl) (by decide) hrun
  simp only [Prod.mk.injEq, htrace, List.drop_left] at hseen
  obtain ⟨hbegun, hdeferred, hclosed, hmembers⟩ := hseen
  rw [hgroup] at hgroup'
  have hclosed' := congrArg (·[0]?) hclosed
  have hmembers' := congrArg (·[0]?) hmembers
  simp only [List.getElem?_map, hview', hgroup', Option.map_some] at hclosed' hmembers'
  rcases hserved with h | h | h
  · simp [h] at hclosed'
  · simp [h] at hmembers'
  · rw [arrivals, hpending, hbegun, hdeferred] at h
    exact absurd h (by decide)

end SnapshotViewer.View
