import SnapshotViewer.Proofs.Diagram.Buildable
import SnapshotViewer.Proofs.View.ChangeParts

/-!
# Groups without nested differences

A view compares captured snapshots only: an entry that is a difference stands for one of the
snapshots that it was computed from. In a group that is `World.Unnested` these are captured for
every entry, so that the ends of a window can be resolved; and what a view shows for them can become
an entry in turn. `World.Stays` says that a group remains unnested, and that what happens meanwhile
is `Event.Fair`. Main statement: `View.mutate_leads`, that calls of views leave a group unnested,
and do not fail because differences would nest.
-/

namespace SnapshotViewer

/-! ## Definitions -/

/-- What a snapshot is called, what it holds and what it was computed from. -/
def Snapshot.content (s : Snapshot) : String × OrderedMap Int Properties × List Edge × Origin :=
  (s.name, s.nodes, s.edges, s.origin)

namespace World

/-- The snapshot is captured, or the difference of two captured ones. -/
def Flat (w : World) (r : SnapshotRef) : Prop :=
  w.Captured [r] ∨ ∃ d first second, w.snapshots[r]? = some d ∧
    d.origin = .difference (some first) (some second) ∧ w.Captured [first, second]

/-- An end of a window resolves to a captured snapshot, or fails to for another reason than that
differences would nest. -/
def PlainEnd (w : World) : Except Failure SnapshotRef → Prop
  | .ok r => w.Captured [r]
  | .error e => e.nests = false

/-- Snapshots are stored with the same content. -/
def Stores (w w' : World) : Prop :=
  ∀ (r : SnapshotRef) (s : Snapshot), w.snapshots[r]? = some s →
    ∃ s', w'.snapshots[r]? = some s' ∧ s'.content = s.content

/-- Snapshots and views are kept. -/
structure Retains (w w' : World) : Prop where
  stores : Stores w w'
  views : ∀ (v : ViewRef) (view : View), w.views[v]? = some view →
    ∃ view', w'.views[v]? = some view' ∧ view'.group = view.group

end World

/-- Two captured snapshots with the graph that is shown for them: the snapshot itself if they are
one, and else their difference. -/
structure Selection.Fair (w : World) (s : Selection) : Prop where
  ends : w.Captured [s.first, s.second]
  single : s.first = s.second → s.graph = s.first
  pair : s.first ≠ s.second → ∃ d x y, w.snapshots[s.graph]? = some d ∧
    w.snapshots[s.first]? = some x ∧ w.snapshots[s.second]? = some y ∧
    d.content = (Difference.ofPair d.id s.first s.second x y).content

/-- The scheduler does not fail as if differences nested. -/
def Scheduler.Tame (s : Scheduler) : Prop := ∀ x e, s.assign x = .error e → e.nests = false

/-- The filter does not fail as if differences nested. -/
def Filter.Tame (f : Filter) : Prop := ∀ figures e, f.apply figures = .error e → e.nests = false

/-- The entries of a group, and those that its views show, are captured or differences of two
captured snapshots. The selections of all views are fair. -/
structure World.Unnested (g : GroupRef) (w : World) : Prop where
  members : ∀ group, w.groups[g]? = some group → ∀ r ∈ group.members, w.Flat r
  graphs : ∀ view ∈ w.views, view.group = g → ∀ r ∈ view.graphs, w.Flat r
  selections : ∀ view ∈ w.views, ∀ s, view.selection = some s → s.Fair w
  schedulers : ∀ view ∈ w.views, ∀ s, view.builder.scheduler = some s → s.Tame
  filters : ∀ f ∈ w.filters, f.Tame

/-- Nothing is compared but captured snapshots. The views of the group resolve the ends of their
windows, or fail to for other reasons than that differences would nest, and so do their changes. -/
def Event.Fair (g : GroupRef) (w : World) : Event → Prop
  | .compared first second _ => w.Captured [first, second]
  | .announced v _ r => ∃ view, w.views[v]? = some view ∧
      (view.group = g → w.PlainEnd r.first ∧ w.PlainEnd r.second)
  | .failed v _ e _ => ∃ view, w.views[v]? = some view ∧ (view.group = g → e.nests = false)
  | _ => True

/-! ## What is kept -/

namespace World

variable {g : GroupRef} {w w' w'' : World} {r : SnapshotRef} {rs : List SnapshotRef}

theorem Stores.of_eq (h : w'.snapshots = w.snapshots) : Stores w w' :=
  fun _ s hs => ⟨s, h ▸ hs, rfl⟩

theorem Stores.modify {f : Snapshot → Snapshot} (h : w'.snapshots = w.snapshots.modify r f)
    (hf : ∀ s, (f s).content = s.content) : Stores w w' := by
  intro q s hs
  by_cases hq : r = q
  · exact ⟨f s, by simp [h, hq, hs], hf s⟩
  · exact ⟨s, by simp [h, hq, hs], rfl⟩

theorem Stores.archive {s : Snapshot} (h : w'.snapshots = w.snapshots ++ [s]) : Stores w w' := by
  intro r t ht
  refine ⟨t, ?_, rfl⟩
  rw [h, List.getElem?_append_left (List.getElem?_eq_some_iff.1 ht).1, ht]

theorem Retains.of_eq (hsnapshots : w'.snapshots = w.snapshots) (hviews : w'.views = w.views) :
    w.Retains w' :=
  ⟨.of_eq hsnapshots, fun _ view hview => ⟨view, hviews ▸ hview, rfl⟩⟩

theorem Retains.trans (h : w.Retains w') (h' : w'.Retains w'') : w.Retains w'' where
  stores r s hs := by
    obtain ⟨s', hs', heq⟩ := h.stores r s hs
    obtain ⟨s'', hs'', heq'⟩ := h'.stores r s' hs'
    exact ⟨s'', hs'', heq'.trans heq⟩
  views v view hview := by
    obtain ⟨view', hview', heq⟩ := h.views v view hview
    obtain ⟨view'', hview'', heq'⟩ := h'.views v view' hview'
    exact ⟨view'', hview'', heq'.trans heq⟩

theorem Captured.stores (h : w.Captured rs) (hstores : Stores w w') : w'.Captured rs := by
  intro r hr
  obtain ⟨s, hs, hplain⟩ := h r hr
  obtain ⟨s', hs', hsame⟩ := hstores r s hs
  have horigin : s'.origin = s.origin := congrArg (·.2.2.2) hsame
  exact ⟨s', hs', by rw [Snapshot.isDifference, horigin]; exact hplain⟩

theorem Flat.stores (h : w.Flat r) (hstores : Stores w w') : w'.Flat r := by
  refine h.imp (·.stores hstores) fun ⟨d, first, second, hd, horigin, hends⟩ => ?_
  obtain ⟨d', hd', hsame⟩ := hstores r d hd
  have horigin' : d'.origin = d.origin := congrArg (·.2.2.2) hsame
  exact ⟨d', first, second, hd', horigin'.trans horigin, hends.stores hstores⟩

theorem PlainEnd.stores {o : Except Failure SnapshotRef} (h : w.PlainEnd o)
    (hstores : Stores w w') : w'.PlainEnd o := by
  cases o with
  | ok r => exact Captured.stores h hstores
  | error e => exact h

end World

open World

/-- The difference depends on the content of the two snapshots only. -/
theorem Difference.content_ofPair {x x' y y' : Snapshot} (hx : x'.content = x.content)
    (hy : y'.content = y.content) (id id' : Int) (first second : SnapshotRef) :
    (ofPair id' first second x' y').content = (ofPair id first second x y).content := by
  simp only [Snapshot.content, Prod.mk.injEq] at hx hy
  obtain ⟨hname, hnodes, hedges, -⟩ := hx
  obtain ⟨hname', hnodes', hedges', -⟩ := hy
  have htag : tagFirst y' = tagFirst y := by
    funext id ps
    unfold tagFirst
    rw [hnodes']
  have hall : nodes x' y' = nodes x y := by
    unfold nodes
    rw [htag, hnodes, hnodes']
  have hedged : edges x' y' = edges x y := by
    unfold edges edgeMap
    rw [hedges, hedges']
  simp only [Snapshot.content, ofPair, hname, hname', hall, hedged]

theorem Selection.Fair.stores {w w' : World} {s : Selection} (h : s.Fair w)
    (hstores : Stores w w') : s.Fair w' where
  ends := h.ends.stores hstores
  single := h.single
  pair hne := by
    obtain ⟨d, x, y, hd, hx, hy, hcontent⟩ := h.pair hne
    obtain ⟨d', hd', hsame⟩ := hstores _ d hd
    obtain ⟨x', hx', hsame'⟩ := hstores _ x hx
    obtain ⟨y', hy', hsame''⟩ := hstores _ y hy
    refine ⟨d', x', y', hd', hx', hy', ?_⟩
    rw [hsame, hcontent]
    exact (Difference.content_ofPair hsame' hsame'' _ _ _ _).symm

/-- What a fair selection shows can become an entry. -/
theorem Selection.Fair.flat {w : World} {s : Selection} (h : s.Fair w) : w.Flat s.graph := by
  by_cases heq : s.first = s.second
  · rw [h.single heq]
    exact .inl fun r hr => h.ends r (List.mem_cons.2 (.inl (List.mem_singleton.1 hr)))
  · obtain ⟨d, x, y, hd, -, -, hcontent⟩ := h.pair heq
    have horigin : d.origin = .difference (some s.first) (some s.second) :=
      congrArg (·.2.2.2) hcontent
    exact .inr ⟨d, s.first, s.second, hd, horigin, h.ends⟩

theorem Event.Fair.retains {g : GroupRef} {w w' : World} {e : Event} (h : e.Fair g w)
    (hkept : w.Retains w') : e.Fair g w' := by
  cases e with
  | compared first second counted => exact Captured.stores h hkept.stores
  | announced v n r =>
    obtain ⟨view, hview, hplain⟩ := h
    obtain ⟨view', hview', hgroup⟩ := hkept.views v view hview
    refine ⟨view', hview', fun hg => ?_⟩
    obtain ⟨hfirst, hsecond⟩ := hplain (hgroup ▸ hg)
    exact ⟨hfirst.stores hkept.stores, hsecond.stores hkept.stores⟩
  | failed v m e partway =>
    obtain ⟨view, hview, htame⟩ := h
    obtain ⟨view', hview', hgroup⟩ := hkept.views v view hview
    exact ⟨view', hview', fun hg => htame (hgroup ▸ hg)⟩
  | _ => exact trivial

/-! ## Resolving windows -/

namespace World

variable {g : GroupRef} {w w' : World} {r : SnapshotRef} {view : View}

theorem captured_pair {x y : SnapshotRef}
    (hx : ∃ s, w.snapshots[x]? = some s ∧ s.isDifference = false)
    (hy : ∃ s, w.snapshots[y]? = some s ∧ s.isDifference = false) : w.Captured [x, y] := by
  intro r hr
  rcases List.mem_cons.1 hr with rfl | hr
  · exact hx
  · exact List.mem_singleton.1 hr ▸ hy

/-- A difference of two captured snapshots stands for the one of them at either end. -/
theorem unwrap_difference {d : Snapshot} {first second : SnapshotRef}
    (hd : w.snapshots[r]? = some d) (horigin : d.origin = .difference (some first) (some second))
    (hends : w.Captured [first, second]) (isFirst : Bool) :
    w.unwrap isFirst r = .ok (if isFirst then first else second) := by
  have hcaptured (x : SnapshotRef) (hx : x ∈ [first, second]) :
      w.capturedEnd d.name (some x) = .ok x := by
    obtain ⟨s, hs, hplain⟩ := hends x hx
    simp [capturedEnd, hs, hplain]
  rw [unwrap, hd]
  dsimp only
  rw [horigin]
  cases isFirst with
  | true => exact hcaptured first List.mem_cons_self
  | false => exact hcaptured second (List.mem_cons_of_mem _ List.mem_cons_self)

/-- What a flat entry stands for is captured. -/
theorem Flat.unwrap (h : w.Flat r) (isFirst : Bool) : w.PlainEnd (w.unwrap isFirst r) := by
  obtain hcaptured | ⟨d, first, second, hd, horigin, hends⟩ := h
  · rw [hcaptured.unwrap List.mem_cons_self]
    exact hcaptured
  · rw [unwrap_difference hd horigin hends]
    intro x hx
    refine hends x ?_
    rw [List.mem_singleton.1 hx]
    cases isFirst <;> simp

theorem plainEnd_first {window : Window} {graphs : List SnapshotRef}
    (h : ∀ r ∈ graphs, w.Flat r) : w.PlainEnd (w.firstOf window graphs) := by
  unfold firstOf
  split
  · rfl
  · rename_i r hr
    exact (h r (Window.mem_of_lowEntry? hr)).unwrap true

theorem plainEnd_second {window : Window} {graphs : List SnapshotRef}
    (h : ∀ r ∈ graphs, w.Flat r) : w.PlainEnd (w.secondOf window graphs) := by
  unfold secondOf
  split
  · split
    · rfl
    · rename_i r hr
      exact (h r (Window.mem_of_entryAt hr)).unwrap false
  · exact plainEnd_first h

/-- The views of the group resolve the ends of their windows. -/
theorem Unnested.plainEnds (h : w.Unnested g) (hview : view ∈ w.views) (hgroup : view.group = g) :
    w.PlainEnd (w.firstGraph view) ∧ w.PlainEnd (w.secondGraph view) :=
  ⟨plainEnd_first (h.graphs view hview hgroup), plainEnd_second (h.graphs view hview hgroup)⟩

/-! ## Staying unnested -/

/-- The group remains unnested, and all that happens is fair. -/
def Stays (g : GroupRef) (w w' : World) : Prop :=
  w.Unnested g → w.Retains w' ∧ w'.Unnested g ∧
    ∃ es, w'.trace = w.trace ++ es ∧ ∀ e ∈ es, e.Fair g w'

theorem chains_stays : Act.Chains (Stays g) := by
  refine ⟨fun w hw => ⟨.of_eq rfl rfl, hw, [], (List.append_nil _).symm, by simp⟩,
    fun h h' hw => ?_⟩
  obtain ⟨hkept, hw', es, htrace, hes⟩ := h hw
  obtain ⟨hkept', hw'', es', htrace', hes'⟩ := h' hw'
  refine ⟨hkept.trans hkept', hw'', es ++ es', by rw [htrace', htrace, List.append_assoc], ?_⟩
  exact fun e he => (List.mem_append.1 he).elim (fun he => (hes e he).retains hkept') (hes' e)

/-- What holds of the views with the snapshots as they were holds of them still. -/
theorem Unnested.stores (h : w.Unnested g) (hstores : Stores w w')
    (hmembers : ∀ group, w'.groups[g]? = some group → ∀ r ∈ group.members, w.Flat r)
    (hfilters : ∀ f ∈ w'.filters, f ∈ w.filters ∨ f.Tame)
    (hviews : ∀ view ∈ w'.views, (view.group = g → ∀ r ∈ view.graphs, w.Flat r) ∧
      (∀ s, view.selection = some s → s.Fair w) ∧
      ∀ s, view.builder.scheduler = some s → s.Tame) : w'.Unnested g where
  members group hgroup r hr := (hmembers group hgroup r hr).stores hstores
  graphs view hview hg r hr := ((hviews view hview).1 hg r hr).stores hstores
  selections view hview s hs := ((hviews view hview).2.1 s hs).stores hstores
  schedulers view hview := (hviews view hview).2.2
  filters f hf := (hfilters f hf).elim (h.filters f) id

/-- Steps that change neither views, groups nor filters. -/
theorem stays_of_stores {es : List Event} (htrace : w'.trace = w.trace ++ es)
    (hes : w.Unnested g → ∀ e ∈ es, e.Fair g w') (hstores : Stores w w')
    (hgroups : w'.groups = w.groups) (hfilters : w'.filters = w.filters)
    (hviews : w'.views = w.views) : Stays g w w' := by
  refine fun hw => ⟨⟨hstores, fun v view hview => ⟨view, hviews ▸ hview, rfl⟩⟩,
    hw.stores hstores (hgroups ▸ hw.members) (fun f hf => .inl (hfilters ▸ hf))
      fun view hview => ?_, es, htrace, hes hw⟩
  rw [hviews] at hview
  exact ⟨hw.graphs view hview, hw.selections view hview, hw.schedulers view hview⟩

/-- An event that says nothing of views and of differences. -/
theorem stays_record (w : World) {e : Event} (he : ∀ u, e.Fair g u) : Stays g w (w.record e) :=
  stays_of_stores rfl (fun _ e' he' => by cases List.mem_singleton.1 he'; exact he _) (.of_eq rfl)
    rfl rfl rfl

/-- Nothing is noted, and neither views, groups, filters nor snapshots change. -/
theorem stays_of_same (htrace : w'.trace = w.trace) (hsnapshots : w'.snapshots = w.snapshots)
    (hgroups : w'.groups = w.groups) (hfilters : w'.filters = w.filters)
    (hviews : w'.views = w.views) : Stays g w w' :=
  stays_of_stores (htrace.trans (List.append_nil _).symm) (by simp) (.of_eq hsnapshots) hgroups
    hfilters hviews

/-- A view is rewritten. -/
theorem stays_modifyView (v : ViewRef) {f : View → View}
    (hf : w.Unnested g → ∀ view, w.views[v]? = some view → (f view).group = view.group ∧
      (f view).builder = view.builder ∧ (view.group = g → ∀ r ∈ (f view).graphs, w.Flat r) ∧
      ∀ s, (f view).selection = some s → s.Fair w) : Stays g w (w.modifyView v f) := by
  intro hw
  have hviews (u : ViewRef) (after : View) (h : (w.modifyView v f).views[u]? = some after) :
      ∃ view, w.views[u]? = some view ∧ (after = view ∨ u = v ∧ after = f view) := by
    by_cases hu : u = v
    · subst hu
      rw [views_modifyView, if_pos rfl] at h
      obtain ⟨view, hview, rfl⟩ := Option.map_eq_some_iff.1 h
      exact ⟨view, hview, .inr ⟨rfl, rfl⟩⟩
    · exact ⟨after, (views_modifyView_of_ne w hu f).symm.trans h, .inl rfl⟩
  refine ⟨⟨.of_eq rfl, fun u view hview => ?_⟩, hw.stores (.of_eq rfl) hw.members
    (fun f hf => .inl hf) fun after hafter => ?_, [], (List.append_nil _).symm, by simp⟩
  · by_cases hu : u = v
    · subst hu
      exact ⟨f view, views_modifyView_self hview f, (hf hw view hview).1⟩
    · exact ⟨view, (views_modifyView_of_ne w hu f).trans hview, rfl⟩
  · obtain ⟨u, hu⟩ := List.mem_iff_getElem?.1 hafter
    obtain ⟨view, hview, rfl | ⟨rfl, rfl⟩⟩ := hviews u after hu
    · have hmem := List.mem_of_getElem? hview
      exact ⟨hw.graphs _ hmem, hw.selections _ hmem, hw.schedulers _ hmem⟩
    · obtain ⟨hgroup, hbuilder, hgraphs, hselection⟩ := hf hw view hview
      refine ⟨fun hg => hgraphs (hgroup ▸ hg), hselection, ?_⟩
      rw [hbuilder]
      exact hw.schedulers _ (List.mem_of_getElem? hview)

/-- A view is rewritten, but neither the visible snapshots nor what is selected. -/
theorem stays_display (v : ViewRef) {f : View → View} (hf : ∀ view, (f view).group = view.group ∧
    (f view).builder = view.builder ∧ (f view).graphs = view.graphs ∧
    (f view).selection = view.selection) : Stays g w (w.modifyView v f) :=
  stays_modifyView v fun hw view hview => by
    obtain ⟨hgroup, hbuilder, hgraphs, hselection⟩ := hf view
    have hmem := List.mem_of_getElem? hview
    exact ⟨hgroup, hbuilder, hgraphs ▸ hw.graphs view hmem, hselection ▸ hw.selections view hmem⟩

end World

/-! ## Building diagrams -/

/-- The result does not fail as if differences nested. -/
def Failure.Tame {α : Type} (x : Except Failure α) : Prop := ∀ e, x = .error e → e.nests = false

theorem Failure.Tame.bind {α β : Type} {x : Except Failure α} {f : α → Except Failure β}
    (hx : Tame x) (hf : ∀ a, Tame (f a)) : Tame (x >>= f) := by
  cases x with
  | ok a => exact hf a
  | error e =>
    intro e' he'
    cases he'
    exact hx e rfl

theorem Failure.tame_ok {α : Type} (a : α) : Tame (.ok a) := fun _ h => nomatch h

theorem Failure.tame_mapM {α β : Type} {f : α → Except Failure β} (hf : ∀ a, Tame (f a))
    (l : List α) : Tame (l.mapM f) := by
  induction l with
  | nil => exact tame_ok []
  | cons a rest ih =>
    rw [List.mapM_cons]
    exact (hf a).bind fun b => ih.bind fun bs => tame_ok (b :: bs)

theorem Figure.tame_ofSnapshot (t : Templates) (s : Snapshot) :
    Failure.Tame (Figure.ofSnapshot t s) := by
  have hline (template : Value) (n : Node) : Failure.Tame (Templates.line template n) := by
    refine Failure.Tame.bind (fun e he => ?_) fun text => Failure.tame_ok _
    unfold Value.expectText at he
    split at he
    · cases he
    · cases he
      rfl
  refine Failure.tame_mapM (fun n => ?_) _
  refine Failure.Tame.bind ?_ fun lines => Failure.tame_ok _
  exact (hline _ n).bind fun _ => (hline _ n).bind fun _ => (hline _ n).bind fun _ =>
    Failure.tame_ok _

theorem Painting.run_fails {fs : List (FilterRef × Filter)} {figures : List Figure} {e : Failure}
    (h : (Painting.run fs figures).failure = some e) :
    ∃ f ∈ fs, ∃ figures, f.2.apply figures = .error e := by
  induction fs generalizing figures with
  | nil => cases h
  | cons f rest ih =>
    unfold Painting.run at h
    split at h
    · obtain ⟨f', hf', hfails⟩ := ih h
      exact ⟨f', List.mem_cons_of_mem _ hf', hfails⟩
    · rename_i e' he'
      cases h
      exact ⟨f, List.mem_cons_self, figures, he'⟩

theorem World.mem_filters_of_filtersFor {w : World} {c : ChainRef} {q : Option ChainRef}
    {f : FilterRef × Filter} (h : f ∈ w.filtersFor c q) : f.2 ∈ w.filters := by
  have hof (c : ChainRef) (h : f ∈ w.filtersOf c) : f.2 ∈ w.filters := by
    obtain ⟨r, -, hr⟩ := List.mem_filterMap.1 h
    obtain ⟨filter, hfilter, rfl⟩ := Option.map_eq_some_iff.1 hr
    exact List.mem_of_getElem? hfilter
  unfold World.filtersFor at h
  split at h
  · exact hof c h
  · split at h
    · exact hof c h
    · exact (List.mem_append.1 h).elim (hof _) (hof _)

/-- Diagrams are built, or fail to be built for other reasons than that differences would nest. -/
theorem Builder.rebuild_tame {b : Builder} {w : World} {r : SnapshotRef}
    (hscheduler : ∀ s, b.scheduler = some s → s.Tame) (hfilters : ∀ f ∈ w.filters, f.Tame) :
    (b.rebuild r).Ends w (fun _ _ => True) fun e _ => e.nests = false := by
  have hkept : Draws fun w w' => w'.filters = w.filters :=
    ⟨⟨fun _ => rfl, fun h h' => h'.trans h⟩, fun _ _ _ _ => rfl, fun _ _ _ _ _ _ _ => rfl,
      fun _ _ => rfl⟩
  have hensure : (b.ensureBlocks r).Ends w (fun _ _ => True) fun e _ => e.nests = false := by
    unfold ensureBlocks
    rw [Act.ends_bind]
    refine Act.ends_snapshot (fun s _ => ?_) fun _ => rfl
    split
    · exact Act.ends_pure.2 trivial
    · split
      · exact Act.ends_throw.2 rfl
      · rename_i scheduler hs
        rw [Act.ends_bind, Act.ends_record, Act.ends_bind]
        exact Act.ends_ofExcept (fun _ _ => Act.ends_modify.2 trivial) (hscheduler scheduler hs s)
  unfold rebuild
  refine (((hkept.ensureBlocks b r w).and hensure).mono (fun _ _ h => h) fun _ _ h => h.2).bind
    fun _ u ⟨hu, _⟩ => ?_
  rw [Act.ends_bind]
  refine Act.ends_snapshot (fun s _ => ?_) fun _ => rfl
  rw [Act.ends_bind]
  refine Act.ends_ofExcept (fun figures _ => ?_) (Figure.tame_ofSnapshot _ s)
  rw [Act.ends_bind, Act.ends_get, Act.ends_bind, Act.ends_modify]
  split
  · rename_i e he
    obtain ⟨f, hf, figures, hfails⟩ := Painting.run_fails he
    exact Act.ends_throw.2 (hfilters f.2 (hu ▸ World.mem_filters_of_filtersFor hf) figures e hfails)
  · rw [Act.ends_bind, Act.debug, Act.ends_record, Act.ends_bind, Act.ends_get, Act.ends_bind,
      Act.ends_modify]
    exact Act.ends_pure.2 trivial

namespace View

variable {g : GroupRef} {a : Announce} {v : ViewRef} {w w' : World} {view view' : View}

/-! ## Changes of views -/

/-- A change has failed, and if that is one of a view of the group, not because differences would
nest. -/
def Balks (g : GroupRef) (v : ViewRef) (e : Failure) (w w' : World) : Prop :=
  w.Stays g w' ∧
    (w.Unnested g → ∀ view, w'.views[v]? = some view → view.group = g → e.nests = false)

theorem Balks.after (e : Failure) {w w' w'' : World} (h : w.Stays g w') (h' : Balks g v e w' w'') :
    Balks g v e w w'' :=
  ⟨chains_stays.trans h h'.1, fun hw => h'.2 (h hw).2.1⟩

theorem balks_tame {e : Failure} (w : World) (he : e.nests = false) : Balks g v e w w :=
  ⟨chains_stays.refl w, fun _ _ _ _ => he⟩

/-- What a view shows was shown before, or consists of entries of its group. -/
theorem Write.graphs (h : Write w view view') : view'.graphs = view.graphs ∨
    ∃ group, w.groups[view.group]? = some group ∧ view'.graphs ⊆ group.members := by
  cases h with
  | refilter hide hgroup => exact .inr ⟨_, hgroup, fun _ hr => (List.mem_filter.1 hr).1⟩
  | _ => exact .inl rfl

theorem draws_stays : Draws (Stays g) where
  chains := chains_stays
  note w e he hcompares := stays_record w fun u => by
    cases e <;> simp_all [Event.IsNote, Event.Compares, Event.Fair]
  assign w r _ blocks log _ _ :=
    chains_assignBlocks chains_stays (fun w r f hf => stays_of_stores (List.append_nil _).symm
      (by simp) (.modify rfl fun s => by rw [hf s]; rfl) rfl rfl rfl)
      (fun w x => stays_record w fun _ => trivial) w r blocks log
  count _ _ := stays_of_same rfl rfl rfl rfl rfl

theorem draw_leads (graph : SnapshotRef) : (draw v graph).Leads (Stays g) (Balks g v) := by
  intro w
  unfold draw
  rw [Act.ends_bind]
  refine Act.ends_view (fun view hview => ?_) fun _ => balks_tame w rfl
  have hstays := (draws_stays (g := g)).rebuild view.builder graph w
  have htame : (view.builder.rebuild graph).Ends w (fun _ _ => True)
      fun e _ => w.Unnested g → e.nests = false :=
    ⟨fun _ _ _ => trivial, fun e w' hr hw => (Builder.rebuild_tame
      (hw.schedulers view (List.mem_of_getElem? hview)) hw.filters).2 e w' hr⟩
  refine ((hstays.and htame).mono (fun _ _ h => h.1) fun e w' h => ?_).bind fun d w' h => ?_
  · exact ⟨h.1, fun hw _ _ _ => h.2 hw⟩
  · refine Act.ends_modifyView.2 (chains_stays.trans h (stays_display v fun view => ?_))
    exact ⟨rfl, rfl, rfl, rfl⟩

/-- The graph of two captured snapshots is a fair one. -/
theorem currentGraph_fair (counted : Bool) {first second : SnapshotRef}
    (hends : w.Captured [first, second]) :
    (Act.currentGraph counted first second).Ends w
      (fun graph w' => Stays g w w' ∧ Selection.Fair w' ⟨first, second, graph⟩)
      fun e w' => Balks g v e w w' := by
  unfold Act.currentGraph
  split
  · rename_i heq
    exact Act.ends_pure.2 ⟨chains_stays.refl w, hends, fun _ => rfl, fun hne => absurd heq hne⟩
  · rename_i hne
    have hnoted : Stays g w (w.record (.compared first second counted)) := by
      refine stays_of_stores rfl (fun _ e he => ?_) (.of_eq rfl) rfl rfl rfl
      cases List.mem_singleton.1 he
      exact hends
    have hmissing : Balks g v .noSuchHandle w (w.record (.compared first second counted)) :=
      .after _ hnoted (balks_tame _ rfl)
    unfold Act.makeDifference
    rw [Act.ends_bind, Act.ends_record, Act.ends_bind]
    refine Act.ends_snapshot (fun x hx => ?_) fun _ => hmissing
    rw [Act.ends_bind]
    refine Act.ends_snapshot (fun y hy => ?_) fun _ => hmissing
    rw [Act.ends_bind, Act.ends_get, Act.ends_bind, Act.ends_set, Act.ends_pure]
    have hstores {w' : World} {d : Snapshot} (h : w'.snapshots = w.snapshots ++ [d]) :
        Stores w w' := .archive h
    refine ⟨chains_stays.trans hnoted (stays_of_stores (List.append_nil _).symm (by simp)
      (.archive rfl) rfl rfl rfl), hends.stores (hstores rfl), fun heq => absurd heq hne,
      fun _ => ?_⟩
    exact ⟨_, x, y, List.getElem?_concat_length, List.getElem?_append_left
      (List.getElem?_eq_some_iff.1 hx).1 |>.trans hx, List.getElem?_append_left
      (List.getElem?_eq_some_iff.1 hy).1 |>.trans hy, rfl⟩

section

variable (ha : ∀ n w w', a v n w = some w' → Stays g w w')

include ha

theorem announce_leads (n : Notice) : (announce a v n).Leads (Stays g) (Balks g v) :=
  fun w => Act.ends_yield.2 fun w' h => ha n w w' h

theorem showEnds_leads {first second : SnapshotRef} (hends : w.Captured [first, second]) :
    (showEnds a v first second).Ends w (fun _ w' => Stays g w w') fun e w' => Balks g v e w w' := by
  have after {α : Type} {act : Act α} {u : World} (h : Stays g w u)
      (hact : act.Leads (Stays g) (Balks g v)) :
      act.Ends u (fun _ u' => Stays g w u') fun e u' => Balks g v e w u' :=
    (hact u).mono (fun _ _ h' => chains_stays.trans h h') fun e _ h' => .after e h h'
  unfold showEnds
  rw [Act.ends_bind]
  refine Act.ends_view (fun view hview => ?_) fun _ => balks_tame w rfl
  rw [Act.ends_bind]
  refine Act.ends_record.2 ?_
  have hlogged (r : Log.Record) : Stays g w (w.record (.logged r)) :=
    stays_record w fun _ => trivial
  have hgraph (r : Log.Record) : (Act.currentGraph view.counted first second).Ends
      (w.record (.logged r))
      (fun graph w' => Stays g w w' ∧ Selection.Fair w' ⟨first, second, graph⟩)
      fun e w' => Balks g v e w w' :=
    have hends' : (w.record (.logged r)).Captured [first, second] := hends
    (currentGraph_fair view.counted hends').mono
      (fun _ _ h => ⟨chains_stays.trans (hlogged r) h.1, h.2⟩) fun e _ h => .after e (hlogged r) h
  refine (hgraph _).bind fun graph w₁ ⟨h₁, hfair⟩ => ?_
  rw [Act.ends_bind, Act.ends_modifyView]
  have hselected : Stays g w (w₁.modifyView v fun view =>
      { view with selection := some ⟨first, second, graph⟩ }) := by
    refine chains_stays.trans h₁ (stays_modifyView v fun hw view hview => ⟨rfl, rfl, ?_, ?_⟩)
    · exact hw.graphs view (List.mem_of_getElem? hview)
    · intro s hs
      cases hs
      exact hfair
  exact (after hselected (draw_leads graph)).bind fun _ w₂ h₂ =>
    (after h₂ (announce_leads ha _)).bind fun _ w₃ h₃ => after h₃ (announce_leads ha _)

/-- Changes of a view leave the group unnested, and fail for other reasons than that differences
would nest. -/
theorem performs_stays : Performs a v (Stays g) (Balks g v) where
  chains := chains_stays
  write w f hf hwrite := stays_modifyView v fun hw view hview => by
    have hmem := List.mem_of_getElem? hview
    refine ⟨(hf view).group, (hf view).builder, fun hg r hr => ?_, ?_⟩
    · rcases (hwrite view hview).graphs with hkept | ⟨group, hgroup, hsub⟩
      · exact hw.graphs view hmem hg r (hkept ▸ hr)
      · exact hw.members group (hg ▸ hgroup) r (hsub hr)
    · rw [(hf view).selection]
      exact hw.selections view hmem
  logged w _ := stays_record w fun _ => trivial
  announce n w w' _ h := ha n w w' h
  shows w view first second _ hfirst hsecond _ :=
    showEnds_leads ha (captured_pair (firstOf_ok hfirst) (secondOf_ok hsecond))
  stops _ w he := balks_tame w he
  unresolved e w view hview herror := by
    refine ⟨chains_stays.refl w, fun hw view' hview' hg => ?_⟩
    cases hview.symm.trans hview'
    obtain ⟨hfirst, hsecond⟩ := hw.plainEnds (List.mem_of_getElem? hview) hg
    rcases herror with h | h
    · rwa [h] at hfirst
    · rwa [h] at hsecond
  fails e _ _ _ h h' := .after e h h'

theorem perform_leads (m : Mutation) : (perform a v m).Leads (Stays g) (Balks g v) := by
  have hperforms := performs_stays ha
  by_cases hm : m = .filterChainChanged
  · subst hm
    refine hperforms.bind hperforms.view fun view => ?_
    split
    · exact hperforms.throw rfl
    · exact hperforms.bind (draw_leads _) fun _ => announce_leads ha _
  · exact hperforms.perform hm

/-- A change that has failed is noted. -/
theorem carryOut_leads (m : Mutation) : (carryOut a v m).Leads (Stays g) (Balks g v) := by
  intro w
  refine ends_carryOut (fun _ => balks_tame w rfl) fun before hbefore => ?_
  have hbegun : Stays g w (w.record (.begun v m)) := stays_record w fun _ => trivial
  refine (perform_leads ha m _).mono (fun _ _ h => chains_stays.trans hbegun h) fun e w' h => ?_
  have h := Balks.after e hbegun h
  refine ⟨fun hw => ?_, h.2⟩
  obtain ⟨view, hview, -⟩ := (h.1 hw).1.views v before hbefore
  refine chains_stays.trans h.1 (stays_of_stores rfl (fun _ e' he' => ?_) (.of_eq rfl) rfl rfl rfl)
    hw
  cases List.mem_singleton.1 he'
  exact ⟨view, hview, h.2 hw view hview⟩

omit ha in
/-- Which changes wait and whether one is under way does not matter. -/
theorem stays_dispatch (w : World) {f : View → View} (hf : ∀ view, f view =
    { view with busy := (f view).busy, pending := (f view).pending }) :
    Stays g w (w.modifyView v f) :=
  stays_display v fun view => by
    rw [hf view]
    exact ⟨rfl, rfl, rfl, rfl⟩

omit ha in
theorem takeWaiting_leads : (takeWaiting v).Leads (Stays g) (Balks g v) := by
  intro w
  have htaken (rest : List Mutation) :
      Stays g w (w.modifyView v fun view => { view with pending := rest }) :=
    stays_dispatch w fun _ => rfl
  refine ends_takeWaiting (fun _ => balks_tame w rfl) (fun _ _ _ => chains_stays.refl w)
    (fun _ _ rest _ _ _ => .after _ (htaken rest) (balks_tame _ rfl))
    (fun _ _ m rest _ _ _ _ => ?_) fun _ _ _ rest _ _ _ _ _ => htaken rest
  have hdropped : (drop v (m :: rest)).Within (Stays g) :=
    drop_within chains_stays (fun w _ => stays_record w fun _ => trivial) _
  exact chains_stays.trans (htaken rest) (Act.ends_modify.1 (hdropped _))

theorem drain_leads : (drain a v).Leads (Stays g) (Balks g v) := by
  intro w
  refine drain_ends (I := Stays g w) (J := fun _ w' => Stays g w w') (fun w' h => ?_)
    (fun m w' h => ?_) (chains_stays.refl w)
  · refine (takeWaiting_leads w').mono (fun next w'' h' => ?_) fun e _ h' => .after e h h'
    cases next with
    | none => exact chains_stays.trans h h'
    | some m => exact chains_stays.trans h h'
  · exact (carryOut_leads ha m w').mono (fun _ _ h' => chains_stays.trans h h')
      fun e _ h' => .after e h h'

/-- Calls of a view leave the group unnested, and fail for other reasons than that differences would
nest. -/
theorem mutate_leads (m : Mutation) : (mutate a v m).Leads (Stays g) (Balks g v) := by
  intro w
  have hlogged (r : Log.Record) : Stays g w (w.record (.logged r)) :=
    stays_record w fun _ => trivial
  have hsettle (w' : World) : Stays g w' (settle v w') := stays_dispatch w' fun _ => rfl
  refine ends_mutate (fun _ => balks_tame w rfl) (fun _ _ _ => balks_tame w rfl)
    (fun _ _ r _ _ _ => chains_stays.trans (hlogged r) (stays_record _ fun _ => trivial))
    (fun _ _ r _ _ _ _ _ => ?_) fun _ _ _ _ _ _ _ => ?_
  · have hdeferred : Stays g (w.record (.logged r))
        ((w.record (.logged r)).record (.deferred v m)) := stays_record _ fun _ => trivial
    exact chains_stays.trans (chains_stays.trans (hlogged r) hdeferred)
      (stays_dispatch _ fun _ => rfl)
  · have hstart : Stays g w (w.modifyView v fun view => { view with busy := true }) :=
      stays_dispatch w fun _ => rfl
    have hrun : (runChange a v m).Leads (Stays g) (Balks g v) :=
      (performs_stays ha).bind (carryOut_leads ha m) fun _ => drain_leads ha
    refine (hrun _).mono (fun _ w' h => ?_) fun e w' h => ?_
    · exact chains_stays.trans (chains_stays.trans hstart h) (hsettle w')
    · refine .after e hstart ⟨chains_stays.trans h.1 (hsettle w'), fun hw view hview => ?_⟩
      rw [settle, views_modifyView, if_pos rfl] at hview
      obtain ⟨before, hbefore, rfl⟩ := Option.map_eq_some_iff.1 hview
      exact h.2 hw before hbefore

end

end View

end SnapshotViewer
