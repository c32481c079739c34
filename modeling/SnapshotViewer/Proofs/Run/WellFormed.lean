import SnapshotViewer.Proofs.Run.FramedRuns

/-!
# Well-formed worlds

In a sound world all handles of snapshots refer to something. Of every view, whatever its state: the
window lies within the visible snapshots if there are any; the positions and the colours are those
of the visible snapshots; and the current graph is what is shown for the two snapshots it was
computed for. Every single step keeps this, so that it holds in the middle of a change too. Main
statement: `World.Reaches.sound`.
-/

namespace SnapshotViewer

/-! ## Colours depend on nodes only -/

theorem Highlight.trail_congr (id : Int) (before : Option Node) {l l' : List Snapshot}
    (h : l'.map (·.nodes) = l.map (·.nodes)) :
    Highlight.trail id before l' = Highlight.trail id before l := by
  induction l generalizing l' before with
  | nil =>
    rw [List.map_nil, List.map_eq_nil_iff] at h
    rw [h]
  | cons s rest ih =>
    cases l' with
    | nil => cases h
    | cons s' rest' =>
      injection h with hnodes hrest
      have hnode : s'.node? id = s.node? id :=
        congrArg (fun nodes => (nodes.get? id).map (Node.mk id)) hnodes
      rw [trail, trail, hnode, ih _ hrest]

theorem Highlight.colors_congr (ids : List Int) {l l' : List Snapshot}
    (h : l'.map (·.nodes) = l.map (·.nodes)) :
    Highlight.colors ids l' = Highlight.colors ids l := by
  have hlength : l'.map (fun _ => Highlight.none) = l.map fun _ => Highlight.none := by
    have hlen := congrArg List.length h
    rw [List.length_map, List.length_map] at hlen
    rw [List.map_const', List.map_const', hlen]
  unfold colors
  rw [hlength]
  congr 1
  funext colors id
  rw [trail_congr id _ h]

namespace World

variable {es : List Event} {w w' : World}

/-! ## What is stored stays stored -/

theorem SnapshotsKept.lt (h : SnapshotsKept es w w') {r : SnapshotRef}
    (hr : r < w.snapshots.length) : r < w'.snapshots.length := by
  obtain ⟨s', hs', -⟩ := h.kept r _ (List.getElem?_eq_getElem hr)
  exact (List.getElem?_eq_some_iff.1 hs').1

theorem SnapshotsKept.nameOf (h : SnapshotsKept es w w') {r : SnapshotRef}
    (hr : r < w.snapshots.length) : w'.nameOf r = w.nameOf r := by
  have hs := List.getElem?_eq_getElem hr
  obtain ⟨s', hs', hkept⟩ := h.kept r _ hs
  unfold World.nameOf
  rw [hs, hs', Option.map_some, Option.map_some, hkept.name]

theorem SnapshotsKept.isDuplicate (h : SnapshotsKept es w w') (hes : Unedited es) :
    w'.isDuplicate = w.isDuplicate := by
  funext r
  unfold World.isDuplicate
  cases hs : w.snapshots[r]? with
  | some s =>
    obtain ⟨s', hs', hkept⟩ := h.kept r s hs
    rw [hs', Option.map_some, Option.map_some, hkept.isDuplicate hes]
  | none =>
    cases hs' : w'.snapshots[r]? with
    | none => rfl
    | some s' => exact h.fresh hes r s' hs hs'

theorem SnapshotsKept.contents (h : SnapshotsKept es w w') (hes : Unedited es)
    {rs : List SnapshotRef} (hrs : ∀ r ∈ rs, r < w.snapshots.length) :
    (w'.contents rs).map (·.nodes) = (w.contents rs).map (·.nodes) := by
  induction rs with
  | nil => rfl
  | cons r rest ih =>
    have hs := List.getElem?_eq_getElem (hrs r List.mem_cons_self)
    obtain ⟨s', hs', hkept⟩ := h.kept r _ hs
    have hrest := ih fun q hq => hrs q (List.mem_cons_of_mem r hq)
    unfold World.contents at hrest ⊢
    rw [List.filterMap_cons_some hs, List.filterMap_cons_some hs', List.map_cons, List.map_cons,
      hrest, (hkept.content hes).1]

/-! ## Sound views -/

/-- A view fits the world that it is in. -/
structure SoundView (w : World) (view : View) : Prop where
  graphs : ∀ r ∈ view.graphs, r < w.snapshots.length
  low : 0 ≤ view.window.low
  ordered : view.window.low ≤ view.window.high
  high : view.graphs ≠ [] → view.window.high < view.graphs.length
  selection : ∀ s, view.selection = some s → s.Shows w
  positions : view.positions = view.graphs.map w.nameOf
  colors : Unedited w.trace →
    view.colors = Highlight.colors view.selectedNodes.toList (w.contents view.graphs)

/-- All handles of snapshots refer to something, and all views fit. -/
structure Sound (w : World) : Prop where
  pool : ∀ r ∈ w.pool, r < w.snapshots.length
  members : ∀ group ∈ w.groups, ∀ r ∈ group.members, r < w.snapshots.length
  views : ∀ view ∈ w.views, SoundView w view

theorem Sound.view {v : ViewRef} {view : View} (h : Sound w) (hview : w.views[v]? = some view) :
    SoundView w view := h.views view (List.mem_of_getElem? hview)

theorem Shows.mono {s : Selection} (h : s.Shows w) (hkept : SnapshotsKept es w w') :
    s.Shows w' := by
  refine ⟨hkept.lt h.stored, h.single, fun hne => ?_⟩
  obtain ⟨d, hd, horigin⟩ := h.pair hne
  obtain ⟨d', hd', hkept'⟩ := hkept.kept _ _ hd
  exact ⟨d', hd', hkept'.origin.trans horigin⟩

/-- A view that nothing is done to still fits when more is stored. -/
theorem SoundView.mono {view : View} (h : SoundView w view) (hkept : SnapshotsKept es w w')
    (htrace : w'.trace = w.trace ++ es) : SoundView w' view where
  graphs r hr := hkept.lt (h.graphs r hr)
  low := h.low
  ordered := h.ordered
  high := h.high
  selection s hs := Shows.mono (h.selection s hs) hkept
  positions := by
    rw [h.positions]
    exact List.map_congr_left fun r hr => (hkept.nameOf (h.graphs r hr)).symm
  colors hun := by
    rw [htrace] at hun
    rw [h.colors hun.left]
    exact (Highlight.colors_congr _ (hkept.contents hun.right h.graphs)).symm

/-- The steps that change no view and no group. -/
theorem Sound.kept (h : Sound w) (hkept : SnapshotsKept es w w') (htrace : w'.trace = w.trace ++ es)
    (hpool : ∀ r ∈ w'.pool, r < w'.snapshots.length)
    (hgroups : ∀ group ∈ w'.groups, ∀ r ∈ group.members, r < w.snapshots.length)
    (hviews : w'.views = w.views) : Sound w' where
  pool := hpool
  members group hg r hr := hkept.lt (hgroups group hg r hr)
  views view hview := (h.views view (hviews ▸ hview)).mono hkept htrace

/-- The steps that change a view only. -/
theorem Sound.modifyView (h : Sound w) (v : ViewRef) {f : View → View}
    (hf : ∀ view, w.views[v]? = some view → SoundView w (f view)) : Sound (w.modifyView v f) where
  pool := h.pool
  members := h.members
  views view hview := by
    have hkept : SnapshotsKept [] w (w.modifyView v f) := .of_eq rfl
    refine SoundView.mono ?_ hkept (List.append_nil _).symm
    obtain ⟨u, hu⟩ := List.mem_iff_getElem?.1 hview
    by_cases huv : u = v
    · subst huv
      rw [views_modifyView, if_pos rfl] at hu
      obtain ⟨before, hbefore, rfl⟩ := Option.map_eq_some_iff.1 hu
      exact hf before hbefore
    · rw [views_modifyView_of_ne w huv] at hu
      exact h.views view (List.mem_of_getElem? hu)

/-- Every way of rewriting a view keeps it fitting. -/
theorem SoundView.write {view view' : View} (hw : Sound w) (h : SoundView w view)
    (hwrite : View.Write w view view') : SoundView w view' := by
  cases hwrite with
  | @refilter hide group hgroup =>
    have hmembers := hw.members group (List.mem_of_getElem? hgroup)
    refine ⟨fun r hr => hmembers r (List.mem_filter.1 hr).1, ?_, ?_, fun hne => ?_,
      h.selection, rfl, fun _ => rfl⟩
    · have := h.low
      have := h.ordered
      simp only [View.refiltered, Window.clamp]
      omega
    · simp only [View.refiltered, Window.clamp]
      omega
    · have hpos := List.length_pos_iff.2 hne
      simp only [View.refiltered, Window.clamp] at hpos ⊢
      omega
  | move window hfits =>
    exact ⟨h.graphs, hfits.1, hfits.2.1, fun _ => hfits.2.2, h.selection, h.positions, h.colors⟩
  | select s hs =>
    refine ⟨h.graphs, h.low, h.ordered, h.high, fun s' hs' => ?_, h.positions, h.colors⟩
    cases hs'
    exact hs
  | draw d => exact ⟨h.graphs, h.low, h.ordered, h.high, h.selection, h.positions, h.colors⟩
  | selectNodes ids =>
    exact ⟨h.graphs, h.low, h.ordered, h.high, h.selection, h.positions, fun _ => rfl⟩
  | hideNodes ids =>
    exact ⟨h.graphs, h.low, h.ordered, h.high, h.selection, h.positions, h.colors⟩
  | toggle ts =>
    exact ⟨h.graphs, h.low, h.ordered, h.high, h.selection, h.positions, h.colors⟩

theorem chains_sound : Act.Chains fun w w' => Sound w → Sound w' :=
  ⟨fun _ h => h, fun h h' hw => h' (h hw)⟩

theorem Sound.record (h : Sound w) (e : Event) : Sound (w.record e) :=
  h.kept (.of_eq rfl) rfl h.pool h.members rfl

theorem Sound.modifySnapshot (h : Sound w) (r : SnapshotRef) {f : Snapshot → Snapshot}
    (hf : ∀ s, KeptAs True s (f s)) : Sound (w.modifySnapshot r f) := by
  have hkept : SnapshotsKept [] w (w.modifySnapshot r f) :=
    .modify rfl fun s => ⟨(hf s).name, (hf s).origin, fun _ => (hf s).content trivial⟩
  exact h.kept hkept (List.append_nil _).symm (fun q hq => hkept.lt (h.pool q hq)) h.members rfl

theorem Sound.archive (h : Sound w) {s : Snapshot} (hs : s.isDuplicate = false) :
    Sound (w.archive s) := by
  have hkept : SnapshotsKept [] w (w.archive s) := .archive rfl hs
  exact h.kept hkept (List.append_nil _).symm (fun q hq => hkept.lt (h.pool q hq)) h.members rfl

theorem Sound.modifyGroup (h : Sound w) (g : GroupRef) {f : Group → Group}
    (hf : ∀ group ∈ w.groups, ∀ r ∈ (f group).members, r < w.snapshots.length) :
    Sound (w.modifyGroup g f) := by
  refine h.kept (.of_eq rfl) (List.append_nil _).symm h.pool (fun group hgroup r hr => ?_) rfl
  obtain ⟨i, hi⟩ := List.mem_iff_getElem?.1 hgroup
  rw [World.modifyGroup, List.getElem?_modify] at hi
  obtain ⟨before, hbefore, rfl⟩ := Option.map_eq_some_iff.1 hi
  have hmem := List.mem_of_getElem? hbefore
  split at hr
  · exact hf before hmem r hr
  · exact h.members before hmem r hr

/-- A snapshot of the pool becomes a member of a group. -/
theorem Sound.join (h : Sound w) {s : SnapshotRef} (hs : s ∈ w.pool) (g : GroupRef) :
    Sound ((w.modifySnapshot s fun snapshot => { snapshot with group := some g }).modifyGroup g
      fun group => { group with members := group.members ++ [s] }) := by
  have hgrouped : Sound (w.modifySnapshot s fun snapshot => { snapshot with group := some g }) :=
    h.modifySnapshot s fun s => ⟨rfl, rfl, fun _ => ⟨rfl, rfl⟩⟩
  refine hgrouped.modifyGroup g fun group hgroup r hr => ?_
  rw [World.modifySnapshot, List.length_modify]
  rcases List.mem_append.1 hr with hr | hr
  · exact h.members group hgroup r hr
  · rw [List.mem_singleton.1 hr]
    exact h.pool s hs

/-- Members leave a group. -/
theorem Sound.leave (h : Sound w) (g : GroupRef) {members : List SnapshotRef → List SnapshotRef}
    (hm : ∀ l, members l ⊆ l) :
    Sound (w.modifyGroup g fun group => { group with members := members group.members }) :=
  h.modifyGroup g fun group hgroup r hr => h.members group hgroup r (hm _ hr)

/-- Which changes wait and whether one is under way does not matter. -/
theorem SoundView.dispatch {view : View} (h : SoundView w view) (busy closed : Bool)
    (pending : List Mutation) : SoundView w { view with busy, closed, pending } :=
  ⟨h.graphs, h.low, h.ordered, h.high, h.selection, h.positions, h.colors⟩

theorem Sound.dispatch (h : Sound w) (v : ViewRef) {f : View → View} (hf : ∀ view, f view =
    { view with busy := (f view).busy, closed := (f view).closed, pending := (f view).pending }) :
    Sound (w.modifyView v f) :=
  h.modifyView v fun view hview => by
    rw [hf view]
    exact (h.view hview).dispatch _ _ _

end World

namespace View

open World

variable {a : Announce} {v : ViewRef} {w w' : World}

theorem renders_sound : Renders fun w w' => Sound w → Sound w' where
  chains := chains_sound
  note _ _ _ hw := hw.record _
  assign w r _ blocks log _ _ := by
    refine chains_assignBlocks chains_sound (fun _ r f hf hw => ?_) (fun _ _ hw => hw.record _) w r
      blocks log
    exact hw.modifySnapshot r fun s => by
      rw [hf s]
      exact ⟨rfl, rfl, fun _ => ⟨rfl, rfl⟩⟩
  archive _ _ _ _ _ _ _ hw := hw.archive rfl
  count _ _ hw := hw.kept (.of_eq rfl) (List.append_nil _).symm hw.pool hw.members rfl

theorem Steps.sound (ha : ∀ n w w', a v n w = some w' → Sound w → Sound w')
    (h : Steps a v w w') : Sound w → Sound w' :=
  Steps.within renders_sound (fun _ _ hf hw => hw.modifyView v fun view hview =>
    (hw.view hview).write hw (hf view hview)) ha h

/-- Changes of a view keep the world sound, if what is announced does. -/
theorem carries_sound (ha : ∀ n w w', a v n w = some w' → Sound w → Sound w') :
    Carries a v fun w w' => Sound w → Sound w' where
  chains := chains_sound
  steps _ _ h := h.sound ha
  begun _ _ hw := hw.record _
  failed _ _ _ _ hw := hw.record _
  dropped _ _ hw := hw.record _
  dispatch _ f hf hw := hw.modifyView v fun view hview => by
    rw [hf view]
    exact (hw.view hview).dispatch _ _ _

theorem mutate_sound (ha : ∀ n w w', a v n w = some w' → Sound w → Sound w') (m : Mutation) :
    (mutate a v m).Within fun w w' => Sound w → Sound w' :=
  (carries_sound ha).mutate (fun _ _ hw => hw.record _) (fun _ _ hw => hw.record _) m

/-- A view that shows nothing yet fits every world. -/
theorem soundView_unopened (w : World) (settings : Settings) (group : GroupRef)
    (builder : Builder) (counted : Bool) (hide : Value) :
    SoundView w (unopened settings group builder counted hide) where
  graphs _ hr := absurd hr List.not_mem_nil
  low := Int.le_refl 0
  ordered := Int.le_refl 0
  high hne := absurd rfl hne
  selection _ hs := by cases hs
  positions := rfl
  colors _ := rfl

theorem connect_sound (signal : Signal) (slot : Slot) (hw : Sound w) :
    Sound (w.connect signal slot) :=
  hw.kept (.of_eq rfl) (List.append_nil _).symm hw.pool hw.members rfl

theorem admits_sound : Admits fun w w' => Sound w → Sound w' where
  chains := chains_sound
  started w group builder counted hide hw := by
    refine ⟨hw.pool, hw.members, fun view hview => ?_⟩
    refine SoundView.mono (w := w) ?_ (.of_eq rfl) (List.append_nil _).symm
    rcases List.mem_append.1 hview with h | h
    · exact hw.views view h
    · rw [List.mem_singleton.1 h]
      exact soundView_unopened w _ _ _ _ _
  steps v w w' h := by
    refine h.sound fun _ u u' hu hs => ?_
    cases hu
    exact hs
  settled v _ hw := hw.dispatch v fun _ => rfl
  taken n w e hw := by
    refine Sound.record (w := { w with views := w.views.take n })
      ⟨hw.pool, hw.members, fun view hview => ?_⟩ _
    exact (hw.views view (List.mem_of_mem_take hview)).mono (.of_eq rfl) (List.append_nil _).symm
  enrolled _ _ _ hw :=
    connect_sound _ _ (connect_sound _ _ (connect_sound _ _ (hw.record _)))

theorem close_sound (ha : ∀ n w w', a v n w = some w' → Sound w → Sound w') :
    (close a v).Within fun w w' => Sound w → Sound w' := by
  unfold close
  refine (Act.within_view chains_sound v).bind chains_sound fun view => ?_
  split
  · refine (Act.within_modify fun w hw => ?_).bind chains_sound fun _ => ?_
    · have hdisconnected : Sound (w.disconnect (.follow v)) :=
        hw.kept (.of_eq rfl) (List.append_nil _).symm hw.pool hw.members rfl
      exact (hdisconnected.dispatch v fun _ => rfl).record _
    · exact Act.within_yield fun w w' h => ha _ w w' h
  · exact Act.within_pure chains_sound _

end View

namespace World

/-! ## Runs -/

section

variable {R : Respond} (hR : ∀ k u u', R k u = some u' → Sound u → Sound u')

include hR

theorem announceView_sound (v : ViewRef) (n : Notice) (w w' : World)
    (h : announceView R v n w = some w') : Sound w → Sound w' :=
  announceView_within chains_sound hR (fun _ _ hu => hu.record _) (fun _ hu => hu.record _) h

theorem announceShared_sound {signal : Signal} (h : announceShared R signal w = some w') :
    Sound w → Sound w' := by
  refine emit_within chains_sound (fun slot u u' hu => ?_) (fun _ hu => hu.record _) h
  cases slot with
  | listener k => exact hR k u u' hu
  | follow v =>
    exact follow_ends ((View.mutate_sound (announceView_sound hR v) _ u).mono (fun _ _ h => h)
      fun _ _ h hs => (h hs).record _) hu

/-- Every effect of a command keeps the world sound. -/
theorem effect_sound (h : Command.Effect R w w') (hw : Sound w) : Sound w' := by
  cases h with
  | nothing => exact hw
  | @keep v view s hview hs =>
    refine hw.kept (.of_eq rfl) (List.append_nil _).symm (fun r hr => ?_) hw.members rfl
    rcases List.mem_append.1 hr with hr | hr
    · exact hw.pool r hr
    · rw [List.mem_singleton.1 hr]
      exact ((hw.view hview).selection s hs).stored
  | compare =>
    refine hw.kept (.archive rfl rfl) (List.append_nil _).symm (fun r hr => ?_) hw.members rfl
    rw [archive, List.length_append]
    rcases List.mem_append.1 hr with hr | hr
    · exact Nat.lt_add_right _ (hw.pool r hr)
    · rw [List.mem_singleton.1 hr]
      exact Nat.lt_succ_self _
  | edit r f hf =>
    have hkept : SnapshotsKept [.edited r] w ((w.modifySnapshot r f).record (.edited r)) := by
      refine .modify rfl fun s => ?_
      rw [hf s]
      exact ⟨rfl, rfl, fun h => absurd List.mem_cons_self (h r)⟩
    exact hw.kept hkept rfl (fun q hq => hkept.lt (hw.pool q hq)) hw.members rfl
  | clearBlocks r =>
    have hcleared : Sound (w.modifySnapshot r Snapshot.clearBlocks) :=
      hw.modifySnapshot r fun s => ⟨rfl, rfl, fun _ => ⟨rfl, rfl⟩⟩
    exact hcleared.record _
  | addRule => exact hw.kept (.of_eq rfl) rfl hw.pool hw.members rfl
  | listen signal l =>
    exact hw.kept (.of_eq rfl) (List.append_nil _).symm hw.pool hw.members rfl
  | unlisten k => exact hw.kept (.of_eq rfl) (List.append_nil _).symm hw.pool hw.members rfl
  | change h => exact (View.mutate_sound (announceView_sound hR _) _).of_runIn h hw
  | openView h => exact ((View.admits_sound.welcomes _).openOn _ _ _ _ _).of_runIn h hw
  | closeView h => exact (View.close_sound (announceView_sound hR _)).of_runIn h hw
  | join hs h => exact announceShared_sound hR h (hw.join hs _)
  | leave hm h => exact announceShared_sound hR h (hw.leave _ hm)
  | rechain h =>
    refine announceShared_sound hR h ?_
    exact hw.kept (.of_eq rfl) (List.append_nil _).symm hw.pool hw.members rfl
  | notify h => exact announceShared_sound hR h hw

end

/-- Every world that a run leads to from a sound one is sound. -/
theorem Reaches.sound (h : Reaches w w') (hw : Sound w) : Sound w' := by
  refine h.within chains_sound (fun w listeners hw => ?_) (fun w k c outcome views hw => ?_)
    (fun R hR w w' h => effect_sound hR h) hw
  · exact hw.kept (.of_eq rfl) (List.append_nil _).symm hw.pool hw.members rfl
  · exact hw.record _

/-! ## Reachable worlds -/

/-- Nothing has happened and no view is open. -/
structure Initial (w : World) : Prop where
  sound : Sound w
  views : w.views = []
  trace : w.trace = []

/-- A session leads to the world. No command is under way in it. -/
def Reachable (w : World) : Prop := ∃ w₀ commands, Initial w₀ ∧ w₀.run commands = some w

theorem Reachable.sound (h : Reachable w) : Sound w := by
  obtain ⟨w₀, commands, hinitial, hrun⟩ := h
  exact (reaches_run hrun).sound hinitial.sound

theorem Initial.reachable (h : Initial w) {commands : List Command}
    (hrun : (w.run commands).isSome = true) : ((w.run commands).getD {}).Reachable := by
  refine ⟨w, commands, h, ?_⟩
  obtain ⟨w', hw'⟩ := Option.isSome_iff_exists.1 hrun
  rw [hw', Option.getD_some]

theorem Reachable.perform (h : Reachable w) {c : Command} {r : Except Failure Reply}
    (hc : w.perform c = some (r, w')) : Reachable w' := by
  obtain ⟨w₀, commands, hinitial, hrun⟩ := h
  refine ⟨w₀, commands ++ [c], hinitial, ?_⟩
  rw [run, List.foldlM_append]
  refine Option.bind_eq_some_iff.2 ⟨w, hrun, ?_⟩
  rw [List.foldlM_cons, hc]
  rfl

/-- A command that is carried out while no listener can be called leads to a reachable world. -/
theorem Reachable.execute (h : Reachable w) {c : Command} {r : Except Failure Reply}
    (hdepth : w.budget + c.weight = 0)
    (hc : (c.execute fun _ u => some u).runIn w = some (r, w')) : Reachable w' :=
  h.perform (c := c) (r := r) (by rw [World.perform, hdepth]; exact hc)

/-- A group is found by what the groups hold. -/
theorem group_of_members {w : World} {g : GroupRef} {all : List (List SnapshotRef)}
    {members : List SnapshotRef}
    (h : w.groups.map (fun group => group.members) = all) (hg : all[g]? = some members) :
    ∃ group, w.groups[g]? = some group ∧ group.members = members := by
  rw [← h, List.getElem?_map] at hg
  exact Option.map_eq_some_iff.1 hg

/-- Between commands no change is under way, and none waits. -/
theorem Reachable.idle (h : Reachable w) {v : ViewRef} {view : View}
    (hview : w.views[v]? = some view) : view.busy = false ∧ view.pending = [] := by
  obtain ⟨w₀, commands, hinitial, hrun⟩ := h
  obtain ⟨es, hframe⟩ := (reaches_run hrun).framed
  have hnone : w₀.views[v]? = none := by
    rw [hinitial.views]
    rfl
  exact hframe.fresh v view (by simp) hnone hview

end World

end SnapshotViewer
