import SnapshotViewer.Proofs.View.ObserverMirror

/-!
# Following a group

A view follows a change of its group by computing the visible snapshots anew, moving its window back
to the entries that it was on, and announcing what has changed. `Refilled` says what the first step
leaves, `keepOn_ends` where the window goes, and `Proceeds` what announcing and redrawing leave of
it: all that was chosen, and the graph too if the window resolves to what it showed before. Main
statement: `perform_keepsSelection`: the window stays on its entries as far as they are still there.
-/

namespace SnapshotViewer

/-- Nothing is visible if and only if duplicates are hidden and there is nothing else. -/
theorem Sequence.visible_eq_nil_iff {α : Type} (isDuplicate : α → Bool) (hide : Bool)
    {entries : List α} (hentries : entries ≠ []) :
    Sequence.visible isDuplicate hide entries = [] ↔ (hide && entries.all isDuplicate) = true := by
  obtain ⟨e, he⟩ := List.exists_mem_of_ne_nil _ hentries
  simp only [Sequence.visible, List.filter_eq_nil_iff, Bool.and_eq_true, List.all_eq_true]
  cases hide <;> simp
  exact ⟨e, he⟩

/-- What an entry stands for depends on the snapshots alone. -/
theorem World.unwrap_congr {w w' : World} (h : w'.snapshots = w.snapshots) (isFirst : Bool)
    (r : SnapshotRef) : w'.unwrap isFirst r = w.unwrap isFirst r := by
  unfold World.unwrap World.capturedEnd
  rw [h]

namespace View

open World

variable {R : Respond} {a : Announce} {v : ViewRef} {w w' w'' : World} {view view' view'' : View}
  {group : Group} {es es' : List Event} {low high : SnapshotRef}

/-! ## What a window denotes -/

/-- The entries at the bounds of the window. -/
def Denotes (view : View) (low high : SnapshotRef) : Prop :=
  view.itemAt? view.window.low = some low ∧ view.itemAt? view.window.high = some high

theorem firstGraph_of_low (h : view.itemAt? view.window.low = some low)
    (hfits : view.window.FitsIn view.graphs.length) (w : World) :
    w.firstGraph view = w.unwrap true low := by
  obtain ⟨hlow, hordered, hhigh⟩ := hfits
  have hentry : view.window.lowEntry? view.graphs = some low := by
    rw [Window.lowEntry?, if_pos (by omega), Window.entryAt, if_pos hlow]
    exact h
  rw [World.firstGraph, World.firstOf, hentry]

theorem secondGraph_of_high (h : view.itemAt? view.window.high = some high)
    (hfits : view.window.FitsIn view.graphs.length) (w : World) :
    w.secondGraph view = w.unwrap false high := by
  obtain ⟨hlow, hordered, hhigh⟩ := hfits
  have hentry : Window.entryAt view.graphs view.window.high = some high := by
    rw [Window.entryAt, if_pos (by omega)]
    exact h
  rw [World.secondGraph, World.secondOf, if_pos hhigh, hentry]

/-- Two windows over the same snapshots that denote the same entries resolve alike. -/
theorem Denotes.resolved (h : view.Denotes low high) (h' : view'.Denotes low high)
    (hfits : view.window.FitsIn view.graphs.length)
    (hfits' : view'.window.FitsIn view'.graphs.length) (hsnapshots : w'.snapshots = w.snapshots)
    (hselection : view'.selection = view.selection) (hresolved : Resolved w view) :
    Resolved w' view' := by
  obtain ⟨s, hs, hfirst, hsecond⟩ := hresolved
  rw [firstGraph_of_low h.1 hfits, ← unwrap_congr hsnapshots] at hfirst
  rw [secondGraph_of_high h.2 hfits, ← unwrap_congr hsnapshots] at hsecond
  exact ⟨s, hselection.trans hs, (firstGraph_of_low h'.1 hfits' w').trans hfirst,
    (secondGraph_of_high h'.2 hfits' w').trans hsecond⟩

/-! ## Announcing and redrawing -/

/-- What is chosen in two views is the same. -/
structure SameChoice (view view' : View) : Prop where
  graphs : view'.graphs = view.graphs
  window : view'.window = view.window
  hideDuplicates : view'.hideDuplicates = view.hideDuplicates
  selectedNodes : view'.selectedNodes = view.selectedNodes
  hiddenNodes : view'.hiddenNodes = view.hiddenNodes

theorem SameChoice.trans (h : SameChoice view view') (h' : SameChoice view' view'') :
    SameChoice view view'' where
  graphs := h'.graphs.trans h.graphs
  window := h'.window.trans h.window
  hideDuplicates := h'.hideDuplicates.trans h.hideDuplicates
  selectedNodes := h'.selectedNodes.trans h.selectedNodes
  hiddenNodes := h'.hiddenNodes.trans h.hiddenNodes

/-- The events announce no other graph. -/
def KeepsGraph (v : ViewRef) (es : List Event) : Prop := ∀ r, .announced v .graphChanged r ∉ es

theorem KeepsGraph.append (h : KeepsGraph v es) (h' : KeepsGraph v es') :
    KeepsGraph v (es ++ es') := by
  intro r hr
  rcases List.mem_append.1 hr with hr | hr
  · exact h r hr
  · exact h' r hr

theorem keepsGraph_of_interlude {r : Reading} (h : Interlude v r es) : KeepsGraph v es := by
  intro r' hr'
  have hconfirms := h.confirms _ hr'
  obtain ⟨hn, -⟩ := hconfirms rfl
  cases hn

/-- A view goes on with a change: all that was chosen stays, the first snapshot too, and the window
is resolved. -/
structure Advances (v : ViewRef) (es : List Event) (w : World) (view : View) (w' : World)
    (view' : View) : Prop where
  found : w'.views[v]? = some view'
  busy : view'.busy = true
  trace : w'.trace = w.trace ++ es
  snapshots : ∃ es, SnapshotsKept es w w'
  choice : SameChoice view view'
  first : w'.firstGraph view' = w.firstGraph view
  resolved : Resolved w' view'

theorem Advances.trans (h : Advances v es w view w' view')
    (h' : Advances v es' w' view' w'' view'') : Advances v (es ++ es') w view w'' view'' where
  found := h'.found
  busy := h'.busy
  trace := by rw [h'.trace, h.trace, List.append_assoc]
  snapshots := by
    obtain ⟨es, hkept⟩ := h.snapshots
    obtain ⟨es', hkept'⟩ := h'.snapshots
    exact ⟨es ++ es', hkept.trans hkept'⟩
  choice := h.choice.trans h'.choice
  first := h'.first.trans h.first
  resolved := h'.resolved

/-- What is read after a notice was delivered is what was read before. -/
theorem Delivered.advances {n : Notice} (h : Delivered v n es w view w' view') :
    Advances v ([.announced v n (w.reading view)] ++ es) w view w' view' where
  found := h.found
  busy := h.busy
  trace := by rw [h.trace, List.append_assoc]
  snapshots := h.snapshots
  choice := by
    have hreading := h.reading
    exact ⟨congrArg Reading.graphs hreading, congrArg Reading.window hreading,
      congrArg Reading.hideDuplicates hreading, congrArg Reading.selectedNodes hreading,
      congrArg Reading.hiddenNodes hreading⟩
  first := congrArg Reading.first h.reading
  resolved := h.resolved

/-- A view goes on with a change and keeps its graph, if this is what its window resolves to. -/
structure Proceeds (v : ViewRef) (es : List Event) (w : World) (view : View) (w' : World)
    (view' : View) : Prop extends Advances v es w view w' view' where
  kept : Resolved w view →
    view'.selection = view.selection ∧ view'.diagram = view.diagram ∧ KeepsGraph v es

theorem Proceeds.trans (h : Proceeds v es w view w' view')
    (h' : Proceeds v es' w' view' w'' view'') : Proceeds v (es ++ es') w view w'' view'' where
  toAdvances := h.toAdvances.trans h'.toAdvances
  kept hresolved := by
    obtain ⟨hselection, hdiagram, hes⟩ := h.kept hresolved
    obtain ⟨hselection', hdiagram', hes'⟩ := h'.kept h.resolved
    exact ⟨hselection'.trans hselection, hdiagram'.trans hdiagram, hes.append hes'⟩

/-- Something is written that does not tell the chosen from the chosen before. -/
theorem proceeds_of_found (htrace : w'.trace = w.trace) (hsnapshots : w'.snapshots = w.snapshots)
    (hview : w'.views[v]? = some view') (hbusy : view'.busy = true)
    (hchoice : SameChoice view view') (hselection : view'.selection = view.selection)
    (hdiagram : view'.diagram = view.diagram) (hresolved : Resolved w view) :
    Proceeds v [] w view w' view' where
  found := hview
  busy := hbusy
  trace := by rw [htrace, List.append_nil]
  snapshots := ⟨[], .of_eq hsnapshots⟩
  choice := hchoice
  first := by
    have hkept : SnapshotsKept [] w w' := .of_eq hsnapshots
    exact (hresolved.ends_eq hkept hchoice.graphs hchoice.window).1
  resolved := by
    have hkept : SnapshotsKept [] w w' := .of_eq hsnapshots
    exact hresolved.mono hkept hchoice.graphs hchoice.window hselection
  kept _ := ⟨hselection, hdiagram, fun _ => List.not_mem_nil⟩

theorem Proceeds.refl (hview : w.views[v]? = some view) (hbusy : view.busy = true)
    (hresolved : Resolved w view) : Proceeds v [] w view w view :=
  proceeds_of_found rfl rfl hview hbusy ⟨rfl, rfl, rfl, rfl, rfl⟩ rfl rfl hresolved

theorem Delivered.proceeds {n : Notice} (h : Delivered v n es w view w' view')
    (hn : n ≠ .graphChanged) :
    Proceeds v ([.announced v n (w.reading view)] ++ es) w view w' view' where
  toAdvances := h.advances
  kept _ := by
    refine ⟨h.selection, h.diagram, KeepsGraph.append (fun r hr => ?_)
      (keepsGraph_of_interlude h.interlude)⟩
    cases List.mem_singleton.1 hr
    exact hn rfl

/-- From a view a step comes to one that has proceeded. -/
def Proceeding {α : Type} (v : ViewRef) (act : Act α) (w : World) (view : View) : Prop :=
  act.Ends w (fun _ w' => ∃ es view', Proceeds v es w view w' view') fun _ _ => True

theorem Proceeding.bind {α β : Type} {act : Act α} {next : α → Act β}
    (h : Proceeding v act w view) (hnext : ∀ x w' view', w'.views[v]? = some view' →
      view'.busy = true → Resolved w' view' → Proceeding v (next x) w' view') :
    Proceeding v (act >>= next) w view := by
  refine Act.Ends.bind h fun x w' hx => ?_
  obtain ⟨es, view', hproceeds⟩ := hx
  refine (hnext x w' view' hproceeds.found hproceeds.busy hproceeds.resolved).mono
    (fun _ w'' hx => ?_) fun _ _ h => h
  obtain ⟨es', view'', hproceeds'⟩ := hx
  exact ⟨_, view'', hproceeds.trans hproceeds'⟩

section

variable (ha : ∀ n w w', a v n w = some w' → ∃ es, Undisturbed v es (w.noteReading v n) w')

include ha

theorem announce_proceeds {n : Notice} (hn : n ≠ .graphChanged) (hview : w.views[v]? = some view)
    (hbusy : view.busy = true) (hresolved : Resolved w view) :
    Proceeding v (announce a v n) w view := by
  refine (announce_delivered ha n hview hbusy hresolved).mono (fun _ w' h => ?_) fun _ _ h => h
  obtain ⟨es, view', hd⟩ := h
  exact ⟨_, view', hd.proceeds hn⟩

/-- When the ends of a window are shown, another graph is drawn and announced. -/
theorem showEnds_advances {first second : SnapshotRef} (hview : w.views[v]? = some view)
    (hbusy : view.busy = true) (hfirst : w.firstGraph view = .ok first)
    (hsecond : w.secondGraph view = .ok second) :
    (showEnds a v first second).Ends w (fun _ w' => ∃ es view', Advances v es w view w' view')
      fun _ _ => True := by
  refine showEnds_replaces hview hfirst fun s w₁ hs₁ hs₂ hreplaced => ?_
  subst hs₁ hs₂
  obtain ⟨d, hview₁, -⟩ := hreplaced.found
  have hresolved := hreplaced.resolved hfirst hsecond d
  obtain ⟨es, hkept⟩ := hreplaced.snapshots
  obtain ⟨notes, htrace, -⟩ := hreplaced.notes
  have hdrawn : Advances v notes w view w₁ { view with selection := some s, diagram := some d } :=
    ⟨hview₁, hbusy, htrace, ⟨es, hkept⟩, ⟨rfl, rfl, rfl, rfl, rfl⟩,
      (hkept.firstOf hfirst).trans hfirst.symm, hresolved⟩
  refine (announce_delivered ha _ hview₁ hbusy hresolved).bind fun _ w₂ hd => ?_
  obtain ⟨es₂, view₂, hd⟩ := hd
  refine (announce_delivered ha _ hd.found hd.busy hd.resolved).mono (fun _ w₃ hd' => ?_)
    fun _ _ h => h
  obtain ⟨es₃, view₃, hd'⟩ := hd'
  exact ⟨_, view₃, hdrawn.trans (hd.advances.trans hd'.advances)⟩

theorem showWindow_proceeds (hview : w.views[v]? = some view) (hbusy : view.busy = true) :
    Proceeding v (showWindow a v) w view := by
  refine ends_showWindow hview (fun _ _ => trivial) (fun _ _ _ _ => trivial)
    (fun first second hfirst hsecond hknows => ?_) fun first second hfirst hsecond hknows => ?_
  · exact ⟨[], view, .refl hview hbusy ((resolved_iff_knows hfirst hsecond).2 hknows)⟩
  · refine (showEnds_advances ha hview hbusy hfirst hsecond).mono (fun _ w' h => ?_) fun _ _ h => h
    obtain ⟨es, view', hadvances⟩ := h
    exact ⟨es, view', hadvances, fun hresolved => absurd
      ((resolved_iff_knows hfirst hsecond).1 hresolved) (Bool.eq_false_iff.1 hknows)⟩

theorem windowMoved_proceeds (hview : w.views[v]? = some view) (hbusy : view.busy = true) :
    Proceeding v (windowMoved a v) w view := by
  unfold windowMoved
  refine (showWindow_proceeds ha hview hbusy).bind fun replaced w' view' hview' hbusy' hresolved =>
    ?_
  refine (announce_proceeds ha (by simp) hview' hbusy' hresolved).bind
    fun _ w'' view'' hview'' hbusy'' hresolved' => ?_
  exact Act.ends_pure.2 ⟨[], view'', .refl hview'' hbusy'' hresolved'⟩

theorem announceKept_proceeds (replaced : Bool) (hview : w.views[v]? = some view)
    (hbusy : view.busy = true) (hresolved : Resolved w view) :
    Proceeding v (announceKept a v replaced) w view := by
  cases replaced with
  | false => exact announce_proceeds ha (by simp) hview hbusy hresolved
  | true => exact Act.ends_pure.2 ⟨[], view, .refl hview hbusy hresolved⟩

/-- Selecting the nodes that are selected announces them, and colours the snapshots anew. -/
theorem setSelectedNodes_proceeds (hview : w.views[v]? = some view) (hbusy : view.busy = true)
    (hresolved : Resolved w view) :
    Proceeding v (setSelectedNodes a v view.selectedNodes) w view := by
  have hwritten : Proceeding v (Act.modifyView v fun view₁ =>
      { view₁ with
        selectedNodes := view.selectedNodes
        colors := Highlight.colors view.selectedNodes.toList (w.contents view₁.graphs) }) w view :=
    Act.ends_modifyView.2 ⟨[], _, proceeds_of_found rfl rfl (views_modifyView_self hview _) hbusy
      ⟨rfl, rfl, rfl, rfl, rfl⟩ rfl rfl hresolved⟩
  unfold setSelectedNodes Proceeding
  rw [Act.ends_bind, Act.ends_get]
  refine hwritten.bind fun _ w₁ view₁ hview₁ hbusy₁ hresolved₁ => ?_
  refine (announce_proceeds ha (by simp) hview₁ hbusy₁ hresolved₁).bind
    fun _ w₂ view₂ hview₂ hbusy₂ hresolved₂ => ?_
  exact announce_proceeds ha (by simp) hview₂ hbusy₂ hresolved₂

end

/-! ## The visible snapshots -/

/-- The visible snapshots were computed anew, and duplicates are shown if there is nothing else. -/
structure Refilled (v : ViewRef) (es : List Event) (w : World) (view : View) (group : Group)
    (w' : World) (view' : View) : Prop where
  found : w'.views[v]? = some view'
  busy : view'.busy = view.busy
  trace : w'.trace = w.trace ++ es
  quiet : KeepsGraph v es
  snapshots : w'.snapshots = w.snapshots
  graphs : view'.graphs = Sequence.visible w.isDuplicate view'.hides group.members
  nonempty : view'.graphs ≠ []
  hideDuplicates : view'.hideDuplicates =
    if view.hides && group.members.all w.isDuplicate then .bool false else view.hideDuplicates
  window : view'.window =
    if view.hides && group.members.all w.isDuplicate then
      (view.window.clamp 0).clamp view'.graphs.length
    else view.window.clamp view'.graphs.length
  selectedNodes : view'.selectedNodes = view.selectedNodes
  hiddenNodes : view'.hiddenNodes = view.hiddenNodes
  selection : view'.selection = view.selection
  diagram : view'.diagram = view.diagram

theorem runIn_refilter (hview : w.views[v]? = some view)
    (hgroup : w.groups[view.group]? = some group) :
    (refilter v).runIn w =
      some (.ok (), w.modifyView v (refiltered w view.hideDuplicates group.members)) := by
  rw [refilter, Act.runIn_bind_ok (Act.runIn_view hview), runIn_refilterWith hview hgroup]

theorem refilterShowing_ends {E : Failure → World → Prop} (hview : w.views[v]? = some view)
    (hgroup : w.groups[view.group]? = some group) (hmembers : group.members ≠ []) :
    (refilterShowing v).Ends w (fun _ w' => ∃ es view', Refilled v es w view group w' view') E := by
  have hview₁ := views_modifyView_self hview (refiltered w view.hideDuplicates group.members)
  have hgroup₁ : (w.modifyView v (refiltered w view.hideDuplicates group.members)).groups[
      (refiltered w view.hideDuplicates group.members view).group]? = some group := hgroup
  have hnil (hide : Bool) := Sequence.visible_eq_nil_iff w.isDuplicate hide hmembers
  unfold refilterShowing
  rw [Act.ends_bind, Act.ends_of_ok (runIn_refilter hview hgroup), Act.ends_bind,
    Act.ends_of_ok (Act.runIn_view hview₁)]
  split
  · rename_i hnone
    rw [Bool.and_eq_true, List.isEmpty_iff] at hnone
    have hall := (hnil view.hides).1 hnone.1
    rw [Act.ends_bind, Act.ends_of_ok (Act.runIn_group hgroup₁), Act.ends_bind]
    refine Act.ends_record.2 ((Act.ends_of_ok
      (runIn_refilterWith (w := (w.modifyView v _).record _) hview₁ hgroup₁ _)).2 ?_)
    have hwindow : (refiltered w view.hideDuplicates group.members view).window =
        view.window.clamp 0 := by
      have hclamp : (refiltered w view.hideDuplicates group.members view).window =
          view.window.clamp
            (refiltered w view.hideDuplicates group.members view).graphs.length := rfl
      rw [hclamp, hnone.1, List.length_nil]
      rfl
    exact ⟨[.logged _], _, views_modifyView_self hview₁ _, rfl, rfl, by simp [KeepsGraph], rfl, rfl,
      mt (hnil false).1 (by simp), (if_pos hall).symm, by rw [if_pos hall, ← hwindow]; rfl, rfl,
      rfl, rfl, rfl⟩
  · rename_i hsome
    have hnonempty : Sequence.visible w.isDuplicate view.hides group.members ≠ [] := by
      intro hempty
      refine hsome ?_
      rw [Bool.and_eq_true, List.isEmpty_iff]
      exact ⟨hempty, (Bool.and_eq_true .. ▸ (hnil _).1 hempty).1⟩
    have hnotAll := mt (hnil view.hides).2 hnonempty
    exact Act.ends_pure.2 ⟨[], _, hview₁, rfl, (List.append_nil _).symm, by simp [KeepsGraph], rfl,
      rfl, hnonempty, (if_neg hnotAll).symm, (if_neg hnotAll).symm, rfl, rfl, rfl, rfl⟩

/-! ## The window -/

/-- The window moves to the low entry, and on to the high one if this is not before it. -/
theorem keepOn_ends (hview : w.views[v]? = some view) (low high : Option SnapshotRef) :
    (keepOn v low high).Ends w (fun _ w' => ∃ window, w'.views[v]? = some { view with window } ∧
      w'.snapshots = w.snapshots ∧ w'.trace = w.trace ∧
      ∀ i, low.bind (Sequence.indexOf? view.graphs) = some i →
        window = ⟨i, (max i ((high.bind (Sequence.indexOf? view.graphs)).getD i) : Nat)⟩ ∧
          window.FitsIn view.graphs.length) fun _ _ => True := by
  unfold keepOn
  rw [Act.ends_bind, Act.ends_of_ok (Act.runIn_view hview)]
  split
  · rename_i i hi
    dsimp only
    rw [Act.ends_bind]
    refine Act.ends_ofExcept (fun window hwindow => ?_) fun _ _ => trivial
    refine Act.ends_modifyView.2 ⟨window, views_modifyView_self hview _, rfl, rfl, fun i' hi' => ?_⟩
    cases hi.symm.trans hi'
    exact ⟨Window.eq_of_ofBounds hwindow, Window.fitsIn_of_ofBounds hwindow⟩
  · rename_i hnone
    exact Act.ends_pure.2 ⟨view.window, hview, rfl, rfl, fun i hi => absurd hi (by simp [hnone])⟩

/-- The window was moved to where its low entry is now, and reaches to where its high entry is if
this is not before it. -/
def Refocused (view view' : View) : Prop :=
  ∀ low high i, view.Denotes low high → Sequence.indexOf? view'.graphs low = some i →
    view'.window = ⟨i, (max i ((Sequence.indexOf? view'.graphs high).getD i) : Nat)⟩ ∧
      view'.window.FitsIn view'.graphs.length

theorem SameChoice.refocused (hsame : SameChoice view' view'') (h : Refocused view view') :
    Refocused view view'' := by
  unfold Refocused
  rw [hsame.graphs, hsame.window]
  exact h

theorem SameChoice.denotes_iff (h : SameChoice view view') :
    view'.Denotes low high ↔ view.Denotes low high := by
  unfold Denotes itemAt?
  rw [h.graphs, h.window]

/-- If the low entry is still there, the window begins at it and fits. -/
theorem Refocused.from_low (h : Refocused view view') (hd : view.Denotes low high)
    (hlow : low ∈ view'.graphs) :
    view'.itemAt? view'.window.low = some low ∧ view'.window.FitsIn view'.graphs.length := by
  obtain ⟨i, hi⟩ := Sequence.indexOf?_of_mem hlow
  obtain ⟨hwindow, hfits⟩ := h low high i hd hi
  refine ⟨?_, hfits⟩
  rw [hwindow]
  exact Sequence.getElem?_of_indexOf? hi

theorem Refocused.pair {i j : Nat} (h : Refocused view view') (hd : view.Denotes low high)
    (hi : Sequence.indexOf? view'.graphs low = some i)
    (hj : Sequence.indexOf? view'.graphs high = some j) (hij : i ≤ j) :
    view'.Denotes low high := by
  obtain ⟨hwindow, -⟩ := h low high i hd hi
  rw [hj, Option.getD_some, Nat.max_eq_right hij] at hwindow
  rw [Denotes, hwindow]
  exact ⟨Sequence.getElem?_of_indexOf? hi, Sequence.getElem?_of_indexOf? hj⟩

theorem Refocused.alone {i : Nat} (h : Refocused view view') (hd : view.Denotes low high)
    (hi : Sequence.indexOf? view'.graphs low = some i)
    (hbefore : ∀ j, Sequence.indexOf? view'.graphs high = some j → j < i) :
    view'.Denotes low low ∧ view'.window.isSingle = true := by
  obtain ⟨hwindow, -⟩ := h low high i hd hi
  have hmax : max i ((Sequence.indexOf? view'.graphs high).getD i) = i := by
    cases hj : Sequence.indexOf? view'.graphs high with
    | none => simp
    | some j =>
      have hlt := hbefore j hj
      rw [Option.getD_some]
      omega
  rw [hmax] at hwindow
  rw [Denotes, hwindow]
  exact ⟨⟨Sequence.getElem?_of_indexOf? hi, Sequence.getElem?_of_indexOf? hi⟩,
    by simp [Window.isSingle]⟩

theorem mem_of_itemAt? {r : SnapshotRef} {i : Int} (h : view.itemAt? i = some r) :
    r ∈ view.graphs :=
  List.mem_of_getElem? h

/-! ## The change -/

/-- After a change of the group, the window of a view is on its entries as far as they are visible
still, and the rest of what was chosen is as it was. -/
structure KeepsSelection (v : ViewRef) (es : List Event) (w : World) (view : View) (group : Group)
    (w' : World) (view' : View) : Prop where
  graphs : view'.graphs = Sequence.visible w.isDuplicate view'.hides group.members
  nonempty : view'.graphs ≠ []
  hideDuplicates : view'.hideDuplicates =
    if view.hides && group.members.all w.isDuplicate then .bool false else view.hideDuplicates
  selectedNodes : view'.selectedNodes = view.selectedNodes
  hiddenNodes : view'.hiddenNodes = view.hiddenNodes
  first : ∀ low high, view.Denotes low high → low ∈ view'.graphs →
    w'.firstGraph view' = w.firstGraph view
  pair : ∀ low high i j, view.Denotes low high →
    Sequence.indexOf? view'.graphs low = some i → Sequence.indexOf? view'.graphs high = some j →
    i ≤ j → view'.Denotes low high
  alone : ∀ low high i, view.Denotes low high →
    Sequence.indexOf? view'.graphs low = some i →
    (∀ j, Sequence.indexOf? view'.graphs high = some j → j < i) →
    view'.Denotes low low ∧ view'.window.isSingle = true
  /-- If the window denotes the same pair, the graph and the diagram are the same ones. -/
  unchanged : Resolved w view → ∀ low high, view.Denotes low high → view'.Denotes low high →
    view'.selection = view.selection ∧ view'.diagram = view.diagram ∧ KeepsGraph v es

/-- A view that follows its group keeps the selection that it can keep, whatever has become of the
group, and whatever listeners do meanwhile. -/
theorem perform_keepsSelection (hR : Listening R) (hview : w.views[v]? = some view)
    (hbusy : view.busy = true) (hgroup : w.groups[view.group]? = some group)
    (hmembers : group.members ≠ []) (hfits : view.window.FitsIn view.graphs.length)
    (h : (perform (announceView R) v .groupChanged).runIn w = some (.ok (), w')) :
    ∃ es view', w'.views[v]? = some view' ∧ w'.trace = w.trace ++ es ∧
      KeepsSelection v es w view group w' view' := by
  have hcalls : CallsWithin R (StaysTuned v) := fun k u u' hu =>
    ⟨(hR k u u' hu).framed, (hR k u u' hu).sound, (hR k u u' hu).staysTuned⟩
  have ha := announceView_undisturbed hcalls
  revert h
  suffices hends : (groupChanged (announceView R) v).Ends w (fun _ w' => ∃ es view',
      w'.views[v]? = some view' ∧ w'.trace = w.trace ++ es ∧
        KeepsSelection v es w view group w' view') fun _ _ => True from hends.1 () w'
  unfold groupChanged
  rw [Act.ends_bind, Act.ends_of_ok (Act.runIn_view hview)]
  -- nothing is announced until the window is back on its entries
  refine (refilterShowing_ends hview hgroup hmembers).bind fun _ w₁ ⟨es₁, view₁, h₁⟩ => ?_
  refine (keepOn_ends h₁.found _ _).bind
    fun _ w₂ ⟨window, hview₂, hsnapshots, htrace, hwindow⟩ => ?_
  have hbusy₂ : view₁.busy = true := h₁.busy.trans hbusy
  have hrest : Proceeding v (do
      announceKept (announceView R) v (← windowMoved (announceView R) v)
      setSelectedNodes (announceView R) v (← Act.view v).selectedNodes) w₂
        { view₁ with window } := by
    refine (windowMoved_proceeds ha hview₂ hbusy₂).bind fun replaced u x hx hbusy hresolved => ?_
    refine (announceKept_proceeds ha replaced hx hbusy hresolved).bind
      fun _ u x hx hbusy hresolved => ?_
    unfold Proceeding
    rw [Act.ends_bind, Act.ends_of_ok (Act.runIn_view hx)]
    exact setSelectedNodes_proceeds ha hx hbusy hresolved
  refine hrest.mono (fun _ w' ⟨es, view', hproceeds⟩ => ?_) fun _ _ h => h
  have hchoice := hproceeds.choice
  have hsame : w₂.snapshots = w.snapshots := hsnapshots.trans h₁.snapshots
  have hrefocused₂ : Refocused view { view₁ with window } := by
    intro low high i hd hi
    rw [hd.1, hd.2] at hwindow
    exact hwindow i hi
  have hrefocused : Refocused view view' := hchoice.refocused hrefocused₂
  refine ⟨es₁ ++ es, view', hproceeds.found, ?_, ?_, ?_, ?_, ?_, ?_, ?_, ?_, ?_, ?_⟩
  · rw [hproceeds.trace, htrace, h₁.trace, List.append_assoc]
  · rw [hchoice.graphs, hides, hchoice.hideDuplicates]
    exact h₁.graphs
  · rw [hchoice.graphs]
    exact h₁.nonempty
  · exact hchoice.hideDuplicates.trans h₁.hideDuplicates
  · exact hchoice.selectedNodes.trans h₁.selectedNodes
  · exact hchoice.hiddenNodes.trans h₁.hiddenNodes
  · intro low high hd hlow
    obtain ⟨hlow₂, hfits₂⟩ := hrefocused₂.from_low hd (hchoice.graphs ▸ hlow)
    rw [hproceeds.first, firstGraph_of_low hlow₂ hfits₂, unwrap_congr hsame,
      firstGraph_of_low hd.1 hfits]
  · exact fun low high i j hd => hrefocused.pair hd
  · exact fun low high i hd => hrefocused.alone hd
  · intro hresolved low high hd hd'
    -- so the window resolves to what is shown before it is redrawn, and stays so
    have hd₂ := hchoice.denotes_iff.1 hd'
    have hfits₂ := (hrefocused₂.from_low hd (mem_of_itemAt? hd₂.1)).2
    have hresolved₂ := hd.resolved hd₂ hfits hfits₂ hsame h₁.selection hresolved
    obtain ⟨hselection, hdiagram, hes⟩ := hproceeds.kept hresolved₂
    exact ⟨hselection.trans h₁.selection, hdiagram.trans h₁.diagram, h₁.quiet.append hes⟩

/-- A change of the first view begins after its group was given other members. -/
def beginsAmong (members : List SnapshotRef) (w : World) : World :=
  (w.modifyGroup 0 fun group => { group with members }).modifyView 0 fun view =>
    { view with busy := true }

/-- In `duplicateHidden` the third snapshot is compared with the first one, and then another one is
put before them. -/
theorem duplicateHidden_regrouped :
    ((View.mutate (announceView fun _ w => some w) 0 (.selectDifference 2)).runIn
      duplicateHidden).any (fun p =>
        failures 0 p.2.trace = [] ∧
        (beginsAmong [3, 0, 1, 2] p.2).groups.map (·.members) = [[3, 0, 1, 2]] ∧
        (∃ view ∈ p.2.views[0]?, view.group = 0 ∧ view.graphs = [0, 2] ∧ view.window = ⟨0, 1⟩) ∧
        ((perform (announceView fun _ w => some w) 0 .groupChanged).runIn
          (beginsAmong [3, 0, 1, 2] p.2)).any (fun q => q.1.toOption = some () ∧
            q.2.views[0]?.map (·.graphs) = some [3, 0, 2]) = true) = true := by
  unfold View.mutate runChange
  simp only [drain_eq_drainFirst _ _ 3]
  decide +kernel

theorem perform_keepsSelection_compared : ∃ (w w' : World) (view view' : View) (group : Group)
    (es : List Event), w.views[0]? = some view ∧ w.groups[view.group]? = some group ∧
      group.members = [3, 0, 1, 2] ∧ Resolved w view ∧ view.Denotes 0 2 ∧
      (perform (announceView fun _ w => some w) 0 .groupChanged).runIn w = some (.ok (), w') ∧
      w'.views[0]? = some view' ∧ view'.graphs = [3, 0, 2] ∧
      KeepsSelection 0 es w view group w' view' ∧ view'.Denotes 0 2 := by
  obtain ⟨⟨r, w⟩, hrun, hseen⟩ := Option.any_eq_true _ _ |>.1 duplicateHidden_regrouped
  obtain ⟨hflawless, hmembers, ⟨view, hview, hgroup, hgraphs, hwindow⟩, hperformed⟩ :=
    of_decide_eq_true hseen
  obtain ⟨⟨r', w'⟩, hrun', hafter⟩ := Option.any_eq_true _ _ |>.1 hperformed
  obtain ⟨hok, hgraphs'⟩ := of_decide_eq_true hafter
  cases r' with
  | error e => cases hok
  | ok x =>
    obtain ⟨group, hgroup', hgroupMembers⟩ :=
      group_of_members (g := view.group) hmembers (by rw [hgroup]; rfl)
    have hbegun : (beginsAmong [3, 0, 1, 2] w).views[0]? = some { view with busy := true } :=
      views_modifyView_self (w := w.modifyGroup 0 _) hview _
    have hfits : view.window.FitsIn view.graphs.length := by
      rw [hwindow, hgraphs]
      exact ⟨by decide, by decide, by decide⟩
    have hdenotes : view.Denotes 0 2 := by
      rw [Denotes, itemAt?, itemAt?, hwindow, hgraphs]
      decide
    have hresolved : Resolved w view :=
      ((reachable_compared hrun).coherent hview (by simp [Whole, hflawless])).1
    have hkept : SnapshotsKept [] w (beginsAmong [3, 0, 1, 2] w) := .of_eq rfl
    obtain ⟨es, view', hview', -, hkeeps⟩ := perform_keepsSelection listening_unheard hbegun rfl
      hgroup' (by simp [hgroupMembers]) hfits hrun'
    rw [hview', Option.map_some, Option.some_inj] at hgraphs'
    exact ⟨_, w', _, view', group, es, hbegun, hgroup', hgroupMembers,
      hresolved.mono hkept rfl rfl rfl, hdenotes, hrun', hview', hgraphs', hkeeps,
      hkeeps.pair 0 2 1 2 hdenotes (by rw [hgraphs']; rfl) (by rw [hgraphs']; rfl) (by decide)⟩

end View

end SnapshotViewer
