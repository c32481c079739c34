import SnapshotViewer.Proofs.Diagram.FigurePerNode
import SnapshotViewer.Proofs.Highlight.Colors
import SnapshotViewer.Proofs.View.FollowingChains
import SnapshotViewer.Proofs.View.SelectedMember

/-!
# Selected nodes in the diagram and on the slider

A negative id that is selected stands for its opposite. The slider takes it so, and the selected
figures do not. Main statement: `World.selectedFigures_iff`: for a window on a single captured
snapshot, when the two agree.
-/

namespace SnapshotViewer

namespace Highlight

variable {id : Int} {ids : List Int} {visible : List Snapshot} {s : Snapshot} {i : Nat}

/-- A node is among those that the ids stand for if its own id or its opposite is given. -/
theorem mem_normalize_iff (hid : 0 ≤ id) :
    id ∈ normalize ids ↔ id ∈ ids ∨ ∃ x ∈ ids, x < 0 ∧ -x = id := by
  rw [mem_normalize]
  constructor
  · rintro ⟨x, hx, rfl⟩
    by_cases hneg : x < 0
    · exact .inr ⟨x, hx, hneg, by omega⟩
    · have hsame : (x.natAbs : Int) = x := by omega
      exact .inl (hsame.symm ▸ hx)
  · rintro (hmem | ⟨x, hx, hneg, rfl⟩)
    · exact ⟨id, hmem, by omega⟩
    · exact ⟨x, hx, by omega⟩

/-- A visible snapshot has a colour if and only if a selected node is in it. -/
theorem getElem?_colors (ids : List Int) (h : visible[i]? = some s) :
    ∃ c, (colors ids visible)[i]? = some c ∧
      (c ≠ .none ↔ ∃ n ∈ normalize ids, n ∈ s.nodeIds) := by
  have hi : i < visible.length := (List.getElem?_eq_some_iff.1 h).1
  refine ⟨_, getElem?_layered (normalize ids).toList hi, ?_⟩
  have habsent (n : Int) : shade visible i n = ⊥ ↔ n ∉ s.nodeIds := by
    rw [shade_eq_bot, nodeAt?, h, Option.bind_some, Snapshot.node?, Option.map_eq_none_iff,
      OrderedMap.get?_eq_none]
    rfl
  change _ ≠ (⊥ : Highlight) ↔ _
  rw [ne_eq, Finset.sup_eq_bot_iff]
  simp only [habsent, List.mem_toFinset, not_forall, not_not, exists_prop]
  rfl

end Highlight

/-! ## Selected figures -/

namespace Figure

variable {figures : List Figure} {ids ids' : List Int}

/-- The same figures are selected if and only if the lists agree on the figures. -/
theorem select_eq_select_iff : select figures ids = select figures ids' ↔
    ∀ n ∈ figures.map Figure.id, n ∈ ids ↔ n ∈ ids' := by
  constructor
  · intro hsame n hn
    obtain ⟨f, hf, rfl⟩ := List.mem_map.1 hn
    have hiff : f ∈ select figures ids ↔ f ∈ select figures ids' := by rw [hsame]
    simpa [select, hf] using hiff
  · intro hall
    refine List.filter_congr fun f hf => ?_
    rw [Bool.eq_iff_iff, List.contains_iff_mem, List.contains_iff_mem]
    exact hall f.id (List.mem_map_of_mem hf)

theorem select_ne_nil_iff : select figures ids ≠ [] ↔ ∃ n ∈ ids, n ∈ figures.map Figure.id := by
  constructor
  · intro hne
    obtain ⟨f, hf⟩ := List.exists_mem_of_ne_nil _ hne
    obtain ⟨hmem, hid⟩ := List.mem_filter.1 hf
    exact ⟨f.id, List.contains_iff_mem.1 hid, List.mem_map_of_mem hmem⟩
  · rintro ⟨n, hn, hfigure⟩ hnil
    obtain ⟨f, hf, rfl⟩ := List.mem_map.1 hfigure
    have hmem : f ∈ select figures ids := List.mem_filter.2 ⟨hf, List.contains_iff_mem.2 hn⟩
    rw [hnil] at hmem
    exact List.not_mem_nil hmem

end Figure

namespace World

open View

/-- Snapshots that are all stored keep their places. -/
theorem getElem?_contents {w : World} {rs : List SnapshotRef} {i : Nat} {r : SnapshotRef}
    {s : Snapshot} (hrs : ∀ r ∈ rs, r < w.snapshots.length) (hr : rs[i]? = some r)
    (hs : w.snapshots[r]? = some s) : (w.contents rs)[i]? = some s := by
  induction rs generalizing i with
  | nil => cases hr
  | cons q rest ih =>
    have hq := List.getElem?_eq_getElem (hrs q List.mem_cons_self)
    unfold contents at ih ⊢
    rw [List.filterMap_cons_some hq]
    cases i with
    | zero =>
      cases hr
      exact congrArg some (Option.some_inj.1 (hq.symm.trans hs))
    | succ i => exact ih (fun q hq => hrs q (List.mem_cons_of_mem _ hq)) hr

variable {w₀ w : World} {commands : List Command} {v : ViewRef} {view : View} {r : SnapshotRef}
  {s : Snapshot}

/-- The colour at the window tells whether a selected node is in the snapshot there. -/
theorem Sound.color (hw : Sound w) (hes : Unedited w.trace) (hview : w.views[v]? = some view)
    (hlow : view.itemAt? view.window.low = some r) (hs : w.snapshots[r]? = some s) :
    ∃ c, view.colors[view.window.low.toNat]? = some c ∧
      (c ≠ .none ↔ ∃ n ∈ Highlight.normalize view.selectedNodes.toList, n ∈ s.nodeIds) := by
  have hsound := hw.view hview
  rw [hsound.colors hes]
  exact Highlight.getElem?_colors _ (getElem?_contents hsound.graphs hlow hs)

/-- The diagram for a window on a single captured snapshot has one figure for each node of it. -/
theorem Initial.figures (hw₀ : Initial w₀) (hfilters : w₀.InPlace)
    (hrun : w₀.run commands = some w) (hes : Unedited w.trace) (hview : w.views[v]? = some view)
    (hwhole : Whole v w.trace) (hsingle : view.window.isSingle = true)
    (hlow : view.itemAt? view.window.low = some r) (hs : w.snapshots[r]? = some s)
    (hplain : s.isDifference = false) : view.figures.map Figure.id = s.nodeIds := by
  have hw : w.Reachable := ⟨w₀, commands, hw₀, hrun⟩
  obtain ⟨hresolved, sel, d, hsel, hd, hgraph⟩ := hw.coherent hview hwhole
  have hcaptured : w.Captured [r, r] := by
    intro q hq
    obtain rfl : q = r := by simpa using hq
    exact ⟨s, hs, hplain⟩
  have hdenotes : view.Denotes r r := by
    have hequal : view.window.low = view.window.high := by simpa [Window.isSingle] using hsingle
    exact ⟨hlow, hequal ▸ hlow⟩
  have hshown := View.graph_of_alone (hw.sound.view hview) hresolved hcaptured hdenotes
  rw [View.graph?, hsel, Option.map_some, Option.some_inj] at hshown
  have hfigured := hw₀.figured hfilters hrun hes
  obtain ⟨t, ht, hids⟩ := hfigured.views view (List.mem_of_getElem? hview) d hd
  rw [hgraph, hshown] at ht
  cases hs.symm.trans ht
  rw [View.figures, hd, Option.map_some, Option.getD_some, hids]

/-- A view selects one captured snapshot whose ids are not negative, in a session in which no
snapshot was edited, no change of the view has failed partway and filters leave every figure in its
place. The selected figures are those of the ids that the selection stands for if and only if every
node that is selected by a negative id is selected by its own id too. There are some exactly if the
position of the snapshot is highlighted if and only if some node is selected by its own id whenever
one is selected by a negative id. -/
theorem Initial.selectedFigures_iff (hw₀ : Initial w₀) (hfilters : w₀.InPlace)
    (hrun : w₀.run commands = some w) (hes : Unedited w.trace) (hview : w.views[v]? = some view)
    (hwhole : Whole v w.trace) (hsingle : view.window.isSingle = true)
    (hlow : view.itemAt? view.window.low = some r) (hs : w.snapshots[r]? = some s)
    (hplain : s.isDifference = false) (hids : ∀ n ∈ s.nodeIds, 0 ≤ n) :
    (view.selectedFigures =
        Figure.select view.figures (Highlight.normalize view.selectedNodes.toList).toList ↔
      ∀ x ∈ view.selectedNodes, x < 0 → -x ∈ s.nodeIds → -x ∈ view.selectedNodes) ∧
    ∃ c, view.colors[view.window.low.toNat]? = some c ∧
      ((view.selectedFigures ≠ [] ↔ c ≠ .none) ↔
        ((∃ x ∈ view.selectedNodes, x < 0 ∧ -x ∈ s.nodeIds) →
          ∃ x ∈ view.selectedNodes, x ∈ s.nodeIds)) := by
  have hfigures := hw₀.figures hfilters hrun hes hview hwhole hsingle hlow hs hplain
  have hw : w.Reachable := ⟨w₀, commands, hw₀, hrun⟩
  obtain ⟨c, hc, hcolor⟩ := hw.sound.color hes hview hlow hs
  refine ⟨?_, c, hc, ?_⟩
  · unfold View.selectedFigures
    rw [Figure.select_eq_select_iff, hfigures]
    constructor
    · intro hall x hx hneg hmem
      exact (hall (-x) hmem).2 ((Highlight.mem_normalize_iff (hids _ hmem)).2 (.inr
        ⟨x, hx, hneg, rfl⟩))
    · intro hall n hn
      have hstands : n ∈ Highlight.normalize view.selectedNodes.toList ↔
          n ∈ view.selectedNodes ∨ ∃ x ∈ view.selectedNodes, x < 0 ∧ -x = n :=
        Highlight.mem_normalize_iff (hids n hn)
      refine ⟨fun hmem => hstands.2 (.inl hmem), fun hmem => ?_⟩
      obtain hown | ⟨x, hx, hneg, rfl⟩ := hstands.1 hmem
      · exact hown
      · exact hall x hx hneg hn
  · have hsome : view.selectedFigures ≠ [] ↔ ∃ x ∈ view.selectedNodes, x ∈ s.nodeIds := by
      unfold View.selectedFigures
      rw [Figure.select_ne_nil_iff, hfigures]
      rfl
    have hcolored : c ≠ .none ↔ (∃ x ∈ view.selectedNodes, x ∈ s.nodeIds) ∨
        ∃ x ∈ view.selectedNodes, x < 0 ∧ -x ∈ s.nodeIds := by
      rw [hcolor]
      constructor
      · rintro ⟨n, hn, hmem⟩
        obtain hown | ⟨x, hx, hneg, rfl⟩ := (Highlight.mem_normalize_iff (hids n hmem)).1 hn
        · exact .inl ⟨n, hown, hmem⟩
        · exact .inr ⟨x, hx, hneg, hmem⟩
      · rintro (⟨x, hx, hmem⟩ | ⟨x, hx, hneg, hmem⟩)
        · exact ⟨x, (Highlight.mem_normalize_iff (hids x hmem)).2 (.inl hx), hmem⟩
        · exact ⟨-x, (Highlight.mem_normalize_iff (hids _ hmem)).2 (.inr ⟨x, hx, hneg, rfl⟩), hmem⟩
    rw [hsome, hcolored]
    exact ⟨fun hiff hnegative => hiff.2 (.inr hnegative),
      fun howned => ⟨.inl, fun heither => heither.elim id howned⟩⟩

theorem inPlace_paintable : paintable.InPlace := by
  intro f hf
  rw [paintable, List.mem_singleton] at hf
  subst hf
  intro figures changed h
  cases h
  exact List.map_map.trans (List.map_congr_left fun _ _ => rfl)

theorem unpainted_selectNodes :
    ((Command.execute (fun _ w => some w) (.selectNodes 0 [-1])).runIn unpainted).any (fun p =>
      Unedited p.2.trace ∧ failures 0 p.2.trace = [] ∧
      (∃ s ∈ p.2.snapshots[0]?, s.isDifference = false ∧ s.nodeIds = [1]) ∧
      ∃ view ∈ p.2.views[0]?, view.window.isSingle = true ∧
        view.itemAt? view.window.low = some 0 ∧ view.selectedNodes.toList = [-1] ∧
        view.selectedFigures = [] ∧ view.figures.map Figure.id = [1]) = true := by
  unfold Command.execute Command.change View.mutate runChange
  simp only [drain_eq_drainFirst _ _ 3]
  decide +kernel

/-- In a session on `paintable` the only node of the snapshot that is shown is selected by its
opposite. -/
theorem selected_unpainted : ∃ (commands : List Command) (w : World) (view : View) (s : Snapshot),
    paintable.run commands = some w ∧ Unedited w.trace ∧ w.views[0]? = some view ∧
      Whole 0 w.trace ∧ view.window.isSingle = true ∧ view.itemAt? view.window.low = some 0 ∧
      w.snapshots[0]? = some s ∧ s.isDifference = false ∧ s.nodeIds = [1] ∧
      view.selectedNodes.toList = [-1] ∧ view.selectedFigures = [] ∧
      view.figures.map Figure.id = [1] := by
  obtain ⟨⟨r, w⟩, hrun, hseen⟩ := Option.any_eq_true _ _ |>.1 unpainted_selectNodes
  obtain ⟨hes, hflawless, ⟨s, hs, hplain, hids⟩, view, hview, hsingle, hlow, hselected, hnone,
    hfigures⟩ := of_decide_eq_true hseen
  have hopened : paintable.run [.openView 0 0 1 none false (.bool false)] = some unpainted := by
    obtain ⟨u, hu⟩ := Option.isSome_iff_exists.1 (by decide +kernel :
      (paintable.run [.openView 0 0 1 none false (.bool false)]).isSome = true)
    rw [unpainted, hu, Option.getD_some]
  have hperformed : unpainted.perform (.selectNodes 0 [-1]) = some (r, w) := by
    have hbudget : unpainted.budget + (Command.selectNodes 0 [-1]).weight = 0 := by decide +kernel
    rw [World.perform, hbudget]
    exact hrun
  refine ⟨[.openView 0 0 1 none false (.bool false)] ++ [.selectNodes 0 [-1]], w, view, s, ?_, hes,
    hview, by simp [Whole, hflawless], hsingle, hlow, hs, hplain, hids, hselected, hnone, hfigures⟩
  rw [run, List.foldlM_append]
  refine Option.bind_eq_some_iff.2 ⟨unpainted, hopened, ?_⟩
  rw [List.foldlM_cons, hperformed]
  rfl

/-- The position of the snapshot is highlighted, but no figure is selected. -/
theorem selectedFigures_iff_opposite : ∃ (w : World) (view : View) (c : Highlight),
    w.Reachable ∧ w.views[0]? = some view ∧ view.selectedNodes.toList = [-1] ∧
      view.selectedFigures ≠
        Figure.select view.figures (Highlight.normalize view.selectedNodes.toList).toList ∧
      view.colors[view.window.low.toNat]? = some c ∧ ¬ (view.selectedFigures ≠ [] ↔ c ≠ .none) := by
  obtain ⟨commands, w, view, s, hrun, hes, hview, hwhole, hsingle, hlow, hs, hplain, hids,
    hselected, -, -⟩ := selected_unpainted
  obtain ⟨hsame, c, hc, hiff⟩ := initial_paintable.selectedFigures_iff inPlace_paintable hrun hes
    hview hwhole hsingle hlow hs hplain (by rw [hids]; decide)
  have hopposite : (-1 : Int) ∈ view.selectedNodes := by
    change -1 ∈ view.selectedNodes.toList
    rw [hselected]
    decide
  have hnode : -(-1) ∈ s.nodeIds := by rw [hids]; decide
  refine ⟨w, view, c, ⟨_, commands, initial_paintable, hrun⟩, hview, hselected, fun heq => ?_, hc,
    fun hagree => ?_⟩
  · have hmem := hsame.1 heq (-1) hopposite (by decide) hnode
    change - -1 ∈ view.selectedNodes.toList at hmem
    rw [hselected] at hmem
    exact absurd hmem (by decide)
  · obtain ⟨x, hx, hmem⟩ := hiff.1 hagree ⟨-1, hopposite, by decide, hnode⟩
    change x ∈ view.selectedNodes.toList at hx
    rw [hselected, List.mem_singleton] at hx
    rw [hids, hx] at hmem
    exact absurd hmem (by decide)

/-- The selected figures need not be those of the ids that the selection stands for. -/
theorem selected_apart : ¬ ∀ (w₀ w : World) (commands : List Command) (v : ViewRef) (view : View)
    (r : SnapshotRef) (s : Snapshot), Initial w₀ → w₀.InPlace → w₀.run commands = some w →
    Unedited w.trace → w.views[v]? = some view → Whole v w.trace → view.window.isSingle = true →
    view.itemAt? view.window.low = some r → w.snapshots[r]? = some s → s.isDifference = false →
    (∀ n ∈ s.nodeIds, 0 ≤ n) → view.selectedFigures =
      Figure.select view.figures (Highlight.normalize view.selectedNodes.toList).toList := by
  intro hall
  obtain ⟨commands, w, view, s, hrun, hes, hview, hwhole, hsingle, hlow, hs, hplain, hids,
    hselected, hnone, hfigures⟩ := selected_unpainted
  have hequal := hall _ w commands 0 view 0 s initial_paintable inPlace_paintable hrun hes hview
    hwhole hsingle hlow hs hplain (by rw [hids]; decide)
  refine Figure.select_ne_nil_iff.2 ⟨1, ?_, ?_⟩ (hequal.symm.trans hnone)
  · rw [hselected]
    decide
  · rw [hfigures]
    decide

end World

end SnapshotViewer
