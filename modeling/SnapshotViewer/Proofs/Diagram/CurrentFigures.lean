import SnapshotViewer.Proofs.Run.ConcerningOneView
import SnapshotViewer.Proofs.Snapshot.StrayNodes

/-!
# What is drawn of a graph

The figures of a diagram come from the nodes and the blocks of its graph and from the filters of two
chains. `Builder.Painted` says that figures are those that come from them now. Main statements:
figures are so when they are drawn (`Builder.rebuild_painted`); they stay so unless a snapshot is
edited or unblocked or filters change (`Builder.Painted.mono`); and drawing the graph anew comes to
the same figures (`Builder.rebuild_same`).
-/

namespace SnapshotViewer

/-- A snapshot with nodes has blocks. -/
def Snapshot.Placed (s : Snapshot) : Prop := s.blocks.isEmpty = true → s.nodeList = []

/-- No blocks of a snapshot were removed. -/
def BlocksStay (es : List Event) : Prop := ∀ r, Event.unblocked r ∉ es

instance (es : List Event) : Decidable (BlocksStay es) :=
  decidable_of_iff (∀ e ∈ es, (match e with | .unblocked _ => false | _ => true) = true)
    ⟨fun h r hr => Bool.false_ne_true (h _ hr), fun h e he => by
      cases e with
      | unblocked r => exact absurd he (h r)
      | _ => rfl⟩

theorem BlocksStay.left {es es' : List Event} (h : BlocksStay (es ++ es')) : BlocksStay es :=
  fun r hr => h r (List.mem_append_left _ hr)

theorem BlocksStay.right {es es' : List Event} (h : BlocksStay (es ++ es')) : BlocksStay es' :=
  fun r hr => h r (List.mem_append_right _ hr)

/-- What is left over gets a block of its own. -/
theorem Snapshot.placed_collectStrays (s : Snapshot) : s.collectStrays.Placed := by
  intro hempty
  have hkeys : s.collectStrays.blocks.keys = [] := by
    rw [OrderedMap.keys, List.isEmpty_iff.1 hempty, List.map_nil]
  have hnode (id : Int) : id ∉ s.collectStrays.nodeIds := by
    intro hid
    rw [(gathers_collectStrays s).nodeIds_eq] at hid
    obtain ⟨name, hmem⟩ := (gathers_collectStrays s).placed hid
    exact List.ne_nil_of_mem (mem_keys_of_mem hmem) hkeys
  rw [nodeList, List.map_eq_nil_iff.1 (List.eq_nil_iff_forall_not_mem.2 hnode), List.map_nil]

/-- The filters of a chain are those that it refers to. -/
theorem World.filtersOf_congr {w w' : World} {c : ChainRef}
    (hchain : w'.chains[c]? = w.chains[c]?)
    (hfilters : ∀ f ∈ (w.chains[c]?).getD [], w'.filters[f]? = w.filters[f]?) :
    w'.filtersOf c = w.filtersOf c := by
  unfold filtersOf
  rw [hchain]
  generalize (w.chains[c]?).getD [] = fs at hfilters
  induction fs with
  | nil => rfl
  | cons f rest ih =>
    rw [List.filterMap_cons, List.filterMap_cons, hfilters f List.mem_cons_self,
      ih fun g hg => hfilters g (List.mem_cons_of_mem f hg)]

theorem Painting.run_succeeds {fs : List (FilterRef × Filter)}
    (h : ∀ f ∈ fs, ∀ figures, ∃ changed, f.2.apply figures = .ok changed) (figures : List Figure) :
    (Painting.run fs figures).failure = none := by
  induction fs generalizing figures with
  | nil => rfl
  | cons f rest ih =>
    obtain ⟨changed, hchanged⟩ := h f List.mem_cons_self figures
    unfold Painting.run
    rw [hchanged]
    exact ih (fun g hg => h g (List.mem_cons_of_mem f hg)) changed

namespace Builder

/-- The figures that are drawn of a snapshot as it is. -/
def figures (b : Builder) (w : World) (s : Snapshot) : Except Failure (List Figure) :=
  match Figure.ofSnapshot b.templates s with
  | .error e => .error e
  | .ok figures =>
    let painting := w.paint b.chain (some b.sequenceChain) figures
    match painting.failure with
    | some e => .error e
    | none => .ok (overlay s painting.figures)

/-- The figures are those that are drawn of a snapshot now. -/
def Painted (w : World) (b : Builder) (r : SnapshotRef) (figures : List Figure) : Prop :=
  ∃ s, w.snapshots[r]? = some s ∧ s.Placed ∧ b.figures w s = .ok figures

variable {b : Builder} {w w' : World} {r : SnapshotRef} {es : List Event} {fs : List Figure}

theorem figures_eq_ok {s : Snapshot} : b.figures w s = .ok fs ↔
    ∃ figures, Figure.ofSnapshot b.templates s = .ok figures ∧
      (w.paint b.chain (some b.sequenceChain) figures).failure = none ∧
      fs = overlay s (w.paint b.chain (some b.sequenceChain) figures).figures := by
  unfold Builder.figures
  cases Figure.ofSnapshot b.templates s with
  | error e => simp
  | ok figures =>
    dsimp only
    cases hpainting : (w.paint b.chain (some b.sequenceChain) figures).failure with
    | some e => simp [hpainting]
    | none => simp [hpainting, eq_comm]

/-- What is drawn depends on the nodes, the blocks if there are nodes, and the filters. -/
theorem figures_congr {s s' : Snapshot} (hnodes : s'.nodes = s.nodes)
    (hblocks : s'.blocks = s.blocks ∨ s.nodeList = []) (horigin : s'.origin = s.origin)
    (hchain : w'.filtersOf b.chain = w.filtersOf b.chain)
    (hsequence : w'.filtersOf b.sequenceChain = w.filtersOf b.sequenceChain) :
    b.figures w' s' = b.figures w s := by
  have hlist : s'.nodeList = s.nodeList := by rw [Snapshot.nodeList, hnodes, Snapshot.nodeList]
  have hfigures : Figure.ofSnapshot b.templates s' = Figure.ofSnapshot b.templates s := by
    unfold Figure.ofSnapshot
    rw [hlist]
    rcases hblocks with hblocks | hempty
    · have hnode : Figure.ofNode b.templates s' = Figure.ofNode b.templates s := by
        funext n
        unfold Figure.ofNode Snapshot.blockOf?
        rw [hblocks]
      rw [hnode]
    · rw [hempty]
      rfl
  have hpaint :
      w'.paint b.chain (some b.sequenceChain) = w.paint b.chain (some b.sequenceChain) := by
    funext figures
    unfold World.paint World.filtersFor
    dsimp only
    rw [hchain, hsequence]
  have hoverlay : overlay s' = overlay s := by
    funext figures
    unfold overlay Snapshot.isDifference
    rw [horigin]
  unfold figures
  rw [hfigures, hpaint, hoverlay]

/-- Figures stay what is drawn unless snapshots or filters change. -/
theorem Painted.mono (h : Painted w b r fs) (hkept : World.SnapshotsKept es w w')
    (hblocks : World.BlocksKept es w w') (hes : World.Unedited es) (hstay : BlocksStay es)
    (hchain : w'.filtersOf b.chain = w.filtersOf b.chain)
    (hsequence : w'.filtersOf b.sequenceChain = w.filtersOf b.sequenceChain) :
    Painted w' b r fs := by
  obtain ⟨s, hs, hplaced, hfigures⟩ := h
  obtain ⟨s', hs', hkept'⟩ := hkept.kept r s hs
  obtain ⟨hnodes, -⟩ := hkept'.content hes
  have hlist : s'.nodeList = s.nodeList := by rw [Snapshot.nodeList, hnodes, Snapshot.nodeList]
  have hsame : s'.blocks = s.blocks ∨ s.nodeList = [] := by
    cases hempty : s.blocks.isEmpty with
    | true => exact .inr (hplaced hempty)
    | false =>
      obtain ⟨t, ht, hblocks⟩ := hblocks r s hs hempty (hstay r)
      cases hs'.symm.trans ht
      exact .inl hblocks
  refine ⟨s', hs', fun hempty => hlist.trans ?_, ?_⟩
  · exact hsame.elim (fun hblocks => hplaced (hblocks ▸ hempty)) id
  · rw [figures_congr hnodes hsame hkept'.origin hchain hsequence, hfigures]

theorem Painted.rendered {v : ViewRef} (h : Painted w b r fs) (h' : World.Rendered v w w') :
    Painted w' b r fs := by
  obtain ⟨es, hes, helsewhere⟩ := h'
  have hfilters (c : ChainRef) : w'.filtersOf c = w.filtersOf c :=
    World.filtersOf_congr (by rw [helsewhere.chains]) (by simp [helsewhere.filters])
  exact h.mono helsewhere.snapshots helsewhere.blocks (fun q hq => hes _ hq) (fun q hq => hes _ hq)
    (hfilters _) (hfilters _)

/-! ## Drawing -/

/-- A snapshot is placed when its blocks are ensured. -/
theorem ensureBlocks_placed (b : Builder) (r : SnapshotRef) (w : World) :
    (b.ensureBlocks r).Ends w (fun _ w' => ∃ s, w'.snapshots[r]? = some s ∧ s.Placed)
      fun _ _ => True := by
  unfold ensureBlocks
  rw [Act.ends_bind]
  refine Act.ends_snapshot (fun s hs => ?_) fun _ => trivial
  split
  · rename_i hblocks
    exact Act.ends_pure.2 ⟨s, hs, fun hempty => by simp [hempty] at hblocks⟩
  split
  · exact Act.ends_throw.2 trivial
  · rw [Act.ends_bind, Act.ends_record, Act.ends_bind]
    refine Act.ends_ofExcept (fun p _ => Act.ends_modify.2 ?_) fun _ _ => trivial
    have hassigned : (assignBlocks (w.record (.scheduled r)) r p.1 p.2).snapshots[r]? =
        some (Snapshot.collectStrays { s with blocks := p.1 }) := by
      simp [assignBlocks, World.modifySnapshot, World.recordAll, World.record, hs]
    exact ⟨_, hassigned, Snapshot.placed_collectStrays _⟩

/-- A diagram is drawn from its graph as it is then. -/
theorem rebuild_painted (b : Builder) (r : SnapshotRef) (w : World) :
    (b.rebuild r).Ends w (fun d w' => d.graph = r ∧ Painted w' b r d.figures)
      fun _ _ => True := by
  unfold rebuild
  refine (ensureBlocks_placed b r w).bind fun _ w₁ h => ?_
  obtain ⟨s, hs, hplaced⟩ := h
  rw [Act.ends_bind]
  refine Act.ends_snapshot (fun t ht => ?_) fun _ => trivial
  cases hs.symm.trans ht
  rw [Act.ends_bind]
  refine Act.ends_ofExcept (fun figures hfigures => ?_) fun _ _ => trivial
  rw [Act.ends_bind, Act.ends_get, Act.ends_bind, Act.ends_modify]
  split
  · exact Act.ends_throw.2 trivial
  · rename_i hpainting
    refine Act.ends_bind.2 (Act.ends_record.2 (Act.ends_bind.2 (Act.ends_get.2 ?_)))
    refine Act.ends_bind.2 (Act.ends_modify.2 (Act.ends_pure.2 ⟨rfl, s, hs, hplaced, ?_⟩))
    have hdrawn : b.figures w₁ s = .ok _ := figures_eq_ok.2 ⟨figures, hfigures, hpainting, rfl⟩
    exact hdrawn

/-- A snapshot with blocks is not scheduled again. -/
theorem runIn_ensureBlocks {s : Snapshot} (hs : w.snapshots[r]? = some s)
    (hblocks : s.blocks.isEmpty = false) : (b.ensureBlocks r).runIn w = some (.ok (), w) := by
  unfold ensureBlocks
  rw [Act.runIn_bind_ok (Act.runIn_snapshot hs), hblocks]
  rfl

/-- A diagram that is drawn anew has the same figures. -/
theorem rebuild_same (h : Painted w b r fs) :
    (b.rebuild r).Ends w (fun d _ => d.graph = r ∧ d.figures = fs) fun _ _ => True := by
  have hrendered := (World.renders_rendered (v := 0)).rebuild b r w
  refine (hrendered.and (rebuild_painted b r w)).mono (fun d w' h' => ?_) fun _ _ _ => trivial
  obtain ⟨⟨es, hes, helsewhere⟩, hgraph, hpainted⟩ := h'
  obtain ⟨s, hs, -, hfigures⟩ := hpainted
  obtain ⟨t, ht, -, hfigures'⟩ := h.rendered ⟨es, hes, helsewhere⟩
  cases hs.symm.trans ht
  exact ⟨hgraph, Except.ok.inj (hfigures.symm.trans hfigures')⟩

/-- A graph with nodes or blocks can be drawn anew. -/
theorem rebuild_succeeds (h : Painted w b r fs) {s : Snapshot} (hs : w.snapshots[r]? = some s)
    (hcontent : s.nodeList ≠ [] ∨ s.blocks.isEmpty = false) :
    ∃ d w', (b.rebuild r).runIn w = some (.ok d, w') := by
  obtain ⟨t, ht, hplaced, hfigures⟩ := h
  cases hs.symm.trans ht
  have hblocks : s.blocks.isEmpty = false := by
    rcases hcontent with hnodes | hblocks
    · cases hempty : s.blocks.isEmpty with
      | true => exact absurd (hplaced hempty) hnodes
      | false => rfl
    · exact hblocks
  obtain ⟨figures, hof, hpainting, -⟩ := figures_eq_ok.1 hfigures
  unfold rebuild
  rw [Act.runIn_bind_ok (runIn_ensureBlocks hs hblocks), Act.runIn_bind_ok (Act.runIn_snapshot hs),
    hof, Act.runIn_bind_ok (Act.runIn_ofExcept_ok _ _), Act.runIn_bind_ok (Act.runIn_get w),
    Act.runIn_bind_ok (Act.runIn_modify _ _)]
  dsimp only
  rw [hpainting]
  exact ⟨_, _, rfl⟩

/-- Drawing the graph of a diagram anew comes to the same figures: the same nodes in the same order,
with the same lines, blocks and colours. It fails at most for a graph with neither nodes nor blocks,
which a scheduler may refuse. -/
structure Redraws (b : Builder) (w : World) (d : Diagram) : Prop where
  figures : ∀ d' w', (b.rebuild d.graph).runIn w = some (.ok d', w') → d'.figures = d.figures
  succeeds : ∀ s, w.snapshots[d.graph]? = some s → s.nodeList ≠ [] ∨ s.blocks.isEmpty = false →
    ∃ d' w', (b.rebuild d.graph).runIn w = some (.ok d', w')

theorem Painted.redraws {d : Diagram} (h : Painted w b d.graph d.figures) : b.Redraws w d where
  figures d' w' hrun := ((rebuild_same h).1 d' w' hrun).2
  succeeds _ hs hcontent := rebuild_succeeds h hs hcontent

end Builder

/-- A diagram of a view is drawn with the builder of the view. -/
theorem View.draw_painted {v : ViewRef} {w : World} {view : View} (hview : w.views[v]? = some view)
    (graph : SnapshotRef) : (draw v graph).Ends w
      (fun _ w' => ∃ d, w'.views[v]? = some { view with diagram := some d } ∧ d.graph = graph ∧
        view.builder.Painted w' graph d.figures) fun _ _ => True := by
  unfold draw
  rw [Act.ends_bind, Act.ends_of_ok (Act.runIn_view hview)]
  have hrendered := (World.renders_rendered (v := v)).rebuild view.builder graph w
  refine Act.Ends.bind ((hrendered.and (Builder.rebuild_painted _ _ w)).mono (fun _ _ h => h)
    fun _ _ _ => trivial) fun d w' h => Act.ends_modifyView.2 ?_
  obtain ⟨⟨es, -, helsewhere⟩, hgraph, hpainted⟩ := h
  exact ⟨d, World.views_modifyView_self (helsewhere.view.trans hview) _, hgraph, hpainted⟩

end SnapshotViewer
