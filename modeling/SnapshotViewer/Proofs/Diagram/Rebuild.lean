import SnapshotViewer.Proofs.Diagram.CurrentFigures

/-!
# Single diagrams

To build a diagram, the blocks of its graph are ensured, one figure is made for each node, and the
filters are run over the figures, one rule after the other. Main statements: rules that are run one
after the other give each figure the colour of the last rule that picks it
(`ColorRule.foldl_paint`); filters that only retouch figures leave the nodes, lines and blocks of
all of them (`Builder.figures_retouched`); and a rebuild draws the snapshot with the blocks that
were ensured (`Builder.rebuild_of_ensured`).
-/

namespace SnapshotViewer

/-! ## Colours -/

namespace ColorRule

/-- The colour of the last rule that picks a node with these properties, or else the colour it has
already. -/
def colorOf (rules : List ColorRule) (ps : Properties) (color : String) : String :=
  ((rules.filter (·.picks ps)).getLast?.map ColorRule.color).getD color

variable (rules : List ColorRule) (ps : Properties) (color : String)

theorem colorOf_append (later : List ColorRule) :
    colorOf (rules ++ later) ps color = colorOf later ps (colorOf rules ps color) := by
  unfold colorOf
  rw [List.filter_append, List.getLast?_append]
  cases (later.filter (·.picks ps)).getLast? <;> rfl

theorem colorOf_cons (r : ColorRule) : colorOf (r :: rules) ps color =
    colorOf rules ps (if r.picks ps then r.color else color) := by
  rw [← List.singleton_append, colorOf_append]
  congr 1
  by_cases h : r.picks ps = true <;> simp [colorOf, h]

/-- Rules that are run one after the other, each over all figures, give every figure its colour by
itself. -/
theorem foldl_paint (figures : List Figure) :
    rules.foldl (fun figures r => r.paint figures) figures =
      figures.map fun f => { f with color := colorOf rules f.node.properties f.color } := by
  induction rules generalizing figures with
  | nil => exact (List.map_id' figures).symm
  | cons r rest ih =>
    rw [List.foldl_cons, ih, paint, List.map_map]
    refine List.map_congr_left fun f _ => ?_
    rw [Function.comp_apply, colorOf_cons]
    split <;> rfl

end ColorRule

/-! ## Filters that only retouch -/

/-- What a figure shows of its snapshot: the node, the lines and the block. -/
def Figure.content (f : Figure) : Node × List String × Option String := (f.node, f.lines, f.block)

/-- The filter does not fail and leaves what the figures show of their snapshot. -/
def Filter.Retouches (f : Filter) : Prop := ∀ figures, ∃ changed,
  f.apply figures = .ok changed ∧ changed.map Figure.content = figures.map Figure.content

theorem ColorRule.content_foldl_paint (rules : List ColorRule) (figures : List Figure) :
    (rules.foldl (fun figures r => r.paint figures) figures).map Figure.content =
      figures.map Figure.content := by
  rw [foldl_paint, List.map_map]
  rfl

theorem Filter.retouches_color (name : String) (rules : List ColorRule) :
    (Filter.color name rules).Retouches :=
  fun figures => ⟨_, rfl, ColorRule.content_foldl_paint rules figures⟩

theorem Painting.run_retouches {fs : List (FilterRef × Filter)} (h : ∀ f ∈ fs, f.2.Retouches)
    (figures : List Figure) : (run fs figures).failure = none ∧
      (run fs figures).figures.map Figure.content = figures.map Figure.content := by
  induction fs generalizing figures with
  | nil => exact ⟨rfl, rfl⟩
  | cons f rest ih =>
    obtain ⟨changed, hchanged, hcontent⟩ := h f List.mem_cons_self figures
    have hrest := ih (fun g hg => h g (List.mem_cons_of_mem f hg)) changed
    unfold run
    rw [hchanged]
    exact ⟨hrest.1, hrest.2.trans hcontent⟩

/-! ## Figures -/

/-- Templates that are texts. -/
def Templates.ofTexts (full short tiny : String) : Templates :=
  ⟨.text full, .text short, .text tiny⟩

variable {full short tiny : String}

/-- The figure of a node before any filter is run. -/
def Figure.plain (full short tiny : String) (s : Snapshot) (n : Node) : Figure :=
  { node := n
    lines := [full, short, tiny].map fun template => Label.resolve template (Label.propertiesOf n)
    block := s.blockOf? n.id }

theorem Figure.ofSnapshot_ofTexts (s : Snapshot) :
    Figure.ofSnapshot (.ofTexts full short tiny) s =
      .ok (s.nodeList.map (Figure.plain full short tiny s)) := by
  unfold ofSnapshot
  induction s.nodeList with
  | nil => rfl
  | cons n rest ih =>
    rw [List.mapM_cons, ih]
    rfl

namespace Builder

variable {b : Builder} {w : World} {s : Snapshot}

theorem overlay_eq (s : Snapshot) (figures : List Figure) : overlay s figures =
    figures.map fun f => { f with
      color := ColorRule.colorOf (if s.isDifference then ColorRule.forStates else [])
        f.node.properties f.color } := by
  unfold overlay
  split
  · exact ColorRule.foldl_paint ColorRule.forStates figures
  · exact (List.map_id' figures).symm

/-- Whatever filters run, as long as none fails: they are given the plain figures. -/
theorem figures_ofTexts (htemplates : b.templates = .ofTexts full short tiny)
    (hfilters : ∀ f ∈ w.filtersFor b.chain (some b.sequenceChain), ∀ figures,
      ∃ changed, f.2.apply figures = .ok changed) :
    b.figures w s = .ok (overlay s (w.paint b.chain (some b.sequenceChain)
      (s.nodeList.map (Figure.plain full short tiny s))).figures) :=
  figures_eq_ok.2 ⟨_, htemplates ▸ Figure.ofSnapshot_ofTexts s,
    Painting.run_succeeds hfilters _, rfl⟩

/-- Filters that only retouch leave one figure for each node, as it is made. -/
theorem figures_retouched (htemplates : b.templates = .ofTexts full short tiny)
    (hfilters : ∀ f ∈ w.filtersFor b.chain (some b.sequenceChain), f.2.Retouches) :
    ∃ fs, b.figures w s = .ok fs ∧ fs.map Figure.content =
      s.nodeList.map fun n => (Figure.plain full short tiny s n).content := by
  obtain ⟨hfailure, hcontent⟩ := Painting.run_retouches hfilters
    (s.nodeList.map (Figure.plain full short tiny s))
  refine ⟨_, figures_eq_ok.2 ⟨_, htemplates ▸ Figure.ofSnapshot_ofTexts s, hfailure, rfl⟩, ?_⟩
  rw [overlay_eq, List.map_map]
  exact hcontent.trans (List.map_map ..)

end Builder

/-! ## Blocks -/

/-- The snapshots that were scheduled, in order. -/
def scheduledIn (es : List Event) : List SnapshotRef :=
  es.filterMap fun
    | .scheduled r => some r
    | _ => none

theorem scheduledIn_append (es es' : List Event) :
    scheduledIn (es ++ es') = scheduledIn es ++ scheduledIn es' :=
  List.filterMap_append

theorem scheduledIn_filtered (fs : List FilterRef) : scheduledIn (fs.map .filtered) = [] := by
  simp [scheduledIn]

theorem scheduledIn_logged (log : List Log.Record) : scheduledIn (log.map .logged) = [] := by
  simp [scheduledIn]

namespace Builder

variable {b : Builder} {w w' w₁ : World} {r : SnapshotRef} {s : Snapshot}

/-! ## Ensuring blocks -/

/-- A snapshot without blocks is scheduled, and gets a block for the nodes that are left over. -/
theorem runIn_ensureBlocks_assigned {scheduler : Scheduler} {blocks : OrderedMap String Block}
    {log : List Log.Record} (hs : w.snapshots[r]? = some s) (hblocks : s.blocks.isEmpty = true)
    (hscheduler : b.scheduler = some scheduler) (hassign : scheduler.assign s = .ok (blocks, log)) :
    (b.ensureBlocks r).runIn w =
      some (.ok (), assignBlocks (w.record (.scheduled r)) r blocks log) := by
  unfold ensureBlocks
  rw [Act.runIn_bind_ok (Act.runIn_snapshot hs), hblocks, hscheduler]
  dsimp only
  rw [if_neg (by simp), Act.runIn_bind_ok (Act.runIn_record _ w), hassign,
    Act.runIn_bind_ok (Act.runIn_ofExcept_ok _ _)]
  rfl

/-- Without a scheduler, a snapshot without blocks is refused, and nothing changes. -/
theorem runIn_ensureBlocks_missing (hs : w.snapshots[r]? = some s)
    (hblocks : s.blocks.isEmpty = true) (hscheduler : b.scheduler = none) :
    (b.ensureBlocks r).runIn w = some (.error (.noScheduler s.name), w) := by
  unfold ensureBlocks
  rw [Act.runIn_bind_ok (Act.runIn_snapshot hs), hblocks, hscheduler]
  rfl

/-- Of the snapshots, only the one that gets blocks is replaced. -/
theorem snapshots_assignBlocks (hs : w.snapshots[r]? = some s) (blocks : OrderedMap String Block)
    (log : List Log.Record) : (assignBlocks w r blocks log).snapshots =
      w.snapshots.set r { s with blocks }.collectStrays := by
  obtain ⟨hlt, rfl⟩ := List.getElem?_eq_some_iff.1 hs
  refine List.ext_getElem? fun i => ?_
  by_cases hi : r = i
  · subst hi
    simp [assignBlocks, World.modifySnapshot, World.recordAll, hlt]
  · simp [assignBlocks, World.modifySnapshot, World.recordAll, hi]

/-! ## Drawing -/

/-- What drawing a snapshot leaves: figures or a failure to draw them, and an entry for every filter
that was begun. Nothing is scheduled. -/
structure Drew (b : Builder) (r : SnapshotRef) (s : Snapshot) (w : World)
    (result : Except Failure Diagram) (w' : World) : Prop where
  figures : result.map Diagram.figures = b.figures w s
  graph : ∀ d, result = .ok d → d.graph = r
  snapshots : w'.snapshots = w.snapshots
  trace : ∃ es, w'.trace = w.trace ++ es ∧ scheduledIn es = []

/-- When the blocks of a snapshot are ensured, it is drawn. -/
theorem rebuild_of_ensured (hensured : (b.ensureBlocks r).runIn w = some (.ok (), w₁))
    (hs : w₁.snapshots[r]? = some s) : ∃ result w',
      (b.rebuild r).runIn w = some (result, w') ∧ b.Drew r s w₁ result w' := by
  unfold rebuild
  rw [Act.runIn_bind_ok hensured, Act.runIn_bind_ok (Act.runIn_snapshot hs)]
  have hfigures := (Builder.figures.eq_def b w₁ s).symm
  cases hof : Figure.ofSnapshot b.templates s with
  | error e =>
    rw [hof] at hfigures
    exact ⟨.error e, w₁, Act.runIn_bind_error (Act.runIn_ofExcept_error e w₁), hfigures,
      fun d h => (nomatch h), rfl, [], (List.append_nil _).symm, rfl⟩
  | ok figures =>
    rw [hof] at hfigures
    rw [Act.runIn_bind_ok (Act.runIn_ofExcept_ok _ _), Act.runIn_bind_ok (Act.runIn_get w₁),
      Act.runIn_bind_ok (Act.runIn_modify _ _)]
    dsimp only at hfigures ⊢
    cases hpainting : (w₁.paint b.chain (some b.sequenceChain) figures).failure with
    | some e =>
      rw [hpainting] at hfigures
      exact ⟨.error e, _, Act.runIn_throw _ _, hfigures, fun d h => (nomatch h), rfl, _, rfl,
        scheduledIn_filtered _⟩
    | none =>
      rw [hpainting] at hfigures
      refine ⟨.ok _, _, rfl, hfigures, fun d h => by cases h; rfl, rfl, _,
        List.append_assoc .., ?_⟩
      rw [scheduledIn_append, scheduledIn_filtered]
      rfl

/-- A snapshot without blocks is drawn with the blocks that it gets. -/
theorem rebuild_of_assigned {scheduler : Scheduler} {blocks : OrderedMap String Block}
    {log : List Log.Record} (hs : w.snapshots[r]? = some s) (hblocks : s.blocks.isEmpty = true)
    (hscheduler : b.scheduler = some scheduler) (hassign : scheduler.assign s = .ok (blocks, log)) :
    ∃ result w', (b.rebuild r).runIn w = some (result, w') ∧
      b.Drew r { s with blocks }.collectStrays
        (assignBlocks (w.record (.scheduled r)) r blocks log) result w' := by
  refine rebuild_of_ensured (runIn_ensureBlocks_assigned hs hblocks hscheduler hassign) ?_
  rw [snapshots_assignBlocks (w := w.record (.scheduled r)) hs]
  exact List.getElem?_set_self (List.getElem?_eq_some_iff.1 hs).1

/-- The snapshot has blocks, or gets some from the scheduler. -/
def CanPlace (b : Builder) (s : Snapshot) : Prop :=
  s.blocks.isEmpty = false ∨
    ∃ scheduler assigned, b.scheduler = some scheduler ∧ scheduler.assign s = .ok assigned

/-- A snapshot that has or gets blocks is drawn with them. -/
theorem rebuild_drawn (hs : w.snapshots[r]? = some s) (hplace : b.CanPlace s) :
    ∃ blocks result w', (b.rebuild r).runIn w = some (result, w') ∧
      result.map Diagram.figures = b.figures w { s with blocks } := by
  by_cases hblocks : s.blocks.isEmpty = true
  · rcases hplace with hsome | ⟨scheduler, ⟨blocks, log⟩, hscheduler, hassign⟩
    · rw [hblocks] at hsome
      cases hsome
    obtain ⟨result, w', hrun, hdrew⟩ := rebuild_of_assigned hs hblocks hscheduler hassign
    refine ⟨{ s with blocks }.collectStrays.blocks, result, w', hrun, hdrew.figures.trans ?_⟩
    rw [collectStrays_eq]
    exact figures_congr rfl (.inl rfl) rfl rfl rfl
  · obtain ⟨result, w', hrun, hdrew⟩ :=
      rebuild_of_ensured (runIn_ensureBlocks hs (Bool.eq_false_iff.2 hblocks)) hs
    exact ⟨s.blocks, result, w', hrun, hdrew.figures⟩

end Builder

end SnapshotViewer
