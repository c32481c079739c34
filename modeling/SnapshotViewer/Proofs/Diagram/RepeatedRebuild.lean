import Mathlib.Data.List.Forall2
import SnapshotViewer.Proofs.Diagram.Rebuild

/-!
# Diagrams that are built again and again

A snapshot is scheduled by the first of all rebuilds and has its blocks from then on. What a rebuild
draws depends on the templates and on the filters that run, and not on the rebuilds before it.
`Rebuilt` says how a rebuild ends: what was drawn, what is stored then, and what was scheduled up to
then. Main statement: `Builder.rebuildAll_repeats`.
-/

namespace SnapshotViewer

/-- A rebuild: the builder, and the chains with their filters as they are by then. -/
structure Request where
  builder : Builder
  chains : List (List FilterRef)
  filters : List Filter

namespace Request

/-- The world that a rebuild starts in. -/
def prepare (q : Request) (w : World) : World := { w with chains := q.chains, filters := q.filters }

/-- The filters that run, with their handles. -/
def running (q : Request) : List (FilterRef × Filter) :=
  (q.prepare {}).filtersFor q.builder.chain (some q.builder.sequenceChain)

/-- The figures that are drawn of a snapshot. -/
def figures (q : Request) (s : Snapshot) : Except Failure (List Figure) :=
  q.builder.figures (q.prepare {}) s

theorem figures_congr {q q' : Request} (htemplates : q'.builder.templates = q.builder.templates)
    (hrunning : q'.running = q.running) (s : Snapshot) : q'.figures s = q.figures s := by
  have hpaint (q : Request) (figures : List Figure) : (q.prepare {}).paint q.builder.chain
      (some q.builder.sequenceChain) figures = Painting.run q.running figures := rfl
  unfold figures Builder.figures
  simp only [hpaint, htemplates, hrunning]

end Request

/-- Rebuilds a snapshot once for each request, and says how that ends and what the world is then. -/
def rebuildAll (r : SnapshotRef) :
    List Request → World → Option (List (Except Failure Diagram × World))
  | [], _ => some []
  | q :: rest, w =>
    ((q.builder.rebuild r).runIn (q.prepare w)).bind fun o => (rebuildAll r rest o.2).map (o :: ·)

/-- How a rebuild ends: the figures are those of the snapshot `s`, the given snapshots are stored
then, and since the trace was `before` exactly the given handles were scheduled. -/
structure Rebuilt (r : SnapshotRef) (s : Snapshot) (stored : List Snapshot) (before : List Event)
    (scheduled : List SnapshotRef) (q : Request) (o : Except Failure Diagram × World) : Prop where
  figures : o.1.map Diagram.figures = q.figures s
  graph : ∀ d, o.1 = .ok d → d.graph = r
  snapshots : o.2.snapshots = stored
  trace : ∃ es, o.2.trace = before ++ es ∧ scheduledIn es = scheduled

/-- What a rebuild with templates that are texts draws of a snapshot with blocks. Filters are given
one figure for each node, in order, with the lines that the templates come to for the node and with
the name of its block. A figure keeps all this if the filters only retouch. -/
structure Shows (r : SnapshotRef) (s : Snapshot) (q : Request) (result : Except Failure Diagram)
    (full short tiny : String) : Prop where
  filtered : (∀ f ∈ q.running, ∀ figures, ∃ changed, f.2.apply figures = .ok changed) →
    ∃ d, result = .ok d ∧ d.graph = r ∧ d.figures = Builder.overlay s (Painting.run q.running
      (s.nodeList.map (Figure.plain full short tiny s))).figures
  retouched : (∀ f ∈ q.running, f.2.Retouches) →
    ∃ d, result = .ok d ∧ (∀ f ∈ d.figures, f.block.isSome = true) ∧
      d.figures.map Figure.content = s.nodeList.map fun n =>
        (n, [full, short, tiny].map fun template =>
          Label.resolve template (Label.propertiesOf n), s.blockOf? n.id)

namespace Rebuilt

variable {r : SnapshotRef} {s : Snapshot} {stored : List Snapshot} {before : List Event}
  {scheduled : List SnapshotRef} {q : Request} {o : Except Failure Diagram × World}

theorem eq_ok (h : Rebuilt r s stored before scheduled q o) {fs : List Figure}
    (hfs : q.figures s = .ok fs) : ∃ d, o.1 = .ok d ∧ d.graph = r ∧ d.figures = fs := by
  obtain ⟨result, w'⟩ := o
  have hfigures : result.map Diagram.figures = .ok fs := h.figures.trans hfs
  cases result with
  | error e => cases hfigures
  | ok d => exact ⟨d, rfl, h.graph d rfl, Except.ok.inj hfigures⟩

theorem shows (h : Rebuilt r s stored before scheduled q o)
    (hplaced : ∀ id ∈ s.nodeIds, s.isPlaced id = true) {full short tiny : String}
    (htemplates : q.builder.templates = .ofTexts full short tiny) :
    Shows r s q o.1 full short tiny where
  filtered hfilters := h.eq_ok (Builder.figures_ofTexts htemplates hfilters)
  retouched hfilters := by
    obtain ⟨fs, hfs, hcontent⟩ := Builder.figures_retouched (s := s) htemplates hfilters
    obtain ⟨d, hd, -, hfigures⟩ := h.eq_ok hfs
    refine ⟨d, hd, fun f hf => ?_, hfigures ▸ hcontent⟩
    have hmem : f.content ∈ s.nodeList.map fun n => (Figure.plain full short tiny s n).content :=
      hcontent ▸ List.mem_map_of_mem (hfigures ▸ hf)
    obtain ⟨n, hn, hsame⟩ := List.mem_map.1 hmem
    have hblock : s.blockOf? n.id = f.block := congrArg (·.2.2) hsame
    obtain ⟨e, he, rfl⟩ := List.mem_map.1 hn
    rw [← hblock, Snapshot.isSome_blockOf?]
    exact hplaced _ (List.mem_map_of_mem he)

end Rebuilt

namespace Builder

variable {b : Builder} {w : World} {r : SnapshotRef} {s : Snapshot} {stored : List Snapshot}
  {before es : List Event} {scheduled : List SnapshotRef}

/-- A snapshot with blocks is only drawn. -/
theorem rebuild_rebuilt (q : Request) (hs : stored[r]? = some s)
    (hblocks : s.blocks.isEmpty = false) (hstored : w.snapshots = stored)
    (htrace : ∃ es, w.trace = before ++ es ∧ scheduledIn es = scheduled) :
    ∃ o, (q.builder.rebuild r).runIn (q.prepare w) = some o ∧
      Rebuilt r s stored before scheduled q o := by
  subst hstored
  have hs' : (q.prepare w).snapshots[r]? = some s := hs
  obtain ⟨result, w', hrun, hdrew⟩ := rebuild_of_ensured (runIn_ensureBlocks hs' hblocks) hs'
  obtain ⟨es, hes, hscheduled⟩ := htrace
  obtain ⟨es', hes', hnone⟩ := hdrew.trace
  refine ⟨_, hrun, hdrew.figures, hdrew.graph, hdrew.snapshots, es ++ es', ?_, ?_⟩
  · have hprepared : (q.prepare w).trace = before ++ es := hes
    rw [hes', hprepared, List.append_assoc]
  · rw [scheduledIn_append, hscheduled, hnone, List.append_nil]

/-- Once a snapshot has blocks, all rebuilds only draw it. -/
theorem rebuildAll_rebuilt (hs : stored[r]? = some s) (hblocks : s.blocks.isEmpty = false)
    (requests : List Request) (w : World) (hstored : w.snapshots = stored)
    (htrace : ∃ es, w.trace = before ++ es ∧ scheduledIn es = scheduled) :
    ∃ outcomes, rebuildAll r requests w = some outcomes ∧
      List.Forall₂ (Rebuilt r s stored before scheduled) requests outcomes := by
  induction requests generalizing w with
  | nil => exact ⟨[], rfl, .nil⟩
  | cons q rest ih =>
    -- A rebuild leaves the snapshots and the trace as the next one needs them.
    obtain ⟨o, hrun, hrebuilt⟩ := rebuild_rebuilt q hs hblocks hstored htrace
    obtain ⟨outcomes, hrest, hall⟩ := ih o.2 hrebuilt.snapshots hrebuilt.trace
    refine ⟨o :: outcomes, ?_, .cons hrebuilt hall⟩
    rw [rebuildAll, hrun, Option.bind_some, hrest, Option.map_some]

/-- The first rebuild schedules the snapshot before it draws it. -/
theorem rebuild_schedules {scheduler : Scheduler} {blocks : OrderedMap String Block}
    {log : List Log.Record} (q : Request) (hs : w.snapshots[r]? = some s)
    (hblocks : s.blocks.isEmpty = true) (hassign : scheduler.assign s = .ok (blocks, log))
    (hscheduler : q.builder.scheduler = some scheduler) :
    ∃ o, (q.builder.rebuild r).runIn (q.prepare w) = some o ∧
      Rebuilt r { s with blocks }.collectStrays
        (w.snapshots.set r { s with blocks }.collectStrays) w.trace [r] q o := by
  have hs' : (q.prepare w).snapshots[r]? = some s := hs
  obtain ⟨result, w', hrun, hdrew⟩ := rebuild_of_assigned hs' hblocks hscheduler hassign
  have hsnapshots := snapshots_assignBlocks
    (w := (q.prepare w).record (.scheduled r)) hs' blocks log
  obtain ⟨es, hes, hnone⟩ := hdrew.trace
  refine ⟨_, hrun, hdrew.figures, hdrew.graph, hdrew.snapshots.trans hsnapshots,
    [.scheduled r] ++ log.map .logged ++ es, ?_, ?_⟩
  · -- The call is noted first, then what the scheduler logs, and then what drawing notes.
    rw [hes, ← List.append_assoc, ← List.append_assoc]
    rfl
  · rw [scheduledIn_append, scheduledIn_append, scheduledIn_logged, hnone]
    rfl

/-- The first of all rebuilds schedules the snapshot, and the others draw it as it is then. -/
theorem rebuildAll_scheduled {scheduler : Scheduler} {blocks : OrderedMap String Block}
    {log : List Log.Record} {requests : List Request} (hs : w.snapshots[r]? = some s)
    (hnodes : s.nodeList ≠ []) (hblocks : s.blocks.isEmpty = true)
    (hassign : scheduler.assign s = .ok (blocks, log))
    (hshared : ∀ q ∈ requests, q.builder.scheduler = some scheduler) :
    ∃ outcomes, rebuildAll r requests w = some outcomes ∧
      List.Forall₂ (Rebuilt r { s with blocks }.collectStrays
        (w.snapshots.set r { s with blocks }.collectStrays) w.trace [r]) requests outcomes := by
  cases requests with
  | nil => exact ⟨[], rfl, .nil⟩
  | cons q rest =>
    obtain ⟨o, hrun, hrebuilt⟩ := rebuild_schedules q hs hblocks hassign
      (hshared q List.mem_cons_self)
    have hstored : (w.snapshots.set r { s with blocks }.collectStrays)[r]? = some _ :=
      List.getElem?_set_self (List.getElem?_eq_some_iff.1 hs).1
    -- Whatever the scheduler leaves out is placed, so that there are blocks for the other rebuilds.
    have hassigned : { s with blocks }.collectStrays.blocks.isEmpty = false := by
      refine Bool.eq_false_iff.2 fun hempty => hnodes ?_
      have hlist := Snapshot.placed_collectStrays { s with blocks } hempty
      rw [collectStrays_eq] at hlist
      exact hlist
    obtain ⟨outcomes, hrest, hall⟩ := rebuildAll_rebuilt hstored hassigned rest o.2
      hrebuilt.snapshots hrebuilt.trace
    refine ⟨o :: outcomes, ?_, .cons hrebuilt hall⟩
    rw [rebuildAll, hrun, Option.bind_some, hrest, Option.map_some]

/-- The properties that a label can use are those of the node, with its id under `idx` unless the
node has a property of this name. -/
theorem get?_propertiesOf (n : Node) (k : String) :
    (Label.propertiesOf n).get? k = (n.properties.get? k).or
      (if k = Label.idProperty then some (Numeral.write n.id) else none) := by
  rw [Label.propertiesOf, OrderedMap.get?_insertAll, OrderedMap.get?_insert,
    ← OrderedMap.get?_ofList, OrderedMap.ofList_entries]
  simp only [eq_comm]
  rfl

/-- Without a scheduler, a snapshot without blocks is refused, and nothing changes. -/
theorem rebuild_missing (hs : w.snapshots[r]? = some s) (hblocks : s.blocks.isEmpty = true)
    (hscheduler : b.scheduler = none) :
    (b.rebuild r).runIn w = some (.error (.noScheduler s.name), w) :=
  Act.runIn_bind_error (runIn_ensureBlocks_missing hs hblocks hscheduler)

/-- A snapshot with nodes and without blocks is rebuilt again and again, by builders that share a
scheduler. All rebuilds come to an end; the first one calls the scheduler, and none of them does
again. After each of them the snapshot is the one it was, apart from its blocks; these are the same
after all of them and hold every node. What is drawn depends on nothing but the templates and the
filters that run; `Shows` says what it is. Without a scheduler, a snapshot without blocks is refused
and stays as it is. -/
theorem rebuildAll_repeats {scheduler : Scheduler} {blocks : OrderedMap String Block}
    {log : List Log.Record} {requests : List Request} (hs : w.snapshots[r]? = some s)
    (hnodes : s.nodeList ≠ []) (hblocks : s.blocks.isEmpty = true)
    (hassign : scheduler.assign s = .ok (blocks, log))
    (hshared : ∀ q ∈ requests, q.builder.scheduler = some scheduler) :
    (∃ s' outcomes, rebuildAll r requests w = some outcomes ∧
      outcomes.length = requests.length ∧
      s' = { s with blocks := s'.blocks } ∧
      (∀ id ∈ s.nodeIds, s'.isPlaced id = true ∧ (s'.blockOf? id).isSome = true) ∧
      (∀ p ∈ requests.zip outcomes, p.2.2.snapshots = w.snapshots.set r s' ∧
        ∃ es, p.2.2.trace = w.trace ++ es ∧ scheduledIn es = [r]) ∧
      (∀ p ∈ requests.zip outcomes, ∀ p' ∈ requests.zip outcomes,
        p'.1.builder.templates = p.1.builder.templates → p'.1.running = p.1.running →
          p'.2.1.map Diagram.figures = p.2.1.map Diagram.figures) ∧
      ∀ p ∈ requests.zip outcomes, ∀ full short tiny,
        p.1.builder.templates = .ofTexts full short tiny →
          Shows r s' p.1 p.2.1 full short tiny) ∧
    (∀ (n : Node) (k : String), (Label.propertiesOf n).get? k = (n.properties.get? k).or
      (if k = Label.idProperty then some (Numeral.write n.id) else none)) ∧
    ∀ (b : Builder) (w : World) (r : SnapshotRef) (s : Snapshot), w.snapshots[r]? = some s →
      s.blocks.isEmpty = true → b.scheduler = none →
        (b.rebuild r).runIn w = some (.error (.noScheduler s.name), w) := by
  refine ⟨?_, get?_propertiesOf, fun b w r s => rebuild_missing⟩
  obtain ⟨outcomes, hrun, hall⟩ := rebuildAll_scheduled hs hnodes hblocks hassign hshared
  obtain ⟨hlength, hzip⟩ := List.forall₂_iff_zip.1 hall
  have hplaced (id : Int) (hid : id ∈ s.nodeIds) :
      { s with blocks }.collectStrays.isPlaced id = true := Snapshot.isPlaced_collectStrays hid
  have hsame := collectStrays_eq { s with blocks }
  refine ⟨_, outcomes, hrun, hlength.symm, hsame,
    fun id hid => ⟨hplaced id hid, Snapshot.isSome_blockOf?.trans (hplaced id hid)⟩,
    fun p hp => ?_, fun p hp p' hp' htemplates hrunning => ?_,
    fun p hp full short tiny htemplates => ?_⟩
  · exact ⟨(hzip hp).snapshots, (hzip hp).trace⟩
  · rw [(hzip hp).figures, (hzip hp').figures, Request.figures_congr htemplates hrunning]
  · refine (hzip hp).shows (fun id hid => hplaced id ?_) htemplates
    rw [Snapshot.nodeIds, hsame] at hid
    exact hid

/-- The scheduler leaves one of two nodes out, and a colour filter runs. -/
theorem rebuildAll_repeats_twice :
    let s : Snapshot := { id := 0, name := "pair", nodes := .ofList [(1, .empty), (2, .empty)] }
    let scheduler := Scheduler.ofFunction fun _ => .ofList [("B0", { nodes := [1] })]
    let q : Request :=
      { builder := ⟨some scheduler, 0, 1, .ofTexts "[idx]" "[name]" ""⟩
        chains := [[0], []]
        filters := [.color "states" ColorRule.forStates] }
    let w : World := { snapshots := [s] }
    s.nodeList ≠ [] ∧ s.blocks.isEmpty = true ∧ q.builder.scheduler = some scheduler ∧
      ∃ s' outcomes, rebuildAll 0 [q, q] w = some outcomes ∧ outcomes.length = 2 ∧
        ∀ p ∈ [q, q].zip outcomes, p.2.2.snapshots = [s'] ∧
          Shows 0 s' p.1 p.2.1 "[idx]" "[name]" "" := by
  intro s scheduler q w
  have hnodes : s.nodeList ≠ [] := by decide
  have hboth : ∀ q' ∈ [q, q], q' = q := by simp
  have hshared : ∀ q' ∈ [q, q], q'.builder.scheduler = some scheduler :=
    fun q' hq' => by rw [hboth q' hq']
  obtain ⟨⟨s', outcomes, hrun, hlength, -, -, hworlds, -, hshows⟩, -⟩ :=
    rebuildAll_repeats (w := w) (r := 0) (s := s) rfl hnodes rfl rfl hshared
  refine ⟨hnodes, rfl, rfl, s', outcomes, hrun, hlength, fun p hp => ⟨(hworlds p hp).1, ?_⟩⟩
  exact hshows p hp _ _ _ (by rw [hboth p.1 (List.of_mem_zip hp).1])

end Builder

end SnapshotViewer
