import SnapshotViewer.Difference
import SnapshotViewer.Scheduler
import SnapshotViewer.Snapshot.Record

/-!
# Writing a snapshot and reading it again

A snapshot that was read or computed, and edited since then, is written as a record that reads as
the same snapshot. What a record can lose is ruled out by `Writable`: an edge without one of its
nodes, a property that is not a text, and a property of a node with a name that reading refuses.
Reading, comparing and every edit keep to that, so that `Obtained.read_written` holds of every
snapshot there is.
-/

namespace SnapshotViewer

/-- The origin that a record of a snapshot gives back: the two snapshots behind a difference are not
part of it. -/
def Origin.written : Origin → Origin
  | .captured => .captured
  | .difference _ _ => .difference none none

namespace Snapshot

/-! ## Edits -/

/-- A step of a tool that changes a snapshot in place. -/
inductive Edit where
  | addNode (id : Int) (properties : Fields)
  | addEdge (source target : Int) (options : Fields)
  | addBlock (name : String) (nodes : List Int)
  | clearBlocks
  | collectStrays
  | schedule
  | setProperty (key text : String)

/-- Carries out an edit. -/
def Edit.apply (s : Snapshot) : Edit → Except Failure Snapshot
  | .addNode id properties => (readProperties properties).map (s.addNode id)
  | .addEdge source target options => (s.addEdgeWith source target options).map Prod.fst
  | .addBlock name nodes => .ok (s.addBlock name nodes)
  | .clearBlocks => .ok s.clearBlocks
  | .collectStrays => .ok s.collectStrays
  | .schedule => (Scheduler.byComponent.assign s).map fun (blocks, _) => { s with blocks }
  | .setProperty key text => .ok (s.setProperty key (.text text))

/-- The snapshot after an edit. An edit that fails leaves it as it was. -/
def afterEdit (s : Snapshot) (e : Edit) : Snapshot :=
  match e.apply s with
  | .ok s' => s'
  | .error _ => s

/-- The snapshots there are: read from a record, computed from two others, and edited. -/
inductive Obtained : Snapshot → Prop
  | read {freshId : Int} {origin : Origin} {v : Value} {s : Snapshot}
      (horigin : origin.written = origin) (hread : ofRecord freshId origin v = .ok s) : Obtained s
  | compared {a b : Snapshot} (freshId : Int) (first second : SnapshotRef) (ha : Obtained a)
      (hb : Obtained b) : Obtained (Difference.ofPair freshId first second a b)
  | edited {s : Snapshot} (e : Edit) (hs : Obtained s) : Obtained (s.afterEdit e)

/-! ## What a record keeps -/

/-- Reading accepts the names of the properties. -/
def Readable (ps : Properties) : Prop := ∀ e ∈ ps.entries, e.1 ∉ reservedNames

/-- The edges join nodes. -/
def Joined (s : Snapshot) : Prop := ∀ e ∈ s.edges, s.joins e = true

/-- A record of the snapshot has all of it. -/
structure Writable (s : Snapshot) : Prop where
  joined : s.Joined
  texts : ∀ e ∈ s.properties.entries, ∃ text, e.2 = .text text
  readable : ∀ n ∈ s.nodes.entries, Readable n.2

variable {s s' : Snapshot}

/-- What a record keeps depends on the edges, the properties and the nodes alone. -/
theorem Writable.congr (h : s.Writable) (hnodes : s'.nodes = s.nodes) (hedges : s'.edges = s.edges)
    (hproperties : s'.properties = s.properties) : s'.Writable where
  joined e he := by
    rw [joins, hnodes]
    exact h.joined e (hedges ▸ he)
  texts e he := h.texts e (hproperties ▸ he)
  readable n hn := h.readable n (hnodes ▸ hn)

theorem joins_eq_true {e : Edge} :
    s.joins e = true ↔ s.nodes.contains e.source = true ∧ s.nodes.contains e.target = true := by
  rw [joins, Bool.and_eq_true]

/-! ## Reading what was written -/

/-- Reading the items of a list one by one gives back what they were written from. -/
theorem mapM_written {α : Type} (write : α → Value) (read : Value → Except Failure α)
    (h : ∀ a, read (write a) = .ok a) (l : List α) : (l.map write).mapM read = .ok l := by
  induction l with
  | nil => rfl
  | cons a rest ih =>
    rw [List.map_cons, List.mapM_cons, h a, ih]
    rfl

theorem readProperties_written {ps : Properties} (h : Readable ps) :
    readProperties (ps.entries.map fun (k, v) => (.text k, .text v)) = .ok ps := by
  have hentries : (ps.entries.map fun e => (Scalar.text e.1, Value.text e.2)).map
      (fun e => (keyText e.1, e.2.plain)) = ps.entries := by
    rw [List.map_map]
    exact List.map_id'' (fun _ => rfl) _
  have hnames : ps.entries.any (fun e => reservedNames.contains e.1) = false := by
    rw [List.any_eq_false]
    intro e he
    simpa using h e he
  refine (congrArg (fun l : List (String × String) =>
    if l.any fun e => reservedNames.contains e.1 then Except.error Failure.wrongType
    else Except.ok (OrderedMap.ofList l)) hentries).trans ?_
  simp only [hnames, OrderedMap.ofList_entries]
  rfl

/-- A field of a written record, found by its name. -/
theorem field?_text (name k : String) (v : Value) (rest : Fields) :
    Value.field? name ((.text k, v) :: rest) =
      if k = name then some v else Value.field? name rest := by
  by_cases h : k = name <;> simp [Value.field?, Scalar.same, h]

theorem readNode_written {n : Node} (h : Readable n.properties) :
    s.readNode (writeNode n) = .ok (s.addNode n.id n.properties) := by
  have hread := readProperties_written h
  simp [readNode, writeNode, writeProperties, Value.record, Value.expectMap, required, field?_text,
    Value.toInteger, bind, Except.bind, pure, Except.pure, hread, Function.comp_def]

theorem readEdge_written {e : Edge} (h : s.joins e = true) :
    s.readEdge (writeEdge e) = .ok { s with edges := s.edges ++ [e] } := by
  simp [readEdge, writeEdge, Value.record, Value.expectMap, required, terminalIndex, textField,
    field?_text, Value.toInteger, Value.expectInt, Value.expectText, bind, Except.bind, addEdge, h]

theorem readBlock_written (name : String) (b : Block) :
    s.readBlock (writeBlock name b) = .ok { s with blocks := s.blocks.insert name b } := by
  have hnodes : (b.nodes.map fun n => Value.int n).mapM Value.expectInt = .ok b.nodes :=
    mapM_written (fun n => .int n) Value.expectInt (fun _ => rfl) _
  have hsuccessors : (b.successors.map fun n => Value.text n).mapM Value.expectText =
      .ok b.successors := mapM_written (fun n => .text n) Value.expectText (fun _ => rfl) _
  simp [readBlock, writeBlock, Value.record, Value.expectMap, required, optionalParts, field?_text,
    Value.parts, Value.expectText, bind, Except.bind, pure, Except.pure, hnodes, hsuccessors]

theorem readNodes_written (l : List (Int × Properties)) (h : ∀ n ∈ l, Readable n.2) :
    (l.map fun n => writeNode ⟨n.1, n.2⟩).foldlM readNode s =
      .ok { s with nodes := s.nodes.insertAll l } := by
  induction l generalizing s with
  | nil => rfl
  | cons n rest ih =>
    rw [List.map_cons, List.foldlM_cons, readNode_written (h n (by simp))]
    exact ih fun n' hn' => h n' (List.mem_cons_of_mem n hn')

theorem readEdges_written (l : List Edge) (h : ∀ e ∈ l, s.joins e = true) :
    (l.map writeEdge).foldlM readEdge s = .ok { s with edges := s.edges ++ l } := by
  induction l generalizing s with
  | nil => simp [pure, Except.pure]
  | cons e rest ih =>
    rw [List.map_cons, List.foldlM_cons, readEdge_written (h e (by simp))]
    refine (ih (s := { s with edges := s.edges ++ [e] })
      fun e' he' => h e' (List.mem_cons_of_mem e he')).trans ?_
    simp

theorem readBlocks_written (l : List (String × Block)) :
    (l.map fun b => writeBlock b.1 b.2).foldlM readBlock s =
      .ok { s with blocks := s.blocks.insertAll l } := by
  induction l generalizing s with
  | nil => rfl
  | cons b rest ih =>
    rw [List.map_cons, List.foldlM_cons, readBlock_written]
    exact ih

/-- A record reads as the snapshot it was written from, without its group and the two snapshots
behind it. -/
theorem Writable.ofRecord_toRecord (h : s.Writable) (freshId : Int) (origin : Origin) :
    ofRecord freshId origin s.toRecord = .ok { s with origin, group := none } := by
  have hproperties : OrderedMap.ofList (s.properties.entries.map fun e =>
      (keyText (.text e.1), Value.text e.2.plain)) = s.properties := by
    have hentries : (s.properties.entries.map fun e =>
        (keyText (.text e.1), Value.text e.2.plain)) = s.properties.entries := by
      refine (List.map_congr_left fun e he => ?_).trans (List.map_id _)
      obtain ⟨text, htext⟩ := h.texts e he
      obtain ⟨k, v⟩ := e
      cases htext
      rfl
    rw [hentries, OrderedMap.ofList_entries]
  have hrebuilt {κ υ : Type} [DecidableEq κ] (m : OrderedMap κ υ) :
      OrderedMap.empty.insertAll m.entries = m := OrderedMap.ofList_entries m
  have hnodes := fun s' : Snapshot => readNodes_written (s := s') s.nodes.entries h.readable
  have hedges := readEdges_written
    (s := { s with edges := [], blocks := .empty, origin, group := none }) s.edges h.joined
  simp only [ofRecord, toRecord, nodeList, Value.record, Value.expectMap, optionalParts, textField,
    field?_text, Value.toInteger, Value.expectText, Value.parts, bind, Except.bind, List.map_map,
    List.map_cons, List.map_nil, reduceIte, String.reduceEq, Function.comp_def, hnodes,
    hproperties, hrebuilt, hedges, readBlocks_written, List.nil_append]

/-! ## What reading, comparing and editing keep -/

/-- A step that has a result has one for each of its parts. -/
theorem ok_of_bind {α β : Type} {x : Except Failure α} {f : α → Except Failure β} {b : β}
    (h : x >>= f = .ok b) : ∃ a, x = .ok a ∧ f a = .ok b := by
  cases x with
  | error e => cases h
  | ok a => exact ⟨a, rfl, h⟩

theorem ok_of_map {α β : Type} {x : Except Failure α} {f : α → β} {b : β}
    (h : x.map f = .ok b) : ∃ a, x = .ok a ∧ f a = b := by
  cases x with
  | error e => cases h
  | ok a => exact ⟨a, rfl, Except.ok.inj h⟩

theorem ok_of_optional {α β : Type} {o : Option Value} {x : Value → Except Failure α}
    {y : Except Failure α} {f : α → Except Failure β} {b : β}
    (h : (match o with | some v => x v >>= f | none => y >>= f) = .ok b) : ∃ a, f a = .ok b := by
  cases o with
  | none => exact (ok_of_bind h).imp fun _ => And.right
  | some v => exact (ok_of_bind h).imp fun _ => And.right

/-- What every item keeps is kept by all. -/
theorem foldlM_keeps {α : Type} {P : Snapshot → Prop}
    {read : Snapshot → α → Except Failure Snapshot}
    (hread : ∀ s a s', P s → read s a = .ok s' → P s') {l : List α} (hs : P s)
    (h : l.foldlM read s = .ok s') : P s' := by
  induction l generalizing s with
  | nil =>
    cases h
    exact hs
  | cons a rest ih =>
    rw [List.foldlM_cons] at h
    obtain ⟨s₁, h₁, h⟩ := ok_of_bind h
    exact ih (hread s a s₁ hs h₁) h

theorem readable_of_readProperties {fields : Fields} {ps : Properties}
    (h : readProperties fields = .ok ps) : Readable ps := by
  dsimp only [readProperties] at h
  split at h
  · cases h
  · rename_i hnames
    cases h
    intro e he
    rw [Bool.not_eq_true, List.any_eq_false] at hnames
    simpa using hnames e (OrderedMap.mem_of_mem_ofList he)

theorem Writable.addNode (h : s.Writable) (id : Int) {ps : Properties} (hps : Readable ps) :
    (s.addNode id ps).Writable where
  joined e he := by
    have hjoins := joins_eq_true.1 (h.joined e he)
    exact joins_eq_true.2 ⟨(OrderedMap.contains_insert ..).2 (.inr hjoins.1),
      (OrderedMap.contains_insert ..).2 (.inr hjoins.2)⟩
  texts := h.texts
  readable n hn := by
    rcases OrderedMap.mem_of_mem_insert hn with rfl | hn
    · exact hps
    · exact h.readable n hn

theorem Writable.addEdge (h : s.Writable) {e : Edge} (hs' : s.addEdge e = .ok s') :
    s'.Writable := by
  unfold Snapshot.addEdge at hs'
  split at hs'
  · rename_i hjoins
    cases hs'
    refine ⟨fun e' he' => ?_, h.texts, h.readable⟩
    rcases List.mem_append.1 he' with he' | he'
    · exact h.joined e' he'
    · cases List.mem_singleton.1 he'
      exact hjoins
  · cases hs'

theorem Writable.withBlocks (h : s.Writable) (blocks : OrderedMap String Block) :
    { s with blocks }.Writable :=
  h.congr rfl rfl rfl

theorem Writable.collectStrays (h : s.Writable) : s.collectStrays.Writable := by
  rw [collectStrays_eq]
  exact h.withBlocks _

theorem Writable.setProperty (h : s.Writable) (key text : String) :
    (s.setProperty key (.text text)).Writable where
  joined := h.joined
  texts e he := by
    rcases OrderedMap.mem_of_mem_insert he with rfl | he
    · exact ⟨text, rfl⟩
    · exact h.texts e he
  readable := h.readable

/-! ### Reading -/

theorem Writable.readNode (h : s.Writable) {v : Value} (hread : s.readNode v = .ok s') :
    s'.Writable := by
  obtain ⟨fields, -, hread⟩ := ok_of_bind hread
  obtain ⟨idValue, -, hread⟩ := ok_of_bind hread
  obtain ⟨id, -, hread⟩ := ok_of_bind hread
  obtain ⟨properties, hread⟩ := ok_of_optional hread
  obtain ⟨ps, hps, hread⟩ := ok_of_bind hread
  cases hread
  exact h.addNode id (readable_of_readProperties hps)

theorem Writable.readEdge (h : s.Writable) {v : Value} (hread : s.readEdge v = .ok s') :
    s'.Writable := by
  obtain ⟨fields, -, hread⟩ := ok_of_bind hread
  obtain ⟨sourceValue, -, hread⟩ := ok_of_bind hread
  obtain ⟨source, -, hread⟩ := ok_of_bind hread
  obtain ⟨targetValue, -, hread⟩ := ok_of_bind hread
  obtain ⟨target, -, hread⟩ := ok_of_bind hread
  obtain ⟨sourceIndex, -, hread⟩ := ok_of_bind hread
  obtain ⟨targetIndex, -, hread⟩ := ok_of_bind hread
  obtain ⟨label, -, hread⟩ := ok_of_bind hread
  obtain ⟨state, -, hread⟩ := ok_of_bind hread
  exact h.addEdge hread

theorem Writable.readBlock (h : s.Writable) {v : Value} (hread : s.readBlock v = .ok s') :
    s'.Writable := by
  obtain ⟨fields, -, hread⟩ := ok_of_bind hread
  obtain ⟨nameValue, -, hread⟩ := ok_of_bind hread
  obtain ⟨name, -, hread⟩ := ok_of_bind hread
  obtain ⟨nodeParts, -, hread⟩ := ok_of_bind hread
  obtain ⟨nodes, -, hread⟩ := ok_of_bind hread
  obtain ⟨successorParts, -, hread⟩ := ok_of_bind hread
  obtain ⟨successors, -, hread⟩ := ok_of_bind hread
  cases hread
  exact h.withBlocks _

theorem writable_of_ofRecord {freshId : Int} {origin : Origin} {v : Value}
    (hread : ofRecord freshId origin v = .ok s) : s.Writable := by
  obtain ⟨fields, -, hread⟩ := ok_of_bind hread
  obtain ⟨name, -, hread⟩ := ok_of_bind hread
  obtain ⟨id, hread⟩ := ok_of_optional hread
  obtain ⟨properties, hread⟩ := ok_of_optional hread
  obtain ⟨nodeParts, -, hread⟩ := ok_of_bind hread
  obtain ⟨s₁, h₁, hread⟩ := ok_of_bind hread
  obtain ⟨edgeParts, -, hread⟩ := ok_of_bind hread
  obtain ⟨s₂, h₂, hread⟩ := ok_of_bind hread
  obtain ⟨blockParts, -, hread⟩ := ok_of_bind hread
  have hbare : Writable { id, name, origin, properties := .ofList (properties.map fun e =>
      (keyText e.1, .text e.2.plain)) } := by
    refine ⟨nofun, fun e he => ?_, nofun⟩
    obtain ⟨e', -, rfl⟩ := List.mem_map.1 (OrderedMap.mem_of_mem_ofList he)
    exact ⟨_, rfl⟩
  have hnodes := foldlM_keeps (fun _ _ _ h => h.readNode) hbare h₁
  have hedges := foldlM_keeps (fun _ _ _ h => h.readEdge) hnodes h₂
  exact foldlM_keeps (fun _ _ _ h => h.readBlock) hedges hread

/-! ### Comparing -/

section Comparing

open Difference (State keyOf edgeMap tag tagFirst)

variable {a b : Snapshot}

theorem readable_tag {ps : Properties} (h : Readable ps) (state : State) :
    Readable (tag ps state) := by
  intro e he
  rcases OrderedMap.mem_of_mem_insert he with rfl | he
  · exact (by decide : Difference.stateProperty ∉ reservedNames)
  · exact h e he

theorem Writable.readable_tagFirst (hb : b.Writable) (id : Int) {ps : Properties}
    (h : Readable ps) : Readable (tagFirst b id ps) := by
  unfold tagFirst
  split
  · exact readable_tag h _
  · rename_i other hother
    exact readable_tag (hb.readable _ (OrderedMap.mem_of_get? hother)) _

/-- A difference has the nodes of both snapshots. -/
theorem contains_nodes {id : Int} :
    (Difference.nodes a b).contains id = true ↔
      a.nodes.contains id = true ∨ b.nodes.contains id = true := by
  rw [Difference.nodes, OrderedMap.contains_ofList, OrderedMap.contains_eq_true,
    OrderedMap.contains_eq_true]
  simp only [OrderedMap.keys, List.map_append, List.mem_append, List.map_map, Function.comp_def,
    List.mem_map, List.mem_filter]
  constructor
  · rintro (h | ⟨x, ⟨hx, -⟩, rfl⟩)
    · exact .inl h
    · exact .inr ⟨x, hx, rfl⟩
  · rintro (h | ⟨x, hx, rfl⟩)
    · exact .inl h
    · by_cases hfirst : a.nodes.contains x.1 = true
      · exact .inl (List.mem_map.1 (OrderedMap.contains_eq_true.1 hfirst))
      · exact .inr ⟨x, ⟨hx, by simpa using hfirst⟩, rfl⟩

/-- An edge of a difference has the ends of an edge of one of the snapshots. -/
theorem exists_of_mem_edges {e : Edge} (h : e ∈ Difference.edges a b) :
    ∃ e', (e' ∈ a.edges ∨ e' ∈ b.edges) ∧ e.source = e'.source ∧ e.target = e'.target := by
  have hlisted {s : Snapshot} {x : Difference.EdgeKey × Edge} (hx : x ∈ (edgeMap s).entries) :
      x.2 ∈ s.edges := by
    obtain ⟨e', he', rfl⟩ := List.mem_map.1 (OrderedMap.mem_of_mem_ofList hx)
    exact he'
  rcases List.mem_append.1 h with h | h
  · obtain ⟨x, hx, rfl⟩ := List.mem_map.1 h
    exact ⟨x.2, .inl (hlisted hx), rfl, rfl⟩
  · obtain ⟨x, hx, rfl⟩ := List.mem_map.1 h
    exact ⟨x.2, .inr (hlisted (List.mem_filter.1 hx).1), rfl, rfl⟩

/-- A difference has both ends of its edges. -/
theorem Joined.ofPair (ha : a.Joined) (hb : b.Joined) (freshId : Int)
    (first second : SnapshotRef) : (Difference.ofPair freshId first second a b).Joined := by
  intro e he
  obtain ⟨e', he', hsource, htarget⟩ := exists_of_mem_edges he
  refine joins_eq_true.2 ⟨contains_nodes.2 ?_, contains_nodes.2 ?_⟩
  · rw [hsource]
    exact he'.imp (fun h => (joins_eq_true.1 (ha _ h)).1) fun h => (joins_eq_true.1 (hb _ h)).1
  · rw [htarget]
    exact he'.imp (fun h => (joins_eq_true.1 (ha _ h)).2) fun h => (joins_eq_true.1 (hb _ h)).2

theorem Writable.ofPair (ha : a.Writable) (hb : b.Writable) (freshId : Int)
    (first second : SnapshotRef) : (Difference.ofPair freshId first second a b).Writable where
  joined := ha.joined.ofPair hb.joined freshId first second
  texts := nofun
  readable n hn := by
    rcases List.mem_append.1 (OrderedMap.mem_of_mem_ofList hn) with hn | hn
    · obtain ⟨x, hx, rfl⟩ := List.mem_map.1 hn
      exact hb.readable_tagFirst _ (ha.readable _ hx)
    · obtain ⟨x, hx, rfl⟩ := List.mem_map.1 hn
      exact readable_tag (hb.readable _ (List.mem_filter.1 hx).1) _

end Comparing

/-! ### Editing -/

theorem Writable.addEdgeWith (h : s.Writable) {source target : Int} {options : Fields}
    {answer : Snapshot × Edge} (hs' : s.addEdgeWith source target options = .ok answer) :
    answer.1.Writable := by
  unfold Snapshot.addEdgeWith at hs'
  dsimp only at hs'
  split at hs'
  · cases hs'
  split at hs'
  · cases hs'
  split at hs'
  · cases hs'
  obtain ⟨sourceIndex, -, hs'⟩ := ok_of_bind hs'
  obtain ⟨targetIndex, -, hs'⟩ := ok_of_bind hs'
  obtain ⟨label, -, hs'⟩ := ok_of_bind hs'
  obtain ⟨state, -, hs'⟩ := ok_of_bind hs'
  obtain ⟨s', hadd, hs'⟩ := ok_of_bind hs'
  cases hs'
  exact h.addEdge hadd

theorem Writable.apply (h : s.Writable) {e : Edit} (hs' : e.apply s = .ok s') : s'.Writable := by
  cases e with
  | addNode id properties =>
    obtain ⟨ps, hps, rfl⟩ := ok_of_map hs'
    exact h.addNode id (readable_of_readProperties hps)
  | addEdge source target options =>
    obtain ⟨answer, hanswer, rfl⟩ := ok_of_map hs'
    exact h.addEdgeWith hanswer
  | addBlock name nodes =>
    cases hs'
    exact h.withBlocks _
  | clearBlocks =>
    cases hs'
    exact h.withBlocks _
  | collectStrays =>
    cases hs'
    exact h.collectStrays
  | schedule =>
    cases hs'
    exact h.withBlocks _
  | setProperty key text =>
    cases hs'
    exact h.setProperty key text

theorem Writable.afterEdit (h : s.Writable) (e : Edit) : (s.afterEdit e).Writable := by
  unfold Snapshot.afterEdit
  split
  · rename_i s' hs'
    exact h.apply hs'
  · exact h

theorem Obtained.writable (h : s.Obtained) : s.Writable := by
  induction h with
  | read horigin hread => exact writable_of_ofRecord hread
  | compared freshId first second _ _ iha ihb => exact iha.ofPair ihb freshId first second
  | edited e _ ih => exact ih.afterEdit e

/-- Every edge of a snapshot joins two of its nodes, and its record reads as a snapshot of the same
class with the same record. All that this snapshot lacks is what a record does not have: the group
and the two snapshots behind a difference. -/
theorem Obtained.read_written (h : s.Obtained) (freshId : Int) :
    (∀ e ∈ s.edges, s.nodes.contains e.source = true ∧ s.nodes.contains e.target = true) ∧
      ∃ s', ofRecord freshId s.origin.written s.toRecord = .ok s' ∧
        s' = { s with origin := s.origin.written, group := none } ∧
        s'.isDifference = s.isDifference ∧ s'.toRecord = s.toRecord := by
  have hwritable := h.writable
  refine ⟨fun e he => joins_eq_true.1 (hwritable.joined e he), _,
    hwritable.ofRecord_toRecord freshId s.origin.written, rfl, ?_, rfl⟩
  cases horigin : s.origin <;> simp [isDifference, Origin.written, horigin]

/-- A record with a numeral for an id, a node that is listed twice and a number for a property. -/
def looseRecord : Value :=
  .record [("name", .text "loose"), ("properties", .record [("phase", .int 3)]),
    ("nodes", .list [.record [("id", .text "7")],
      .record [("id", .int 8), ("properties", .record [("op", .text "add")])],
      .record [("id", .int 7), ("properties", .record [("width", .int 64)])]]),
    ("edges", .list [.record [("from", .text "7"), ("to", .int 8)]])]

/-- The difference of a snapshot with one without nodes, scheduled, and edited by a step that fails
and one that succeeds. -/
theorem read_written_looseRecord : ∃ a b : Snapshot,
    ofRecord 0 .captured looseRecord = .ok a ∧ ofRecord 1 .captured (.record []) = .ok b ∧
      let s := (((Difference.ofPair 2 0 1 a b).afterEdit .schedule).afterEdit
        (.addNode 9 [(.text "self", .int 1)])).afterEdit (.addEdge 8 7 [])
      (∀ e ∈ s.edges, s.nodes.contains e.source = true ∧ s.nodes.contains e.target = true) ∧
        ∃ s', ofRecord 3 s.origin.written s.toRecord = .ok s' ∧
          s' = { s with origin := s.origin.written, group := none } ∧
          s'.isDifference = s.isDifference ∧ s'.toRecord = s.toRecord := by
  obtain ⟨a, ha⟩ : ∃ a, ofRecord 0 .captured looseRecord = .ok a := ⟨_, rfl⟩
  obtain ⟨b, hb⟩ : ∃ b, ofRecord 1 .captured (.record []) = .ok b := ⟨_, rfl⟩
  have hdifference := Obtained.compared 2 0 1 (.read rfl ha) (.read rfl hb)
  exact ⟨a, b, ha, hb, Obtained.read_written
    (((hdifference.edited .schedule).edited (.addNode 9 _)).edited (.addEdge 8 7 [])) 3⟩

end Snapshot

end SnapshotViewer
