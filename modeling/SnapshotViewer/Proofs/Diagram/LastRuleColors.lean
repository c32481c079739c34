import SnapshotViewer.Proofs.Diagram.Rebuild
import SnapshotViewer.Proofs.Difference.Contents

/-!
# The colours of a diagram

Colour filters run over all figures of a diagram, chain by chain, filter by filter and rule by rule.
What comes of this can be said of one figure at a time: it has the colour of the last rule that
picks its node (`ColorRule.Colored`). The rules for the states of a difference come last, and every
node of a difference has a state, so that they decide. Main statement: `Builder.rebuild_colored`.
-/

namespace SnapshotViewer

/-! ## Rules -/

namespace ColorRule

/-- The figure has the colour of the last rule that picks its node, and the colour of new figures if
there is no such rule. -/
structure Colored (rules : List ColorRule) (f : Figure) : Prop where
  last : ∀ earlier r later, rules = earlier ++ r :: later → r.picks f.node.properties = true →
    (∀ r' ∈ later, r'.picks f.node.properties = false) → f.color = r.color
  otherwise : (∀ r ∈ rules, r.picks f.node.properties = false) → f.color = "default"

variable {rules : List ColorRule} {ps : Properties} {color : String} {st : Difference.State}

theorem colorOf_of_none (h : ∀ r ∈ rules, r.picks ps = false) : colorOf rules ps color = color := by
  rw [colorOf, List.filter_eq_nil_iff.2 fun r hr => by simp [h r hr]]
  rfl

theorem colored_of_colorOf {f : Figure} (h : f.color = colorOf rules f.node.properties "default") :
    Colored rules f where
  last earlier r later hrules hpicks hlater := by
    rw [h, hrules, colorOf_append, colorOf_cons, if_pos hpicks, colorOf_of_none hlater]
  otherwise hnone := h.trans (colorOf_of_none hnone)

/-- Of the rules for states, one picks each state. -/
theorem getLast?_forStates (st : Difference.State) : ∃ color, (st, color) ∈ stateColors ∧
    ((forStates.filter fun r => r.pattern.fullMatch st.text).getLast?.map ColorRule.color) =
      some color := by
  cases st with
  | same => exact ⟨"white", by decide, by decide +kernel⟩
  | changed => exact ⟨"orange", by decide, by decide +kernel⟩
  | added => exact ⟨"green", by decide, by decide +kernel⟩
  | deleted => exact ⟨"red", by decide, by decide +kernel⟩

/-- A node with a state gets the colour of the state, whatever colour it has. -/
theorem colorOf_forStates (h : ps.get? Difference.stateProperty = some st.text) (color : String) :
    (st, colorOf forStates ps color) ∈ stateColors := by
  have hpicks : forStates.filter (·.picks ps) =
      forStates.filter fun r => r.pattern.fullMatch st.text := by
    refine List.filter_congr fun r hr => ?_
    obtain ⟨p, -, rfl⟩ := List.mem_map.1 hr
    simp only [picks, h]
  obtain ⟨color', hmem, hlast⟩ := getLast?_forStates st
  rw [colorOf, hpicks, hlast]
  exact hmem

/-- Different states have different colours. -/
theorem stateColors_inj : ∀ p ∈ stateColors, ∀ p' ∈ stateColors, p.2 = p'.2 ↔ p.1 = p'.1 := by
  decide

end ColorRule

namespace Difference

/-- Every node of a difference has a state, which says how it relates to the two snapshots. -/
theorem exists_nodeStatus? {a c : Snapshot} {id : Int} {ps : Properties}
    (h : (nodes a c).get? id = some ps) :
    ∃ st, nodeStatus? a c id = some st ∧ ps.get? stateProperty = some st.text := by
  have hstate := nodeState?_ofPair 0 0 0 a c id
  have hfound : nodeState? (ofPair 0 0 0 a c) id = ps.get? stateProperty := by
    rw [nodeState?, ofPair, h, Option.bind_some]
  rw [hfound] at hstate
  cases hstatus : nodeStatus? a c id with
  | some st => exact ⟨st, rfl, by rw [hstate, hstatus, Option.map_some]⟩
  | none =>
    rw [get?_nodes] at h
    unfold nodeStatus? at hstatus
    cases ha : a.nodes.get? id <;> cases hc : c.nodes.get? id <;> simp [ha, hc] at h hstatus

end Difference

/-! ## Chains -/

/-- The filter is a colour filter. -/
def Filter.IsColor : Filter → Prop
  | .color .. => True
  | .other .. => False

/-- The rules of a colour filter. -/
def Filter.rules : Filter → List ColorRule
  | .color _ rules => rules
  | .other .. => []

/-- The rules of the filters of a chain, in order. -/
def World.rulesOf (w : World) (c : ChainRef) : List ColorRule :=
  (w.filtersOf c).flatMap fun f => f.2.rules

/-- The rules that run over the figures of a snapshot, in order: those of the primary chain, those
of the sequence chain unless it is the primary one, and for a difference those for the states. -/
def Builder.rulesFor (b : Builder) (w : World) (s : Snapshot) : List ColorRule :=
  w.rulesOf b.chain ++ (if b.sequenceChain = b.chain then [] else w.rulesOf b.sequenceChain) ++
    if s.isDifference then ColorRule.forStates else []

theorem Filter.IsColor.retouches {f : Filter} (h : f.IsColor) : f.Retouches := by
  cases f with
  | color name rules => exact Filter.retouches_color name rules
  | other => exact h.elim

/-- A run of colour filters is a run of their rules. -/
theorem Painting.run_color {fs : List (FilterRef × Filter)} (h : ∀ f ∈ fs, f.2.IsColor)
    (figures : List Figure) : (run fs figures).figures =
      (fs.flatMap fun f => f.2.rules).foldl (fun figures r => r.paint figures) figures := by
  induction fs generalizing figures with
  | nil => rfl
  | cons f rest ih =>
    obtain ⟨ref, f⟩ := f
    have hcolor : f.IsColor := h (ref, f) List.mem_cons_self
    cases f with
    | color name rules =>
      rw [List.flatMap_cons, List.foldl_append]
      exact ih (fun g hg => h g (List.mem_cons_of_mem _ hg)) _
    | other => exact hcolor.elim

theorem World.flatMap_filtersFor (w : World) (c q : ChainRef) :
    ((w.filtersFor c (some q)).flatMap fun f => f.2.rules) =
      w.rulesOf c ++ if q = c then [] else w.rulesOf q := by
  unfold filtersFor
  dsimp only
  split
  · exact (List.append_nil _).symm
  · exact List.flatMap_append

namespace Builder

variable {b : Builder} {w : World} {r : SnapshotRef} {s : Snapshot} {full short tiny : String}
  {fs : List Figure}

theorem nodes_of_content (h : fs.map Figure.content =
    s.nodeList.map fun n => (Figure.plain full short tiny s n).content) :
    fs.map Figure.node = s.nodeList := by
  have hnodes := congrArg (List.map Prod.fst) h
  rw [List.map_map, List.map_map] at hnodes
  exact hnodes.trans (List.map_id' _)

/-- What colour filters and the rules for states leave, figure by figure. -/
theorem colored_of_figures (htemplates : b.templates = .ofTexts full short tiny)
    (hcolor : ∀ f ∈ w.filtersFor b.chain (some b.sequenceChain), f.2.IsColor)
    (hfs : b.figures w s = .ok fs) : ∀ f ∈ fs, ColorRule.Colored (b.rulesFor w s) f := by
  obtain ⟨figures, hof, -, rfl⟩ := figures_eq_ok.1 hfs
  rw [htemplates, Figure.ofSnapshot_ofTexts] at hof
  cases hof
  -- Making the figures, running the chains and the overlay are all maps over the nodes.
  rw [World.paint, Painting.run_color hcolor, World.flatMap_filtersFor, ColorRule.foldl_paint,
    overlay_eq, List.map_map, List.map_map]
  intro f hf
  obtain ⟨n, -, rfl⟩ := List.mem_map.1 hf
  refine ColorRule.colored_of_colorOf ?_
  rw [rulesFor, ColorRule.colorOf_append]
  rfl

/-- The rules for states come last, so that they decide about the nodes of a difference. -/
theorem stateColor_of_figures {a c : Snapshot} (hnodes : s.nodes = Difference.nodes a c)
    (hdifference : s.isDifference = true) (hfs : b.figures w s = .ok fs)
    (hkept : fs.map Figure.node = s.nodeList) : ∀ f ∈ fs, ∃ st,
      Difference.nodeStatus? a c f.id = some st ∧
        f.node.properties.get? Difference.stateProperty = some st.text ∧
          (st, f.color) ∈ ColorRule.stateColors := by
  intro f hf
  obtain ⟨e, he, hnode⟩ := List.mem_map.1 (hkept ▸ List.mem_map_of_mem hf)
  rw [hnodes] at he
  obtain ⟨st, hstatus, hstate⟩ := Difference.exists_nodeStatus? (OrderedMap.get?_of_mem he)
  refine ⟨st, ?_, ?_, ?_⟩
  · rw [Figure.id, ← hnode]
    exact hstatus
  · rw [← hnode]
    exact hstate
  · obtain ⟨figures, -, -, rfl⟩ := figures_eq_ok.1 hfs
    rw [overlay_eq, if_pos hdifference] at hf
    obtain ⟨g, -, rfl⟩ := List.mem_map.1 hf
    have hnode' : (⟨e.1, e.2⟩ : Node) = g.node := hnode
    refine ColorRule.colorOf_forStates ?_ g.color
    rw [← hnode']
    exact hstate

/-- Building a diagram of a snapshot that has or gets blocks, with chains of filters that only
retouch. If these are colour filters, every figure has the colour of the last of their rules, and
those for the states of a difference, that picks its node. In a difference, the colours tell the
states of the nodes whatever the chains hold. -/
theorem rebuild_colored (hs : w.snapshots[r]? = some s) (hplace : b.CanPlace s)
    (htemplates : b.templates = .ofTexts full short tiny)
    (hfilters : ∀ f ∈ w.filtersFor b.chain (some b.sequenceChain), f.2.Retouches) :
    ∃ d w', (b.rebuild r).runIn w = some (.ok d, w') ∧ d.figures.map Figure.node = s.nodeList ∧
      ((∀ f ∈ w.filtersFor b.chain (some b.sequenceChain), f.2.IsColor) →
        ∀ f ∈ d.figures, ColorRule.Colored (b.rulesFor w s) f) ∧
      ∀ a c, s.nodes = Difference.nodes a c → s.isDifference = true → ∀ f ∈ d.figures,
        (∃ p ∈ ColorRule.stateColors, f.color = p.2) ∧ ∀ p ∈ ColorRule.stateColors,
          (f.color = p.2 ↔ Difference.nodeStatus? a c f.id = some p.1) ∧
          (f.color = p.2 ↔
            f.node.properties.get? Difference.stateProperty = some p.1.text) := by
  obtain ⟨blocks, result, w', hrun, hfigures⟩ := rebuild_drawn hs hplace
  obtain ⟨fs, hfs, hcontent⟩ := figures_retouched (s := { s with blocks }) htemplates hfilters
  rw [hfs] at hfigures
  cases result with
  | error e => cases hfigures
  | ok d =>
    obtain rfl : d.figures = fs := Except.ok.inj hfigures
    have hkept := nodes_of_content hcontent
    refine ⟨d, w', hrun, hkept, fun hcolor => ?_, fun a c hnodes hdifference f hf => ?_⟩
    · exact colored_of_figures (s := { s with blocks }) htemplates hcolor hfs
    obtain ⟨st, hstatus, hstate, hcolor⟩ := stateColor_of_figures
      (s := { s with blocks }) hnodes hdifference hfs hkept f hf
    refine ⟨⟨_, hcolor, rfl⟩, fun p hp => ?_⟩
    have hsame : f.color = p.2 ↔ st = p.1 := ColorRule.stateColors_inj _ hcolor p hp
    refine ⟨hsame.trans ?_, hsame.trans ?_⟩
    · rw [hstatus, Option.some.injEq]
    · rw [hstate, Option.some.injEq, Difference.State.text_inj]

/-- One chain serves as both, and its filter picks every node that has a state. -/
theorem rebuild_colored_difference :
    let a : Snapshot := { id := 0, name := "a", nodes := .ofList [(1, .empty), (2, .empty)] }
    let c : Snapshot := { id := 1, name := "b", nodes := .ofList [(2, .empty), (3, .empty)] }
    let s := Difference.ofPair 2 0 1 a c
    let w : World :=
      { snapshots := [a, c, s], chains := [[0]]
        filters :=
          [.color "all" [⟨"state", ⟨false, .repeated 0 none (.atom .anyInLine)⟩, "blue"⟩]] }
    let b : Builder := ⟨some .byComponent, 0, 0, .ofTexts "[idx]" "[name]" ""⟩
    w.snapshots[2]? = some s ∧ b.CanPlace s ∧
      (∀ f ∈ w.filtersFor b.chain (some b.sequenceChain), f.2.IsColor) ∧
      ∃ d w', (b.rebuild 2).runIn w = some (.ok d, w') ∧ d.figures.map Figure.node = s.nodeList ∧
        ∀ f ∈ d.figures, ColorRule.Colored (b.rulesFor w s) f ∧
          (f.color = "green" ↔ Difference.nodeStatus? a c f.id = some .added) := by
  intro a c s w b
  have hplace : b.CanPlace s := .inr ⟨.byComponent, _, rfl, rfl⟩
  have hcolor : ∀ f ∈ w.filtersFor b.chain (some b.sequenceChain), f.2.IsColor := by
    intro f hf
    cases List.mem_singleton.1 hf
    trivial
  obtain ⟨d, w', hrun, hnodes, hcolored, hstates⟩ := rebuild_colored (w := w) (r := 2) (s := s)
    rfl hplace rfl fun f hf => (hcolor f hf).retouches
  refine ⟨rfl, hplace, hcolor, d, w', hrun, hnodes, fun f hf => ⟨hcolored hcolor f hf, ?_⟩⟩
  exact ((hstates a c rfl rfl f hf).2 (.added, "green") (by decide)).1

end Builder

end SnapshotViewer
