import SnapshotViewer.Proofs.Interference.AgreeingChanges
import SnapshotViewer.Proofs.Run.LinkedDifferences

/-!
# Views do not disturb each other

Two views are called in any order, with listeners that do not connect them and snapshots that are
scheduled by components. Main statement: leaving out the calls of one of them changes neither what
becomes of the other one nor the signals that it emits, but for the handles and ids of differences
that are computed meanwhile.
-/

namespace SnapshotViewer

namespace World

/-- The graph that a view shows. -/
def shown? (w : World) (v : ViewRef) : Option Snapshot := do
  let view ← w.views[v]?
  let graph ← view.graph?
  w.snapshots[graph]?

/-- A view is the same in two worlds, and has emitted the same signals with the same to be read off
it, apart from the handles of snapshots from the `n`-th on and the serial numbers of diagrams. The
first `n` snapshots are the same in `w` as in `u`, or have been scheduled; and so is the graph that
the view shows, but for its id. -/
structure SameFor (n : Nat) (v : ViewRef) (u w : World) : Prop where
  view : w.views[v]?.map (View.upTo n) = u.views[v]?.map (View.upTo n)
  snapshots : ∀ r < n, Option.Rel Snapshot.Becomes u.snapshots[r]? w.snapshots[r]?
  graph : Option.Rel Snapshot.Counterpart (u.shown? v) (w.shown? v)
  signals : voice n v w.trace = voice n v u.trace

variable {n : Nat} {a b v : ViewRef} {w u w' : World}

theorem Twins.sameFor (h : Twins n v w u) : SameFor n v u w := by
  obtain ⟨x, y, hx, hy, hview⟩ := h.view
  refine ⟨by rw [hx, hy, Option.map_some, Option.map_some, hview.same], fun r hr => ?_, ?_,
    h.trace.symm⟩
  · obtain ⟨s, t, hs, ht, hst⟩ := h.snapshots r hr
    rw [hs, ht]
    exact .some hst
  unfold shown?
  rw [hx, hy]
  obtain ⟨hg, hg'⟩ | ⟨g, g', hg, hg', hpair⟩ := hview.selected
  · simp [hg, hg']
  · obtain ⟨s, t, hs, ht, hst⟩ := hpair.stored
    simpa [hg, hg', hs, ht] using hst

/-- A world is its own twin with regard to an idle view. -/
theorem Sound.twins (h : w.Sound) (hlinked : w.Linked) {view : View}
    (hview : w.views[v]? = some view) (hpending : view.pending = []) :
    Twins w.snapshots.length v w w where
  rest := rfl
  members := h.members
  pool := h.pool
  snapshots r hr := ⟨_, _, List.getElem?_eq_getElem hr, List.getElem?_eq_getElem hr, .refl _⟩
  ends _ _ s hs := hlinked s (List.mem_of_getElem? hs)
  view := by
    refine ⟨view, view, hview, hview, rfl, (h.view hview).graphs, by simp [hpending],
      fun g g' hg hg' => ?_⟩
    cases hg.symm.trans hg'
    obtain ⟨s, hs, rfl⟩ := Option.map_eq_some_iff.1 hg
    have hstored := List.getElem?_eq_getElem ((h.view hview).selection s hs).stored
    exact ⟨rfl, _, _, hstored, hstored, (Snapshot.Becomes.refl _).counterpart⟩
  scripts := rfl
  listeners _ _ := rfl
  trace := rfl

/-- A run goes on from where its first command has led to. -/
theorem run_cons {c : Command} {r : Except Failure Reply} (h : w.perform c = some (r, w'))
    (rest : List Command) : w.run (c :: rest) = w'.run rest := by
  rw [World.run, List.foldlM_cons, h]
  rfl

/-- Calls of either of two views that are apart, in any order: the calls of the second one alone
come to an end as well, in a twin world. -/
theorem Twins.run (h : Twins n b w u) (hreachable : w.Reachable) (hapart : w.Apart a b)
    {cs : List Command} (hcs : ∀ c ∈ cs, c.asks a = true ∨ c.asks b = true)
    (hrun : w.run cs = some w') :
    ∃ u', u.run (cs.filter (·.asks b)) = some u' ∧ Twins n b w' u' := by
  induction cs generalizing w u with
  | nil =>
    cases hrun
    exact ⟨u, rfl, h⟩
  | cons c rest ih =>
    rw [World.run, List.foldlM_cons] at hrun
    obtain ⟨w₁, hw₁, hrest⟩ := Option.bind_eq_some_iff.1 hrun
    obtain ⟨⟨r, w₁⟩, hperform, rfl⟩ := Option.map_eq_some_iff.1 hw₁
    have hreachable₁ : w₁.Reachable := hreachable.perform hperform
    have hcs' : ∀ c ∈ rest, c.asks a = true ∨ c.asks b = true :=
      fun c hc => hcs c (List.mem_cons_of_mem _ hc)
    cases hb : c.asks b with
    | true =>
      have hidle (view : View) (hview : w.views[b]? = some view) : view.busy = false :=
        (hreachable.idle hview).1
      obtain ⟨u₁, hu₁, h₁⟩ := h.perform hapart.second hidle hb hperform
      have hapart₁ : w₁.Apart a b := (hapart.symm.perform hb hperform).1.symm
      obtain ⟨u', hu', h'⟩ := ih h₁ hreachable₁ hapart₁ hcs' hrest
      refine ⟨u', ?_, h'⟩
      rw [List.filter_cons_of_pos hb, run_cons hu₁, hu']
    | false =>
      have ha : c.asks a = true := (hcs c List.mem_cons_self).resolve_right (by simp [hb])
      obtain ⟨hapart₁, hspares⟩ := hapart.perform ha hperform
      obtain ⟨u', hu', h'⟩ := ih (h.spared hspares) hreachable₁ hapart₁ hcs' hrest
      refine ⟨u', ?_, h'⟩
      rw [List.filter_cons_of_neg (by simp [hb])]
      exact hu'

/-- Views do not disturb each other. However the calls of two views are interleaved, leaving out
those of the first one makes no difference for the second one. -/
theorem Reachable.undisturbed (h : w.Reachable) (hlinked : w.Linked) (hapart : w.Apart a b)
    {cs : List Command} (hcs : ∀ c ∈ cs, c.asks a = true ∨ c.asks b = true)
    (hrun : w.run cs = some w') :
    ∃ u, w.run (cs.filter (·.asks b)) = some u ∧ SameFor w.snapshots.length b u w' := by
  obtain ⟨view, hview, -⟩ := hapart.second.view
  have htwins := h.sound.twins hlinked hview (h.idle hview).2
  obtain ⟨u, hu, h'⟩ := htwins.run h hapart hcs hrun
  exact ⟨u, hu, h'.sameFor⟩

/-- Two snapshots of a group, neither of which is scheduled. -/
def unscheduled : World :=
  let s : Snapshot := { id := 0, name := "s", nodes := .ofList [(1, .empty)], group := some 0 }
  { snapshots := [s, s], pool := [0, 1], groups := [⟨"g", [0, 1]⟩], chains := [[], []] }

theorem initial_unscheduled : Initial unscheduled where
  sound := ⟨by decide, by decide, by simp [unscheduled]⟩
  views := rfl
  trace := rfl

/-- Two views on the first snapshot of `unscheduled`. A listener of the first view selects a node in
it, and one of the second view hides a node in it and looks at the first one. -/
def sideBySide : World :=
  (unscheduled.run [.openView 0 0 1 (some .byComponent) false (.bool false),
    .openView 0 0 1 (some .byComponent) false (.bool false),
    .listen (.view 0 .graphChanged) 1 [.selectNodes 0 [1]],
    .listen (.view 1 .graphChanged) 1 [.hideNodes 1 [1], .forward 0]]).getD {}

theorem apart_sideBySide : sideBySide.Apart 0 1 where
  ne := by decide
  first := ⟨⟨_, rfl, rfl⟩, by decide +kernel⟩
  second := ⟨⟨_, rfl, rfl⟩, by decide +kernel⟩
  listeners := by decide +kernel

theorem linked_sideBySide : sideBySide.Linked := by
  have hlinked : unscheduled.Linked := by
    intro s hs first second horigin
    have hcaptured : ∀ s ∈ unscheduled.snapshots, s.origin = .captured := by decide
    rw [hcaptured s hs] at horigin
    cases horigin
  exact hlinked.run (by decide +kernel)

/-- Both views compare the two snapshots, or the second one alone does. -/
theorem sideBySide_compared : sideBySide.budget = 5 ∧
    ((Command.execute (respondWithin 5) (.setWindow 0 0 1)).runIn sideBySide).any (fun p =>
      p.2.budget = 3 ∧
      ((Command.execute (respondWithin 3) (.setWindow 1 0 1)).runIn p.2).any fun q =>
        q.2.views.map (·.graph?) = [some 2, some 3] ∧
        q.2.views.map (·.hiddenNodes.toList) = [[], [1]]) = true ∧
    ((Command.execute (respondWithin 5) (.setWindow 1 0 1)).runIn sideBySide).any (fun p =>
      p.2.views.map (·.graph?) = [some 0, some 2]) = true := by
  unfold Command.execute Command.change View.mutate View.runChange
  simp only [View.drain_eq_drainFirst _ _ 3]
  decide +kernel

/-- The differences that the second view shows have different handles, and the listener of the
second view is called either way. -/
theorem undisturbed_sideBySide : ∃ w' u,
    sideBySide.run [.setWindow 0 0 1, .setWindow 1 0 1] = some w' ∧
    sideBySide.run [.setWindow 1 0 1] = some u ∧ SameFor 2 1 u w' ∧
    w'.views.map (·.graph?) = [some 2, some 3] ∧ u.views.map (·.graph?) = [some 0, some 2] ∧
    w'.views.map (·.hiddenNodes.toList) = [[], [1]] := by
  obtain ⟨hbudget, hboth, halone⟩ := sideBySide_compared
  obtain ⟨⟨r₁, w₁⟩, h₁, hseen₁⟩ := Option.any_eq_true _ _ |>.1 hboth
  obtain ⟨hbudget₁, hseen₂⟩ := of_decide_eq_true hseen₁
  obtain ⟨⟨r₂, w₂⟩, h₂, hseen⟩ := Option.any_eq_true _ _ |>.1 hseen₂
  obtain ⟨hgraphs, hhidden⟩ := of_decide_eq_true hseen
  obtain ⟨⟨r, u⟩, hu, hgraphs'⟩ := Option.any_eq_true _ _ |>.1 halone
  have hperform {w w' : World} {d : Nat} {c : Command} {r : Except Failure Reply}
      (hw : w.budget = d) (hc : c.weight = 0)
      (h : (c.execute (respondWithin d)).runIn w = some (r, w')) :
      w.perform c = some (r, w') := by
    rw [World.perform, performWithin_eq, hw, hc]
    exact h
  have hrun : sideBySide.run [.setWindow 0 0 1, .setWindow 1 0 1] = some w₂ :=
    (run_cons (hperform hbudget rfl h₁) _).trans (run_cons (hperform hbudget₁ rfl h₂) [])
  have hrun' : sideBySide.run [.setWindow 1 0 1] = some u :=
    run_cons (hperform hbudget rfl hu) []
  obtain ⟨u', hu', hsame⟩ := Reachable.undisturbed
    (initial_unscheduled.reachable (by decide +kernel) : sideBySide.Reachable) linked_sideBySide
    apart_sideBySide (by decide) hrun
  cases hrun'.symm.trans hu'
  have hlength : sideBySide.snapshots.length = 2 := by decide +kernel
  exact ⟨w₂, u, hrun, hrun', hlength ▸ hsame, hgraphs, of_decide_eq_true hgraphs', hhidden⟩

end World

end SnapshotViewer
