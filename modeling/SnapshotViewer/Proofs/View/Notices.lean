import SnapshotViewer.Proofs.Run.Frame

/-!
# What the announcements of a view tell

A view is announced with what can be read off it at that moment. `mirror` reads from the trace what
an observer holds of a view who reads again, at each notice, what the notice is about. `Told` says
how the announcements of a view follow each other: which of them come with another graph or another
diagram, and what then comes next.
-/

namespace SnapshotViewer

namespace Reading

/-- The reading with what a notice is about read again. -/
def reread (m : Reading) (n : Notice) (r : Reading) : Reading :=
  match n with
  | .graphChanged => { m with graph := r.graph }
  | .diagramChanged =>
    { m with diagram := r.diagram, toggles := r.toggles, hideDuplicates := r.hideDuplicates }
  | .windowChanged =>
    { m with
      graphs := r.graphs
      window := r.window
      positions := r.positions
      colors := r.colors
      first := r.first
      second := r.second }
  | .selectedNodesChanged => { m with selectedNodes := r.selectedNodes }
  | .hiddenNodesChanged => { m with hiddenNodes := r.hiddenNodes }

/-- Two readings agree on what a notice is about. -/
def Agrees (n : Notice) (m r : Reading) : Prop := m.reread n r = m

/-- What is shown: the graph, its diagram apart from the mode, and the two snapshots that the window
resolves to. -/
def shown (r : Reading) :
    Option SnapshotRef × Option Diagram × Except Failure SnapshotRef × Except Failure SnapshotRef :=
  (r.graph, r.diagram.map fun d => { d with controlFlow := false }, r.first, r.second)

theorem Agrees.refl (n : Notice) (r : Reading) : Agrees n r r := by
  cases n <;> rfl

theorem Agrees.trans {n : Notice} {m r r' : Reading} (h : Agrees n m r) (h' : Agrees n r r') :
    Agrees n m r' := by
  cases m; cases r; cases r'
  cases n <;> simp_all [Agrees, Reading.reread]

/-- What is read again agrees, on what it is read again for. -/
theorem agrees_reread (n : Notice) (m r : Reading) : Agrees n (m.reread n r) r := by
  cases n <;> rfl

/-- Reading something again keeps what agrees. -/
theorem Agrees.reread {n : Notice} {m r : Reading} (h : Agrees n m r) (n' : Notice) :
    Agrees n (m.reread n' r) r := by
  cases m; cases r
  cases n <;> cases n' <;> simp_all [Agrees, Reading.reread]

/-- Readings that agree on everything are the same. -/
theorem eq_of_agrees {m r : Reading} (h : ∀ n, Agrees n m r) : m = r := by
  have hgraph := h .graphChanged
  have hdiagram := h .diagramChanged
  have hwindow := h .windowChanged
  have hselected := h .selectedNodesChanged
  have hhidden := h .hiddenNodesChanged
  cases m; cases r
  simp_all [Agrees, Reading.reread]

end Reading

/-! ## What happens meanwhile -/

/-- The event tells of a view: that it was opened or closed, or what it has announced. -/
def Event.Tells (v : ViewRef) : Event → Prop
  | .opened u _ | .closed u | .announced u _ _ => u = v
  | _ => False

/-- The event leaves it at `r` what can be read off a view. -/
def Event.Confirms (v : ViewRef) (r : Reading) : Event → Prop
  | .opened u _ => u ≠ v
  | .announced u n r' => u = v → n = .windowChanged ∧ r' = r
  | _ => True

/-- How often a view has announced something. -/
def announcements (v : ViewRef) (es : List Event) : Nat :=
  es.countP fun
    | .announced u _ _ => u == v
    | _ => false

/-- How often a view was closed. -/
def closings (v : ViewRef) (es : List Event) : Nat :=
  es.countP fun
    | .closed u => u == v
    | _ => false

/-- What happens while a notice of a view is delivered and `r` can be read off the view: the view
announces nothing but that it is closed, and reads the same then. -/
structure Interlude (v : ViewRef) (r : Reading) (es : List Event) : Prop where
  confirms : ∀ e ∈ es, e.Confirms v r
  announced : announcements v es = closings v es

variable {v : ViewRef} {r r' : Reading} {es es' : List Event}

theorem Event.confirms_of_not_tells {e : Event} (h : ¬ e.Tells v) : e.Confirms v r := by
  cases e with
  | opened u _ => exact h
  | announced u _ _ => exact fun hu => absurd hu h
  | _ => trivial

/-- What confirms a reading does not tell of the view, or tells that it was closed, and is announced
so. -/
theorem Event.Confirms.cases {e : Event} (h : e.Confirms v r) :
    ¬ e.Tells v ∨ e = .closed v ∨ e = .announced v .windowChanged r := by
  by_cases htells : e.Tells v
  · cases e with
    | opened u _ => exact absurd htells h
    | closed u =>
      cases htells
      exact .inr (.inl rfl)
    | announced u n r' =>
      cases htells
      obtain ⟨rfl, rfl⟩ := h rfl
      exact .inr (.inr rfl)
    | _ => exact htells.elim
  · exact .inl htells

theorem Event.IsNote.not_tells {e : Event} (h : e.IsNote) : ¬ e.Tells v := by
  cases e <;> simp_all [Event.IsNote, Event.Tells]

theorem interlude_of_quiet (h : ∀ e ∈ es, ¬ e.Tells v) : Interlude v r es where
  confirms e he := Event.confirms_of_not_tells (h e he)
  announced := by
    have hannounced : announcements v es = 0 := List.countP_eq_zero.2 fun e he => by
      have := h e he
      cases e <;> simp_all [Event.Tells]
    have hclosed : closings v es = 0 := List.countP_eq_zero.2 fun e he => by
      have := h e he
      cases e <;> simp_all [Event.Tells]
    rw [hannounced, hclosed]

theorem Interlude.append (h : Interlude v r es) (h' : Interlude v r es') :
    Interlude v r (es ++ es') where
  confirms e he := (List.mem_append.1 he).elim (h.confirms e) (h'.confirms e)
  announced := by
    have hes := h.announced
    have hes' := h'.announced
    unfold announcements closings at *
    rw [List.countP_append, List.countP_append, hes, hes']

theorem interlude_of_closed : Interlude v r [.closed v, .announced v .windowChanged r] where
  confirms e he := by
    rcases List.mem_cons.1 he with rfl | he
    · trivial
    · cases List.mem_singleton.1 he
      exact fun _ => ⟨rfl, rfl⟩
  announced := by simp [announcements, closings]

/-! ## Comparisons -/

/-- The pairs that were compared. -/
def comparisons (es : List Event) : List (SnapshotRef × SnapshotRef) :=
  es.filterMap fun
    | .compared first second _ => some (first, second)
    | _ => none

theorem comparisons_append (es es' : List Event) :
    comparisons (es ++ es') = comparisons es ++ comparisons es' := List.filterMap_append

theorem comparisons_of_none (h : ∀ e ∈ es, ¬ e.Compares) : comparisons es = [] := by
  refine List.filterMap_eq_nil_iff.2 fun e he => ?_
  have := h e he
  cases e <;> simp_all [Event.Compares]

/-- The comparisons that a graph for two snapshots takes. -/
def comparisonsFor (first second : SnapshotRef) : List (SnapshotRef × SnapshotRef) :=
  if first = second then [] else [(first, second)]

/-! ## Mirrors -/

/-- What is held of a view after an event. -/
def reflect (v : ViewRef) (m : Option Reading) : Event → Option Reading
  | .opened u r => if u = v then some r else m
  | .announced u n r => if u = v then m.map (·.reread n r) else m
  | _ => m

/-- What an observer holds of a view who has read everything when it was opened, and at each notice
since then what the notice is about. -/
def mirror (v : ViewRef) (es : List Event) : Option Reading := es.foldl (reflect v) none

/-- The mirror of a view agrees with a reading, except on what the notices in `due` are about. -/
def Mirrored (v : ViewRef) (due : List Notice) (es : List Event) (r : Reading) : Prop :=
  ∃ m, mirror v es = some m ∧ ∀ n, n ∉ due → Reading.Agrees n m r

variable {due due' : List Notice}

theorem mirror_concat (v : ViewRef) (es : List Event) (e : Event) :
    mirror v (es ++ [e]) = reflect v (mirror v es) e := by
  simp [mirror]

theorem reflect_of_quiet {e : Event} (h : ¬ e.Tells v) (m : Option Reading) :
    reflect v m e = m := by
  cases e <;> simp_all [reflect, Event.Tells]

theorem mirrored_opened (es : List Event) (r : Reading) :
    Mirrored v [] (es ++ [.opened v r]) r := by
  refine ⟨r, ?_, fun n _ => .refl n r⟩
  rw [mirror_concat, reflect, if_pos rfl]

theorem Mirrored.eq (h : Mirrored v [] es r) : mirror v es = some r := by
  obtain ⟨m, hm, hagrees⟩ := h
  rw [hm, Reading.eq_of_agrees fun n => hagrees n List.not_mem_nil]

/-- What can be read off the view has changed where notices are due. -/
theorem Mirrored.turn (h : Mirrored v due es r)
    (hagrees : ∀ n, n ∉ due' → n ∉ due ∧ Reading.Agrees n r r') : Mirrored v due' es r' := by
  obtain ⟨m, hm, hdue⟩ := h
  refine ⟨m, hm, fun n hn => ?_⟩
  obtain ⟨hn', hr⟩ := hagrees n hn
  exact (hdue n hn').trans hr

/-- A notice that was due is announced. -/
theorem Mirrored.announced {n : Notice} (h : Mirrored v (n :: due) es r) :
    Mirrored v due (es ++ [.announced v n r]) r := by
  obtain ⟨m, hm, hdue⟩ := h
  refine ⟨m.reread n r, ?_, fun n' hn' => ?_⟩
  · rw [mirror_concat, hm, reflect, if_pos rfl, Option.map_some]
  · by_cases hn : n' = n
    · exact hn ▸ Reading.agrees_reread n' m r
    · exact (hdue n' fun hmem => (List.mem_cons.1 hmem).elim hn hn').reread n

/-- What is confirmed is held still. -/
theorem Mirrored.confirmed (h : Mirrored v due es r) (hes' : ∀ e ∈ es', e.Confirms v r) :
    Mirrored v due (es ++ es') r := by
  induction es' generalizing es with
  | nil => rwa [List.append_nil]
  | cons e rest ih =>
    rw [List.append_cons]
    refine ih ?_ fun e' he' => hes' e' (List.mem_cons_of_mem e he')
    rcases (hes' e List.mem_cons_self).cases with hquiet | rfl | rfl
    · obtain ⟨m, hm, hdue⟩ := h
      exact ⟨m, by rw [mirror_concat, reflect_of_quiet hquiet, hm], hdue⟩
    · obtain ⟨m, hm, hdue⟩ := h
      exact ⟨m, by simpa [mirror_concat, reflect] using hm, hdue⟩
    · exact Mirrored.announced (h.turn fun n hn =>
        ⟨fun hmem => hn (List.mem_cons_of_mem _ hmem), .refl n r⟩)

/-! ## How announcements follow each other -/

/-- Since a view was opened, its announcements have followed each other as they should, and `r` was
read last. Every announcement but that of another graph shows the same as before, except that the
diagram is a new one when a change of a filter chain is followed. Another graph is announced when
the window resolves to two other snapshots; its diagram and its window are announced next. -/
inductive Told (v : ViewRef) : List Event → Reading → Prop where
  | opened (es : List Event) (r : Reading) : Told v (es ++ [.opened v r]) r
  | quiet {es : List Event} {r : Reading} {e : Event} (h : Told v es r) (he : ¬ e.Tells v) :
      Told v (es ++ [e]) r
  | closed {es : List Event} {r : Reading} (h : Told v es r) : Told v (es ++ [.closed v]) r
  | kept {es : List Event} {r r' : Reading} {n : Notice} (h : Told v es r)
      (hn : n ≠ .graphChanged) (hshown : r'.shown = r.shown) :
      Told v (es ++ [.announced v n r']) r'
  | redrawn {es notes : List Event} {r r' : Reading} (h : Told v es r)
      (hnotes : ∀ e ∈ notes, e.IsNote) (hgraph : r'.graph = r.graph) (hfirst : r'.first = r.first)
      (hsecond : r'.second = r.second) :
      Told v (es ++ [.begun v .filterChainChanged] ++ notes ++ [.announced v .diagramChanged r']) r'
  | replaced {es es₁ es₂ : List Event} {r r' : Reading} (h : Told v es r)
      (hends : ¬ (r'.first = r.first ∧ r'.second = r.second)) (hgraph : r'.graph ≠ r.graph)
      (hdrawn : r'.diagram.map (·.graph) = r'.graph)
      (h₁ : Interlude v r' es₁) (h₂ : Interlude v r' es₂) :
      Told v (es ++ [.announced v .graphChanged r'] ++ es₁ ++ [.announced v .diagramChanged r'] ++
        es₂ ++ [.announced v .windowChanged r']) r'

/-- What confirms a reading of what was told shows nothing else. -/
theorem Told.confirmed (h : Told v es r) (hshown : r'.shown = r.shown)
    (hes' : ∀ e ∈ es', e.Confirms v r') :
    ∃ r₁, Told v (es ++ es') r₁ ∧ r₁.shown = r.shown := by
  induction es' generalizing es r with
  | nil => exact ⟨r, by rwa [List.append_nil], rfl⟩
  | cons e rest ih =>
    rw [List.append_cons]
    have hrest : ∀ e' ∈ rest, e'.Confirms v r' := fun e' he' => hes' e' (List.mem_cons_of_mem e he')
    rcases (hes' e List.mem_cons_self).cases with hquiet | rfl | rfl
    · exact ih (h.quiet hquiet) hshown hrest
    · exact ih h.closed hshown hrest
    · have hkept : Told v (es ++ [.announced v .windowChanged r']) r' := h.kept (by simp) hshown
      obtain ⟨r₁, htold, hr₁⟩ := ih hkept rfl hrest
      exact ⟨r₁, htold, hr₁.trans hshown⟩

theorem Told.unheard (h : Told v es r) (hes' : ∀ e ∈ es', ¬ e.Tells v) : Told v (es ++ es') r := by
  induction es' generalizing es with
  | nil => rwa [List.append_nil]
  | cons e rest ih =>
    rw [List.append_cons]
    exact ih (h.quiet (hes' e List.mem_cons_self))
      fun e' he' => hes' e' (List.mem_cons_of_mem e he')

end SnapshotViewer
