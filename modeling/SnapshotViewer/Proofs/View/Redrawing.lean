import SnapshotViewer.Proofs.Run.FramedRuns

/-!
# Selecting and drawing

A view is coherent if its window resolves to the two snapshots of its selection and its diagram is
one of the graph of the selection. The lemmas say of every operation of a view what it does to this
when it succeeds: it redraws the graph or leaves selection and diagram as they are (`Redrawn`), and
the operations that select leave the window resolved. Main statements: `turns_perform` and
`turns_perform_of_selects`.
-/

namespace SnapshotViewer

namespace World

variable {es : List Event} {w w' : World}

/-! ## Ends of windows stay what they are -/

theorem SnapshotsKept.unwrap (h : SnapshotsKept es w w') {isFirst : Bool} {r x : SnapshotRef}
    (hr : w.unwrap isFirst r = .ok x) : w'.unwrap isFirst r = .ok x := by
  unfold World.unwrap at hr ⊢
  cases hs : w.snapshots[r]? with
  | none => rw [hs] at hr; cases hr
  | some s =>
    rw [hs] at hr
    obtain ⟨s', hs', hkept⟩ := h.kept r s hs
    rw [hs']
    dsimp only at hr ⊢
    rw [hkept.origin]
    cases horigin : s.origin with
    | captured =>
      rw [horigin] at hr
      exact hr
    | difference first second =>
      rw [horigin] at hr
      dsimp only at hr ⊢
      unfold World.capturedEnd at hr ⊢
      cases hinner : (if isFirst = true then first else second) with
      | none => rw [hinner] at hr; cases hr
      | some inner =>
        rw [hinner] at hr
        dsimp only at hr ⊢
        cases ht : w.snapshots[inner]? with
        | none => rw [ht] at hr; cases hr
        | some t =>
          rw [ht] at hr
          obtain ⟨t', ht', hkept'⟩ := h.kept inner t ht
          rw [ht']
          dsimp only at hr ⊢
          have hsame : t'.isDifference = t.isDifference := by
            unfold Snapshot.isDifference
            rw [hkept'.origin]
          rw [hsame]
          split at hr
          · cases hr
          · rename_i hcaptured
            rw [if_neg hcaptured]
            exact hr

theorem SnapshotsKept.firstOf (h : SnapshotsKept es w w') {window : Window}
    {graphs : List SnapshotRef} {x : SnapshotRef} (hx : w.firstOf window graphs = .ok x) :
    w'.firstOf window graphs = .ok x := by
  unfold World.firstOf at hx ⊢
  cases hentry : window.lowEntry? graphs with
  | none => rw [hentry] at hx; cases hx
  | some r =>
    rw [hentry] at hx
    exact h.unwrap hx

theorem SnapshotsKept.secondOf (h : SnapshotsKept es w w') {window : Window}
    {graphs : List SnapshotRef} {x : SnapshotRef} (hx : w.secondOf window graphs = .ok x) :
    w'.secondOf window graphs = .ok x := by
  unfold World.secondOf at hx ⊢
  split at hx
  · rename_i hlt
    rw [if_pos hlt]
    cases hentry : Window.entryAt graphs window.high with
    | none => rw [hentry] at hx; cases hx
    | some r =>
      rw [hentry] at hx
      exact h.unwrap hx
  · rename_i hlt
    rw [if_neg hlt]
    exact h.firstOf hx

end World

namespace View

/-! ## Coherence -/

/-- The window of a view resolves to the two snapshots of its selection. -/
def Resolved (w : World) (view : View) : Prop :=
  ∃ s, view.selection = some s ∧ w.firstGraph view = .ok s.first ∧
    w.secondGraph view = .ok s.second

/-- The diagram of a view is one of the graph of its selection. -/
def Drawn (view : View) : Prop :=
  ∃ s d, view.selection = some s ∧ view.diagram = some d ∧ d.graph = s.graph

instance (view : View) : Decidable (Drawn view) :=
  match hs : view.selection, hd : view.diagram with
  | some s, some d => decidable_of_iff (d.graph = s.graph)
      ⟨fun h => ⟨s, d, hs, hd, h⟩, fun ⟨_, _, hs', hd', h⟩ => by
        cases hs.symm.trans hs'
        cases hd.symm.trans hd'
        exact h⟩
  | none, _ => isFalse fun ⟨_, _, hs', _⟩ => nomatch hs.symm.trans hs'
  | some _, none => isFalse fun ⟨_, _, _, hd', _⟩ => nomatch hd.symm.trans hd'

/-- What the window shows is what the diagram shows. -/
def Coherent (w : World) (view : View) : Prop := Resolved w view ∧ Drawn view

/-- The graph has been drawn, or neither the selection nor the diagram was replaced. -/
def Redrawn (before after : View) : Prop :=
  Drawn after ∨ after.selection = before.selection ∧ after.diagram = before.diagram

variable {es : List Event} {w w' : World} {view view' view'' : View}

theorem Resolved.mono (h : Resolved w view) (hkept : World.SnapshotsKept es w w')
    (hgraphs : view'.graphs = view.graphs) (hwindow : view'.window = view.window)
    (hselection : view'.selection = view.selection) : Resolved w' view' := by
  obtain ⟨s, hs, hfirst, hsecond⟩ := h
  refine ⟨s, hselection.trans hs, ?_, ?_⟩
  · unfold World.firstGraph at hfirst ⊢
    rw [hgraphs, hwindow]
    exact hkept.firstOf hfirst
  · unfold World.secondGraph at hsecond ⊢
    rw [hgraphs, hwindow]
    exact hkept.secondOf hsecond

theorem knows_iff {s : Selection} (hs : view.selection = some s) (first second : SnapshotRef) :
    view.knows first second = true ↔ s.first = first ∧ s.second = second := by
  rw [knows, hs, Bool.and_eq_true, beq_iff_eq, beq_iff_eq]

theorem selection_of_knows {first second : SnapshotRef} (h : view.knows first second = true) :
    ∃ s, view.selection = some s ∧ s.first = first ∧ s.second = second := by
  cases hs : view.selection with
  | none => simp [knows, hs] at h
  | some s => exact ⟨s, rfl, (knows_iff hs first second).1 h⟩

/-- A window is resolved if and only if the view knows the ends that it resolves to. -/
theorem resolved_iff_knows {first second : SnapshotRef} (hfirst : w.firstGraph view = .ok first)
    (hsecond : w.secondGraph view = .ok second) :
    Resolved w view ↔ view.knows first second = true := by
  constructor
  · rintro ⟨s, hs, hfirst', hsecond'⟩
    rw [knows_iff hs]
    exact ⟨Except.ok.inj (hfirst'.symm.trans hfirst), Except.ok.inj (hsecond'.symm.trans hsecond)⟩
  · intro hknows
    obtain ⟨s, hs, rfl, rfl⟩ := selection_of_knows hknows
    exact ⟨s, hs, hfirst, hsecond⟩

/-- A window over no visible snapshots resolves to nothing. -/
theorem Resolved.graphs_ne_nil (h : Resolved w view) : view.graphs ≠ [] := by
  obtain ⟨s, -, hfirst, -⟩ := h
  intro hnil
  unfold World.firstGraph World.firstOf Window.lowEntry? at hfirst
  rw [hnil] at hfirst
  split at hfirst
  · cases hfirst
  · rename_i r hr
    split at hr
    · rename_i hlow
      unfold Window.entryAt at hr
      simp only [List.length_nil, Int.natCast_zero] at hlow hr
      rw [if_neg (by omega), if_neg (by omega)] at hr
      cases hr
    · cases hr

theorem Drawn.of_same (h : Drawn view) (hselection : view'.selection = view.selection)
    (hdiagram : view'.diagram = view.diagram) : Drawn view' := by
  obtain ⟨s, d, hs, hd, hgraph⟩ := h
  exact ⟨s, d, hselection.trans hs, hdiagram.trans hd, hgraph⟩

theorem Redrawn.refl (view : View) : Redrawn view view := .inr ⟨rfl, rfl⟩

theorem Redrawn.drawn (h : Redrawn view view') (hdrawn : Drawn view) : Drawn view' :=
  h.elim id fun hsame => hdrawn.of_same hsame.1 hsame.2

theorem Redrawn.trans (h : Redrawn view view') (h' : Redrawn view' view'') :
    Redrawn view view'' := by
  rcases h' with hdrawn | ⟨hselection, hdiagram⟩
  · exact .inl hdrawn
  · rcases h with hdrawn | hsame
    · exact .inl (hdrawn.of_same hselection hdiagram)
    · exact .inr ⟨hselection.trans hsame.1, hdiagram.trans hsame.2⟩

/-- The diagram is right at the end if and only if it was at first or anything was replaced. -/
theorem Redrawn.drawn_iff (h : Redrawn view view') :
    Drawn view' ↔
      Drawn view ∨ view'.selection ≠ view.selection ∨ view'.diagram ≠ view.diagram := by
  constructor
  · intro hdrawn
    by_cases hsame : view'.selection = view.selection ∧ view'.diagram = view.diagram
    · exact .inl (hdrawn.of_same hsame.1.symm hsame.2.symm)
    · exact .inr (Classical.not_and_iff_not_or_not.1 hsame)
  · rintro (hdrawn | hne)
    · exact h.drawn hdrawn
    · exact h.resolve_right fun hsame => hne.elim (absurd hsame.1) (absurd hsame.2)

/-! ## Operations that succeed -/

/-- What an operation of a busy view does when it succeeds, as a relation between the states of the
view. -/
abbrev Effect := World → View → World → View → Prop

/-- The graph was redrawn if anything of it was replaced. -/
def Redraws : Effect := fun _ view _ view' => Redrawn view view'

/-- Besides, the window is resolved at the end if it was at first. -/
def Refreshes : Effect := fun w view w' view' =>
  Redrawn view view' ∧ (Resolved w view → Resolved w' view')

/-- Besides, the window is resolved at the end. -/
def Resolves : Effect := fun _ view w' view' => Redrawn view view' ∧ Resolved w' view'

/-- An operation has an effect on a busy view whenever it succeeds. -/
def Turns (v : ViewRef) (P : Effect) {α : Type} (act : Act α) : Prop :=
  ∀ w view, w.views[v]? = some view → view.busy = true →
    act.Ends w (fun _ w' => ∃ view', w'.views[v]? = some view' ∧ view'.busy = true ∧
      P w view w' view') fun _ _ => True

variable {a : Announce} {v : ViewRef} {α β : Type} {P Q S : Effect}

theorem Turns.bind {act : Act α} {next : α → Act β} (h : Turns v P act)
    (hnext : ∀ x, Turns v Q (next x))
    (hS : ∀ {w w' w'' view view' view''}, P w view w' view' → Q w' view' w'' view'' →
      S w view w'' view'') : Turns v S (act >>= next) := by
  intro w view hview hbusy
  refine (h w view hview hbusy).bind fun x w' hx => ?_
  obtain ⟨view', hview', hbusy', hP⟩ := hx
  refine (hnext x w' view' hview' hbusy').mono (fun y w'' hy => ?_) fun _ _ h => h
  obtain ⟨view'', hview'', hbusy'', hQ⟩ := hy
  exact ⟨view'', hview'', hbusy'', hS hP hQ⟩

theorem Turns.mono {act : Act α} (h : Turns v P act)
    (hQ : ∀ {w w' view view'}, P w view w' view' → Q w view w' view') : Turns v Q act := by
  intro w view hview hbusy
  refine (h w view hview hbusy).mono (fun x w' hx => ?_) fun _ _ h => h
  obtain ⟨view', hview', hbusy', hP⟩ := hx
  exact ⟨view', hview', hbusy', hQ hP⟩

theorem Refreshes.refl (w : World) (view : View) : Refreshes w view w view := ⟨.refl view, id⟩

theorem Turns.refreshes {act : Act α} {next : α → Act β} (h : Turns v Refreshes act)
    (hnext : ∀ x, Turns v Refreshes (next x)) : Turns v Refreshes (act >>= next) :=
  h.bind (Q := Refreshes) hnext fun h h' => ⟨h.1.trans h'.1, fun hr => h'.2 (h.2 hr)⟩

theorem Turns.redraws {act : Act α} {next : α → Act β} (h : Turns v Redraws act)
    (hnext : ∀ x, Turns v Redraws (next x)) : Turns v Redraws (act >>= next) :=
  h.bind (Q := Redraws) hnext fun h h' => Redrawn.trans h h'

/-- The window is resolved, and stays so. -/
theorem Turns.resolves {act : Act α} {next : α → Act β} (h : Turns v Resolves act)
    (hnext : ∀ x, Turns v Refreshes (next x)) : Turns v Resolves (act >>= next) :=
  h.bind (Q := Refreshes) hnext fun h h' => ⟨h.1.trans h'.1, h'.2 h.2⟩

/-- The window is resolved in the end, whatever was written before. -/
theorem Turns.thenResolves {act : Act α} {next : α → Act β} (h : Turns v Redraws act)
    (hnext : ∀ x, Turns v Resolves (next x)) : Turns v Resolves (act >>= next) :=
  h.bind (Q := Resolves) hnext fun h h' => ⟨Redrawn.trans h h'.1, h'.2⟩

theorem Turns.toRedraws {act : Act α} (h : Turns v Refreshes act) : Turns v Redraws act :=
  h.mono fun h => h.1

theorem Turns.toRefreshes {act : Act α} (h : Turns v Resolves act) : Turns v Refreshes act :=
  h.mono fun h => ⟨h.1, fun _ => h.2⟩

/-- What only looks refreshes. -/
theorem turns_of_same {act : Act α} (h : act.Within Eq) : Turns v Refreshes act := by
  intro w view hview hbusy
  refine (h w).mono (fun _ w' heq => ?_) fun _ _ _ => trivial
  exact heq ▸ ⟨view, hview, hbusy, .refl w view⟩

/-- What follows a look has the effect of the whole. -/
theorem turns_after {act : Act α} {next : α → Act β} (h : act.Within Eq)
    (hnext : ∀ x, Turns v P (next x)) : Turns v P (act >>= next) := by
  intro w view hview hbusy
  refine Act.ends_bind.2 ((h w).mono (fun x w' heq => ?_) fun _ _ _ => trivial)
  exact heq ▸ hnext x w view hview hbusy

/-- What is answered does not matter. -/
theorem turns_answer {act : Act α} {answer : α → β} (h : Turns v P act) :
    Turns v P (do return answer (← act)) := by
  intro w view hview hbusy
  exact Act.ends_bind.2 ((h w view hview hbusy).mono (fun _ _ hx => Act.ends_pure.2 hx)
    fun _ _ h => h)

/-- An operation begins with a look at its view. -/
theorem turns_view {next : View → Act α} (h : ∀ w view, w.views[v]? = some view →
    view.busy = true → (next view).Ends w (fun _ w' => ∃ view', w'.views[v]? = some view' ∧
      view'.busy = true ∧ P w view w' view') fun _ _ => True) :
    Turns v P (Act.view v >>= next) := by
  intro w view hview hbusy
  rw [Act.ends_bind, Act.ends_of_ok (Act.runIn_view hview)]
  exact h w view hview hbusy

/-- What fails in any case has every effect when it succeeds. -/
theorem turns_of_fails {act : Act α} (h : ∀ w, act.Ends w (fun _ _ => False) fun _ _ => True) :
    Turns v P act :=
  fun w _ _ _ => (h w).mono (fun _ _ hf => hf.elim) fun _ _ h => h

theorem turns_modifyView {f : View → View} (hbusy : ∀ view, (f view).busy = view.busy)
    (hP : ∀ w view, P w view (w.modifyView v f) (f view)) : Turns v P (Act.modifyView v f) :=
  fun w view hview hb => Act.ends_modifyView.2
    ⟨f view, World.views_modifyView_self hview f, (hbusy view).trans hb, hP w view⟩

/-- A step that writes no view and keeps the snapshots. -/
theorem turns_of_stored {act : Act α}
    (h : act.Within fun w w' => w'.views = w.views ∧ ∃ es, World.SnapshotsKept es w w') :
    Turns v Refreshes act := by
  intro w view hview hbusy
  refine (h w).mono (fun _ w' hx => ?_) fun _ _ _ => trivial
  obtain ⟨hviews, es, hkept⟩ := hx
  exact ⟨view, hviews ▸ hview, hbusy, .refl view, fun hr => hr.mono hkept rfl rfl rfl⟩

/-- Resolving graphs and building diagrams writes no view and keeps the snapshots. -/
theorem renders_stored :
    Renders fun w w' => w'.views = w.views ∧ ∃ es, World.SnapshotsKept es w w' where
  chains := by
    refine ⟨fun w => ⟨rfl, [], .of_eq rfl⟩, fun h h' => ⟨h'.1.trans h.1, ?_⟩⟩
    obtain ⟨-, es, hkept⟩ := h
    obtain ⟨-, es', hkept'⟩ := h'
    exact ⟨es ++ es', hkept.trans hkept'⟩
  note _ _ _ := ⟨rfl, [], .of_eq rfl⟩
  assign w r _ blocks log _ _ := ⟨rfl, [], .assignBlocks w r blocks log⟩
  archive _ _ _ _ _ _ _ := ⟨rfl, [], .archive rfl rfl⟩
  count _ _ := ⟨rfl, [], .of_eq rfl⟩

/-! ## Drawing -/

theorem draw_ends (hview : w.views[v]? = some view) (graph : SnapshotRef) :
    (draw v graph).Ends w (fun _ w' => ∃ d es, w'.views[v]? = some { view with diagram := some d } ∧
      d.graph = graph ∧ World.SnapshotsKept es w w') fun _ w' => w'.views = w.views := by
  unfold draw
  rw [Act.ends_bind, Act.ends_of_ok (Act.runIn_view hview)]
  refine Act.Ends.bind ((((renders_stored.rebuild _ _ w).and (Builder.rebuild_graph _ _ w)).mono
    (fun _ _ h => h) fun _ _ h => h.1.1)) fun d w' h => ?_
  obtain ⟨⟨hviews, es, hkept⟩, hgraph⟩ := h
  exact Act.ends_modifyView.2
    ⟨d, es, World.views_modifyView_self (hviews ▸ hview) _, hgraph, hkept⟩

section

variable (ha : ∀ n w w', a v n w = some w' → World.Framed none w w')

include ha

/-- An announcement leaves a busy view as it is, apart from what waits and from closing it. -/
theorem turns_announce (n : Notice) : Turns v Refreshes (announce a v n) := by
  intro w view hview hbusy
  refine Act.ends_yield.2 fun w' hw' => ?_
  obtain ⟨es, hframe⟩ := ha n w w' hw'
  obtain ⟨view', hview', -, hleft⟩ := hframe.views v view hview
  have hrest := (hleft (by simp)).rest hbusy
  refine ⟨view', hview', (hleft (by simp)).busy.trans hbusy, .inr ⟨?_, ?_⟩, fun hr =>
    hr.mono hframe.snapshots ?_ ?_ ?_⟩
  all_goals rw [hrest]

/-- The graph for the two ends of a window is shown coherently. -/
theorem showEnds_ends {first second : SnapshotRef} (hview : w.views[v]? = some view)
    (hbusy : view.busy = true) (hfirst : w.firstGraph view = .ok first)
    (hsecond : w.secondGraph view = .ok second) :
    (showEnds a v first second).Ends w (fun _ w' => ∃ view', w'.views[v]? = some view' ∧
      view'.busy = true ∧ Coherent w' view') fun _ _ => True := by
  unfold showEnds
  rw [Act.ends_bind, Act.ends_of_ok (Act.runIn_view hview), Act.ends_bind]
  refine Act.ends_record.2 ?_
  refine Act.Ends.bind ((renders_stored.currentGraph _ _ _ _).mono (fun _ _ h => h)
    fun _ _ _ => trivial) fun graph w₁ h => ?_
  obtain ⟨hviews, es, hkept⟩ := h
  rw [Act.ends_bind, Act.ends_modifyView]
  have hview₁ := World.views_modifyView_self (hviews ▸ hview : w₁.views[v]? = some view)
    fun view => { view with selection := some ⟨first, second, graph⟩ }
  refine ((draw_ends hview₁ graph).mono (fun _ _ h => h) fun _ _ _ => trivial).bind
    fun _ w₂ h => ?_
  obtain ⟨d, es', hview₂, hgraph, hkept'⟩ := h
  -- The ends were resolved before the difference was stored, and resolve to the same still.
  have hcoherent : Coherent w₂ { view with
      selection := some ⟨first, second, graph⟩, diagram := some d } := by
    refine ⟨?_, _, d, rfl, rfl, hgraph⟩
    have hresolved : Resolved w { view with selection := some ⟨first, second, graph⟩ } :=
      ⟨_, rfl, hfirst, hsecond⟩
    have hstored : World.SnapshotsKept es w w₁ := hkept
    exact (hresolved.mono hstored rfl rfl rfl).mono hkept' rfl rfl rfl
  have hannounced := (turns_announce ha .graphChanged).refreshes
    fun _ => turns_announce ha .diagramChanged
  refine (hannounced w₂ _ hview₂ hbusy).mono (fun _ w' h => ?_) fun _ _ h => h
  obtain ⟨view', hview', hbusy', hrefreshes⟩ := h
  exact ⟨view', hview', hbusy', hrefreshes.2 hcoherent.1, hrefreshes.1.drawn hcoherent.2⟩

theorem turns_showWindow : Turns v Resolves (showWindow a v) := by
  intro w view hview hbusy
  refine ends_showWindow hview (fun _ _ => trivial) (fun _ _ _ _ => trivial)
    (fun first second hfirst hsecond hknows => ?_) fun first second hfirst hsecond _ => ?_
  · exact ⟨view, hview, hbusy, .refl view, (resolved_iff_knows hfirst hsecond).2 hknows⟩
  · refine (showEnds_ends ha hview hbusy hfirst hsecond).mono (fun _ w' h => ?_) fun _ _ h => h
    obtain ⟨view', hview', hbusy', hresolved, hdrawn⟩ := h
    exact ⟨view', hview', hbusy', .inl hdrawn, hresolved⟩

theorem turns_windowMoved : Turns v Resolves (windowMoved a v) := by
  unfold windowMoved
  refine (turns_showWindow ha).resolves fun replaced => ?_
  exact turns_answer (turns_announce ha _)

theorem turns_announceKept (replaced : Bool) :
    Turns v Refreshes (announceKept a v replaced) := by
  unfold announceKept
  split
  · exact turns_of_same (Act.within_pure Command.chains_eq _)
  · exact turns_announce ha _

/-! ## Selecting -/

omit ha in
/-- Writing the window, or the visible snapshots, replaces no graph. -/
theorem turns_write {f : View → View} (hbusy : ∀ view, (f view).busy = view.busy)
    (hselection : ∀ view, (f view).selection = view.selection)
    (hdiagram : ∀ view, (f view).diagram = view.diagram) :
    Turns v Redraws (Act.modifyView v f) :=
  turns_modifyView hbusy fun _ view => .inr ⟨hselection view, hdiagram view⟩

theorem turns_moveWindow (window : Window) : Turns v Resolves (do
    Act.modifyView v fun view => { view with window }
    windowMoved a v) :=
  Turns.thenResolves (turns_write (fun _ => rfl) (fun _ => rfl) fun _ => rfl)
    fun _ => turns_windowMoved ha

theorem turns_setWindow (low high : Int) : Turns v Resolves (setWindow a v low high) :=
  turns_after (Act.within_view Command.chains_eq v) fun _ =>
    turns_after (Act.within_ofExcept Command.chains_eq _) fun window => turns_moveWindow ha window

omit ha in
theorem foreign_fails (s : SnapshotRef) (w : World) :
    (foreign v s : Act α).Ends w (fun _ _ => False) fun _ _ => True := by
  unfold foreign
  refine Act.ends_of_next fun view w => Act.ends_of_next fun group w =>
    Act.ends_of_next fun u w => ?_
  exact Act.ends_throw.2 trivial

theorem turns_selectVisible (s : SnapshotRef) : Turns v Resolves (selectVisible a v s) := by
  refine turns_after (Act.within_view Command.chains_eq v) fun view => ?_
  split
  · exact turns_setWindow ha _ _
  · exact turns_of_fails (foreign_fails s)

omit ha in
theorem turns_refilterWith (hide : Value) : Turns v Redraws (refilterWith v hide) := by
  unfold refilterWith
  refine turns_after (Act.within_view Command.chains_eq v) fun view => ?_
  refine turns_after (Act.within_group Command.chains_eq _) fun group => ?_
  refine turns_after (Act.within_get Command.chains_eq) fun w => ?_
  exact turns_write (fun _ => rfl) (fun _ => rfl) fun _ => rfl

theorem turns_toggleDuplicates {select : SnapshotRef → Act Bool}
    (hselect : ∀ s, Turns v Resolves (select s)) (hide : Bool) :
    Turns v Refreshes (toggleDuplicates select a v hide) := by
  unfold toggleDuplicates
  refine turns_view fun w view hview hbusy => ?_
  split
  · exact Act.ends_pure.2 ⟨view, hview, hbusy, .refl w view⟩
  · split
    · rename_i hempty
      refine (turns_refilterWith _ w view hview hbusy).mono (fun _ w' h => ?_) fun _ _ h => h
      obtain ⟨view', hview', hbusy', hredrawn⟩ := h
      exact ⟨view', hview', hbusy', hredrawn, fun hr =>
        absurd (List.isEmpty_iff.1 hempty) hr.graphs_ne_nil⟩
    · have hturns : Turns v Resolves (do
          let target ← targetOf v hide
          refilterWith v (.bool hide)
          announceKept a v (← select target)) := by
        refine turns_after (within_targetOf Command.chains_eq hide) fun target => ?_
        refine (turns_refilterWith _).thenResolves fun _ => ?_
        exact (hselect target).resolves fun replaced => turns_announceKept ha replaced
      exact hturns.toRefreshes w view hview hbusy

theorem turns_showDuplicates : Turns v Refreshes (showDuplicates a v) := by
  unfold showDuplicates
  refine turns_after (Act.within_view Command.chains_eq v) fun view => ?_
  split
  · exact turns_toggleDuplicates ha (turns_selectVisible ha) false
  · exact turns_of_same (Act.within_pure Command.chains_eq _)

theorem turns_locate (s : SnapshotRef) : Turns v Refreshes (locate a v s) := by
  unfold locate
  refine turns_after (Act.within_view Command.chains_eq v) fun view => ?_
  split
  · exact turns_of_same (Act.within_pure Command.chains_eq _)
  · refine (turns_showDuplicates ha).refreshes fun _ => ?_
    refine turns_after (Act.within_view Command.chains_eq v) fun view => ?_
    split
    · exact turns_of_same (Act.within_pure Command.chains_eq _)
    · exact turns_of_fails (foreign_fails s)

theorem turns_selectGraph (s : SnapshotRef) : Turns v Resolves (selectGraph a v s) :=
  (turns_locate ha s).toRedraws.thenResolves fun _ => turns_setWindow ha _ _

theorem turns_selectDifference (s : SnapshotRef) :
    Turns v Resolves (selectDifference a v s) := by
  unfold selectDifference
  refine (turns_locate ha s).toRedraws.thenResolves fun i => ?_
  refine turns_after (Act.within_view Command.chains_eq v) fun view => ?_
  refine turns_after (Act.within_ofExcept Command.chains_eq _) fun window => ?_
  refine Turns.thenResolves (turns_write (fun _ => rfl) (fun _ => rfl) fun _ => rfl) fun _ => ?_
  exact turns_answer (turns_windowMoved ha)

theorem turns_setHideDuplicates (hide : Bool) :
    Turns v Refreshes (setHideDuplicates a v hide) := by
  refine turns_toggleDuplicates ha (fun s => ?_) hide
  cases hide with
  | false => exact turns_selectVisible ha s
  | true => exact turns_selectGraph ha s

/-! ## Nodes, toggles and following -/

omit ha in
/-- Writing what a view highlights or how it is displayed. -/
theorem turns_display {f : View → View} (hbusy : ∀ view, (f view).busy = view.busy)
    (hgraphs : ∀ view, (f view).graphs = view.graphs)
    (hwindow : ∀ view, (f view).window = view.window)
    (hselection : ∀ view, (f view).selection = view.selection)
    (hdiagram : ∀ view, (f view).diagram = view.diagram) :
    Turns v Refreshes (Act.modifyView v f) :=
  turns_modifyView hbusy fun w view => ⟨.inr ⟨hselection view, hdiagram view⟩, fun hr =>
    have hkept : World.SnapshotsKept [] w (w.modifyView v f) := .of_eq rfl
    hr.mono hkept (hgraphs view) (hwindow view) (hselection view)⟩

theorem turns_setSelectedNodes (ids : NodeSet) :
    Turns v Refreshes (setSelectedNodes a v ids) := by
  refine turns_after (Act.within_get Command.chains_eq) fun w => ?_
  refine Turns.refreshes (turns_display (fun _ => rfl) (fun _ => rfl) (fun _ => rfl)
    (fun _ => rfl) fun _ => rfl) fun _ => ?_
  exact (turns_announce ha _).refreshes fun _ => turns_announce ha _

theorem turns_setHiddenNodes (ids : NodeSet) : Turns v Refreshes (setHiddenNodes a v ids) :=
  Turns.refreshes (turns_display (fun _ => rfl) (fun _ => rfl) (fun _ => rfl) (fun _ => rfl)
    fun _ => rfl) fun _ => turns_announce ha _

theorem turns_showOnly (ids : NodeSet) : Turns v Refreshes (showOnly a v ids) := by
  refine turns_after (Act.within_view Command.chains_eq v) fun view => ?_
  refine turns_after (Act.within_group Command.chains_eq _) fun group => ?_
  exact turns_after (Act.within_get Command.chains_eq) fun w => turns_setHiddenNodes ha _

theorem turns_showFigures (ids : List Int) : Turns v Refreshes (showFigures a v ids) :=
  turns_after (Act.within_view Command.chains_eq v) fun _ => turns_setHiddenNodes ha _

theorem turns_setToggle (t : Toggle) (on : Bool) : Turns v Refreshes (setToggle a v t on) := by
  refine turns_after (Act.within_view Command.chains_eq v) fun view => ?_
  split
  · exact Turns.refreshes (turns_display (fun _ => rfl) (fun _ => rfl) (fun _ => rfl)
      (fun _ => rfl) fun _ => rfl) fun _ => turns_announce ha _
  · exact turns_of_same (Act.within_pure Command.chains_eq _)

omit ha in
theorem turns_refilterShowing : Turns v Redraws (refilterShowing v) := by
  unfold refilterShowing
  refine Turns.redraws ?_ fun _ => ?_
  · exact turns_after (Act.within_view Command.chains_eq v) fun _ => turns_refilterWith _
  · refine turns_after (Act.within_view Command.chains_eq v) fun view => ?_
    split
    · refine turns_after (Act.within_group Command.chains_eq _) fun group => ?_
      refine Turns.redraws (Turns.toRedraws (turns_of_stored ?_)) fun _ => turns_refilterWith _
      exact renders_stored.record trivial
    · exact (turns_of_same (Act.within_pure Command.chains_eq _)).toRedraws

omit ha in
theorem turns_keepOn (low high : Option SnapshotRef) : Turns v Redraws (keepOn v low high) := by
  refine turns_after (Act.within_view Command.chains_eq v) fun view => ?_
  split
  · refine turns_after (Act.within_ofExcept Command.chains_eq _) fun window => ?_
    exact turns_write (fun _ => rfl) (fun _ => rfl) fun _ => rfl
  · exact (turns_of_same (Act.within_pure Command.chains_eq _)).toRedraws

theorem turns_groupChanged : Turns v Resolves (groupChanged a v) := by
  refine turns_after (Act.within_view Command.chains_eq v) fun before => ?_
  refine turns_refilterShowing.thenResolves fun _ => ?_
  refine (turns_keepOn _ _).thenResolves fun _ => ?_
  refine (turns_windowMoved ha).resolves fun replaced => ?_
  refine (turns_announceKept ha replaced).refreshes fun _ => ?_
  exact turns_after (Act.within_view Command.chains_eq v) fun _ => turns_setSelectedNodes ha _

theorem turns_filterChainChanged : Turns v Refreshes (filterChainChanged a v) := by
  unfold filterChainChanged
  refine turns_view fun w view hview hbusy => ?_
  cases hgraph : view.graph? with
  | none => exact Act.ends_throw.2 trivial
  | some graph =>
    obtain ⟨s, hs, rfl⟩ := Option.map_eq_some_iff.1 hgraph
    refine ((draw_ends hview _).mono (fun _ _ h => h) fun _ _ _ => trivial).bind fun _ w₁ h => ?_
    obtain ⟨d, es, hview₁, hd, hkept⟩ := h
    refine (turns_announce ha .diagramChanged w₁ _ hview₁ hbusy).mono (fun _ w' h => ?_)
      fun _ _ h => h
    obtain ⟨view', hview', hbusy', hredrawn, hresolved⟩ := h
    refine ⟨view', hview', hbusy', .inl (hredrawn.drawn ⟨s, d, hs, rfl, hd⟩), fun hr => ?_⟩
    exact hresolved (hr.mono hkept rfl rfl rfl)

/-- Every change of a view that succeeds redraws what it replaces, and leaves a resolved window
resolved. -/
theorem turns_perform (m : Mutation) : Turns v Refreshes (perform a v m) := by
  have ignoring {β : Type} {act : Act β} (h : Turns v Resolves act) :
      Turns v Refreshes (do let _ ← act : Act Unit) :=
    (turns_answer h).toRefreshes
  cases m with
  | selectGraph s => exact ignoring (turns_selectGraph ha s)
  | selectDifference s => exact (turns_selectDifference ha s).toRefreshes
  | setWindow low high => exact ignoring (turns_setWindow ha low high)
  | setHideDuplicates hide => exact turns_setHideDuplicates ha hide
  | setSelectedNodes ids => exact turns_setSelectedNodes ha ids
  | setHiddenNodes ids => exact turns_setHiddenNodes ha ids
  | showOnly ids => exact turns_showOnly ha ids
  | showFigures ids => exact turns_showFigures ha ids
  | setToggle t on => exact turns_setToggle ha t on
  | groupChanged => exact (turns_groupChanged ha).toRefreshes
  | filterChainChanged => exact turns_filterChainChanged ha

end

/-- The changes that select what is shown. -/
def Selects : Mutation → Prop
  | .selectGraph _ | .selectDifference _ | .setWindow .. => True
  | _ => False

/-- A selection that succeeds leaves the window resolved, whatever was before. -/
theorem turns_perform_of_selects (ha : ∀ n w w', a v n w = some w' → World.Framed none w w')
    {m : Mutation} (hm : Selects m) : Turns v Resolves (perform a v m) := by
  cases m with
  | selectGraph s => exact turns_answer (turns_selectGraph ha s)
  | selectDifference s => exact turns_selectDifference ha s
  | setWindow low high => exact turns_answer (turns_setWindow ha low high)
  | _ => exact absurd hm id

end View

end SnapshotViewer
