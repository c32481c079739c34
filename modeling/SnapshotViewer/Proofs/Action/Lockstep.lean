import Mathlib.Data.List.Basic
import Mathlib.Data.List.Find
import SnapshotViewer.Proofs.Run.WellFormed
import SnapshotViewer.Proofs.View.ChangeParts

/-!
# Two runs in lockstep

`Act.Matches act act' w u Q E` says that whatever comes of a step in the world `w` comes of another
one in the world `u` as well: results that satisfy `Q`, or the same failure in worlds that satisfy
`E`. `View.Parallel a b v known T` lists what there is to show of a relation between two worlds so
that a change of a view is carried out in both of them in lockstep, with the related announcements
`a` and `b`. What the view shows and what is drawn of it may differ between the two worlds, and so
may the blocks of snapshots; the snapshots that a change can refer to are the `known` ones. Main
statement: `View.Parallel.perform`.
-/

namespace SnapshotViewer

namespace Act

variable {α β α' β' : Type}

/-- Whatever comes of a step in `w` comes of another one in `u`. -/
def Matches (act : Act α) (act' : Act β) (w u : World) (Q : α → β → World → World → Prop)
    (E : World → World → Prop) : Prop :=
  act.Ends w (fun x w' => ∃ y u', act'.runIn u = some (.ok y, u') ∧ Q x y w' u')
    fun e w' => ∃ u', act'.runIn u = some (.error e, u') ∧ E w' u'

variable {w u : World} {Q Q' : α → β → World → World → Prop} {E : World → World → Prop}

theorem Matches.mono {act : Act α} {act' : Act β} (h : act.Matches act' w u Q E)
    (hQ : ∀ x y w' u', Q x y w' u' → Q' x y w' u') : act.Matches act' w u Q' E :=
  Ends.mono h (fun x w' ⟨y, u', hrun, hq⟩ => ⟨y, u', hrun, hQ x y w' u' hq⟩) fun _ _ he => he

/-- Two steps of which it is known that they succeed. -/
theorem matches_of_ok {act : Act α} {act' : Act β} {x : α} {y : β} {w' u' : World}
    (h : act.runIn w = some (.ok x, w')) (h' : act'.runIn u = some (.ok y, u'))
    (hq : Q x y w' u') : act.Matches act' w u Q E :=
  (ends_of_ok h).2 ⟨y, u', h', hq⟩

/-- Two steps of which it is known that they fail. -/
theorem matches_of_error {act : Act α} {act' : Act β} {e : Failure} {w' u' : World}
    (h : act.runIn w = some (.error e, w')) (h' : act'.runIn u = some (.error e, u'))
    (he : E w' u') : act.Matches act' w u Q E :=
  (ends_of_error h).2 ⟨u', h', he⟩

theorem matches_pure {x : α} {y : β} (h : Q x y w u) :
    (pure x : Act α).Matches (pure y) w u Q E :=
  matches_of_ok rfl rfl h

theorem matches_throw {e : Failure} (h : E w u) :
    (throw e : Act α).Matches (throw e : Act β) w u Q E :=
  matches_of_error rfl rfl h

/-- Composed steps match if their first parts do, and the rests do from there. -/
theorem Matches.bind {act : Act α} {act' : Act β} {next : α → Act α'} {next' : β → Act β'}
    {Q' : α' → β' → World → World → Prop} (h : act.Matches act' w u Q E)
    (hnext : ∀ x y w' u', Q x y w' u' → (next x).Matches (next' y) w' u' Q' E) :
    (act >>= next).Matches (act' >>= next') w u Q' E := by
  refine ends_bind.2 (Ends.mono h (fun x w' ⟨y, u', hrun, hq⟩ => ?_) fun e w' ⟨u', hrun, he⟩ => ?_)
  · refine Ends.mono (hnext x y w' u' hq) (fun x' w'' ⟨y', u'', hrun', hq'⟩ => ?_)
      fun e w'' ⟨u'', hrun', he⟩ => ?_
    · exact ⟨y', u'', (runIn_bind_ok hrun).trans hrun', hq'⟩
    · exact ⟨u'', (runIn_bind_ok hrun).trans hrun', he⟩
  · exact ⟨u', runIn_bind_error hrun, he⟩

/-- Composed steps match if their first parts are known to succeed, and the rests match. -/
theorem matches_bind_ok {act : Act α} {act' : Act β} {next : α → Act α'} {next' : β → Act β'}
    {Q' : α' → β' → World → World → Prop} {x : α} {y : β} {w' u' : World}
    (h : act.runIn w = some (.ok x, w')) (h' : act'.runIn u = some (.ok y, u'))
    (hnext : (next x).Matches (next' y) w' u' Q' E) :
    (act >>= next).Matches (act' >>= next') w u Q' E :=
  (matches_of_ok (Q := fun x₁ y₁ w₁ u₁ => x₁ = x ∧ y₁ = y ∧ w₁ = w' ∧ u₁ = u') h h'
    ⟨rfl, rfl, rfl, rfl⟩).bind fun _ _ _ _ ⟨hx, hy, hw, hu⟩ => by
      subst hx hy hw hu
      exact hnext

/-- The same result is taken apart in both worlds. -/
theorem matches_ofExcept {r : Except Failure α} {next : α → Act α'} {next' : α → Act β'}
    {Q' : α' → β' → World → World → Prop} (he : E w u)
    (hnext : ∀ x, r = .ok x → (next x).Matches (next' x) w u Q' E) :
    (ofExcept r >>= next).Matches (ofExcept r >>= next') w u Q' E := by
  cases r with
  | ok x => exact matches_bind_ok rfl rfl (hnext x rfl)
  | error e => exact matches_of_error rfl rfl he

/-- Steps match with something noted behind their failures. -/
theorem Matches.onFailure {act : Act α} {act' : Act β} {E' : World → World → Prop}
    {change change' : Failure → World → World} (h : act.Matches act' w u Q E)
    (he : ∀ e w' u', E w' u' → E' (change e w') (change' e u')) :
    (act.onFailure change).Matches (act'.onFailure change') w u Q E' := by
  refine ends_onFailure.2 (Ends.mono h (fun x w' ⟨y, u', hrun, hq⟩ => ⟨y, u', ?_, hq⟩)
    fun e w' ⟨u', hrun, hwu⟩ => ⟨change' e u', ?_, he e w' u' hwu⟩)
  · rw [runIn_onFailure, hrun]
    rfl
  · rw [runIn_onFailure, hrun]
    rfl

/-- Steps match with something done behind them, however they ended. -/
theorem Matches.ensuring {act : Act α} {act' : Act β} {E' : World → World → Prop}
    {cleanUp cleanUp' : World → World} {Q' : α → β → World → World → Prop}
    (h : act.Matches act' w u Q' E)
    (hq : ∀ x y w' u', Q' x y w' u' → Q x y (cleanUp w') (cleanUp' u'))
    (he : ∀ w' u', E w' u' → E' (cleanUp w') (cleanUp' u')) :
    (act.ensuring cleanUp).Matches (act'.ensuring cleanUp') w u Q E' := by
  refine ends_ensuring.2 (Ends.mono h (fun x w' ⟨y, u', hrun, h⟩ => ?_)
    fun e w' ⟨u', hrun, hwu⟩ => ?_)
  · exact ⟨y, cleanUp' u', by rw [runIn_ensuring, hrun]; rfl, hq x y w' u' h⟩
  · exact ⟨cleanUp' u', by rw [runIn_ensuring, hrun]; rfl, he w' u' hwu⟩

/-- From related worlds, two steps come to the same and leave related worlds. -/
def Tracks (T : World → World → Prop) (act act' : Act α) : Prop :=
  ∀ w u, T w u → act.Matches act' w u (fun x y w' u' => y = x ∧ T w' u') T

variable {T : World → World → Prop}

theorem Tracks.bind {act act' : Act α} {next next' : α → Act β} (h : Tracks T act act')
    (hnext : ∀ x, Tracks T (next x) (next' x)) : Tracks T (act >>= next) (act' >>= next') := by
  intro w u hwu
  refine (h w u hwu).bind fun x y w' u' ⟨hxy, hwu'⟩ => ?_
  subst hxy
  exact hnext y w' u' hwu'

/-- What follows steps that come to the same goes on in related worlds. -/
theorem Tracks.matches {act act' : Act α} {next next' : α → Act β} (h : Tracks T act act')
    {Q : β → β → World → World → Prop} (hwu : T w u)
    (hnext : ∀ x w' u', T w' u' → (next x).Matches (next' x) w' u' Q T) :
    (act >>= next).Matches (act' >>= next') w u Q T := by
  refine (h w u hwu).bind fun x y w' u' ⟨hxy, hwu'⟩ => ?_
  subst hxy
  exact hnext y w' u' hwu'

theorem tracks_pure (x : α) : Tracks T (pure x : Act α) (pure x) :=
  fun _ _ h => matches_pure ⟨rfl, h⟩

end Act

/-! ## Worlds that hold the same apart from blocks -/

namespace World

/-- The worlds have the same groups, and of the known snapshots all but the blocks is the same. The
known ones are closed: members of groups are known, and with a difference its two snapshots. -/
structure Agrees (known : SnapshotRef → Prop) (w u : World) : Prop where
  groups : u.groups = w.groups
  members : ∀ group ∈ w.groups, ∀ r ∈ group.members, known r
  snapshots : ∀ r, known r →
    u.snapshots[r]?.map Snapshot.clearBlocks = w.snapshots[r]?.map Snapshot.clearBlocks
  ends : ∀ r, known r → ∀ s, w.snapshots[r]? = some s → ∀ first second,
    s.origin = .difference first second → ∀ x, first = some x ∨ second = some x → known x

variable {known : SnapshotRef → Prop} {w u : World} {r : SnapshotRef} {rs : List SnapshotRef}

namespace Agrees

variable (h : Agrees known w u)

include h

/-- What does not depend on blocks is the same. -/
theorem read {α : Type} (hr : known r) (f : Snapshot → α) (hf : ∀ s, f s.clearBlocks = f s) :
    u.snapshots[r]?.map f = w.snapshots[r]?.map f := by
  have heq := congrArg (Option.map f) (h.snapshots r hr)
  rwa [Option.map_map, Option.map_map, show f ∘ Snapshot.clearBlocks = f from funext hf] at heq

theorem nameOf (hr : known r) : u.nameOf r = w.nameOf r :=
  congrArg (·.getD "") (h.read hr (·.name) fun _ => rfl)

theorem isDuplicate (hr : known r) : u.isDuplicate r = w.isDuplicate r :=
  congrArg (·.getD false) (h.read hr Snapshot.isDuplicate fun _ => rfl)

theorem nodes (hrs : ∀ r ∈ rs, known r) :
    (u.contents rs).map (·.nodes) = (w.contents rs).map (·.nodes) := by
  unfold contents
  rw [List.map_filterMap, List.map_filterMap]
  exact List.filterMap_congr fun r hr => h.read (hrs r hr) (·.nodes) fun _ => rfl

theorem visible (hide : Bool) (hrs : ∀ r ∈ rs, known r) :
    Sequence.visible u.isDuplicate hide rs = Sequence.visible w.isDuplicate hide rs :=
  List.filter_congr fun r hr => by rw [h.isDuplicate (hrs r hr)]

theorem capturedEnd (name : String) {inner : Option SnapshotRef}
    (hinner : ∀ x, inner = some x → known x) :
    u.capturedEnd name inner = w.capturedEnd name inner := by
  cases inner with
  | none => rfl
  | some x =>
    have hread := h.read (hinner x rfl) Snapshot.isDifference fun _ => rfl
    unfold World.capturedEnd
    cases hu : u.snapshots[x]? <;> cases hw : w.snapshots[x]? <;> simp_all

theorem unwrap (isFirst : Bool) (hr : known r) : u.unwrap isFirst r = w.unwrap isFirst r := by
  have hread := h.read hr (fun s => (s.name, s.origin)) fun _ => rfl
  unfold World.unwrap
  cases hw : w.snapshots[r]? with
  | none =>
    rw [hw, Option.map_none, Option.map_eq_none_iff] at hread
    rw [hread]
  | some s =>
    rw [hw, Option.map_some] at hread
    obtain ⟨t, ht, heq⟩ := Option.map_eq_some_iff.1 hread
    obtain ⟨hname, horigin⟩ := Prod.mk.inj heq
    rw [ht]
    dsimp only
    rw [horigin]
    cases hs : s.origin with
    | captured => rfl
    | difference first second =>
      dsimp only
      rw [hname]
      refine h.capturedEnd _ fun x hx => h.ends r hr s hw first second hs x ?_
      cases isFirst
      · exact .inr hx
      · exact .inl hx

theorem firstOf (window : Window) (hrs : ∀ r ∈ rs, known r) :
    u.firstOf window rs = w.firstOf window rs := by
  unfold World.firstOf
  cases hentry : window.lowEntry? rs with
  | none => rfl
  | some r => exact h.unwrap true (hrs r (Window.mem_of_lowEntry? hentry))

theorem secondOf (window : Window) (hrs : ∀ r ∈ rs, known r) :
    u.secondOf window rs = w.secondOf window rs := by
  unfold World.secondOf
  rw [h.firstOf window hrs]
  cases hentry : Window.entryAt rs window.high with
  | none => rfl
  | some r =>
    dsimp only
    rw [h.unwrap false (hrs r (Window.mem_of_entryAt hentry))]

/-- A known entry stands for a known snapshot. -/
theorem unwrap_known {isFirst : Bool} {x : SnapshotRef} (hr : known r)
    (hx : w.unwrap isFirst r = .ok x) : known x := by
  unfold World.unwrap at hx
  split at hx
  · cases hx
  · rename_i s hs
    split at hx
    · cases hx
      exact hr
    · rename_i first second horigin
      have hcaptured {inner : Option SnapshotRef}
          (h : w.capturedEnd s.name inner = .ok x) : inner = some x := by
        unfold World.capturedEnd at h
        split at h
        · cases h
        · split at h
          · cases h
          · split at h
            · cases h
            · cases h
              rfl
      refine h.ends r hr s hs first second horigin x ?_
      cases isFirst
      · exact .inr (hcaptured hx)
      · exact .inl (hcaptured hx)

theorem firstOf_known {window : Window} {x : SnapshotRef} (hrs : ∀ r ∈ rs, known r)
    (hx : w.firstOf window rs = .ok x) : known x := by
  unfold World.firstOf at hx
  split at hx
  · cases hx
  · rename_i r hentry
    exact h.unwrap_known (hrs r (Window.mem_of_lowEntry? hentry)) hx

theorem secondOf_known {window : Window} {x : SnapshotRef} (hrs : ∀ r ∈ rs, known r)
    (hx : w.secondOf window rs = .ok x) : known x := by
  unfold World.secondOf at hx
  split at hx
  · split at hx
    · cases hx
    · rename_i r hentry
      exact h.unwrap_known (hrs r (Window.mem_of_entryAt hentry)) hx
  · exact h.firstOf_known hrs hx

/-- Backing up depends on the known entries only. -/
theorem resolveUnhidden (hrs : ∀ r ∈ rs, known r) (hr : known r) :
    Sequence.resolveUnhidden u.nameOf u.isDuplicate rs r =
      Sequence.resolveUnhidden w.nameOf w.isDuplicate rs r := by
  have hfind (l : List SnapshotRef) (hl : ∀ x ∈ l, known x) :
      l.find? (fun e => !u.isDuplicate e) = l.find? fun e => !w.isDuplicate e :=
    List.find?_congr fun x hx => by rw [h.isDuplicate (hl x hx)]
  unfold Sequence.resolveUnhidden Sequence.nearest
  rw [h.nameOf hr]
  cases Sequence.indexOf? rs r with
  | none => rfl
  | some i =>
    dsimp only
    rw [hfind _ fun x hx => hrs x (List.mem_of_mem_take (List.mem_reverse.1 hx)),
      hfind _ fun x hx => hrs x (List.mem_of_mem_drop hx)]

end Agrees

end World

namespace View

/-! ## Views that show the same -/

/-- Two states of a view differ at most in the graph that is selected, in what is drawn of it and in
the queue of changes. -/
inductive Alike (known : SnapshotRef → Prop) (x : View) : View → Prop where
  | intro (selection : Option Selection) (diagram : Option Diagram) (busy : Bool)
      (pending : List Mutation) (ends : selection.map (fun s => (s.first, s.second)) =
        x.selection.map fun s => (s.first, s.second)) (graphs : ∀ r ∈ x.graphs, known r) :
      Alike known x { x with selection, diagram, busy, pending }

end View

/-- The change names a snapshot to select. -/
def Mutation.names : Mutation → SnapshotRef → Prop
  | .selectGraph s, r | .selectDifference s, r => s = r
  | _, _ => False

namespace View

/-- The graph for two ends is selected and drawn. -/
def present (v : ViewRef) (counted : Bool) (first second : SnapshotRef) : Act Unit := do
  let graph ← Act.currentGraph counted first second
  Act.modifyView v fun view => { view with selection := some { first, second, graph } }
  draw v graph

theorem showEnds_eq (a : Announce) (v : ViewRef) (first second : SnapshotRef) :
    showEnds a v first second = (do
      let view ← Act.view v
      Act.debug logger
        ("window moved to [" ++ Numeral.write view.window.low ++ ", " ++
          Numeral.write view.window.high ++ "]")
      present v view.counted first second
      announce a v .graphChanged
      announce a v .diagramChanged) := by
  simp only [showEnds, present, bind_assoc]

/-- What there is to show of a relation between two worlds so that a change of a view is carried out
in both of them in lockstep. -/
structure Parallel (a b : Announce) (v : ViewRef) (known : SnapshotRef → Prop)
    (T : World → World → Prop) : Prop where
  agrees : ∀ {w u}, T w u → w.Agrees known u
  views : ∀ {w u}, T w u → Option.Rel (Alike known) w.views[v]? u.views[v]?
  write : ∀ {w u x y f f'}, T w u → w.views[v]? = some x → u.views[v]? = some y →
    SameDrawn x (f x) → SameDrawn y (f' y) → Alike known (f x) (f' y) →
    T (w.modifyView v f) (u.modifyView v f')
  logged : ∀ {w u} r, T w u → T (w.record (.logged r)) (u.record (.logged r))
  announce : ∀ n {w u w'}, T w u → a v n w = some w' → ∃ u', b v n u = some u' ∧ T w' u'
  present : ∀ {w u x first second}, T w u → w.views[v]? = some x →
    w.firstGraph x = .ok first → w.secondGraph x = .ok second →
    (present v x.counted first second).Matches (present v x.counted first second) w u
      (fun _ _ => T) T
  rechained : (filterChainChanged a v).Tracks T (filterChainChanged b v)

variable {a b : Announce} {v : ViewRef} {known : SnapshotRef → Prop} {T : World → World → Prop}
  {w u : World} {x y : View} {α β : Type}

theorem Alike.graphs (h : Alike known x y) : ∀ r ∈ x.graphs, known r := by
  obtain ⟨_, _, _, _, _, hgraphs⟩ := h
  exact hgraphs

theorem Alike.knows (h : Alike known x y) (first second : SnapshotRef) :
    y.knows first second = x.knows first second := by
  obtain ⟨selection, diagram, busy, pending, hends, -⟩ := h
  unfold View.knows
  cases hx : x.selection with
  | none =>
    rw [hx, Option.map_none, Option.map_eq_none_iff] at hends
    rw [hends]
  | some s =>
    rw [hx, Option.map_some] at hends
    obtain ⟨t, ht, heq⟩ := Option.map_eq_some_iff.1 hends
    obtain ⟨hfirst, hsecond⟩ := Prod.mk.inj heq
    rw [ht]
    dsimp only
    rw [hfirst, hsecond]

theorem Alike.firstGraph (h : Alike known x y) (hwu : w.Agrees known u) :
    u.firstGraph y = w.firstGraph x := by
  obtain ⟨_, _, _, _, -, hgraphs⟩ := h
  exact hwu.firstOf x.window hgraphs

theorem Alike.secondGraph (h : Alike known x y) (hwu : w.Agrees known u) :
    u.secondGraph y = w.secondGraph x := by
  obtain ⟨_, _, _, _, -, hgraphs⟩ := h
  exact hwu.secondOf x.window hgraphs

/-- The visible snapshots are computed alike, with all that is derived from them. -/
theorem Alike.refiltered (h : Alike known x y) (hwu : w.Agrees known u) (hide : Value)
    {members : List SnapshotRef} (hmembers : ∀ r ∈ members, known r) :
    Alike known (View.refiltered w hide members x) (View.refiltered u hide members y) := by
  obtain ⟨selection, diagram, busy, pending, hends, -⟩ := h
  have hgraphs : ∀ r ∈ Sequence.visible w.isDuplicate hide.isTrue members, known r :=
    fun r hr => hmembers r (List.mem_of_mem_filter hr)
  have heq : View.refiltered u hide members { x with selection, diagram, busy, pending } =
      { View.refiltered w hide members x with selection, diagram, busy, pending } := by
    unfold View.refiltered
    dsimp only
    rw [hwu.visible _ hmembers, Highlight.colors_congr _ (hwu.nodes hgraphs),
      List.map_congr_left fun r hr => hwu.nameOf (hgraphs r hr)]
  rw [heq]
  exact ⟨selection, diagram, busy, pending, hends, hgraphs⟩

namespace Parallel

variable (hT : Parallel a b v known T) {Q : α → β → World → World → Prop}

include hT

/-! ## Looking and writing -/

/-- The view is there in both worlds or in none. -/
theorem view_cases (hwu : T w u) : w.views[v]? = none ∧ u.views[v]? = none ∨
    ∃ x y, w.views[v]? = some x ∧ u.views[v]? = some y ∧ Alike known x y := by
  have hviews := hT.views hwu
  generalize w.views[v]? = ox at hviews
  generalize u.views[v]? = oy at hviews
  cases hviews with
  | none => exact .inl ⟨rfl, rfl⟩
  | some h => exact .inr ⟨_, _, rfl, rfl, h⟩

theorem view_bind {next : View → Act α} {next' : View → Act β} (hwu : T w u)
    (h : ∀ x y, w.views[v]? = some x → u.views[v]? = some y → Alike known x y →
      (next x).Matches (next' y) w u Q T) :
    (Act.view v >>= next).Matches (Act.view v >>= next') w u Q T := by
  obtain ⟨hw, hu⟩ | ⟨x, y, hw, hu, hxy⟩ := hT.view_cases hwu
  · exact Act.matches_of_error (Act.runIn_bind_error (Act.runIn_view_none hw))
      (Act.runIn_bind_error (Act.runIn_view_none hu)) hwu
  · exact Act.matches_bind_ok (Act.runIn_view hw) (Act.runIn_view hu) (h x y hw hu hxy)

/-- The view is looked at, apart from what may differ between the two worlds. -/
theorem look {next : View → Act α} {next' : View → Act β} (hwu : T w u)
    (h : ∀ (x : View) selection diagram busy pending,
      (next x).Matches (next' { x with selection, diagram, busy, pending }) w u Q T) :
    (Act.view v >>= next).Matches (Act.view v >>= next') w u Q T := by
  refine hT.view_bind hwu fun x y _ _ hxy => ?_
  obtain ⟨selection, diagram, busy, pending, -, -⟩ := hxy
  exact h x selection diagram busy pending

theorem group_bind {g : GroupRef} {next : Group → Act α} {next' : Group → Act β} (hwu : T w u)
    (h : ∀ group, (∀ r ∈ group.members, known r) → (next group).Matches (next' group) w u Q T) :
    (Act.group g >>= next).Matches (Act.group g >>= next') w u Q T := by
  have hgroups := (hT.agrees hwu).groups
  cases hw : w.groups[g]? with
  | none =>
    exact Act.matches_of_error (Act.runIn_bind_error (Act.runIn_group_none hw))
      (Act.runIn_bind_error (Act.runIn_group_none (hgroups ▸ hw))) hwu
  | some group =>
    have hmembers := (hT.agrees hwu).members group (List.mem_of_getElem? hw)
    exact Act.matches_bind_ok (Act.runIn_group hw) (Act.runIn_group (hgroups ▸ hw))
      (h group hmembers)

theorem tracks_announce (n : Notice) : (View.announce a v n).Tracks T (View.announce b v n) := by
  intro w u hwu
  refine Act.ends_yield.2 fun w' hw' => ?_
  obtain ⟨u', hu', hwu'⟩ := hT.announce n hwu hw'
  refine ⟨(), u', ?_, rfl, hwu'⟩
  rw [View.announce, Act.runIn_yield, hu']
  rfl

theorem tracks_debug (logger text : String) :
    (Act.debug logger text).Tracks T (Act.debug logger text) :=
  fun _ _ hwu => Act.matches_of_ok (Act.runIn_debug ..) (Act.runIn_debug ..)
    ⟨rfl, hT.logged _ hwu⟩

/-- Fields of the view are written alike in both worlds. -/
theorem matches_modifyView {f f' : View → View} (hwu : T w u)
    (hdrawn : ∀ view, SameDrawn view (f view) ∧ SameDrawn view (f' view))
    (halike : ∀ x y, Alike known x y → Alike known (f x) (f' y)) :
    (Act.modifyView v f).Matches (Act.modifyView v f') w u (fun x y w' u' => y = x ∧ T w' u')
      T := by
  have hsame {w : World} (hw : w.views[v]? = none) (f : View → View) : w.modifyView v f = w := by
    have hviews : w.views.modify v f = w.views := by
      rw [List.modify_eq_self]
      exact List.getElem?_eq_none_iff.1 hw
    rw [World.modifyView, hviews]
  refine Act.matches_of_ok (Act.runIn_modifyView ..) (Act.runIn_modifyView ..) ⟨rfl, ?_⟩
  obtain ⟨hw, hu⟩ | ⟨x, y, hw, hu, hxy⟩ := hT.view_cases hwu
  · rwa [hsame hw, hsame hu]
  · exact hT.write hwu hw hu (hdrawn x).1 (hdrawn y).2 (halike x y hxy)

/-- Fields of the view are written in the same way in both worlds. -/
theorem tracks_modifyView {f : View → View} (hdrawn : ∀ view, SameDrawn view (f view))
    (halike : ∀ x y, Alike known x y → Alike known (f x) (f y)) :
    (Act.modifyView v f).Tracks T (Act.modifyView v f) :=
  fun _ _ hwu => hT.matches_modifyView hwu (fun view => ⟨hdrawn view, hdrawn view⟩) halike

theorem tracks_refilterWith (hide : Value) :
    (refilterWith v hide).Tracks T (refilterWith v hide) := by
  intro w u hwu
  unfold refilterWith
  refine hT.look hwu fun x _ _ _ _ => ?_
  refine hT.group_bind hwu fun group hmembers => ?_
  refine Act.matches_bind_ok (Act.runIn_get w) (Act.runIn_get u) ?_
  refine hT.matches_modifyView hwu (fun view => ?_) fun x y hxy => ?_
  · exact ⟨⟨⟨rfl, rfl, rfl, rfl, rfl, rfl⟩, rfl, rfl⟩, ⟨rfl, rfl, rfl, rfl, rfl, rfl⟩, rfl, rfl⟩
  · exact hxy.refiltered (hT.agrees hwu) hide hmembers

theorem tracks_refilter : (refilter v).Tracks T (refilter v) := by
  intro w u hwu
  refine hT.look hwu fun x _ _ _ _ => ?_
  exact hT.tracks_refilterWith _ w u hwu

/-! ## Moving the window -/

theorem tracks_windowMoved : (windowMoved a v).Tracks T (windowMoved b v) := by
  refine Act.Tracks.bind (fun w u hwu => ?_) fun replaced =>
    (hT.tracks_announce _).bind fun _ => Act.tracks_pure _
  unfold showWindow
  refine hT.view_bind hwu fun x y hx hy hxy => ?_
  refine Act.matches_bind_ok (Act.runIn_get w) (Act.runIn_get u) ?_
  rw [hxy.firstGraph (hT.agrees hwu), hxy.secondGraph (hT.agrees hwu)]
  refine Act.matches_ofExcept hwu fun first hfirst => ?_
  refine Act.matches_ofExcept hwu fun second hsecond => ?_
  rw [hxy.knows]
  split
  · exact Act.matches_pure ⟨rfl, hwu⟩
  rw [showEnds_eq, showEnds_eq]
  refine Act.Matches.bind (Q := fun _ _ => T) (hT.view_bind hwu fun x' y' hx' hy' hxy' => ?_)
    fun _ _ _ _ hwu' => Act.matches_pure ⟨rfl, hwu'⟩
  cases hx.symm.trans hx'
  obtain ⟨_, _, _, _, -, -⟩ := hxy'
  refine Act.matches_bind_ok (Act.runIn_debug ..) (Act.runIn_debug ..) ?_
  refine (hT.present (hT.logged _ hwu) hx hfirst hsecond).bind fun _ _ w₁ u₁ hwu₁ => ?_
  refine (hT.tracks_announce .graphChanged).matches hwu₁ fun _ w₂ u₂ hwu₂ => ?_
  exact (hT.tracks_announce .diagramChanged w₂ u₂ hwu₂).mono fun _ _ _ _ h => h.2

theorem tracks_announceKept (replaced : Bool) :
    (announceKept a v replaced).Tracks T (announceKept b v replaced) := by
  cases replaced with
  | true => exact Act.tracks_pure ()
  | false => exact hT.tracks_announce .diagramChanged

theorem tracks_moveTo (window : Window) :
    (Act.modifyView v fun view => { view with window }).Tracks T
      (Act.modifyView v fun view => { view with window }) := by
  refine hT.tracks_modifyView (fun view => ?_) fun x y hxy => ?_
  · exact ⟨⟨rfl, rfl, rfl, rfl, rfl, rfl⟩, rfl, rfl⟩
  · obtain ⟨selection, diagram, busy, pending, hends, hgraphs⟩ := hxy
    exact ⟨selection, diagram, busy, pending, hends, hgraphs⟩

theorem tracks_setWindow (low high : Int) :
    (setWindow a v low high).Tracks T (setWindow b v low high) := by
  intro w u hwu
  unfold setWindow
  refine hT.look hwu fun x _ _ _ _ => ?_
  refine Act.matches_ofExcept hwu fun window _ => ?_
  exact (hT.tracks_moveTo window).bind (fun _ => hT.tracks_windowMoved) w u hwu

/-! ## Selecting -/

theorem tracks_foreign {s : SnapshotRef} (hs : known s) :
    (foreign v s : Act α).Tracks T (foreign v s) := by
  intro w u hwu
  unfold foreign
  refine hT.look hwu fun x _ _ _ _ => ?_
  refine hT.group_bind hwu fun group _ => ?_
  refine Act.matches_bind_ok (Act.runIn_get w) (Act.runIn_get u) ?_
  rw [(hT.agrees hwu).nameOf hs]
  exact Act.matches_throw hwu

theorem tracks_selectVisible {s : SnapshotRef} (hs : known s) :
    (selectVisible a v s).Tracks T (selectVisible b v s) := by
  intro w u hwu
  unfold selectVisible
  refine hT.look hwu fun x _ _ _ _ => ?_
  dsimp only
  cases Sequence.indexOf? x.graphs s with
  | some i => exact hT.tracks_setWindow i i w u hwu
  | none => exact hT.tracks_foreign hs w u hwu

theorem matches_anchorOf (hwu : T w u) : (anchorOf v).Matches (anchorOf v) w u
    (fun x y w' u' => y = x ∧ known x ∧ T w' u') T := by
  unfold anchorOf
  refine hT.view_bind hwu fun x y _ _ hxy => ?_
  have hfirst := hxy.firstGraph (hT.agrees hwu)
  obtain ⟨_, _, _, _, -, hgraphs⟩ := hxy
  refine hT.group_bind hwu fun group hmembers => ?_
  refine Act.matches_bind_ok (Act.runIn_get w) (Act.runIn_get u) ?_
  rw [hfirst]
  refine Act.matches_ofExcept hwu fun first _ => ?_
  split
  · rename_i hmember
    exact Act.matches_pure ⟨rfl, hmembers first (List.contains_iff_mem.1 hmember), hwu⟩
  · unfold View.itemAt?
    dsimp only
    cases hitem : x.graphs[(min x.window.low (x.graphs.length - 1)).toNat]? with
    | some s => exact Act.matches_pure ⟨rfl, hgraphs s (List.mem_of_getElem? hitem), hwu⟩
    | none => exact Act.matches_throw hwu

theorem matches_targetOf (hide : Bool) (hwu : T w u) :
    (targetOf v hide).Matches (targetOf v hide) w u
      (fun x y w' u' => y = x ∧ known x ∧ T w' u') T := by
  unfold targetOf
  refine (hT.matches_anchorOf hwu).bind fun anchor anchor' w u ⟨hanchor, hknown, hwu⟩ => ?_
  subst hanchor
  refine hT.look hwu fun x _ _ _ _ => ?_
  refine hT.group_bind hwu fun group hmembers => ?_
  refine Act.matches_bind_ok (Act.runIn_get w) (Act.runIn_get u) ?_
  rw [(hT.agrees hwu).resolveUnhidden hmembers hknown]
  cases hide with
  | false => exact Act.matches_pure ⟨rfl, hknown, hwu⟩
  | true =>
    cases htarget : Sequence.resolveUnhidden w.nameOf w.isDuplicate group.members anchor' with
    | error e => exact Act.matches_throw hwu
    | ok s =>
      have hmem := Sequence.mem_visible_of_resolveUnhidden htarget
      exact Act.matches_pure ⟨rfl, hmembers s (List.mem_of_mem_filter hmem), hwu⟩

theorem tracks_toggleDuplicates {select select' : SnapshotRef → Act Bool}
    (hselect : ∀ s, known s → (select s).Tracks T (select' s)) (hide : Bool) :
    (toggleDuplicates select a v hide).Tracks T (toggleDuplicates select' b v hide) := by
  intro w u hwu
  unfold toggleDuplicates
  refine hT.look hwu fun x _ _ _ _ => ?_
  dsimp only
  split
  · exact Act.matches_pure ⟨rfl, hwu⟩
  split
  · exact hT.tracks_refilterWith _ w u hwu
  refine (hT.matches_targetOf hide hwu).bind fun s s' w u ⟨hs, hknown, hwu⟩ => ?_
  subst hs
  refine (hT.tracks_refilterWith _).matches hwu fun _ w u hwu => ?_
  exact (hselect s' hknown).bind (fun replaced => hT.tracks_announceKept replaced) w u hwu

theorem tracks_showDuplicates : (showDuplicates a v).Tracks T (showDuplicates b v) := by
  intro w u hwu
  unfold showDuplicates
  refine hT.look hwu fun x _ _ _ _ => ?_
  unfold View.hides
  dsimp only
  split
  · exact hT.tracks_toggleDuplicates (fun s hs => hT.tracks_selectVisible hs) false w u hwu
  · exact Act.matches_pure ⟨rfl, hwu⟩

theorem tracks_locate {s : SnapshotRef} (hs : known s) :
    (locate a v s).Tracks T (locate b v s) := by
  intro w u hwu
  unfold locate
  refine hT.look hwu fun x _ _ _ _ => ?_
  dsimp only
  cases Sequence.indexOf? x.graphs s with
  | some i => exact Act.matches_pure ⟨rfl, hwu⟩
  | none =>
    refine hT.tracks_showDuplicates.matches hwu fun _ w u hwu => ?_
    refine hT.look hwu fun x _ _ _ _ => ?_
    dsimp only
    cases Sequence.indexOf? x.graphs s with
    | some i => exact Act.matches_pure ⟨rfl, hwu⟩
    | none => exact hT.tracks_foreign hs w u hwu

theorem tracks_selectGraph {s : SnapshotRef} (hs : known s) :
    (selectGraph a v s).Tracks T (selectGraph b v s) :=
  (hT.tracks_locate hs).bind fun i => hT.tracks_setWindow i i

theorem tracks_selectDifference {s : SnapshotRef} (hs : known s) :
    (selectDifference a v s).Tracks T (selectDifference b v s) := by
  unfold selectDifference
  refine (hT.tracks_locate hs).bind fun i w u hwu => ?_
  refine hT.look hwu fun x _ _ _ _ => ?_
  refine Act.matches_ofExcept hwu fun window _ => ?_
  refine (hT.tracks_moveTo window).matches hwu fun _ w u hwu => ?_
  exact hT.tracks_windowMoved.bind (fun _ => Act.tracks_pure ()) w u hwu

theorem tracks_setHideDuplicates (hide : Bool) :
    (setHideDuplicates a v hide).Tracks T (setHideDuplicates b v hide) := by
  refine hT.tracks_toggleDuplicates (fun s hs => ?_) hide
  cases hide with
  | false => exact hT.tracks_selectVisible hs
  | true => exact hT.tracks_selectGraph hs

/-! ## Nodes and toggles -/

theorem tracks_setSelectedNodes (ids : NodeSet) :
    (setSelectedNodes a v ids).Tracks T (setSelectedNodes b v ids) := by
  intro w u hwu
  unfold setSelectedNodes
  refine Act.matches_bind_ok (Act.runIn_get w) (Act.runIn_get u) ?_
  refine (hT.matches_modifyView hwu (fun view => ?_) fun x y hxy => ?_).bind
    fun _ _ w u ⟨_, hwu⟩ => ?_
  · exact ⟨⟨⟨rfl, rfl, rfl, rfl, rfl, rfl⟩, rfl, rfl⟩, ⟨rfl, rfl, rfl, rfl, rfl, rfl⟩, rfl, rfl⟩
  · obtain ⟨selection, diagram, busy, pending, hends, hgraphs⟩ := hxy
    dsimp only
    rw [Highlight.colors_congr _ ((hT.agrees hwu).nodes hgraphs)]
    exact ⟨selection, diagram, busy, pending, hends, hgraphs⟩
  · exact (hT.tracks_announce _).bind (fun _ => hT.tracks_announce _) w u hwu

theorem tracks_setHiddenNodes (ids : NodeSet) :
    (setHiddenNodes a v ids).Tracks T (setHiddenNodes b v ids) := by
  refine (hT.tracks_modifyView (fun view => ?_) fun x y hxy => ?_).bind
    fun _ => hT.tracks_announce _
  · exact ⟨⟨rfl, rfl, rfl, rfl, rfl, rfl⟩, rfl, rfl⟩
  · obtain ⟨selection, diagram, busy, pending, hends, hgraphs⟩ := hxy
    exact ⟨selection, diagram, busy, pending, hends, hgraphs⟩

theorem tracks_showOnly (ids : NodeSet) : (showOnly a v ids).Tracks T (showOnly b v ids) := by
  intro w u hwu
  unfold showOnly
  refine hT.look hwu fun x _ _ _ _ => ?_
  refine hT.group_bind hwu fun group hmembers => ?_
  refine Act.matches_bind_ok (Act.runIn_get w) (Act.runIn_get u) ?_
  have hids : (u.contents group.members).flatMap Snapshot.nodeIds =
      (w.contents group.members).flatMap Snapshot.nodeIds := by
    have heq := congrArg (List.flatMap OrderedMap.keys) ((hT.agrees hwu).nodes hmembers)
    rwa [List.flatMap_map, List.flatMap_map] at heq
  rw [show groupNodes u group = groupNodes w group from congrArg NodeSet.ofList hids]
  exact hT.tracks_setHiddenNodes _ w u hwu

theorem tracks_showFigures (ids : List Int) :
    (showFigures a v ids).Tracks T (showFigures b v ids) := by
  intro w u hwu
  refine hT.look hwu fun x _ _ _ _ => ?_
  exact hT.tracks_setHiddenNodes _ w u hwu

theorem tracks_setToggle (t : Toggle) (on : Bool) :
    (setToggle a v t on).Tracks T (setToggle b v t on) := by
  intro w u hwu
  unfold setToggle
  refine hT.look hwu fun x _ _ _ _ => ?_
  dsimp only
  split
  · refine (hT.tracks_modifyView (fun view => ?_) fun x y hxy => ?_).bind
      (fun _ => hT.tracks_announce _) w u hwu
    · exact ⟨⟨rfl, rfl, rfl, rfl, rfl, rfl⟩, rfl, rfl⟩
    · obtain ⟨selection, diagram, busy, pending, hends, hgraphs⟩ := hxy
      exact ⟨selection, diagram, busy, pending, hends, hgraphs⟩
  · exact Act.matches_pure ⟨rfl, hwu⟩

/-! ## Following a group -/

theorem tracks_refilterShowing : (refilterShowing v).Tracks T (refilterShowing v) := by
  intro w u hwu
  unfold refilterShowing
  refine hT.tracks_refilter.matches hwu fun _ w u hwu => ?_
  refine hT.look hwu fun x _ _ _ _ => ?_
  unfold View.hides
  dsimp only
  split
  · refine hT.group_bind hwu fun group _ => ?_
    exact (hT.tracks_debug _ _).bind (fun _ => hT.tracks_refilterWith _) w u hwu
  · exact Act.matches_pure ⟨rfl, hwu⟩

theorem tracks_keepOn (low high : Option SnapshotRef) :
    (keepOn v low high).Tracks T (keepOn v low high) := by
  intro w u hwu
  unfold keepOn
  refine hT.look hwu fun x _ _ _ _ => ?_
  dsimp only
  split
  · exact Act.matches_ofExcept hwu fun window _ => hT.tracks_moveTo window w u hwu
  · exact Act.matches_pure ⟨rfl, hwu⟩

theorem tracks_groupChanged : (groupChanged a v).Tracks T (groupChanged b v) := by
  intro w u hwu
  unfold groupChanged
  refine hT.look hwu fun x _ _ _ _ => ?_
  refine hT.tracks_refilterShowing.matches hwu fun _ w u hwu => ?_
  refine (hT.tracks_keepOn _ _).matches hwu fun _ w u hwu => ?_
  refine hT.tracks_windowMoved.matches hwu fun replaced w u hwu => ?_
  refine (hT.tracks_announceKept replaced).matches hwu fun _ w u hwu => ?_
  refine hT.look hwu fun x _ _ _ _ => ?_
  exact hT.tracks_setSelectedNodes _ w u hwu

/-- A change of known snapshots is carried out in lockstep. -/
theorem perform {m : Mutation} (hm : ∀ s, m.names s → known s) :
    (perform a v m).Tracks T (perform b v m) := by
  cases m with
  | selectGraph s => exact (hT.tracks_selectGraph (hm s rfl)).bind fun _ => Act.tracks_pure ()
  | selectDifference s => exact hT.tracks_selectDifference (hm s rfl)
  | setWindow low high => exact (hT.tracks_setWindow low high).bind fun _ => Act.tracks_pure ()
  | setHideDuplicates hide => exact hT.tracks_setHideDuplicates hide
  | setSelectedNodes ids => exact hT.tracks_setSelectedNodes ids
  | setHiddenNodes ids => exact hT.tracks_setHiddenNodes ids
  | showOnly ids => exact hT.tracks_showOnly ids
  | showFigures ids => exact hT.tracks_showFigures ids
  | setToggle t on => exact hT.tracks_setToggle t on
  | groupChanged => exact hT.tracks_groupChanged
  | filterChainChanged => exact hT.rechained

/-- A change of known snapshots is carried out in lockstep, with what is noted before and behind
it. -/
theorem carryOut {m : Mutation} (hm : ∀ s, m.names s → known s) {E : World → World → Prop}
    (hbegun : ∀ w u, T w u → T (w.record (.begun v m)) (u.record (.begun v m)))
    (hmissing : ∀ w u, T w u → E w u)
    (hfailed : ∀ e partway partway' w u, T w u →
      E (w.record (.failed v m e partway)) (u.record (.failed v m e partway'))) (hwu : T w u) :
    (View.carryOut a v m).Matches (View.carryOut b v m) w u (fun _ _ => T) E := by
  unfold View.carryOut
  obtain ⟨hw, hu⟩ | ⟨x, y, hw, hu, -⟩ := hT.view_cases hwu
  · exact Act.matches_of_error (Act.runIn_bind_error (Act.runIn_view_none hw))
      (Act.runIn_bind_error (Act.runIn_view_none hu)) (hmissing w u hwu)
  refine Act.matches_bind_ok (Act.runIn_view hw) (Act.runIn_view hu) ?_
  refine Act.matches_bind_ok (Act.runIn_record _ w) (Act.runIn_record _ u) ?_
  refine ((hT.perform hm _ _ (hbegun w u hwu)).mono fun _ _ _ _ h => h.2).onFailure ?_
  exact fun e w' u' h => hfailed e _ _ w' u' h

end Parallel

/-- The queue is run through in lockstep if its parts are. The changes that wait satisfy `P`. -/
theorem drain_matches {P : Mutation → Prop} {E : World → World → Prop}
    (htake : ∀ w u, T w u → (takeWaiting v).Matches (takeWaiting v) w u
      (fun next next' w' u' => next' = next ∧ (∀ m, next = some m → P m) ∧ T w' u') E)
    (hcarry : ∀ m, P m → ∀ w u, T w u →
      (carryOut a v m).Matches (carryOut b v m) w u (fun _ _ => T) E) (hwu : T w u) :
    (drain a v).Matches (drain b v) w u (fun _ _ => T) E := by
  -- Wherever the first run is, the rest of the second one is what is left from a related world.
  let I : World → Prop := fun w' => ∃ u', T w' u' ∧ (drain b v).runIn u = (drain b v).runIn u'
  let J : Mutation → World → Prop := fun m w' => ∃ u', P m ∧ T w' u' ∧
    (drain b v).runIn u = (carryOut b v m >>= fun _ => drain b v).runIn u'
  let Q : World → Prop := fun w' => ∃ u', (drain b v).runIn u = some (.ok (), u') ∧ T w' u'
  have hends : (drain a v).Ends w (fun _ w' => Q w')
      fun e w' => ∃ u', (drain b v).runIn u = some (.error e, u') ∧ E w' u' := by
    refine drain_ends (I := I) (J := J) (Q := Q) (fun w₁ h₁ => ?_) (fun m w₁ h₁ => ?_) ⟨u, hwu, rfl⟩
    · obtain ⟨u₁, hT, hrest⟩ := h₁
      refine Act.Ends.mono (htake w₁ u₁ hT) (fun next w₂ h₂ => ?_) fun e w₂ h₂ => ?_
      · obtain ⟨next', u₂, hrun, rfl, hP, hT'⟩ := h₂
        have hleft := hrest.trans ((congrArg (Act.runIn · u₁) (drain_eq b v)).trans
          (Act.runIn_bind_ok hrun))
        cases next' with
        | none => exact ⟨u₂, hleft, hT'⟩
        | some m => exact ⟨u₂, hP m rfl, hT', hleft⟩
      · obtain ⟨u₂, hrun, he⟩ := h₂
        exact ⟨u₂, hrest.trans ((congrArg (Act.runIn · u₁) (drain_eq b v)).trans
          (Act.runIn_bind_error hrun)), he⟩
    · obtain ⟨u₁, hP, hT, hrest⟩ := h₁
      refine Act.Ends.mono (hcarry m hP w₁ u₁ hT) (fun _ w₂ h₂ => ?_) fun e w₂ h₂ => ?_
      · obtain ⟨_, u₂, hrun, hT'⟩ := h₂
        exact ⟨u₂, hT', hrest.trans (Act.runIn_bind_ok hrun)⟩
      · obtain ⟨u₂, hrun, he⟩ := h₂
        exact ⟨u₂, hrest.trans (Act.runIn_bind_error hrun), he⟩
  exact Act.Ends.mono hends (fun _ _ ⟨u', hrun, h⟩ => ⟨(), u', hrun, h⟩) fun _ _ h => h

end View

/-! ## Building diagrams -/

namespace Builder

/-- What there is to show of a relation between two worlds so that diagrams are built in both of
them in lockstep. The serial numbers of the diagrams are related by `serials`. -/
structure Parallel (b : Builder) (serials : Nat → Nat → Prop) (T : World → World → Prop) :
    Prop where
  paint : ∀ {w u} figures, T w u →
    u.paint b.chain (some b.sequenceChain) figures = w.paint b.chain (some b.sequenceChain) figures
  note : ∀ {w u} e, e.IsNote → ¬ e.Compares → T w u → T (w.record e) (u.record e)
  counts : ∀ {w u}, T w u → serials w.diagramCount u.diagramCount
  count : ∀ {w u}, T w u → T { w with diagramCount := w.diagramCount + 1 }
    { u with diagramCount := u.diagramCount + 1 }

/-- What a diagram is built from is the same. -/
structure LooksLike (s t : Snapshot) : Prop where
  name : t.name = s.name
  nodes : t.nodes = s.nodes
  blocks : t.blocks = s.blocks
  origin : t.isDifference = s.isDifference

variable {b : Builder} {serials : Nat → Nat → Prop} {T : World → World → Prop} {w u : World}

theorem LooksLike.figures {s t : Snapshot} (h : LooksLike s t) (templates : Templates) :
    Figure.ofSnapshot templates t = Figure.ofSnapshot templates s := by
  have hnode : Figure.ofNode templates t = Figure.ofNode templates s := by
    funext n
    unfold Figure.ofNode Snapshot.blockOf?
    rw [h.blocks]
  unfold Figure.ofSnapshot Snapshot.nodeList
  rw [hnode, h.nodes]

theorem Parallel.recordAll (hT : Parallel b serials T) (es : List Event)
    (hes : ∀ e ∈ es, e.IsNote ∧ ¬ e.Compares) (hwu : T w u) :
    T (w.recordAll es) (u.recordAll es) := by
  induction es generalizing w u with
  | nil => simpa [World.recordAll] using hwu
  | cons e rest ih =>
    obtain ⟨hnote, hcompares⟩ := hes e List.mem_cons_self
    have hrest := ih (fun e he => hes e (List.mem_cons_of_mem _ he)) (hT.note e hnote hcompares hwu)
    simpa [World.recordAll, World.record] using hrest

/-- Once blocks are assigned, the same figures are built of snapshots that look alike. -/
theorem Parallel.rebuild (hT : Parallel b serials T) {r r' : SnapshotRef}
    (hensure : (b.ensureBlocks r).Matches (b.ensureBlocks r') w u (fun _ _ w' u' => T w' u' ∧
      Option.Rel LooksLike w'.snapshots[r]? u'.snapshots[r']?) T) :
    (b.rebuild r).Matches (b.rebuild r') w u (fun d d' w' u' => T w' u' ∧
      serials d.serial d'.serial ∧ d' = { d with serial := d'.serial, graph := r' } ∧
        d.graph = r) T := by
  unfold Builder.rebuild
  refine hensure.bind fun _ _ w u ⟨hwu, hlooks⟩ => ?_
  generalize hs : w.snapshots[r]? = os at hlooks
  generalize ht : u.snapshots[r']? = ot at hlooks
  cases hlooks with
  | none =>
    exact Act.matches_of_error (Act.runIn_bind_error (Act.runIn_snapshot_none hs))
      (Act.runIn_bind_error (Act.runIn_snapshot_none ht)) hwu
  | @some s t hst =>
    refine Act.matches_bind_ok (Act.runIn_snapshot hs) (Act.runIn_snapshot ht) ?_
    rw [hst.figures]
    refine Act.matches_ofExcept hwu fun figures _ => ?_
    refine Act.matches_bind_ok (Act.runIn_get w) (Act.runIn_get u) ?_
    rw [hT.paint figures hwu]
    refine Act.matches_bind_ok (Act.runIn_modify _ w) (Act.runIn_modify _ u) ?_
    have hpainted := hT.recordAll
      ((w.paint b.chain (some b.sequenceChain) figures).begun.map .filtered)
      (by simp [Event.IsNote, Event.Compares]) hwu
    split
    · exact Act.matches_throw hpainted
    · have hoverlay (fs : List Figure) : overlay t fs = overlay s fs := by
        unfold overlay
        rw [hst.origin]
      rw [hoverlay, hst.name]
      dsimp only
      refine Act.matches_bind_ok (Act.runIn_debug ..) (Act.runIn_debug ..) ?_
      have hlogged (text : String) :=
        hT.note (.logged { level := Log.debug, logger, text }) trivial id hpainted
      refine Act.matches_bind_ok (Act.runIn_get _) (Act.runIn_get _) ?_
      refine Act.matches_bind_ok (Act.runIn_modify _ _) (Act.runIn_modify _ _) ?_
      exact Act.matches_pure ⟨hT.count (hlogged _), hT.counts (hlogged _), rfl, rfl⟩

end Builder

end SnapshotViewer
