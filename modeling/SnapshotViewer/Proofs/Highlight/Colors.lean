import Mathlib.Data.Finset.Lattice.Fold
import SnapshotViewer.Highlight

/-!
# The colours along a sequence

A node shades every position of a sequence by what becomes of it there: `shade` reads this off the
position and the one before it. The colour of a position is the greatest of the shades that the
selected nodes give it (`getElem?_layered`), so that neither the order nor the number of times in
which nodes are visited matters. Main statement: `colors_eq_shades`.
-/

namespace SnapshotViewer.Highlight

variable {ids ids' ns : List Int} {n : Int} {visible : List Snapshot} {s : Snapshot} {i : Nat}
  {c : Highlight}

/-! ## The order of colours -/

theorem rank_injective : Function.Injective rank := by
  intro c d h
  cases c <;> cases d <;> simp_all [rank]

instance : LinearOrder Highlight := LinearOrder.lift' rank rank_injective

instance : OrderBot Highlight where
  bot := .none
  bot_le c := Nat.zero_le c.rank

theorem raiseTo_eq_sup (c d : Highlight) : c.raiseTo d = c ⊔ d := by
  unfold raiseTo
  split
  · rename_i hlt
    have hle : c ≤ d := Nat.le_of_lt hlt
    exact (sup_eq_right.2 hle).symm
  · rename_i hge
    have hle : d ≤ c := Nat.not_lt.1 hge
    exact (sup_eq_left.2 hle).symm

/-! ## The shades of a node -/

/-- The node with an id at a position. -/
def nodeAt? (visible : List Snapshot) (n : Int) (i : Nat) : Option Node :=
  visible[i]?.bind fun s => s.node? n

/-- The shade of a position from a node: none where the node is absent, green where it is and was
not at the position before, and else white or orange, as its properties are the same there or
not. -/
def shade (visible : List Snapshot) (i : Nat) (n : Int) : Highlight :=
  match if i = 0 then Option.none else nodeAt? visible n (i - 1), nodeAt? visible n i with
  | _, Option.none => .none
  | Option.none, some _ => .green
  | some before, some now =>
    if before.properties.sameEntries now.properties then .white else .orange

/-- The nodes that ids stand for: their distinct absolute values. -/
def referents (ids : List Int) : Finset Int := (ids.map fun x => (x.natAbs : Int)).toFinset

theorem getElem?_trail (visible : List Snapshot) (n : Int) (before : Option Node) (i : Nat) :
    (trail n before visible)[i]? = visible[i]?.map fun s =>
      ofStep (if i = 0 then before else nodeAt? visible n (i - 1)) (s.node? n) := by
  induction visible generalizing before i with
  | nil => rfl
  | cons t rest ih =>
    cases i with
    | zero => rfl
    | succ i =>
      rw [trail, List.getElem?_cons_succ, List.getElem?_cons_succ, ih]
      cases i with
      | zero => rfl
      | succ i => rfl

theorem shade_eq_bot : shade visible i n = ⊥ ↔ nodeAt? visible n i = Option.none := by
  change shade visible i n = .none ↔ _
  unfold shade
  split
  · rename_i hnow
    exact iff_of_true rfl hnow
  · rename_i hnow
    simp [hnow]
  · rename_i hnow
    split <;> simp [hnow]

theorem ofStep_eq_shade (hs : visible[i]? = some s) (n : Int) :
    ofStep (if i = 0 then Option.none else nodeAt? visible n (i - 1)) (s.node? n) =
      shade visible i n := by
  have hid (j : Nat) (m : Node) (hm : nodeAt? visible n j = some m) : m.id = n := by
    obtain ⟨t, -, ht⟩ := Option.bind_eq_some_iff.1 hm
    obtain ⟨ps, -, rfl⟩ := Option.map_eq_some_iff.1 ht
    rfl
  have hnow : nodeAt? visible n i = s.node? n := by rw [nodeAt?, hs, Option.bind_some]
  unfold shade
  rw [hnow]
  cases hafter : s.node? n with
  | none => rfl
  | some now =>
    cases hbefore : (if i = 0 then Option.none else nodeAt? visible n (i - 1)) with
    | none => rfl
    | some before =>
      have hsame : before.id = now.id := by
        split at hbefore
        · cases hbefore
        · rw [hid _ before hbefore, hid i now (hnow.trans hafter)]
      simp only [ofStep, Node.same, hsame, beq_self_eq_true, Bool.true_and]

/-- One node gives every position its shade. -/
theorem trail_eq_shade (hi : i < visible.length) (n : Int) :
    (trail n Option.none visible)[i]? = some (shade visible i n) := by
  rw [getElem?_trail, List.getElem?_eq_getElem hi, Option.map_some,
    ofStep_eq_shade (List.getElem?_eq_getElem hi)]

/-! ## Colours -/

/-- The colours of a sequence when nodes are visited one after the other. -/
def layered (ns : List Int) (visible : List Snapshot) : List Highlight :=
  ns.foldl (fun colors n => colors.zipWith raiseTo (trail n Option.none visible))
    (visible.map fun _ => .none)

theorem colors_eq_layered (ids : List Int) (visible : List Snapshot) :
    colors ids visible = layered (normalize ids).toList visible := rfl

theorem layered_concat (ns : List Int) (n : Int) (visible : List Snapshot) :
    layered (ns ++ [n]) visible =
      (layered ns visible).zipWith raiseTo (trail n Option.none visible) :=
  List.foldl_concat ..

theorem length_trail (n : Int) (before : Option Node) (visible : List Snapshot) :
    (trail n before visible).length = visible.length := by
  induction visible generalizing before with
  | nil => rfl
  | cons t rest ih => exact congrArg (· + 1) (ih _)

theorem length_layered (ns : List Int) (visible : List Snapshot) :
    (layered ns visible).length = visible.length := by
  induction ns using List.reverseRecOn with
  | nil => exact List.length_map ..
  | append_singleton ns n ih =>
    rw [layered_concat, List.length_zipWith, ih, length_trail, Nat.min_self]

/-- The colour of a position is the greatest of its shades. -/
theorem getElem?_layered (ns : List Int) (hi : i < visible.length) :
    (layered ns visible)[i]? = some (ns.toFinset.sup (shade visible i)) := by
  induction ns using List.reverseRecOn with
  | nil =>
    change (visible.map fun _ => Highlight.none)[i]? = some .none
    rw [List.getElem?_map, List.getElem?_eq_getElem hi, Option.map_some]
  | append_singleton ns n ih =>
    rw [layered_concat, List.getElem?_zipWith, ih, trail_eq_shade hi]
    simp [raiseTo_eq_sup, sup_comm]

theorem layered_eq (ns : List Int) (visible : List Snapshot) :
    layered ns visible =
      (List.range visible.length).map fun i => ns.toFinset.sup (shade visible i) := by
  refine List.ext_getElem? fun i => ?_
  by_cases hi : i < visible.length
  · rw [getElem?_layered ns hi, List.getElem?_map, List.getElem?_range hi, Option.map_some]
  · rw [List.getElem?_eq_none (by rw [length_layered]; omega),
      List.getElem?_eq_none (by simpa using hi)]

theorem mem_normalize : n ∈ normalize ids ↔ ∃ x ∈ ids, (x.natAbs : Int) = n := by
  rw [normalize, NodeSet.mem_ofList, List.mem_map]

theorem toFinset_normalize (ids : List Int) : (normalize ids).toList.toFinset = referents ids := by
  ext n
  rw [referents, List.mem_toFinset, List.mem_toFinset, List.mem_map]
  exact mem_normalize

theorem referents_append (ids ids' : List Int) :
    referents (ids ++ ids') = referents ids ∪ referents ids' := by
  unfold referents
  rw [List.map_append, List.toFinset_append]

theorem colors_eq (ids : List Int) (visible : List Snapshot) : colors ids visible =
    (List.range visible.length).map fun i => (referents ids).sup (shade visible i) := by
  rw [colors_eq_layered, layered_eq, toFinset_normalize]

/-- Later snapshots shade no earlier positions. -/
theorem shade_append (more : List Snapshot) (hi : i < visible.length) (n : Int) :
    shade (visible ++ more) i n = shade visible i n := by
  have hnode (j : Nat) (hj : j < visible.length) :
      nodeAt? (visible ++ more) n j = nodeAt? visible n j := by
    rw [nodeAt?, List.getElem?_append_left hj, nodeAt?]
  unfold shade
  rw [hnode i hi, hnode (i - 1) (by omega)]

/-- Every position has one colour, the greatest of the shades that the distinct absolute values of
the ids give it. The colours are the same for the same absolute values, and in whatever order and
however often these are visited; those of two selections together are the greater ones of each; and
later snapshots change no earlier colours. -/
theorem colors_eq_shades (ids : List Int) (visible : List Snapshot) :
    colors ids visible =
      (List.range visible.length).map (fun i => (referents ids).sup (shade visible i)) ∧
    (∀ ns : List Int, ns.toFinset = referents ids → layered ns visible = colors ids visible) ∧
    (∀ ids', referents ids' = referents ids → colors ids' visible = colors ids visible) ∧
    (∀ ids', colors (ids ++ ids') visible =
      (colors ids visible).zipWith raiseTo (colors ids' visible)) ∧
    ∀ more, (colors ids (visible ++ more)).take visible.length = colors ids visible := by
  refine ⟨colors_eq ids visible, fun ns hns => ?_, fun ids' hids => ?_, fun ids' => ?_,
    fun more => ?_⟩
  · rw [layered_eq, hns, colors_eq]
  · rw [colors_eq, hids, colors_eq]
  · refine List.ext_getElem? fun i => ?_
    simp only [colors_eq, referents_append, Finset.sup_union, List.getElem?_zipWith,
      List.getElem?_map, raiseTo_eq_sup]
    cases (List.range visible.length)[i]? <;> rfl
  · rw [colors_eq, colors_eq, ← List.map_take, List.take_range, List.length_append,
      Nat.min_eq_left (Nat.le_add_right _ _)]
    refine List.map_congr_left fun i hi => Finset.sup_congr rfl fun n _ => ?_
    exact shade_append more (List.mem_range.1 hi) n

/-- Two nodes in four snapshots: the first stays for one more and comes back at the end, the second
comes and is changed then. -/
def comingAndGoing : List Snapshot :=
  let one : OrderedMap Int Properties := .ofList [(1, .empty)]
  [{ id := 0, name := "a", nodes := one },
    { id := 1, name := "b", nodes := one.insert 2 (.ofList [("p", "x")]) },
    { id := 2, name := "c", nodes := .ofList [(2, .ofList [("p", "y")])] },
    { id := 3, name := "d", nodes := one }]

/-- One of the nodes is selected twice, and by a negative id. -/
theorem colors_eq_shades_comingAndGoing :
    colors [-1, 2, 1] comingAndGoing = [.green, .green, .orange, .green] ∧
      layered [2, 1] comingAndGoing = [.green, .green, .orange, .green] := by
  have hcolors : colors [-1, 2, 1] comingAndGoing = [.green, .green, .orange, .green] := by decide
  have hsame : ([2, 1] : List Int).toFinset = referents [-1, 2, 1] := by decide
  exact ⟨hcolors, ((colors_eq_shades [-1, 2, 1] comingAndGoing).2.1 [2, 1] hsame).trans hcolors⟩

end SnapshotViewer.Highlight
