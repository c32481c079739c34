import Mathlib.Data.List.Nodup
import Mathlib.Data.List.Pairwise
import Mathlib.Data.List.Sort
import Mathlib.Logic.Relation
import SnapshotViewer.Proofs.Snapshot.RoundTrip

/-!
# Blocks by components

`Partition R ids cs` says that the lists `cs` are the classes of the ids for the relation `R`, each
in ascending order and ordered by their least members. There is only one such list of classes
(`Partition.unique`).

Merging keeps what is together together and brings no two ids together that are not connected
(`Together.merge`, `merge_within`). So the components of a graph are the classes of connected ids
(`partition_ofGraph`), and scheduling makes them the blocks of a snapshot without blocks
(`byComponent_schedules`).
-/

namespace SnapshotViewer

namespace Components

variable {ids : List Int} {cs : List (List Int)} {es : List (Int × Int)} {e : Int × Int} {x y : Int}

/-! ## Classes -/

/-- Some class holds both ids. -/
def Together (cs : List (List Int)) (x y : Int) : Prop := ∃ c ∈ cs, x ∈ c ∧ y ∈ c

/-- Some member of a class is below all members of another. -/
def Below (b c : List Int) : Prop := ∃ x ∈ b, ∀ y ∈ c, x < y

instance : Std.Irrefl Below := ⟨fun _ ⟨x, hx, hbelow⟩ => Int.lt_irrefl x (hbelow x hx)⟩

instance : Std.Antisymm Below := by
  refine ⟨fun b c hbc hcb => ?_⟩
  obtain ⟨x, hx, hxc⟩ := hbc
  obtain ⟨y, hy, hyb⟩ := hcb
  have hxy := hxc y hy
  have hyx := hyb x hx
  omega

/-- The lists are the classes of the ids, in order. -/
structure Partition (R : Int → Int → Prop) (ids : List Int) (cs : List (List Int)) : Prop where
  /-- Every id is in exactly one class, and once. -/
  covers : cs.flatten.Perm ids
  together : ∀ x ∈ ids, ∀ y ∈ ids, Together cs x y ↔ R x y
  ascending : ∀ c ∈ cs, c.Pairwise (· < ·)
  /-- The least member of a class is below all members of the classes after it. -/
  ordered : cs.Pairwise Below
  nonempty : [] ∉ cs

theorem together_self (hx : x ∈ cs.flatten) : Together cs x x := by
  obtain ⟨c, hc, hxc⟩ := List.mem_flatten.1 hx
  exact ⟨c, hc, hxc, hxc⟩

/-- Classes that share a member are the same. -/
theorem eq_of_mem {b c : List Int} (hnodup : cs.flatten.Nodup) (hb : b ∈ cs) (hc : c ∈ cs)
    (hxb : x ∈ b) (hxc : x ∈ c) : b = c := by
  have hsymm : Std.Symm (@List.Disjoint Int) := ⟨fun _ _ h _ hc hb => h hb hc⟩
  by_contra hne
  exact (List.nodup_flatten.1 hnodup).2.forall hb hc hne hxb hxc

theorem Together.trans {z : Int} (hnodup : cs.flatten.Nodup) (hxy : Together cs x y)
    (hyz : Together cs y z) : Together cs x z := by
  obtain ⟨b, hb, hxb, hyb⟩ := hxy
  obtain ⟨c, hc, hyc, hzc⟩ := hyz
  cases eq_of_mem hnodup hb hc hyb hyc
  exact ⟨b, hb, hxb, hzc⟩

/-- The class of an id. -/
theorem Partition.mem_iff {R : Int → Int → Prop} (h : Partition R ids cs) (hnodup : ids.Nodup)
    {c : List Int} (hc : c ∈ cs) (hx : x ∈ c) : y ∈ c ↔ y ∈ ids ∧ R x y := by
  have hids (z : Int) (hz : z ∈ c) : z ∈ ids :=
    h.covers.mem_iff.1 (List.mem_flatten.2 ⟨c, hc, hz⟩)
  constructor
  · intro hy
    exact ⟨hids y hy, (h.together x (hids x hx) y (hids y hy)).1 ⟨c, hc, hx, hy⟩⟩
  · rintro ⟨hy, hR⟩
    obtain ⟨b, hb, hxb, hyb⟩ := (h.together x (hids x hx) y hy).2 hR
    exact eq_of_mem (h.covers.nodup_iff.2 hnodup) hb hc hxb hx ▸ hyb

/-- The classes of one partition are classes of every other. -/
theorem Partition.subset {R : Int → Int → Prop} {ids' : List Int} {cs' : List (List Int)}
    (h : Partition R ids cs) (h' : Partition R ids' cs') (hnodup : ids.Nodup)
    (hnodup' : ids'.Nodup) (hids : ∀ x, x ∈ ids ↔ x ∈ ids') {c : List Int} (hc : c ∈ cs) :
    c ∈ cs' := by
  obtain ⟨x, hx⟩ := List.exists_mem_of_ne_nil c fun hnil => h.nonempty (hnil ▸ hc)
  have hlisted : x ∈ cs'.flatten := by
    rw [h'.covers.mem_iff, ← hids]
    exact ((h.mem_iff hnodup hc hx).1 hx).1
  obtain ⟨c', hc', hx'⟩ := List.mem_flatten.1 hlisted
  -- any one of its members tells all others of a class
  have hsame : c = c' := by
    refine (h.ascending c hc).eq_of_mem_iff (h'.ascending c' hc') fun y => ?_
    rw [h.mem_iff hnodup hc hx, h'.mem_iff hnodup' hc' hx', hids]
  exact hsame ▸ hc'

/-- A relation has one partition only, in whatever order the ids are listed. -/
theorem Partition.unique {R : Int → Int → Prop} {ids' : List Int} {cs' : List (List Int)}
    (h : Partition R ids cs) (h' : Partition R ids' cs') (hnodup : ids.Nodup)
    (hnodup' : ids'.Nodup) (hids : ∀ x, x ∈ ids ↔ x ∈ ids') : cs = cs' :=
  h.ordered.eq_of_mem_iff h'.ordered fun _ => ⟨fun hc => h.subset h' hnodup hnodup' hids hc,
    fun hc => h'.subset h hnodup' hnodup (fun x => (hids x).symm) hc⟩

/-! ## Merging -/

theorem touches_eq_true {a b : Int} {c : List Int} : touches a b c = true ↔ a ∈ c ∨ b ∈ c := by
  simp [touches]

theorem flatten_merge_perm (cs : List (List Int)) (e : Int × Int) :
    (merge cs e).flatten.Perm cs.flatten := by
  simpa [merge, List.flatten_append] using
    (List.filter_append_perm (touches e.1 e.2) cs).flatten

theorem flatten_foldl_perm (cs : List (List Int)) (es : List (Int × Int)) :
    (es.foldl merge cs).flatten.Perm cs.flatten := by
  induction es generalizing cs with
  | nil => exact .rfl
  | cons e rest ih => exact (ih (merge cs e)).trans (flatten_merge_perm cs e)

theorem Together.merge (h : Together cs x y) (e : Int × Int) : Together (merge cs e) x y := by
  obtain ⟨c, hc, hx, hy⟩ := h
  by_cases ht : touches e.1 e.2 c = true
  · have hmerged (z : Int) (hz : z ∈ c) : z ∈ (cs.filter (touches e.1 e.2)).flatten :=
      List.mem_flatten.2 ⟨c, List.mem_filter.2 ⟨hc, ht⟩, hz⟩
    exact ⟨_, List.mem_cons_self, hmerged x hx, hmerged y hy⟩
  · exact ⟨c, List.mem_cons_of_mem _ (List.mem_filter.2 ⟨hc, by simpa using ht⟩), hx, hy⟩

theorem together_merge (h₁ : e.1 ∈ cs.flatten) (h₂ : e.2 ∈ cs.flatten) :
    Together (merge cs e) e.1 e.2 := by
  obtain ⟨b, hb, hmem₁⟩ := List.mem_flatten.1 h₁
  obtain ⟨c, hc, hmem₂⟩ := List.mem_flatten.1 h₂
  refine ⟨_, List.mem_cons_self, List.mem_flatten.2 ⟨b, ?_, hmem₁⟩,
    List.mem_flatten.2 ⟨c, ?_, hmem₂⟩⟩
  · exact List.mem_filter.2 ⟨hb, touches_eq_true.2 (.inl hmem₁)⟩
  · exact List.mem_filter.2 ⟨hc, touches_eq_true.2 (.inr hmem₂)⟩

/-- Merging the classes of two related ids keeps the classes within an equivalence. -/
theorem merge_within {R : Int → Int → Prop} (hR : Equivalence R)
    (hcs : ∀ x y, Together cs x y → R x y) (he : R e.1 e.2) :
    ∀ x y, Together (merge cs e) x y → R x y := by
  have hmerged (z : Int) (hz : z ∈ (cs.filter (touches e.1 e.2)).flatten) : R z e.1 := by
    obtain ⟨c, hc, hzc⟩ := List.mem_flatten.1 hz
    rw [List.mem_filter, touches_eq_true] at hc
    obtain ⟨hc, h₁ | h₂⟩ := hc
    · exact hcs z e.1 ⟨c, hc, hzc, h₁⟩
    · exact hR.trans (hcs z e.2 ⟨c, hc, hzc, h₂⟩) (hR.symm he)
  rintro x y ⟨c, hc, hx, hy⟩
  rcases List.mem_cons.1 hc with rfl | hc
  · exact hR.trans (hmerged x hx) (hR.symm (hmerged y hy))
  · exact hcs x y ⟨c, (List.mem_filter.1 hc).1, hx, hy⟩

theorem nil_notMem_merge (h₁ : e.1 ∈ cs.flatten) (hcs : [] ∉ cs) : [] ∉ merge cs e := by
  intro hnil
  rcases List.mem_cons.1 hnil with hnil | hnil
  · obtain ⟨c, hc, hmem⟩ := List.mem_flatten.1 h₁
    have hmerged : e.1 ∈ (cs.filter (touches e.1 e.2)).flatten :=
      List.mem_flatten.2 ⟨c, List.mem_filter.2 ⟨hc, touches_eq_true.2 (.inl hmem)⟩, hmem⟩
    rw [← hnil] at hmerged
    cases hmerged
  · exact hcs (List.mem_filter.1 hnil).1

/-! ## Merging along all edges -/

/-- The ids at the ends of the edges are in the classes. -/
def Covers (cs : List (List Int)) (es : List (Int × Int)) : Prop :=
  ∀ e ∈ es, e.1 ∈ cs.flatten ∧ e.2 ∈ cs.flatten

theorem Covers.merge (h : Covers cs (e :: es)) : Covers (Components.merge cs e) es := by
  intro e' he'
  rw [(flatten_merge_perm cs e).mem_iff, (flatten_merge_perm cs e).mem_iff]
  exact h e' (List.mem_cons_of_mem _ he')

theorem Together.foldl (h : Together cs x y) (es : List (Int × Int)) :
    Together (es.foldl Components.merge cs) x y := by
  induction es generalizing cs with
  | nil => exact h
  | cons e rest ih => exact ih (h.merge e)

/-- Every edge has its ends in one class in the end. -/
theorem together_of_mem (hcovers : Covers cs es) (he : e ∈ es) :
    Together (es.foldl merge cs) e.1 e.2 := by
  induction es generalizing cs with
  | nil => cases he
  | cons e' rest ih =>
    rcases List.mem_cons.1 he with rfl | he
    · have hends := hcovers e List.mem_cons_self
      exact (together_merge hends.1 hends.2).foldl rest
    · exact ih hcovers.merge he

theorem foldl_within {R : Int → Int → Prop} (hR : Equivalence R)
    (hcs : ∀ x y, Together cs x y → R x y) (hes : ∀ e ∈ es, R e.1 e.2) :
    ∀ x y, Together (es.foldl merge cs) x y → R x y := by
  induction es generalizing cs with
  | nil => exact hcs
  | cons e rest ih =>
    rw [List.forall_mem_cons] at hes
    exact ih (merge_within hR hcs hes.1) hes.2

theorem nil_notMem_foldl (hcovers : Covers cs es) (hcs : [] ∉ cs) : [] ∉ es.foldl merge cs := by
  induction es generalizing cs with
  | nil => exact hcs
  | cons e rest ih =>
    exact ih hcovers.merge (nil_notMem_merge (hcovers e List.mem_cons_self).1 hcs)

/-! ## The classes of a graph -/

/-- An edge joins the ids, in one direction or the other. -/
def Adjacent (es : List (Int × Int)) (x y : Int) : Prop := (x, y) ∈ es ∨ (y, x) ∈ es

/-- A path of edges joins the ids, each taken in either direction. -/
def Connected (es : List (Int × Int)) : Int → Int → Prop := Relation.ReflTransGen (Adjacent es)

theorem equivalence_connected (es : List (Int × Int)) : Equivalence (Connected es) where
  refl _ := .refl
  symm {x y} h := by
    induction h with
    | refl => exact .refl
    | tail _ hstep ih => exact .head hstep.symm ih
  trans := .trans

theorem mem_vertices :
    x ∈ vertices ids es ↔ x ∈ ids ∨ ∃ e ∈ es, x = e.1 ∨ x = e.2 := by
  simp [vertices]

theorem flatten_singletons (ids : List Int) : (ids.map fun id => [id]).flatten = ids := by
  induction ids with
  | nil => rfl
  | cons id rest ih => simpa using ih

theorem covers_singletons (ids : List Int) (es : List (Int × Int)) :
    Covers ((vertices ids es).map fun id => [id]) es := by
  intro e he
  rw [flatten_singletons, mem_vertices, mem_vertices]
  exact ⟨.inr ⟨e, he, .inl rfl⟩, .inr ⟨e, he, .inr rfl⟩⟩

theorem flatten_classes_perm (ids : List Int) (es : List (Int × Int)) :
    (classes ids es).flatten.Perm (vertices ids es) := by
  have h := flatten_foldl_perm ((vertices ids es).map fun id => [id]) es
  rwa [flatten_singletons] at h

theorem nodup_flatten_classes (ids : List Int) (es : List (Int × Int)) :
    (classes ids es).flatten.Nodup :=
  (flatten_classes_perm ids es).nodup_iff.2 (OrderedMap.nodup_eraseDups _)

theorem connected_of_together (h : Together (classes ids es) x y) : Connected es x y := by
  refine foldl_within (equivalence_connected es) (fun x y hxy => ?_) (fun e he => ?_) x y h
  -- to begin with, every id is alone in its class
  · obtain ⟨c, hc, hx, hy⟩ := hxy
    obtain ⟨id, -, rfl⟩ := List.mem_map.1 hc
    cases List.mem_singleton.1 hx
    cases List.mem_singleton.1 hy
    exact .refl
  · exact .single (.inl he)

/-- A path never leaves the class that it starts in. -/
theorem together_of_connected (hx : x ∈ vertices ids es) (h : Connected es x y) :
    Together (classes ids es) x y := by
  induction h with
  | refl => exact together_self ((flatten_classes_perm ids es).mem_iff.2 hx)
  | tail _ hstep ih =>
    refine ih.trans (nodup_flatten_classes ids es) ?_
    rcases hstep with hedge | hedge
    · exact together_of_mem (covers_singletons ids es) hedge
    · obtain ⟨c, hc, h₁, h₂⟩ := together_of_mem (covers_singletons ids es) hedge
      exact ⟨c, hc, h₂, h₁⟩

/-! ## Order -/

theorem nodup_toList (s : NodeSet) : s.toList.Nodup := s.sorted.imp Int.ne_of_lt

theorem place_perm (c : List Int) (cs : List (List Int)) : (place c cs).Perm (c :: cs) := by
  induction cs with
  | nil => exact .rfl
  | cons b rest ih =>
    unfold place
    split
    · exact .rfl
    · exact (ih.cons b).trans (.swap c b rest)

/-- Placing a class keeps the classes ordered by their first members. -/
theorem pairwise_place {c : List Int} {cs : List (List Int)}
    (h : cs.Pairwise fun b c => b.headD 0 ≤ c.headD 0) :
    (place c cs).Pairwise fun b c => b.headD 0 ≤ c.headD 0 := by
  induction cs with
  | nil => simp [place]
  | cons b rest ih =>
    rw [List.pairwise_cons] at h
    unfold place
    split
    · rename_i hle
      rw [List.pairwise_cons, List.pairwise_cons]
      refine ⟨fun d hd => ?_, h⟩
      rcases List.mem_cons.1 hd with rfl | hd
      · exact hle
      · exact hle.trans (h.1 d hd)
    · rw [List.pairwise_cons]
      refine ⟨fun d hd => ?_, ih h.2⟩
      rcases List.mem_cons.1 ((place_perm c rest).mem_iff.1 hd) with rfl | hd
      · omega
      · exact h.1 d hd

/-- The components are the classes, each in ascending order. -/
theorem ofGraph_perm (ids : List Int) (es : List (Int × Int)) :
    (ofGraph ids es).Perm ((classes ids es).map fun c => (NodeSet.ofList c).toList) := by
  unfold ofGraph
  induction classes ids es with
  | nil => exact .rfl
  | cons c rest ih => exact (place_perm _ _).trans (ih.cons _)

theorem pairwise_ofGraph (ids : List Int) (es : List (Int × Int)) :
    (ofGraph ids es).Pairwise fun b c => b.headD 0 ≤ c.headD 0 := by
  unfold ofGraph
  induction classes ids es with
  | nil => exact .nil
  | cons c rest ih => exact pairwise_place ih

theorem mem_ofGraph {c : List Int} :
    c ∈ ofGraph ids es ↔ ∃ b ∈ classes ids es, (NodeSet.ofList b).toList = c := by
  rw [(ofGraph_perm ids es).mem_iff, List.mem_map]

theorem together_ofGraph : Together (ofGraph ids es) x y ↔ Together (classes ids es) x y := by
  have hmem (b : List Int) (z : Int) : z ∈ (NodeSet.ofList b).toList ↔ z ∈ b := NodeSet.mem_ofList
  constructor
  · rintro ⟨c, hc, hx, hy⟩
    obtain ⟨b, hb, rfl⟩ := mem_ofGraph.1 hc
    exact ⟨b, hb, (hmem b x).1 hx, (hmem b y).1 hy⟩
  · rintro ⟨b, hb, hx, hy⟩
    exact ⟨_, mem_ofGraph.2 ⟨b, hb, rfl⟩, (hmem b x).2 hx, (hmem b y).2 hy⟩

/-- Sorting the members of pairwise disjoint lists keeps the members. -/
theorem flatten_sorted_perm (cs : List (List Int)) (h : cs.flatten.Nodup) :
    (cs.map fun c => (NodeSet.ofList c).toList).flatten.Perm cs.flatten := by
  induction cs with
  | nil => exact .rfl
  | cons c rest ih =>
    rw [List.flatten_cons, List.nodup_append] at h
    have hc : (NodeSet.ofList c).toList.Perm c :=
      (List.perm_ext_iff_of_nodup (nodup_toList _) h.1).2 fun _ => NodeSet.mem_ofList
    exact hc.append (ih h.2.1)

theorem flatten_ofGraph_perm (ids : List Int) (es : List (Int × Int)) :
    (ofGraph ids es).flatten.Perm (vertices ids es) :=
  ((ofGraph_perm ids es).flatten.trans
    (flatten_sorted_perm _ (nodup_flatten_classes ids es))).trans (flatten_classes_perm ids es)

theorem vertices_perm (hids : ids.Nodup) (hends : ∀ e ∈ es, e.1 ∈ ids ∧ e.2 ∈ ids) :
    (vertices ids es).Perm ids := by
  refine (List.perm_ext_iff_of_nodup (OrderedMap.nodup_eraseDups _) hids).2 fun x => ?_
  change x ∈ vertices ids es ↔ x ∈ ids
  rw [mem_vertices, or_iff_left_iff_imp]
  rintro ⟨e, he, rfl | rfl⟩
  · exact (hends e he).1
  · exact (hends e he).2

theorem ascending_ofGraph {c : List Int} (hc : c ∈ ofGraph ids es) : c.Pairwise (· < ·) := by
  obtain ⟨b, -, rfl⟩ := mem_ofGraph.1 hc
  exact (NodeSet.ofList b).sorted

theorem nil_notMem_ofGraph (ids : List Int) (es : List (Int × Int)) : [] ∉ ofGraph ids es := by
  intro hnil
  obtain ⟨b, hb, hempty⟩ := mem_ofGraph.1 hnil
  have hbnil : b = [] := List.eq_nil_iff_forall_not_mem.2 fun z hz => by
    have hz' : z ∈ (NodeSet.ofList b).toList := NodeSet.mem_ofList.2 hz
    rw [hempty] at hz'
    cases hz'
  rw [hbnil] at hb
  exact nil_notMem_foldl (covers_singletons ids es) (by simp) hb

/-- Of two disjoint ascending lists, the one with the lower first member is below the other. -/
theorem below_of_headD {b c : List Int} (hb : b ≠ []) (hc : c.Pairwise (· < ·))
    (hdisjoint : b.Disjoint c) (hle : b.headD 0 ≤ c.headD 0) : Below b c := by
  obtain ⟨x, b, rfl⟩ := List.exists_cons_of_ne_nil hb
  refine ⟨x, List.mem_cons_self, fun z hz => ?_⟩
  cases c with
  | nil => cases hz
  | cons y c =>
    have hne : x ≠ y := fun h => hdisjoint List.mem_cons_self (h ▸ List.mem_cons_self)
    have hlt : x < y := by
      simp only [List.headD_cons] at hle
      omega
    rcases List.mem_cons.1 hz with rfl | hz
    · exact hlt
    · exact hlt.trans (List.rel_of_pairwise_cons hc hz)

/-- The components of a graph are its classes of connected ids. -/
theorem partition_ofGraph (hids : ids.Nodup) (hends : ∀ e ∈ es, e.1 ∈ ids ∧ e.2 ∈ ids) :
    Partition (Connected es) ids (ofGraph ids es) where
  covers := (flatten_ofGraph_perm ids es).trans (vertices_perm hids hends)
  together x hx y _ := by
    rw [together_ofGraph]
    exact ⟨connected_of_together, together_of_connected (mem_vertices.2 (.inl hx))⟩
  ascending _ := ascending_ofGraph
  ordered := by
    have hnodup : (ofGraph ids es).flatten.Nodup :=
      (flatten_ofGraph_perm ids es).nodup_iff.2 (OrderedMap.nodup_eraseDups _)
    -- first members are in order, and those of disjoint classes are not equal
    refine ((pairwise_ofGraph ids es).and (List.nodup_flatten.1 hnodup).2).imp_of_mem ?_
    rintro b c hb hc ⟨hle, hdisjoint⟩
    refine below_of_headD (fun hnil => ?_) (ascending_ofGraph hc) hdisjoint hle
    exact nil_notMem_ofGraph ids es (hnil ▸ hb)
  nonempty := nil_notMem_ofGraph ids es

end Components

/-! ## Scheduling -/

namespace Scheduler

/-- The blocks for the listed components, counting from `n`. -/
def namedFrom (n : Nat) (cs : List (List Int)) : List (String × Block) :=
  (cs.zipIdx n).map fun (c, i) => ("B" ++ toString i, { nodes := c })

theorem write_natCast (n : Nat) : Numeral.write n = toString n :=
  Nat.repr_eq_ofList_toDigits.symm

theorem toString_inj {m n : Nat} (h : toString m = toString n) : m = n := by
  rw [← write_natCast, ← write_natCast] at h
  have hdigits : Nat.toDigits 10 m = Nat.toDigits 10 n := String.ofList_injective h
  rw [← Nat.ofDigitChars_ten_toDigits (n := m), hdigits, Nat.ofDigitChars_ten_toDigits]

theorem addComponents_eq (s : Snapshot) (n : Nat) (cs : List (List Int)) :
    addComponents s n cs = { s with blocks := s.blocks.insertAll (namedFrom n cs) } := by
  induction cs generalizing s n with
  | nil => rfl
  | cons c rest ih =>
    rw [addComponents, ih, write_natCast]
    rfl

theorem keys_namedFrom (n : Nat) (cs : List (List Int)) :
    (namedFrom n cs).map Prod.fst = (List.range' n cs.length).map fun i => "B" ++ toString i := by
  rw [namedFrom, List.map_map]
  change (cs.zipIdx n).map ((fun i => "B" ++ toString i) ∘ Prod.snd) = _
  rw [← List.map_map, List.zipIdx_map_snd]

theorem nodup_keys_namedFrom (n : Nat) (cs : List (List Int)) :
    ((namedFrom n cs).map Prod.fst).Nodup := by
  rw [keys_namedFrom]
  refine List.Nodup.map (fun i j h => ?_) List.nodup_range'
  exact toString_inj ((String.append_right_inj _).1 h)

/-- The blocks that a snapshot without blocks gets. -/
def blocksFor (s : Snapshot) : OrderedMap String Block := .ofList (namedFrom 0 (componentsOf s))

theorem entries_blocksFor (s : Snapshot) :
    (blocksFor s).entries = namedFrom 0 (componentsOf s) :=
  OrderedMap.entries_ofList (nodup_keys_namedFrom 0 _)

theorem keys_blocksFor (s : Snapshot) : (blocksFor s).keys =
    (List.range (blocksFor s).size).map fun n => "B" ++ toString n := by
  rw [OrderedMap.keys, OrderedMap.size, entries_blocksFor, keys_namedFrom, ← List.range_eq_range',
    namedFrom, List.length_map, List.length_zipIdx]

theorem values_blocksFor (s : Snapshot) :
    (blocksFor s).values = (componentsOf s).map fun nodes => { nodes } := by
  rw [OrderedMap.values, entries_blocksFor, namedFrom, List.map_map]
  change ((componentsOf s).zipIdx 0).map ((fun nodes => ({ nodes } : Block)) ∘ Prod.fst) = _
  rw [← List.map_map, List.zipIdx_map_fst]

end Scheduler

namespace Snapshot

/-- An edge joins the nodes, in one direction or the other. -/
def Adjacent (s : Snapshot) (x y : Int) : Prop :=
  ∃ e ∈ s.edges, (e.source = x ∧ e.target = y) ∨ (e.source = y ∧ e.target = x)

/-- A path of edges joins the nodes, each taken in either direction. -/
def Connected (s : Snapshot) : Int → Int → Prop := Relation.ReflTransGen s.Adjacent

/-- The blocks `B0`, `B1`, … are the classes of connected nodes, without successors. -/
structure HasComponents (s : Snapshot) (blocks : OrderedMap String Block) : Prop where
  names : blocks.keys = (List.range blocks.size).map fun n => "B" ++ toString n
  classes : Components.Partition s.Connected s.nodeIds (blocks.values.map Block.nodes)
  unlinked : ∀ b ∈ blocks.values, b.successors = []

variable {s t : Snapshot}

theorem connected_ends (s : Snapshot) :
    Components.Connected (s.edges.map fun e => (e.source, e.target)) = s.Connected := by
  have hadjacent : Components.Adjacent (s.edges.map fun e => (e.source, e.target)) =
      s.Adjacent := by
    funext x y
    simp only [Components.Adjacent, Adjacent, List.mem_map, Prod.mk.injEq, ← exists_or, and_or_left]
  rw [Components.Connected, hadjacent]
  rfl

theorem Joined.partition (hs : s.Joined) :
    Components.Partition s.Connected s.nodeIds (Scheduler.componentsOf s) := by
  rw [← connected_ends]
  refine Components.partition_ofGraph s.nodes.nodup_keys fun e he => ?_
  obtain ⟨e', he', rfl⟩ := List.mem_map.1 he
  have hends := joins_eq_true.1 (hs e' he')
  exact ⟨OrderedMap.contains_eq_true.1 hends.1, OrderedMap.contains_eq_true.1 hends.2⟩

theorem Joined.hasComponents (hs : s.Joined) : s.HasComponents (Scheduler.blocksFor s) where
  names := Scheduler.keys_blocksFor s
  classes := by
    rw [Scheduler.values_blocksFor, List.map_map]
    exact (List.map_id _).symm ▸ hs.partition
  unlinked b hb := by
    rw [Scheduler.values_blocksFor] at hb
    obtain ⟨nodes, -, rfl⟩ := List.mem_map.1 hb
    rfl

/-- The blocks depend on the node ids and on which of them are adjacent, and on nothing else. -/
theorem Joined.blocksFor_congr (hs : s.Joined) (ht : t.Joined)
    (hids : ∀ id, id ∈ t.nodeIds ↔ id ∈ s.nodeIds)
    (hadjacent : ∀ x y, t.Adjacent x y ↔ s.Adjacent x y) :
    Scheduler.blocksFor t = Scheduler.blocksFor s := by
  have hconnected : t.Connected = s.Connected :=
    congrArg Relation.ReflTransGen (funext fun x => funext fun y => propext (hadjacent x y))
  have hcomponents : Scheduler.componentsOf t = Scheduler.componentsOf s :=
    (hconnected ▸ ht.partition).unique hs.partition t.nodes.nodup_keys s.nodes.nodup_keys hids
  rw [Scheduler.blocksFor, hcomponents]
  rfl

end Snapshot

namespace Scheduler

variable {s : Snapshot}

theorem scheduleComponents_eq (hempty : s.blocks.isEmpty = true) :
    scheduleComponents s = { s with blocks := blocksFor s } := by
  have hblocks : s.blocks = .empty := OrderedMap.eq_of_entries (List.isEmpty_iff.1 hempty)
  rw [scheduleComponents, if_pos hempty, addComponents_eq, hblocks]
  rfl

/-- A snapshot without blocks gets its components as blocks, and is otherwise left as it is. The
blocks are the same for every snapshot with the same node ids that are adjacent in the same way. -/
theorem byComponent_schedules (hs : s.Joined) (hempty : s.blocks.isEmpty = true) :
    ∃ blocks log, byComponent.assign s = .ok (blocks, log) ∧
      scheduleComponents s = { s with blocks } ∧ s.HasComponents blocks ∧
      ∀ t : Snapshot, t.Joined → t.blocks.isEmpty = true →
        (∀ id, id ∈ t.nodeIds ↔ id ∈ s.nodeIds) →
        (∀ x y, t.Adjacent x y ↔ s.Adjacent x y) →
        scheduleComponents t = { t with blocks } := by
  have hassign : byComponent.assign s =
      .ok ((scheduleComponents s).blocks, report s (scheduleComponents s)) := rfl
  rw [scheduleComponents_eq hempty] at hassign
  refine ⟨blocksFor s, _, hassign, scheduleComponents_eq hempty, hs.hasComponents, ?_⟩
  intro t ht hempty' hids hadjacent
  rw [scheduleComponents_eq hempty', hs.blocksFor_congr ht hids hadjacent]

/-- Two nodes joined by edges in both directions, one that is joined to itself, and one alone. -/
def scattered : Snapshot :=
  { id := 0, name := "scattered"
    nodes := .ofList [(4, .empty), (7, .empty), (1, .empty), (3, .empty)]
    edges := [⟨7, 3, 0, 0, "", ""⟩, ⟨3, 7, 1, 0, "", ""⟩, ⟨1, 1, 0, 0, "", ""⟩] }

theorem byComponent_schedules_scattered : scattered.Joined ∧ scattered.blocks.isEmpty = true ∧
    ∃ blocks log, byComponent.assign scattered = .ok (blocks, log) ∧
      scattered.HasComponents blocks := by
  have hjoined : scattered.Joined := by unfold Snapshot.Joined; decide +kernel
  obtain ⟨blocks, log, hassign, -, hcomponents, -⟩ := byComponent_schedules hjoined rfl
  exact ⟨hjoined, rfl, blocks, log, hassign, hcomponents⟩

end Scheduler

end SnapshotViewer
