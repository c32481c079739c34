import Mathlib.Tactic.ByContra
import SnapshotViewer.Label

/-!
# What expanding a template replaces

`Stands t i key` says that a placeholder for `key` stands at place `i` of a text. Two placeholders
never overlap, and so a text splits in exactly one way into placeholders and single characters such
that all placeholders that stand in the text are pieces of it (`Splits`, `Splits.unique`). The scan
that expands a template finds these pieces, whatever bracket is still open (`expands_expand`). Main
statement: `resolve_replaces`.
-/

namespace SnapshotViewer.Label

/-- A text without brackets. -/
def IsPlain (t : List Char) : Prop := ∀ c ∈ t, c ≠ '[' ∧ c ≠ ']'

instance (t : List Char) : Decidable (IsPlain t) := List.decidableBAll _ t

/-- What a placeholder can name: it is not empty and holds no bracket. -/
def IsKey (key : List Char) : Prop := key ≠ [] ∧ IsPlain key

instance (key : List Char) : Decidable (IsKey key) := inferInstanceAs (Decidable (_ ∧ _))

/-- A placeholder as it is written. -/
def placeholder (key : List Char) : List Char := '[' :: key ++ [']']

/-- A placeholder for `key` stands at place `i` of a text. -/
def Stands (t : List Char) (i : Nat) (key : List Char) : Prop :=
  IsKey key ∧ placeholder key <+: t.drop i

instance (t : List Char) (i : Nat) (key : List Char) : Decidable (Stands t i key) :=
  inferInstanceAs (Decidable (_ ∧ _))

/-- No placeholder of a text stands across the seam of its two parts. -/
def Seam (t u : List Char) : Prop :=
  ∀ i key, Stands (t ++ u) i key → i + (placeholder key).length ≤ t.length ∨ t.length ≤ i

variable {t u key key' : List Char} {i j : Nat}

theorem length_placeholder (key : List Char) : (placeholder key).length = key.length + 2 := by
  simp [placeholder]

/-! ## Where placeholders stand -/

theorem Stands.length_le (h : Stands t i key) : i + (placeholder key).length ≤ t.length := by
  have hle := h.2.length_le
  rw [List.length_drop] at hle
  have hpos := length_placeholder key
  omega

/-- A placeholder is read off the text where it stands. -/
theorem Stands.getElem? (h : Stands t i key) (hj : j < (placeholder key).length) :
    t[i + j]? = (placeholder key)[j]? := by
  obtain ⟨rest, hrest⟩ := h.2
  rw [← List.getElem?_drop, ← hrest, List.getElem?_append_left hj]

theorem Stands.opens (h : Stands t i key) : t[i]? = some '[' :=
  h.getElem? (j := 0) (by simp [length_placeholder])

/-- Between the two brackets of a placeholder there is no bracket. -/
theorem Stands.inside (h : Stands t i key) (hi : i < j)
    (hj : j + 1 < i + (placeholder key).length) : ∃ c, t[j]? = some c ∧ c ≠ '[' ∧ c ≠ ']' := by
  rw [length_placeholder] at hj
  obtain ⟨k, rfl⟩ : ∃ k, j = i + (k + 1) := ⟨j - i - 1, by omega⟩
  have hk : k < key.length := by omega
  have hchar : t[i + (k + 1)]? = some key[k] := by
    rw [h.getElem? (by rw [length_placeholder]; omega), placeholder, List.cons_append,
      List.getElem?_cons_succ, List.getElem?_append_left hk, List.getElem?_eq_getElem hk]
  exact ⟨key[k], hchar, h.1.2 _ (List.getElem_mem hk)⟩

theorem Stands.closes (h : Stands t i key) : t[i + key.length + 1]? = some ']' := by
  have hj : key.length + 1 < (placeholder key).length := by rw [length_placeholder]; omega
  rw [Nat.add_assoc, h.getElem? hj, placeholder, List.cons_append, List.getElem?_cons_succ,
    List.getElem?_append_right (Nat.le_refl _), Nat.sub_self]
  rfl

/-- Where a placeholder begins, no other one goes on. -/
theorem Stands.le_of_lt (h : Stands t i key) (h' : Stands t j key') (hij : i < j) :
    i + (placeholder key).length ≤ j := by
  by_contra hlt
  have hopens := h'.opens
  by_cases hj : j + 1 < i + (placeholder key).length
  · obtain ⟨c, hc, hne, -⟩ := h.inside hij hj
    exact hne (Option.some_inj.1 (hc.symm.trans hopens))
  · have hlast : j = i + key.length + 1 := by
      rw [length_placeholder] at hlt hj
      omega
    rw [hlast] at hopens
    cases h.closes.symm.trans hopens

/-- One placeholder at most stands at a place. -/
theorem Stands.key_unique (h : Stands t i key) (h' : Stands t i key') : key = key' := by
  -- The shorter key would have its closing bracket inside the longer one.
  have hle {k k' : List Char} (h : Stands t i k) (h' : Stands t i k') : k'.length ≤ k.length := by
    by_contra hlt
    obtain ⟨c, hc, -, hne⟩ := h'.inside (j := i + k.length + 1) (by omega)
      (by rw [length_placeholder]; omega)
    exact hne (Option.some_inj.1 (hc.symm.trans h.closes))
  have hlength : key.length = key'.length := Nat.le_antisymm (hle h' h) (hle h h')
  have hprefix := List.prefix_of_prefix_length_le h.2 h'.2
    (by rw [length_placeholder, length_placeholder]; omega)
  have hsame := hprefix.eq_of_length (by rw [length_placeholder, length_placeholder, hlength])
  exact List.append_cancel_right (List.cons.inj hsame).2

/-- Placeholders at two places do not overlap. -/
theorem Stands.apart (h : Stands t i key) (h' : Stands t j key') :
    i = j ∧ key = key' ∨ i + (placeholder key).length ≤ j ∨
      j + (placeholder key').length ≤ i := by
  obtain hlt | rfl | hlt := Nat.lt_trichotomy i j
  · exact .inr (.inl (h.le_of_lt h' hlt))
  · exact .inl ⟨rfl, h.key_unique h'⟩
  · exact .inr (.inr (h'.le_of_lt h hlt))

/-- The placeholders of a text are those of its two parts, if none stands across the seam. -/
theorem stands_append (h : Seam t u) : Stands (t ++ u) i key ↔
    Stands t i key ∨ t.length ≤ i ∧ Stands u (i - t.length) key := by
  constructor
  · intro hstands
    obtain hle | hle := h i key hstands
    · have hpre : t.drop i <+: (t ++ u).drop i := by
        rw [List.drop_append]
        exact List.prefix_append _ _
      refine .inl ⟨hstands.1, List.prefix_of_prefix_length_le hstands.2 hpre ?_⟩
      rw [List.length_drop]
      omega
    · refine .inr ⟨hle, hstands.1, ?_⟩
      have hdrop : (t ++ u).drop i = u.drop (i - t.length) := by
        rw [List.drop_append, List.drop_eq_nil_of_le hle, List.nil_append]
      exact hdrop ▸ hstands.2
  · rintro (⟨hkey, hpre⟩ | ⟨hle, hkey, hpre⟩)
    · refine ⟨hkey, hpre.trans ?_⟩
      rw [List.drop_append]
      exact List.prefix_append _ _
    · refine ⟨hkey, ?_⟩
      rwa [List.drop_append, List.drop_eq_nil_of_le hle, List.nil_append]

/-- No placeholder goes on behind a closing bracket. -/
theorem seam_of_closing (t u : List Char) : Seam (t ++ [']']) u := by
  intro i key h
  by_contra hacross
  rw [not_or, List.length_append, List.length_singleton] at hacross
  obtain ⟨hlt, hle⟩ := hacross
  have hclosing : (t ++ [']'] ++ u)[t.length]? = some ']' := by simp
  by_cases hi : i = t.length
  · cases (hi ▸ h.opens).symm.trans hclosing
  · obtain ⟨c, hc, -, hne⟩ := h.inside (j := t.length) (by omega) (by omega)
    exact hne (Option.some_inj.1 (hc.symm.trans hclosing))

/-- No placeholder goes on at an opening bracket. -/
theorem seam_of_opening (t u : List Char) : Seam t ('[' :: u) := by
  intro i key h
  by_contra hacross
  rw [not_or] at hacross
  obtain ⟨hlt, hle⟩ := hacross
  have hopening : (t ++ '[' :: u)[t.length]? = some '[' := by simp
  by_cases hlast : t.length = i + key.length + 1
  · cases (hlast ▸ h.closes).symm.trans hopening
  · obtain ⟨c, hc, hne, -⟩ := h.inside (j := t.length) (by omega)
      (by rw [length_placeholder] at hlt ⊢; omega)
    exact hne (Option.some_inj.1 (hc.symm.trans hopening))

/-- No placeholder begins in a text without opening brackets. -/
theorem seam_of_notMem (h : '[' ∉ t) (u : List Char) : Seam t u := by
  intro i key hstands
  by_contra hacross
  rw [not_or, Nat.not_le, Nat.not_le] at hacross
  have hopens := hstands.opens
  rw [List.getElem?_append_left hacross.2] at hopens
  exact h (List.mem_of_getElem? hopens)

/-! ## Pieces of a template -/

/-- A piece of a template: a character, or a placeholder for a key. -/
inductive Piece where
  | character (c : Char)
  | placeholder (key : List Char)
deriving DecidableEq

namespace Piece

/-- A piece as it is written. -/
def text : Piece → List Char
  | character c => [c]
  | placeholder key => Label.placeholder key

/-- What a piece is expanded to. -/
def expansion (value? : List Char → Option (List Char)) : Piece → List Char
  | character c => [c]
  | placeholder key => (value? key).getD ['?']

theorem length_text_pos (p : Piece) : 0 < p.text.length := by
  cases p with
  | character c => exact Nat.zero_lt_one
  | placeholder key => rw [text, length_placeholder]; omega

end Piece

/-- Pieces as they are written. -/
def textOf (pieces : List Piece) : List Char := pieces.flatMap Piece.text

/-- What pieces are expanded to, one after the other. -/
def expansionOf (value? : List Char → Option (List Char)) (pieces : List Piece) : List Char :=
  pieces.flatMap (Piece.expansion value?)

/-- A placeholder for `key` is among pieces, behind `i` characters. -/
def Holds (pieces : List Piece) (i : Nat) (key : List Char) : Prop :=
  ∃ front back, pieces = front ++ .placeholder key :: back ∧ (textOf front).length = i

/-- The pieces make up a text, and their placeholders are those that stand in it. -/
structure Splits (t : List Char) (pieces : List Piece) : Prop where
  text : textOf pieces = t
  exact : ∀ i key, Stands t i key ↔ Holds pieces i key

variable {ps qs : List Piece} {p q : Piece} {value? : List Char → Option (List Char)}

theorem holds_cons : Holds (p :: ps) i key ↔
    p = .placeholder key ∧ i = 0 ∨ p.text.length ≤ i ∧ Holds ps (i - p.text.length) key := by
  constructor
  · rintro ⟨front, back, heq, rfl⟩
    cases front with
    | nil => exact .inl ⟨(List.cons.inj heq).1, rfl⟩
    | cons f rest =>
      cases heq
      refine .inr ⟨?_, rest, back, rfl, ?_⟩ <;> simp [textOf]
  · rintro (⟨rfl, rfl⟩ | ⟨hle, front, back, rfl, hlength⟩)
    · exact ⟨[], ps, rfl, rfl⟩
    · refine ⟨p :: front, back, rfl, ?_⟩
      simp only [textOf, List.flatMap_cons, List.length_append] at hlength ⊢
      omega

theorem holds_append : Holds (ps ++ qs) i key ↔
    Holds ps i key ∨ (textOf ps).length ≤ i ∧ Holds qs (i - (textOf ps).length) key := by
  induction ps generalizing i with
  | nil => simp [Holds, textOf]
  | cons p rest ih =>
    rw [List.cons_append, holds_cons, holds_cons, ih, or_assoc]
    have hlength : (textOf (p :: rest)).length = p.text.length + (textOf rest).length := by
      simp [textOf]
    rw [hlength, Nat.sub_sub]
    constructor
    · rintro (h | ⟨hle, h | ⟨hle', h⟩⟩)
      · exact .inl h
      · exact .inr (.inl ⟨hle, h⟩)
      · exact .inr (.inr ⟨by omega, h⟩)
    · rintro (h | ⟨hle, h⟩ | ⟨hle, h⟩)
      · exact .inl h
      · exact .inr ⟨hle, .inl h⟩
      · exact .inr ⟨by omega, .inr ⟨by omega, h⟩⟩

/-- Two texts are split one after the other if no placeholder stands across their seam. -/
theorem Splits.append (h : Splits t ps) (h' : Splits u qs) (hseam : Seam t u) :
    Splits (t ++ u) (ps ++ qs) where
  text := by rw [textOf, List.flatMap_append, ← textOf, ← textOf, h.text, h'.text]
  exact i key := by
    rw [stands_append hseam, holds_append, h.exact, h'.exact, h.text]

/-- A text in which no placeholder stands is split into its characters. -/
theorem splits_characters (h : ∀ i key, ¬ Stands t i key) : Splits t (t.map .character) where
  text := by
    rw [textOf, List.flatMap_map]
    exact List.flatMap_singleton' t
  exact i key := by
    refine iff_of_false (h i key) ?_
    rintro ⟨front, back, heq, -⟩
    have hmem : Piece.placeholder key ∈ t.map .character := by
      rw [heq]
      exact List.mem_append_right _ List.mem_cons_self
    obtain ⟨c, -, hc⟩ := List.mem_map.1 hmem
    cases hc

/-- A placeholder is a piece of its own. -/
theorem splits_placeholder (hkey : IsKey key) : Splits (placeholder key) [.placeholder key] where
  text := List.append_nil _
  exact i key' := by
    have hself : Stands (placeholder key) 0 key := ⟨hkey, List.prefix_rfl⟩
    constructor
    · intro h
      obtain ⟨rfl, rfl⟩ | hle | hle := hself.apart h
      · exact ⟨[], [], rfl, rfl⟩
      · have hlength := h.length_le
        simp only [length_placeholder] at hle hlength
        omega
      · rw [length_placeholder] at hle
        omega
    · intro h
      rw [holds_cons] at h
      obtain ⟨heq, rfl⟩ | ⟨-, front, back, heq, -⟩ := h
      · cases heq
        exact hself
      · cases front <;> cases heq

/-- What is left of a text behind its first piece is split by the others. -/
theorem Splits.tail (h : Splits t (p :: ps)) : Splits (t.drop p.text.length) ps where
  text := by
    rw [← h.text, textOf, textOf, List.flatMap_cons, List.drop_left]
  exact i key := by
    have hpos := p.length_text_pos
    have hshift : Stands (t.drop p.text.length) i key ↔ Stands t (p.text.length + i) key := by
      rw [Stands, Stands, List.drop_drop]
    rw [hshift, h.exact, holds_cons, Nat.add_sub_cancel_left]
    constructor
    · rintro (⟨-, hzero⟩ | ⟨-, hholds⟩)
      · omega
      · exact hholds
    · exact fun hholds => .inr ⟨Nat.le_add_right _ _, hholds⟩

/-- The first pieces of two splittings are the same. -/
theorem Splits.head_unique (h : Splits t (p :: ps)) (h' : Splits t (q :: qs)) : p = q := by
  -- A placeholder in front is a piece of both, and the character in front is the same otherwise.
  have hfront {p q : Piece} {ps qs : List Piece} {key : List Char} (h : Splits t (p :: ps))
      (h' : Splits t (q :: qs)) (hp : p = .placeholder key) : p = q := by
    have hstands : Stands t 0 key := (h.exact 0 key).2 (holds_cons.2 (.inl ⟨hp, rfl⟩))
    have hpos := q.length_text_pos
    obtain ⟨hq, -⟩ | ⟨hle, -⟩ := holds_cons.1 ((h'.exact 0 key).1 hstands)
    · rw [hp, hq]
    · omega
  cases p with
  | placeholder key => exact hfront h h' rfl
  | character c =>
    cases q with
    | placeholder key => exact (hfront h' h rfl).symm
    | character d =>
      have htext := h.text.trans h'.text.symm
      rw [textOf, textOf, List.flatMap_cons, List.flatMap_cons] at htext
      rw [(List.cons.inj htext).1]

/-- A text splits in one way only. -/
theorem Splits.unique (h : Splits t ps) (h' : Splits t qs) : ps = qs := by
  induction ps generalizing t qs with
  | nil =>
    cases qs with
    | nil => rfl
    | cons q qs =>
      have hpos := q.length_text_pos
      have htext := congrArg List.length (h'.text.trans h.text.symm)
      simp only [textOf, List.flatMap_cons, List.length_append, List.flatMap_nil,
        List.length_nil] at htext
      omega
  | cons p ps ih =>
    cases qs with
    | nil =>
      have hpos := p.length_text_pos
      have htext := congrArg List.length (h.text.trans h'.text.symm)
      simp only [textOf, List.flatMap_cons, List.length_append, List.flatMap_nil,
        List.length_nil] at htext
      omega
    | cons q qs =>
      cases h.head_unique h'
      rw [ih h.tail h'.tail]

/-! ## Scanning -/

/-- What was read since a bracket that may begin a placeholder. -/
def pending : Option (List Char) → List Char
  | none => []
  | some read => '[' :: read.reverse

/-- The pieces of a text are expanded to another one. -/
def Expands (value? : List Char → Option (List Char)) (t expanded : List Char) : Prop :=
  ∃ pieces, Splits t pieces ∧ expanded = expansionOf value? pieces

theorem expansionOf_append (ps qs : List Piece) :
    expansionOf value? (ps ++ qs) = expansionOf value? ps ++ expansionOf value? qs :=
  List.flatMap_append

theorem expansionOf_characters (t : List Char) : expansionOf value? (t.map .character) = t := by
  rw [expansionOf, List.flatMap_map]
  exact List.flatMap_singleton' t

/-- A text in which no placeholder stands is copied. -/
theorem expands_self (h : ∀ i key, ¬ Stands t i key) : Expands value? t t :=
  ⟨_, splits_characters h, (expansionOf_characters t).symm⟩

theorem Expands.append {v w : List Char} (h : Expands value? t v) (h' : Expands value? u w)
    (hseam : Seam t u) : Expands value? (t ++ u) (v ++ w) := by
  obtain ⟨ps, hps, rfl⟩ := h
  obtain ⟨qs, hqs, rfl⟩ := h'
  exact ⟨ps ++ qs, hps.append hqs hseam, (expansionOf_append ps qs).symm⟩

/-- A text is expanded in one way only. -/
theorem Expands.unique {v w : List Char} (h : Expands value? t v) (h' : Expands value? t w) :
    v = w := by
  obtain ⟨ps, hps, rfl⟩ := h
  obtain ⟨qs, hqs, rfl⟩ := h'
  rw [hps.unique hqs]

/-- A bracket that is not closed begins no placeholder. -/
theorem not_stands_unclosed {read : List Char} (h : IsPlain read) (i : Nat) (key : List Char) :
    ¬ Stands (pending (some read)) i key := by
  intro hstands
  have hmem := List.mem_of_getElem? hstands.closes
  rw [pending, List.mem_cons, List.mem_reverse] at hmem
  exact hmem.elim (by decide) fun hmem => (h _ hmem).2 rfl

/-- A text is copied up to where the next bracket opens. -/
theorem Expands.reopened {read rest expanded : List Char} (hread : IsPlain read)
    (h : Expands value? ('[' :: rest) expanded) :
    Expands value? (pending (some read) ++ '[' :: rest) ('[' :: read.reverse ++ expanded) :=
  (expands_self (not_stands_unclosed hread)).append h (seam_of_opening _ _)

/-- Two brackets with nothing between them are copied. -/
theorem Expands.empty {rest expanded : List Char} (h : Expands value? rest expanded) :
    Expands value? ('[' :: ']' :: rest) ('[' :: ']' :: expanded) := by
  have hnone (i : Nat) (key : List Char) : ¬ Stands ['[', ']'] i key := by
    intro hstands
    have hlength := hstands.length_le
    have hkey := List.length_pos_iff.2 hstands.1.1
    rw [length_placeholder, List.length_cons, List.length_singleton] at hlength
    omega
  exact (expands_self hnone).append h (seam_of_closing ['['] rest)

/-- A placeholder is replaced. -/
theorem Expands.replaced {read rest expanded : List Char} (hread : IsPlain read)
    (hne : read ≠ []) (h : Expands value? rest expanded) :
    Expands value? (pending (some read) ++ ']' :: rest)
      ((value? read.reverse).getD ['?'] ++ expanded) := by
  have hkey : IsKey read.reverse :=
    ⟨fun h => hne (List.reverse_eq_nil_iff.1 h), fun c hc => hread c (List.mem_reverse.1 hc)⟩
  have hself : Expands value? (placeholder read.reverse) ((value? read.reverse).getD ['?']) :=
    ⟨_, splits_placeholder hkey, (List.append_nil _).symm⟩
  have hboth := hself.append h (seam_of_closing ('[' :: read.reverse) rest)
  rwa [placeholder, List.append_assoc] at hboth

/-- The scan expands the pieces of what it has pending and what is left. The induction is on what is
left; there is no bracket among the pending characters but the one that is open. -/
theorem expands_expand (value? : List Char → Option (List Char)) (opened : Option (List Char))
    (rest : List Char) (hopened : ∀ read ∈ opened, IsPlain read) :
    Expands value? (pending opened ++ rest) (expand value? opened rest) := by
  induction rest generalizing opened with
  | nil =>
    rw [List.append_nil]
    cases opened with
    | none => exact expands_self fun i key h => nomatch h.opens
    | some read => exact expands_self (not_stands_unclosed (hopened read rfl))
  | cons c rest ih =>
    have hbracket : Expands value? ('[' :: rest) (expand value? (some []) rest) :=
      ih (some []) fun read hread => by
        cases hread
        exact fun c hc => nomatch hc
    have hnothing : Expands value? rest (expand value? none rest) :=
      ih none fun read hread => nomatch hread
    cases opened with
    | none =>
      rw [expand]
      split
      · rename_i hc
        exact hc ▸ hbracket
      · rename_i hc
        have hnone : '[' ∉ [c] := fun h => hc (List.mem_singleton.1 h).symm
        have hself : Expands value? [c] [c] :=
          expands_self fun i key h => hnone (List.mem_of_getElem? h.opens)
        exact hself.append hnothing (seam_of_notMem hnone rest)
    | some read =>
      have hread : IsPlain read := hopened read rfl
      rw [expand]
      split
      · rename_i hc
        exact hc ▸ hbracket.reopened hread
      split
      · rename_i hc
        subst hc
        split
        · rename_i hempty
          cases List.isEmpty_iff.1 hempty
          exact hnothing.empty
        · rename_i hempty
          exact hnothing.replaced hread fun h => hempty (List.isEmpty_iff.2 h)
      · rename_i hopening hclosing
        have hlonger : IsPlain (c :: read) := by
          intro d hd
          obtain rfl | hd := List.mem_cons.1 hd
          · exact ⟨hopening, hclosing⟩
          · exact hread d hd
        have htext : pending (some (c :: read)) ++ rest = pending (some read) ++ c :: rest := by
          simp [pending]
        rw [← htext]
        exact ih (some (c :: read)) fun r hr => by
          cases hr
          exact hlonger

/-- The value of a placeholder for some properties. -/
def valueOf (properties : Properties) (key : List Char) : Option (List Char) :=
  (properties.get? (String.ofList key)).map String.toList

theorem expands_resolve (template : String) (properties : Properties) :
    Expands (valueOf properties) template.toList (resolve template properties).toList := by
  have h := expands_expand (valueOf properties) none template.toList fun _ h => nomatch h
  rw [resolve, String.toList_ofList]
  exact h

/-- Placeholders of a template do not overlap. The template splits, in one way only, into them and
the other characters; a placeholder is replaced by the value of its key or a question mark, and the
other characters are copied. So two parts without a placeholder across their seam are expanded apart
from each other, and a template without placeholders stays as it is. -/
theorem resolve_replaces (template : String) (properties : Properties) :
    (∀ i j key key', Stands template.toList i key → Stands template.toList j key' →
      i = j ∧ key = key' ∨ i + (placeholder key).length ≤ j ∨
        j + (placeholder key').length ≤ i) ∧
    (∃ pieces, Splits template.toList pieces ∧
      (∀ others, Splits template.toList others → others = pieces) ∧
      (resolve template properties).toList = expansionOf (valueOf properties) pieces) ∧
    (∀ first second, template = first ++ second → Seam first.toList second.toList →
      resolve template properties = resolve first properties ++ resolve second properties) ∧
    ((∀ i key, ¬ Stands template.toList i key) → resolve template properties = template) := by
  have hexpands := expands_resolve template properties
  refine ⟨fun i j key key' h h' => h.apart h', ?_, ?_, fun hnone => ?_⟩
  · obtain ⟨pieces, hsplits, hexpanded⟩ := hexpands
    exact ⟨pieces, hsplits, fun others h => h.unique hsplits, hexpanded⟩
  · rintro first second rfl hseam
    have hboth := (expands_resolve first properties).append (expands_resolve second properties)
      hseam
    rw [String.toList_append] at hexpands
    apply String.toList_inj.1
    rw [String.toList_append]
    exact hexpands.unique hboth
  · exact String.toList_inj.1 (hexpands.unique (expands_self hnone))

/-- A property whose value looks like a placeholder. -/
def bracketed : Properties := .ofList [("a", "[b]")]

example : Stands "[[a][]b]".toList 1 ['a'] ∧ ¬ Stands "[[a][]b]".toList 0 ['[', 'a'] ∧
    resolve "[[a][]b]" bracketed = "[[b][]b]" := by decide

theorem resolve_replaces_nested : Seam "[[a]".toList "[]b]".toList ∧
    resolve "[[a][]b]" bracketed = resolve "[[a]" bracketed ++ resolve "[]b]" bracketed :=
  have hseam : Seam "[[a]".toList "[]b]".toList := seam_of_closing ['[', '[', 'a'] _
  ⟨hseam, (resolve_replaces "[[a][]b]" bracketed).2.2.1 _ _ (by decide) hseam⟩

end SnapshotViewer.Label
