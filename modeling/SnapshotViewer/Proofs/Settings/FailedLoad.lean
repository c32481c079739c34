import SnapshotViewer.Settings.File

/-!
# What loading a file leaves

A file is refused as a whole if it cannot be read or names a mode that there is not. Otherwise the
path is noted and the entries are assigned one after the other, so that a key that is no text ends
the loading halfway: the entries in front of it stay assigned (`front`, `get_assignAll`). Main
statement: `load_failed_keeps_iff`.
-/

namespace SnapshotViewer

/-- The scalar is a text. -/
def Scalar.isText : Scalar → Bool
  | .text _ => true
  | _ => false

namespace DisplayMode

/-- A value that names a mode is the text of the mode. -/
theorem eq_text_of_ofValue? {v : Value} {m : DisplayMode} (h : ofValue? v = some m) :
    v = .text m.text := by
  unfold ofValue? at h
  split at h
  · have htext := List.find?_some h
    rw [beq_iff_eq] at htext
    rw [htext]
  · cases h

theorem text_inj {m m' : DisplayMode} (h : m.text = m'.text) : m = m' := by
  revert h
  cases m <;> cases m' <;> decide

end DisplayMode

namespace Setting

/-- A setting takes a value. The mode only takes values that name one. -/
def takes : Setting → Value → Bool
  | .defaultView, v => (DisplayMode.ofValue? v).isSome
  | _, _ => true

theorem key_inj {k k' : Setting} (h : k.key = k'.key) : k = k' := by
  revert h
  cases k <;> cases k' <;> decide

theorem ofKey?_eq_some {key : String} {k : Setting} : ofKey? key = some k ↔ key = k.key := by
  constructor
  · intro h
    have hkey := List.find?_some h
    rw [beq_iff_eq] at hkey
    exact hkey.symm
  · rintro rfl
    cases k <;> rfl

end Setting

namespace Settings

variable {formats : Formats} {s : Settings} {files : Files} {path : String}

/-! ## Single settings -/

theorem get_set (s : Settings) (k k' : Setting) (v : Value) :
    (s.set k v).get k' = if k = k' ∧ k.takes v = true then v else s.get k' := by
  by_cases hk : k = k'
  · subst hk
    cases k with
    | defaultView =>
      cases hmode : DisplayMode.ofValue? v with
      | none => simp [set, get, Setting.takes, hmode]
      | some m =>
        cases DisplayMode.eq_text_of_ofValue? hmode
        simp [set, get, Setting.takes, hmode]
    | _ => simp [set, get, Setting.takes]
  · rw [if_neg fun h => hk h.1]
    cases k <;> cases k' <;> first | rfl | exact absurd rfl hk

theorem file_set (s : Settings) (k : Setting) (v : Value) : (s.set k v).file = s.file := by
  cases k <;> rfl

/-- Settings are determined by what can be read off them. -/
theorem eq_of_get {s t : Settings} (hfile : s.file = t.file) (hget : ∀ k, s.get k = t.get k) :
    s = t := by
  have hmode := hget .defaultView
  simp only [get, Value.scalar.injEq, Scalar.text.injEq] at hmode
  cases s
  cases t
  rw [Settings.mk.injEq]
  exact ⟨DisplayMode.text_inj hmode, hget .nodeText, hget .nodeShortText, hget .nodeTinyText,
    hget .hideDuplicates, hget .logLevel, hget .logFile, hfile⟩

/-! ## Assigning entries -/

/-- The entries of a document in front of the first key that is no text. -/
def front (entries : List (Scalar × Value)) : List (Scalar × Value) :=
  entries.takeWhile fun e => e.1.isText

/-- The last value among some entries that a setting takes. -/
def given (k : Setting) : List (Scalar × Value) → Option Value
  | [] => none
  | (key, v) :: rest =>
    (given k rest).or (if key = .text k.key ∧ k.takes v = true then some v else none)

theorem assignAll_skip {key : String} (h : Setting.ofKey? key = none) (s : Settings) (v : Value)
    (rest : List (Scalar × Value)) :
    s.assignAll ((.text key, v) :: rest) = s.assignAll rest := by
  simp only [assignAll, h]

theorem assignAll_set (k : Setting) (s : Settings) (v : Value) (rest : List (Scalar × Value)) :
    s.assignAll ((.text k.key, v) :: rest) = (s.set k v).assignAll rest := by
  simp only [assignAll, Setting.ofKey?_eq_some.2 rfl]

/-- Assigning goes as far as the first key that is no text, and fails there. -/
theorem assignAll_front (s : Settings) (entries : List (Scalar × Value)) :
    s.assignAll entries = ((s.assignAll (front entries)).1,
      if entries.all fun e => e.1.isText then .ok () else .error .noSuchMember) := by
  induction entries generalizing s with
  | nil => rfl
  | cons e rest ih =>
    obtain ⟨key, v⟩ := e
    cases key with
    | text key =>
      have hfront : front ((.text key, v) :: rest) = (.text key, v) :: front rest := rfl
      have htext : (Scalar.text key).isText = true := rfl
      rw [hfront, List.all_cons, htext, Bool.true_and]
      cases hkey : Setting.ofKey? key with
      | none =>
        rw [assignAll_skip hkey, assignAll_skip hkey]
        exact ih s
      | some k =>
        cases Setting.ofKey?_eq_some.1 hkey
        rw [assignAll_set, assignAll_set]
        exact ih (s.set k v)
    | _ => rfl

/-- A setting has the last value it was given, and keeps its value if it was given none. -/
theorem get_assignAll (s : Settings) (k : Setting) (entries : List (Scalar × Value)) :
    (s.assignAll entries).1.get k = (given k (front entries)).getD (s.get k) := by
  induction entries generalizing s with
  | nil => rfl
  | cons e rest ih =>
    obtain ⟨key, v⟩ := e
    cases key with
    | text key =>
      have hfront : front ((.text key, v) :: rest) = (.text key, v) :: front rest := rfl
      rw [hfront, given]
      cases hkey : Setting.ofKey? key with
      | none =>
        have hne : key ≠ k.key := by
          rintro rfl
          cases (Setting.ofKey?_eq_some.2 rfl).symm.trans hkey
        rw [assignAll_skip hkey, ih, if_neg fun h => hne (Scalar.text.inj h.1), Option.or_none]
      | some k' =>
        cases Setting.ofKey?_eq_some.1 hkey
        have hsame : Scalar.text k'.key = .text k.key ↔ k' = k :=
          ⟨fun h => Setting.key_inj (Scalar.text.inj h), fun h => h ▸ rfl⟩
        rw [assignAll_set, ih, get_set]
        simp only [hsame]
        cases given k (front rest) with
        | some x => rfl
        | none =>
          by_cases hk : k' = k
          · subst hk
            simp only [true_and, Option.none_or, Option.getD_none]
            split <;> rfl
          · simp [hk]
    | _ => rfl

theorem file_assignAll (s : Settings) (entries : List (Scalar × Value)) :
    (s.assignAll entries).1.file = s.file := by
  induction entries generalizing s with
  | nil => rfl
  | cons e rest ih =>
    obtain ⟨key, v⟩ := e
    cases key with
    | text key =>
      cases hkey : Setting.ofKey? key with
      | none => rw [assignAll_skip hkey, ih]
      | some k =>
        cases Setting.ofKey?_eq_some.1 hkey
        rw [assignAll_set, ih, file_set]
    | _ => rfl

/-! ## Loading -/

/-- Settings are assigned from the entries of a file: it can be read, and the mode in it, if it
names one, is a mode. -/
def Assigns (formats : Formats) (files : Files) (path : String)
    (entries : List (Scalar × Value)) : Prop :=
  readFile formats files path = .ok entries ∧
    ∀ v, Value.field? Setting.defaultView.key entries = some v →
      Setting.defaultView.takes v = true

/-- A file that settings are assigned from is noted, and its entries are assigned. -/
theorem load_of_assigns {entries : List (Scalar × Value)} (h : Assigns formats files path entries)
    (s : Settings) :
    ((s.load files path formats).settings, (s.load files path formats).result) =
      { s with file := path }.assignAll entries := by
  obtain ⟨hread, hmode⟩ := h
  rw [load, hread]
  dsimp only [apply]
  split
  · rfl
  · rename_i v hv
    have htakes := hmode v hv
    cases hm : DisplayMode.ofValue? v with
    | some m => rfl
    | none => simp [Setting.takes, hm] at htakes

/-- A file that nothing is assigned from is refused, and changes nothing. -/
theorem load_of_not_assigns (h : ∀ entries, ¬ Assigns formats files path entries) (s : Settings) :
    (s.load files path formats).settings = s ∧
      ∃ e, (s.load files path formats).result = .error e := by
  unfold load
  cases hread : readFile formats files path with
  | error e => exact ⟨rfl, e, rfl⟩
  | ok entries =>
    dsimp only [apply]
    split
    · rename_i hnone
      exact absurd ⟨hread, fun v hv => by cases hnone.symm.trans hv⟩ (h entries)
    · rename_i v hv
      cases hm : DisplayMode.ofValue? v with
      | some m =>
        refine absurd ⟨hread, fun v' hv' => ?_⟩ (h entries)
        cases hv.symm.trans hv'
        simp [Setting.takes, hm]
      | none => exact ⟨rfl, _, rfl⟩

/-- A loading that fails leaves all settings as they were if and only if nothing was assigned, or
what was assigned in front of the key that is no text is what was there: the same file and the same
values. What it leaves otherwise is the file and what was assigned. -/
theorem load_failed_keeps_iff {e : Failure} (h : (s.load files path formats).result = .error e) :
    ((s.load files path formats).settings = s ↔ ∀ entries, Assigns formats files path entries →
      path = s.file ∧ ∀ k v, given k (front entries) = some v → v = s.get k) ∧
    ∀ entries, Assigns formats files path entries → e = .noSuchMember ∧
      (s.load files path formats).settings.file = path ∧ ∀ k,
        (s.load files path formats).settings.get k = (given k (front entries)).getD (s.get k) := by
  have hleft (entries : List (Scalar × Value)) (ha : Assigns formats files path entries) :
      e = .noSuchMember ∧ (s.load files path formats).settings.file = path ∧ ∀ k,
        (s.load files path formats).settings.get k = (given k (front entries)).getD (s.get k) := by
    have hload := load_of_assigns ha s
    have hsettings := congrArg Prod.fst hload
    have hresult := congrArg Prod.snd hload
    rw [assignAll_front, h] at hresult
    dsimp only at hsettings hresult
    refine ⟨?_, ?_, fun k => ?_⟩
    · split at hresult
      · cases hresult
      · cases hresult
        rfl
    · rw [hsettings, file_assignAll]
    · rw [hsettings, get_assignAll]
      cases k <;> rfl
  refine ⟨⟨fun hkept entries ha => ?_, fun hsame => ?_⟩, hleft⟩
  · obtain ⟨-, hfile, hget⟩ := hleft entries ha
    rw [hkept] at hfile hget
    refine ⟨hfile.symm, fun k v hv => ?_⟩
    rw [hget k, hv, Option.getD_some]
  · by_cases ha : ∃ entries, Assigns formats files path entries
    · obtain ⟨entries, ha⟩ := ha
      obtain ⟨-, hfile, hget⟩ := hleft entries ha
      obtain ⟨hpath, hgiven⟩ := hsame entries ha
      refine eq_of_get (hfile.trans hpath) fun k => ?_
      rw [hget k]
      cases hk : given k (front entries) with
      | none => rfl
      | some v => exact hgiven k v hk
    · exact (load_of_not_assigns (fun entries h => ha ⟨entries, h⟩) s).1

/-- A file with a missing key behind the template of the labels. -/
def keyless : Files := [("/config.yaml", "\"node_text\": \"x\"\n?\n")]

/-- Loading `keyless` fails at the missing key, when the file is noted and the template assigned. -/
theorem load_keyless :
    (match (({} : Settings).load keyless "/config.yaml").result with
      | .ok _ => none
      | .error e => some e) = some .noSuchMember ∧
    (({} : Settings).load keyless "/config.yaml").settings.file = "/config.yaml" ∧
    (({} : Settings).load keyless "/config.yaml").settings.nodeText.quoted = "'x'" := by
  decide +kernel

theorem load_keyless_fails :
    (({} : Settings).load keyless "/config.yaml").result = .error .noSuchMember := by
  have h := load_keyless.1
  split at h
  · cases h
  · rename_i e he
    cases h
    exact he

theorem load_failed_keeps_iff_keyless :
    (({} : Settings).load keyless "/config.yaml").result = .error .noSuchMember ∧
    ((({} : Settings).load keyless "/config.yaml").settings = {} ↔ ∀ entries,
      Assigns .standard keyless "/config.yaml" entries → "/config.yaml" = ({} : Settings).file ∧
        ∀ k v, given k (front entries) = some v → v = ({} : Settings).get k) :=
  ⟨load_keyless_fails, (load_failed_keeps_iff load_keyless_fails).1⟩

/-- A loading that fails does not leave all settings as they were. -/
theorem assigned_before_failure : ¬ ∀ (s : Settings) (files : Files) (path : String) (e : Failure),
    (s.load files path).result = .error e → (s.load files path).settings = s := by
  intro hall
  have hkept := hall {} keyless "/config.yaml" .noSuchMember load_keyless_fails
  have hfile := load_keyless.2.1
  rw [hkept] at hfile
  exact absurd hfile (by decide)

end Settings

end SnapshotViewer
