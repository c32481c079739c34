import Mathlib.Data.List.TakeWhile
import SnapshotViewer.Proofs.Settings.FailedLoad

/-!
# Settings from several files

Settings can be loaded from one file after the other. Each setting comes from the last file that was
loaded and has a value for it (`get_loadAll`), whatever else the files hold and in whatever order
(`loadAll_congr`). Files are taken to have texts for keys (`TextKeys`); how their text is read does
not matter, as long as it gives one value for each key (`Formats`). Main statement: `loadAll_layers`.
-/

namespace SnapshotViewer

/-! ## What a file can assign -/

/-- What a name of the configuration stands for. A file assigns settings only. -/
inductive Member where
  | setting (k : Setting)
  | location
  | method
deriving DecidableEq

namespace Member

/-- The names of the configuration. -/
def all : List (String × Member) :=
  [("base_dir", .location), ("config_file", .location)] ++
    (Setting.all.map fun k => (k.key, .setting k)) ++
    [("view_mode", .method), ("node_templates", .method), ("load_from_file", .method)]

/-- The setting that a key assigns. Keys that begin with a low line are left alone, and so are those
that are not known and those that stand for anything else. -/
def assigned? (key : String) : Option Setting :=
  if key.startsWith "_" then none
  else
    match all.find? fun e => e.1 == key with
    | some (_, .setting k) => some k
    | _ => none

theorem eq_key_of_mem_all {name : String} {k : Setting} (h : (name, .setting k) ∈ all) :
    name = k.key := by
  simp only [all, List.mem_append, List.mem_map, List.mem_cons, List.not_mem_nil, Prod.mk.injEq,
    reduceCtorEq, and_false, or_false, false_or, setting.injEq] at h
  obtain ⟨k', -, hname, rfl⟩ := h
  exact hname.symm

/-- A key that assigns a setting is the key of the setting. -/
theorem assigned?_eq_ofKey? (key : String) : assigned? key = Setting.ofKey? key := by
  cases h : Setting.ofKey? key with
  | some k =>
    cases Setting.ofKey?_eq_some.1 h
    cases k <;> decide +kernel
  | none =>
    unfold assigned?
    split
    · rfl
    split
    · rename_i name k hfound
      have hname := eq_key_of_mem_all (List.mem_of_find?_eq_some hfound)
      have hkey := List.find?_some hfound
      rw [beq_iff_eq] at hkey
      cases h.symm.trans (Setting.ofKey?_eq_some.2 (hkey.symm.trans hname))
    · rfl

end Member

/-! ## Values of a document -/

namespace Value

variable {name : String} {v : Value} {entries : List (Scalar × Value)}

theorem same_text {k : Scalar} : k.same (.text name) = true ↔ k = .text name := by
  cases k with
  | text s => simp [Scalar.same]
  | _ => simp [Scalar.same, Scalar.toInt?]

theorem field?_cons (k : Scalar) (x : Value) (rest : List (Scalar × Value)) :
    field? name ((k, x) :: rest) = if k = .text name then some x else field? name rest := by
  unfold field?
  rw [List.find?_cons]
  by_cases h : k = .text name
  · rw [same_text.2 h, if_pos h]
    rfl
  · rw [Bool.eq_false_iff.2 fun hsame => h (same_text.1 hsame), if_neg h]

theorem field?_eq_none : field? name entries = none ↔ ∀ v, (.text name, v) ∉ entries := by
  induction entries with
  | nil => simp [field?]
  | cons e rest ih =>
    obtain ⟨k, x⟩ := e
    rw [field?_cons]
    by_cases h : k = .text name
    · rw [if_pos h]
      exact iff_of_false (Option.some_ne_none x) fun hall => hall x (h ▸ List.mem_cons_self)
    · rw [if_neg h, ih]
      simp [Ne.symm h]

/-- Behind an entry for a key there is no other one for it. -/
theorem notMem_of_distinct {x : Value} (h : Distinct ((.text name, x) :: entries)) (v : Value) :
    (.text name, v) ∉ entries := by
  intro hmem
  have hsame := (List.pairwise_cons.1 h).1 _ (List.mem_map_of_mem hmem)
  simp [Scalar.same] at hsame

/-- The value of a key is the only one that is there for it. -/
theorem field?_eq_some (h : Distinct entries) :
    field? name entries = some v ↔ (.text name, v) ∈ entries := by
  induction entries with
  | nil => simp [field?]
  | cons e rest ih =>
    obtain ⟨k, x⟩ := e
    rw [field?_cons]
    by_cases hk : k = .text name
    · subst hk
      simp [notMem_of_distinct h v, eq_comm]
    · rw [if_neg hk, ih (List.pairwise_cons.1 h).2]
      simp [Ne.symm hk]

end Value

namespace Settings

variable {formats : Formats} {files files' : Files} {path : String}
  {entries entries' : List (Scalar × Value)}

/-- The entry assigns a setting. -/
def isAssigned (e : Scalar × Value) : Bool :=
  match e.1 with
  | .text key => (Member.assigned? key).isSome
  | _ => false

theorem isAssigned_key (k : Setting) (v : Value) : isAssigned (.text k.key, v) = true := by
  unfold isAssigned
  dsimp only
  rw [Member.assigned?_eq_ofKey?, Setting.ofKey?_eq_some.2 rfl]
  rfl

/-- Documents whose entries for settings are the same, in whatever order, have the same values for
them. -/
theorem field?_congr (h : Value.Distinct entries) (h' : Value.Distinct entries')
    (hperm : (entries.filter isAssigned).Perm (entries'.filter isAssigned)) (k : Setting) :
    Value.field? k.key entries = Value.field? k.key entries' := by
  have hmem (v : Value) : (.text k.key, v) ∈ entries ↔ (.text k.key, v) ∈ entries' := by
    have hsame := hperm.mem_iff (a := (.text k.key, v))
    rwa [List.mem_filter, List.mem_filter, and_iff_left (isAssigned_key k v),
      and_iff_left (isAssigned_key k v)] at hsame
  refine Option.ext fun v => ?_
  rw [Value.field?_eq_some h, Value.field?_eq_some h', hmem]

/-- What a document gives a setting is its value for the key, if the setting takes it. -/
theorem given_eq_field? {k : Setting} (h : Value.Distinct entries)
    (htakes : ∀ v, Value.field? k.key entries = some v → k.takes v = true) :
    given k entries = Value.field? k.key entries := by
  induction entries with
  | nil => rfl
  | cons e rest ih =>
    obtain ⟨key, x⟩ := e
    have hrest : Value.Distinct rest := (List.pairwise_cons.1 h).2
    rw [Value.field?_cons] at htakes ⊢
    rw [given]
    by_cases hkey : key = .text k.key
    · subst hkey
      have hnone : Value.field? k.key rest = none :=
        Value.field?_eq_none.2 (Value.notMem_of_distinct h)
      have hbehind : given k rest = none := by
        rw [ih hrest fun v hv => absurd hv (by simp [hnone]), hnone]
      rw [hbehind, Option.none_or, if_pos rfl, if_pos ⟨rfl, htakes x (if_pos rfl)⟩]
    · rw [if_neg hkey] at htakes ⊢
      rw [ih hrest htakes, if_neg fun h => hkey h.1, Option.or_none]

/-! ## Loading one file -/

/-- All keys in the files are texts. -/
def TextKeys (formats : Formats) (files : Files) : Prop :=
  ∀ path entries, readFile formats files path = .ok entries → ∀ e ∈ entries, e.1.isText = true

/-- The value that a file has for a setting. -/
def valueIn (formats : Formats) (files : Files) (k : Setting) (path : String) : Option Value :=
  match readFile formats files path with
  | .ok entries => Value.field? k.key entries
  | .error _ => none

theorem Assigns.takes (h : Assigns formats files path entries) {k : Setting} {v : Value}
    (hv : Value.field? k.key entries = some v) : k.takes v = true := by
  cases k with
  | defaultView => exact h.2 v hv
  | _ => rfl

/-- A file that settings are assigned from is loaded, and gives each setting its value for it. -/
theorem load_of_textKeys (hfiles : TextKeys formats files) (h : Assigns formats files path entries)
    (s : Settings) : (s.load files path formats).result = .ok () ∧
      (s.load files path formats).settings.file = path ∧
      ∀ k, (s.load files path formats).settings.get k =
        (valueIn formats files k path).getD (s.get k) := by
  have hload := load_of_assigns h s
  have htexts : ∀ e ∈ entries, e.1.isText = true := hfiles path entries h.1
  have hfront : front entries = entries := List.takeWhile_eq_self_iff.2 htexts
  have hsettings := congrArg Prod.fst hload
  have hresult := congrArg Prod.snd hload
  rw [assignAll_front, if_pos (List.all_eq_true.2 htexts)] at hresult
  dsimp only at hsettings hresult
  refine ⟨hresult, ?_, fun k => ?_⟩
  · rw [hsettings, file_assignAll]
  · have hvalue : valueIn formats files k path = Value.field? k.key entries := by rw [valueIn, h.1]
    rw [hsettings, get_assignAll, hfront, hvalue,
      given_eq_field? (distinct_readFile h.1) fun v hv => h.takes hv]
    cases k <;> rfl

theorem assigns_of_load {s : Settings} (h : (s.load files path formats).result = .ok ()) :
    ∃ entries, Assigns formats files path entries := by
  by_cases hassigns : ∃ entries, Assigns formats files path entries
  · exact hassigns
  · obtain ⟨-, e, he⟩ := load_of_not_assigns (fun entries h => hassigns ⟨entries, h⟩) s
    cases he.symm.trans h

/-- A file that is not loaded changes nothing. -/
theorem load_failed {s : Settings} {e : Failure} (hfiles : TextKeys formats files)
    (h : (s.load files path formats).result = .error e) :
    (s.load files path formats).settings = s := by
  refine (load_of_not_assigns (fun entries hassigns => ?_) s).1
  cases (load_of_textKeys hfiles hassigns s).1.symm.trans h

end Settings

/-! ## Loading several files -/

/-- A call that loads a file: a named one, or, on a reload, also the one that was loaded last. A
reload answers the document. -/
inductive Loading where
  | load (path : String)
  | reload (path? : Option String)

namespace Loading

/-- The file that a call loads. -/
def path (s : Settings) : Loading → String
  | load path => path
  | reload path? => path?.getD s.file

/-- What a call leaves. -/
def perform (formats : Formats) (files : Files) (s : Settings) :
    Loading → Settings.Outcome (Option Value)
  | load path =>
    let o := s.load files path formats
    { settings := o.settings, result := o.result.map fun _ => none, log := o.log }
  | reload path? =>
    let o := s.reload files path? formats
    { settings := o.settings, result := o.result.map some, log := o.log }

end Loading

namespace Settings

/-- The settings after several calls, of which some may have failed. -/
def loadAll (formats : Formats) (files : Files) (s : Settings) (calls : List Loading) :
    Settings :=
  calls.foldl (fun s c => (c.perform formats files s).settings) s

/-- The files that were loaded by calls that have not failed, in order. -/
def loaded (formats : Formats) (files : Files) (s : Settings) : List Loading → List String
  | [] => []
  | c :: rest =>
    let o := c.perform formats files s
    match o.result with
    | .ok _ => c.path s :: loaded formats files o.settings rest
    | .error _ => loaded formats files o.settings rest

variable {formats : Formats} {files files' : Files} {s : Settings} {c : Loading}

/-- A reload does what loading does, and answers the document that was assigned. -/
theorem reload_eq (formats : Formats) (files : Files) (s : Settings) (path? : Option String) :
    (s.reload files path? formats).settings = (s.load files (path?.getD s.file) formats).settings ∧
    (∀ e, (s.load files (path?.getD s.file) formats).result = .error e →
      (s.reload files path? formats).result = .error e) ∧
    ((s.load files (path?.getD s.file) formats).result = .ok () → ∃ entries,
      Assigns formats files (path?.getD s.file) entries ∧
        (s.reload files path? formats).result = .ok (.map entries)) := by
  refine ⟨rfl, fun e he => ?_, fun hok => ?_⟩
  · rw [reload, he]
    rfl
  · obtain ⟨entries, h⟩ := assigns_of_load hok
    refine ⟨entries, h, ?_⟩
    rw [reload, hok, h.1]
    rfl

/-- The settings after a call are those after loading its file. -/
theorem settings_perform (c : Loading) (s : Settings) :
    (c.perform formats files s).settings = (s.load files (c.path s) formats).settings := by
  cases c <;> rfl

theorem result_perform_eq_ok (c : Loading) (s : Settings) :
    (∃ a, (c.perform formats files s).result = .ok a) ↔
      (s.load files (c.path s) formats).result = .ok () := by
  cases c with
  | load path =>
    rw [Loading.perform, Loading.path]
    cases (s.load files path formats).result <;> simp [Except.map]
  | reload path? =>
    obtain ⟨-, herror, hok⟩ := reload_eq formats files s path?
    rw [Loading.perform, Loading.path]
    cases hload : (s.load files (path?.getD s.file) formats).result with
    | error e => simp [herror e hload, Except.map]
    | ok a =>
      obtain ⟨entries, -, hentries⟩ := hok hload
      simp [hentries, Except.map]

/-- A call that fails changes nothing. -/
theorem perform_failed (hfiles : TextKeys formats files) {e : Failure}
    (h : (c.perform formats files s).result = .error e) :
    (c.perform formats files s).settings = s := by
  rw [settings_perform]
  cases hload : (s.load files (c.path s) formats).result with
  | error e' => exact load_failed hfiles hload
  | ok a =>
    obtain ⟨a, ha⟩ := (result_perform_eq_ok c s).2 hload
    cases h.symm.trans ha

/-- A call that does not fail notes its file and gives each setting its value there. -/
theorem perform_succeeded (hfiles : TextKeys formats files) {a : Option Value}
    (h : (c.perform formats files s).result = .ok a) :
    (c.perform formats files s).settings.file = c.path s ∧
      ∀ k, (c.perform formats files s).settings.get k =
        (valueIn formats files k (c.path s)).getD (s.get k) := by
  obtain ⟨entries, hassigns⟩ := assigns_of_load ((result_perform_eq_ok c s).1 ⟨a, h⟩)
  rw [settings_perform]
  exact (load_of_textKeys hfiles hassigns s).2

/-- Each setting has the value that the last file with a value for it has, of those that were
loaded. -/
theorem get_loadAll (hfiles : TextKeys formats files) (s : Settings) (calls : List Loading)
    (k : Setting) : (loadAll formats files s calls).get k =
      ((loaded formats files s calls).reverse.findSome? (valueIn formats files k)).getD
        (s.get k) := by
  induction calls generalizing s with
  | nil => rfl
  | cons c rest ih =>
    have hrest := ih (c.perform formats files s).settings
    rw [loadAll, List.foldl_cons, ← loadAll, hrest, loaded]
    cases hresult : (c.perform formats files s).result with
    | error e =>
      dsimp only
      rw [perform_failed hfiles hresult]
    | ok a =>
      dsimp only
      rw [(perform_succeeded hfiles hresult).2, List.reverse_cons, List.findSome?_append]
      cases List.findSome? (valueIn formats files k) _ with
      | some v => rfl
      | none =>
        rw [Option.none_or, List.findSome?_singleton]
        rfl

/-- The file that is noted is the one that was loaded last. -/
theorem file_loadAll (hfiles : TextKeys formats files) (s : Settings) (calls : List Loading) :
    (loadAll formats files s calls).file = (loaded formats files s calls).getLast?.getD s.file := by
  induction calls generalizing s with
  | nil => rfl
  | cons c rest ih =>
    have hrest := ih (c.perform formats files s).settings
    rw [loadAll, List.foldl_cons, ← loadAll, hrest, loaded]
    cases hresult : (c.perform formats files s).result with
    | error e =>
      dsimp only
      rw [perform_failed hfiles hresult]
    | ok a =>
      dsimp only
      rw [(perform_succeeded hfiles hresult).1, List.getLast?_cons]
      rfl

theorem viewMode?_eq (s : Settings) : s.viewMode? = some s.defaultView := by
  unfold viewMode? get
  cases s.defaultView <;> rfl

/-! ## Other files with the same settings -/

/-- The same files can be read, and their entries for settings are the same, in whatever order.
Other entries do not count. -/
def SameSettings (formats : Formats) (files files' : Files) : Prop :=
  ∀ path,
    match readFile formats files path, readFile formats files' path with
    | .ok entries, .ok entries' => (entries.filter isAssigned).Perm (entries'.filter isAssigned)
    | .error _, .error _ => True
    | _, _ => False

theorem SameSettings.symm (h : SameSettings formats files files') :
    SameSettings formats files' files := by
  intro path
  have hpath := h path
  revert hpath
  cases readFile formats files path <;> cases readFile formats files' path <;> intro hpath
  · trivial
  · exact hpath
  · exact hpath
  · exact List.Perm.symm hpath

theorem SameSettings.readFile {path : String} {entries : List (Scalar × Value)}
    (h : SameSettings formats files files') (hread : readFile formats files path = .ok entries) :
    ∃ entries', Settings.readFile formats files' path = .ok entries' ∧
      ∀ k : Setting, Value.field? k.key entries = Value.field? k.key entries' := by
  have hpath := h path
  rw [hread] at hpath
  cases hread' : Settings.readFile formats files' path with
  | error e =>
    rw [hread'] at hpath
    exact hpath.elim
  | ok entries' =>
    rw [hread'] at hpath
    exact ⟨entries', rfl, field?_congr (distinct_readFile hread) (distinct_readFile hread') hpath⟩

theorem SameSettings.assigns {path : String} {entries : List (Scalar × Value)}
    (h : SameSettings formats files files') (hassigns : Assigns formats files path entries) :
    ∃ entries', Assigns formats files' path entries' := by
  obtain ⟨entries', hread', hsame⟩ := h.readFile hassigns.1
  exact ⟨entries', hread', fun v hv => hassigns.2 v ((hsame .defaultView).trans hv)⟩

theorem SameSettings.valueIn (h : SameSettings formats files files') (k : Setting) (path : String) :
    valueIn formats files k path = Settings.valueIn formats files' k path := by
  unfold Settings.valueIn
  cases hread : Settings.readFile formats files path with
  | ok entries =>
    obtain ⟨entries', hread', hsame⟩ := h.readFile hread
    rw [hread']
    exact hsame k
  | error e =>
    cases hread' : Settings.readFile formats files' path with
    | error e' => rfl
    | ok entries' =>
      obtain ⟨entries, hread'', -⟩ := h.symm.readFile hread'
      cases hread.symm.trans hread''

/-- Loading a file depends on its entries for settings only. -/
theorem load_congr (hfiles : TextKeys formats files) (hfiles' : TextKeys formats files')
    (h : SameSettings formats files files') (path : String) (s : Settings) :
    (s.load files path formats).settings = (s.load files' path formats).settings := by
  by_cases hassigns : ∃ entries, Assigns formats files path entries
  · obtain ⟨entries, hassigns⟩ := hassigns
    obtain ⟨entries', hassigns'⟩ := h.assigns hassigns
    obtain ⟨-, hfile, hget⟩ := load_of_textKeys hfiles hassigns s
    obtain ⟨-, hfile', hget'⟩ := load_of_textKeys hfiles' hassigns' s
    refine eq_of_get (hfile.trans hfile'.symm) fun k => ?_
    rw [hget, hget', h.valueIn]
  · have hassigns' : ¬ ∃ entries, Assigns formats files' path entries := by
      rintro ⟨entries, h'⟩
      exact hassigns (h.symm.assigns h')
    rw [(load_of_not_assigns (fun entries h => hassigns ⟨entries, h⟩) s).1,
      (load_of_not_assigns (fun entries h => hassigns' ⟨entries, h⟩) s).1]

theorem loadAll_congr (hfiles : TextKeys formats files) (hfiles' : TextKeys formats files')
    (h : SameSettings formats files files') (s : Settings) (calls : List Loading) :
    loadAll formats files s calls = loadAll formats files' s calls := by
  induction calls generalizing s with
  | nil => rfl
  | cons c rest ih =>
    have hstep : (c.perform formats files s).settings = (c.perform formats files' s).settings := by
      rw [settings_perform, settings_perform, load_congr hfiles hfiles' h]
    have hrest := ih (c.perform formats files s).settings
    rw [loadAll, List.foldl_cons, ← loadAll, hrest, hstep]
    rfl

/-- A reload answers the document of a file that settings are assigned from. -/
theorem reload_eq_ok (hfiles : TextKeys formats files) {path? : Option String} {v : Value} :
    (s.reload files path? formats).result = .ok v ↔ ∃ entries, v = .map entries ∧
      Assigns formats files (path?.getD s.file) entries ∧ (s.reload files path? formats).settings =
        ({ s with file := path?.getD s.file }.assignAll entries).1 := by
  obtain ⟨hsettings, herror, hok⟩ := reload_eq formats files s path?
  constructor
  · intro h
    cases hload : (s.load files (path?.getD s.file) formats).result with
    | error e => cases h.symm.trans (herror e hload)
    | ok a =>
      obtain ⟨entries, hassigns, hresult⟩ := hok hload
      cases h.symm.trans hresult
      have hassigned := congrArg Prod.fst (load_of_assigns hassigns s)
      exact ⟨entries, rfl, hassigns, hsettings.trans hassigned⟩
  · rintro ⟨entries, rfl, hassigns, -⟩
    obtain ⟨entries', hassigns', hresult⟩ := hok (load_of_textKeys hfiles hassigns s).1
    cases hassigns.1.symm.trans hassigns'.1
    exact hresult

/-- A call succeeds if and only if settings are assigned from its file. -/
theorem perform_succeeds_iff (hfiles : TextKeys formats files) (s : Settings) (c : Loading) :
    (∃ a, (c.perform formats files s).result = .ok a) ↔
      ∃ entries, Assigns formats files (c.path s) entries := by
  rw [result_perform_eq_ok]
  exact ⟨assigns_of_load, fun ⟨_, h⟩ => (load_of_textKeys hfiles h s).1⟩

/-- Files with texts for keys are loaded one after the other. A call fails if its file cannot be
read or names a mode that there is not, and changes nothing then; a reload answers the document that
it has assigned. In the end each setting has the value that the last file with a value for it has,
of those that were loaded, or the one that it had before; the file that is noted is the one that was
loaded last; and there is a mode to open views in. Other entries of the files, and the order of
entries, do not matter. -/
theorem loadAll_layers (hfiles : TextKeys formats files) (s : Settings) (calls : List Loading) :
    (∀ (s : Settings) (c : Loading), (∃ a, (c.perform formats files s).result = .ok a) ↔
      ∃ entries, Assigns formats files (c.path s) entries) ∧
    (∀ (s : Settings) (c : Loading) (e : Failure), (c.perform formats files s).result = .error e →
      (c.perform formats files s).settings = s) ∧
    (∀ (s : Settings) (path? : Option String) (v : Value),
      (s.reload files path? formats).result = .ok v ↔ ∃ entries, v = .map entries ∧
        Assigns formats files (path?.getD s.file) entries ∧
          (s.reload files path? formats).settings =
            ({ s with file := path?.getD s.file }.assignAll entries).1) ∧
    (∀ k, (loadAll formats files s calls).get k =
      ((loaded formats files s calls).reverse.findSome? (valueIn formats files k)).getD (s.get k)) ∧
    (loadAll formats files s calls).file = (loaded formats files s calls).getLast?.getD s.file ∧
    (∃ m, (loadAll formats files s calls).viewMode? = some m) ∧
    ∀ files', TextKeys formats files' → SameSettings formats files files' →
      loadAll formats files' s calls = loadAll formats files s calls :=
  ⟨perform_succeeds_iff hfiles, fun _ _ _ h => perform_failed hfiles h,
    fun _ _ _ => reload_eq_ok hfiles, get_loadAll hfiles s calls, file_loadAll hfiles s calls,
    ⟨_, viewMode?_eq _⟩, fun _ hfiles' h => (loadAll_congr hfiles hfiles' h s calls).symm⟩

/-- Files are known to have texts for keys once the listed ones were read. -/
theorem textKeys_of_all (h : (files.all fun f =>
    match readFile formats files f.1 with
    | .ok entries => entries.all fun e => e.1.isText
    | .error _ => true) = true) : TextKeys formats files := by
  intro path entries hread
  have hlisted : ∃ f ∈ files, f.1 = path := by
    unfold readFile at hread
    split at hread
    · cases hread
    · rename_i f hfound
      have hpath := List.find?_some hfound
      exact ⟨_, List.mem_of_find?_eq_some hfound, beq_iff_eq.1 hpath⟩
  obtain ⟨f, hf, rfl⟩ := hlisted
  have htexts := List.all_eq_true.1 h f hf
  rw [hread] at htexts
  exact List.all_eq_true.1 htexts

/-- Two files in different formats. -/
def mixed : Files :=
  [("/first.json", "\x7b\"node_text\": \"x\", \"log_level\": \"debug\"\x7d"),
    ("/second.yaml", "\"view_mode\": \"x\"\n\"node_text\": \"y\"\n")]

/-- Loads both files of `mixed` and one that is missing, and then the last one again that was
there. -/
def mixedCalls : List Loading :=
  [.load "/first.json", .reload (some "/second.yaml"), .load "/third.json", .reload none]

theorem textKeys_mixed : TextKeys .standard mixed := textKeys_of_all (by decide +kernel)

theorem loaded_mixed :
    loaded .standard mixed {} mixedCalls = ["/first.json", "/second.yaml", "/second.yaml"] := by
  decide +kernel

theorem loadAll_layers_mixed : TextKeys .standard mixed ∧
    (loadAll .standard mixed {} mixedCalls).file = "/second.yaml" ∧
    ∀ k, (loadAll .standard mixed {} mixedCalls).get k =
      (["/second.yaml", "/second.yaml", "/first.json"].findSome? (valueIn .standard mixed k)).getD
        (({} : Settings).get k) := by
  obtain ⟨-, -, -, hget, hfile, -, -⟩ := loadAll_layers textKeys_mixed {} mixedCalls
  rw [loaded_mixed] at hfile
  rw [loaded_mixed] at hget
  exact ⟨textKeys_mixed, hfile, hget⟩

end Settings

end SnapshotViewer
