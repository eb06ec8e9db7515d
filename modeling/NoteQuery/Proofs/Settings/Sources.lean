import NoteQuery.Proofs.Note.Escaping
import NoteQuery.Settings

/-!
# Where a setting comes from

The sources of settings stand above one another: the environment, the file asked for, the
first local file, the user's file and the defaults. A setting is decided by the highest source
that says something about it. What a file says is taken as it stands. A variable only has a
text, which is read as a boolean where the sources below come to one: this, and nothing else
that they say, shows in the setting. All this is so as long as no source names another attribute
than a setting.
-/
namespace NoteQuery

theorem Setting.ofName?_eq_some_iff {name : Text} {k : Setting} :
    ofName? name = some k ↔ name = k.name := by
  constructor
  · intro h
    have hname : (k.name == name) = true :=
      List.find?_some (p := fun k : Setting => k.name == name) h
    exact (beq_iff_eq.mp hname).symm
  · rintro rfl
    cases k <;> decide

theorem Setting.name_injective {j k : Setting} (h : j.name = k.name) : j = k :=
  Option.some.inj
    ((ofName?_eq_some_iff.mpr rfl).symm.trans (ofName?_eq_some_iff.mpr h))

/-- A name is the name of no attribute but, perhaps, a setting. -/
def NamesNoOther (name : Text) : Prop :=
  Attribute.ofName? name = (Setting.ofName? name).map .setting

instance (name : Text) : Decidable (NamesNoOther name) :=
  inferInstanceAs (Decidable (_ = _))

def Value.isBool : Value → Bool
  | .bool _ => true
  | _ => false

namespace Settings

/-! ## What entries and variables say -/

/-- The value of the last entry of a name. -/
def valueIn? (k : Setting) : List (Value × Value) → Option Value
  | [] => none
  | (name, v) :: rest => (valueIn? k rest).or (if name.toText = k.name then some v else none)

/-- The setting that a variable is named for, in letters of any case. -/
def settingOf? (name : Text) : Option Setting :=
  if variableStart.isPrefixOf name then
    Setting.ofName? (Text.lower (name.drop variableStart.length))
  else none

def variableIn? (k : Setting) : List (Text × Text) → Option Text
  | [] => none
  | (name, s) :: rest => (variableIn? k rest).or (if settingOf? name = some k then some s else none)

/-- One setting is set, the others are as they were. -/
theorem set_apply {p : Prop} [Decidable p] {s : Settings} {j k : Setting} {v w : Value}
    (hp : p ↔ k = j) (hw : k = j → w = v) : s.set j v k = if p then w else s k := by
  by_cases hk : k = j
  · rw [if_pos (hp.mpr hk), hw hk]
    exact if_pos hk
  · rw [if_neg (mt hp.mp hk)]
    exact if_neg hk

theorem setNamed_apply (s : Settings) (name : Text) (v : Value) (k : Setting) :
    s.setNamed name v k = if name = k.name then v else s k := by
  rw [setNamed]
  cases h : Setting.ofName? name with
  | none =>
    have hne : name ≠ k.name := by
      intro heq
      rw [Setting.ofName?_eq_some_iff.mpr heq] at h
      cases h
    exact (if_neg hne).symm
  | some j =>
    obtain rfl := Setting.ofName?_eq_some_iff.mp h
    have hname : j.name = k.name ↔ k = j :=
      ⟨fun heq => (Setting.name_injective heq).symm, fun heq => by rw [heq]⟩
    exact set_apply hname fun _ => rfl

theorem setNamed_overwritten (s : Settings) (name : Text) (v : Value) :
    (s.setNamed name v).overwritten = s.overwritten := by
  rw [setNamed]
  cases Setting.ofName? name <;> rfl

theorem assignNamed_eq {name : Text} (h : NamesNoOther name) (s : Settings) (v : Value) :
    s.assignNamed name v = .ok (s.setNamed name v) := by
  rw [assignNamed, h, setNamed]
  cases Setting.ofName? name <;> rfl

/-- Settings under entries of which only the settings count. -/
def mergeSettings (s : Settings) (entries : List (Value × Value)) : Settings :=
  entries.foldl (fun s (k, v) => s.setNamed k.toText v) s

theorem merge_eq {entries : List (Value × Value)} (h : ∀ e ∈ entries, NamesNoOther e.1.toText)
    (s : Settings) : s.merge entries = .ok (s.mergeSettings entries) := by
  induction entries generalizing s with
  | nil => rfl
  | cons e rest ih =>
    rw [List.forall_mem_cons] at h
    have hstep : s.merge (e :: rest) = s.assignNamed e.1.toText e.2 >>= (merge · rest) := rfl
    rw [hstep, assignNamed_eq h.1]
    exact ih h.2 _

theorem mergeSettings_overwritten (s : Settings) (entries : List (Value × Value)) :
    (s.mergeSettings entries).overwritten = s.overwritten := by
  induction entries generalizing s with
  | nil => rfl
  | cons e rest ih => exact (ih _).trans (setNamed_overwritten s _ _)

/-- Merging entries replaces what they say. -/
theorem mergeSettings_apply (s : Settings) (entries : List (Value × Value)) (k : Setting) :
    s.mergeSettings entries k = (valueIn? k entries).getD (s k) := by
  induction entries generalizing s with
  | nil => rfl
  | cons e rest ih =>
    obtain ⟨name, v⟩ := e
    rw [valueIn?]
    have hstep : s.mergeSettings ((name, v) :: rest) k =
        (s.setNamed name.toText v).mergeSettings rest k := rfl
    rw [hstep, ih, setNamed_apply]
    cases valueIn? k rest with
    | some w => rfl
    | none => by_cases hname : name.toText = k.name <;> simp [hname]

/-- A variable leaves booleans booleans, and texts texts. -/
theorem variableValue_variableValue (current : Value) (s t : Text) :
    variableValue (variableValue current s) t = variableValue current t := by
  cases current <;> rfl

/-- Settings under a variable for one of them. -/
def applySetting (s : Settings) (name value : Text) : Settings :=
  match settingOf? name with
  | some k => s.set k (variableValue (s k) value)
  | none => s

/-- A variable is named for no attribute but, perhaps, a setting. -/
def VariableNamesNoOther (name : Text) : Prop := attributeOf? name = (settingOf? name).map .setting

instance (name : Text) : Decidable (VariableNamesNoOther name) :=
  inferInstanceAs (Decidable (_ = _))

theorem applyVariable_eq {name : Text} (h : VariableNamesNoOther name) (s : Settings)
    (value : Text) : s.applyVariable name value = .ok (s.applySetting name value) := by
  rw [applyVariable, h, applySetting]
  cases settingOf? name <;> rfl

theorem applySetting_overwritten (s : Settings) (name value : Text) :
    (s.applySetting name value).overwritten = s.overwritten := by
  rw [applySetting]
  cases settingOf? name <;> rfl

theorem applySetting_apply (s : Settings) (name value : Text) (k : Setting) :
    s.applySetting name value k =
      if settingOf? name = some k then variableValue (s k) value else s k := by
  rw [applySetting]
  cases settingOf? name with
  | none => rfl
  | some j =>
    have hsame : some j = some k ↔ k = j :=
      ⟨fun heq => (Option.some.inj heq).symm, fun heq => by rw [heq]⟩
    exact set_apply hsame fun heq => by rw [heq]

/-- Settings under variables of which only those for settings count. -/
def applySettings (s : Settings) (environment : List (Text × Text)) : Settings :=
  environment.foldl (fun s (name, value) => s.applySetting name value) s

theorem applyEnvironment_eq {environment : List (Text × Text)}
    (h : ∀ e ∈ environment, VariableNamesNoOther e.1) (s : Settings) :
    s.applyEnvironment environment = .ok (s.applySettings environment) := by
  induction environment generalizing s with
  | nil => rfl
  | cons e rest ih =>
    rw [List.forall_mem_cons] at h
    have hstep : s.applyEnvironment (e :: rest) =
        s.applyVariable e.1 e.2 >>= (applyEnvironment · rest) := rfl
    rw [hstep, applyVariable_eq h.1]
    exact ih h.2 _

theorem applySettings_overwritten (s : Settings) (environment : List (Text × Text)) :
    (s.applySettings environment).overwritten = s.overwritten := by
  induction environment generalizing s with
  | nil => rfl
  | cons e rest ih => exact (ih _).trans (applySetting_overwritten s _ _)

/-- Of several variables for a setting the last counts, and is read as the first would be. -/
theorem applySettings_apply (s : Settings) (environment : List (Text × Text)) (k : Setting) :
    s.applySettings environment k =
      match variableIn? k environment with
      | some value => variableValue (s k) value
      | none => s k := by
  induction environment generalizing s with
  | nil => rfl
  | cons e rest ih =>
    obtain ⟨name, value⟩ := e
    have hstep : s.applySettings ((name, value) :: rest) k =
        (s.applySetting name value).applySettings rest k := rfl
    rw [hstep, ih, applySetting_apply, variableIn?]
    by_cases hname : settingOf? name = some k
    · cases variableIn? k rest with
      | some later => simp [hname, variableValue_variableValue]
      | none => simp [hname]
    · cases variableIn? k rest with
      | some later => simp [hname]
      | none => simp [hname]

def namedEntries (entries : List (Value × Value)) : List (Value × Value) :=
  entries.filter fun e => (Setting.ofName? e.1.toText).isSome

def namedVariables (environment : List (Text × Text)) : List (Text × Text) :=
  environment.filter fun e => (settingOf? e.1).isSome

theorem valueIn?_namedEntries (k : Setting) (entries : List (Value × Value)) :
    valueIn? k (namedEntries entries) = valueIn? k entries := by
  induction entries with
  | nil => rfl
  | cons e rest ih =>
    obtain ⟨name, v⟩ := e
    rw [namedEntries] at ih
    rw [namedEntries, List.filter_cons]
    by_cases hname : name.toText = k.name
    · rw [if_pos (by simp [Setting.ofName?_eq_some_iff.mpr hname]), valueIn?, valueIn?, ih]
    · split
      · rw [valueIn?, valueIn?, ih]
      · rw [ih, valueIn?, if_neg hname, Option.or_none]

theorem variableIn?_namedVariables (k : Setting) (environment : List (Text × Text)) :
    variableIn? k (namedVariables environment) = variableIn? k environment := by
  induction environment with
  | nil => rfl
  | cons e rest ih =>
    obtain ⟨name, value⟩ := e
    rw [namedVariables] at ih
    rw [namedVariables, List.filter_cons]
    by_cases hname : settingOf? name = some k
    · rw [if_pos (by simp [hname]), variableIn?, variableIn?, ih]
    · split
      · rw [variableIn?, variableIn?, ih]
      · rw [ih, variableIn?, if_neg hname, Option.or_none]

/-! ## Sources -/

inductive Source where
  | environment
  | askedFile
  | localFile
  | userFile
  | default
  deriving DecidableEq, Repr

def Source.rank : Source → Nat
  | environment => 0
  | askedFile => 1
  | localFile => 2
  | userFile => 3
  | default => 4

inductive Saying where
  /-- The text of a variable. -/
  | text (s : Text)
  | given (v : Value)

/-- The file of a source; of the local files it is the first one there. -/
def fileOf (around : Surroundings) (file : Option FilePath) : Source → FileEntry
  | .askedFile => (file.map around.find).getD .missing
  | .localFile => localEntry around.find localFiles
  | .userFile => (around.userFile.map around.find).getD .missing
  | _ => .missing

def entriesOf (entry : FileEntry) : List (Value × Value) :=
  match readFile entry with
  | .ok (some entries) => entries
  | _ => []

def sayingOf? (around : Surroundings) (file : Option FilePath) (k : Setting) :
    Source → Option Saying
  | .environment => (variableIn? k around.environment).map .text
  | .default => some (.given (defaultValue k))
  | source => (valueIn? k (entriesOf (fileOf around file source))).map .given

def underlying (around : Surroundings) (file : Option FilePath) (k : Setting) : Value :=
  let valueOf (source : Source) : Option Value := valueIn? k (entriesOf (fileOf around file source))
  (valueOf .askedFile).getD ((valueOf .localFile).getD ((valueOf .userFile).getD (defaultValue k)))

/-- There is a home directory, and each file is missing or can be read. -/
structure AreReadable (around : Surroundings) (file : Option FilePath) : Prop where
  home : ∃ p, around.userFile = some p
  files : ∀ source, ∃ entries, readFile (fileOf around file source) = .ok entries

/-- No file and no variable names another attribute than a setting. -/
structure NameSettingsOnly (around : Surroundings) (file : Option FilePath) : Prop where
  inFiles : ∀ source, ∀ e ∈ entriesOf (fileOf around file source), NamesNoOther e.1.toText
  inEnvironment : ∀ e ∈ around.environment, VariableNamesNoOther e.1

theorem call_eq_ok_iff {s : Settings} {o : Operation} :
    s.call o = .ok () ↔ s.overwritten o = none := by
  rw [call, typeInPlace?]
  cases s.overwritten o <;> simp

theorem mergeFile_eq_ok_iff {s t : Settings} {entry : FileEntry}
    (hnames : ∀ e ∈ entriesOf entry, NamesNoOther e.1.toText) (hs : s.overwritten .merge = none) :
    s.mergeFile entry = .ok t ↔
      (∃ entries, readFile entry = .ok entries) ∧ t = s.mergeSettings (entriesOf entry) := by
  rw [mergeFile, entriesOf] at *
  cases hread : readFile entry with
  | error e =>
    refine iff_of_false nofun ?_
    rintro ⟨⟨_, h⟩, -⟩
    cases h
  | ok found =>
    rw [hread] at hnames
    cases found with
    | none =>
      constructor
      · rintro ⟨⟩
        exact ⟨⟨none, rfl⟩, rfl⟩
      · rintro ⟨-, rfl⟩
        rfl
    | some entries =>
      have hmerged : (s.call .merge >>= fun _ => s.merge entries) =
          .ok (s.mergeSettings entries) := by
        rw [call_eq_ok_iff.mpr hs]
        exact merge_eq hnames s
      constructor
      · intro h
        exact ⟨⟨_, rfl⟩, Except.ok.inj (h.symm.trans hmerged)⟩
      · rintro ⟨-, rfl⟩
        exact hmerged

def mergeFiles (around : Surroundings) (file : Option FilePath) : Settings :=
  let entriesFrom (source : Source) := entriesOf (fileOf around file source)
  ((defaults.mergeSettings (entriesFrom .userFile)).mergeSettings
    (entriesFrom .localFile)).mergeSettings (entriesFrom .askedFile)

theorem mergeFiles_overwritten (around : Surroundings) (file : Option FilePath) :
    (mergeFiles around file).overwritten = fun _ => none := by
  simp only [mergeFiles, mergeSettings_overwritten]
  rfl

/-- Settings are loaded exactly if all files can be read. -/
theorem load_eq_ok_iff {around : Surroundings} {file : Option FilePath} {s : Settings}
    (hnames : NameSettingsOnly around file) :
    load around file = .ok s ↔ AreReadable around file ∧
      s = (mergeFiles around file).applySettings around.environment := by
  let entriesFrom (source : Source) := entriesOf (fileOf around file source)
  have hstep (s t : Settings) (source : Source) (hs : s.overwritten .merge = none) :
      s.mergeFile (fileOf around file source) = .ok t ↔
        (∃ entries, readFile (fileOf around file source) = .ok entries) ∧
          t = s.mergeSettings (entriesFrom source) :=
    mergeFile_eq_ok_iff (hnames.inFiles source) hs
  have hnone (t : Settings) (source : Source) (ht : t.overwritten .merge = none) :
      (t.mergeSettings (entriesFrom source)).overwritten .merge = none := by
    rw [mergeSettings_overwritten, ht]
  cases huser : around.userFile with
  | none =>
    refine iff_of_false (by rw [load, huser]; exact nofun) ?_
    rintro ⟨⟨⟨p, hp⟩, -⟩, -⟩
    rw [huser] at hp
    cases hp
  | some p =>
    have huserFile : fileOf around file .userFile = around.find p := by rw [fileOf, huser]; rfl
    have hload : load around file = defaults.mergeFile (fileOf around file .userFile) >>= fun s =>
        s.mergeFile (fileOf around file .localFile) >>= fun s =>
        s.mergeFile (fileOf around file .askedFile) >>= fun s =>
        s.call .applyEnvironment >>= fun _ => s.applyEnvironment around.environment := by
      rw [load, huser, huserFile]
      rfl
    have hend : ((mergeFiles around file).call .applyEnvironment >>= fun _ =>
        (mergeFiles around file).applyEnvironment around.environment) =
          .ok ((mergeFiles around file).applySettings around.environment) := by
      rw [call_eq_ok_iff.mpr (congrFun (mergeFiles_overwritten around file) _)]
      exact applyEnvironment_eq hnames.inEnvironment _
    have hdefaults : defaults.overwritten .merge = none := rfl
    rw [hload]
    constructor
    · intro h
      obtain ⟨s₁, h₁, h⟩ := bind_eq_ok_iff.mp h
      obtain ⟨huserRead, rfl⟩ := (hstep _ _ _ hdefaults).mp h₁
      obtain ⟨s₂, h₂, h⟩ := bind_eq_ok_iff.mp h
      obtain ⟨hlocalRead, rfl⟩ := (hstep _ _ _ (hnone _ _ hdefaults)).mp h₂
      obtain ⟨s₃, h₃, h⟩ := bind_eq_ok_iff.mp h
      obtain ⟨haskedRead, rfl⟩ := (hstep _ _ _ (hnone _ _ (hnone _ _ hdefaults))).mp h₃
      refine ⟨⟨⟨p, huser⟩, fun source => ?_⟩, Except.ok.inj (h.symm.trans hend)⟩
      cases source with
      | userFile => exact huserRead
      | localFile => exact hlocalRead
      | askedFile => exact haskedRead
      | environment => exact ⟨none, rfl⟩
      | default => exact ⟨none, rfl⟩
    · rintro ⟨⟨-, hfiles⟩, rfl⟩
      refine bind_eq_ok_iff.mpr ⟨_, (hstep _ _ _ hdefaults).mpr ⟨hfiles _, rfl⟩, ?_⟩
      refine bind_eq_ok_iff.mpr ⟨_, (hstep _ _ _ (hnone _ _ hdefaults)).mpr ⟨hfiles _, rfl⟩, ?_⟩
      exact bind_eq_ok_iff.mpr
        ⟨_, (hstep _ _ _ (hnone _ _ (hnone _ _ hdefaults))).mpr ⟨hfiles _, rfl⟩, hend⟩

theorem mergeFiles_apply (around : Surroundings) (file : Option FilePath) (k : Setting) :
    mergeFiles around file k = underlying around file k := by
  simp only [mergeFiles, mergeSettings_apply]
  rfl

theorem load_of_areReadable {around : Surroundings} {file : Option FilePath}
    (h : AreReadable around file) (hnames : NameSettingsOnly around file) :
    ∃ s, load around file = .ok s ∧ (∀ o, s.overwritten o = none) ∧ ∀ k,
      s k = match variableIn? k around.environment with
        | some value => variableValue (underlying around file k) value
        | none => underlying around file k := by
  refine ⟨_, (load_eq_ok_iff hnames).mpr ⟨h, rfl⟩, fun o => ?_, fun k => ?_⟩
  · rw [applySettings_overwritten, mergeFiles_overwritten]
  · rw [applySettings_apply, mergeFiles_apply]

/-! ## The highest source -/

/-- A source speaks about a setting, and none above it does. -/
def IsHighest (around : Surroundings) (file : Option FilePath) (k : Setting) (source : Source)
    (x : Saying) : Prop :=
  sayingOf? around file k source = some x ∧
    ∀ above, above.rank < source.rank → sayingOf? around file k above = none

/-- The value that a saying gives to a setting; a variable is read by what lies below it. -/
def Saying.value (below : Value) : Saying → Value
  | .text s => variableValue below s
  | .given v => v

/-- The defaults speak about every setting, so the highest source that does exists. -/
theorem exists_isHighest (around : Surroundings) (file : Option FilePath) (k : Setting) :
    ∃ source x, IsHighest around file k source x := by
  have hfrom (n : Nat) : ∀ source x, source.rank = n → sayingOf? around file k source = some x →
      ∃ source x, IsHighest around file k source x := by
    induction n using Nat.strong_induction_on with
    | _ n ih =>
      intro source x hrank hx
      by_cases habove : ∃ above, above.rank < source.rank ∧ sayingOf? around file k above ≠ none
      · obtain ⟨above, hlt, hsome⟩ := habove
        obtain ⟨y, hy⟩ := Option.ne_none_iff_exists'.mp hsome
        exact ih above.rank (hrank ▸ hlt) above y rfl hy
      · push Not at habove
        exact ⟨source, x, hx, habove⟩
  exact hfrom _ .default (.given (defaultValue k)) rfl rfl

/-- What a file or a default says at the highest place is taken as it stands. -/
theorem exists_given_of_isHighest {around : Surroundings} {file : Option FilePath} {k : Setting}
    {source : Source} {x : Saying} (h : IsHighest around file k source x)
    (hsource : source ≠ .environment) :
    variableIn? k around.environment = none ∧ x = .given (underlying around file k) := by
  obtain ⟨hx, habove⟩ := h
  have hrank : Source.environment.rank < source.rank := by
    cases source with
    | environment => exact absurd rfl hsource
    | _ => decide
  have henvironment : sayingOf? around file k .environment = none := habove .environment hrank
  have hnone (above : Source) (hfile : sayingOf? around file k above =
      (valueIn? k (entriesOf (fileOf around file above))).map .given)
      (hrank : above.rank < source.rank) :
      valueIn? k (entriesOf (fileOf around file above)) = none :=
    Option.map_eq_none_iff.mp (hfile.symm.trans (habove above hrank))
  refine ⟨Option.map_eq_none_iff.mp henvironment, ?_⟩
  cases source with
  | environment => exact absurd rfl hsource
  | askedFile =>
    obtain ⟨v, hv, rfl⟩ := Option.map_eq_some_iff.mp hx
    simp only [underlying, hv, Option.getD_some]
  | localFile =>
    obtain ⟨v, hv, rfl⟩ := Option.map_eq_some_iff.mp hx
    have hasked := hnone .askedFile rfl (by decide)
    simp only [underlying, hasked, hv, Option.getD_some, Option.getD_none]
  | userFile =>
    obtain ⟨v, hv, rfl⟩ := Option.map_eq_some_iff.mp hx
    have hasked := hnone .askedFile rfl (by decide)
    have hlocal := hnone .localFile rfl (by decide)
    simp only [underlying, hasked, hlocal, hv, Option.getD_some, Option.getD_none]
  | default =>
    have hasked := hnone .askedFile rfl (by decide)
    have hlocal := hnone .localFile rfl (by decide)
    have huser := hnone .userFile rfl (by decide)
    cases hx
    simp only [underlying, hasked, hlocal, huser, Option.getD_none]

/-- The highest source decides a setting. -/
theorem apply_of_isHighest {around : Surroundings} {file : Option FilePath} {k : Setting}
    {source : Source} {x : Saying} (h : IsHighest around file k source x) :
    (match variableIn? k around.environment with
      | some value => variableValue (underlying around file k) value
      | none => underlying around file k) = x.value (underlying around file k) := by
  by_cases hsource : source = .environment
  · subst hsource
    obtain ⟨value, hvalue, rfl⟩ := Option.map_eq_some_iff.mp h.1
    rw [hvalue]
    rfl
  · obtain ⟨hnone, rfl⟩ := exists_given_of_isHighest h hsource
    rw [hnone]
    rfl

theorem variableValue_eq (v : Value) (s : Text) :
    variableValue v s =
      if v.isBool then .bool (trueWords.contains (Text.lower s)) else .text s := by
  cases v <;> rfl

/-- A variable shows only whether it is read by a boolean. -/
theorem variableValue_eq_iff (v w : Value) (s : Text) :
    variableValue v s = variableValue w s ↔ v.isBool = w.isBool := by
  rw [variableValue_eq, variableValue_eq]
  cases v.isBool <;> cases w.isBool <;> simp

theorem value_eq_iff {a b : Surroundings} {f g : Option FilePath} {k : Setting} {source : Source}
    {x : Saying} (ha : IsHighest a f k source x) (hb : IsHighest b g k source x) :
    x.value (underlying a f k) = x.value (underlying b g k) ↔
      (source = .environment → (underlying a f k).isBool = (underlying b g k).isBool) := by
  by_cases hsource : source = .environment
  · subst hsource
    obtain ⟨value, -, rfl⟩ := Option.map_eq_some_iff.mp ha.1
    exact (variableValue_eq_iff _ _ value).trans ⟨fun h _ => h, fun h => h rfl⟩
  · obtain ⟨-, hx⟩ := exists_given_of_isHighest ha hsource
    exact iff_of_true (by rw [hx]; rfl) fun h => absurd h hsource

/-- Two loads of files that can be read. Each setting comes from the highest source that
speaks about it. If that is the same and says the same in both, and is no variable, then the
setting is the same, whatever the sources below say; a variable gives the same exactly if the
sources below come to a boolean in both or in neither. Entries and variables that are named
for no setting do not count. -/
theorem load_eq_iff_isBool (a b : Surroundings) (f g : Option FilePath) (ha : AreReadable a f)
    (hb : AreReadable b g) (hnamesa : NameSettingsOnly a f) (hnamesb : NameSettingsOnly b g) :
    ∃ s t, load a f = .ok s ∧ load b g = .ok t ∧
      (∀ k, ∃ source x, IsHighest a f k source x ∧ s k = x.value (underlying a f k)) ∧
      (∀ k source x, IsHighest a f k source x → IsHighest b g k source x →
        (s k = t k ↔ (source = .environment →
          (underlying a f k).isBool = (underlying b g k).isBool))) ∧
      ((∀ source, namedEntries (entriesOf (fileOf a f source)) =
          namedEntries (entriesOf (fileOf b g source))) →
        namedVariables a.environment = namedVariables b.environment → s = t) := by
  obtain ⟨s, hs, hsnone, hsvalue⟩ := load_of_areReadable ha hnamesa
  obtain ⟨t, ht, htnone, htvalue⟩ := load_of_areReadable hb hnamesb
  refine ⟨s, t, hs, ht, fun k => ?_, fun k source x hx hy => ?_, fun hentries hvariables => ?_⟩
  · obtain ⟨source, x, hx⟩ := exists_isHighest a f k
    exact ⟨source, x, hx, (hsvalue k).trans (apply_of_isHighest hx)⟩
  · rw [hsvalue k, htvalue k, apply_of_isHighest hx, apply_of_isHighest hy]
    exact value_eq_iff hx hy
  · have hvalues (k : Setting) (source : Source) :
        valueIn? k (entriesOf (fileOf a f source)) =
          valueIn? k (entriesOf (fileOf b g source)) := by
      rw [← valueIn?_namedEntries, hentries source, valueIn?_namedEntries]
    have hvalue : s.value = t.value := by
      funext k
      rw [hsvalue k, htvalue k, ← variableIn?_namedVariables, hvariables,
        variableIn?_namedVariables]
      simp only [underlying, hvalues]
    have hoverwritten : s.overwritten = t.overwritten :=
      funext fun o => (hsnone o).trans (htnone o).symm
    cases s
    cases t
    rw [Settings.mk.injEq]
    exact ⟨hvalue, hoverwritten⟩

/-! ## A variable above a local file -/

/-- A local file with a text, and a variable for the locale. -/
def besideLocale (text : Text) : Surroundings where
  find p := if p = .ofText "notefilter.toml".toList then .file (encodeText text) else .missing
  userFile := some (.ofText "config.toml".toList)
  environment := [("NOTEFILTER_LOCALE".toList, "en_US".toList)]

theorem isHighest_besideLocale (text : Text) :
    IsHighest (besideLocale text) none .locale .environment (.text "en_US".toList) := by
  have hname : settingOf? "NOTEFILTER_LOCALE".toList = some .locale := by decide
  have hvariable : variableIn? .locale (besideLocale text).environment = some "en_US".toList := by
    simp only [besideLocale, variableIn?, hname, if_true, Option.none_or]
  exact ⟨by simp only [sayingOf?, hvariable, Option.map_some], nofun⟩

theorem fileOf_besideLocale (text : Text) :
    fileOf (besideLocale text) none .localFile = .file (encodeText text) := rfl

theorem areReadable_besideLocale (text : Text)
    (h : (readFile (.file (encodeText text))).isOk = true) :
    AreReadable (besideLocale text) none := by
  refine ⟨⟨_, rfl⟩, fun source => ?_⟩
  cases source with
  | localFile =>
    rw [fileOf_besideLocale]
    cases hread : readFile (.file (encodeText text)) with
    | ok entries => exact ⟨entries, rfl⟩
    | error e =>
      rw [hread] at h
      cases h
  | _ => exact ⟨none, rfl⟩

theorem nameSettingsOnly_besideLocale (text : Text)
    (h : ∀ e ∈ entriesOf (.file (encodeText text)), NamesNoOther e.1.toText) :
    NameSettingsOnly (besideLocale text) none where
  inFiles source := by
    cases source with
    | localFile => rwa [fileOf_besideLocale]
    | _ => exact nofun
  inEnvironment := by
    intro e he
    obtain rfl := List.mem_singleton.mp he
    decide +kernel

/-- A text in the local file does not show through the variable. -/
theorem load_eq_iff_isBool_besideLocale :
    AreReadable (besideLocale "locale = 'fr'".toList) none ∧ AreReadable (besideLocale []) none ∧
      NameSettingsOnly (besideLocale "locale = 'fr'".toList) none ∧
      NameSettingsOnly (besideLocale []) none ∧
      ∃ s t, load (besideLocale "locale = 'fr'".toList) none = .ok s ∧
        load (besideLocale []) none = .ok t ∧ s .locale = t .locale := by
  have hfile := areReadable_besideLocale "locale = 'fr'".toList (by decide +kernel)
  have hempty := areReadable_besideLocale [] (by decide +kernel)
  have hnames := nameSettingsOnly_besideLocale "locale = 'fr'".toList (by decide +kernel)
  have hnone := nameSettingsOnly_besideLocale [] (by decide +kernel)
  obtain ⟨s, t, hs, ht, -, hiff, -⟩ := load_eq_iff_isBool _ _ none none hfile hempty hnames hnone
  refine ⟨hfile, hempty, hnames, hnone, s, t, hs, ht, ?_⟩
  refine (hiff _ _ _ (isHighest_besideLocale _) (isHighest_besideLocale _)).mpr fun _ => ?_
  decide +kernel

/-- A boolean in the local file makes a boolean of the variable. -/
theorem load_ne_besideLocale :
    ∃ s t, load (besideLocale "locale = true".toList) none = .ok s ∧
      load (besideLocale []) none = .ok t ∧
      IsHighest (besideLocale "locale = true".toList) none .locale .environment
        (.text "en_US".toList) ∧
      IsHighest (besideLocale []) none .locale .environment (.text "en_US".toList) ∧
      s .locale = .bool false ∧ t .locale = .text "en_US".toList := by
  have hfile := areReadable_besideLocale "locale = true".toList (by decide +kernel)
  have hempty := areReadable_besideLocale [] (by decide +kernel)
  have hnames := nameSettingsOnly_besideLocale "locale = true".toList (by decide +kernel)
  have hnone := nameSettingsOnly_besideLocale [] (by decide +kernel)
  have hhighest := isHighest_besideLocale "locale = true".toList
  have hhighestEmpty := isHighest_besideLocale []
  have hbool : (underlying (besideLocale "locale = true".toList) none .locale).isBool = true := by
    decide +kernel
  have htext : (underlying (besideLocale []) none .locale).isBool = false := by decide +kernel
  obtain ⟨s, hs, -, hsvalue⟩ := load_of_areReadable hfile hnames
  obtain ⟨t, ht, -, htvalue⟩ := load_of_areReadable hempty hnone
  refine ⟨s, t, hs, ht, hhighest, hhighestEmpty, ?_, ?_⟩
  · rw [hsvalue, apply_of_isHighest hhighest, Saying.value, variableValue_eq, hbool]
    rfl
  · rw [htvalue, apply_of_isHighest hhighestEmpty, Saying.value, variableValue_eq, htext]
    rfl

end Settings

end NoteQuery
