import NoteQuery.Proofs.Settings.Sources

/-!
# The settings of a process

What can happen while a process runs, in any order and any number: files are written, the
environment changes, settings are loaded for their own sake, and the settings of the process are
asked for or overridden. Its settings change in two ways only: a call that has to load replaces all
of them, unless the loading fails, and overrides replace what they name. So they are what was loaded
last, under the overrides since.
-/
namespace NoteQuery

/-! ## Overrides -/

/-- A value that says something. -/
def Value.notNull? : Value → Option Value
  | .null => none
  | v => some v

namespace ActiveSettings

/-- The last value other than null under the name of a setting. -/
def overrideIn? (k : Setting) : List (Text × Value) → Option Value
  | [] => none
  | (name, v) :: rest => (overrideIn? k rest).or (if name = k.name then v.notNull? else none)

theorem override_append (s : Settings) (front back : List (Text × Value)) :
    override s (front ++ back) = override (override s front) back :=
  List.foldl_append

theorem override_singleton_apply (s : Settings) (name : Text) (v : Value) (k : Setting) :
    override s [(name, v)] k = (if name = k.name then v.notNull? else none).getD (s k) := by
  cases v with
  | null =>
    rw [Value.notNull?, ite_self]
    rfl
  | _ =>
    refine (Settings.setNamed_apply s name _ k).trans ?_
    by_cases hname : name = k.name
    · rw [if_pos hname, if_pos hname]
      rfl
    · rw [if_neg hname, if_neg hname]
      rfl

/-- Overriding settings replaces what the overrides name. -/
theorem override_apply (s : Settings) (overrides : List (Text × Value)) (k : Setting) :
    override s overrides k = (overrideIn? k overrides).getD (s k) := by
  induction overrides generalizing s with
  | nil => rfl
  | cons e rest ih =>
    obtain ⟨name, v⟩ := e
    rw [← List.singleton_append, override_append, ih, override_singleton_apply,
      List.singleton_append, overrideIn?]
    cases overrideIn? k rest <;> rfl

/-! ## Asking for settings -/

/-- Settings are loaded if there are none, or if they are asked for anew. -/
def hasToLoad (a : ActiveSettings) (reload : Bool) : Bool := reload || a.current.isNone

variable {a : ActiveSettings} {around : Surroundings}

theorem get_of_current {s : Settings} (h : a.current = some s) (file : Option FilePath) :
    a.get around false file = (.ok s, ⟨some s⟩) := by
  obtain ⟨current⟩ := a
  obtain rfl : current = some s := h
  rfl

theorem get_of_hasToLoad {reload : Bool} (h : a.hasToLoad reload) (file : Option FilePath) :
    a.get around reload file =
      match Settings.load around file with
      | .ok s => (.ok s, ⟨some s⟩)
      | .error e => (.error e, a) := by
  obtain ⟨current⟩ := a
  cases current with
  | none => rfl
  | some s =>
    cases reload with
    | true => rfl
    | false => cases h

theorem hasToLoad_eq_false_iff {reload : Bool} :
    a.hasToLoad reload = false ↔ reload = false ∧ ∃ s, a.current = some s := by
  rw [hasToLoad, Bool.or_eq_false_iff, Option.isNone_eq_false_iff, Option.isSome_iff_exists]

/-- Asking for settings changes nothing if it fails, and else puts the answer in force. -/
theorem get_cases (a : ActiveSettings) (around : Surroundings) (reload : Bool)
    (file : Option FilePath) :
    (∃ e, a.get around reload file = (.error e, a)) ∨
      ∃ s, a.get around reload file = (.ok s, ⟨some s⟩) := by
  cases hload : a.hasToLoad reload with
  | true =>
    rw [get_of_hasToLoad hload]
    cases Settings.load around file with
    | error e => exact Or.inl ⟨e, rfl⟩
    | ok s => exact Or.inr ⟨s, rfl⟩
  | false =>
    obtain ⟨rfl, s, hs⟩ := hasToLoad_eq_false_iff.mp hload
    exact Or.inr ⟨s, get_of_current hs file⟩

end ActiveSettings

/-- The files and the environment that a process finds, and the settings that it has loaded. -/
structure Process where
  tree : FileTree
  userFile : Option FilePath
  environment : List (Text × Text)
  active : ActiveSettings := {}

namespace Process

inductive Step where
  | write (path : FilePath) (bytes : ByteArray)
  | setVariable (name value : Text)
  | dropVariable (name : Text)
  /-- The place of the user's settings changes, or there is none any more. -/
  | moveUserFile (path : Option FilePath)
  /-- Settings are loaded, but not for the process. -/
  | load (file : Option FilePath)
  | get (reload : Bool) (file : Option FilePath)
  | init (overrides : List (Text × Value))

def setVariable (name value : Text) : List (Text × Text) → List (Text × Text)
  | [] => [(name, value)]
  | (k, v) :: rest => if k = name then (k, value) :: rest else (k, v) :: setVariable name value rest

def around (p : Process) : Surroundings := ⟨p.tree.find, p.userFile, p.environment⟩

def use (p : Process) (s : Settings) : Process := { p with active := ⟨some s⟩ }

/-- What a step answers, if anything, and the process after it. -/
def step (p : Process) : Step → Option (Except SettingsError Settings) × Process
  | .write path bytes => (none, { p with tree := p.tree.write path bytes })
  | .setVariable name value =>
    (none, { p with environment := setVariable name value p.environment })
  | .dropVariable name => (none, { p with environment := p.environment.filter (·.1 ≠ name) })
  | .moveUserFile path => (none, { p with userFile := path })
  | .load file => (some (Settings.load p.around file), p)
  | .get reload file =>
    let (answer, active) := p.active.get p.around reload file
    (some answer, { p with active })
  | .init overrides =>
    let (answer, active) := p.active.init p.around overrides
    (some answer, { p with active })

def run (p : Process) (steps : List Step) : Process := steps.foldl (fun p a => (p.step a).2) p

namespace Step

/-- How a step asks for the settings of the process, if it does: whether anew, and with which
file. -/
def request? : Step → Option (Bool × Option FilePath)
  | get reload file => some (reload, file)
  | init _ => some (false, none)
  | _ => none

def overrides : Step → List (Text × Value)
  | init overrides => overrides
  | _ => []

end Step

/-- The loading that a step sets off to get settings for the process. -/
def loading? (p : Process) (a : Step) : Option (Except SettingsError Settings) :=
  a.request?.bind fun (reload, file) =>
    if p.active.hasToLoad reload then some (Settings.load p.around file) else none

open ActiveSettings (override overrideIn?)

/-! ## What a step does -/

variable {p : Process} {a : Step}

theorem overrides_of_request?_eq_none (h : a.request? = none) : a.overrides = [] := by
  cases a with
  | init overrides => cases h
  | _ => rfl

theorem active_step (h : a.request? = none) : (p.step a).2.active = p.active := by
  cases a with
  | get => cases h
  | init => cases h
  | _ => rfl

section Request

variable {reload : Bool} {file : Option FilePath} (hrequest : a.request? = some (reload, file))

include hrequest

theorem loading?_of_request? :
    p.loading? a =
      if p.active.hasToLoad reload then some (Settings.load p.around file) else none := by
  rw [loading?, hrequest, Option.bind_some]

/-- Asking for settings and overriding them are one step, with or without overrides. -/
theorem step_of_request? :
    p.step a = match p.active.get p.around reload file with
      | (.ok s, _) => (some (.ok (override s a.overrides)), p.use (override s a.overrides))
      | (.error e, _) => (some (.error e), p) := by
  cases a with
  | get reload file =>
    cases hrequest
    rw [step]
    rcases p.active.get_cases p.around reload file with ⟨e, hget⟩ | ⟨s, hget⟩
    · rw [hget]
    · rw [hget]
      rfl
  | init overrides =>
    cases hrequest
    rw [step, ActiveSettings.init]
    rcases p.active.get_cases p.around false none with ⟨e, hget⟩ | ⟨s, hget⟩
    · rw [hget]
    · rw [hget]
      rfl
  | _ => cases hrequest

/-- A request that does not load finds settings in force. -/
theorem exists_step_of_loading?_eq_none (h : p.loading? a = none) :
    ∃ s, p.active.current = some s ∧
      p.step a = (some (.ok (override s a.overrides)), p.use (override s a.overrides)) := by
  have hkeeps : p.active.hasToLoad reload = false := by
    simpa [loading?_of_request? hrequest] using h
  obtain ⟨rfl, s, hs⟩ := ActiveSettings.hasToLoad_eq_false_iff.mp hkeeps
  exact ⟨s, hs, by rw [step_of_request? hrequest, ActiveSettings.get_of_current hs]⟩

end Request

theorem step_of_loading? {loading : Except SettingsError Settings}
    (h : p.loading? a = some loading) :
    p.step a = match loading with
      | .ok s => (some (.ok (override s a.overrides)), p.use (override s a.overrides))
      | .error e => (some (.error e), p) := by
  obtain ⟨⟨reload, file⟩, hrequest, hload⟩ := Option.bind_eq_some_iff.mp h
  obtain ⟨hload, hfile⟩ := Option.ite_none_right_eq_some.mp hload
  rw [step_of_request? hrequest, ActiveSettings.get_of_hasToLoad hload, Option.some.inj hfile]
  cases loading <;> rfl

/-- Settings that are in force are loaded again by a reload only, and that overrides nothing. -/
theorem overrides_eq_nil_of_loading? {s : Settings} {loading : Except SettingsError Settings}
    (h : p.active.current = some s) (ha : p.loading? a = some loading) : a.overrides = [] := by
  cases a with
  | init overrides =>
    have hkeeps : p.active.hasToLoad false = false :=
      ActiveSettings.hasToLoad_eq_false_iff.mpr ⟨rfl, s, h⟩
    rw [loading?_of_request? rfl, hkeeps] at ha
    cases ha
  | _ => rfl

/-- Unless it loads, a step does no more than override. -/
theorem current_step (h : ∀ s, p.loading? a ≠ some (.ok s)) :
    (p.step a).2.active.current = p.active.current.map (override · a.overrides) := by
  have hnil (hoverrides : a.overrides = []) :
      p.active.current.map (override · a.overrides) = p.active.current := by
    rw [hoverrides]
    exact Option.map_id'
  cases hrequest : a.request? with
  | none => rw [active_step hrequest, hnil (overrides_of_request?_eq_none hrequest)]
  | some request =>
    cases hloading : p.loading? a with
    | none =>
      obtain ⟨s, hcurrent, hstep⟩ := exists_step_of_loading?_eq_none hrequest hloading
      rw [hstep, hcurrent, use, Option.map_some]
    | some loading =>
      cases loading with
      | ok s => exact absurd hloading (h s)
      | error e =>
        -- The step changed nothing, so its overrides must be shown to be none.
        rw [step_of_loading? hloading]
        cases hcurrent : p.active.current with
        | none => rfl
        | some s => rw [← hcurrent, hnil (overrides_eq_nil_of_loading? hcurrent hloading)]

/-! ## Runs -/

theorem run_append (p : Process) (front back : List Step) :
    p.run (front ++ back) = (p.run front).run back :=
  List.foldl_append

/-- No loading for the process succeeds in a run. -/
def LoadsNothing (p : Process) : List Step → Prop
  | [] => True
  | a :: rest => (∀ s, p.loading? a ≠ some (.ok s)) ∧ (p.step a).2.LoadsNothing rest

theorem all_loading?_iff :
    (p.loading? a).all (!·.isOk) ↔ ∀ s, p.loading? a ≠ some (.ok s) := by
  cases p.loading? a with
  | none => exact iff_of_true rfl nofun
  | some loading =>
    cases loading with
    | ok s => exact iff_of_false nofun fun h => h s rfl
    | error e => exact iff_of_true rfl nofun

instance decidableLoadsNothing :
    ∀ (p : Process) (steps : List Step), Decidable (p.LoadsNothing steps)
  | _, [] => inferInstanceAs (Decidable True)
  | p, a :: rest =>
    have : Decidable (∀ s, p.loading? a ≠ some (.ok s)) :=
      decidable_of_iff _ all_loading?_iff
    have : Decidable ((p.step a).2.LoadsNothing rest) := decidableLoadsNothing (p.step a).2 rest
    inferInstanceAs (Decidable (_ ∧ _))

/-- A loading for the process that succeeds, and is the last one in a run that does: the steps
before it, the one that sets it off, those behind it, and what is loaded. -/
structure IsLastLoading (p : Process) (front : List Step) (a : Step) (back : List Step)
    (loaded : Settings) : Prop where
  loads : (p.run front).loading? a = some (.ok loaded)
  last : ((p.run front).step a).2.LoadsNothing back

theorem loadsNothing_or_exists_isLastLoading (p : Process) (steps : List Step) :
    p.LoadsNothing steps ∨
      ∃ front a back loaded, steps = front ++ a :: back ∧ p.IsLastLoading front a back loaded := by
  induction steps generalizing p with
  | nil => exact Or.inl trivial
  | cons a rest ih =>
    -- The first step only counts if no loading behind it succeeds.
    rcases ih (p.step a).2 with hnothing | ⟨front, b, back, loaded, rfl, hloads, hlast⟩
    · by_cases hload : ∃ s, p.loading? a = some (.ok s)
      · obtain ⟨s, hs⟩ := hload
        exact Or.inr ⟨[], a, rest, s, rfl, hs, hnothing⟩
      · push Not at hload
        exact Or.inl ⟨hload, hnothing⟩
    · exact Or.inr ⟨a :: front, b, back, loaded, rfl, hloads, hlast⟩

/-- A run without a loading does no more than override. -/
theorem current_run {steps : List Step} (h : p.LoadsNothing steps) :
    (p.run steps).active.current =
      p.active.current.map (override · (steps.flatMap Step.overrides)) := by
  induction steps generalizing p with
  | nil => exact Option.map_id'.symm
  | cons a rest ih =>
    have hrest : (p.run (a :: rest)).active.current =
        (p.step a).2.active.current.map (override · (rest.flatMap Step.overrides)) := ih h.2
    rw [hrest, current_step h.1, Option.map_map, List.flatMap_cons]
    congr 1
    funext s
    exact (ActiveSettings.override_append s _ _).symm

theorem IsLastLoading.current_run {front back : List Step} {loaded : Settings}
    (h : p.IsLastLoading front a back loaded) :
    (p.run (front ++ a :: back)).active.current =
      some (override loaded ((a :: back).flatMap Step.overrides)) := by
  have hback : (p.run (front ++ a :: back)).active.current =
      ((p.run front).step a).2.active.current.map (override · (back.flatMap Step.overrides)) := by
    rw [run_append]
    exact Process.current_run h.last
  have hloaded : ((p.run front).step a).2.active.current = some (override loaded a.overrides) := by
    rw [step_of_loading? h.loads]
    rfl
  rw [hback, hloaded, Option.map_some, ← ActiveSettings.override_append, List.flatMap_cons]

end Process

end NoteQuery
