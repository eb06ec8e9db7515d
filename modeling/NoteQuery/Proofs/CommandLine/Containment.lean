import NoteQuery.CommandLine.Run
import NoteQuery.Proofs.Display.FirstWord
import NoteQuery.Proofs.Settings.Sources

/-!
# Errors that stay inside

An error in a command is caught, printed and told by the exit status. Three kinds of errors are
not caught: settings are loaded and the log level is set up before any command starts, and
printing the message of an error may fail itself, since the message is markup and the output may
not take it. Nothing else gets out, whatever the console that prints.
-/
namespace NoteQuery.CommandLine

/-- An outcome in good order: success, or a line that starts with the label of an error. -/
def Outcome.IsContained : Outcome → Prop
  | .exited 0 _ => True
  | .exited 1 output => Text.HasLine errorLabel output
  | _ => False

instance : (o : Outcome) → Decidable o.IsContained
  | .exited 0 _ => .isTrue trivial
  | .exited 1 output => inferInstanceAs (Decidable (Text.HasLine errorLabel output))
  | .exited (_ + 2) _ => .isFalse id
  | .settingsFault _ => .isFalse id
  | .logLevelFault _ => .isFalse id
  | .printFault _ => .isFalse id

/-- A value that has a text, which names no other thing than a log level. -/
def IsLevel (v : Value) : Prop :=
  v.isWritable = true ∧
    v.toText.flatMap LogLevel.capitals ∉ ["BASIC_FORMAT".toList, "_STYLES".toList]

/-- The settings file that is asked for; an empty name asks for none. -/
def Invocation.askedFile (i : Invocation) : Option FilePath :=
  match i.settingsFile with
  | some [] => none
  | file => file.map FilePath.ofText

section

variable (m : Machine) (settings : Settings) (st : Printed m.console) (e : Failure)

/-- What comes of printing an error behind what has been printed before. -/
def printError : Except PrintFault Text × m.console.State :=
  m.console.print (isColoured settings) st.state (errorBlock e)

/-- An error is printed, and a line of the output starts with its label. -/
def Reports : Prop :=
  ∃ s, (printError m settings st e).1 = .ok s ∧ Text.HasLine errorLabel (st.output ++ s)

end

/-! ## What comes before a command -/

theorem exists_settingsOf_iff {around : Surroundings} {i : Invocation}
    (hnames : Settings.NameSettingsOnly around i.askedFile) :
    (∃ settings, settingsOf around i = .ok settings) ↔ Settings.AreReadable around i.askedFile := by
  have hsettings : settingsOf around i = Settings.load around i.askedFile >>= _ := rfl
  rw [hsettings]
  constructor
  · rintro ⟨settings, h⟩
    obtain ⟨loaded, hloaded, -⟩ := bind_eq_ok_iff.mp h
    exact ((Settings.load_eq_ok_iff hnames).mp hloaded).1
  · intro h
    obtain ⟨loaded, hloaded, -⟩ := Settings.load_of_areReadable h hnames
    exact ⟨_, bind_eq_ok_iff.mpr ⟨loaded, hloaded, rfl⟩⟩

theorem isLevel_iff {v : Value} :
    IsLevel v ↔ ∃ name, levelName v = .ok name ∧ LogLevel.check name = .ok () := by
  rw [IsLevel, levelName]
  cases v.isWritable with
  | false =>
    refine iff_of_false ?_ ?_
    · rintro ⟨hwritable, -⟩
      cases hwritable
    · rintro ⟨_, hname, -⟩
      cases hname
  | true =>
    have hcheck : LogLevel.check v.toText = .ok () ↔
        v.toText.flatMap LogLevel.capitals ∉ ["BASIC_FORMAT".toList, "_STYLES".toList] := by
      simp only [LogLevel.check, List.mem_cons, List.not_mem_nil, or_false, not_or, beq_iff_eq]
      split_ifs with hformat hstyles
      · exact iff_of_false (by rintro ⟨⟩) fun h => h.1 hformat
      · exact iff_of_false (by rintro ⟨⟩) fun h => h.2 hstyles
      · exact iff_of_true rfl ⟨hformat, hstyles⟩
    rw [← hcheck]
    constructor
    · rintro ⟨-, h⟩
      exact ⟨_, rfl, h⟩
    · rintro ⟨_, hname, h⟩
      cases hname
      exact ⟨rfl, h⟩

/-! ## What comes behind it -/

variable {m : Machine} {settings : Settings} {around : Surroundings} {clock : Moment}

theorem fail_isContained_iff {st : Printed m.console} {e : Failure} :
    (fail m settings st e).IsContained ↔ Reports m settings st e := by
  rw [fail, Machine.print, Reports, printError]
  obtain ⟨result, state⟩ := m.console.print (isColoured settings) st.state (errorBlock e)
  cases result with
  | error fault =>
    constructor
    · exact False.elim
    · rintro ⟨_, ⟨⟩, -⟩
  | ok s =>
    constructor
    · exact fun h => ⟨s, rfl, h⟩
    · rintro ⟨_, ⟨⟩, h⟩
      exact h

theorem fail_ne_success {st : Printed m.console} {e : Failure} {output : Text} :
    fail m settings st e ≠ .exited 0 output := by
  rw [fail]
  split <;> nofun

/-- A command leaves no line open. -/
theorem runCommand_endsLine {width : Nat} (h : m.console.LaysOut width) {command : Command}
    {fault : Option Failure} {st : Printed m.console}
    (hrun : runCommand m settings around clock command = (fault, st)) : st.output.EndsLine := by
  rw [runCommand] at hrun
  split at hrun
  · cases hrun
    exact Or.inl rfl
  · generalize hall : m.printAll (isColoured settings) {} _ = printed at hrun
    obtain ⟨printFault, st'⟩ := printed
    cases hrun
    exact Machine.printAll_endsLine h hall (Or.inl rfl)

/-- On a console that keeps words at the start of lines, an error is reported if it can be
printed at all. -/
theorem reports_iff_isOk {width : Nat} (h : m.console.LaysOut width)
    (hwidth : errorLabel.length ≤ width) {st : Printed m.console} (hst : st.output.EndsLine)
    (e : Failure) :
    Reports m settings st e ↔ (printError m settings st e).1.isOk = true := by
  constructor
  · rintro ⟨s, hs, -⟩
    rw [hs]
    rfl
  · intro hok
    cases hprint : printError m settings st e with
    | mk result state =>
      cases result with
      | error fault =>
        rw [hprint] at hok
        cases hok
      | ok s =>
        have hline : Text.HasLine errorLabel s :=
          h.hasLine "red" "Error".toList e.message (by decide) (List.all_eq_true.mp (by decide))
            (by decide) (List.all_eq_true.mp (by decide)) hwidth hprint
        exact ⟨s, by rw [hprint], hst.hasLine_append hline⟩

/-! ## Containment -/

/-- With its settings and its log level in place, an invocation runs its command. -/
theorem run_of_isLevel {args : List Text} {i : Invocation}
    (h : Invocation.ofArguments args = .ok i) (hsettings : settingsOf around i = .ok settings)
    (hlevel : IsLevel (settings .logLevel)) (clock : Moment) :
    run m args around clock =
      match runCommand m settings around clock i.command with
      | (none, st) => .exited 0 st.output
      | (some e, st) => fail m settings st e := by
  obtain ⟨name, hname, hcheck⟩ := isLevel_iff.mp hlevel
  cases hcommand : runCommand m settings around clock i.command with
  | mk fault st => cases fault <;> simp only [run, h, hsettings, hname, hcheck, hcommand]

/-- Each step in front of a command ends an invocation that it fails in. -/
theorem run_of_not_isLevel {args : List Text} {i : Invocation}
    (h : Invocation.ofArguments args = .ok i)
    (hnone : ∀ settings, settingsOf around i = .ok settings → ¬IsLevel (settings .logLevel))
    (clock : Moment) : (∃ e, run m args around clock = .settingsFault e) ∨
      ∃ e, run m args around clock = .logLevelFault e := by
  cases hsettings : settingsOf around i with
  | error e => exact Or.inl ⟨e, by simp only [run, h, hsettings]⟩
  | ok settings =>
    have hnot := hnone settings hsettings
    rw [isLevel_iff] at hnot
    cases hname : levelName (settings .logLevel) with
    | error e => exact Or.inl ⟨e, by simp only [run, h, hsettings, hname]⟩
    | ok name =>
      cases hcheck : LogLevel.check name with
      | error e => exact Or.inr ⟨e, by simp only [run, h, hsettings, hname, hcheck]⟩
      | ok _ => exact absurd ⟨name, hname, hcheck⟩ hnot

theorem isContained_iff_exists {args : List Text} {i : Invocation}
    (h : Invocation.ofArguments args = .ok i) (clock : Moment) :
    (run m args around clock).IsContained ↔
      ∃ settings, settingsOf around i = .ok settings ∧ IsLevel (settings .logLevel) ∧
        ∀ e st, runCommand m settings around clock i.command = (some e, st) →
          Reports m settings st e := by
  by_cases hready : ∃ settings, settingsOf around i = .ok settings ∧ IsLevel (settings .logLevel)
  · obtain ⟨settings, hsettings, hlevel⟩ := hready
    have hiff : (∃ s, settingsOf around i = .ok s ∧ IsLevel (s .logLevel) ∧
        ∀ e st, runCommand m s around clock i.command = (some e, st) → Reports m s st e) ↔
          ∀ e st, runCommand m settings around clock i.command = (some e, st) →
            Reports m settings st e := by
      constructor
      · rintro ⟨s, hs, -, h⟩
        obtain rfl := Except.ok.inj (hs.symm.trans hsettings)
        exact h
      · exact fun h => ⟨settings, hsettings, hlevel, h⟩
    rw [hiff, run_of_isLevel h hsettings hlevel]
    generalize runCommand m settings around clock i.command = answer
    obtain ⟨fault, st⟩ := answer
    cases fault with
    | none => exact iff_of_true trivial nofun
    | some e =>
      refine fail_isContained_iff.trans ⟨fun h _ _ he => ?_, fun h => h e st rfl⟩
      cases he
      exact h
  · refine iff_of_false ?_ fun ⟨settings, hsettings, hlevel, _⟩ =>
      hready ⟨settings, hsettings, hlevel⟩
    rcases run_of_not_isLevel (m := m) h (fun s hs hl => hready ⟨s, hs, hl⟩) clock with
      ⟨e, hrun⟩ | ⟨e, hrun⟩
    · rw [hrun]
      exact id
    · rw [hrun]
      exact id

/-- An invocation succeeds exactly if its command does. -/
theorem run_eq_success_iff {args : List Text} {i : Invocation}
    (h : Invocation.ofArguments args = .ok i) (clock : Moment) (output : Text) :
    run m args around clock = .exited 0 output ↔
      ∃ settings, settingsOf around i = .ok settings ∧ IsLevel (settings .logLevel) ∧
        ∃ st, runCommand m settings around clock i.command = (none, st) ∧ st.output = output := by
  constructor
  · intro hrun
    by_cases hready : ∃ settings, settingsOf around i = .ok settings ∧ IsLevel (settings .logLevel)
    · obtain ⟨settings, hsettings, hlevel⟩ := hready
      refine ⟨settings, hsettings, hlevel, ?_⟩
      rw [run_of_isLevel h hsettings hlevel] at hrun
      generalize runCommand m settings around clock i.command = answer at hrun
      obtain ⟨fault, st⟩ := answer
      cases fault with
      | none =>
        cases hrun
        exact ⟨st, rfl, rfl⟩
      | some e => exact absurd hrun fail_ne_success
    · rcases run_of_not_isLevel (m := m) h (fun s hs hl => hready ⟨s, hs, hl⟩) clock with
        ⟨e, hother⟩ | ⟨e, hother⟩
      · rw [hother] at hrun
        cases hrun
      · rw [hother] at hrun
        cases hrun
  · rintro ⟨settings, hsettings, hlevel, st, hcommand, rfl⟩
    rw [run_of_isLevel h hsettings hlevel, hcommand]

/-- A folder that holds nothing but, perhaps, a settings file. -/
def besideSettings (entry : FileEntry) : Surroundings where
  find p := if p = .ofText "notefilter.toml".toList then entry else .missing
  userFile := some (.ofText "config.toml".toList)
  environment := []

def noonArguments : List Text :=
  ["parse".toList, "a".toList, "--now".toList, "noon".toList]

/-- A byte of an argument that is no text. -/
def strayByte : Text := [Text.ofCodePoint 0xdcff]

/-- Arguments are accepted and, beside a settings file, do not end in good order. -/
def GetsOut (args : List Text) (file : FileEntry) : Prop :=
  (Invocation.ofArguments args).isOk = true ∧
    ¬(run (.screen .universal) args (besideSettings file) ⟨.first, none⟩).IsContained

instance (args : List Text) (file : FileEntry) : Decidable (GetsOut args file) :=
  inferInstanceAs (Decidable (_ ∧ _))

end NoteQuery.CommandLine
