import NoteQuery.Proofs.CommandLine.Containment
import NoteQuery.Proofs.Note.JsonText
import NoteQuery.Proofs.Session.Searching

/-!
# Searches that print JSON

What a search prints as JSON is a snapshot of the notes that it found. Loaded again it gives
these notes, in their order, and the same search over it finds all of them and prints the same
text: notes that were loaded are in a form that loading leaves alone, and nothing that decides
whether a note matches is left out of its text.
-/
namespace NoteQuery

namespace CommandLine

/-! ## The arguments of a search -/

/-- A search of a file at a reference time, with its answer in JSON. -/
def searchArguments (query file now : Text) : List Text :=
  ["-o".toList, "json".toList, "search".toList, query, "--notes".toList, file, "--now".toList, now]

def searchInvocation (query file now : Text) : Invocation where
  settingsFile := none
  output := some "json".toList
  logLevel := none
  command := .search query file (some now)

theorem kindOf_ne_separator (options : Spellings) (s : Text) :
    kindOf options s ≠ .ok .separator := by
  simp only [kindOf]
  split
  · nofun
  split
  · nofun
  split
  · nofun
  generalize hexactly : Option.bind (Text.splitFirst? ['='] s) _ = exactly
  split
  · obtain ⟨_, -, hk⟩ := Option.bind_eq_some_iff.mp hexactly
    obtain ⟨o, -, rfl⟩ := Option.map_eq_some_iff.mp hk
    nofun
  · nofun
  · nofun
  · split <;> nofun

/-- An argument is the separator, or it has a kind and others follow. -/
theorem kinds_cons_cases {options : Spellings} {s : Text} {rest : List Text}
    {ks : List (Kind × Text)} (h : kinds options (s :: rest) = .ok ks) :
    (s = ['-', '-'] ∧ ks = (.separator, s) :: rest.map fun t => (.operand, t)) ∨
      ∃ k others, s ≠ ['-', '-'] ∧ kindOf options s = .ok k ∧ kinds options rest = .ok others ∧
        ks = (k, s) :: others := by
  rw [kinds] at h
  by_cases hs : s = ['-', '-']
  · rw [if_pos (beq_iff_eq.mpr hs)] at h
    cases h
    exact Or.inl ⟨hs, rfl⟩
  · rw [if_neg (mt beq_iff_eq.mp hs)] at h
    obtain ⟨k, hk, h⟩ := bind_eq_ok_iff.mp h
    obtain ⟨others, hothers, h⟩ := bind_eq_ok_iff.mp h
    cases h
    exact Or.inr ⟨k, others, hs, hk, hothers, rfl⟩

theorem map_snd_of_kinds {options : Spellings} {args : List Text} {ks : List (Kind × Text)}
    (h : kinds options args = .ok ks) : ks.map (·.2) = args := by
  induction args generalizing ks with
  | nil =>
    cases h
    rfl
  | cons s rest ih =>
    rcases kinds_cons_cases h with ⟨-, rfl⟩ | ⟨k, others, -, -, hothers, rfl⟩
    · simp
    · rw [List.map_cons, ih hothers]

theorem exists_of_kindOf {options : Spellings} {s : Text} {rest : List Text}
    {ks : List (Kind × Text)} {k : Kind} (h : kinds options (s :: rest) = .ok ks)
    (hs : s ≠ ['-', '-']) (hk : kindOf options s = .ok k) :
    ∃ others, ks = (k, s) :: others ∧ kinds options rest = .ok others := by
  rcases kinds_cons_cases h with ⟨hdash, -⟩ | ⟨_, others, -, hother, hrest, rfl⟩
  · exact absurd hdash hs
  · obtain rfl := Except.ok.inj (hk.symm.trans hother)
    exact ⟨others, rfl, hrest⟩

/-- Only an operand is an argument of its own. -/
theorem kinds_operand {options : Spellings} {s a : Text} {rest : List Text}
    {others : List (Kind × Text)} (h : kinds options (s :: rest) = .ok ((.operand, a) :: others)) :
    a = s ∧ kinds options rest = .ok others := by
  rcases kinds_cons_cases h with ⟨-, hks⟩ | ⟨k, ks, -, -, hrest, hks⟩
  · cases hks
  · cases hks
    exact ⟨rfl, hrest⟩

/-- An option without an argument attached to it takes the operand behind it. -/
theorem commandPart_option {fuel : Nat} {given : Given} {query : Option Text} {name : OptionName}
    {s : Text} {rest : List (Kind × Text)} {r : Given × Text}
    (h : commandPart (fuel + 1) given query ((.option (some name) none, s) :: rest) = .ok r) :
    ∃ a others, rest = (.operand, a) :: others ∧
      commandPart fuel ((name, a) :: given) query others = .ok r := by
  rw [commandPart] at h
  obtain ⟨⟨a, others⟩, hargument, h⟩ := bind_eq_ok_iff.mp h
  refine ⟨a, others, ?_, h⟩
  cases rest with
  | nil => cases name <;> cases hargument
  | cons k rest =>
    obtain ⟨k, b⟩ := k
    cases k with
    | operand => cases name <;> cases hargument <;> rfl
    | separator => cases name <;> cases hargument
    | option other attached => cases name <;> cases hargument

/-- The options of a search take the file and the reference time, and leave the query as it
was. -/
theorem commandPart_search {file now : Text} {behind : List (Kind × Text)} {fuel : Nat}
    {before given : Given} {query : Option Text} {q : Text}
    (hbehind : kinds searchOptions ["--notes".toList, file, "--now".toList, now] = .ok behind)
    (h : commandPart (fuel + 2) before query behind = .ok (given, q)) :
    given = (.now, now) :: (.notes, file) :: before ∧ query = some q := by
  obtain ⟨fileOn, rfl, hfile⟩ :=
    exists_of_kindOf (k := .option (some .notes) none) hbehind (by decide) (by rfl)
  obtain ⟨a, nowOn, rfl, hnotes⟩ := commandPart_option h
  obtain ⟨rfl, hnowOn⟩ := kinds_operand hfile
  obtain ⟨last, rfl, hlast⟩ :=
    exists_of_kindOf (k := .option (some .now) none) hnowOn (by decide) (by rfl)
  obtain ⟨b, nothing, rfl, hnow⟩ := commandPart_option hnotes
  obtain ⟨rfl, hnothing⟩ := kinds_operand hlast
  cases hnothing
  cases query with
  | none => cases fuel <;> cases hnow
  | some q => cases fuel <;> cases hnow <;> exact ⟨rfl, rfl⟩

/-- What stands behind the name of a search. A query that is an option leaves the search
without one. -/
theorem commandArguments_search {query file now : Text} {given : Given} {q : Text}
    (h : commandArguments searchOptions [query, "--notes".toList, file, "--now".toList, now] =
      .ok (given, q)) : given = [(.now, now), (.notes, file)] ∧ q = query := by
  obtain ⟨ks, hks, hpart⟩ := bind_eq_ok_iff.mp h
  rcases kinds_cons_cases hks with ⟨rfl, rfl⟩ | ⟨k, behind, -, hk, hbehind, rfl⟩
  · cases hpart
  obtain ⟨fuel, hlength⟩ : ∃ fuel, behind.length = fuel + 2 := by
    have hsame := congrArg List.length (map_snd_of_kinds hbehind)
    exact ⟨2, by simpa using hsame⟩
  rw [List.length_cons, hlength] at hpart
  cases k with
  | separator => exact absurd hk (kindOf_ne_separator _ _)
  | operand =>
    obtain ⟨fileOn, rfl, -⟩ :=
      exists_of_kindOf (k := .option (some .notes) none) hbehind (by decide) (by rfl)
    rw [commandPart] at hpart
    · obtain ⟨hgiven, hq⟩ := commandPart_search hbehind hpart
      exact ⟨hgiven, (Option.some.inj hq).symm⟩
    · nofun
  | option name attached =>
    cases name with
    | none => cases hpart
    | some name =>
      cases attached with
      | none =>
        obtain ⟨fileOn, rfl, -⟩ :=
          exists_of_kindOf (k := .option (some .notes) none) hbehind (by decide) (by rfl)
        obtain ⟨a, others, hoperand, -⟩ := commandPart_option hpart
        cases hoperand
      | some s =>
        rw [commandPart] at hpart
        obtain ⟨⟨a, others⟩, hargument, hpart⟩ := bind_eq_ok_iff.mp hpart
        have hothers : others = behind := by cases name <;> cases hargument <;> rfl
        rw [hothers] at hpart
        cases (commandPart_search hbehind hpart).2

theorem eq_searchInvocation {query file now : Text} {i : Invocation}
    (h : Invocation.ofArguments (searchArguments query file now) = .ok i) :
    i = searchInvocation query file now := by
  obtain ⟨sorted, hsorted, h⟩ := bind_eq_ok_iff.mp h
  obtain ⟨jsonOn, rfl, hjson⟩ :=
    exists_of_kindOf (k := .option (some .output) none) hsorted (by decide) (by rfl)
  obtain ⟨searchOn, rfl, hsearch⟩ := exists_of_kindOf (k := .operand) hjson (by decide) (by rfl)
  obtain ⟨queryOn, rfl, hquery⟩ := exists_of_kindOf (k := .operand) hsearch (by decide) (by rfl)
  obtain ⟨⟨given, name, rest⟩, hpart, hcommand⟩ := bind_eq_ok_iff.mp h
  cases hpart
  obtain ⟨command, hcommandOf, hinvocation⟩ := bind_eq_ok_iff.mp hcommand
  rw [map_snd_of_kinds hquery, commandOf, if_pos (by decide)] at hcommandOf
  obtain ⟨⟨options, q⟩, harguments, hoptions⟩ := bind_eq_ok_iff.mp hcommandOf
  obtain ⟨rfl, rfl⟩ := commandArguments_search harguments
  cases hoptions
  cases hinvocation
  rfl

/-! ## What a search finds -/

theorem mapError_eq_ok_iff {ε δ α : Type} {f : ε → δ} {x : Except ε α} {a : α} :
    x.mapError f = .ok a ↔ x = .ok a := by
  cases x with
  | error e => exact iff_of_false nofun nofun
  | ok b => exact ⟨fun h => by cases h; rfl, fun h => by cases h; rfl⟩

/-- What the query of a text at a reference time selects from notes, on all of which it
decides. -/
def Selects (zone : Zone) (settings : Settings) (clock : Moment) (query : Text)
    (now : Option Text) (notes found : List Note) : Prop :=
  ∃ time conventions q, referenceTime zone clock now = .ok time ∧
    settings.conventions = .ok conventions ∧ Query.parseAt conventions time query = .ok q ∧
    (∀ n ∈ notes, q.root.Decides n) ∧ found = notes.filter q.root.accepts

/-- A query selects all of what it has selected. -/
theorem Selects.again {zone : Zone} {settings : Settings} {clock : Moment} {query : Text}
    {now : Option Text} {notes found : List Note}
    (h : Selects zone settings clock query now notes found) :
    Selects zone settings clock query now found found := by
  obtain ⟨time, conventions, q, htime, hconventions, hq, hdecides, rfl⟩ := h
  refine ⟨time, conventions, q, htime, hconventions, hq, fun n hn => ?_, ?_⟩
  · exact hdecides n (List.mem_filter.mp hn).1
  · simp only [List.filter_filter, Bool.and_self]

theorem filter_fst_eq_ok_iff (conventions : Conventions) (time : Moment) (query : Text)
    (notes found : List Note) :
    (Session.filter { conventions, clock := time } query notes).1 = .ok found ↔
      ∃ q, Query.parseAt conventions time query = .ok q ∧ (∀ n ∈ notes, q.root.Decides n) ∧
        found = notes.filter q.root.accepts := by
  rw [Session.filter_fst]
  have hquery : (Session.query { conventions, clock := time } query).1 =
      Query.parseAt conventions time query := Session.query_of_miss rfl
  rw [hquery]
  cases hq : Query.parseAt conventions time query with
  | error e => exact iff_of_false nofun fun ⟨_, h, _⟩ => nomatch h
  | ok q =>
    simp only [Except.ok.injEq, exists_eq_left']
    rw [Session.run_eq_select (Query.isClosed_of_parseAt hq), Node.select_eq_ok_iff]

/-- A search with an answer in JSON loads notes and prints what it selects from them. -/
theorem search_eq_ok_iff (m : Machine) {settings : Settings}
    (hformat : settings .outputFormat = .text "json".toList) (around : Surroundings)
    (clock : Moment) (query file : Text) (now : Option Text) (prints : List Print) :
    search m settings around clock query file now = .ok prints ↔
      ∃ notes found, Snapshot.load m.zone around.find (.ofText file) = .ok notes ∧
        Selects m.zone settings clock query now notes found ∧
          prints = [.line (notesAsJson found)] := by
  have htable : isFormat settings "table" = false := by
    rw [isFormat, hformat]
    decide
  have hjson : isFormat settings "json" = true := by
    rw [isFormat, hformat]
    decide
  simp only [search, htable, hjson, bind_eq_ok_iff, mapError_eq_ok_iff, conventionsOf,
    filter_fst_eq_ok_iff, Bool.false_eq_true, if_false, if_true]
  constructor
  · rintro ⟨notes, hload, time, htime, conventions, hconventions, found, ⟨q, hq, hfound⟩, hout⟩
    cases hout
    exact ⟨notes, found, hload, ⟨time, conventions, q, htime, hconventions, hq, hfound⟩, rfl⟩
  · rintro ⟨notes, found, hload, ⟨time, conventions, q, htime, hconventions, hq, hfound⟩, rfl⟩
    exact ⟨notes, hload, time, htime, conventions, hconventions, found, ⟨q, hq, hfound⟩, rfl⟩

theorem outputFormat_of_settingsOf {around : Surroundings} {query file now : Text}
    {settings : Settings}
    (h : settingsOf around (searchInvocation query file now) = .ok settings) :
    settings .outputFormat = .text "json".toList := by
  have hsettings : settingsOf around (searchInvocation query file now) =
      Settings.load around none >>= fun loaded =>
        .ok (loaded.setNamed (Setting.name .outputFormat) (.text "json".toList)) := rfl
  rw [hsettings] at h
  obtain ⟨loaded, -, h⟩ := bind_eq_ok_iff.mp h
  cases h
  rw [Settings.setNamed_apply, if_pos rfl]

/-- A line is all that is printed, if the output takes it. -/
theorem printAll_line_iff {m : Machine} {colour : Bool} {line output : Text} :
    (∃ st, m.printAll colour {} [.line line] = (none, st) ∧ st.output = output) ↔
      m.refusal line = none ∧ output = line ++ ['\n'] := by
  simp only [Machine.printAll, Machine.print]
  cases m.refusal line with
  | none =>
    constructor
    · rintro ⟨_, ⟨⟩, rfl⟩
      exact ⟨rfl, rfl⟩
    · rintro ⟨-, rfl⟩
      exact ⟨_, rfl, rfl⟩
  | some e =>
    constructor
    · rintro ⟨_, ⟨⟩, -⟩
    · rintro ⟨⟨⟩, -⟩

theorem runCommand_eq_none_iff {m : Machine} {settings : Settings} {around : Surroundings}
    {clock : Moment} {command : Command} {st : Printed m.console} :
    runCommand m settings around clock command = (none, st) ↔
      ∃ ps, prints m settings around clock command = .ok ps ∧
        m.printAll (isColoured settings) {} ps = (none, st) := by
  rw [runCommand]
  cases prints m settings around clock command with
  | error e =>
    constructor
    · rintro ⟨⟩
    · rintro ⟨_, ⟨⟩, -⟩
  | ok ps =>
    simp [Prod.ext_iff]

theorem runCommand_search_iff {m : Machine} {settings : Settings}
    (hformat : settings .outputFormat = .text "json".toList) (around : Surroundings)
    (clock : Moment) (query file : Text) (now : Option Text) (output : Text) :
    (∃ st, runCommand m settings around clock (.search query file now) = (none, st) ∧
        st.output = output) ↔
      ∃ notes found, Snapshot.load m.zone around.find (.ofText file) = .ok notes ∧
        Selects m.zone settings clock query now notes found ∧ m.refusal (notesAsJson found) = none ∧
          output = notesAsJson found ++ ['\n'] := by
  simp only [runCommand_eq_none_iff, prints, search_eq_ok_iff m hformat]
  constructor
  · rintro ⟨st, ⟨_, ⟨notes, found, hload, hselects, rfl⟩, hprint⟩, houtput⟩
    exact ⟨notes, found, hload, hselects, printAll_line_iff.mp ⟨st, hprint, houtput⟩⟩
  · rintro ⟨notes, found, hload, hselects, hprint⟩
    obtain ⟨st, hst, houtput⟩ := printAll_line_iff.mpr hprint
    exact ⟨st, ⟨_, ⟨notes, found, hload, hselects, rfl⟩, hst⟩, houtput⟩

/-- A search that succeeds prints the notes that it selects from those of its file. -/
theorem run_search_iff {m : Machine} {query file now : Text} {around : Surroundings}
    {clock : Moment} {output : Text} :
    run m (searchArguments query file now) around clock = .exited 0 output ↔
      (Invocation.ofArguments (searchArguments query file now)).isOk = true ∧
        ∃ settings, settingsOf around (searchInvocation query file now) = .ok settings ∧
          IsLevel (settings .logLevel) ∧ ∃ notes found,
            Snapshot.load m.zone around.find (.ofText file) = .ok notes ∧
              Selects m.zone settings clock query (some now) notes found ∧
                m.refusal (notesAsJson found) = none ∧ output = notesAsJson found ++ ['\n'] := by
  cases hi : Invocation.ofArguments (searchArguments query file now) with
  | error e =>
    have hrun : run m (searchArguments query file now) around clock = .exited 2 [] := by
      rw [run, hi]
    rw [hrun]
    constructor
    · intro h
      cases h
    · rintro ⟨haccepted, -⟩
      cases haccepted
  | ok i =>
    rw [run_eq_success_iff hi, eq_searchInvocation hi]
    constructor
    · rintro ⟨settings, hsettings, hlevel, hcommand⟩
      exact ⟨rfl, settings, hsettings, hlevel,
        (runCommand_search_iff (outputFormat_of_settingsOf hsettings) _ _ _ _ _ _).mp hcommand⟩
    · rintro ⟨-, settings, hsettings, hlevel, hfound⟩
      exact ⟨settings, hsettings, hlevel,
        (runCommand_search_iff (outputFormat_of_settingsOf hsettings) _ _ _ _ _ _).mpr hfound⟩

/-! ## Searching again -/

/-- The files and the variables that settings are loaded from are the same. -/
structure SameSettings (a b : Surroundings) : Prop where
  files : ∀ source, Settings.fileOf a none source = Settings.fileOf b none source
  home : a.userFile.isSome = b.userFile.isSome
  environment : a.environment = b.environment

theorem load_eq_of_sameSettings {a b : Surroundings} (h : SameSettings a b) :
    Settings.load b none = Settings.load a none := by
  have hlocal := h.files .localFile
  have huser := h.files .userFile
  have hhome := h.home
  simp only [Settings.fileOf] at huser hlocal
  cases ha : a.userFile with
  | none =>
    rw [ha, Option.isSome_none, eq_comm, Option.isSome_eq_false_iff, Option.isNone_iff_eq_none]
      at hhome
    rw [Settings.load, Settings.load, ha, hhome]
  | some p =>
    rw [ha, Option.isSome_some, eq_comm, Option.isSome_iff_exists] at hhome
    obtain ⟨q, hb⟩ := hhome
    simp only [ha, hb, Option.map_some, Option.getD_some] at huser
    simp only [Settings.load, ha, hb, huser, hlocal, h.environment, Option.map_none]

theorem settingsOf_eq_of_sameSettings {a b : Surroundings} (h : SameSettings a b)
    (query file other now : Text) :
    settingsOf b (searchInvocation query other now) =
      settingsOf a (searchInvocation query file now) := by
  simp only [settingsOf, searchInvocation, Option.map_none, load_eq_of_sameSettings h]

/-- A search that succeeds prints the notes of its file that the query selects, in the order of
the file. If each of them is read back from its JSON text, then the output in a JSON file is
loaded as these notes, and the same search over that file, under the same settings, prints the
same. Only an empty reference time, which stands for the clock, asks for the clock to be the
same. -/
theorem run_search_again {m : Machine} {query file now output : Text} {around : Surroundings}
    {clock : Moment} (h : run m (searchArguments query file now) around clock = .exited 0 output) :
    ∃ settings notes found,
      settingsOf around (searchInvocation query file now) = .ok settings ∧
      Snapshot.load m.zone around.find (.ofText file) = .ok notes ∧
      Selects m.zone settings clock query (some now) notes found ∧
      output = notesAsJson found ++ ['\n'] ∧
      ((∀ n ∈ found, Json.IsReadBack n.toValue) →
        ∀ (target : Text) (after : Surroundings) (later : Moment),
          Snapshot.isJson (.ofText target) = true →
          after.find (.ofText target) = .file (encodeText output) →
          Snapshot.load m.zone after.find (.ofText target) = .ok found ∧
            ((Invocation.ofArguments (searchArguments query target now)).isOk = true →
              SameSettings around after → (now = [] → later = clock) →
                run m (searchArguments query target now) after later = .exited 0 output)) := by
  obtain ⟨-, settings, hsettings, hlevel, notes, found, hload, hselects, htaken, rfl⟩ :=
    run_search_iff.mp h
  refine ⟨settings, notes, found, hsettings, hload, hselects, rfl, ?_⟩
  intro hback target after later hjson hfile
  have hfound : ∀ n ∈ found, n ∈ notes := by
    obtain ⟨_, _, _, -, -, -, -, rfl⟩ := hselects
    exact fun n hn => (List.mem_filter.mp hn).1
  have hread : ∀ n ∈ found, n.IsRead := fun n hn =>
    Snapshot.isRead_of_load hload n (hfound n hn)
  have hagain : Snapshot.load m.zone after.find (.ofText target) = .ok found :=
    Snapshot.load_notesAsJson m.zone hread hback hjson hfile
  refine ⟨hagain, fun haccepted hsame hclock => ?_⟩
  have htime : referenceTime m.zone later (some now) =
      referenceTime m.zone clock (some now) := by
    cases now with
    | nil => rw [hclock rfl]
    | cons c rest => rfl
  have hselectsAgain : Selects m.zone settings later query (some now) found found := by
    rw [Selects, htime]
    exact hselects.again
  exact run_search_iff.mpr ⟨haccepted, settings,
    (settingsOf_eq_of_sameSettings hsame query file target now).trans hsettings, hlevel, found,
    found, hagain, hselectsAgain, htaken, rfl⟩

/-- A folder with a snapshot of two notes, and with what a search has printed. -/
def besideOutput (output : Text) : Surroundings where
  find p :=
    if p = .ofText "all.json".toList then
      .file (encodeText
        "[\x7b\"path\": \"a.md\"\x7d, \x7b\"path\": \"b.md\", \"tags\": \"#work\"\x7d]".toList)
    else if p = .ofText "found.json".toList then .file (encodeText output)
    else .missing
  userFile := some (.ofText "config.toml".toList)
  environment := []

/-- The second of the two notes, which the search finds. -/
def workNote : Note := { Note.ofPath "b.md".toList with tags := ["work".toList] }

def workOutput : Text := notesAsJson [workNote] ++ ['\n']

/-- The search is made of the snapshot, and again of what it prints at another time of the
clock. -/
theorem run_search_again_work :
    run (.screen .universal)
        (searchArguments "#work".toList "all.json".toList "2026-02-04T12:00".toList)
        (besideOutput workOutput) ⟨.first, none⟩ = .exited 0 workOutput ∧
    run (.screen .universal)
        (searchArguments "#work".toList "found.json".toList "2026-02-04T12:00".toList)
        (besideOutput workOutput) ⟨.last, none⟩ = .exited 0 workOutput := by
  have hfirst : run (.screen .universal)
      (searchArguments "#work".toList "all.json".toList "2026-02-04T12:00".toList)
      (besideOutput workOutput) ⟨.first, none⟩ = .exited 0 workOutput := by
    decide +kernel
  have hwhole : (Snapshot.load (Machine.screen .universal).zone (besideOutput workOutput).find
      (.ofText "all.json".toList)).toOption.all (fun notes => notes.all fun n =>
        n.texts.all fun s => s.all (!Text.isCarrier ·)) = true := by
    decide +kernel
  obtain ⟨_, notes, found, -, hload, ⟨_, _, _, -, -, -, -, rfl⟩, -, hagain⟩ :=
    run_search_again hfirst
  simp only [hload, Except.toOption, Option.all_some, List.all_eq_true, Bool.not_eq_true'] at hwhole
  have hback : ∀ n ∈ notes, Json.IsReadBack n.toValue := fun n hn =>
    Note.isReadBack_toValue (Snapshot.isRead_of_load hload n hn) (hwhole n hn)
  obtain ⟨-, hrun⟩ := hagain (fun n hn => hback n (List.mem_filter.mp hn).1) "found.json".toList
    (besideOutput workOutput) ⟨.last, none⟩ (by decide +kernel) (by rfl)
  exact ⟨hfirst, hrun (by decide +kernel) ⟨fun _ => rfl, rfl, rfl⟩ nofun⟩

end CommandLine

end NoteQuery
