import NoteQuery.Proofs.Query.Closed
import NoteQuery.Proofs.Session.Transparency

/-!
# What a search finds

A search asks one thing of each note, on whichever of its routes it answers: that the note
matches the text, or that its path is among those that the provider answers to the text, and
that the note lies in the scope. It answers if all that it has to ask can be decided, and
then with exactly these notes, in their order.
-/
namespace NoteQuery

namespace Query

/-- Whether a note matches what a text was parsed to; a text that was not parsed matches
nothing. -/
def parsedAccepts (parsed : Except OutOfCalendar Query) (n : Note) : Bool :=
  match parsed with
  | .ok q => q.root.accepts n
  | .error _ => false

end Query

namespace Session

/-- Whether a note is what the text of a search asks for. -/
def findsText (s : Session) (raw : Text) (n : Note) : Bool :=
  match s.provider with
  | none => Query.parsedAccepts (s.query raw).1 n
  | some provider => (provider raw).contains n.path

/-- Whether a note lies in a scope; no scope and an empty one hold all notes. -/
def inScope (s : Session) (scope : Option Text) (n : Note) : Bool :=
  match scope with
  | none => true
  | some [] => true
  | some text => Query.parsedAccepts (Query.parseAt s.conventions s.clock text) n

def finds (s : Session) (raw : Text) (scope : Option Text) (n : Note) : Bool :=
  s.findsText raw n && s.inScope scope n

/-- Whether a tree that limits notes decides on a note. -/
def LimitDecides (limit : Option Node) (n : Note) : Prop :=
  ∀ root, limit = some root → root.Decides n

/-- Whether all can be decided that a search has to ask: the scope is read, and so is the
text where no provider takes it; the tree of the text decides on every note, and that of the
scope on every note that the text asks for. -/
def Answers (s : Session) (raw : Text) (notes : List Note) (scope : Option Text) : Prop :=
  ∃ limit, s.scopeRoot scope = .ok limit ∧
    (s.provider = none → ∃ q, (s.query raw).1 = .ok q ∧ ∀ n ∈ notes, q.root.Decides n) ∧
    ∀ n ∈ notes, s.findsText raw n → LimitDecides limit n

theorem inScope_eq {s : Session} {scope : Option Text} {limit : Option Node}
    (h : s.scopeRoot scope = .ok limit) :
    s.inScope scope = fun n => (limit.map (Node.accepts · n)).getD true := by
  funext n
  match scope with
  | none =>
    cases h
    rfl
  | some [] =>
    cases h
    rfl
  | some (c :: rest) =>
    simp only [scopeRoot, parse] at h
    simp only [inScope]
    cases hp : Query.parseAt s.conventions s.clock (c :: rest) with
    | error e =>
      rw [hp] at h
      cases h
    | ok q =>
      rw [hp] at h
      cases h
      rfl

/-- Narrowing notes down is a selection by the scope. -/
theorem narrow_eq_ok_iff (limit : Option Node) (notes found : List Note) :
    narrow limit notes = .ok found ↔
      (∀ n ∈ notes, LimitDecides limit n) ∧
        found = notes.filter fun n => (limit.map (Node.accepts · n)).getD true := by
  cases limit with
  | none =>
    have hall : (notes.filter fun _ => true) = notes := List.filter_true notes
    simp only [narrow, Option.map_none, Option.getD_none, hall, Except.ok.injEq]
    constructor
    · rintro rfl
      refine ⟨fun n _ root hroot => ?_, rfl⟩
      cases hroot
    · rintro ⟨-, rfl⟩
      rfl
  | some root =>
    simp only [narrow, Option.map_some, Option.getD_some, Node.select_eq_ok_iff]
    constructor
    · rintro ⟨hdecides, rfl⟩
      refine ⟨fun n hn _ hroot => ?_, rfl⟩
      cases hroot
      exact hdecides n hn
    · rintro ⟨hdecides, rfl⟩
      exact ⟨fun n hn => hdecides n hn root rfl, rfl⟩

/-- A search narrows the notes down that the text asks for. -/
theorem narrow_filter_eq_ok_iff {s : Session} {scope : Option Text} {limit : Option Node}
    (h : s.scopeRoot scope = .ok limit) (raw : Text) (notes found : List Note) :
    narrow limit (notes.filter (s.findsText raw)) = .ok found ↔
      (∀ n ∈ notes, s.findsText raw n → LimitDecides limit n) ∧
        found = notes.filter (s.finds raw scope) := by
  have hboth : (fun n => (limit.map (Node.accepts · n)).getD true && s.findsText raw n) =
      s.finds raw scope := by
    funext n
    rw [finds, inScope_eq h, Bool.and_comm]
  rw [narrow_eq_ok_iff, List.filter_filter, hboth]
  simp only [List.mem_filter, and_imp]

/-- The trees that a session works with are closed. -/
def IsParsed (s : Session) : Prop := ∀ raw q, (s.query raw).1 = .ok q → q.root.IsClosed

/-- A filter selects by the tree of the text, also where that has no terms. -/
theorem run_eq_select {q : Query} (hq : q.root.IsClosed) (notes : List Note) :
    run q notes = q.root.select notes := by
  rw [run]
  by_cases hempty : q.isEmpty = true
  · rw [if_pos hempty, Query.select_of_isEmpty hq hempty]
  · rw [if_neg hempty]

theorem findsText_of_query {s : Session} (hp : s.provider = none) {raw : Text} {q : Query}
    (hq : (s.query raw).1 = .ok q) : s.findsText raw = q.root.accepts := by
  funext n
  simp only [findsText, hp, hq, Query.parsedAccepts]

/-- Without a provider a search narrows a filter down. -/
theorem search_of_no_provider {s : Session} (hp : s.provider = none) {scope : Option Text}
    {limit : Option Node} (h : s.scopeRoot scope = .ok limit) (raw : Text) (notes : List Note) :
    (s.search raw notes scope).1 = (s.filter raw notes).1.bind (narrow limit) := by
  simp only [search, h, hp]

/-- A filter is a search without a provider and a scope. -/
theorem filter_eq_search (s : Session) (raw : Text) (notes : List Note) :
    (s.filter raw notes).1 = ({ s with provider := none }.search raw notes none).1 := by
  have hquery : (Session.query { s with provider := none } raw).1 = (s.query raw).1 := by
    have hhit : Session.hit? { s with provider := none } raw = s.hit? raw := rfl
    simp only [query, hhit]
    cases s.hit? raw with
    | some q => rfl
    | none =>
      have hparse : Session.parse { s with provider := none } raw = s.parse raw := rfl
      simp only [hparse]
      cases s.parse raw <;> rfl
  rw [search_of_no_provider rfl rfl, filter_fst, filter_fst, hquery]
  cases (s.query raw).1 with
  | error e => rfl
  | ok q =>
    simp only
    cases run q notes <;> rfl

theorem search_of_provider {s : Session} {provider : SearchProvider}
    (hp : s.provider = some provider) {scope : Option Text} {limit : Option Node}
    (h : s.scopeRoot scope = .ok limit) (raw : Text) (notes : List Note) :
    (s.search raw notes scope).1 = narrow limit (notes.filter (s.findsText raw)) := by
  have htext : s.findsText raw = fun n => (provider raw).contains n.path := by
    funext n
    simp only [findsText, hp]
  rw [htext]
  simp only [search, h, hp, ask]

/-- A search answers exactly if it can decide, and finds the notes that it asks for. -/
theorem search_eq_ok_iff {s : Session} (hs : s.IsParsed) (raw : Text) (notes : List Note)
    (scope : Option Text) (found : List Note) :
    (s.search raw notes scope).1 = .ok found ↔
      s.Answers raw notes scope ∧ found = notes.filter (s.finds raw scope) := by
  cases hscope : s.scopeRoot scope with
  | error e =>
    refine iff_of_false ?_ ?_
    · intro h
      simp only [search, hscope] at h
      cases h
    · rintro ⟨⟨limit, hlimit, -⟩, -⟩
      rw [hscope] at hlimit
      cases hlimit
  | ok limit =>
    have hnarrow := narrow_filter_eq_ok_iff hscope raw notes found
    cases hp : s.provider with
    | some provider =>
      rw [search_of_provider hp hscope, hnarrow]
      constructor
      · rintro ⟨hdecides, hfound⟩
        refine ⟨⟨limit, hscope, fun hnone => ?_, hdecides⟩, hfound⟩
        rw [hp] at hnone
        cases hnone
      · rintro ⟨⟨other, hother, -, hdecides⟩, hfound⟩
        rw [hscope, Except.ok.injEq] at hother
        subst hother
        exact ⟨hdecides, hfound⟩
    | none =>
      rw [search_of_no_provider hp hscope, filter_fst]
      cases hq : (s.query raw).1 with
      | error e =>
        refine iff_of_false ?_ ?_
        · intro h
          cases h
        · rintro ⟨⟨other, -, htext, -⟩, -⟩
          obtain ⟨q, hok, -⟩ := htext hp
          rw [hq] at hok
          cases hok
      | ok q =>
        simp only
        rw [run_eq_select (hs raw q hq)]
        rw [findsText_of_query hp hq] at hnarrow
        constructor
        · intro h
          cases hselect : q.root.select notes with
          | error e =>
            rw [hselect] at h
            cases h
          | ok chosen =>
            rw [hselect] at h
            obtain ⟨hdecides, rfl⟩ := (Node.select_eq_ok_iff q.root notes chosen).mp hselect
            obtain ⟨hlimit, hfound⟩ := hnarrow.mp h
            refine ⟨⟨limit, hscope, fun _ => ⟨q, hq, hdecides⟩, ?_⟩, hfound⟩
            rw [findsText_of_query hp hq]
            exact hlimit
        · rintro ⟨⟨other, hother, htext, hlimit⟩, hfound⟩
          rw [hscope, Except.ok.injEq] at hother
          subst hother
          obtain ⟨q', hq', hdecides⟩ := htext hp
          rw [hq, Except.ok.injEq] at hq'
          subst hq'
          rw [findsText_of_query hp hq] at hlimit
          rw [Node.select_of_decides hdecides]
          exact hnarrow.mpr ⟨hlimit, hfound⟩

/-- A search that can decide on every note of local times answers at every local time. -/
theorem answers_of_local {s : Session} (hs : s.IsParsed) {time : Instant}
    (hclock : s.clock.local = .ok time) (raw : Text) {notes : List Note}
    (hnotes : ∀ n ∈ notes, n.HasLocalTimes) (scope : Option Text) :
    s.Answers raw notes scope := by
  have hscope : ∃ limit, s.scopeRoot scope = .ok limit ∧
      ∀ root, limit = some root → root.IsClosed := by
    match scope with
    | none => exact ⟨none, rfl, nofun⟩
    | some [] => exact ⟨none, rfl, nofun⟩
    | some (c :: rest) =>
      have hparse := Query.parseAt_of_local s.conventions hclock (c :: rest)
      refine ⟨some (Query.parse ⟨time, s.conventions⟩ (c :: rest)).root, ?_, ?_⟩
      · simp only [scopeRoot, parse, hparse]
        rfl
      · rintro root hroot
        cases hroot
        exact Query.isClosed_parse _ _
  obtain ⟨limit, hlimit, hclosed⟩ := hscope
  refine ⟨limit, hlimit, fun _ => ?_, fun n hn _ root hroot => ?_⟩
  · obtain ⟨q, hq⟩ : ∃ q, (s.query raw).1 = .ok q := by
      rcases s.query_cases raw with ⟨q, -, hq⟩ | ⟨-, q, -, hq⟩ | ⟨-, e, he, -⟩
      · exact ⟨q, by rw [hq]⟩
      · exact ⟨q, by rw [hq]⟩
      · rw [parse, Query.parseAt_of_local s.conventions hclock] at he
        cases he
    exact ⟨q, hq, fun n hn => Query.decides_of_hasLocalTimes (hs raw q hq) (hnotes n hn)⟩
  · exact (hclosed root hroot).decides fun x _ => Node.decides_term_of_local (hnotes n hn) x

/-! ## What is asked of the provider -/

theorem query_asked (s : Session) (raw : Text) : (s.query raw).2.asked = s.asked := by
  rcases s.query_cases raw with ⟨q, -, hq⟩ | ⟨-, q, -, hq⟩ | ⟨-, e, -, hq⟩
  · rw [hq]
  · rw [hq]
    rfl
  · rw [hq]

theorem filter_asked (s : Session) (raw : Text) (notes : List Note) :
    (s.filter raw notes).2.asked = s.asked := by
  rw [filter_snd, query_asked]

/-- A search asks a provider once, unless it fails at the scope before. -/
theorem search_asked (s : Session) (raw : Text) (notes : List Note) (scope : Option Text) :
    (s.search raw notes scope).2.asked =
      if s.provider.isSome && (s.scopeRoot scope).isOk then raw :: s.asked else s.asked := by
  rw [search]
  cases hscope : s.scopeRoot scope with
  | error e => simp [Except.isOk, Except.toBool]
  | ok limit =>
    cases hp : s.provider with
    | none => exact s.filter_asked raw notes
    | some provider => rfl

/-- Only which paths a provider answers counts. -/
theorem search_congr_provider {s : Session} {provider other : SearchProvider}
    (hp : s.provider = some provider) {raw : Text}
    (h : ∀ path, path ∈ other raw ↔ path ∈ provider raw) (notes : List Note)
    (scope : Option Text) :
    ({ s with provider := some other }.search raw notes scope).1 =
      (s.search raw notes scope).1 := by
  have hpaths : ∀ path, (other raw).contains path = (provider raw).contains path := by
    intro path
    rw [Bool.eq_iff_iff, List.contains_iff_mem, List.contains_iff_mem]
    exact h path
  have hroot : Session.scopeRoot { s with provider := some other } scope = s.scopeRoot scope :=
    rfl
  simp only [search, hroot, hp, ask, hpaths]
  cases s.scopeRoot scope <;> rfl

end Session

namespace Host

theorem isParsed_run (conventions : Conventions) (provider : Option SearchProvider) (now : Moment)
    (steps : List Step) : ((start conventions provider now).run steps).session.IsParsed := by
  intro raw q hq
  obtain ⟨before, after, -, -, hparse⟩ := query_run conventions provider now steps raw
  rw [hparse] at hq
  exact Query.isClosed_of_parseAt hq

/-- In every state that a session can get into, a search finds the notes that the text and
the scope ask for, in their order, whenever all that it has to ask can be decided, which is
so at every local time on notes of local times. A filter is a search without a provider and
a scope, and selects by the tree of its text. A search asks a provider once, with the text
as it is, if only the scope can be read, and only which paths it answers counts; nothing
else asks it. -/
theorem search_finds (conventions : Conventions) (provider : Option SearchProvider)
    (now : Moment) (steps : List Step) (raw : Text) (notes : List Note) (scope : Option Text) :
    ∃ s, s = ((start conventions provider now).run steps).session ∧
      s.conventions = conventions ∧ s.provider = provider ∧
      (∀ found, (s.search raw notes scope).1 = .ok found ↔
        s.Answers raw notes scope ∧ found = notes.filter (s.finds raw scope)) ∧
      ((∃ time, s.clock.local = .ok time) → (∀ n ∈ notes, n.HasLocalTimes) →
        (s.search raw notes scope).1 = .ok (notes.filter (s.finds raw scope))) ∧
      (s.filter raw notes).1 = ({ s with provider := none }.search raw notes none).1 ∧
      (∀ q, (s.query raw).1 = .ok q → (s.filter raw notes).1 = q.root.select notes) ∧
      (s.search raw notes scope).2.asked =
        (if provider.isSome && (s.scopeRoot scope).isOk then raw :: s.asked else s.asked) ∧
      (∀ engine other, provider = some engine → (∀ path, path ∈ other raw ↔ path ∈ engine raw) →
        ({ s with provider := some other }.search raw notes scope).1 =
          (s.search raw notes scope).1) ∧
      (s.query raw).2.asked = s.asked ∧ (s.filter raw notes).2.asked = s.asked := by
  obtain ⟨hconventions, hprovider⟩ := run_keeps conventions provider now steps
  have hparsed := isParsed_run conventions provider now steps
  generalize ((start conventions provider now).run steps).session = s at *
  have hiff := Session.search_eq_ok_iff hparsed raw notes scope
  refine ⟨s, rfl, hconventions, hprovider, hiff, ?_, ?_, ?_, ?_, ?_, s.query_asked raw,
    s.filter_asked raw notes⟩
  · rintro ⟨time, hclock⟩ hnotes
    exact (hiff _).mpr ⟨Session.answers_of_local hparsed hclock raw hnotes scope, rfl⟩
  · exact Session.filter_eq_search s raw notes
  · intro q hq
    rw [s.filter_fst, hq]
    exact Session.run_eq_select (hparsed raw q hq) notes
  · rw [← hprovider]
    exact s.search_asked raw notes scope
  · intro engine other hengine hpaths
    exact Session.search_congr_provider (hprovider.trans hengine) hpaths notes scope

/-- Two notes that an engine answers, and a third one that it does not. -/
def papers : List Note :=
  [{ path := "a.md".toList, tags := ["work".toList] }, { path := "b.md".toList },
    { path := "c.md".toList, tags := ["work".toList] }]

/-- An engine that answers the same paths to every text, one of them twice. -/
def engine : SearchProvider := fun _ => ["b.md".toList, "a.md".toList, "b.md".toList]

theorem search_finds_in_scope :
    (∃ time, noon.local = .ok time) ∧ (∀ n ∈ papers, n.HasLocalTimes) ∧
      (∀ path, path ∈ ["a.md".toList, "b.md".toList] ↔ path ∈ engine "report".toList) ∧
      (((start {} (some engine) noon).run [.query "#a".toList]).session.search "report".toList
        papers (some "#work".toList)).1 = .ok (papers.take 1) ∧
      ({ ((start {} (some engine) noon).run [.query "#a".toList]).session with
        provider := some fun _ => ["a.md".toList, "b.md".toList] }.search "report".toList
        papers (some "#work".toList)).1 = .ok (papers.take 1) := by
  have hclock : ∃ time, noon.local = .ok time := ⟨noon.wall, rfl⟩
  have hnotes : ∀ n ∈ papers, n.HasLocalTimes := by
    intro n hn field m hm
    simp only [papers, List.mem_cons, List.not_mem_nil, or_false] at hn
    rcases hn with rfl | rfl | rfl <;> cases field <;> cases hm
  have hpaths : ∀ path, path ∈ ["a.md".toList, "b.md".toList] ↔
      path ∈ engine "report".toList := by
    intro path
    simp only [engine, List.mem_cons, List.not_mem_nil, or_false]
    tauto
  obtain ⟨s, hs, -, -, -, hlocal, -, -, -, hcongr, -, -⟩ := search_finds {} (some engine) noon
    [.query "#a".toList] "report".toList papers (some "#work".toList)
  subst hs
  have hfound := (hlocal hclock hnotes).trans (congrArg Except.ok
    (show _ = papers.take 1 from rfl))
  refine ⟨hclock, hnotes, hpaths, hfound, ?_⟩
  rw [hcongr engine (fun _ => ["a.md".toList, "b.md".toList]) rfl hpaths]
  exact hfound

end Host

end NoteQuery
