import NoteQuery.Proofs.Query.ParseTime
import NoteQuery.Proofs.Session.Runs

/-!
# The two slots of the cache

The cache of a session as two slots that are written one after the other: a query, and a
label with the text and the day that it was parsed for. A query in a slot has the number of
its parse, by which one and the same query is told from an equal one. The slots go through
every run as the session does. They are empty together or belong together, and the query is
the one of the latest call that filled them.
-/
namespace NoteQuery

/-- A query and which of the parses for the cache it comes from. -/
structure Parsed where
  number : Nat
  query : Query

/-- What a host asks of a session; a text may be missing. -/
inductive Call where
  | setClock (now : Moment)
  | setNotes (notes : List Note)
  | invalidate
  | query (raw : Option Text)
  | filter (raw : Option Text)
  | search (raw scope : Option Text)

/-- A missing text is the empty one. -/
def Call.step : Call → Host.Step
  | setClock now => .setClock now
  | setNotes notes => .setNotes notes
  | invalidate => .invalidate
  | query raw => .query (raw.getD [])
  | filter raw => .filter (raw.getD [])
  | search raw scope => .search (raw.getD []) scope

structure Slots where
  conventions : Conventions
  clock : Moment
  provider : Option SearchProvider
  parses : Nat := 0
  label : Option (Text × Day) := none
  held : Option Parsed := none

namespace Slots

def labelOf (s : Slots) (text : Text) : Text × Day := (text, s.clock.wall.day)

/-- Writes the label of a text and then its query. -/
def refill (s : Slots) (text : Text) : Except OutOfCalendar Parsed × Slots :=
  match Query.parseAt s.conventions s.clock text with
  | .error e => (.error e, s)
  | .ok q =>
    let parsed : Parsed := ⟨s.parses + 1, q⟩
    let s := { s with parses := s.parses + 1, label := some (s.labelOf text) }
    (.ok parsed, { s with held := some parsed })

def query (s : Slots) (raw : Option Text) : Except OutOfCalendar Parsed × Slots :=
  let text := raw.getD []
  match s.held with
  | none => s.refill text
  | some parsed =>
    if s.label = some (s.labelOf text) then (.ok parsed, s) else s.refill text

/-- The error of reading a scope; an empty one is not read. -/
def scopeFault (s : Slots) : Option Text → Option OutOfCalendar
  | none => none
  | some [] => none
  | some text =>
    match Query.parseAt s.conventions s.clock text with
    | .error e => some e
    | .ok _ => none

/-- The error that asking for a query ends with, if any, and the slots. -/
def ask (s : Slots) (raw : Option Text) : Option OutOfCalendar × Slots :=
  match s.query raw with
  | (.error e, s) => (some e, s)
  | (.ok _, s) => (none, s)

/-- The error that parsing ends a call with, if any, and the slots. Notes are looked at when
the slots have been written. -/
def call (s : Slots) : Call → Option OutOfCalendar × Slots
  | .setClock now => (none, { s with clock := now })
  | .setNotes _ => (none, s)
  | .invalidate => (none, { s with label := none, held := none })
  | .query raw => s.ask raw
  | .filter raw => s.ask raw
  | .search raw scope =>
    match s.scopeFault scope with
    | some e => (some e, s)
    | none => if s.provider.isSome then (none, s) else s.ask raw

def step (s : Slots) (c : Call) : Slots := (s.call c).2

def fault? (s : Slots) (c : Call) : Option OutOfCalendar := (s.call c).1

def start (conventions : Conventions) (provider : Option SearchProvider) (now : Moment) : Slots :=
  { conventions, provider, clock := now }

def run (s : Slots) (calls : List Call) : Slots := calls.foldl step s

theorem run_append (s : Slots) (calls more : List Call) :
    s.run (calls ++ more) = (s.run calls).run more :=
  List.foldl_append

theorem run_concat (s : Slots) (calls : List Call) (c : Call) :
    s.run (calls ++ [c]) = (s.run calls).step c :=
  s.run_append calls [c]

/-! ## The slots of a session -/

def ofSession (t : Session) : Slots where
  conventions := t.conventions
  clock := t.clock
  provider := t.provider
  parses := t.parses
  label := t.cached.map fun entry => (entry.query.raw, entry.day)
  held := t.cached.map fun entry => ⟨t.parses, entry.query⟩

theorem label_eq_iff_hit (t : Session) (text : Text) :
    (ofSession t).label = some ((ofSession t).labelOf text) ↔ ∃ q, t.hit? text = some q := by
  simp only [ofSession, labelOf, Session.hit?]
  cases t.cached with
  | none => simp
  | some entry => simp

theorem refill_ofSession (t : Session) (text : Text) :
    (ofSession t).refill text =
      match t.parse text with
      | .error e => (.error e, ofSession t)
      | .ok q => (.ok ⟨t.parses + 1, q⟩, ofSession (t.store q)) := by
  rw [refill, Session.parse]
  cases hp : Query.parseAt t.conventions t.clock text with
  | error e => simp only [ofSession, hp]
  | ok q =>
    have hraw := Query.raw_of_parseAt hp
    simp only [ofSession, hp, labelOf, Session.store, Option.map_some, hraw]

theorem query_of_label {s : Slots} {raw : Option Text} {parsed : Parsed}
    (hheld : s.held = some parsed) (hlabel : s.label = some (s.labelOf (raw.getD []))) :
    s.query raw = (.ok parsed, s) := by
  simp only [query, hheld]
  exact if_pos hlabel

theorem query_of_label_ne {s : Slots} {raw : Option Text}
    (hlabel : s.label ≠ some (s.labelOf (raw.getD []))) :
    s.query raw = s.refill (raw.getD []) := by
  rw [query]
  cases s.held with
  | none => rfl
  | some parsed => exact if_neg hlabel

/-- Asking for a query does to the slots what it does to the session. -/
theorem query_ofSession (t : Session) (raw : Option Text) :
    (ofSession t).query raw =
      ((t.query (raw.getD [])).1.map fun q => ⟨(t.query (raw.getD [])).2.parses, q⟩,
        ofSession (t.query (raw.getD [])).2) := by
  have hiff := label_eq_iff_hit t (raw.getD [])
  rcases t.query_cases (raw.getD []) with ⟨q, hh, hq⟩ | ⟨hh, q, hp, hq⟩ | ⟨hh, e, hp, hq⟩
  · obtain ⟨entry, hentry, rfl, -, -⟩ := Session.entry_of_hit hh
    have hheld : (ofSession t).held = some ⟨t.parses, entry.query⟩ := by
      simp only [ofSession, hentry, Option.map_some]
    rw [query_of_label hheld (hiff.mpr ⟨_, hh⟩), hq]
    rfl
  · have hmiss : ¬∃ q, t.hit? (raw.getD []) = some q := by simp [hh]
    rw [query_of_label_ne (mt hiff.mp hmiss), refill_ofSession, hp, hq]
    rfl
  · have hmiss : ¬∃ q, t.hit? (raw.getD []) = some q := by simp [hh]
    rw [query_of_label_ne (mt hiff.mp hmiss), refill_ofSession, hp, hq]
    rfl

theorem ask_snd (s : Slots) (raw : Option Text) : (s.ask raw).2 = (s.query raw).2 := by
  rw [ask]
  rcases s.query raw with ⟨_ | _, _⟩ <;> rfl

theorem scopeFault_ofSession (t : Session) (scope : Option Text) :
    (ofSession t).scopeFault scope =
      match t.scopeRoot scope with
      | .error e => some e
      | .ok _ => none := by
  match scope with
  | none => rfl
  | some [] => rfl
  | some (c :: rest) =>
    have hparse : Query.parseAt (ofSession t).conventions (ofSession t).clock (c :: rest) =
        t.parse (c :: rest) := rfl
    simp only [scopeFault, Session.scopeRoot, hparse]
    cases t.parse (c :: rest) <;> rfl

/-- Each call does to the slots what its step does to the session. -/
theorem step_ofSession (h : Host) (c : Call) :
    (ofSession h.session).step c = ofSession (h.step c.step).session := by
  have hquery (raw : Option Text) :
      ((ofSession h.session).ask raw).2 = ofSession (h.session.query (raw.getD [])).2 := by
    rw [ask_snd, query_ofSession]
  cases c with
  | setClock now => rfl
  | setNotes notes => rfl
  | invalidate => rfl
  | query raw => exact hquery raw
  | filter raw =>
    have hfilter := h.session.filter_snd (raw.getD []) h.notes
    exact (hquery raw).trans (congrArg ofSession hfilter.symm)
  | search raw scope =>
    simp only [step, call, scopeFault_ofSession]
    simp only [Call.step, Host.step, Session.search]
    cases h.session.scopeRoot scope with
    | error e => rfl
    | ok root =>
      cases hp : h.session.provider with
      | none =>
        have hprovider : (ofSession h.session).provider = none := hp
        simp only [hprovider, Option.isSome_none, Bool.false_eq_true, if_false]
        exact (hquery raw).trans
          (congrArg ofSession (h.session.filter_snd (raw.getD []) h.notes).symm)
      | some provider =>
        have hprovider : (ofSession h.session).provider = some provider := hp
        simp only [hprovider, Option.isSome_some, if_true]
        rfl

theorem run_ofSession (h : Host) (calls : List Call) :
    (ofSession h.session).run calls = ofSession (h.run (calls.map Call.step)).session := by
  induction calls generalizing h with
  | nil => rfl
  | cons c calls ih =>
    have hstep := ih (h.step c.step)
    rw [← step_ofSession] at hstep
    exact hstep

/-! ## What a call does -/

/-- The slots are empty together, or hold the query of the latest parse and its label. -/
def IsFiled (s : Slots) : Prop :=
  (s.label = none ∧ s.held = none) ∨
    ∃ parsed day, s.held = some parsed ∧ s.label = some (parsed.query.raw, day) ∧
      parsed.number = s.parses

theorem isFiled_ofSession (t : Session) : (ofSession t).IsFiled := by
  cases hc : t.cached with
  | none => exact Or.inl ⟨by simp [ofSession, hc], by simp [ofSession, hc]⟩
  | some entry =>
    exact Or.inr ⟨⟨t.parses, entry.query⟩, entry.day, by simp [ofSession, hc],
      by simp [ofSession, hc], rfl⟩

def asks? (s : Slots) : Call → Option Text
  | .query raw => some (raw.getD [])
  | .filter raw => some (raw.getD [])
  | .search raw _ => if s.provider.isSome then none else some (raw.getD [])
  | _ => none

/-- Both slots are as they were, and nothing was parsed for them. -/
def Keeps (s t : Slots) : Prop := t.label = s.label ∧ t.held = s.held ∧ t.parses = s.parses

theorem Keeps.refl (s : Slots) : s.Keeps s := ⟨rfl, rfl, rfl⟩

/-- The slots with the query of a text that was parsed now. -/
def fill (s : Slots) (text : Text) (q : Query) : Slots :=
  { s with parses := s.parses + 1, held := some ⟨s.parses + 1, q⟩, label := some (s.labelOf text) }

theorem ask_cases {s : Slots} (hs : s.IsFiled) (raw : Option Text) :
    (s.label = some (s.labelOf (raw.getD [])) ∧ s.ask raw = (none, s)) ∨
      (s.label ≠ some (s.labelOf (raw.getD [])) ∧
        ((∃ e, Query.parseAt s.conventions s.clock (raw.getD []) = .error e ∧
          s.ask raw = (some e, s)) ∨
        ∃ q, Query.parseAt s.conventions s.clock (raw.getD []) = .ok q ∧
          s.ask raw = (none, s.fill (raw.getD []) q))) := by
  by_cases hlabel : s.label = some (s.labelOf (raw.getD []))
  · rcases hs with ⟨hnone, -⟩ | ⟨parsed, day, hheld, -, -⟩
    · rw [hnone] at hlabel
      cases hlabel
    · exact Or.inl ⟨hlabel, by rw [ask, query_of_label hheld hlabel]⟩
  · refine Or.inr ⟨hlabel, ?_⟩
    cases hp : Query.parseAt s.conventions s.clock (raw.getD []) with
    | error e => exact Or.inl ⟨e, rfl, by simp only [ask, query_of_label_ne hlabel, refill, hp]⟩
    | ok q =>
      refine Or.inr ⟨q, rfl, ?_⟩
      simp only [ask, query_of_label_ne hlabel, refill, hp]
      rfl

theorem local_of_parseAt_error {conventions : Conventions} {now : Moment} {text : Text}
    {e : OutOfCalendar} (h : Query.parseAt conventions now text = .error e) :
    ∃ e, now.local = .error e := by
  cases hl : now.local with
  | error e => exact ⟨e, rfl⟩
  | ok time =>
    rw [Query.parseAt_of_local conventions hl] at h
    cases h

theorem local_of_scopeFault {s : Slots} {scope : Option Text} {e : OutOfCalendar}
    (h : s.scopeFault scope = some e) : ∃ e, s.clock.local = .error e := by
  match scope with
  | some (c :: rest) =>
    simp only [scopeFault] at h
    cases hp : Query.parseAt s.conventions s.clock (c :: rest) with
    | error e => exact local_of_parseAt_error hp
    | ok q =>
      simp only [hp] at h
      cases h

/-- A call asks for a query, empties the slots, or leaves them; a scope that cannot be read
ends it before. -/
theorem call_cases (s : Slots) (c : Call) :
    (∃ raw, s.asks? c = some (raw.getD []) ∧ s.call c = s.ask raw) ∨
      (c = .invalidate ∧ s.asks? c = none ∧ s.fault? c = none ∧ (s.step c).label = none ∧
        (s.step c).held = none ∧ (s.step c).parses = s.parses) ∨
      (s.Keeps (s.step c) ∧ c ≠ .invalidate ∧ (s.asks? c = none ∨ s.fault? c ≠ none) ∧
        (s.fault? c ≠ none → ∃ e, s.clock.local = .error e)) := by
  cases c with
  | setClock now => exact Or.inr (Or.inr ⟨.refl s, nofun, Or.inl rfl, fun h => absurd rfl h⟩)
  | setNotes notes => exact Or.inr (Or.inr ⟨.refl s, nofun, Or.inl rfl, fun h => absurd rfl h⟩)
  | invalidate => exact Or.inr (Or.inl ⟨rfl, rfl, rfl, rfl, rfl, rfl⟩)
  | query raw => exact Or.inl ⟨raw, rfl, rfl⟩
  | filter raw => exact Or.inl ⟨raw, rfl, rfl⟩
  | search raw scope =>
    cases hf : s.scopeFault scope with
    | some e =>
      have hcall : s.call (.search raw scope) = (some e, s) := by simp only [call, hf]
      refine Or.inr (Or.inr ?_)
      rw [step, fault?, hcall]
      exact ⟨.refl s, nofun, Or.inr nofun, fun _ => local_of_scopeFault hf⟩
    | none =>
      cases hp : s.provider.isSome with
      | true =>
        have hcall : s.call (.search raw scope) = (none, s) := by simp only [call, hf, hp, if_true]
        have hasks : s.asks? (.search raw scope) = none := by simp only [asks?, hp, if_true]
        refine Or.inr (Or.inr ?_)
        rw [step, fault?, hcall]
        exact ⟨.refl s, nofun, Or.inl hasks, fun h => absurd rfl h⟩
      | false =>
        refine Or.inl ⟨raw, ?_, ?_⟩
        · simp only [asks?, hp, Bool.false_eq_true, if_false]
        · simp only [call, hf, hp, Bool.false_eq_true, if_false]

theorem step_of_asks {s : Slots} (hs : s.IsFiled) {c : Call} {text : Text}
    (hasks : s.asks? c = some text) (hfault : s.fault? c = none) :
    (s.label = some (s.labelOf text) ∧ s.step c = s) ∨
      (s.label ≠ some (s.labelOf text) ∧
        ∃ q, Query.parseAt s.conventions s.clock text = .ok q ∧ s.step c = s.fill text q) := by
  rcases s.call_cases c with ⟨raw, hraw, hcall⟩ | ⟨-, hnone, -⟩ | ⟨-, -, h | h, -⟩
  · obtain rfl : raw.getD [] = text := Option.some.inj (hraw.symm.trans hasks)
    rw [fault?, hcall] at hfault
    rw [step, hcall]
    rcases ask_cases hs raw with ⟨hlabel, hask⟩ | ⟨hlabel, ⟨e, -, hask⟩ | ⟨q, hp, hask⟩⟩
    · exact Or.inl ⟨hlabel, by rw [hask]⟩
    · rw [hask] at hfault
      cases hfault
    · exact Or.inr ⟨hlabel, q, hp, by rw [hask]⟩
  · rw [hnone] at hasks
    cases hasks
  · rw [h] at hasks
    cases hasks
  · exact absurd hfault h

theorem step_of_fault {s : Slots} (hs : s.IsFiled) {c : Call} {e : OutOfCalendar}
    (hfault : s.fault? c = some e) :
    s.Keeps (s.step c) ∧ ∃ e, s.clock.local = .error e := by
  have hne : s.fault? c ≠ none := by simp [hfault]
  rcases s.call_cases c with ⟨raw, -, hcall⟩ | ⟨-, -, hnone, -⟩ | ⟨hkeeps, -, -, hlocal⟩
  · rw [fault?, hcall] at hfault
    rw [step, hcall]
    rcases ask_cases hs raw with ⟨-, hask⟩ | ⟨-, ⟨e, hp, hask⟩ | ⟨q, -, hask⟩⟩
    · rw [hask] at hfault
      cases hfault
    · rw [hask]
      exact ⟨.refl s, local_of_parseAt_error hp⟩
    · rw [hask] at hfault
      cases hfault
  · exact absurd hnone hne
  · exact ⟨hkeeps, hlocal hne⟩

theorem step_of_not_asks {s : Slots} {c : Call} (hasks : s.asks? c = none) (hc : c ≠ .invalidate) :
    s.Keeps (s.step c) := by
  rcases s.call_cases c with ⟨raw, hraw, -⟩ | ⟨h, -⟩ | ⟨hkeeps, -⟩
  · rw [hasks] at hraw
    cases hraw
  · exact absurd h hc
  · exact hkeeps

/-- What a call can do to the slots: leave them, empty them, or fill them with a parse of
the text that it asks for. -/
theorem step_cases {s : Slots} (hs : s.IsFiled) (c : Call) :
    s.Keeps (s.step c) ∨
      ((s.step c).label = none ∧ (s.step c).held = none ∧ (s.step c).parses = s.parses) ∨
      ∃ text q, s.asks? c = some text ∧ Query.parseAt s.conventions s.clock text = .ok q ∧
        s.step c = s.fill text q := by
  cases hf : s.fault? c with
  | some e => exact Or.inl (step_of_fault hs hf).1
  | none =>
    cases ha : s.asks? c with
    | some text =>
      rcases step_of_asks hs ha hf with ⟨-, hstep⟩ | ⟨-, q, hp, hstep⟩
      · exact Or.inl (by rw [hstep]; exact .refl s)
      · exact Or.inr (Or.inr ⟨text, q, rfl, hp, hstep⟩)
    | none =>
      by_cases hc : c = .invalidate
      · subst hc
        exact Or.inr (Or.inl ⟨rfl, rfl, rfl⟩)
      · exact Or.inl (step_of_not_asks ha hc)

/-- The number of a new parse is that of none before. -/
theorem held_ne_fill {s : Slots} (hs : s.IsFiled) (text : Text) (q : Query) :
    (s.fill text q).held ≠ s.held := by
  intro h
  rcases hs with ⟨-, hnone⟩ | ⟨parsed, day, hheld, -, hnumber⟩
  · rw [hnone] at h
    cases h
  · rw [hheld] at h
    have hsame : s.parses + 1 = parsed.number := congrArg Parsed.number (Option.some.inj h)
    omega

structure Obeys (s : Slots) (c : Call) : Prop where
  /-- One and the same query stays in its slot exactly if the label is that of the text
  today. -/
  stays_iff : ∀ text, s.asks? c = some text → s.fault? c = none →
    ((∃ parsed, s.held = some parsed ∧ (s.step c).held = some parsed) ↔
      s.label = some (s.labelOf text))
  stays : ∀ text, s.asks? c = some text → s.fault? c = none →
    s.label = some (s.labelOf text) → s.Keeps (s.step c)
  replaces : ∀ text, s.asks? c = some text → s.fault? c = none →
    s.label ≠ some (s.labelOf text) →
      ∃ q, Query.parseAt s.conventions s.clock text = .ok q ∧ s.step c = s.fill text q
  empties : c = .invalidate → (s.step c).label = none ∧ (s.step c).held = none
  /-- A call that asks for no query is one to set the clock or the notes, or a search with a
  provider. -/
  leaves : s.asks? c = none → c ≠ .invalidate → s.Keeps (s.step c)
  /-- A parse fails only at a clock reading without a local time. -/
  fails : ∀ e, s.fault? c = some e → s.Keeps (s.step c) ∧ ∃ e, s.clock.local = .error e
  scope : ∀ raw scope, c = .search raw scope → s.provider = none → s.fault? c = none →
    s.step c = s.step (.query raw)

theorem step_search {s : Slots} {raw scope : Option Text} (hprovider : s.provider = none)
    (hfault : s.fault? (.search raw scope) = none) :
    s.step (.search raw scope) = s.step (.query raw) := by
  cases hf : s.scopeFault scope with
  | some e => simp [fault?, call, hf] at hfault
  | none => simp [step, call, hf, hprovider]

theorem obeys {s : Slots} (hs : s.IsFiled) (c : Call) : s.Obeys c where
  stays_iff text hasks hfault := by
    rcases step_of_asks hs hasks hfault with ⟨hlabel, hstep⟩ | ⟨hlabel, q, -, hstep⟩
    · rw [hstep]
      refine iff_of_true ?_ hlabel
      rcases hs with ⟨hnone, -⟩ | ⟨parsed, -, hheld, -⟩
      · rw [hnone] at hlabel
        cases hlabel
      · exact ⟨parsed, hheld, hheld⟩
    · refine iff_of_false ?_ hlabel
      rintro ⟨parsed, hbefore, hafter⟩
      rw [hstep] at hafter
      exact held_ne_fill hs text q (hafter.trans hbefore.symm)
  stays text hasks hfault hlabel := by
    rcases step_of_asks hs hasks hfault with ⟨-, hstep⟩ | ⟨hne, -⟩
    · rw [hstep]
      exact .refl s
    · exact absurd hlabel hne
  replaces text hasks hfault hlabel := by
    rcases step_of_asks hs hasks hfault with ⟨heq, -⟩ | ⟨-, hq⟩
    · exact absurd heq hlabel
    · exact hq
  empties := by
    rintro rfl
    exact ⟨rfl, rfl⟩
  leaves := step_of_not_asks
  fails _ := step_of_fault hs
  scope _ _ hc hprovider hfault := by
    subst hc
    exact step_search hprovider hfault

/-! ## Runs -/

/-- A call puts another query into its slot. -/
def Fills (s : Slots) (c : Call) : Prop := (s.step c).held ≠ none ∧ (s.step c).held ≠ s.held

/-- A query stands in its slot since a call of a run, which was the latest one to fill the
slots: it parsed the text of the query, on a day. -/
structure IsPlacedBy (s : Slots) (before : List Call) (c : Call) (after : List Call)
    (parsed : Parsed) (day : Day) : Prop where
  asks : (s.run before).asks? c = some parsed.query.raw
  day_eq : (s.run before).clock.wall.day = day
  parse : Query.parseAt s.conventions (s.run before).clock parsed.query.raw = .ok parsed.query
  fills : (s.run before).Fills c
  stays : ∀ mid rest, after = mid ++ rest → (s.run (before ++ c :: mid)).held = some parsed
  latest : ∀ mid d rest, after = mid ++ d :: rest → ¬(s.run (before ++ c :: mid)).Fills d

theorem not_fills_of_stays {s : Slots} {before : List Call} {c : Call} {after : List Call}
    {parsed : Parsed}
    (h : ∀ mid rest, after = mid ++ rest → (s.run (before ++ c :: mid)).held = some parsed) :
    ∀ mid d rest, after = mid ++ d :: rest → ¬(s.run (before ++ c :: mid)).Fills d := by
  rintro mid d rest rfl ⟨-, hne⟩
  have hlater := h (mid ++ [d]) rest (by simp)
  have hassoc : before ++ c :: (mid ++ [d]) = (before ++ c :: mid) ++ [d] := by simp
  rw [hassoc, run_concat] at hlater
  exact hne (hlater.trans (h mid (d :: rest) rfl).symm)

/-- A query that stays in its slot was placed by the same call as before. -/
theorem IsPlacedBy.concat {s : Slots} {before : List Call} {c : Call} {after : List Call}
    {parsed : Parsed} {day : Day} (h : s.IsPlacedBy before c after parsed day) {d : Call}
    (hheld : (s.run (before ++ c :: (after ++ [d]))).held = some parsed) :
    s.IsPlacedBy before c (after ++ [d]) parsed day := by
  have hstays : ∀ mid rest, after ++ [d] = mid ++ rest →
      (s.run (before ++ c :: mid)).held = some parsed := by
    intro mid rest heq
    rcases List.eq_nil_or_concat rest with rfl | ⟨rest, e, rfl⟩
    · rw [List.append_nil] at heq
      rw [← heq]
      exact hheld
    · rw [List.concat_eq_append, ← List.append_assoc] at heq
      exact h.stays mid rest (List.append_inj_left' heq rfl)
  exact ⟨h.asks, h.day_eq, h.parse, h.fills, hstays, not_fills_of_stays hstays⟩

section Run

variable (conventions : Conventions) (provider : Option SearchProvider) (now : Moment)

/-- The slots after a run are those of the session after it. -/
theorem run_start (calls : List Call) :
    (start conventions provider now).run calls =
      ofSession ((Host.start conventions provider now).run (calls.map Call.step)).session :=
  run_ofSession (Host.start conventions provider now) calls

theorem isFiled_run (calls : List Call) : ((start conventions provider now).run calls).IsFiled := by
  rw [run_start]
  exact isFiled_ofSession _

theorem conventions_run (calls : List Call) :
    ((start conventions provider now).run calls).conventions = conventions := by
  rw [run_start]
  exact (Host.run_keeps conventions provider now (calls.map Call.step)).1

theorem exists_isPlacedBy (calls : List Call) {parsed : Parsed} {text : Text} {day : Day}
    (hheld : ((start conventions provider now).run calls).held = some parsed)
    (hlabel : ((start conventions provider now).run calls).label = some (text, day)) :
    ∃ before c after, calls = before ++ c :: after ∧
      (start conventions provider now).IsPlacedBy before c after parsed day := by
  induction calls using List.reverseRecOn with
  | nil => cases hheld
  | append_singleton calls d ih =>
    have hfiled := isFiled_run conventions provider now calls
    rw [run_concat] at hheld hlabel
    rcases step_cases hfiled d with ⟨hl, hh, -⟩ | ⟨-, hh, -⟩ | ⟨text', q, hasks, hparse, hstep⟩
    · obtain ⟨before, c, after, rfl, hplaced⟩ := ih (hh.symm.trans hheld) (hl.symm.trans hlabel)
      refine ⟨before, c, after ++ [d], by simp, hplaced.concat ?_⟩
      have hassoc : before ++ c :: (after ++ [d]) = (before ++ c :: after) ++ [d] := by simp
      rw [hassoc, run_concat]
      exact hheld
    · rw [hh] at hheld
      cases hheld
    · have hne := held_ne_fill hfiled text' q
      have hraw := Query.raw_of_parseAt hparse
      rw [← hstep] at hne
      have hfills : ((start conventions provider now).run calls).Fills d := ⟨by simp [hheld], hne⟩
      have hstays : ∀ mid rest, ([] : List Call) = mid ++ rest →
          ((start conventions provider now).run (calls ++ d :: mid)).held = some parsed := by
        intro mid rest heq
        obtain ⟨rfl, rfl⟩ := List.append_eq_nil_iff.mp heq.symm
        rw [run_concat]
        exact hheld
      rw [hstep] at hheld hlabel
      cases hheld
      cases hlabel
      refine ⟨calls, d, [], rfl, ?_, rfl, ?_, hfills, hstays, not_fills_of_stays hstays⟩
      · rw [hasks, hraw]
      · rw [conventions_run] at hparse
        rw [hraw]
        exact hparse

end Run

/-- Whether a session keeps its query over a call is whether one and the same query stays in
its slot. -/
theorem keeps_iff (h : Host) (c : Call) :
    h.session.keeps (h.step c.step).session = true ↔
      ((ofSession h.session).step c).held = (ofSession h.session).held := by
  have hfiled := isFiled_ofSession h.session
  have hkeeps : h.session.keeps (h.step c.step).session =
      ((ofSession h.session).parses == ((ofSession h.session).step c).parses &&
        (ofSession h.session).held.isSome == ((ofSession h.session).step c).held.isSome) := by
    rw [step_ofSession]
    simp only [Session.keeps, ofSession, Option.isSome_map]
  rw [hkeeps]
  generalize ofSession h.session = s at hfiled
  rcases step_cases hfiled c with ⟨-, hh, hp⟩ | ⟨-, hh, hp⟩ | ⟨text, q, -, -, hstep⟩
  · simp [hh, hp]
  · cases hs : s.held <;> simp [hh, hp]
  · rw [hstep]
    refine iff_of_false ?_ (held_ne_fill hfiled text q)
    simp [fill]

/-- In every run the slots are those that the session shows. They are both empty, or the label
is the text of the query with a day, and a call of the run that was the latest to fill them
parsed the query on that day. From there each further call obeys the rules, and the session
says rightly whether it has kept its query. -/
theorem run_obeys (conventions : Conventions) (provider : Option SearchProvider) (now : Moment)
    (calls : List Call) :
    ∃ s h, s = (start conventions provider now).run calls ∧
      h = (Host.start conventions provider now).run (calls.map Call.step) ∧
      s = ofSession h.session ∧
      ((s.label = none ∧ s.held = none) ∨
        ∃ parsed day, s.held = some parsed ∧ s.label = some (parsed.query.raw, day) ∧
          parsed.number = s.parses ∧ ∃ before c after, calls = before ++ c :: after ∧
            (start conventions provider now).IsPlacedBy before c after parsed day) ∧
      ∀ c, s.Obeys c ∧ s.step c = ofSession (h.step c.step).session ∧
        (h.session.keeps (h.step c.step).session = true ↔ (s.step c).held = s.held) := by
  have hfiled := isFiled_run conventions provider now calls
  have hshown := run_start conventions provider now calls
  refine ⟨_, _, rfl, rfl, hshown, ?_, fun c => ⟨obeys hfiled c, ?_, ?_⟩⟩
  · rcases hfiled with hnone | ⟨parsed, day, hheld, hlabel, hnumber⟩
    · exact Or.inl hnone
    · exact Or.inr ⟨parsed, day, hheld, hlabel, hnumber,
        exists_isPlacedBy conventions provider now calls hheld hlabel⟩
  · rw [hshown]
    exact step_ofSession _ c
  · rw [hshown]
    exact keeps_iff _ c

/-- The first instant, as written five hours to the east: it has no local time. -/
def eastOfFirst : Moment := ⟨.first, some ⟨18000000000, 0⟩⟩

/-- A tag is asked for on the first day, and a date at a reading without a local time. -/
def daybreak : List Call := [.query (some "#a".toList), .setClock eastOfFirst]

/-- The date cannot be read then, and the tag stays; a missing text takes its place. -/
theorem run_obeys_daybreak :
    ∃ s, s = (start {} none ⟨.first, none⟩).run daybreak ∧
      (∃ e, s.fault? (.filter (some "@today".toList)) = some e) ∧
      (s.step (.filter (some "@today".toList))).label = some ("#a".toList, Day.first) ∧
      (s.step (.filter none)).label = some ([], Day.first) := by
  obtain ⟨s, h, rfl, -, -, -, hrules⟩ := run_obeys {} none ⟨.first, none⟩ daybreak
  have hfault : ((start {} none ⟨.first, none⟩).run daybreak).fault?
      (.filter (some "@today".toList)) = some {} := by rfl
  have hlabel : ((start {} none ⟨.first, none⟩).run daybreak).label =
      some ("#a".toList, Day.first) := by rfl
  obtain ⟨⟨hkeeps, -⟩, -⟩ := (hrules _).1.fails _ hfault
  obtain ⟨q, -, hfill⟩ := (hrules (.filter none)).1.replaces [] rfl rfl (by rw [hlabel]; decide)
  refine ⟨_, rfl, ⟨_, hfault⟩, hkeeps.trans hlabel, ?_⟩
  rw [hfill]
  rfl

end Slots

end NoteQuery
