import Mathlib.Data.List.Induction
import NoteQuery.Session

/-!
# Runs of a session

What a host can do with a session, in any order and any number: move the clock, take a
new snapshot of the notes, drop the cached query, ask for a query, filter, and search.
A step reaches the cache in one way only, by asking for the query of a text.
-/
namespace NoteQuery

structure Host where
  session : Session
  notes : List Note

inductive Host.Step where
  | setClock (now : Moment)
  | setNotes (notes : List Note)
  | invalidate
  | query (raw : Text)
  | filter (raw : Text)
  | search (raw : Text) (scope : Option Text)

namespace Session

def fresh (conventions : Conventions) (provider : Option SearchProvider) (now : Moment) :
    Session :=
  { conventions, provider, clock := now }

/-- Asking for a query finds the cached one, parses the text, or fails and leaves all as
it was. -/
theorem query_cases (s : Session) (raw : Text) :
    (∃ q, s.hit? raw = some q ∧ s.query raw = (.ok q, s)) ∨
      (s.hit? raw = none ∧ ∃ q, s.parse raw = .ok q ∧ s.query raw = (.ok q, s.store q)) ∨
      (s.hit? raw = none ∧ ∃ e, s.parse raw = .error e ∧ s.query raw = (.error e, s)) := by
  cases hh : s.hit? raw with
  | some q => exact Or.inl ⟨q, rfl, by rw [query, hh]⟩
  | none =>
    cases hp : s.parse raw with
    | ok q => exact Or.inr (Or.inl ⟨rfl, q, rfl, by rw [query, hh, hp]⟩)
    | error e => exact Or.inr (Or.inr ⟨rfl, e, rfl, by rw [query, hh, hp]⟩)

/-- A hit is the entry of the text, filed under the day of the clock. -/
theorem entry_of_hit {s : Session} {raw : Text} {q : Query} (h : s.hit? raw = some q) :
    ∃ entry, s.cached = some entry ∧ entry.query = q ∧ entry.query.raw = raw ∧
      entry.day = s.clock.wall.day := by
  obtain ⟨entry, hentry, hq⟩ := Option.bind_eq_some_iff.mp h
  by_cases hkey : entry.query.raw = raw ∧ entry.day = s.clock.wall.day
  · simp only [hkey.1, hkey.2, beq_self_eq_true, Bool.and_self, if_true, Option.some.injEq] at hq
    exact ⟨entry, hentry, hq, hkey.1, hkey.2⟩
  · simp [hkey] at hq

theorem query_of_miss {s : Session} {raw : Text} (h : s.hit? raw = none) :
    (s.query raw).1 = s.parse raw := by
  rcases s.query_cases raw with ⟨q, hq, -⟩ | ⟨-, q, hp, hq⟩ | ⟨-, e, hp, hq⟩
  · rw [h] at hq
    cases hq
  · rw [hq, hp]
  · rw [hq, hp]

/-- The session after a query differs in the cache at most. -/
theorem query_keeps (s : Session) (raw : Text) :
    (s.query raw).2.conventions = s.conventions ∧ (s.query raw).2.provider = s.provider ∧
      (s.query raw).2.clock = s.clock := by
  rcases s.query_cases raw with ⟨q, -, hq⟩ | ⟨-, q, -, hq⟩ | ⟨-, e, -, hq⟩
  · rw [hq]
    exact ⟨rfl, rfl, rfl⟩
  · rw [hq]
    exact ⟨rfl, rfl, rfl⟩
  · rw [hq]
    exact ⟨rfl, rfl, rfl⟩

theorem filter_snd (s : Session) (raw : Text) (notes : List Note) :
    (s.filter raw notes).2 = (s.query raw).2 := by
  rw [filter]
  rcases h : s.query raw with ⟨_ | _, _⟩ <;> rfl

/-- What a filter answers depends on the query alone. -/
theorem filter_fst (s : Session) (raw : Text) (notes : List Note) :
    (s.filter raw notes).1 =
      match (s.query raw).1 with
      | .ok q => run q notes
      | .error e => .error (.outOfCalendar e) := by
  rw [filter]
  rcases s.query raw with ⟨_ | _, _⟩ <;> rfl

/-- A search reaches the cache only if no provider is there and the scope is readable. -/
theorem search_cases (s : Session) (raw : Text) (notes : List Note) (scope : Option Text) :
    (s.search raw notes scope).2 = s ∨
      (s.provider = none ∧ (s.search raw notes scope).2 = (s.query raw).2) ∨
      ∃ provider, (s.search raw notes scope).2 = (s.ask provider raw).2 := by
  rw [search]
  cases s.scopeRoot scope with
  | error e => exact Or.inl rfl
  | ok root =>
    cases hp : s.provider with
    | none =>
      refine Or.inr (Or.inl ⟨rfl, ?_⟩)
      rw [← s.filter_snd raw notes]
    | some provider => exact Or.inr (Or.inr ⟨provider, rfl⟩)

end Session

namespace Host

def start (conventions : Conventions) (provider : Option SearchProvider) (now : Moment) :
    Host :=
  ⟨Session.fresh conventions provider now, []⟩

def step (h : Host) : Step → Host
  | .setClock now => { h with session := h.session.setClock now }
  | .setNotes notes => { h with notes }
  | .invalidate => { h with session := h.session.invalidate }
  | .query raw => { h with session := (h.session.query raw).2 }
  | .filter raw => { h with session := (h.session.filter raw h.notes).2 }
  | .search raw scope => { h with session := (h.session.search raw h.notes scope).2 }

def run (h : Host) (steps : List Step) : Host := steps.foldl step h

theorem run_concat (h : Host) (steps : List Step) (a : Step) :
    h.run (steps ++ [a]) = (h.run steps).step a := by
  simp [run]

/-- What a step can do to the session: set the clock, leave it, drop the cached query, ask
for the query of a text, or ask the provider. -/
theorem step_session (h : Host) (a : Step) :
    (∃ now, (h.step a).session = h.session.setClock now) ∨
      (h.step a).session = h.session ∨
      (h.step a).session = h.session.invalidate ∨
      (∃ raw, (h.step a).session = (h.session.query raw).2) ∨
      ∃ provider raw, (h.step a).session = (h.session.ask provider raw).2 := by
  cases a with
  | setClock now => exact Or.inl ⟨now, rfl⟩
  | setNotes notes => exact Or.inr (Or.inl rfl)
  | invalidate => exact Or.inr (Or.inr (Or.inl rfl))
  | query raw => exact Or.inr (Or.inr (Or.inr (Or.inl ⟨raw, rfl⟩)))
  | filter raw =>
    exact Or.inr (Or.inr (Or.inr (Or.inl ⟨raw, h.session.filter_snd raw h.notes⟩)))
  | search raw scope =>
    rcases h.session.search_cases raw h.notes scope with hs | ⟨-, hs⟩ | ⟨provider, hs⟩
    · exact Or.inr (Or.inl hs)
    · exact Or.inr (Or.inr (Or.inr (Or.inl ⟨raw, hs⟩)))
    · exact Or.inr (Or.inr (Or.inr (Or.inr ⟨provider, raw, hs⟩)))

/-- What a step can do to the cache: leave it, drop it, or fill it with a parse at the
clock of the moment. -/
theorem step_cached (h : Host) (a : Step) :
    (h.step a).session.cached = h.session.cached ∨ (h.step a).session.cached = none ∨
      ∃ raw q, h.session.parse raw = .ok q ∧
        (h.step a).session.cached = some ⟨h.session.clock.wall.day, q⟩ := by
  rcases h.step_session a with ⟨now, hs⟩ | hs | hs | ⟨raw, hs⟩ | ⟨provider, raw, hs⟩
  · rw [hs]
    exact Or.inl rfl
  · rw [hs]
    exact Or.inl rfl
  · rw [hs]
    exact Or.inr (Or.inl rfl)
  · rw [hs]
    rcases h.session.query_cases raw with ⟨q, -, hq⟩ | ⟨-, q, hp, hq⟩ | ⟨-, e, -, hq⟩
    · exact Or.inl (by rw [hq])
    · exact Or.inr (Or.inr ⟨raw, q, hp, by rw [hq]; rfl⟩)
    · exact Or.inl (by rw [hq])
  · rw [hs]
    exact Or.inl rfl

theorem step_keeps (h : Host) (a : Step) :
    (h.step a).session.conventions = h.session.conventions ∧
      (h.step a).session.provider = h.session.provider := by
  rcases h.step_session a with ⟨now, hs⟩ | hs | hs | ⟨raw, hs⟩ | ⟨provider, raw, hs⟩
  · rw [hs]
    exact ⟨rfl, rfl⟩
  · rw [hs]
    exact ⟨rfl, rfl⟩
  · rw [hs]
    exact ⟨rfl, rfl⟩
  · rw [hs]
    exact ⟨(h.session.query_keeps raw).1, (h.session.query_keeps raw).2.1⟩
  · rw [hs]
    exact ⟨rfl, rfl⟩

theorem run_keeps (conventions : Conventions) (provider : Option SearchProvider) (now : Moment)
    (steps : List Step) :
    ((start conventions provider now).run steps).session.conventions = conventions ∧
      ((start conventions provider now).run steps).session.provider = provider := by
  induction steps using List.reverseRecOn with
  | nil => exact ⟨rfl, rfl⟩
  | append_singleton steps a ih =>
    rw [run_concat]
    have hstep := step_keeps ((start conventions provider now).run steps) a
    exact ⟨hstep.1.trans ih.1, hstep.2.trans ih.2⟩

end Host

end NoteQuery
