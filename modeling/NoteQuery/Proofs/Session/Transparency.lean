import NoteQuery.Proofs.Query.ParseTime
import NoteQuery.Proofs.Session.Runs

/-!
# What the cache shows

A session answers every text as it would have at some earlier reading of its clock with
the same calendar day. That is the answer of the moment exactly if the two readings give
the same dates: a date that is left open at its end may differ between two times of one
day, and readings with an offset may share their own day, but not the local one.
-/
namespace NoteQuery

namespace Host

/-- The cached query is the parse of its own text at the clock of an earlier moment of
the run, on the day that it is filed under. -/
theorem run_cached (conventions : Conventions) (provider : Option SearchProvider)
    (now : Moment) (steps : List Step) {entry : CacheEntry}
    (h : ((start conventions provider now).run steps).session.cached = some entry) :
    ∃ before after, steps = before ++ after ∧
      ((start conventions provider now).run before).session.clock.wall.day = entry.day ∧
      Query.parseAt conventions ((start conventions provider now).run before).session.clock
        entry.query.raw = .ok entry.query := by
  induction steps using List.reverseRecOn generalizing entry with
  | nil => cases h
  | append_singleton steps a ih =>
    rw [run_concat] at h
    rcases step_cached ((start conventions provider now).run steps) a with
      hs | hs | ⟨raw, q, hp, hs⟩
    · rw [hs] at h
      obtain ⟨before, after, rfl, hday, hparse⟩ := ih h
      exact ⟨before, after ++ [a], by simp, hday, hparse⟩
    · rw [hs] at h
      cases h
    · rw [hs] at h
      cases h
      rw [Session.parse, (run_keeps conventions provider now steps).1] at hp
      exact ⟨steps, [a], rfl, rfl, by rw [Query.raw_of_parseAt hp]; exact hp⟩

/-- Every answer is the parse at some moment of the run with the calendar day of now. -/
theorem query_run (conventions : Conventions) (provider : Option SearchProvider)
    (now : Moment) (steps : List Step) (raw : Text) :
    ∃ before after, steps = before ++ after ∧
      ((start conventions provider now).run before).session.clock.wall.day =
        ((start conventions provider now).run steps).session.clock.wall.day ∧
      (((start conventions provider now).run steps).session.query raw).1 =
        Query.parseAt conventions ((start conventions provider now).run before).session.clock
          raw := by
  have hconv := (run_keeps conventions provider now steps).1
  cases hh : ((start conventions provider now).run steps).session.hit? raw with
  | none =>
    refine ⟨steps, [], by simp, rfl, ?_⟩
    rw [Session.query_of_miss hh, Session.parse, hconv]
  | some q =>
    obtain ⟨entry, hentry, rfl, hraw, hday⟩ := Session.entry_of_hit hh
    obtain ⟨before, after, rfl, hd, hp⟩ := run_cached conventions provider now steps hentry
    refine ⟨before, after, rfl, hd.trans hday, ?_⟩
    rw [Session.query, hh, ← hraw, hp]

/-- A query is answered as at an earlier reading of the clock with the same calendar day,
and that is the answer of the moment exactly if both readings give the dates of the text
the same ranges. Then a filter selects what a session without a cache would select. On
readings with one local day the dates to look at are those left open at their end. -/
theorem query_eq_parseAt_iff (conventions : Conventions) (provider : Option SearchProvider)
    (now : Moment) (steps : List Step) (raw : Text) :
    ∃ s, s = ((start conventions provider now).run steps).session ∧
    ∃ before after filled, steps = before ++ after ∧
      filled = ((start conventions provider now).run before).session.clock ∧
      filled.wall.day = s.clock.wall.day ∧
      (s.query raw).1 = Query.parseAt conventions filled raw ∧
      ((s.query raw).1 = Query.parseAt conventions s.clock raw ↔
        Query.SameDates conventions filled s.clock raw) ∧
      (Query.SameDates conventions filled s.clock raw → ∀ notes,
        (s.filter raw notes).1 =
          ((Session.fresh conventions provider s.clock).filter raw notes).1) ∧
      (∀ time later, filled.local = .ok time → s.clock.local = .ok later →
        time.day = later.day →
        (Query.SameDates conventions filled s.clock raw ↔
          ∀ t ∈ Token.tokenize raw, t.asksTime = true → ∀ left a,
            DateExpr.openLeft? t.expression = some left →
            DateExpr.side? conventions.order later left = some a →
            max time a.stop = max later a.stop)) := by
  obtain ⟨before, after, hsteps, hday, hquery⟩ := query_run conventions provider now steps raw
  have hiff := Query.parseAt_eq_iff conventions
    ((start conventions provider now).run before).session.clock
    ((start conventions provider now).run steps).session.clock raw
  refine ⟨_, rfl, before, after, _, hsteps, rfl, hday, hquery, ?_, ?_, ?_⟩
  · rw [hquery]
    exact hiff
  · intro hsame notes
    have hmiss : (Session.fresh conventions provider
        ((start conventions provider now).run steps).session.clock).hit? raw = none := rfl
    rw [Session.filter_fst, Session.filter_fst, hquery, hiff.mpr hsame,
      Session.query_of_miss hmiss]
    rfl
  · intro time later htime hlater hd
    exact Query.sameDates_iff_of_day conventions htime hlater hd raw

/-- Noon and six in the evening of the fourth of February 2026. -/
def noon : Moment := ⟨⟨63905803200000000, by decide⟩, none⟩

def evening : Moment := ⟨⟨63905824800000000, by decide⟩, none⟩

def sinceFebruary : Text := "@2026-02-01..".toList

/-- In the evening a session still answers that the range ends at noon. -/
theorem query_ne_parseAt_evening :
    (((start {} none noon).run [.query sinceFebruary, .setClock evening]).session.query
      sinceFebruary).1 ≠ Query.parseAt {} evening sinceFebruary := by
  have hquery : (((start {} none noon).run [.query sinceFebruary, .setClock evening]).session.query
      sinceFebruary).1 = Query.parseAt {} noon sinceFebruary := by
    rfl
  rw [hquery]
  intro heq
  have hsame := (Query.parseAt_eq_iff {} noon evening sinceFebruary).mp heq
  have hnoon : noon.local = .ok noon.wall := rfl
  have hevening : evening.local = .ok evening.wall := rfl
  have hopen := (Query.sameDates_iff_of_day {} hnoon hevening rfl
    sinceFebruary).mp hsame ⟨.date, sinceFebruary, 0, 13⟩ (by decide) (by decide)
    "2026-02-01".toList ⟨⟨63905500800000000, by decide⟩, ⟨63905587199999999, by decide⟩⟩
    (by decide) (by decide)
  exact absurd hopen (by decide)

end Host

end NoteQuery
