import NoteQuery.Proofs.Calendar.Months
import NoteQuery.Proofs.Faults.Editing
import NoteQuery.Proofs.Note.RoundTrip
import NoteQuery.Proofs.Query.Closed
import NoteQuery.Proofs.Query.ParseTime
import NoteQuery.Proofs.Query.WellFormed

/-!
# Queries without faults

At a clock reading in local time every text is parsed, and no step on the way goes wrong
unseen. The ranges of the query lie in the calendar, the query is decided on every note that is
read from a dictionary, and its text can be edited with any tag and any property.
-/
namespace NoteQuery

namespace Instant

theorem first_le (t : Instant) : first ≤ t := Nat.zero_le t.ticks

end Instant

def DateRange.IsInCalendar (r : DateRange) : Prop :=
  (Instant.first ≤ r.start ∧ r.start ≤ r.stop ∧ r.stop ≤ Instant.last) ∧
    ∀ t ∈ [r.start, r.stop], Day.IsDate t.day.year t.day.month t.day.dayOfMonth

theorem DateRange.isInCalendar_of_le {r : DateRange} (h : r.start ≤ r.stop) : r.IsInCalendar :=
  ⟨⟨r.start.first_le, h, r.stop.le_last⟩, fun t _ => t.day.isDate⟩

theorem Note.hasLocalTimes_of_isRead {n : Note} (h : n.IsRead) : n.HasLocalTimes := by
  intro field m hm
  have hoffset : m.offset = none := by
    cases field with
    | created => exact h.created m hm
    | modified => exact h.modified m hm
  obtain ⟨wall, offset⟩ := m
  cases hoffset
  exact ⟨wall, rfl⟩

namespace Query

/-- The ranges that a query asks for lie in the calendar. -/
theorem isInCalendar_of_mem_leaves {ctx : Context} {raw : Text} {x : Term}
    (hx : x ∈ (parse ctx raw).root.leaves) {field : DateField} {range : DateRange}
    (hdate : x.criterion = .date field range) : range.IsInCalendar := by
  obtain ⟨s, -, hmem, -, hcriterion⟩ := exists_segment_of_mem_leaves hx
  have hform := Criterion.isWellFormed_ofToken? (Token.standsIn_of_mem hmem).text_ne_nil hcriterion
  rw [hdate] at hform
  exact DateRange.isInCalendar_of_le hform

/-- A query is decided on every note that is read from a dictionary. -/
theorem decides_of_ofEntries (ctx : Context) (raw : Text) {zone : Zone}
    {entries : List (Value × Value)} {n : Note} (h : Note.ofEntries zone entries = .ok n) :
    (parse ctx raw).root.Decides n :=
  decides_of_hasLocalTimes (isClosed_parse ctx raw)
    (Note.hasLocalTimes_of_isRead (Note.isRead_of_ofEntries h))

/-- Whatever a reader types, at whatever local time and under whatever conventions, is parsed
without a fault, to a query of dates in the calendar that is decided on every note; and the
text is edited without a fault. -/
theorem parseAt_total (conventions : Conventions) (now : Instant) (raw : Text) :
    ∃ q, parseAt conventions ⟨now, none⟩ raw = .ok q ∧
      Checked.parse ⟨now, conventions⟩ raw = .ok q ∧
      (∀ x ∈ q.root.leaves, ∀ field range, x.criterion = .date field range →
        range.IsInCalendar) ∧
      (∀ zone entries n, Note.ofEntries zone entries = .ok n → ∃ b, q.root.holds n = .ok b) ∧
      (∀ tag operator,
        Checked.toggleTag raw tag operator = .ok (Edit.toggleTag raw tag operator)) ∧
      ∀ key value operator, Checked.toggleProperty raw key value operator =
        .ok (Edit.toggleProperty raw key value operator) := by
  refine ⟨_, parseAt_of_local conventions rfl raw, Checked.parse_eq _ raw, ?_, ?_, ?_, ?_⟩
  · exact fun x hx field range hdate => isInCalendar_of_mem_leaves hx hdate
  · exact fun zone entries n h => decides_of_ofEntries _ raw h
  · exact fun tag operator => Checked.toggleTag_eq raw tag operator
  · exact fun key value operator => Checked.toggleProperty_eq raw key value operator

end Query

end NoteQuery
