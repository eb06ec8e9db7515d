import NoteQuery.Proofs.Dates.ClockDependence
import NoteQuery.Query.Parse

/-!
# What a parse takes from the clock

Two clock readings give one parse of a text exactly if every finished date of the text
has the same range at both. On one calendar day only dates that are left open at their
end can differ.
-/
namespace NoteQuery

def Token.expression (t : Token) : Text := (DateExpr.splitField (t.text.drop 1)).2

namespace Criterion

variable (conventions : Conventions) (now later : Instant)

/-- Only the range of a date depends on the time; whether there is a criterion does not. -/
theorem ofToken?_eq_iff (t : Token) :
    ofToken? ⟨now, conventions⟩ t = ofToken? ⟨later, conventions⟩ t ↔
      (t.asksTime = true →
        DateExpr.resolve? conventions.order now t.expression =
          DateExpr.resolve? conventions.order later t.expression) := by
  by_cases ht : t.asksTime = true
  · obtain ⟨hk, hu⟩ : t.kind = .date ∧ isUnfinishedDate (t.text.drop 1) = false := by
      simpa [Token.asksTime] using ht
    simp only [ofToken?, hk, hu, ofDate?, ht, forall_const, Bool.false_eq_true, if_false,
      Option.some.injEq, Token.expression]
    cases DateExpr.resolve? conventions.order now (DateExpr.splitField (t.text.drop 1)).2 <;>
      cases DateExpr.resolve? conventions.order later (DateExpr.splitField (t.text.drop 1)).2 <;>
      simp
  · simp only [ht, Bool.false_eq_true, false_implies, iff_true]
    simp only [Token.asksTime, Bool.and_eq_true, beq_iff_eq, Bool.not_eq_true', not_and,
      Bool.not_eq_false] at ht
    cases hk : t.kind with
    | date => simp only [ofToken?, hk, ht hk, if_true]
    | _ => simp [ofToken?, hk]

theorem isSome_ofToken? (t : Token) :
    (ofToken? ⟨now, conventions⟩ t).isSome = (ofToken? ⟨later, conventions⟩ t).isSome := by
  cases hk : t.kind with
  | date =>
    simp only [ofToken?, hk]
    cases isUnfinishedDate (t.text.drop 1) <;> simp
  | _ => simp [ofToken?, hk]

end Criterion

namespace Node

theorem conjunctions_congr {ctx other : Context} (negated byWord : Bool) (sofar : Option Node)
    {tokens : List Token}
    (h : ∀ t ∈ tokens, Criterion.ofToken? ctx t = Criterion.ofToken? other t) :
    conjunctions ctx negated byWord sofar tokens =
      conjunctions other negated byWord sofar tokens := by
  induction tokens generalizing negated byWord sofar with
  | nil => rfl
  | cons t rest ih =>
    rw [List.forall_mem_cons] at h
    simp only [conjunctions, h.1, fun negated byWord sofar => ih negated byWord sofar h.2]

theorem mixedTerms_congr {ctx other : Context} (negated : Bool) {tokens : List Token}
    (h : ∀ t ∈ tokens, Criterion.ofToken? ctx t = Criterion.ofToken? other t) :
    mixedTerms ctx negated tokens = mixedTerms other negated tokens := by
  induction tokens generalizing negated with
  | nil => rfl
  | cons t rest ih =>
    rw [List.forall_mem_cons] at h
    simp only [mixedTerms, h.1, fun negated => ih negated h.2]

/-- Terms that are equal in number come from equal tokens. -/
theorem ofToken?_eq_of_mixedTerms {conventions : Conventions} {now later : Instant}
    {negated : Bool} {tokens : List Token}
    (h : mixedTerms ⟨now, conventions⟩ negated tokens =
      mixedTerms ⟨later, conventions⟩ negated tokens) :
    ∀ t ∈ tokens, Criterion.ofToken? ⟨now, conventions⟩ t =
      Criterion.ofToken? ⟨later, conventions⟩ t := by
  induction tokens generalizing negated with
  | nil => exact fun t ht => nomatch ht
  | cons t rest ih =>
    rw [List.forall_mem_cons]
    simp only [mixedTerms] at h
    have hsome := Criterion.isSome_ofToken? conventions now later t
    by_cases hk : t.kind = .negation
    · simp only [hk, beq_self_eq_true, if_true] at h
      exact ⟨by simp [Criterion.ofToken?, hk], ih h⟩
    · simp only [hk, beq_iff_eq, if_false] at h
      cases hnow : Criterion.ofToken? ⟨now, conventions⟩ t <;>
        cases hlater : Criterion.ofToken? ⟨later, conventions⟩ t <;>
        simp only [hnow, hlater, Option.isSome_none, Option.isSome_some, Bool.true_eq_false,
          Bool.false_eq_true, List.cons.injEq, Term.mk.injEq] at h hsome
      · exact ⟨rfl, ih h⟩
      · obtain ⟨⟨rfl, -⟩, h⟩ := h
        exact ⟨rfl, ih h⟩

/-- A pure query asks for no time. -/
theorem asksTime_of_pure {tokens : List Token} {expecting : Bool}
    (h : QueryMode.isPureFrom expecting tokens = true) :
    ∀ t ∈ tokens, t.asksTime = false := by
  induction tokens generalizing expecting with
  | nil => exact fun t ht => nomatch ht
  | cons t rest ih =>
    rw [List.forall_mem_cons]
    rw [QueryMode.isPureFrom] at h
    cases hk : t.kind with
    | connector =>
      simp only [hk, Bool.and_eq_true] at h
      exact ⟨by simp [Token.asksTime, hk], ih h.2⟩
    | negation | tag | property =>
      simp only [hk] at h
      exact ⟨by simp [Token.asksTime, hk], ih h⟩
    | _ => simp [hk] at h

theorem ofTokens_eq_iff (conventions : Conventions) (now later : Instant)
    (tokens : List Token) :
    ofTokens ⟨now, conventions⟩ tokens = ofTokens ⟨later, conventions⟩ tokens ↔
      ∀ t ∈ tokens, t.asksTime = true →
        DateExpr.resolve? conventions.order now t.expression =
          DateExpr.resolve? conventions.order later t.expression := by
  simp only [← Criterion.ofToken?_eq_iff]
  constructor
  · intro h
    by_cases hp : QueryMode.isPureFrom true tokens = true
    · intro t ht
      rw [Criterion.ofToken?_eq_iff, asksTime_of_pure hp t ht]
      intro hask
      cases hask
    · simp only [ofTokens, QueryMode.ofTokens, hp, Bool.false_eq_true, if_false,
        Node.all.injEq] at h
      exact ofToken?_eq_of_mixedTerms ((List.map_inj_right fun _ _ => Node.term.inj).mp h)
  · intro h
    simp only [ofTokens, conjunctions_congr false false none h, mixedTerms_congr false h]

end Node

namespace Query

/-- Every finished date of a text has the same range at two moments, or none at both. -/
def SameDates (conventions : Conventions) (now later : Moment) (raw : Text) : Prop :=
  ∀ t ∈ Token.tokenize raw, t.asksTime = true →
    DateExpr.resolve conventions.order now t.expression =
      DateExpr.resolve conventions.order later t.expression

theorem parseAt_of_local (conventions : Conventions) {now : Moment} {time : Instant}
    (h : now.local = .ok time) (raw : Text) :
    parseAt conventions now raw = .ok (parse ⟨time, conventions⟩ raw) := by
  simp [parseAt, Context.forTokens, h, Except.map]

theorem raw_of_parseAt {conventions : Conventions} {now : Moment} {raw : Text} {q : Query}
    (h : parseAt conventions now raw = .ok q) : q.raw = raw := by
  rw [parseAt] at h
  cases hc : Context.forTokens conventions now (Token.tokenize raw) <;> rw [hc] at h <;> cases h
  rfl

theorem parse_eq_iff (conventions : Conventions) (now later : Instant) (raw : Text) :
    parse ⟨now, conventions⟩ raw = parse ⟨later, conventions⟩ raw ↔
      ∀ t ∈ Token.tokenize raw, t.asksTime = true →
        DateExpr.resolve? conventions.order now t.expression =
          DateExpr.resolve? conventions.order later t.expression := by
  rw [← Node.ofTokens_eq_iff]
  simp [parse]

/-- A text without a finished date has one parse at all times. -/
theorem parseAt_of_not_asksTime (conventions : Conventions) (now : Moment) {raw : Text}
    (h : (Token.tokenize raw).any Token.asksTime = false) :
    parseAt conventions now raw = .ok (parse ⟨.first, conventions⟩ raw) := by
  have hfirst : ∀ time, parse ⟨time, conventions⟩ raw = parse ⟨.first, conventions⟩ raw := by
    intro time
    refine (parse_eq_iff conventions time .first raw).mpr fun t ht hask => ?_
    exact absurd hask (List.any_eq_false.mp h t ht)
  cases hl : now.local with
  | ok time => rw [parseAt_of_local conventions hl, hfirst]
  | error e => simp [parseAt, Context.forTokens, hl, h, Except.map]

theorem parseAt_of_asksTime (conventions : Conventions) (now : Moment) {raw : Text}
    (h : (Token.tokenize raw).any Token.asksTime = true) :
    parseAt conventions now raw = (now.local).map fun time => parse ⟨time, conventions⟩ raw := by
  cases hl : now.local with
  | ok time => rw [parseAt_of_local conventions hl]; rfl
  | error e => simp [parseAt, Context.forTokens, hl, h, Except.map]

/-- Two moments give one result, be it a query or an error, exactly if they give the same
dates. -/
theorem parseAt_eq_iff (conventions : Conventions) (now later : Moment) (raw : Text) :
    parseAt conventions now raw = parseAt conventions later raw ↔
      SameDates conventions now later raw := by
  cases hany : (Token.tokenize raw).any Token.asksTime with
  | false =>
    have hno := List.any_eq_false.mp hany
    rw [parseAt_of_not_asksTime conventions now hany,
      parseAt_of_not_asksTime conventions later hany]
    exact iff_of_true rfl fun t ht hask => absurd hask (hno t ht)
  | true =>
    obtain ⟨t, ht, hask⟩ := List.any_eq_true.mp hany
    rw [parseAt_of_asksTime conventions now hany, parseAt_of_asksTime conventions later hany]
    simp only [SameDates, DateExpr.resolve]
    cases now.local with
    | error e =>
      cases later.local with
      | error e' => exact iff_of_true rfl fun _ _ _ => rfl
      | ok b => exact iff_of_false nofun fun h => nomatch h t ht hask
    | ok a =>
      cases later.local with
      | error e => exact iff_of_false nofun fun h => nomatch h t ht hask
      | ok b => simpa only [Except.map, Except.ok.injEq] using parse_eq_iff conventions a b raw

/-- On one local day only the dates that are left open at their end can differ, and these
do not if their left side ends behind both times. -/
theorem sameDates_iff_of_day (conventions : Conventions) {now later : Moment}
    {time laterTime : Instant} (hnow : now.local = .ok time) (hlater : later.local = .ok laterTime)
    (hd : time.day = laterTime.day) (raw : Text) :
    SameDates conventions now later raw ↔
      ∀ t ∈ Token.tokenize raw, t.asksTime = true → ∀ left a,
        DateExpr.openLeft? t.expression = some left →
        DateExpr.side? conventions.order laterTime left = some a →
        max time a.stop = max laterTime a.stop := by
  simp only [SameDates, DateExpr.resolve, hnow, hlater, Except.map, Except.ok.injEq,
    DateExpr.resolve?_eq_iff conventions.order hd]

end Query

end NoteQuery
