import NoteQuery.Proofs.Query.Negation
import NoteQuery.Proofs.Query.Printing
import NoteQuery.Proofs.Query.Shape

/-!
# Values of properties that are there

A property counts as there if some value under its key says anything, and the key may be written in
several ways. Whether a value says anything and whether it holds a text are asked by two functions,
both of which look into lists at any depth. A text that is not blank says something wherever it
is held, so that asking for such a value is never weaker than asking for the property alone.
-/
namespace NoteQuery

namespace Value

variable {expected : Text}

mutual

/-- A text that is not blank is content, however deep it lies. -/
theorem hasContent_of_holdsText (h : Text.trim expected ≠ []) :
    ∀ v : Value, v.holdsText expected = true → v.hasContent = true
  | .text s, hv => by
    obtain rfl : s = expected := beq_iff_eq.mp hv
    have hne : (Text.trim s).isEmpty = false := List.isEmpty_eq_false_iff.mpr h
    show (!(Text.trim s).isEmpty) = true
    rw [hne]
    rfl
  | .list items, hv => anyHasContent_of_anyHoldsText h items hv
  | .null, hv | .bool _, hv | .int _, hv | .float _, hv => nomatch hv
  | .date _, hv | .moment _, hv | .clock _, hv | .dict _, hv => nomatch hv

theorem anyHasContent_of_anyHoldsText (h : Text.trim expected ≠ []) :
    ∀ items : List Value, anyHoldsText expected items = true → anyHasContent items = true
  | [], hitems => nomatch hitems
  | v :: rest, hitems => by
    rw [anyHoldsText, Bool.or_eq_true] at hitems
    rw [anyHasContent, Bool.or_eq_true]
    exact hitems.imp (hasContent_of_holdsText h v) (anyHasContent_of_anyHoldsText h rest)

end

end Value

/-- Two criteria that read no timestamp, of which the second holds wherever the first does. -/
structure Criterion.Implies (c d : Criterion) : Prop where
  timeless : c.IsTimeless ∧ d.IsTimeless
  holds : ∀ n, c.holds n = .ok true → d.holds n = .ok true

/-- The values under a key are the same for both, so one of them serves. -/
theorem Criterion.implies_property (key : Text) {value : Text}
    (h : ∃ c ∈ value, Text.isBlank c = false) :
    (property key (some value)).Implies (property key none) := by
  refine ⟨⟨trivial, trivial⟩, fun n hn => ?_⟩
  have hheld : (n.valuesOf key).any (Value.holdsText value) = true := Except.ok.inj hn
  obtain ⟨v, hv, hholds⟩ := List.any_eq_true.mp hheld
  have hcontent := Value.hasContent_of_holdsText (Text.trim_ne_nil h) v hholds
  exact congrArg Except.ok (List.any_eq_true.mpr ⟨v, hv, hcontent⟩)

namespace Node

/-! ## Narrower trees -/

/-- Both trees answer on all notes, and the first selects some of what the second does. -/
def Narrows (m k : Node) : Prop :=
  ∀ notes, ∃ few many, m.select notes = .ok few ∧ k.select notes = .ok many ∧ few.Sublist many

variable {m k : Node}

theorem narrows_of_holds (hm : ∀ n, m.Decides n) (hk : ∀ n, k.Decides n)
    (h : ∀ n, m.holds n = .ok true → k.holds n = .ok true) : m.Narrows k := by
  intro notes
  refine ⟨_, _, select_of_decides fun n _ => hm n, select_of_decides fun n _ => hk n, ?_⟩
  refine List.monotone_filter_right notes fun n hn => ?_
  rw [accepts_iff] at hn ⊢
  exact h n hn

theorem select_congr (h : ∀ n, m.holds n = k.holds n) (notes : List Note) :
    m.select notes = k.select notes := by
  induction notes with
  | nil => rfl
  | cons n rest ih => rw [select, select, h, ih]

theorem holds_term_eq_ok_iff (c : Criterion) (negated : Bool) (n : Note) (b : Bool) :
    (term ⟨c, negated⟩).holds n = .ok b ↔ c.holds n = .ok (b != negated) := by
  rw [holds_term, Term.holds]
  cases c.holds n with
  | error e => constructor <;> rintro ⟨⟩
  | ok a =>
    have hsign : (a != negated) = b ↔ a = (b != negated) := by
      cases a <;> cases b <;> cases negated <;> decide
    show (Except.ok (a != negated) : Except MatchError Bool) = .ok b ↔ _
    rw [Except.ok.injEq, Except.ok.injEq, hsign]

variable {c d : Criterion}

theorem narrows_of_implies (h : c.Implies d) : (term ⟨c, false⟩).Narrows (term ⟨d, false⟩) := by
  refine narrows_of_holds (decides_term_of_timeless h.timeless.1)
    (decides_term_of_timeless h.timeless.2) fun n hn => ?_
  rw [holds_term_eq_ok_iff] at hn ⊢
  exact h.holds n hn

/-- Behind a minus the implication runs the other way. -/
theorem narrows_of_implies_negated (h : c.Implies d) :
    (term ⟨d, true⟩).Narrows (term ⟨c, true⟩) := by
  have hdecides := decides_term_of_timeless (x := ⟨c, true⟩) h.timeless.1
  refine narrows_of_holds (decides_term_of_timeless h.timeless.2) hdecides fun n hn => ?_
  obtain ⟨b, hb⟩ := hdecides n
  cases b with
  | true => exact hb
  | false =>
    -- The note meets the first criterion, so it meets the second one too.
    rw [holds_term_eq_ok_iff] at hb hn
    rw [h.holds n hb] at hn
    cases hn

/-! ## Queries of one term -/

theorem IsConjunct.leaves_ne_nil (h : m.IsConjunct) : m.leaves ≠ [] := by
  induction h with
  | term x => exact List.cons_ne_nil x []
  | and _ x => exact List.append_ne_nil_of_right_ne_nil _ (List.cons_ne_nil x [])
  | all _ _ ih => exact List.append_ne_nil_of_left_ne_nil ih _

theorem IsDisjunction.leaves_ne_nil (h : m.IsDisjunction) : m.leaves ≠ [] := by
  cases h with
  | conjunct h => exact h.leaves_ne_nil
  | or _ hr => exact List.append_ne_nil_of_right_ne_nil _ hr.leaves_ne_nil

variable {x : Term}

theorem ne_singleton_of_append {u v : List Term} (hu : u ≠ []) (hv : v ≠ []) : u ++ v ≠ [x] := by
  intro h
  rcases List.append_eq_singleton_iff.mp h with ⟨hnil, -⟩ | ⟨-, hnil⟩
  · exact hu hnil
  · exact hv hnil

theorem IsDisjunction.eq_term (h : m.IsDisjunction) (hx : m.leaves = [x]) : m = .term x := by
  cases h with
  | or hl hr => exact absurd hx (ne_singleton_of_append hl.leaves_ne_nil hr.leaves_ne_nil)
  | conjunct h =>
    cases h with
    | term y => rw [List.singleton_inj.mp hx]
    | and h y => exact absurd hx (ne_singleton_of_append h.leaves_ne_nil (List.cons_ne_nil y []))
    | @all first h terms hne =>
      have hrest : leavesOfAll (terms.map .term) ≠ [] := by
        obtain ⟨y, rest, rfl⟩ := List.exists_cons_of_ne_nil hne
        exact List.cons_ne_nil y _
      exact absurd hx (ne_singleton_of_append h.leaves_ne_nil hrest)

/-- A tree that is parsed from a text and has one term is this term, by itself or in a list. -/
theorem exists_single_of_leaves {ctx : Context} {tokens : List Token}
    (hx : (ofTokens ctx tokens).leaves = [x]) : ∃ mode, ofTokens ctx tokens = single mode x := by
  cases hmode : QueryMode.ofTokens tokens with
  | pure => exact ⟨.pure, (isDisjunction_ofTokens ctx hmode).eq_term hx⟩
  | mixed =>
    obtain ⟨terms, hterms⟩ := exists_terms_ofTokens ctx hmode
    rw [hterms, leaves, leavesOfAll_eq, List.flatMap_map] at hx
    have hsingle : terms = [x] := by simpa [leaves] using hx
    exact ⟨.mixed, by rw [hterms, hsingle]; rfl⟩

end Node

namespace Query

variable {conventions : Conventions} {now : Moment} {raw other : Text} {q p : Query}

theorem holds_of_leaves {x : Term} (hq : parseAt conventions now raw = .ok q)
    (hx : q.root.leaves = [x]) (n : Note) : q.root.holds n = (Node.term x).holds n := by
  have hsame : (Token.tokenize raw).any Token.asksTime = (Token.tokenize raw).any Token.asksTime :=
    rfl
  obtain ⟨ctx, rfl, -⟩ := exists_context_of_parseAt hq hsame
  obtain ⟨mode, hroot⟩ := Node.exists_single_of_leaves hx
  have htree : (parse ctx raw).root = Node.single mode x := hroot
  rw [htree, Node.holds_single]

/-- Queries of one term each stand to each other as these terms do. -/
theorem narrows_of_leaves {x y : Term} (hxy : (Node.term x).Narrows (.term y))
    (hq : parseAt conventions now raw = .ok q) (hx : q.root.leaves = [x])
    (hp : parseAt conventions now other = .ok p) (hy : p.root.leaves = [y]) :
    q.root.Narrows p.root := by
  intro notes
  rw [Node.select_congr (holds_of_leaves hq hx), Node.select_congr (holds_of_leaves hp hy)]
  exact hxy notes

/-- A tag or a property that is written out makes a query of one term. -/
theorem parseAt_literal (conventions : Conventions) (now : Moment) {l : Literal}
    (h : l.atom.IsProper) :
    parseAt conventions now l.written = .ok ⟨l.written, l.tree, .pure⟩ := by
  have hwords := (Literal.isWord_written h).words_eq
  have hpure : QueryMode.isPureFrom true (Token.ofWord l.written) = true := by
    have hrest := Literal.isPureFrom_written h true []
    rwa [List.append_nil] at hrest
  have hasks : Token.wordAsksTime l.written = false := by
    rw [Token.wordAsksTime, Literal.ofWord_written h]
    cases l.negated <;> cases l.atom <;> rfl
  have hany : (Token.tokenize l.written).any Token.asksTime = false := by
    rw [Token.any_asksTime_tokenize, hwords, List.any_cons, hasks]
    rfl
  have hroot : ∀ ctx,
      Node.conjunctions ctx false false none (Token.ofWord l.written) = [l.tree] := by
    intro ctx
    have hrest := Literal.conjunctions_written ctx h false none []
    rwa [List.append_nil] at hrest
  have hmode : QueryMode.ofTokens (Token.ofWord l.written) = .pure := if_pos hpure
  rw [parseAt_of_not_asksTime conventions now hany, parse_eq, hwords, List.flatMap_singleton,
    Node.ofTokens, hmode]
  simp only [hroot]
  rfl

/-- A note that has a value that is not blank has the property, whatever else is stored under
spellings of its key. So a query for the value, in any spelling, selects some of the notes that a
query for the property does, and a query for notes without the property selects some of those
without the value. -/
theorem holds_property_of_value (key : Text) {value : Text}
    (h : ∃ c ∈ value, Text.isBlank c = false) :
    (∀ n, (Node.term ⟨.property key (some value), false⟩).holds n = .ok true →
        (Node.term ⟨.property key none, false⟩).holds n = .ok true) ∧
      (∀ conventions now raw other q p,
        parseAt conventions now raw = .ok q → parseAt conventions now other = .ok p →
        (q.root.leaves = [⟨.property key (some value), false⟩] →
            p.root.leaves = [⟨.property key none, false⟩] → q.root.Narrows p.root) ∧
          (q.root.leaves = [⟨.property key (some value), true⟩] →
            p.root.leaves = [⟨.property key none, true⟩] → p.root.Narrows q.root)) ∧
      (key ≠ [] → Text.IsBare Text.isBlank key → ∀ conventions now negated,
        ∃ q p, parseAt conventions now (Literal.written ⟨.property key (some value), negated⟩) =
            .ok q ∧
          parseAt conventions now (Literal.written ⟨.property key none, negated⟩) = .ok p ∧
          q.root.leaves = [⟨.property key (some value), negated⟩] ∧
          p.root.leaves = [⟨.property key none, negated⟩]) := by
  have himplies := Criterion.implies_property key h
  refine ⟨fun n hn => ?_, fun conventions now raw other q p hq hp => ⟨?_, ?_⟩, ?_⟩
  · rw [Node.holds_term_eq_ok_iff] at hn ⊢
    exact himplies.holds n hn
  · exact fun hx hy => narrows_of_leaves (Node.narrows_of_implies himplies) hq hx hp hy
  · exact fun hx hy => narrows_of_leaves (Node.narrows_of_implies_negated himplies) hp hy hq hx
  · intro hne hbare conventions now negated
    have hvalue : some value ≠ some [] := by
      rintro ⟨⟩
      obtain ⟨c, hc, -⟩ := h
      cases hc
    have hgiven := parseAt_literal conventions now (l := ⟨.property key (some value), negated⟩)
      ⟨hne, hbare, hvalue⟩
    have hnone := parseAt_literal conventions now (l := ⟨.property key none, negated⟩)
      ⟨hne, hbare, nofun⟩
    exact ⟨_, _, hgiven, hnone, rfl, rfl⟩

/-- A text in a list of a list, and nothing under another spelling of the key. -/
theorem holds_property_of_value_nested :
    let todo : Note :=
      { path := "a".toList
        properties := [("STATUS".toList, .null),
          ("status".toList, .list [.int 3, .list [.text " ".toList, .text "to do".toList]])] }
    (∃ c ∈ "to do".toList, Text.isBlank c = false) ∧
      (Node.term ⟨.property "Status".toList (some "to do".toList), false⟩).holds todo = .ok true ∧
      (Node.term ⟨.property "Status".toList none, false⟩).holds todo = .ok true ∧
      ∃ q p, parseAt {} ⟨.first, none⟩ "-.Status".toList = .ok q ∧
        parseAt {} ⟨.first, none⟩ "-.Status=\"to do\"".toList = .ok p ∧ q.root.Narrows p.root := by
  intro todo
  have hletter : ∃ c ∈ "to do".toList, Text.isBlank c = false :=
    ⟨'t', List.mem_cons_self, rfl⟩
  have hvalue : (Node.term ⟨.property "Status".toList (some "to do".toList), false⟩).holds todo =
      .ok true := rfl
  obtain ⟨hholds, hqueries, hwritten⟩ := holds_property_of_value "Status".toList hletter
  obtain ⟨p, q, hp, hq, hpterm, hqterm⟩ :=
    hwritten (by decide) (by decide) {} ⟨.first, none⟩ true
  have hnarrows := (hqueries _ _ _ _ _ _ hp hq).2 hpterm hqterm
  exact ⟨hletter, hvalue, hholds todo hvalue, q, p, hq, hp, hnarrows⟩

/-- A blank is a value that says nothing. -/
example : (Node.term ⟨.property ['k'] (some [' ']), false⟩).holds
      { path := [], properties := [(['k'], .text [' '])] } = .ok true ∧
    (Node.term ⟨.property ['k'] none, false⟩).holds
      { path := [], properties := [(['k'], .text [' '])] } = .ok false := ⟨rfl, rfl⟩

end Query

end NoteQuery
