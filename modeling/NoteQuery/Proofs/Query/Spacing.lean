import NoteQuery.Proofs.Query.Leaves
import NoteQuery.Proofs.Query.Words

/-!
# Words side by side

A text without connectives asks for all its words, each of which could be a query of its
own. So neither the order of the words nor how often they stand there nor the blanks
around them matter, whichever grammar reads the text.
-/
namespace NoteQuery

namespace Text

/-- A text of some words, with blanks between them, in front and behind. -/
inductive IsSpaced : List Text → Text → Prop where
  | blank {s : Text} (h : ∀ c ∈ s, isBlank c) : IsSpaced [] s
  | last {front : Text} (hfront : ∀ c ∈ front, isBlank c) (w : Text) :
      IsSpaced [w] (front ++ w)
  | word {front : Text} (hfront : ∀ c ∈ front, isBlank c) (w : Text) {b : Char}
      (hb : isBlank b) {ws : List Text} {s : Text} (rest : IsSpaced ws s) :
      IsSpaced (w :: ws) (front ++ (w ++ b :: s))

/-- Spaced words are read back as they are. -/
theorem IsSpaced.words_eq {ws : List Text} {s : Text} (h : IsSpaced ws s)
    (hws : ∀ w ∈ ws, IsWord w) : Segment.words s = ws := by
  induction h with
  | blank h =>
    rw [Segment.words_eq]
    exact Cursor.words_start_blanks h
  | last hfront w =>
    rw [Segment.words_eq, Cursor.words_start_append hfront, ← Segment.words_eq]
    exact (hws w List.mem_cons_self).words_eq
  | word hfront w hb rest ih =>
    rw [List.forall_mem_cons] at hws
    rw [Segment.words_eq, Cursor.words_start_append hfront, ← Segment.words_eq,
      hws.1.words_append hb, ih hws.2]

/-- A word that can stand in a text without connectives: it is complete and read back
whole. -/
structure IsPlainWord (w : Text) : Prop where
  words_eq : Segment.words w = [w]
  isComplete : isComplete w
  not_connector : Token.isConnector w = false

theorem IsPlainWord.isWord {w : Text} (h : IsPlainWord w) : IsWord w :=
  isWord_of_isComplete h.isComplete (by rw [h.words_eq]; exact List.mem_singleton_self w)

end Text

/-! ## Only the words count -/

namespace Token

def bare (t : Token) : Token := ⟨t.kind, t.text, 0, 0⟩

theorem ofToken?_bare (ctx : Context) (t : Token) :
    Criterion.ofToken? ctx t.bare = Criterion.ofToken? ctx t := rfl

def ofWord (w : Text) : List Token := (ofSegment ⟨0, 0, w⟩).map bare

theorem map_bare_ofSegment (s : Segment) : (ofSegment s).map bare = ofWord s.text := by
  obtain ⟨start, stop, w⟩ := s
  rcases ofSegment_cases w with ⟨c, rest, rfl⟩ | h
  · rfl
  · rw [ofWord, h, h]
    rfl

theorem map_bare_tokenize (raw : Text) :
    (tokenize raw).map bare = (Segment.words raw).flatMap ofWord := by
  rw [tokenize, List.map_flatMap, Segment.words, List.flatMap_map]
  simp only [map_bare_ofSegment]

end Token

namespace QueryMode

theorem isPureFrom_map_bare (expecting : Bool) (tokens : List Token) :
    isPureFrom expecting (tokens.map Token.bare) = isPureFrom expecting tokens := by
  induction tokens generalizing expecting with
  | nil => rfl
  | cons t rest ih =>
    rw [List.map_cons, isPureFrom, isPureFrom]
    simp only [ih]
    rfl

theorem ofTokens_map_bare (tokens : List Token) :
    ofTokens (tokens.map Token.bare) = ofTokens tokens := by
  rw [ofTokens, isPureFrom_map_bare]
  rfl

end QueryMode

namespace Node

theorem conjunctions_map_bare (ctx : Context) (negated byWord : Bool) (sofar : Option Node)
    (tokens : List Token) :
    conjunctions ctx negated byWord sofar (tokens.map Token.bare) =
      conjunctions ctx negated byWord sofar tokens := by
  induction tokens generalizing negated byWord sofar with
  | nil => rfl
  | cons t rest ih =>
    rw [List.map_cons, conjunctions, conjunctions]
    simp only [ih]
    rfl

theorem mixedTerms_map_bare (ctx : Context) (negated : Bool) (tokens : List Token) :
    mixedTerms ctx negated (tokens.map Token.bare) = mixedTerms ctx negated tokens := by
  induction tokens generalizing negated with
  | nil => rfl
  | cons t rest ih =>
    rw [List.map_cons, mixedTerms, mixedTerms]
    simp only [ih]
    rfl

theorem ofTokens_map_bare (ctx : Context) (tokens : List Token) :
    ofTokens ctx (tokens.map Token.bare) = ofTokens ctx tokens := by
  rw [ofTokens, QueryMode.ofTokens_map_bare, conjunctions_map_bare, mixedTerms_map_bare]
  rfl

end Node

/-- The words of a text fix its parse. -/
theorem Query.parse_eq (ctx : Context) (raw : Text) :
    parse ctx raw = ⟨raw, Node.ofTokens ctx ((Segment.words raw).flatMap Token.ofWord),
      QueryMode.ofTokens ((Segment.words raw).flatMap Token.ofWord)⟩ := by
  rw [← Token.map_bare_tokenize, Node.ofTokens_map_bare, QueryMode.ofTokens_map_bare]
  rfl

/-! ## Conjunctions of words -/

def Term.ofWord? (ctx : Context) (w : Text) : Option Term :=
  Reading.mixed.termOf? ctx ⟨0, 0, w⟩

namespace Token

def wordAsksTime (w : Text) : Bool := (ofWord w).any asksTime

theorem any_asksTime_tokenize (raw : Text) :
    (tokenize raw).any asksTime = (Segment.words raw).any wordAsksTime := by
  have hbare : (tokenize raw).any asksTime = ((tokenize raw).map bare).any asksTime := by
    rw [List.any_map]
    rfl
  rw [hbare, map_bare_tokenize, List.any_flatMap]
  rfl

theorem bare_operand (s : Segment) : bare (operand s) = bare (operand ⟨0, 0, s.text⟩) := by
  rw [operand, operand]
  cases isNegated s.text with
  | true => rfl
  | false => rfl

theorem kind_ne_connector_of_mem {t : Token} {s : Segment} (ht : t ∈ ofSegment s)
    (h : isConnector s.text = false) : t.kind ≠ .connector := by
  intro hkind
  have hoperand := eq_operand_of_mem ht (by simp [hkind])
  rw [hoperand, operand_kind_eq_connector_iff, h] at hkind
  cases hkind

end Token

namespace Reading

/-- A word that is no connective has one term in both grammars. -/
theorem termOf?_eq_ofWord? (mode : QueryMode) (ctx : Context) {s : Segment}
    (h : Token.isConnector s.text = false) :
    (ofMode mode).termOf? ctx s = Term.ofWord? ctx s.text := by
  have hconnector : (Token.operand s).kind ≠ .connector := by
    rw [Ne, Token.operand_kind_eq_connector_iff, h]
    exact Bool.false_ne_true
  have hterm := isTerm_ofMode mode (Token.operand_kind_ne_negation s)
  have hmixed := isTerm_ofMode .mixed (Token.operand_kind_ne_negation ⟨0, 0, s.text⟩)
  have hcriterion : Criterion.ofToken? ctx (Token.operand s) =
      Criterion.ofToken? ctx (Token.operand ⟨0, 0, s.text⟩) := by
    rw [← Token.ofToken?_bare, Token.bare_operand, Token.ofToken?_bare]
  rw [beq_eq_false_iff_ne.mpr hconnector, Bool.and_false] at hterm
  rw [Term.ofWord?, termOf?, termOf?, hterm, hcriterion]
  exact (if_pos hmixed).symm

end Reading

namespace Node

/-- Without connectives a query is one conjunction, in both grammars. -/
theorem isConjunctive_ofTokens (ctx : Context) {tokens : List Token}
    (h : ∀ t ∈ tokens, t.kind ≠ .connector) : (ofTokens ctx tokens).IsConjunctive := by
  rw [ofTokens]
  cases hmode : QueryMode.ofTokens tokens with
  | pure =>
    have hcuts : tokens.countP Reading.pure.isCut = 0 := by
      refine List.countP_eq_zero.mpr fun t ht => ?_
      simp [Token.isOr, h t ht]
    have hlength : (conjunctions ctx false false none tokens).length = 1 := by
      rw [← List.length_map leaves, leaves_conjunctions ctx hmode, Reading.length_groups, hcuts]
    obtain ⟨m, hm⟩ := List.length_eq_one_iff.mp hlength
    have hconj := isConjunctive_of_mem_conjunctions ctx (hm ▸ List.mem_singleton_self m)
    rw [hm]
    exact hconj
  | mixed =>
    refine .all fun m hm => ?_
    obtain ⟨x, -, rfl⟩ := List.mem_map.mp hm
    exact .term x

end Node

namespace Query

/-- A text without connectives holds where the terms of all its words do. -/
theorem holds_parse_iff (ctx : Context) {raw : Text}
    (h : ∀ w ∈ Segment.words raw, Token.isConnector w = false) (n : Note) :
    (parse ctx raw).root.holds n = .ok true ↔
      ∀ w ∈ Segment.words raw, ∀ x, Term.ofWord? ctx w = some x →
        (Node.term x).holds n = .ok true := by
  have hword : ∀ s ∈ Segment.split raw, Token.isConnector s.text = false :=
    fun s hs => h s.text (List.mem_map_of_mem hs)
  have htokens : ∀ t ∈ Token.tokenize raw, t.kind ≠ .connector := by
    intro t ht
    obtain ⟨s, hs, ht⟩ := List.mem_flatMap.mp ht
    exact Token.kind_ne_connector_of_mem ht (hword s hs)
  have hconj : (parse ctx raw).root.IsConjunctive := Node.isConjunctive_ofTokens ctx htokens
  rw [hconj.holds_iff, leaves_parse]
  simp only [List.mem_filterMap, Segment.words, List.mem_map]
  constructor
  · rintro hall w ⟨s, hs, rfl⟩ x hx
    exact hall x ⟨s, hs, (Reading.termOf?_eq_ofWord? _ ctx (hword s hs)).trans hx⟩
  · rintro hall x ⟨s, hs, hx⟩
    rw [Reading.termOf?_eq_ofWord? _ ctx (hword s hs)] at hx
    exact hall s.text ⟨s, hs, rfl⟩ x hx

/-- A text is parsed at a clock reading and its tree holds on a note. -/
def MatchesAt (conventions : Conventions) (now : Moment) (raw : Text) (n : Note) : Prop :=
  ∃ q, parseAt conventions now raw = .ok q ∧ q.root.holds n = .ok true

/-- One local time serves for all texts that are parsed at a clock reading, even for those
that are parsed although the reading has no local time. -/
theorem exists_time (conventions : Conventions) (now : Moment) :
    ∃ time, ∀ raw n, MatchesAt conventions now raw n ↔
      ((∃ t, now.local = .ok t) ∨ ∀ w ∈ Segment.words raw, Token.wordAsksTime w = false) ∧
        (parse ⟨time, conventions⟩ raw).root.holds n = .ok true := by
  cases hlocal : now.local with
  | ok time =>
    refine ⟨time, fun raw n => ?_⟩
    rw [MatchesAt, parseAt_of_local conventions hlocal]
    simp
  | error e =>
    refine ⟨.first, fun raw n => ?_⟩
    rw [MatchesAt]
    cases hask : (Token.tokenize raw).any Token.asksTime with
    | false =>
      rw [parseAt_of_not_asksTime conventions now hask]
      rw [Token.any_asksTime_tokenize, List.any_eq_false] at hask
      simpa using fun _ w hw => Bool.eq_false_iff.mpr (hask w hw)
    | true =>
      rw [parseAt_of_asksTime conventions now hask, hlocal]
      rw [Token.any_asksTime_tokenize, List.any_eq_true] at hask
      obtain ⟨w, hw, hasks⟩ := hask
      refine iff_of_false ?_ ?_
      · rintro ⟨q, hq, -⟩
        cases hq
      · rintro ⟨⟨t, ht⟩ | hno, -⟩
        · cases ht
        · rw [hno w hw] at hasks
          cases hasks

end Query

namespace Node

/-- Whether a tree holds on a note; an error counts as no. -/
def accepts (m : Node) (n : Note) : Bool :=
  match m.holds n with
  | .ok b => b
  | .error _ => false

theorem accepts_iff (m : Node) (n : Note) : m.accepts n ↔ m.holds n = .ok true := by
  rw [accepts]
  cases m.holds n with
  | ok b => simp
  | error e => simp

/-- Where a tree decides on all notes it selects those on which it holds. -/
theorem select_of_decides {root : Node} {notes : List Note}
    (h : ∀ n ∈ notes, root.Decides n) : root.select notes = .ok (notes.filter root.accepts) := by
  induction notes with
  | nil => rfl
  | cons n rest ih =>
    rw [List.forall_mem_cons] at h
    obtain ⟨⟨b, hb⟩, hrest⟩ := h
    have haccepts : root.accepts n = b := by rw [accepts, hb]
    rw [select, hb, ih hrest, List.filter_cons, haccepts]
    cases b <;> rfl

end Node

namespace Query

/-- A plain word is asked for by itself as its term says. -/
theorem holds_parse_word_iff (ctx : Context) {w : Text} (hw : Text.IsPlainWord w) (n : Note) :
    (parse ctx w).root.holds n = .ok true ↔
      ∀ x, Term.ofWord? ctx w = some x → (Node.term x).holds n = .ok true := by
  have hconnector : ∀ v ∈ Segment.words w, Token.isConnector v = false := by
    rw [hw.words_eq, List.forall_mem_singleton]
    exact hw.not_connector
  rw [holds_parse_iff ctx hconnector, hw.words_eq, List.forall_mem_singleton]

theorem matchesAt_iff_words (conventions : Conventions) (now : Moment) {ws : List Text} {s : Text}
    (hws : ∀ w ∈ ws, Text.IsPlainWord w) (hs : Text.IsSpaced ws s) (n : Note) :
    MatchesAt conventions now s n ↔ ∀ w ∈ ws, MatchesAt conventions now w n := by
  obtain ⟨time, htime⟩ := exists_time conventions now
  have hwords : Segment.words s = ws := hs.words_eq fun w hw => (hws w hw).isWord
  have hconnectors : ∀ w ∈ Segment.words s, Token.isConnector w = false := by
    rw [hwords]
    exact fun w hw => (hws w hw).not_connector
  have hword : ∀ w ∈ ws, (MatchesAt conventions now w n ↔
      ((∃ t, now.local = .ok t) ∨ Token.wordAsksTime w = false) ∧
        ∀ x, Term.ofWord? ⟨time, conventions⟩ w = some x →
          (Node.term x).holds n = .ok true) := by
    intro w hw
    rw [htime, holds_parse_word_iff _ (hws w hw), (hws w hw).words_eq, List.forall_mem_singleton]
  rw [htime, holds_parse_iff _ hconnectors, hwords]
  constructor
  · rintro ⟨hclock, hterms⟩ w hw
    exact (hword w hw).mpr ⟨hclock.imp_right fun h => h w hw, hterms w hw⟩
  · intro h
    refine ⟨?_, fun w hw => ((hword w hw).mp (h w hw)).2⟩
    by_cases hclock : ∃ t, now.local = .ok t
    · exact Or.inl hclock
    · exact Or.inr fun w hw => ((hword w hw).mp (h w hw)).1.resolve_left hclock

/-- A text of plain words matches a note exactly if each of its words does. Another text of
the same words matches the same notes, and selects the same from all notes that both texts
decide on. -/
theorem matchesAt_spaced (conventions : Conventions) (now : Moment) {ws : List Text} {s : Text}
    (hws : ∀ w ∈ ws, Text.IsPlainWord w) (hs : Text.IsSpaced ws s) :
    (∀ time, now.local = .ok time → ∃ q, parseAt conventions now s = .ok q) ∧
      (∀ n, MatchesAt conventions now s n ↔ ∀ w ∈ ws, MatchesAt conventions now w n) ∧
      ∀ vs t, (∀ v, v ∈ vs ↔ v ∈ ws) → Text.IsSpaced vs t →
        (∀ n, MatchesAt conventions now t n ↔ MatchesAt conventions now s n) ∧
        ∀ p q notes, parseAt conventions now s = .ok p → parseAt conventions now t = .ok q →
          (∀ n ∈ notes, p.root.Decides n ∧ q.root.Decides n) →
          ∃ found, p.root.select notes = .ok found ∧ q.root.select notes = .ok found := by
  refine ⟨fun time htime => ⟨_, parseAt_of_local conventions htime s⟩,
    matchesAt_iff_words conventions now hws hs, fun vs t hsame ht => ?_⟩
  have hvs : ∀ v ∈ vs, Text.IsPlainWord v := fun v hv => hws v ((hsame v).mp hv)
  have hboth : ∀ n, MatchesAt conventions now t n ↔ MatchesAt conventions now s n := by
    intro n
    rw [matchesAt_iff_words conventions now hvs ht, matchesAt_iff_words conventions now hws hs]
    simp only [hsame]
  refine ⟨hboth, fun p q notes hp hq hdecides => ?_⟩
  have haccepts : p.root.accepts = q.root.accepts := by
    funext n
    have hn := hboth n
    simp only [MatchesAt, hp, hq, Except.ok.injEq, exists_eq_left'] at hn
    rw [Bool.eq_iff_iff, Node.accepts_iff, Node.accepts_iff]
    exact hn.symm
  refine ⟨notes.filter p.root.accepts, ?_, ?_⟩
  · exact Node.select_of_decides fun n hn => (hdecides n hn).1
  · rw [haccepts]
    exact Node.select_of_decides fun n hn => (hdecides n hn).2

/-- A tag and a negated name, spaced in two ways and then the other way round. -/
theorem matchesAt_spaced_tag_name :
    (∀ w ∈ ["#a".toList, "-b".toList], Text.IsPlainWord w) ∧
      Text.IsSpaced ["#a".toList, "-b".toList] " #a\t -b".toList ∧
      (∀ n, MatchesAt {} ⟨.first, none⟩ " #a\t -b".toList n ↔
        ∀ w ∈ ["#a".toList, "-b".toList], MatchesAt {} ⟨.first, none⟩ w n) ∧
      ∀ n, MatchesAt {} ⟨.first, none⟩ "-b #a -b ".toList n ↔
        MatchesAt {} ⟨.first, none⟩ " #a\t -b".toList n := by
  have hws : ∀ w ∈ ["#a".toList, "-b".toList], Text.IsPlainWord w := by
    rw [List.forall_mem_cons, List.forall_mem_singleton]
    exact ⟨⟨rfl, rfl, rfl⟩, ⟨rfl, rfl, rfl⟩⟩
  have hnone : ∀ c ∈ [], Text.isBlank c := nofun
  have hspace : ∀ c ∈ [' '], Text.isBlank c := List.forall_mem_singleton.mpr rfl
  have hs : Text.IsSpaced ["#a".toList, "-b".toList] " #a\t -b".toList :=
    .word hspace _ (b := '\t') rfl (.last hspace _)
  have ht : Text.IsSpaced ["-b".toList, "#a".toList, "-b".toList] "-b #a -b ".toList :=
    .word hnone _ (b := ' ') rfl (.word hnone _ (b := ' ') rfl
      (.word hnone _ (b := ' ') rfl (.blank hnone)))
  obtain ⟨-, hwords, hother⟩ := matchesAt_spaced {} ⟨.first, none⟩ hws hs
  exact ⟨hws, hs, hwords, (hother _ _ (by simp [or_comm]) ht).1⟩

end Query

end NoteQuery
