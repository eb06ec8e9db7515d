import NoteQuery.Proofs.Query.QuoteReading
import NoteQuery.Proofs.Query.WordForm

/-!
# Texts with single spaces

A text is respaced by leaving one space between any two of its words and nothing around them. The
words stay as they are, since none but the last can have an open quote or end in a waiting
backslash, and a parse takes nothing else from a text. So respacing a query changes the text of the
query alone, and a second time it changes nothing.
-/
namespace NoteQuery

/-- The words of a text with a space between any two. -/
def Text.respace (raw : Text) : Text := join [' '] (Segment.words raw)

namespace Segment

/-- Words as segments, each of them one character behind the one before. -/
def laid (pos : Nat) : List Text → List Segment
  | [] => []
  | w :: ws => ⟨pos, pos + w.length, w⟩ :: laid (pos + w.length + 1) ws

theorem map_shift_laid (n pos : Nat) (ws : List Text) :
    (laid pos ws).map (shift n) = laid (pos + n) ws := by
  induction ws generalizing pos with
  | nil => rfl
  | cons w ws ih =>
    have hlast : pos + w.length + n = pos + n + w.length := by omega
    have hnext : pos + w.length + 1 + n = pos + n + w.length + 1 := by omega
    rw [laid, laid, List.map_cons, ih, shift, hlast, hnext]

end Segment

namespace Text

theorem StayApart.split_join {ws : List Text} (h : StayApart ws) :
    Segment.split (join [' '] ws) = Segment.laid 0 ws := by
  induction ws with
  | nil => rfl
  | cons w ws ih =>
    cases ws with
    | nil =>
      rw [join_singleton, Segment.split_of_words_eq (h.words_eq w List.mem_cons_self)]
      simp [Segment.laid]
    | cons v ws =>
      have hw : IsWord w := h.isWord w (by simp)
      have hrest := ih (h.of_sublist (List.sublist_cons_self w _))
      rw [join_cons w (List.cons_ne_nil v ws), hw.split_append rfl, hrest, Segment.map_shift_laid]
      simp [Segment.laid]

theorem words_respace (raw : Text) : Segment.words (respace raw) = Segment.words raw :=
  (stayApart_words raw).words_join

end Text

namespace Query

/-- Texts of the same words are the same query but for the text. -/
theorem parseAt_of_words_eq (conventions : Conventions) (now : Moment) {s t : Text}
    (h : Segment.words s = Segment.words t) :
    parseAt conventions now s =
      (parseAt conventions now t).map fun q => ⟨s, q.root, q.mode⟩ := by
  have hparse : ∀ ctx, parse ctx s = ⟨s, (parse ctx t).root, (parse ctx t).mode⟩ := by
    intro ctx
    rw [parse_eq, parse_eq, h]
  have hasks : (Token.tokenize s).any Token.asksTime = (Token.tokenize t).any Token.asksTime := by
    rw [Token.any_asksTime_tokenize, Token.any_asksTime_tokenize, h]
  cases ht : (Token.tokenize t).any Token.asksTime with
  | false =>
    rw [parseAt_of_not_asksTime conventions now ht,
      parseAt_of_not_asksTime conventions now (hasks.trans ht), hparse]
    rfl
  | true =>
    rw [parseAt_of_asksTime conventions now ht,
      parseAt_of_asksTime conventions now (hasks.trans ht)]
    cases now.local with
    | error e => rfl
    | ok time => exact congrArg Except.ok (hparse _)

/-- The segments of a respaced text are the words of the text, one space apart, so that respacing
it again changes nothing. It is parsed as the text itself, or fails as this does, in every context:
the mode and the tree are the same. -/
theorem parseAt_respace (raw : Text) :
    (Segment.split (Text.respace raw)).map (·.text) = (Segment.split raw).map (·.text) ∧
      Segment.split (Text.respace raw) = Segment.laid 0 (Segment.words raw) ∧
      Text.respace (Text.respace raw) = Text.respace raw ∧
      ∀ conventions now, parseAt conventions now (Text.respace raw) =
        (parseAt conventions now raw).map fun q => ⟨Text.respace raw, q.root, q.mode⟩ := by
  have hwords := Text.words_respace raw
  refine ⟨hwords, (Text.stayApart_words raw).split_join, ?_, ?_⟩
  · exact congrArg (Text.join [' ']) hwords
  · intro conventions now
    exact parseAt_of_words_eq conventions now hwords

/-- An escaped blank and a quote that is left open are kept. -/
example : Text.respace "\ta\\  b  \"c  d ".toList = "a\\  b \"c  d ".toList := by decide

end Query

end NoteQuery
