import Mathlib.Data.List.Forall2
import NoteQuery.Proofs.Query.Content
import NoteQuery.Proofs.Query.Meaning
import NoteQuery.Proofs.Query.ParseTime

/-!
# The terms of a query text

Each segment of a text is one term of its query, in the order of the text and with the
minus of its own segment, whichever grammar reads it. Only connectives of a pure query,
dates that are still being typed and names without a character are no terms.
-/
namespace NoteQuery

namespace Reading

def ofMode : QueryMode → Reading
  | .pure => pure
  | .mixed => mixed

theorem isTerm_ofMode (mode : QueryMode) {t : Token} (h : t.kind ≠ .negation) :
    (ofMode mode).isTerm t = !(mode == .pure && t.kind == .connector) := by
  have hkind : (t.kind != .negation) = true := bne_iff_ne.mpr h
  cases mode with
  | pure =>
    rw [ofMode, pure_isTerm, hkind]
    rfl
  | mixed =>
    rw [ofMode, mixed_isTerm, hkind]
    rfl

/-- All terms of a list of tokens; `negated` says that a minus waits for its term. -/
def terms (r : Reading) (ctx : Context) (negated : Bool) (tokens : List Token) : List Term :=
  (r.groupsFrom ctx negated [] tokens).flatten

theorem flatten_groupsFrom (r : Reading) (ctx : Context) (negated : Bool) (sofar : List Term)
    (tokens : List Token) :
    (r.groupsFrom ctx negated sofar tokens).flatten = sofar ++ r.terms ctx negated tokens := by
  rw [terms]
  induction tokens generalizing negated sofar with
  | nil => simp [groupsFrom]
  | cons t rest ih =>
    rw [groupsFrom, groupsFrom]
    split
    · simp
    · split
      · split
        · exact ih false sofar
        · rename_i c _
          rw [ih false (sofar ++ _), ih false ([] ++ _)]
          simp
      · exact ih _ sofar

theorem terms_negation (r : Reading) (ctx : Context) (negated : Bool) {t : Token}
    (h : t.kind = .negation) (rest : List Token) :
    r.terms ctx negated (t :: rest) = r.terms ctx true rest := by
  obtain ⟨hterm, hcut⟩ := r.of_negation t h
  simp [terms, groupsFrom, hterm, hcut, h]

theorem terms_of_isTerm (r : Reading) (ctx : Context) (negated : Bool) {t : Token}
    (h : r.isTerm t = true) (rest : List Token) :
    r.terms ctx negated (t :: rest) =
      ((Criterion.ofToken? ctx t).map (Term.mk · negated)).toList ++ r.terms ctx false rest := by
  have hcut : r.isCut t = false := by
    cases hc : r.isCut t with
    | false => rfl
    | true =>
      rw [r.term_of_cut t hc] at h
      cases h
  rw [terms, groupsFrom, hcut, if_neg Bool.false_ne_true, if_pos h]
  cases Criterion.ofToken? ctx t with
  | none => rfl
  | some c => exact r.flatten_groupsFrom ctx false _ rest

/-- A connective between terms leaves them as they are. -/
theorem terms_of_not_isTerm (r : Reading) (ctx : Context) (negated : Bool) {t : Token}
    (h : r.isTerm t = false) (hkind : t.kind ≠ .negation) (rest : List Token) :
    r.terms ctx negated (t :: rest) = r.terms ctx negated rest := by
  rw [terms, groupsFrom, h]
  cases r.isCut t with
  | true => rfl
  | false =>
    simp only [Bool.false_eq_true, if_false, Bool.or_false, beq_eq_false_iff_ne.mpr hkind]
    rfl

def termOf? (r : Reading) (ctx : Context) (s : Segment) : Option Term :=
  if r.isTerm (Token.operand s) then
    (Criterion.ofToken? ctx (Token.operand s)).map (Term.mk · (Token.isNegated s.text))
  else none

/-- Each segment has at most one term, and only its own minus negates it. -/
theorem terms_segments (mode : QueryMode) (ctx : Context) (segments : List Segment) :
    (ofMode mode).terms ctx false (segments.flatMap Token.ofSegment) =
      segments.filterMap ((ofMode mode).termOf? ctx) := by
  induction segments with
  | nil => rfl
  | cons s segments ih =>
    have hkind := Token.operand_kind_ne_negation s
    have hstep : (ofMode mode).terms ctx false
        (Token.ofSegment s ++ segments.flatMap Token.ofSegment) =
        ((ofMode mode).termOf? ctx s).toList ++
          (ofMode mode).terms ctx false (segments.flatMap Token.ofSegment) := by
      rw [termOf?]
      cases h : Token.isNegated s.text with
      | true =>
        -- The operand behind a minus is never a connective, so that the minus does not wait.
        have hterm : (ofMode mode).isTerm (Token.operand s) = true := by
          have hconnector : (Token.operand s).kind ≠ .connector := by
            rw [Token.operand, if_pos h]
            exact Token.classifyNegated_ne_connector _
          simp [isTerm_ofMode mode hkind, hconnector]
        rw [Token.ofSegment_of_isNegated h, if_pos hterm]
        exact (terms_negation _ ctx false rfl _).trans (terms_of_isTerm _ ctx true hterm _)
      | false =>
        rw [Token.ofSegment_of_not_isNegated h]
        cases hterm : (ofMode mode).isTerm (Token.operand s) with
        | true => exact terms_of_isTerm _ ctx false hterm _
        | false => exact terms_of_not_isTerm _ ctx false hterm hkind _
    rw [List.flatMap_cons, hstep, ih, List.filterMap_cons]
    cases (ofMode mode).termOf? ctx s <;> rfl

end Reading

namespace Node

theorem leaves_disjoin (nodes : List Node) :
    (disjoin nodes).leaves = (nodes.map leaves).flatten := by
  cases nodes with
  | nil => rfl
  | cons m rest =>
    rw [disjoin]
    induction rest generalizing m with
    | nil => simp
    | cons k rest ih =>
      rw [List.foldl_cons, ih, List.map_cons, leaves]
      simp

/-- The terms of a parsed tree are those of its tokens, whatever it is nested like. -/
theorem leaves_ofTokens (ctx : Context) (tokens : List Token) :
    (ofTokens ctx tokens).leaves =
      (Reading.ofMode (QueryMode.ofTokens tokens)).terms ctx false tokens := by
  rw [ofTokens]
  cases h : QueryMode.ofTokens tokens with
  | pure => exact (leaves_disjoin _).trans (congrArg List.flatten (leaves_conjunctions ctx h))
  | mixed =>
    have hgroups := congrArg List.flatten (Reading.groups_mixed ctx tokens)
    rw [List.flatten_singleton] at hgroups
    have hterms : ∀ terms : List Term, (terms.map Node.term).flatMap leaves = terms := by
      intro terms
      rw [List.flatMap_map]
      exact List.flatMap_singleton' terms
    rw [leaves, leavesOfAll_eq, hterms]
    exact hgroups.symm

end Node

namespace Criterion

/-- Only an unfinished date and an empty name ask for nothing. -/
theorem ofToken?_eq_none_iff (ctx : Context) (t : Token) :
    ofToken? ctx t = none ↔
      (t.kind = .date ∧ isUnfinishedDate (t.text.drop 1)) ∨
        (t.kind = .name ∧ (Quote.unquote t.text).isEmpty) := by
  rw [ofToken?]
  cases t.kind with
  | name => simp [ofName?, Text.nonEmpty?]
  | date => cases isUnfinishedDate (t.text.drop 1) <;> simp
  | _ => simp

end Criterion

namespace Token

/-- Whether a segment is no term: a connective of a pure query, a date that is still being
typed, or a name without a character. -/
def isSilent (mode : QueryMode) (s : Segment) : Bool :=
  mode == .pure && isConnector s.text ||
    (operand s).text.head? == some '@' &&
      Criterion.isUnfinishedDate ((operand s).text.drop 1) ||
    (operand s).kind == .name && (Quote.unquote (operand s).text).isEmpty

end Token

namespace Reading

theorem termOf?_eq_none_iff (mode : QueryMode) (ctx : Context) (s : Segment) :
    (ofMode mode).termOf? ctx s = none ↔ Token.isSilent mode s := by
  have hterm := isTerm_ofMode mode (Token.operand_kind_ne_negation s)
  have hconnector : ((Token.operand s).kind == .connector) = Token.isConnector s.text := by
    rw [Bool.eq_iff_iff, beq_iff_eq]
    exact Token.operand_kind_eq_connector_iff s
  rw [hconnector] at hterm
  rw [termOf?, hterm, Token.isSilent, Bool.or_eq_true, Bool.or_eq_true, or_assoc]
  cases mode == .pure && Token.isConnector s.text with
  | true => simp
  | false =>
    simp only [Bool.not_false, if_true, Option.map_eq_none_iff, Criterion.ofToken?_eq_none_iff,
      Token.operand_kind_eq_date_iff, Bool.and_eq_true, beq_iff_eq, Bool.false_eq_true,
      false_or]

theorem of_termOf?_eq_some {mode : QueryMode} {ctx : Context} {s : Segment} {x : Term}
    (h : (ofMode mode).termOf? ctx s = some x) :
    Criterion.ofToken? ctx (Token.operand s) = some x.criterion ∧
      x.negated = Token.isNegated s.text := by
  rw [termOf?] at h
  split at h
  · obtain ⟨c, hc, rfl⟩ := Option.map_eq_some_iff.mp h
    exact ⟨hc, rfl⟩
  · cases h

end Reading

theorem forall₂_filterMap {α β : Type} {f : α → Option β} {silent : α → Bool}
    (h : ∀ a, f a = none ↔ silent a) (as : List α) :
    List.Forall₂ (fun a b => f a = some b) (as.filter (!silent ·)) (as.filterMap f) := by
  induction as with
  | nil => exact .nil
  | cons a as ih =>
    rw [List.filter_cons, List.filterMap_cons]
    cases hf : f a with
    | none =>
      rw [(h a).mp hf]
      exact ih
    | some b =>
      have hs : silent a = false := by
        rw [← Bool.not_eq_true, ← h a, hf]
        exact Option.some_ne_none b
      rw [hs]
      exact .cons hf ih

namespace Query

theorem leaves_parse (ctx : Context) (raw : Text) :
    (parse ctx raw).root.leaves =
      (Segment.split raw).filterMap ((Reading.ofMode (parse ctx raw).mode).termOf? ctx) :=
  (Node.leaves_ofTokens ctx _).trans (Reading.terms_segments _ ctx _)

/-- The terms of a query are the segments of its text that are not silent, in order, each
with its own minus. -/
theorem leaves_parseAt (conventions : Conventions) (now : Moment) (time : Instant)
    (hnow : now.local = .ok time) (raw : Text) :
    ∃ q, parseAt conventions now raw = .ok q ∧
      List.Forall₂ (fun s x =>
          Criterion.ofToken? ⟨time, conventions⟩ (Token.operand s) = some x.criterion ∧
            x.negated = Token.isNegated s.text)
        ((Segment.split raw).filter (!Token.isSilent q.mode ·)) q.root.leaves := by
  refine ⟨_, parseAt_of_local conventions hnow raw, ?_⟩
  rw [leaves_parse]
  exact (forall₂_filterMap (Reading.termOf?_eq_none_iff _ _) _).imp
    fun _ _ h => Reading.of_termOf?_eq_some h

/-- An hour east of universal time: the minus in front of an unfinished date is lost with
it, and a connective is a name among names. -/
theorem leaves_parseAt_east :
    (Moment.mk ⟨7200000000, by decide⟩ (some ⟨3600000000, 0⟩)).local = .ok ⟨3600000000, by decide⟩ ∧
    ∃ q, parseAt {} ⟨⟨7200000000, by decide⟩, some ⟨3600000000, 0⟩⟩ "-@to OR -b".toList = .ok q ∧
      List.Forall₂ (fun s x =>
          Criterion.ofToken? ⟨⟨3600000000, by decide⟩, {}⟩ (Token.operand s) = some x.criterion ∧
            x.negated = Token.isNegated s.text)
        ((Segment.split "-@to OR -b".toList).filter (!Token.isSilent q.mode ·))
        q.root.leaves ∧
      q.root.leaves = [⟨.name "OR".toList, false⟩, ⟨.name "b".toList, true⟩] := by
  have hlocal : (Moment.mk ⟨7200000000, by decide⟩ (some ⟨3600000000, 0⟩)).local =
      .ok ⟨3600000000, by decide⟩ := rfl
  obtain ⟨q, hparse, hleaves⟩ := leaves_parseAt {} _ _ hlocal "-@to OR -b".toList
  have hq : parse ⟨⟨3600000000, by decide⟩, {}⟩ "-@to OR -b".toList = q :=
    Except.ok.inj ((parseAt_of_local {} hlocal _).symm.trans hparse)
  have hvalue : (parse ⟨⟨3600000000, by decide⟩, {}⟩ "-@to OR -b".toList).root.leaves =
      [⟨.name "OR".toList, false⟩, ⟨.name "b".toList, true⟩] := rfl
  exact ⟨hlocal, q, hparse, hleaves, hq ▸ hvalue⟩

end Query

end NoteQuery
