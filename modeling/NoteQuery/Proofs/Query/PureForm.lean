import Mathlib.Computability.RegularExpressions
import NoteQuery.Proofs.Query.Leaves

/-!
# The form of pure queries

Minuses left out, the tokens of a pure query are runs of tags and properties with one
connective between two runs. Reading from left to right finds out exactly that, so that no
run is empty and the terms of the tree are the tags and properties of the query.
-/
namespace NoteQuery

namespace TokenKind

def isOperand : TokenKind → Bool
  | tag => true
  | property => true
  | _ => false

theorem isOperand_iff (k : TokenKind) : k.isOperand ↔ k = .tag ∨ k = .property := by
  cases k <;> simp [isOperand]

open RegularExpression

def operand : RegularExpression TokenKind := char tag + char property

def operands : RegularExpression TokenKind := operand * operand.star

/-- Runs of operands with one connective between two runs. -/
def pureForm : RegularExpression TokenKind := operands * (char connector * operands).star

def pureRest : RegularExpression TokenKind := operand.star * (char connector * operands).star

theorem cons_mem_operand_mul_iff (k : TokenKind) (rest : List TokenKind)
    (l : Language TokenKind) :
    k :: rest ∈ operand.matches' * l ↔ k.isOperand ∧ rest ∈ l := by
  rw [isOperand_iff, Language.mem_mul]
  constructor
  · rintro ⟨u, hu | hu, v, hv, h⟩ <;> cases hu <;> cases h
    · exact ⟨Or.inl rfl, hv⟩
    · exact ⟨Or.inr rfl, hv⟩
  · rintro ⟨rfl | rfl, hv⟩
    · exact ⟨[tag], Or.inl rfl, rest, hv, rfl⟩
    · exact ⟨[property], Or.inr rfl, rest, hv, rfl⟩

theorem nil_not_mem_operand_mul (l : Language TokenKind) : [] ∉ operand.matches' * l := by
  rw [Language.mem_mul]
  rintro ⟨u, hu | hu, v, -, h⟩ <;> cases hu <;> cases h

theorem matches'_pureForm : pureForm.matches' = operand.matches' * pureRest.matches' := by
  rw [pureForm, pureRest, operands]
  simp only [matches'_mul, matches'_star, mul_assoc]

/-- Behind an operand stands nothing, a connective with a form of its own, or another
operand. -/
theorem matches'_pureRest :
    pureRest.matches' = 1 + {[connector]} * pureForm.matches' +
      operand.matches' * pureRest.matches' := by
  have hrun : pureRest.matches' =
      (char connector * operands).star.matches' + operand.matches' * pureRest.matches' := by
    rw [pureRest, matches'_mul, matches'_star operand]
    conv_lhs => rw [← Language.one_add_self_mul_kstar_eq_kstar, add_mul, one_mul, mul_assoc]
  have hlinks : (char connector * operands).star.matches' =
      1 + {[connector]} * pureForm.matches' := by
    rw [pureForm, matches'_mul operands, matches'_star]
    conv_lhs => rw [← Language.one_add_self_mul_kstar_eq_kstar]
    rw [matches'_mul, matches'_char, mul_assoc]
  rw [← hlinks]
  exact hrun

theorem cons_mem_pureForm_iff (k : TokenKind) (rest : List TokenKind) :
    k :: rest ∈ pureForm.matches' ↔ k.isOperand ∧ rest ∈ pureRest.matches' := by
  rw [matches'_pureForm, cons_mem_operand_mul_iff]

theorem nil_not_mem_pureForm : [] ∉ pureForm.matches' := by
  rw [matches'_pureForm]
  exact nil_not_mem_operand_mul _

theorem nil_mem_pureRest : [] ∈ pureRest.matches' := by
  rw [matches'_pureRest]
  exact Or.inl (Or.inl rfl)

theorem cons_mem_pureRest_iff (k : TokenKind) (rest : List TokenKind) :
    k :: rest ∈ pureRest.matches' ↔
      k = .connector ∧ rest ∈ pureForm.matches' ∨ k.isOperand ∧ rest ∈ pureRest.matches' := by
  have hlink : k :: rest ∈ ({[connector]} : Language TokenKind) * pureForm.matches' ↔
      k = .connector ∧ rest ∈ pureForm.matches' := by
    rw [Language.mem_mul]
    constructor
    · rintro ⟨u, rfl, v, hv, h⟩
      cases h
      exact ⟨rfl, hv⟩
    · rintro ⟨rfl, hv⟩
      exact ⟨[connector], rfl, rest, hv, rfl⟩
  conv_lhs =>
    rw [matches'_pureRest, Language.mem_add, Language.mem_add, Language.mem_one, hlink,
      cons_mem_operand_mul_iff]
  simp

end TokenKind

def Token.kinds (tokens : List Token) : List TokenKind :=
  (tokens.map (·.kind)).filter (· != .negation)

theorem Token.kinds_cons (t : Token) (rest : List Token) :
    kinds (t :: rest) = if t.kind = .negation then kinds rest else t.kind :: kinds rest := by
  rw [kinds, List.map_cons, List.filter_cons]
  by_cases h : t.kind = .negation <;> simp [h, kinds]

namespace QueryMode

/-- One step of reading a form, a minus being passed over. -/
theorem isPureFrom_cons_iff (expecting : Bool) (t : Token) (rest : List Token) :
    isPureFrom expecting (t :: rest) ↔
      t.kind = .negation ∧ isPureFrom expecting rest ∨
        t.kind = .connector ∧ expecting = false ∧ isPureFrom true rest ∨
        t.kind.isOperand ∧ isPureFrom false rest := by
  rw [isPureFrom]
  cases t.kind <;> simp [TokenKind.isOperand]

/-- Reading from left to right finds out whether the kinds have the form, or what is left of
it behind an operand. -/
theorem isPureFrom_iff_mem (expecting : Bool) (tokens : List Token) :
    isPureFrom expecting tokens ↔
      Token.kinds tokens ∈
        (if expecting then TokenKind.pureForm else TokenKind.pureRest).matches' := by
  induction tokens generalizing expecting with
  | nil =>
    cases expecting with
    | true => exact iff_of_false Bool.false_ne_true TokenKind.nil_not_mem_pureForm
    | false => exact iff_of_true rfl TokenKind.nil_mem_pureRest
  | cons t rest ih =>
    rw [isPureFrom_cons_iff, Token.kinds_cons, ih, ih, ih]
    by_cases hn : t.kind = .negation
    · simp [hn, TokenKind.isOperand]
    · rw [if_neg hn]
      cases expecting with
      | true =>
        rw [if_pos rfl, TokenKind.cons_mem_pureForm_iff]
        simp [hn]
      | false =>
        have hrest := TokenKind.cons_mem_pureRest_iff t.kind (Token.kinds rest)
        simp only [Bool.false_eq_true, if_false, if_true, hn, false_and, false_or, true_and,
          hrest]

theorem ofTokens_eq_pure_iff (tokens : List Token) :
    ofTokens tokens = .pure ↔ isPureFrom true tokens := by
  rw [ofTokens]
  cases isPureFrom true tokens <;> simp

theorem ofTokens_eq_pure_iff_mem (tokens : List Token) :
    ofTokens tokens = .pure ↔ Token.kinds tokens ∈ TokenKind.pureForm.matches' := by
  rw [ofTokens_eq_pure_iff, isPureFrom_iff_mem, if_pos rfl]

end QueryMode

namespace TokenKind

/-- Operands and connectives only, and no connective at an end or next to another. -/
structure IsPlaced (kinds : List TokenKind) : Prop where
  ne_nil : kinds ≠ []
  kind : ∀ k ∈ kinds, k.isOperand ∨ k = .connector
  first : kinds.head? ≠ some .connector
  last : kinds.getLast? ≠ some .connector
  apart : kinds.IsChain fun j k => ¬ (j = .connector ∧ k = .connector)

end TokenKind

namespace QueryMode

/-- The kind in front counts as a connective as long as an operand is expected. -/
theorem isPureFrom_iff_apart {expecting : Bool} {front : TokenKind}
    (hfront : front = .connector ↔ expecting = true) (tokens : List Token) :
    isPureFrom expecting tokens ↔
      (∀ k ∈ Token.kinds tokens, k.isOperand ∨ k = .connector) ∧
        (front :: Token.kinds tokens).IsChain (fun j k => ¬ (j = .connector ∧ k = .connector)) ∧
        (front :: Token.kinds tokens).getLast? ≠ some .connector := by
  induction tokens generalizing expecting front with
  | nil =>
    have hlast : ¬ front = .connector ↔ expecting = false := by rw [hfront, Bool.not_eq_true]
    simp [isPureFrom, Token.kinds, hlast]
  | cons t rest ih =>
    rw [isPureFrom_cons_iff, Token.kinds_cons]
    by_cases hn : t.kind = .negation
    · simp [hn, TokenKind.isOperand, ih hfront]
    · rw [if_neg hn, List.forall_mem_cons, List.isChain_cons_cons, List.getLast?_cons_cons]
      by_cases hc : t.kind = .connector
      · have hbehind := @ih true t.kind (by simp [hc])
        have hopen : ¬ front = .connector ↔ expecting = false := by
          rw [hfront, Bool.not_eq_true]
        rw [hc] at hbehind ⊢
        simp [TokenKind.isOperand, hbehind, hopen, and_left_comm, and_assoc]
      · have hbehind := @ih false t.kind (by simp [hc])
        simp [hn, hc, hbehind, and_assoc]

theorem isPureFrom_iff_isPlaced (tokens : List Token) :
    isPureFrom true tokens ↔ TokenKind.IsPlaced (Token.kinds tokens) := by
  have hstart := @isPureFrom_iff_apart true .connector (by simp) tokens
  rw [hstart]
  cases hk : Token.kinds tokens with
  | nil => exact iff_of_false (by simp) fun h => h.ne_nil rfl
  | cons k ks =>
    rw [List.isChain_cons_cons, List.getLast?_cons_cons]
    constructor
    · rintro ⟨hkind, ⟨hfirst, hapart⟩, hlast⟩
      exact ⟨List.cons_ne_nil k ks, hkind, by simpa using hfirst, hlast, hapart⟩
    · intro h
      exact ⟨h.kind, ⟨by simpa using h.first, h.apart⟩, h.last⟩

/-! ## The runs between connectives -/

/-- The operands and minuses between two connectives; an operand is missing only where one
stood in front. -/
theorem run_of_isPureFrom {expecting : Bool} {tokens : List Token}
    (h : isPureFrom expecting tokens) :
    ∃ run runs, tokens.splitOnP (·.kind == .connector) = run :: runs ∧
      (expecting = true → ∃ t ∈ run, t.kind.isOperand) ∧
      (∀ g ∈ runs, ∃ t ∈ g, t.kind.isOperand) ∧
      ∀ g ∈ run :: runs, ∀ t ∈ g, t.kind = .negation ∨ t.kind.isOperand := by
  induction tokens generalizing expecting with
  | nil =>
    refine ⟨[], [], List.splitOnP_nil, ?_, by simp, by simp⟩
    rintro rfl
    cases h
  | cons t rest ih =>
    rw [List.splitOnP_cons_eq_if_modifyHead]
    rcases (isPureFrom_cons_iff expecting t rest).mp h with ⟨hk, h⟩ | ⟨hk, hopen, h⟩ | ⟨hk, h⟩
    · obtain ⟨run, runs, hsplit, hrun, hruns, hall⟩ := ih h
      refine ⟨t :: run, runs, by simp [hk, hsplit], ?_, hruns, ?_⟩
      · intro he
        obtain ⟨u, hu, huk⟩ := hrun he
        exact ⟨u, List.mem_cons_of_mem t hu, huk⟩
      · rw [List.forall_mem_cons] at hall ⊢
        exact ⟨List.forall_mem_cons.mpr ⟨Or.inl hk, hall.1⟩, hall.2⟩
    · obtain ⟨run, runs, hsplit, hrun, hruns, hall⟩ := ih h
      refine ⟨[], run :: runs, by simp [hk, hsplit], by simp [hopen], ?_, ?_⟩
      · rw [List.forall_mem_cons]
        exact ⟨hrun rfl, hruns⟩
      · rw [List.forall_mem_cons]
        exact ⟨nofun, hall⟩
    · obtain ⟨run, runs, hsplit, -, hruns, hall⟩ := ih h
      have hne : t.kind ≠ .connector := by
        rintro hc
        rw [hc] at hk
        cases hk
      refine ⟨t :: run, runs, by simp [hne, hsplit], fun _ => ⟨t, List.mem_cons_self, hk⟩,
        hruns, ?_⟩
      rw [List.forall_mem_cons] at hall ⊢
      exact ⟨List.forall_mem_cons.mpr ⟨Or.inr hk, hall.1⟩, hall.2⟩

end QueryMode

namespace Reading

/-- Terms stand in the order of their tokens, one for each, where every token that is a term
stands for one. -/
theorem terms_spec (r : Reading) (ctx : Context) {seen rest : List Token} {negated : Bool}
    (hn : negated = true ↔ r.MinusWaits seen)
    (hterms : ∀ t ∈ rest, r.isTerm t → (Criterion.ofToken? ctx t).isSome) :
    (r.terms ctx negated rest).length = rest.countP r.isTerm ∧
      ∀ front t back, rest = front ++ t :: back → r.isTerm t →
        ∃ x, (r.terms ctx negated rest)[front.countP r.isTerm]? = some x ∧
          r.IsTermOf ctx (seen ++ front) t x := by
  induction rest generalizing seen negated with
  | nil => exact ⟨rfl, fun front t back h => by simp at h⟩
  | cons u rest ih =>
    rw [List.forall_mem_cons] at hterms
    have hwaits := r.minusWaits_concat seen u
    by_cases hu : r.isTerm u
    · obtain ⟨c, hc⟩ := Option.isSome_iff_exists.mp (hterms.1 hu)
      have hkind : u.kind ≠ .negation := fun h => by simp [(r.of_negation u h).1] at hu
      have hn' : false = true ↔ r.MinusWaits (seen ++ [u]) := by simp [hwaits, hkind, hu]
      obtain ⟨hlength, hplace⟩ := ih hn' hterms.2
      have hcons : r.terms ctx negated (u :: rest) =
          ⟨c, negated⟩ :: r.terms ctx false rest := by
        rw [r.terms_of_isTerm ctx negated hu, hc]
        rfl
      rw [hcons, List.length_cons, hlength, List.countP_cons_of_pos hu]
      refine ⟨rfl, ?_⟩
      intro front t back h ht
      cases front with
      | nil =>
        cases h
        rw [List.append_nil]
        exact ⟨⟨c, negated⟩, rfl, hu, hc, hn⟩
      | cons v front =>
        cases h
        obtain ⟨x, hx, hterm⟩ := hplace front t back rfl ht
        rw [List.countP_cons_of_pos hu]
        exact ⟨x, hx, by simpa using hterm⟩
    · have hn' : (negated || u.kind == .negation) = true ↔ r.MinusWaits (seen ++ [u]) := by
        simp [hwaits, hu, hn, or_comm]
      obtain ⟨hlength, hplace⟩ := ih hn' hterms.2
      have hcons : r.terms ctx negated (u :: rest) =
          r.terms ctx (negated || u.kind == .negation) rest := by
        by_cases hk : u.kind = .negation
        · rw [r.terms_negation ctx negated hk, hk]
          simp
        · rw [r.terms_of_not_isTerm ctx negated (by simpa using hu) hk]
          simp [beq_eq_false_iff_ne.mpr hk]
      rw [hcons, hlength, List.countP_cons_of_neg hu]
      refine ⟨rfl, ?_⟩
      intro front t back h ht
      cases front with
      | nil =>
        cases h
        exact absurd ht hu
      | cons v front =>
        cases h
        obtain ⟨x, hx, hterm⟩ := hplace front t back rfl ht
        rw [List.countP_cons_of_neg hu]
        exact ⟨x, hx, by simpa using hterm⟩

end Reading

namespace QueryMode

/-- In a pure query the terms are the tags and properties. -/
theorem isTerm_eq_isOperand {tokens : List Token} (h : ofTokens tokens = .pure) :
    ∀ t ∈ tokens, Reading.pure.isTerm t = t.kind.isOperand := by
  intro t ht
  have hkind := kind_of_isPureFrom (isPureFrom_of_ofTokens h) t ht
  rw [Bool.eq_iff_iff, TokenKind.isOperand_iff]
  constructor
  · exact hkind
  · rintro (hk | hk) <;> simp [hk]

/-- The terms of the tree of a pure query are its tags and properties, in their order, each
negated by a minus that waits in front of it. -/
theorem leaves_of_pure {tokens : List Token} (h : ofTokens tokens = .pure) (ctx : Context) :
    (Node.ofTokens ctx tokens).leaves.length = tokens.countP (·.kind.isOperand) ∧
      ∀ front t back, tokens = front ++ t :: back → t.kind.isOperand →
        ∃ x, (Node.ofTokens ctx tokens).leaves[front.countP (·.kind.isOperand)]? = some x ∧
          Reading.pure.IsTermOf ctx front t x := by
  have hleaves := Node.leaves_ofTokens ctx tokens
  rw [h] at hleaves
  have hterm := isTerm_eq_isOperand h
  have hsome : ∀ t ∈ tokens, Reading.pure.isTerm t → (Criterion.ofToken? ctx t).isSome := by
    intro t ht hop
    rw [hterm t ht, TokenKind.isOperand_iff] at hop
    rcases hop with hk | hk <;> simp [Criterion.ofToken?, hk]
  have hstart : false = true ↔ Reading.pure.MinusWaits [] := by
    simp [Reading.pure.not_minusWaits_nil]
  obtain ⟨hlength, hplace⟩ := Reading.pure.terms_spec ctx hstart hsome
  have hcount : ∀ us : List Token, (∀ t ∈ us, t ∈ tokens) →
      us.countP Reading.pure.isTerm = us.countP (·.kind.isOperand) := by
    intro us hus
    exact List.countP_congr fun t ht => by rw [hterm t (hus t ht)]
  rw [hleaves, ← hcount tokens fun t ht => ht]
  refine ⟨hlength, ?_⟩
  intro front t back htokens hop
  have hfront := hcount front fun u hu => by simp [htokens, hu]
  have ht := hterm t (by simp [htokens])
  rw [← hfront]
  exact hplace front t back htokens (ht.trans hop)

/-- A list of tokens is a pure query exactly if its kinds, minuses left out, are runs of tags
and properties with one connective between two runs. Then each run has an operand, and the
terms of the tree are the operands. -/
theorem pureForm_exact (tokens : List Token) :
    (ofTokens tokens = .pure ↔ Token.kinds tokens ∈ TokenKind.pureForm.matches') ∧
      (ofTokens tokens = .mixed ↔ Token.kinds tokens ∉ TokenKind.pureForm.matches') ∧
      (ofTokens tokens = .pure ↔ TokenKind.IsPlaced (Token.kinds tokens)) ∧
      (ofTokens tokens = .pure →
        (∀ g ∈ tokens.splitOnP (·.kind == .connector),
          (∃ t ∈ g, t.kind.isOperand) ∧ ∀ t ∈ g, t.kind = .negation ∨ t.kind.isOperand) ∧
        ∀ ctx, (Node.ofTokens ctx tokens).leaves.length = tokens.countP (·.kind.isOperand) ∧
          ∀ front t back, tokens = front ++ t :: back → t.kind.isOperand →
            ∃ x, (Node.ofTokens ctx tokens).leaves[front.countP (·.kind.isOperand)]? = some x ∧
              Reading.pure.IsTermOf ctx front t x) := by
  have hpure := ofTokens_eq_pure_iff_mem tokens
  refine ⟨hpure, ?_, ?_, ?_⟩
  · rw [← hpure]
    cases ofTokens tokens <;> simp
  · rw [ofTokens_eq_pure_iff, isPureFrom_iff_isPlaced]
  · intro h
    refine ⟨?_, leaves_of_pure h⟩
    obtain ⟨run, runs, hsplit, hrun, hruns, hall⟩ :=
      run_of_isPureFrom ((ofTokens_eq_pure_iff tokens).mp h)
    intro g hg
    rw [hsplit] at hg
    refine ⟨?_, hall g hg⟩
    rcases List.mem_cons.mp hg with rfl | hg
    · exact hrun rfl
    · exact hruns g hg

end QueryMode

end NoteQuery
