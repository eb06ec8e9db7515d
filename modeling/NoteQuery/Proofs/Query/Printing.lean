import NoteQuery.Proofs.Query.Adding
import NoteQuery.Proofs.Query.Spacing
import NoteQuery.Proofs.Text.Splitting

/-!
# Writing a pure query

A disjunction of conjunctions of tags and properties can be written out, the texts in it
quoted, whatever they are. Reading it gives the tree that was meant: the connectives nest
to the left, and every path, key and value comes back as it was.
-/
namespace NoteQuery

/-- A tag or a property that a query asks for. -/
inductive Atom where
  | tag (path : Text)
  | property (key : Text) (value : Option Text)

namespace Atom

/-- A path has no blanks and no slashes at its ends and a key no blanks; neither is empty,
and nor is a value. -/
def IsProper : Atom → Prop
  | tag path => path ≠ [] ∧ Text.IsBare Text.isBlank path ∧ Text.IsBare (· == '/') path
  | property key value => key ≠ [] ∧ Text.IsBare Text.isBlank key ∧ value ≠ some []

instance : DecidablePred IsProper
  | tag _ => inferInstanceAs (Decidable (_ ∧ _ ∧ _))
  | property _ _ => inferInstanceAs (Decidable (_ ∧ _ ∧ _))

def written : Atom → Text
  | tag path => '#' :: Quote.quote path
  | property key value => Edit.formatProperty key value

def kind : Atom → TokenKind
  | tag _ => .tag
  | property .. => .property

def criterion : Atom → Criterion
  | tag path => .tag (some path)
  | property key value => .property key value

theorem reads_written (w : Text) (a : Atom) :
    Cursor.Reads ⟨false, false, w⟩ a.written ⟨false, false, w ++ a.written⟩ := by
  cases a with
  | tag path => exact Quote.reads_cons_quote w (Or.inl rfl) path
  | property key value => exact Edit.reads_formatProperty w key value

theorem exists_written {a : Atom} (h : a.IsProper) :
    ∃ c rest, a.written = c :: rest ∧ c ≠ '-' ∧ Token.classify (c :: rest) = a.kind := by
  cases a with
  | tag path =>
    exact ⟨'#', _, rfl, by decide, Token.classify_hash _⟩
  | property key value =>
    obtain ⟨c, rest, hquote⟩ := List.exists_cons_of_ne_nil (Quote.quote_ne_nil h.1)
    rw [written, Edit.formatProperty, hquote]
    cases value.bind Text.nonEmpty? with
    | none => exact ⟨'.', _, rfl, by decide, Token.classify_dot c _⟩
    | some v => exact ⟨'.', _, rfl, by decide, Token.classify_dot c _⟩

/-- What is written out is read back. -/
theorem ofToken?_written (ctx : Context) {a : Atom} (h : a.IsProper) (start stop : Nat) :
    Criterion.ofToken? ctx ⟨a.kind, a.written, start, stop⟩ = some a.criterion := by
  have hnonEmpty : ∀ {s : Text}, s ≠ [] → Text.nonEmpty? s = some s := fun {s} hs => by
    rw [Text.nonEmpty?, List.isEmpty_eq_false_iff.mpr hs]
    rfl
  cases a with
  | tag path =>
    obtain ⟨hne, hblank, hslash⟩ := h
    have hstrip : Text.stripChars ['/'] path = path := by
      have hclass : ['/'].contains = (· == '/') := by
        funext c
        rw [Bool.eq_iff_iff]
        simp
      rw [Text.stripChars, hclass]
      exact Text.stripWhere_eq_self hslash
    show some (Criterion.ofTag (Quote.quote path)) = _
    rw [Criterion.ofTag, Quote.unquote_quote, Text.trim, Text.stripWhere_eq_self hblank, hstrip,
      hnonEmpty hne]
    rfl
  | property key value =>
    obtain ⟨hne, hblank, hvalue⟩ := h
    have hsame : value.bind Text.nonEmpty? = value := by
      cases value with
      | none => rfl
      | some v => exact hnonEmpty fun hnil => hvalue (by rw [hnil])
    show some ((Criterion.ofProperty? ((Edit.formatProperty key value).drop 1)).getD _) = _
    rw [Criterion.ofProperty?, Edit.keyAndValue_formatProperty, hsame, Text.trim,
      Text.stripWhere_eq_self hblank, hnonEmpty hne]
    rfl

end Atom

structure Literal where
  atom : Atom
  negated : Bool

namespace Literal

def written (l : Literal) : Text := (if l.negated then ['-'] else []) ++ l.atom.written

def term (l : Literal) : Term := ⟨l.atom.criterion, l.negated⟩

def tree (l : Literal) : Node := .term l.term

theorem isWord_written {l : Literal} (h : l.atom.IsProper) : Text.IsWord l.written := by
  obtain ⟨c, rest, hatom, -⟩ := Atom.exists_written h
  refine ⟨by simp [written, hatom], ?_⟩
  rw [written]
  cases l.negated with
  | true =>
    have hsign := Cursor.reads_char false [] (c := '-') (by decide) (Or.inr rfl)
    exact hsign.append (Atom.reads_written ['-'] l.atom)
  | false => exact Atom.reads_written [] l.atom

/-- The tokens of a literal are a minus, if it has one, and its atom. -/
theorem ofWord_written {l : Literal} (h : l.atom.IsProper) :
    Token.ofWord l.written =
      (if l.negated then [⟨.negation, ['-'], 0, 0⟩] else []) ++
        [⟨l.atom.kind, l.atom.written, 0, 0⟩] := by
  obtain ⟨c, rest, hatom, hsign, hkind⟩ := Atom.exists_written h
  rw [written, hatom, ← hkind]
  cases l.negated with
  | true =>
    have hnegated : Token.classifyNegated (c :: rest) = Token.classify (c :: rest) := by
      rw [Token.classifyNegated, hkind]
      cases l.atom <;> rfl
    show [_, Token.bare ⟨Token.classifyNegated (c :: rest), c :: rest, _, _⟩] = _
    rw [hnegated]
    rfl
  | false =>
    rcases Token.ofSegment_cases (c :: rest) with ⟨d, more, hd⟩ | htoken
    · exact absurd (List.cons.inj hd).1 hsign
    · show (Token.ofSegment ⟨0, 0, c :: rest⟩).map Token.bare = _
      rw [htoken]
      rfl

theorem isPureFrom_written {l : Literal} (h : l.atom.IsProper) (expecting : Bool)
    (rest : List Token) :
    QueryMode.isPureFrom expecting (Token.ofWord l.written ++ rest) =
      QueryMode.isPureFrom false rest := by
  rw [ofWord_written h]
  cases l.negated <;> cases l.atom <;> rfl

/-- Reading a literal joins its term to the conjunction so far. -/
theorem conjunctions_written (ctx : Context) {l : Literal} (h : l.atom.IsProper) (byWord : Bool)
    (sofar : Option Node) (rest : List Token) :
    Node.conjunctions ctx false byWord sofar (Token.ofWord l.written ++ rest) =
      Node.conjunctions ctx false false (some (Node.conjoin byWord sofar l.term)) rest := by
  have hread := Atom.ofToken?_written ctx h 0 0
  have hatom : ∀ negated, Node.conjunctions ctx negated byWord sofar
      (⟨l.atom.kind, l.atom.written, 0, 0⟩ :: rest) =
        Node.conjunctions ctx false false
          (some (Node.conjoin byWord sofar ⟨l.atom.criterion, negated⟩)) rest := by
    intro negated
    cases hl : l.atom <;>
      · rw [hl] at hread
        rw [Node.conjunctions, hread]
        rfl
  rw [ofWord_written h, term]
  cases l.negated with
  | true => exact hatom true
  | false => exact hatom false

end Literal

namespace Text

theorem join_append {u v : List Text} (hu : u ≠ []) (hv : v ≠ []) :
    join [' '] (u ++ v) = join [' '] u ++ ' ' :: join [' '] v := by
  induction u with
  | nil => exact absurd rfl hu
  | cons w u ih =>
    by_cases hnil : u = []
    · rw [hnil, List.singleton_append, join_cons w hv]
      simp [join, List.intercalate]
    · rw [List.cons_append, join_cons w (by simp [hv]), ih hnil, join_cons w hnil,
        List.append_assoc, List.cons_append]

theorem head?_join_cons {w : Text} (h : w ≠ []) (ws : List Text) :
    (join [' '] (w :: ws)).head? = w.head? := by
  obtain ⟨c, rest, rfl⟩ := List.exists_cons_of_ne_nil h
  cases ws with
  | nil => simp [join, List.intercalate]
  | cons v ws =>
    rw [join_cons _ (List.cons_ne_nil v ws)]
    rfl

theorem getLast?_join_concat {w : Text} (h : w ≠ []) (ws : List Text) :
    (join [' '] (ws ++ [w])).getLast? = w.getLast? := by
  have hlast : join [' '] [w] = w := by simp [join, List.intercalate]
  cases ws with
  | nil => rw [List.nil_append, hlast]
  | cons v ws =>
    obtain ⟨c, rest, hw⟩ := List.exists_cons_of_ne_nil h
    rw [join_append (List.cons_ne_nil v ws) (List.cons_ne_nil w []), hlast, hw,
      List.getLast?_append_cons, List.getLast?_cons_cons]

/-- Lists of words with a word between them are joined as their joined texts are. -/
theorem join_intercalate (w : Text) {lists : List (List Text)} (h : ∀ ws ∈ lists, ws ≠ []) :
    join [' '] (List.intercalate [w] lists) =
      join (' ' :: w ++ [' ']) (lists.map (join [' '])) := by
  induction lists with
  | nil => rfl
  | cons ws lists ih =>
    rw [List.forall_mem_cons] at h
    cases lists with
    | nil => simp [join, List.intercalate]
    | cons vs lists =>
      have hrest : List.intercalate [w] (vs :: lists) ≠ [] := by
        have hvs := h.2 vs List.mem_cons_self
        cases lists with
        | nil => simpa [List.intercalate] using hvs
        | cons us lists =>
          rw [List.intercalate_cons_cons]
          simp
      have htail := ih h.2
      rw [List.intercalate_cons_cons, List.append_assoc, join_append h.1 (by simp),
        List.singleton_append, join_cons w hrest, htail]
      simp only [List.map_cons]
      rw [join_cons_cons]
      simp

end Text

def Query.written (groups : List (List Literal)) : Text :=
  Text.join " OR ".toList (groups.map fun g => Text.join " AND ".toList (g.map Literal.written))

namespace Node

/-- Trees joined by one connective, nested to the left. -/
def nested (op : Operator) : List Node → Node
  | [] => .all []
  | m :: rest => rest.foldl (.connector op) m

end Node

namespace Query

def conjunctWords (g : List Literal) : List Text :=
  List.intercalate [Operator.and.word] (g.map fun l => [l.written])

def queryWords (groups : List (List Literal)) : List Text :=
  List.intercalate [Operator.or.word] (groups.map conjunctWords)

theorem conjunctWords_cons (l k : Literal) (g : List Literal) :
    conjunctWords (l :: k :: g) = l.written :: Operator.and.word :: conjunctWords (k :: g) :=
  List.intercalate_cons_cons

theorem queryWords_cons (g h : List Literal) (groups : List (List Literal)) :
    queryWords (g :: h :: groups) =
      conjunctWords g ++ Operator.or.word :: queryWords (h :: groups) := by
  rw [queryWords, List.map_cons, List.map_cons, List.intercalate_cons_cons, List.append_assoc]
  rfl

theorem conjunctWords_ne_nil {g : List Literal} (h : g ≠ []) : conjunctWords g ≠ [] := by
  obtain ⟨l, rest, rfl⟩ := List.exists_cons_of_ne_nil h
  cases rest with
  | nil => simp [conjunctWords, List.intercalate]
  | cons k rest => simp [conjunctWords_cons]

theorem written_eq {groups : List (List Literal)} (h : ∀ g ∈ groups, g ≠ []) :
    written groups = Text.join [' '] (queryWords groups) := by
  have hconjunct : ∀ g : List Literal,
      Text.join " AND ".toList (g.map Literal.written) = Text.join [' '] (conjunctWords g) := by
    intro g
    have hlists : ∀ ws ∈ g.map fun l => [l.written], ws ≠ [] := by
      intro ws hws
      obtain ⟨l, -, rfl⟩ := List.mem_map.mp hws
      exact List.cons_ne_nil _ _
    have hsingle : (g.map fun l => [l.written]).map (Text.join [' ']) = g.map Literal.written := by
      simp [Text.join, List.intercalate, Function.comp_def]
    rw [conjunctWords, Text.join_intercalate _ hlists, hsingle]
    rfl
  have hlists : ∀ ws ∈ groups.map conjunctWords, ws ≠ [] := by
    intro ws hws
    obtain ⟨g, hg, rfl⟩ := List.mem_map.mp hws
    exact conjunctWords_ne_nil (h g hg)
  rw [queryWords, Text.join_intercalate _ hlists, List.map_map, written]
  simp only [hconjunct]
  rfl

theorem isWord_of_mem_conjunctWords {g : List Literal} (h : ∀ l ∈ g, l.atom.IsProper) {w : Text}
    (hw : w ∈ conjunctWords g) : Text.IsWord w := by
  induction g with
  | nil => cases hw
  | cons l g ih =>
    rw [List.forall_mem_cons] at h
    cases g with
    | nil =>
      rw [conjunctWords, List.map_singleton, List.intercalate_singleton, List.mem_singleton] at hw
      rw [hw]
      exact Literal.isWord_written h.1
    | cons k g =>
      rw [conjunctWords_cons, List.mem_cons, List.mem_cons] at hw
      rcases hw with rfl | rfl | hw
      · exact Literal.isWord_written h.1
      · exact Edit.isWord_operator .and
      · exact ih h.2 hw

theorem isWord_of_mem_queryWords {groups : List (List Literal)}
    (h : ∀ g ∈ groups, ∀ l ∈ g, l.atom.IsProper) {w : Text} (hw : w ∈ queryWords groups) :
    Text.IsWord w := by
  induction groups with
  | nil => cases hw
  | cons g groups ih =>
    rw [List.forall_mem_cons] at h
    cases groups with
    | nil =>
      rw [queryWords, List.map_singleton, List.intercalate_singleton] at hw
      exact isWord_of_mem_conjunctWords h.1 hw
    | cons k groups =>
      rw [queryWords_cons, List.mem_append, List.mem_cons] at hw
      rcases hw with hw | rfl | hw
      · exact isWord_of_mem_conjunctWords h.1 hw
      · exact Edit.isWord_operator .or
      · exact ih h.2 hw

theorem words_written {groups : List (List Literal)} (hne : ∀ g ∈ groups, g ≠ [])
    (h : ∀ g ∈ groups, ∀ l ∈ g, l.atom.IsProper) :
    Segment.words (written groups) = queryWords groups := by
  rw [written_eq hne]
  exact Text.words_join fun w hw => isWord_of_mem_queryWords h hw

def conjunctTokens (g : List Literal) : List Token := (conjunctWords g).flatMap Token.ofWord

def queryTokens (groups : List (List Literal)) : List Token :=
  (queryWords groups).flatMap Token.ofWord

theorem conjunctTokens_singleton (l : Literal) : conjunctTokens [l] = Token.ofWord l.written := by
  rw [conjunctTokens, conjunctWords, List.map_singleton, List.intercalate_singleton,
    List.flatMap_singleton]

theorem conjunctTokens_cons (l k : Literal) (g : List Literal) :
    conjunctTokens (l :: k :: g) = Token.ofWord l.written ++
      ⟨.connector, Operator.and.word, 0, 0⟩ :: conjunctTokens (k :: g) := by
  rw [conjunctTokens, conjunctWords_cons, List.flatMap_cons, List.flatMap_cons]
  rfl

theorem queryTokens_singleton (g : List Literal) : queryTokens [g] = conjunctTokens g := by
  rw [queryTokens, queryWords, List.map_singleton, List.intercalate_singleton, conjunctTokens]

theorem queryTokens_cons (g k : List Literal) (groups : List (List Literal)) :
    queryTokens (g :: k :: groups) = conjunctTokens g ++
      ⟨.connector, Operator.or.word, 0, 0⟩ :: queryTokens (k :: groups) := by
  rw [queryTokens, queryWords_cons, List.flatMap_append, List.flatMap_cons]
  rfl

theorem isPureFrom_conjunctTokens {g : List Literal} (hne : g ≠ [])
    (h : ∀ l ∈ g, l.atom.IsProper) (expecting : Bool) (rest : List Token) :
    QueryMode.isPureFrom expecting (conjunctTokens g ++ rest) =
      QueryMode.isPureFrom false rest := by
  induction g generalizing expecting with
  | nil => exact absurd rfl hne
  | cons l g ih =>
    rw [List.forall_mem_cons] at h
    cases g with
    | nil =>
      rw [conjunctTokens_singleton]
      exact Literal.isPureFrom_written h.1 expecting rest
    | cons k g =>
      rw [conjunctTokens_cons, List.append_assoc, Literal.isPureFrom_written h.1]
      exact ih (List.cons_ne_nil _ _) h.2 true

theorem isPureFrom_queryTokens {groups : List (List Literal)} (hgroups : groups ≠ [])
    (hne : ∀ g ∈ groups, g ≠ []) (h : ∀ g ∈ groups, ∀ l ∈ g, l.atom.IsProper) :
    QueryMode.isPureFrom true (queryTokens groups) = true := by
  induction groups with
  | nil => exact absurd rfl hgroups
  | cons g groups ih =>
    rw [List.forall_mem_cons] at hne h
    cases groups with
    | nil =>
      rw [queryTokens_singleton, ← List.append_nil (conjunctTokens g),
        isPureFrom_conjunctTokens hne.1 h.1]
      rfl
    | cons k groups =>
      rw [queryTokens_cons, isPureFrom_conjunctTokens hne.1 h.1]
      exact ih (List.cons_ne_nil _ _) hne.2 h.2

/-- Reading a conjunction behind a first term nests its terms to the left. -/
theorem conjunctions_conjunctTokens (ctx : Context) {l : Literal} {g : List Literal}
    (hl : l.atom.IsProper) (h : ∀ k ∈ g, k.atom.IsProper) (byWord : Bool) (sofar : Option Node)
    (rest : List Token) :
    Node.conjunctions ctx false byWord sofar (conjunctTokens (l :: g) ++ rest) =
      Node.conjunctions ctx false false
        (some ((g.map Literal.tree).foldl (.connector .and)
          (Node.conjoin byWord sofar l.term))) rest := by
  induction g generalizing l byWord sofar with
  | nil =>
    rw [conjunctTokens_singleton]
    exact Literal.conjunctions_written ctx hl byWord sofar rest
  | cons k g ih =>
    rw [List.forall_mem_cons] at h
    rw [conjunctTokens_cons, List.append_assoc, Literal.conjunctions_written ctx hl]
    exact ih h.1 h.2 true _

/-- The tree of a conjunction that is written out. -/
def conjunctTree (g : List Literal) : Node := Node.nested .and (g.map Literal.tree)

theorem conjunctions_of_ne_nil (ctx : Context) {g : List Literal} (hne : g ≠ [])
    (h : ∀ l ∈ g, l.atom.IsProper) (rest : List Token) :
    Node.conjunctions ctx false false none (conjunctTokens g ++ rest) =
      Node.conjunctions ctx false false (some (conjunctTree g)) rest := by
  obtain ⟨l, g, rfl⟩ := List.exists_cons_of_ne_nil hne
  rw [List.forall_mem_cons] at h
  exact conjunctions_conjunctTokens ctx h.1 h.2 false none rest

theorem conjunctions_queryTokens (ctx : Context) {groups : List (List Literal)}
    (hgroups : groups ≠ []) (hne : ∀ g ∈ groups, g ≠ [])
    (h : ∀ g ∈ groups, ∀ l ∈ g, l.atom.IsProper) :
    Node.conjunctions ctx false false none (queryTokens groups) = groups.map conjunctTree := by
  induction groups with
  | nil => exact absurd rfl hgroups
  | cons g groups ih =>
    rw [List.forall_mem_cons] at hne h
    cases groups with
    | nil =>
      rw [queryTokens_singleton, ← List.append_nil (conjunctTokens g),
        conjunctions_of_ne_nil ctx hne.1 h.1]
      rfl
    | cons k groups =>
      have htail := ih (List.cons_ne_nil _ _) hne.2 h.2
      rw [queryTokens_cons, conjunctions_of_ne_nil ctx hne.1 h.1, Node.conjunctions, List.map_cons,
        ← htail]
      rfl

/-- A written query is read as the tree that was meant, at every time. -/
theorem parseAt_written (conventions : Conventions) (now : Moment)
    {groups : List (List Literal)} (hgroups : groups ≠ []) (hne : ∀ g ∈ groups, g ≠ [])
    (h : ∀ g ∈ groups, ∀ l ∈ g, l.atom.IsProper) :
    parseAt conventions now (written groups) =
      .ok ⟨written groups,
        Node.nested .or (groups.map fun g => Node.nested .and (g.map Literal.tree)), .pure⟩ := by
  have hwords : (Segment.words (written groups)).flatMap Token.ofWord = queryTokens groups := by
    rw [words_written hne h, queryTokens]
  have hpure := isPureFrom_queryTokens hgroups hne h
  have hmode : QueryMode.ofTokens (queryTokens groups) = .pure := by
    rw [QueryMode.ofTokens, if_pos hpure]
  have hroot : ∀ ctx, Node.ofTokens ctx (queryTokens groups) =
      Node.nested .or (groups.map fun g => Node.nested .and (g.map Literal.tree)) := by
    intro ctx
    rw [Node.ofTokens, hmode]
    show Node.disjoin (Node.conjunctions ctx false false none (queryTokens groups)) = _
    rw [conjunctions_queryTokens ctx hgroups hne h]
    cases groups with
    | nil => rfl
    | cons g groups => rfl
  have hask : (Token.tokenize (written groups)).any Token.asksTime = false := by
    have htokens : QueryMode.isPureFrom true (Token.tokenize (written groups)) = true := by
      rw [← QueryMode.isPureFrom_map_bare, Token.map_bare_tokenize, hwords]
      exact hpure
    refine List.any_eq_false.mpr fun t ht => ?_
    rw [Node.asksTime_of_pure htokens t ht]
    exact Bool.false_ne_true
  rw [parseAt_of_not_asksTime conventions now hask, parse_eq, hwords, hroot, hmode]

/-- A path with a blank, a key with an equals sign and a value that is a quote. -/
theorem parseAt_written_quoted :
    let groups : List (List Literal) :=
      [[⟨.tag "a b".toList, true⟩, ⟨.property "k=".toList (some ['"']), false⟩],
        [⟨.property "k".toList none, true⟩]]
    (groups ≠ [] ∧ (∀ g ∈ groups, g ≠ []) ∧ ∀ g ∈ groups, ∀ l ∈ g, l.atom.IsProper) ∧
      written groups = "-#\"a b\" AND .k\\==\"\\\"\" OR -.k".toList ∧
      parseAt {} ⟨.first, none⟩ (written groups) =
        .ok ⟨written groups,
          .connector .or
            (.connector .and (.term ⟨.tag (some "a b".toList), true⟩)
              (.term ⟨.property "k=".toList (some ['"']), false⟩))
            (.term ⟨.property "k".toList none, true⟩), .pure⟩ := by
  intro groups
  have hgroups : groups ≠ [] := List.cons_ne_nil _ _
  have hne : ∀ g ∈ groups, g ≠ [] := by simp [groups]
  have hproper : ∀ g ∈ groups, ∀ l ∈ g, l.atom.IsProper := by decide +kernel
  exact ⟨⟨hgroups, hne, hproper⟩, by decide,
    parseAt_written {} ⟨.first, none⟩ hgroups hne hproper⟩

end Query

end NoteQuery
