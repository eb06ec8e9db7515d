import Mathlib.Data.List.TakeDrop
import NoteQuery.Proofs.Query.Leaves
import NoteQuery.Proofs.Query.Printing

/-!
# Toggling properties

Properties that are written out with a connective between any two of them are read back as
these properties, whatever their keys and values are. A toggle finds its property again in
such a text and takes one connective with it when it removes the property, so that the text
is that of the other properties again.
-/
namespace NoteQuery

namespace Edit

open Token (isConnector)

/-- A toggle removes a word exactly if it finds its target, and adds its term otherwise. -/
theorem toggle_removed_iff (raw formatted : Text) (isTarget : Text → Bool) (operator : Operator) :
    ((toggle raw formatted isTarget operator).action = .removed ↔
        ∃ w ∈ Segment.words (Text.trim raw), isTarget w) ∧
      ((toggle raw formatted isTarget operator).action ≠ .removed →
        (toggle raw formatted isTarget operator).action = .added) := by
  simp only [toggle, List.span_eq_takeWhile_dropWhile]
  cases hrest : (Segment.words (Text.trim raw)).dropWhile (!isTarget ·) with
  | nil =>
    have hnone := List.dropWhile_eq_nil_iff.mp hrest
    have hadded : EditAction.added ≠ .removed := by decide
    refine ⟨iff_of_false hadded ?_, fun _ => rfl⟩
    rintro ⟨w, hw, htarget⟩
    simpa [htarget] using hnone w hw
  | cons w back =>
    have hw : w ∈ Segment.words (Text.trim raw) := by
      apply (List.dropWhile_suffix (!isTarget ·)).mem
      rw [hrest]
      exact List.mem_cons_self
    have htarget : isTarget w := by
      have hhead := List.head?_dropWhile_not (!isTarget ·) (Segment.words (Text.trim raw))
      rw [hrest] at hhead
      simpa using hhead
    exact ⟨iff_of_true rfl ⟨w, hw, htarget⟩, fun h => absurd rfl h⟩

variable {raw : Text} {isTarget : Text → Bool} (formatted : Text) (operator : Operator)

/-- A toggle without a target adds its term. -/
theorem toggle_of_forall (h : ∀ w ∈ Segment.words (Text.trim raw), isTarget w = false) :
    (toggle raw formatted isTarget operator).action = .added := by
  obtain ⟨hremoved, hadded⟩ := toggle_removed_iff raw formatted isTarget operator
  refine hadded fun haction => ?_
  obtain ⟨w, hw, htarget⟩ := hremoved.mp haction
  rw [h w hw] at htarget
  cases htarget

/-- A toggle removes the first target. -/
theorem toggle_of_append {front back : List Text} {w : Text}
    (hwords : Segment.words (Text.trim raw) = front ++ w :: back)
    (hfront : ∀ v ∈ front, isTarget v = false) (hw : isTarget w) :
    (toggle raw formatted isTarget operator).action = .removed ∧
      (toggle raw formatted isTarget operator).query =
        Text.join [' '] (rejoin (isExpression (Text.trim raw)) front back) := by
  have hspan : (Segment.words (Text.trim raw)).span (!isTarget ·) = (front, w :: back) := by
    have hpass : ∀ v ∈ front, (!isTarget v) = true := fun v hv => by rw [hfront v hv]; rfl
    rw [hwords, List.span_eq_takeWhile_dropWhile, List.takeWhile_append_of_pos hpass,
      List.dropWhile_append_of_pos hpass, List.takeWhile_cons, List.dropWhile_cons]
    simp [hw]
  simp only [toggle, hspan, and_self]

theorem dropLastConnector_operator (front : List Text) :
    dropLastConnector (front ++ [operator.word]) = front := by
  rw [dropLastConnector, List.getLast?_concat]
  simp only [if_pos (isConnector_operator operator), List.dropLast_concat]

end Edit

open Edit Token

/-- A property that is toggled, with the connective to put in front of it. -/
structure Toggle where
  key : Text
  value : Option Text
  operator : Operator
  hasKey : ∃ c ∈ key, Text.isBlank c = false

namespace Toggle

def atom (t : Toggle) : Atom := .property (Text.trim t.key) (t.value.bind Text.nonEmpty?)

def term (t : Toggle) : Term := ⟨t.atom.criterion, false⟩

/-- What properties are told apart by. -/
def pair (t : Toggle) : Text × Option Text :=
  (Text.foldCase (Text.trim t.key), t.value.bind Text.nonEmpty?)

def update (raw : Text) (t : Toggle) : QueryUpdate :=
  toggleProperty raw t.key t.value t.operator

def flip (kept : List Toggle) (t : Toggle) : List Toggle :=
  if kept.any (·.pair == t.pair) then kept.eraseP (·.pair == t.pair) else kept ++ [t]

/-- The words of properties, each behind its connective. -/
def links (ts : List Toggle) : List Text :=
  ts.flatMap fun t => [t.operator.word, t.atom.written]

/-- Properties written out with connectives between them. -/
def written (ts : List Toggle) : Text := Text.join [' '] (links ts).tail

/-- A toggle adds a property that is not there and removes one that is. -/
theorem flip_cases (kept : List Toggle) (t : Toggle) :
    ((∀ u ∈ kept, u.pair ≠ t.pair) ∧ flip kept t = kept ++ [t]) ∨
      ∃ front u back, kept = front ++ u :: back ∧ u.pair = t.pair ∧
        (∀ v ∈ front, v.pair ≠ t.pair) ∧ flip kept t = front ++ back := by
  cases hany : kept.any (·.pair == t.pair) with
  | false =>
    refine Or.inl ⟨fun u hu => ?_, ?_⟩
    · have hpair := List.any_eq_false.mp hany u hu
      rwa [beq_iff_eq] at hpair
    · rw [flip, hany, if_neg Bool.false_ne_true]
  | true =>
    obtain ⟨a, ha, hpair⟩ := List.any_eq_true.mp hany
    obtain ⟨u, front, back, hfront, hu, hkept, herase⟩ :=
      List.exists_of_eraseP (p := (·.pair == t.pair)) ha hpair
    refine Or.inr ⟨front, u, back, hkept, beq_iff_eq.mp hu, fun v hv => ?_, ?_⟩
    · exact fun h => hfront v hv (beq_iff_eq.mpr h)
    · rw [flip, hany, if_pos rfl, herase]

/-! ## The text of some properties -/

theorem trim_key_ne_nil (t : Toggle) : Text.trim t.key ≠ [] := Text.trim_ne_nil t.hasKey

theorem isProper_atom (t : Toggle) : t.atom.IsProper := by
  refine ⟨t.trim_key_ne_nil, Text.isBare_stripWhere _ _, ?_⟩
  match t.value with
  | none => exact nofun
  | some [] => exact nofun
  | some (c :: rest) => exact nofun

theorem written_atom (t : Toggle) :
    t.atom.written = formatProperty (Text.trim t.key) (t.value.bind Text.nonEmpty?) := rfl

theorem links_append (us vs : List Toggle) : links (us ++ vs) = links us ++ links vs :=
  List.flatMap_append

theorem links_singleton (t : Toggle) : links [t] = [t.operator.word, t.atom.written] :=
  List.flatMap_singleton _ _

theorem links_cons (t : Toggle) (ts : List Toggle) :
    links (t :: ts) = t.operator.word :: t.atom.written :: links ts := List.flatMap_cons

theorem not_isConnector_written (t : Toggle) : isConnector t.atom.written = false := by
  obtain ⟨c, rest, hatom, -, hkind⟩ := Atom.exists_written t.isProper_atom
  cases hw : isConnector t.atom.written with
  | false => rfl
  | true =>
    rw [hatom, ← classify_eq_connector_iff, hkind] at hw
    cases hw

theorem isWord_of_mem_links {ts : List Toggle} {w : Text} (h : w ∈ links ts) : Text.IsWord w := by
  obtain ⟨t, -, hw⟩ := List.mem_flatMap.mp h
  rcases List.mem_cons.mp hw with rfl | hw
  · exact isWord_operator t.operator
  · rw [List.mem_singleton.mp hw]
    exact isWord_formatProperty _ _

theorem words_written (ts : List Toggle) : Segment.words (written ts) = (links ts).tail :=
  Text.words_join fun _ hw => isWord_of_mem_links (List.mem_of_mem_tail hw)

theorem not_isBlank_of_mem_getLast?_written (t : Toggle) {c : Char}
    (h : c ∈ t.atom.written.getLast?) : Text.isBlank c = false := by
  have hkey := Quote.quote_ne_nil t.trim_key_ne_nil
  rw [written_atom] at h
  cases hv : t.value.bind Text.nonEmpty? with
  | none =>
    obtain ⟨d, rest, hquote⟩ := List.exists_cons_of_ne_nil hkey
    rw [hv, formatProperty_none, hquote, List.getLast?_cons_cons, ← hquote] at h
    exact Quote.not_isBlank_of_mem_getLast?_quote h
  | some v =>
    have hvalue : v ≠ [] := fun hnil => t.isProper_atom.2.2 (by rw [hv, hnil])
    obtain ⟨d, rest, hquote⟩ := List.exists_cons_of_ne_nil (Quote.quote_ne_nil hvalue)
    rw [hv, formatProperty_some _ hvalue, List.getLast?_append_cons, hquote,
      List.getLast?_cons_cons, ← hquote] at h
    exact Quote.not_isBlank_of_mem_getLast?_quote h

theorem written_ne_nil (t : Toggle) : t.atom.written ≠ [] := formatProperty_ne_nil _ _

theorem head?_written (t : Toggle) : t.atom.written.head? = some '.' := by
  rw [written_atom, formatProperty]
  split <;> rfl

/-- The words in front of a property are those of the properties in front of it and its
connective, up to the connective of the first property. -/
theorem tail_links_append (front : List Toggle) (t : Toggle) (back : List Toggle) :
    (links (front ++ t :: back)).tail =
      (links front ++ [t.operator.word]).tail ++ t.atom.written :: links back := by
  rw [← List.tail_append_of_ne_nil (by simp), links_append, links_cons]
  simp

/-- No blank stands at an end of the text of properties. -/
theorem trim_written (ts : List Toggle) : Text.trim (written ts) = written ts := by
  refine Text.stripWhere_eq_self ⟨fun c hc => ?_, fun c hc => ?_⟩
  · cases ts with
    | nil => cases hc
    | cons t ts =>
      rw [written, links_cons, List.tail_cons, Text.head?_join_cons t.written_ne_nil,
        head?_written] at hc
      cases hc
      rfl
  · rcases List.eq_nil_or_concat ts with rfl | ⟨front, t, rfl⟩
    · cases hc
    · have hnil : links [] = [] := rfl
      rw [List.concat_eq_append, written, tail_links_append, hnil,
        Text.getLast?_join_concat t.written_ne_nil] at hc
      exact t.not_isBlank_of_mem_getLast?_written hc

/-! ## Its tokens -/

def tokens (ts : List Toggle) : List Token :=
  ts.flatMap fun t => [⟨.connector, t.operator.word, 0, 0⟩, ⟨.property, t.atom.written, 0, 0⟩]

theorem ofWord_operator (operator : Operator) :
    ofWord operator.word = [⟨.connector, operator.word, 0, 0⟩] := by
  cases operator <;> rfl

theorem ofWord_written (t : Toggle) :
    ofWord t.atom.written = [⟨.property, t.atom.written, 0, 0⟩] :=
  Literal.ofWord_written (l := ⟨t.atom, false⟩) t.isProper_atom

theorem flatMap_links (ts : List Toggle) : (links ts).flatMap ofWord = tokens ts := by
  induction ts with
  | nil => rfl
  | cons t ts ih =>
    rw [links_cons, List.flatMap_cons, List.flatMap_cons, ofWord_operator, ofWord_written, ih]
    rfl

theorem bare_tokens_written (ts : List Toggle) :
    (tokenize (written ts)).map bare = (tokens ts).tail := by
  rw [map_bare_tokenize, words_written]
  cases ts with
  | nil => rfl
  | cons t ts =>
    rw [links_cons, List.tail_cons, List.flatMap_cons, ofWord_written, flatMap_links]
    rfl

/-- Properties and connectives take turns. -/
theorem kinds_written (ts : List Toggle) :
    (tokenize (written ts)).map (·.kind) =
      List.intersperse .connector (ts.map fun _ => .property) := by
  have hlinks : ∀ rest : List Toggle, TokenKind.property :: (tokens rest).map (·.kind) =
      List.intersperse .connector (.property :: rest.map fun _ => .property) := by
    intro rest
    induction rest with
    | nil => rfl
    | cons u rest ih =>
      rw [List.map_cons, List.intersperse_cons_cons, ← ih]
      rfl
  have hbare : (tokenize (written ts)).map (·.kind) = (tokens ts).tail.map (·.kind) := by
    rw [← bare_tokens_written, List.map_map]
    rfl
  rw [hbare]
  cases ts with
  | nil => rfl
  | cons t ts => exact hlinks ts

theorem isExpression_written (ts : List Toggle) : isExpression (written ts) := by
  have hbare : isExpression (written ts) =
      (tokens ts).tail.all fun t => isExpressionKind t.kind := by
    rw [← bare_tokens_written, List.all_map]
    rfl
  rw [hbare, List.all_eq_true]
  intro x hx
  obtain ⟨t, -, ht⟩ := List.mem_flatMap.mp (List.mem_of_mem_tail hx)
  rcases List.mem_cons.mp ht with rfl | ht
  · rfl
  · rw [List.mem_singleton.mp ht]
    rfl

/-! ## Its query -/

theorem isPureFrom_tokens (ts : List Toggle) : QueryMode.isPureFrom false (tokens ts) := by
  induction ts with
  | nil => rfl
  | cons t ts ih => exact ih

theorem isPureFrom_written {ts : List Toggle} (h : ts ≠ []) :
    QueryMode.isPureFrom true (tokenize (written ts)) := by
  rw [← QueryMode.isPureFrom_map_bare, bare_tokens_written]
  obtain ⟨t, rest, rfl⟩ := List.exists_cons_of_ne_nil h
  exact isPureFrom_tokens rest

theorem terms_property (ctx : Context) (t : Toggle) (rest : List Token) :
    (Reading.ofMode .pure).terms ctx false (⟨.property, t.atom.written, 0, 0⟩ :: rest) =
      t.term :: (Reading.ofMode .pure).terms ctx false rest := by
  have hread := Atom.ofToken?_written ctx t.isProper_atom 0 0
  have hterm : (Reading.ofMode .pure).isTerm ⟨.property, t.atom.written, 0, 0⟩ = true := rfl
  rw [Reading.terms_of_isTerm _ ctx false hterm]
  have hkind : t.atom.kind = .property := rfl
  rw [hkind] at hread
  rw [hread]
  rfl

theorem terms_tokens (ctx : Context) (ts : List Toggle) :
    (Reading.ofMode .pure).terms ctx false (tokens ts) = ts.map term := by
  induction ts with
  | nil => rfl
  | cons t ts ih =>
    have hterm : (Reading.ofMode .pure).isTerm ⟨.connector, t.operator.word, 0, 0⟩ = false := rfl
    have hskip := Reading.terms_of_not_isTerm _ ctx false hterm nofun
      (⟨.property, t.atom.written, 0, 0⟩ :: tokens ts)
    rw [terms_property, ih] at hskip
    exact hskip

/-- The text of properties is read as these properties, at every time. -/
theorem parseAt_toggles (conventions : Conventions) (now : Moment) (ts : List Toggle) :
    ∃ q, Query.parseAt conventions now (written ts) = .ok q ∧ (ts ≠ [] → q.mode = .pure) ∧
      q.root.leaves = ts.map term := by
  by_cases hnil : ts = []
  · subst hnil
    exact ⟨_, Query.parseAt_of_not_asksTime conventions now rfl, fun h => absurd rfl h, rfl⟩
  · have hpure := isPureFrom_written hnil
    have hmode : QueryMode.ofTokens (tokenize (written ts)) = .pure := by
      rw [QueryMode.ofTokens, if_pos hpure]
    have hask : (tokenize (written ts)).any Token.asksTime = false := by
      refine List.any_eq_false.mpr fun x hx => ?_
      rw [Node.asksTime_of_pure hpure x hx]
      exact Bool.false_ne_true
    refine ⟨_, Query.parseAt_of_not_asksTime conventions now hask, fun _ => hmode, ?_⟩
    have hleaves : (Node.ofTokens ⟨.first, conventions⟩ (tokenize (written ts))).leaves =
        ts.map term := by
      have hbare : QueryMode.ofTokens (tokens ts).tail = .pure := by
        rw [← bare_tokens_written, QueryMode.ofTokens_map_bare, hmode]
      rw [← Node.ofTokens_map_bare, bare_tokens_written, Node.leaves_ofTokens, hbare]
      obtain ⟨t, rest, rfl⟩ := List.exists_cons_of_ne_nil hnil
      exact (terms_property _ t (tokens rest)).trans (congrArg _ (terms_tokens _ rest))
    exact hleaves

/-! ## One toggle -/

theorem mergeConnectors_links (ts : List Toggle) : mergeConnectors false (links ts) = links ts := by
  induction ts with
  | nil => rfl
  | cons t ts ih =>
    rw [links_cons, mergeConnectors, isConnector_operator, Bool.false_and,
      if_neg Bool.false_ne_true, mergeConnectors, not_isConnector_written, Bool.and_false,
      if_neg Bool.false_ne_true, ih]

theorem mergeConnectors_tail_links (ts : List Toggle) :
    mergeConnectors false (links ts).tail = (links ts).tail := by
  cases ts with
  | nil => rfl
  | cons t ts =>
    rw [links_cons, List.tail_cons, mergeConnectors, Bool.false_and, if_neg Bool.false_ne_true,
      not_isConnector_written, mergeConnectors_links]

theorem dropLastConnector_tail_links (ts : List Toggle) :
    dropLastConnector (links ts).tail = (links ts).tail := by
  rcases List.eq_nil_or_concat ts with rfl | ⟨front, t, rfl⟩
  · rfl
  · rw [List.concat_eq_append, tail_links_append]
    exact dropLastConnector_concat _ t.not_isConnector_written

/-- Words that begin and end with a property and have single connectives stay as they are. -/
theorem pruneConnectors_tail_links (ts : List Toggle) :
    pruneConnectors (links ts).tail = (links ts).tail := by
  have hfront : (links ts).tail.dropWhile isConnector = (links ts).tail := by
    cases ts with
    | nil => rfl
    | cons t ts =>
      rw [links_cons, List.tail_cons, List.dropWhile_cons, not_isConnector_written,
        if_neg Bool.false_ne_true]
  rw [pruneConnectors, hfront, mergeConnectors_tail_links, dropLastConnector_tail_links]

/-- The connective that the first property of the text would have is taken off. -/
theorem pruneConnectors_links (ts : List Toggle) :
    pruneConnectors (links ts) = (links ts).tail := by
  have hfront : (links ts).dropWhile isConnector = (links ts).tail := by
    cases ts with
    | nil => rfl
    | cons t ts =>
      rw [links_cons, List.tail_cons, List.dropWhile_cons, isConnector_operator, if_pos rfl,
        List.dropWhile_cons, not_isConnector_written, if_neg Bool.false_ne_true]
  rw [pruneConnectors, hfront, mergeConnectors_tail_links, dropLastConnector_tail_links]

/-- Taking a property out takes one connective with it. -/
theorem rejoin_links (front : List Toggle) (operator : Operator) (back : List Toggle) :
    rejoin true (links front ++ [operator.word]).tail (links back) =
      (links (front ++ back)).tail := by
  rw [rejoin, if_pos rfl]
  by_cases hnil : front = []
  · subst hnil
    exact pruneConnectors_links back
  · have hlinks : links front ≠ [] := by
      obtain ⟨t, rest, rfl⟩ := List.exists_cons_of_ne_nil hnil
      exact List.cons_ne_nil _ _
    rw [List.tail_append_of_ne_nil hlinks, dropLastConnector_operator,
      ← List.tail_append_of_ne_nil hlinks, ← links_append, pruneConnectors_tail_links]

theorem append_links (t : Toggle) (ts : List Toggle) :
    append true t.operator t.atom.written (links ts).tail = (links (ts ++ [t])).tail := by
  cases ts with
  | nil => rfl
  | cons u ts =>
    have hne : (links (u :: ts)).tail.isEmpty = false := rfl
    have hlinks : links (u :: ts) ≠ [] := List.cons_ne_nil _ _
    rw [append, hne, if_neg Bool.false_ne_true, if_pos rfl, dropLastConnector_tail_links,
      links_append, List.tail_append_of_ne_nil hlinks, links_singleton]

theorem update_eq (raw : Text) (t : Toggle) :
    t.update raw = toggle raw t.atom.written
      (isProperty (Text.trim t.key) (t.value.bind Text.nonEmpty?)) t.operator := by
  have hkey : (Text.trim t.key).isEmpty = false := List.isEmpty_eq_false_iff.mpr t.trim_key_ne_nil
  simp only [update, toggleProperty, hkey, Bool.false_eq_true, if_false]
  rfl

/-- A toggle looks for the properties of its pair. -/
theorem isProperty_written (t u : Toggle) :
    isProperty (Text.trim t.key) (t.value.bind Text.nonEmpty?) u.atom.written =
      (u.pair == t.pair) := by
  obtain ⟨c, rest, hatom, -, hkind⟩ := Atom.exists_written u.isProper_atom
  have hclass : classify u.atom.written = .property := by
    rw [hatom, hkind]
    rfl
  have hparts : Criterion.keyAndValue (u.atom.written.drop 1) =
      (Text.trim u.key, u.value.bind Text.nonEmpty?) := by
    rw [written_atom, keyAndValue_formatProperty, Text.trim_trim, Text.bind_nonEmpty?_bind]
  simp only [isProperty, hparts, hclass, beq_self_eq_true, Bool.true_and]
  rfl

theorem isProperty_operator (key : Text) (value : Option Text) (operator : Operator) :
    isProperty key value operator.word = false := by
  have hclass : classify operator.word = .connector :=
    (classify_eq_connector_iff _).mpr (isConnector_operator operator)
  rw [isProperty, hclass]
  rfl

/-- No word in front of a property is a target if no property there is one. -/
theorem not_isProperty_of_mem_links {t : Toggle} {ts : List Toggle}
    (h : ∀ u ∈ ts, u.pair ≠ t.pair) {w : Text} (hw : w ∈ links ts) :
    isProperty (Text.trim t.key) (t.value.bind Text.nonEmpty?) w = false := by
  obtain ⟨u, hu, hw⟩ := List.mem_flatMap.mp hw
  rcases List.mem_cons.mp hw with rfl | hw
  · exact isProperty_operator _ _ _
  · rw [List.mem_singleton.mp hw, isProperty_written]
    exact beq_eq_false_iff_ne.mpr (h u hu)

/-- A toggle turns the text of some properties into that of the properties with it, or
without. -/
theorem update_written (ts : List Toggle) (t : Toggle) :
    (t.update (written ts)).query = written (flip ts t) ∧
      ((t.update (written ts)).action = .added ↔ ∀ u ∈ ts, u.pair ≠ t.pair) := by
  have hwords : Segment.words (Text.trim (written ts)) = (links ts).tail := by
    rw [trim_written, words_written]
  have hexpression : isExpression (Text.trim (written ts)) = true := by
    rw [trim_written, isExpression_written]
  rw [update_eq]
  rcases flip_cases ts t with ⟨hnone, hflip⟩ | ⟨front, u, back, rfl, hu, hfront, hflip⟩
  · have hadded : (toggle (written ts) t.atom.written
        (isProperty (Text.trim t.key) (t.value.bind Text.nonEmpty?)) t.operator).action =
          .added := by
      refine toggle_of_forall _ _ fun w hw => ?_
      rw [hwords] at hw
      exact not_isProperty_of_mem_links hnone (List.mem_of_mem_tail hw)
    refine ⟨?_, iff_of_true hadded hnone⟩
    rw [toggle_of_added hadded, hexpression, hwords, append_links, hflip, written]
  · rw [tail_links_append] at hwords
    have hpass : ∀ w ∈ (links front ++ [u.operator.word]).tail,
        isProperty (Text.trim t.key) (t.value.bind Text.nonEmpty?) w = false := by
      intro w hw
      rcases List.mem_append.mp (List.mem_of_mem_tail hw) with hw | hw
      · exact not_isProperty_of_mem_links hfront hw
      · rw [List.mem_singleton.mp hw]
        exact isProperty_operator _ _ _
    have htarget : isProperty (Text.trim t.key) (t.value.bind Text.nonEmpty?) u.atom.written := by
      rw [isProperty_written, hu, beq_self_eq_true]
    obtain ⟨haction, hquery⟩ := toggle_of_append t.atom.written t.operator hwords hpass
      htarget
    constructor
    · rw [hquery, hexpression, rejoin_links, hflip, written]
    · refine iff_of_false (by rw [haction]; exact nofun) fun h => ?_
      exact h u (by simp) hu

end Toggle

end NoteQuery
