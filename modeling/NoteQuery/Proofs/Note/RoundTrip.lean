import NoteQuery.Note.Entry
import NoteQuery.Proofs.Calendar.IsoReading

/-!
# Notes that are read back

Reading a dictionary brings the parts of a note into a form that it leaves alone: tags
without signs, properties that are texts or lists of texts under different keys, and local
times. A note in that form is written as a dictionary from which the same note is read.
-/
namespace NoteQuery

theorem Text.replace_eq_self {c : Char} {s : Text} (h : c ∉ s) (replacement : Text) :
    replace c replacement s = s := by
  induction s with
  | nil => rfl
  | cons d s ih =>
    rw [List.mem_cons, not_or] at h
    have hd : (d == c) = false := beq_eq_false_iff_ne.mpr (Ne.symm h.1)
    have hrest := ih h.2
    rw [replace] at hrest ⊢
    rw [List.flatMap_cons, hd, hrest]
    rfl

theorem exists_of_bind_eq_ok {ε α β : Type} {x : Except ε α} {f : α → Except ε β} {b : β}
    (h : x >>= f = .ok b) : ∃ a, x = .ok a ∧ f a = .ok b := by
  cases x with
  | error e => cases h
  | ok a => exact ⟨a, rfl, h⟩

namespace Timestamp

/-- The text of an instant holds no zone. -/
theorem not_mem_toTextWith (t : Instant) : 'Z' ∉ t.toTextWith 'T' := by
  intro h
  rcases Instant.mem_toTextWith h with h | h | h | h | h <;> cases h

theorem ofText_toTextWith (zone : Zone) (t : Instant) :
    ofText zone (t.toTextWith 'T') = .ok t := by
  rw [ofText, Text.replace_eq_self (not_mem_toTextWith t), IsoText.stamp?_toTextWith]
  rfl

end Timestamp

def Value.IsTexts : Value → Prop
  | .text _ => True
  | .list items => ∀ v ∈ items, ∃ s, v = .text s
  | _ => False

theorem Value.isWritable_of_isTexts {v : Value} (h : v.IsTexts) : v.isWritable = true := by
  cases v with
  | text s => rfl
  | list items =>
    refine areWritable_iff.mpr fun w hw => ?_
    obtain ⟨s, rfl⟩ := h w hw
    rfl
  | _ => cases h

namespace Note

theorem written_of_isWritable {v : Value} (h : v.isWritable = true) : written v = .ok v :=
  if_pos h

theorem timeOf_timeValue (zone : Zone) {time : Option Moment} (h : ∀ m ∈ time, m.offset = none) :
    timeOf zone (timeValue time) = .ok time := by
  cases time with
  | none => rfl
  | some m =>
    obtain ⟨wall, offset⟩ := m
    obtain rfl : offset = none := h _ rfl
    have htext : (Moment.mk wall none).toTextWith 'T' = wall.toTextWith 'T' := List.append_nil _
    have hne : wall.toTextWith 'T' ≠ [] := by simp [Instant.toTextWith]
    obtain ⟨c, rest, hcons⟩ := List.exists_cons_of_ne_nil hne
    have hread := Timestamp.ofText_toTextWith zone wall
    rw [hcons] at hread
    simp only [timeValue, htext, hcons, timeOf, Timestamp.ofValue, hread]
    rfl

theorem isTexts_propertyValue (v : Value) : (propertyValue v).IsTexts := by
  cases v with
  | list items =>
    intro w hw
    obtain ⟨u, -, rfl⟩ := List.mem_map.mp hw
    exact ⟨_, rfl⟩
  | _ => trivial

theorem propertyValue_of_isTexts {v : Value} (h : v.IsTexts) : propertyValue v = v := by
  cases v with
  | text s => rfl
  | list items =>
    have hsame : ∀ w ∈ items, Value.text (scalarText w) = w := by
      intro w hw
      obtain ⟨s, rfl⟩ := h w hw
      rfl
    rw [propertyValue, List.map_congr_left hsame, List.map_id']
  | _ => cases h

/-! ## Properties -/

theorem keys_setProperty (key : Text) (v : Value) (ps : List (Text × Value)) :
    (setProperty key v ps).map Prod.fst =
      if key ∈ ps.map Prod.fst then ps.map Prod.fst else ps.map Prod.fst ++ [key] := by
  induction ps with
  | nil => rfl
  | cons p ps ih =>
    obtain ⟨k, w⟩ := p
    rw [setProperty]
    by_cases hk : k = key
    · subst hk
      simp
    · rw [if_neg (mt beq_iff_eq.mp hk), List.map_cons, ih]
      by_cases hmem : key ∈ ps.map Prod.fst
      · rw [if_pos hmem, if_pos (by simp [hmem])]
        rfl
      · rw [if_neg hmem, if_neg (by simpa [Ne.symm hk] using hmem)]
        rfl

theorem mem_setProperty {key : Text} {v : Value} {ps : List (Text × Value)} {p : Text × Value}
    (h : p ∈ setProperty key v ps) : p = (key, v) ∨ p ∈ ps := by
  induction ps with
  | nil => exact Or.inl (List.mem_singleton.mp h)
  | cons q ps ih =>
    rw [setProperty] at h
    split at h
    · rcases List.mem_cons.mp h with h | h
      · exact Or.inl h
      · exact Or.inr (List.mem_cons_of_mem q h)
    · rcases List.mem_cons.mp h with rfl | h
      · exact Or.inr List.mem_cons_self
      · exact (ih h).imp id (List.mem_cons_of_mem q)

theorem setProperty_of_not_mem {key : Text} {ps : List (Text × Value)}
    (h : key ∉ ps.map Prod.fst) (v : Value) : setProperty key v ps = ps ++ [(key, v)] := by
  induction ps with
  | nil => rfl
  | cons p ps ih =>
    obtain ⟨k, w⟩ := p
    rw [List.map_cons, List.mem_cons, not_or] at h
    rw [setProperty, if_neg (mt beq_iff_eq.mp (Ne.symm h.1)), ih h.2]
    rfl

/-- The properties of the entries of a dictionary, put behind others. -/
def gather (ps : List (Text × Value)) (entries : List (Value × Value)) : List (Text × Value) :=
  entries.foldl (fun ps p => setProperty p.1.toText (propertyValue p.2) ps) ps

/-- Reading properties keeps them under different keys, as texts and lists of texts. -/
theorem gather_spec {ps : List (Text × Value)} (hkeys : (ps.map Prod.fst).Nodup)
    (hvalues : ∀ p ∈ ps, p.2.IsTexts) (entries : List (Value × Value)) :
    ((gather ps entries).map Prod.fst).Nodup ∧ ∀ p ∈ gather ps entries, p.2.IsTexts := by
  induction entries generalizing ps with
  | nil => exact ⟨hkeys, hvalues⟩
  | cons e entries ih =>
    refine ih ?_ fun p hp => ?_
    · rw [keys_setProperty]
      split
      · exact hkeys
      · rename_i hnew
        exact (List.perm_append_singleton _ _).nodup_iff.mpr (List.nodup_cons.mpr ⟨hnew, hkeys⟩)
    · rcases mem_setProperty hp with rfl | hp
      · exact isTexts_propertyValue e.2
      · exact hvalues p hp

/-- Properties under different keys are gathered as they are. -/
theorem gather_entries {ps qs : List (Text × Value)} (hkeys : ((ps ++ qs).map Prod.fst).Nodup)
    (hvalues : ∀ q ∈ qs, q.2.IsTexts) :
    gather ps (qs.map fun q => (.text q.1, q.2)) = ps ++ qs := by
  induction qs generalizing ps with
  | nil => exact (List.append_nil ps).symm
  | cons q qs ih =>
    rw [List.forall_mem_cons] at hvalues
    have hnew : q.1 ∉ ps.map Prod.fst := by
      rw [List.map_append, List.nodup_append] at hkeys
      exact fun hmem => hkeys.2.2 _ hmem _ List.mem_cons_self rfl
    have hassoc : ps ++ q :: qs = (ps ++ [q]) ++ qs := by simp
    rw [hassoc] at hkeys ⊢
    rw [← ih hkeys hvalues.2, gather, List.map_cons, List.foldl_cons,
      propertyValue_of_isTexts hvalues.1]
    have hset : setProperty (Value.text q.1).toText q.2 ps = ps ++ [q] :=
      setProperty_of_not_mem hnew q.2
    rw [hset, gather]

/-! ## The form of a note that was read -/

/-- Tags have no sign in front, properties are texts or lists of texts under different
keys, and timestamps are local. -/
structure IsRead (n : Note) : Prop where
  tags : ∀ tag ∈ n.tags, tag.head? ≠ some '#'
  keys : (n.properties.map Prod.fst).Nodup
  values : ∀ p ∈ n.properties, p.2.IsTexts
  created : ∀ m ∈ n.created, m.offset = none
  modified : ∀ m ∈ n.modified, m.offset = none

theorem head?_ne_of_mem_tagsOf {v : Value} {tag : Text} (h : tag ∈ tagsOf v) :
    tag.head? ≠ some '#' := by
  have hstrip : ∀ w : Value, (w.toText.dropWhile (· == '#')).head? ≠ some '#' := by
    intro w hhead
    have hsign := Text.not_of_mem_head?_dropWhile (p := (· == '#')) hhead
    cases hsign
  simp only [tagsOf] at h
  split at h
  · obtain ⟨w, -, rfl⟩ := List.mem_map.mp h
    exact hstrip w
  · split at h
    · rw [List.mem_singleton.mp h]
      exact hstrip _
    · cases h

theorem tagsOf_texts {tags : List Text} (h : ∀ tag ∈ tags, tag.head? ≠ some '#') :
    tagsOf (.list (tags.map .text)) = tags := by
  have hsame : ∀ tag ∈ tags, tag.dropWhile (· == '#') = tag := by
    intro tag htag
    refine Text.dropWhile_eq_self fun c hc => beq_eq_false_iff_ne.mpr ?_
    rintro rfl
    exact h tag htag hc
  rw [tagsOf, List.map_map]
  exact (List.map_congr_left hsame).trans (List.map_id' tags)

theorem offset_of_timeOf {zone : Zone} {v : Value} {time : Option Moment}
    (h : timeOf zone v = .ok time) : ∀ m ∈ time, m.offset = none := by
  rw [timeOf] at h
  cases ht : Timestamp.ofValue zone v with
  | error e =>
    rw [ht] at h
    cases h
  | ok t =>
    rw [ht] at h
    cases h
    intro m hm
    obtain ⟨wall, -, rfl⟩ := Option.map_eq_some_iff.mp hm
    rfl

theorem isTexts_of_propertiesOf {v : Value} {ps : List (Text × Value)}
    (h : propertiesOf v = .ok ps) : (ps.map Prod.fst).Nodup ∧ ∀ p ∈ ps, p.2.IsTexts := by
  simp only [propertiesOf] at h
  split at h
  · rename_i entries
    obtain ⟨-, -, h⟩ := exists_of_bind_eq_ok h
    cases h
    have hnil : (([] : List (Text × Value)).map Prod.fst).Nodup := List.nodup_nil
    exact gather_spec hnil nofun entries
  · split at h
    · cases h
    · cases h
      exact ⟨List.nodup_nil, nofun⟩

/-- What a dictionary is read as. -/
theorem isRead_of_ofEntries {zone : Zone} {entries : List (Value × Value)} {n : Note}
    (h : ofEntries zone entries = .ok n) : n.IsRead := by
  rw [ofEntries] at h
  split at h
  · cases h
  · obtain ⟨filename, -, h⟩ := exists_of_bind_eq_ok h
    obtain ⟨extension, -, h⟩ := exists_of_bind_eq_ok h
    obtain ⟨folder, -, h⟩ := exists_of_bind_eq_ok h
    obtain ⟨tags, -, h⟩ := exists_of_bind_eq_ok h
    obtain ⟨properties, hproperties, h⟩ := exists_of_bind_eq_ok h
    obtain ⟨created, hcreated, h⟩ := exists_of_bind_eq_ok h
    obtain ⟨modified, hmodified, h⟩ := exists_of_bind_eq_ok h
    obtain ⟨path, -, h⟩ := exists_of_bind_eq_ok h
    cases h
    obtain ⟨hkeys, hvalues⟩ := isTexts_of_propertiesOf hproperties
    exact ⟨fun tag => head?_ne_of_mem_tagsOf, hkeys, hvalues, offset_of_timeOf hcreated,
      offset_of_timeOf hmodified⟩

/-! ## Reading a note back -/

def entries (n : Note) : List (Value × Value) :=
  match n.toValue with
  | .dict entries => entries
  | _ => []

theorem ofEntries_entries (zone : Zone) {n : Note} (h : n.IsRead) :
    ofEntries zone n.entries = .ok n := by
  have hpath : Value.lookup? "path".toList n.entries = some (.text n.path) := rfl
  have hproperties : propertiesOf ((Value.lookupFirst? propertiesKeys n.entries).getD .null) =
      .ok n.properties := by
    have hwritable : (Value.dict (n.properties.map fun q => (.text q.1, q.2))).isWritable = true :=
      Value.areEntriesWritable_iff.mpr (List.forall_mem_map.mpr fun q hq =>
        ⟨rfl, Value.isWritable_of_isTexts (h.values q hq)⟩)
    show (written _ >>= fun _ => Except.ok (gather [] _)) = _
    rw [written_of_isWritable hwritable]
    show Except.ok (gather [] _) = _
    rw [gather_entries (by simpa using h.keys) h.values, List.nil_append]
  have htagsWritten : written (.list (n.tags.map .text)) = .ok (.list (n.tags.map .text)) :=
    written_of_isWritable
      (Value.isWritable_of_isTexts (List.forall_mem_map.mpr fun tag _ => ⟨tag, rfl⟩))
  have hcreated : timeOf zone ((Value.lookupFirst? createdKeys n.entries).getD .null) =
      .ok n.created := timeOf_timeValue zone h.created
  have hmodified : timeOf zone ((Value.lookupFirst? modifiedKeys n.entries).getD .null) =
      .ok n.modified := timeOf_timeValue zone h.modified
  have htags : (Value.lookupFirst? tagsKeys n.entries).getD .null = .list (n.tags.map .text) := rfl
  rw [ofEntries, hpath]
  simp only [hproperties, hcreated, hmodified, htags, htagsWritten]
  show Except.ok { n with tags := tagsOf (.list (n.tags.map .text)) } = .ok n
  rw [tagsOf_texts h.tags]

/-- A note that is read from a dictionary is read again, the same in every part, from the
dictionary that it is written as, wherever local time stands then. Its properties are texts and
lists of texts, which stay what they are. -/
theorem ofEntries_toValue {zone : Zone} {entries : List (Value × Value)} {n : Note}
    (h : ofEntries zone entries = .ok n) :
    ∃ again, n.toValue = .dict again ∧ (∀ later, ofEntries later again = .ok n) ∧
      ∀ p ∈ n.properties, p.2.IsTexts :=
  ⟨n.entries, rfl, fun later => ofEntries_entries later (isRead_of_ofEntries h),
    (isRead_of_ofEntries h).values⟩

/-- An entry with other spellings of the keys, an empty name, a single tag, properties that
are no texts, a text with an offset and a day. -/
def looseEntries : List (Value × Value) :=
  [(.text "path".toList, .text "a/b.md".toList), (.text "name".toList, .text []),
    (.text "tags".toList, .text "##work".toList),
    (.text "frontmatter".toList, .dict [(.text "done".toList, .bool true),
      (.int 1, .list [.null, .int 2])]),
    (.text "created".toList, .text "0001-01-01T01:00:00.5+01:00".toList),
    (.text "mtime".toList, .date .first)]

/-- The note of that entry where local time is two hours ahead. -/
def looseNote : Note :=
  { path := "a/b.md".toList, filename := [], extension := "md".toList, folder := "a".toList
    tags := ["work".toList]
    properties := [("done".toList, .text "true".toList), (['1'], .list [.text [], .text ['2']])]
    created := some ⟨⟨7200500000, by decide⟩, none⟩, modified := some ⟨.first, none⟩ }

theorem ofEntries_toValue_loose :
    ofEntries (fun _ => 7200000000) looseEntries = .ok looseNote ∧
      ∃ again, looseNote.toValue = .dict again ∧ (∀ later, ofEntries later again = .ok looseNote) ∧
        ∀ p ∈ looseNote.properties, p.2.IsTexts := by
  have hread : ofEntries (fun _ => 7200000000) looseEntries = .ok looseNote := by rfl
  exact ⟨hread, ofEntries_toValue hread⟩

end Note

end NoteQuery
