import NoteQuery.CommandLine.Report
import NoteQuery.Proofs.Note.LoadErrors
import NoteQuery.Proofs.Value.JsonReading

/-!
# Notes in JSON

Notes that were read are written in JSON without numbers and with their times as texts. The
JSON text of such notes is loaded as the same notes, if the JSON text of each one is read back;
that is so for all notes whose texts hold no halves of surrogate pairs.
-/
namespace NoteQuery

theorem decodeText?_encodeText (s : Text) : decodeText? (encodeText s) = some s := by
  have hread (t : String) : String.fromUTF8? t.toUTF8 = some t := by
    simp only [String.fromUTF8?, String.toUTF8_eq_toByteArray, dif_pos t.isValidUTF8]
    rfl
  rw [decodeText?, encodeText, hread, Option.map_some, String.toList_ofList]

theorem Text.unixLines_eq_self {s : Text} (h : '\r' ∉ s) : unixLines s = s := by
  induction s with
  | nil => rfl
  | cons c s ih =>
    rw [List.mem_cons, not_or] at h
    rw [unixLines, ih h.2]
    · exact fun _ hc => absurd hc.symm h.1
    · exact fun hc => absurd hc.symm h.1

/-! ## Values of notes -/

theorem Value.isPlain_of_isTexts {v : Value} (h : v.IsTexts) : Json.isPlain v = true := by
  cases v with
  | text s => rfl
  | list items =>
    refine Json.arePlain_iff.mpr fun w hw => ?_
    obtain ⟨s, rfl⟩ := h w hw
    rfl
  | _ => cases h

/-- A note that was read holds no numbers and no times but as texts. -/
theorem Note.isPlain_toValue {n : Note} (h : n.IsRead) : Json.isPlain n.toValue = true := by
  have htags : Json.isPlain (.list (n.tags.map .text)) = true :=
    Json.arePlain_iff.mpr (List.forall_mem_map.mpr fun _ _ => rfl)
  have hproperties : Json.isPlain (.dict (n.properties.map fun p => (.text p.1, p.2))) = true :=
    Json.areEntriesPlain_iff.mpr
      (List.forall_mem_map.mpr fun p hp => Value.isPlain_of_isTexts (h.values p hp))
  have htime (time : Option Moment) : Json.isPlain (timeValue time) = true := by
    cases time <;> rfl
  refine Json.areEntriesPlain_iff.mpr ?_
  simp only [List.forall_mem_cons, htags, hproperties, htime]
  exact ⟨rfl, rfl, rfl, rfl, trivial, trivial, trivial, trivial, rfl,
    List.forall_mem_nil _⟩

theorem Note.joined_timeValue {time : Option Moment} (h : ∀ m ∈ time, m.offset = none) :
    Json.joined (timeValue time) = timeValue time := by
  cases time with
  | none => rfl
  | some m =>
    obtain ⟨wall, offset⟩ := m
    obtain rfl : offset = none := h _ rfl
    have htext : (Moment.mk wall none).toTextWith 'T' = wall.toTextWith 'T' := List.append_nil _
    have hwhole : ∀ c ∈ wall.toTextWith 'T', Text.isCarrier c = false := by
      intro c hc
      rcases Instant.mem_toTextWith hc with hdigit | rfl | rfl | rfl | rfl
      · exact Text.isCarrier_eq_false_of_isAsciiDigit hdigit
      · rfl
      · rfl
      · rfl
      · rfl
    rw [timeValue, htext, Json.joined, Text.joinPairs_eq_self hwhole]

def Value.texts : Value → List Text
  | .text s => [s]
  | .list items => items.map Value.toText
  | _ => []

def Note.texts (n : Note) : List Text :=
  [n.path, n.filename, n.extension, n.folder] ++ n.tags ++
    n.properties.flatMap fun p => p.1 :: p.2.texts

theorem Value.joined_of_isTexts {v : Value} (h : v.IsTexts)
    (hjoin : ∀ s ∈ v.texts, Text.joinPairs s = s) : Json.joined v = v := by
  cases v with
  | text s => rw [Json.joined, hjoin s (List.mem_singleton.mpr rfl)]
  | list items =>
    rw [Json.joined, Json.joinedItems_eq]
    intro w hw
    obtain ⟨s, rfl⟩ := h w hw
    rw [Json.joined, hjoin s (List.mem_map_of_mem hw)]
  | _ => cases h

theorem Note.joined_of_mem_entries {n : Note} (h : n.IsRead)
    (hjoin : ∀ s ∈ n.texts, Text.joinPairs s = s) : ∀ e ∈ n.entries, Json.joined e.2 = e.2 := by
  simp only [texts, List.forall_mem_append, List.forall_mem_cons, List.mem_flatMap] at hjoin
  obtain ⟨⟨⟨hpath, hfilename, hextension, hfolder, -⟩, htags⟩, hproperties⟩ := hjoin
  have htext {s : Text} (hs : Text.joinPairs s = s) : Json.joined (.text s) = .text s := by
    rw [Json.joined, hs]
  have htagsJoined : Json.joined (.list (n.tags.map .text)) = .list (n.tags.map .text) := by
    rw [Json.joined, Json.joinedItems_eq]
    exact List.forall_mem_map.mpr fun tag htag => htext (htags tag htag)
  have hpropertiesJoined :
      Json.joined (.dict (n.properties.map fun p => (.text p.1, p.2))) =
        .dict (n.properties.map fun p => (.text p.1, p.2)) := by
    refine Json.joined_dict h.keys fun p hp => ⟨?_, ?_⟩
    · exact hproperties p.1 ⟨p, hp, List.mem_cons_self⟩
    · exact Value.joined_of_isTexts (h.values p hp) fun s hs =>
        hproperties s ⟨p, hp, List.mem_cons_of_mem _ hs⟩
  simp only [entries, toValue, List.forall_mem_cons]
  exact ⟨htext hpath, htext hfilename, htext hextension, htext hfolder, htagsJoined,
    hpropertiesJoined, joined_timeValue h.created, joined_timeValue h.modified, rfl,
    List.forall_mem_nil _⟩

def Note.nameTexts : List Text := ({ path := [] } : Note).entries.map fun e => e.1.toText

/-- A note that was read is read back from its JSON text, if no halves of pairs stand in its
texts. -/
theorem Note.isReadBack_toValue {n : Note} (h : n.IsRead)
    (hwhole : ∀ s ∈ n.texts, ∀ c ∈ s, Text.isCarrier c = false) : Json.IsReadBack n.toValue := by
  have hvalues : ∀ e ∈ n.entries, Json.joined e.2 = e.2 :=
    joined_of_mem_entries h fun s hs => Text.joinPairs_eq_self (hwhole s hs)
  have hnames : (n.entries.map fun e => e.1.toText) = nameTexts := rfl
  have hdistinct : nameTexts.Nodup := by decide
  have hnamesJoined : ∀ s ∈ nameTexts, Text.joinPairs s = s := by decide
  have hfields : n.toValue =
      .dict ((n.entries.map fun e => (e.1.toText, e.2)).map fun p => (.text p.1, p.2)) := rfl
  rw [Json.isReadBack_iff (isPlain_toValue h), hfields]
  refine Json.joined_dict ?_ (List.forall_mem_map.mpr fun e he => ⟨?_, hvalues e he⟩)
  · rw [List.map_map]
    exact hnames ▸ hdistinct
  · exact hnamesJoined _ (hnames ▸ List.mem_map_of_mem he)

namespace Snapshot

theorem isRead_of_noteOf {zone : Zone} {v : Value} {n : Note} (h : noteOf zone v = .ok n) :
    n.IsRead := by
  cases v with
  | dict entries =>
    rw [noteOf] at h
    cases hentries : Note.ofEntries zone entries with
    | error e =>
      rw [hentries] at h
      cases h
    | ok m =>
      rw [hentries] at h
      cases h
      exact Note.isRead_of_ofEntries hentries
  | _ => cases h

theorem isRead_of_load {zone : Zone} {find : FilePath → FileEntry} {path : FilePath}
    {notes : List Note} (h : load zone find path = .ok notes) : ∀ n ∈ notes, n.IsRead := by
  obtain ⟨items, -, hitems⟩ := load_eq_ok_iff.mp h
  have hboth : List.Forall₂ (fun n item => n.IsRead ∧ noteOf zone item = .ok n) notes items :=
    (hitems.imp fun _ _ hitem => And.intro (isRead_of_noteOf hitem) hitem).flip
  exact ((List.forall₂_and_left _ _).mp hboth).1

/-- The JSON text of notes that were read, as a line, is loaded as these notes. -/
theorem load_notesAsJson (zone : Zone) {find : FilePath → FileEntry} {path : FilePath}
    {notes : List Note}
    (hread : ∀ n ∈ notes, n.IsRead) (hback : ∀ n ∈ notes, Json.IsReadBack n.toValue)
    (hjson : isJson path = true)
    (hfile : find path = .file (encodeText (CommandLine.notesAsJson notes ++ ['\n']))) :
    load zone find path = .ok notes := by
  have hplain : ∀ v ∈ notes.map Note.toValue, Json.isPlain v = true :=
    List.forall_mem_map.mpr fun n hn => Note.isPlain_toValue (hread n hn)
  have hjsonText : CommandLine.notesAsJson notes =
      Json.textWith (.indented 0) (.list (notes.map Note.toValue)) := rfl
  have hreturn : '\r' ∉ CommandLine.notesAsJson notes ++ ['\n'] := by
    rw [hjsonText, List.mem_append, not_or]
    exact ⟨Json.return_not_mem_textWith _ _ (Json.arePlain_iff.mpr hplain), by decide⟩
  have htext : textOf path (encodeText (CommandLine.notesAsJson notes ++ ['\n'])) =
      .ok (CommandLine.notesAsJson notes ++ ['\n']) := by
    rw [textOf, decodeText?_encodeText]
    exact congrArg _ (Text.unixLines_eq_self hreturn)
  have hvalue : read path (CommandLine.notesAsJson notes ++ ['\n']) =
      .ok (.list (notes.map Note.toValue)) := by
    have hfeed : ∀ c ∈ ['\n'], Json.isSpace c = true := List.forall_mem_singleton.mpr rfl
    rw [read, if_pos hjson, hjsonText,
      Json.read_list _ hplain (List.forall_mem_map.mpr hback) hfeed]
  refine load_eq_ok_iff.mpr ⟨_, ⟨_, _, _, hfile, htext, hvalue, rfl⟩, ?_⟩
  refine List.forall₂_map_left_iff.mpr (List.forall₂_same.mpr fun n hn => ?_)
  show noteOf zone (.dict n.entries) = .ok n
  rw [noteOf, Note.ofEntries_entries zone (hread n hn)]

end Snapshot

end NoteQuery
