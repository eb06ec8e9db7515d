import Mathlib.Data.Nat.Digits.Defs
import NoteQuery.Note.Snapshot
import NoteQuery.Proofs.Note.Escaping

/-!
# Errors that loading notes ends with

Most errors say that there are no notes and why: load errors. Others come from below and pass
through. There are four sources of them: a name that is too long for a file, a text in good
grammar that writes something that does not exist, a moment that is outside the calendar in
local time, and an integer that is too long to be written. Loading ends with such an error
exactly where one of these is met before a load error, and otherwise gives a note for each
entry or a load error.
-/
namespace NoteQuery

/-! ## Integers that are too long to be written -/

/-- A quotient of 1025 binary digits or more has no finite number near to it. -/
theorem Double.ofRatio_eq_infinite (negative : Bool) {num den : Nat}
    (h : 2 ^ (den.log2 + 1025) ≤ num) : ofRatio negative num den = .infinite negative := by
  have hpos : num ≠ 0 := fun h0 => by
    rw [h0, Nat.le_zero] at h
    exact absurd h (Nat.pow_pos (by decide)).ne'
  have hlog : den.log2 + 1025 ≤ num.log2 := (Nat.le_log2 hpos).mpr h
  have hlow : maxExponent < (num.log2 : Int) - den.log2 - 53 := by
    simp only [maxExponent]
    omega
  rw [ofRatio, if_neg (mt beq_iff_eq.mp hpos)]
  generalize (num.log2 : Int) - den.log2 - 53 = low at hlow
  -- both candidates for the exponent are beyond the greatest one
  have hexponent : ∀ quotient : Nat,
      maxExponent < max minExponent (if quotient < Nat.pow 2 53 then low else low + 1) := by
    intro quotient
    split <;> omega
  have hrounded : ∀ (m : Nat) (exponent : Int), maxExponent < exponent →
      maxExponent <
        (if m == Nat.pow 2 53 then (Nat.pow 2 52, exponent + 1) else (m, exponent)).2 := by
    intro m exponent hlt
    split <;> simp only <;> omega
  exact if_pos (hrounded _ _ (hexponent _))

/-- Integers that are not written are beyond all floating point numbers, and so are their
thousandths. -/
theorem Timestamp.ofSeconds?_of_long (zone : Zone) {n : Nat} (negative : Bool)
    (h : ReadError.digitLimit < (Text.ofNat n).length) :
    ofSeconds? zone (.ofRatio negative n 1000) = none := by
  have hlarge : 2 ^ (Nat.log2 1000 + 1025) ≤ n := by
    by_contra hlt
    have hpow : (2 : Nat) ^ (Nat.log2 1000 + 1025) ≤ 10 ^ ReadError.digitLimit :=
      (Nat.pow_le_pow_left (by decide) _).trans (Nat.pow_le_pow_right (by decide) (by decide))
    have hlength := Nat.toDigits_length 10 n ReadError.digitLimit (by decide)
      ((not_le.mp hlt).trans_le hpow)
    exact absurd h (not_lt.mpr hlength)
  rw [Double.ofRatio_eq_infinite negative hlarge]
  rfl

/-! ## Timestamps -/

/-- Whether a number of microseconds leads in front of the first instant or behind the last
one. -/
def Instant.IsBeyond (n : Int) : Prop := n < 0 ∨ (last.ticks : Int) < n

/-- Whether what is written is outside the calendar in universal time or in local time. -/
def Stamp.IsOutside (zone : Zone) (s : Stamp) : Prop :=
  ∃ east ∈ s.east, Instant.IsBeyond (s.wall.ticks - east) ∨
    Instant.IsBeyond (s.wall.ticks - east + zone (s.wall.ticks - east))

theorem Instant.ofTicks?_eq_none_iff (n : Int) : ofTicks? n = none ↔ IsBeyond n := by
  cases n with
  | ofNat n =>
    have hlast : last.ticks + 1 = 3652059 * 86400000000 := rfl
    simp only [ofTicks?, IsBeyond]
    split
    · simp only [reduceCtorEq, false_iff, Int.ofNat_eq_natCast]
      omega
    · simp only [true_iff, Int.ofNat_eq_natCast]
      omega
  | negSucc n => simp [ofTicks?, IsBeyond, Int.negSucc_lt_zero]

theorem Instant.ticks_of_ofTicks? {n : Int} {t : Instant} (h : ofTicks? n = some t) :
    (t.ticks : Int) = n := by
  cases n with
  | ofNat n =>
    simp only [ofTicks?] at h
    split at h
    · cases h
      rfl
    · cases h
  | negSucc n => cases h

theorem Stamp.local?_eq_none_iff (zone : Zone) (s : Stamp) :
    (s.moment zone).local? = none ↔ s.IsOutside zone := by
  obtain ⟨wall, east⟩ := s
  cases east with
  | none => simp [Stamp.moment, Moment.local?, IsOutside]
  | some east =>
    have hlocal : (Stamp.moment zone ⟨wall, some east⟩).local? =
        (Instant.ofTicks? (wall.ticks - east)).bind fun universal =>
          Instant.ofTicks? (universal.ticks + zone (wall.ticks - east)) := rfl
    rw [hlocal]
    simp only [IsOutside, Option.mem_some_iff, exists_eq_left']
    cases huniversal : Instant.ofTicks? (wall.ticks - east) with
    | none => exact iff_of_true rfl (Or.inl ((Instant.ofTicks?_eq_none_iff _).mp huniversal))
    | some universal =>
      have hinside : ¬Instant.IsBeyond (wall.ticks - east) := by
        rw [← Instant.ofTicks?_eq_none_iff, huniversal]
        exact Option.some_ne_none universal
      rw [Option.bind_some, Instant.ticks_of_ofTicks? huniversal, Instant.ofTicks?_eq_none_iff,
        or_iff_right hinside]

namespace Timestamp

def Error.IsLoadError : Error → Prop
  | invalid _ => True
  | outOfRange _ => True
  | outOfCalendar => False
  | unwritable => False

instance : DecidablePred Error.IsLoadError
  | .invalid _ => .isTrue trivial
  | .outOfRange _ => .isTrue trivial
  | .outOfCalendar => .isFalse id
  | .unwritable => .isFalse id

def stampOf? : Value → Option Stamp
  | .moment s => some s
  | .text s => IsoText.stamp? (Text.replace 'Z' "+00:00".toList s)
  | _ => none

/-- Whether a value has no written form or stands for an instant outside the calendar. -/
def Strays (zone : Zone) (v : Value) : Prop :=
  v.isWritable = false ∨ ∃ s ∈ stampOf? v, s.IsOutside zone

section

variable {zone : Zone}

theorem strays_of_stampOf?_eq_none {v : Value} (h : stampOf? v = none) :
    Strays zone v ↔ v.isWritable = false := by
  simp [Strays, h]

/-- An error that shows a value escapes if the value has no written form. -/
theorem escapes_refusal {α : Type} {error : Value → Error} (herror : ∀ v, (error v).IsLoadError)
    (v : Value) :
    Escapes Error.IsLoadError (.error (refusal error v) : Except Error α) ↔
      v.isWritable = false := by
  rw [escapes_error, refusal]
  split
  · rename_i h
    simp [herror, h]
  · rename_i h
    simpa [Error.IsLoadError] using h

theorem escapes_ofStamp (s : Stamp) :
    Escapes Error.IsLoadError (ofStamp zone s) ↔ s.IsOutside zone := by
  rw [← Stamp.local?_eq_none_iff, ofStamp]
  cases (s.moment zone).local? with
  | none => simp [escapes_error, Error.IsLoadError]
  | some t => simp [not_escapes_ok]

theorem escapes_ofText (s : Text) :
    Escapes Error.IsLoadError (ofText zone s) ↔ ∃ t ∈ stampOf? (.text s), t.IsOutside zone := by
  simp only [ofText, stampOf?]
  cases IsoText.stamp? (Text.replace 'Z' "+00:00".toList s) with
  | none => simp [escapes_error, Error.IsLoadError]
  | some t =>
    simp only [Option.mem_some_iff, exists_eq_left']
    exact escapes_ofStamp t

theorem escapes_ofMillis {v : Value} {seconds : Double}
    (h : v.isWritable = false → ofSeconds? zone seconds = none) :
    Escapes Error.IsLoadError (ofMillis zone v seconds) ↔ v.isWritable = false := by
  have houtOfRange : ∀ v, (Error.outOfRange v).IsLoadError := fun _ => trivial
  simp only [ofMillis]
  cases hseconds : ofSeconds? zone seconds with
  | none => exact escapes_refusal houtOfRange v
  | some t =>
    refine iff_of_false (not_escapes_ok t) fun hv => ?_
    rw [h hv] at hseconds
    cases hseconds

theorem escapes_ofValue (v : Value) :
    Escapes Error.IsLoadError (ofValue zone v) ↔ Strays zone v := by
  have hinvalid : ∀ v, (Error.invalid v).IsLoadError := fun _ => trivial
  cases v with
  | null => exact iff_of_false (not_escapes_ok _) (by simp [Strays, Value.isWritable, stampOf?])
  | date d => exact iff_of_false (not_escapes_ok _) (by simp [Strays, Value.isWritable, stampOf?])
  | text s =>
    have hstrays : Strays zone (.text s) ↔ ∃ t ∈ stampOf? (.text s), t.IsOutside zone := by
      simp [Strays, Value.isWritable]
    rw [hstrays]
    cases s with
    | nil =>
      refine iff_of_false (not_escapes_ok _) ?_
      rintro ⟨t, ht, -⟩
      cases ht
    | cons c s => exact (escapes_map some).trans (escapes_ofText (c :: s))
  | moment s =>
    have hstrays : Strays zone (.moment s) ↔ s.IsOutside zone := by
      simp [Strays, Value.isWritable, stampOf?]
    rw [hstrays]
    exact (escapes_map some).trans (escapes_ofStamp s)
  | int n =>
    rw [strays_of_stampOf?_eq_none rfl, ofValue, escapes_map]
    refine escapes_ofMillis fun h => ofSeconds?_of_long zone _ ?_
    simpa [Value.isWritable] using h
  | float x =>
    rw [strays_of_stampOf?_eq_none rfl, ofValue, escapes_map]
    refine escapes_ofMillis fun h => ?_
    cases h
  | bool _ | clock _ | list _ | dict _ =>
    exact (escapes_refusal hinvalid _).trans (strays_of_stampOf?_eq_none rfl).symm

end

end Timestamp

/-! ## Entries -/

namespace Note

def EntryError.IsLoadError : EntryError → Prop
  | noPath _ => True
  | propertiesNotDictionary _ => True
  | timestamp e => e.IsLoadError
  | unwritable => False

instance : DecidablePred EntryError.IsLoadError
  | .noPath _ => .isTrue trivial
  | .propertiesNotDictionary _ => .isTrue trivial
  | .timestamp e => inferInstanceAs (Decidable e.IsLoadError)
  | .unwritable => .isFalse id

/-- The value under the first of several keys that an entry has. -/
def entryValue (entries : List (Value × Value)) (names : List Text) : Value :=
  (Value.lookupFirst? names entries).getD .null

/-- The values of which texts are made before properties and timestamps are read. -/
def plainValues (entries : List (Value × Value)) : List Value :=
  [filenameKeys, extensionKeys, folderKeys, tagsKeys].map (entryValue entries)

/-- Whether reading an entry comes to a value without written form of which a text is needed,
or to a timestamp that strays, before it comes to a load error. -/
inductive Strays (zone : Zone) (entries : List (Value × Value)) : Prop
  /-- The whole entry is shown because it has no path. -/
  | noPath (hpath : Value.lookup? "path".toList entries = none)
      (hwritable : (Value.dict entries).isWritable = false)
  | plain {path : Value} (hpath : Value.lookup? "path".toList entries = some path) {v : Value}
      (hv : v ∈ plainValues entries) (hwritable : v.isWritable = false)
  | properties {path : Value} (hpath : Value.lookup? "path".toList entries = some path)
      {properties : List (Value × Value)}
      (hproperties : entryValue entries propertiesKeys = .dict properties)
      (hwritable : (Value.dict properties).isWritable = false)
  | created {path : Value} (hpath : Value.lookup? "path".toList entries = some path)
      (hproperties : ∃ ps, propertiesOf (entryValue entries propertiesKeys) = .ok ps)
      (hcreated : Timestamp.Strays zone (entryValue entries createdKeys))
  | modified {path : Value} (hpath : Value.lookup? "path".toList entries = some path)
      (hproperties : ∃ ps, propertiesOf (entryValue entries propertiesKeys) = .ok ps)
      (hcreated : ∃ t, Timestamp.ofValue zone (entryValue entries createdKeys) = .ok t)
      (hmodified : Timestamp.Strays zone (entryValue entries modifiedKeys))
  | path {path : Value} (hpath : Value.lookup? "path".toList entries = some path)
      (hproperties : ∃ ps, propertiesOf (entryValue entries propertiesKeys) = .ok ps)
      (hcreated : ∃ t, Timestamp.ofValue zone (entryValue entries createdKeys) = .ok t)
      (hmodified : ∃ t, Timestamp.ofValue zone (entryValue entries modifiedKeys) = .ok t)
      (hwritable : path.isWritable = false)

theorem written_eq_ok_iff {v w : Value} : written v = .ok w ↔ v.isWritable = true ∧ w = v := by
  rw [written]
  split
  · rename_i h
    simp [h, eq_comm]
  · rename_i h
    simp [h]

theorem escapes_written (v : Value) :
    Escapes EntryError.IsLoadError (written v) ↔ v.isWritable = false := by
  rw [written]
  split
  · rename_i h
    exact iff_of_false (not_escapes_ok v) (by simp [h])
  · rename_i h
    simpa [escapes_error, EntryError.IsLoadError] using h

/-- Values of which texts are made escape in any order. -/
theorem escapes_written_bind {α : Type} (v : Value) (f : Value → Except EntryError α) :
    Escapes EntryError.IsLoadError (written v >>= f) ↔
      v.isWritable = false ∨ Escapes EntryError.IsLoadError (f v) := by
  rw [escapes_bind, escapes_written]
  constructor
  · rintro (h | ⟨w, hw, h⟩)
    · exact Or.inl h
    · obtain ⟨-, rfl⟩ := written_eq_ok_iff.mp hw
      exact Or.inr h
  · rintro (h | h)
    · exact Or.inl h
    · cases hv : v.isWritable with
      | false => exact Or.inl rfl
      | true => exact Or.inr ⟨v, written_of_isWritable hv, h⟩

theorem escapes_propertiesOf (v : Value) :
    Escapes EntryError.IsLoadError (propertiesOf v) ↔
      ∃ properties, v = .dict properties ∧ (Value.dict properties).isWritable = false := by
  cases v with
  | dict properties =>
    have hok : ∀ ps : List (Text × Value), ¬Escapes EntryError.IsLoadError (.ok ps) :=
      fun ps => not_escapes_ok ps
    rw [propertiesOf, escapes_written_bind]
    simp [pure, Except.pure, hok]
  | _ =>
    simp only [propertiesOf]
    split
    · simp [escapes_error, EntryError.IsLoadError]
    · simp [not_escapes_ok]

section

variable {zone : Zone}

theorem escapes_timeOf (v : Value) :
    Escapes EntryError.IsLoadError (timeOf zone v) ↔ Timestamp.Strays zone v := by
  rw [← Timestamp.escapes_ofValue, timeOf]
  cases Timestamp.ofValue zone v with
  | error e => simp [escapes_error, EntryError.IsLoadError]
  | ok t => simp [not_escapes_ok]

theorem timeOf_isOk_iff {v : Value} :
    (∃ t, timeOf zone v = .ok t) ↔ ∃ t, Timestamp.ofValue zone v = .ok t := by
  rw [timeOf]
  cases Timestamp.ofValue zone v <;> simp

/-- The steps of reading an entry that has a path, in their order. -/
theorem escapes_ofEntries_of_path {entries : List (Value × Value)} {path : Value}
    (hpath : Value.lookup? "path".toList entries = some path) :
    Escapes EntryError.IsLoadError (ofEntries zone entries) ↔
      (∃ v ∈ plainValues entries, v.isWritable = false) ∨
        Escapes EntryError.IsLoadError (propertiesOf (entryValue entries propertiesKeys)) ∨
        ∃ ps, propertiesOf (entryValue entries propertiesKeys) = .ok ps ∧
          (Timestamp.Strays zone (entryValue entries createdKeys) ∨
            ∃ created, timeOf zone (entryValue entries createdKeys) = .ok created ∧
              (Timestamp.Strays zone (entryValue entries modifiedKeys) ∨
                ∃ modified, timeOf zone (entryValue entries modifiedKeys) = .ok modified ∧
                  path.isWritable = false)) := by
  have hok : ∀ n : Note, ¬Escapes EntryError.IsLoadError (.ok n) := fun n => not_escapes_ok n
  simp only [ofEntries, hpath, escapes_written_bind]
  simp only [escapes_bind, escapes_timeOf, escapes_written]
  simp [plainValues, entryValue, hok, pure, Except.pure, or_assoc]

theorem escapes_ofEntries (entries : List (Value × Value)) :
    Escapes EntryError.IsLoadError (ofEntries zone entries) ↔ Strays zone entries := by
  cases hpath : Value.lookup? "path".toList entries with
  | none =>
    have hread : ofEntries zone entries =
        .error (if (Value.dict entries).isWritable then .noPath entries else .unwritable) := by
      rw [ofEntries, hpath]
    rw [hread, escapes_error]
    constructor
    · intro h
      refine .noPath hpath ?_
      cases hwritable : (Value.dict entries).isWritable with
      | false => rfl
      | true => simp [hwritable, EntryError.IsLoadError] at h
    · rintro (⟨-, h⟩ | ⟨h⟩ | ⟨h⟩ | ⟨h⟩ | ⟨h⟩ | ⟨h⟩)
      · simp [h, EntryError.IsLoadError]
      all_goals cases hpath.symm.trans h
  | some path =>
    rw [escapes_ofEntries_of_path hpath]
    constructor
    · rintro (⟨v, hv, h⟩ | h | ⟨ps, hps, h | ⟨created, hcreated, h | ⟨modified, hmodified, h⟩⟩⟩)
      · exact .plain hpath hv h
      · obtain ⟨properties, hproperties, h⟩ := (escapes_propertiesOf _).mp h
        exact .properties hpath hproperties h
      · exact .created hpath ⟨ps, hps⟩ h
      · exact .modified hpath ⟨ps, hps⟩ (timeOf_isOk_iff.mp ⟨created, hcreated⟩) h
      · exact .path hpath ⟨ps, hps⟩ (timeOf_isOk_iff.mp ⟨created, hcreated⟩)
          (timeOf_isOk_iff.mp ⟨modified, hmodified⟩) h
    · intro h
      cases h with
      | noPath h => cases hpath.symm.trans h
      | plain _ hv h => exact Or.inl ⟨_, hv, h⟩
      | properties _ hproperties h =>
        exact Or.inr (Or.inl ((escapes_propertiesOf _).mpr ⟨_, hproperties, h⟩))
      | created _ hproperties h =>
        obtain ⟨ps, hps⟩ := hproperties
        exact Or.inr (Or.inr ⟨ps, hps, Or.inl h⟩)
      | modified _ hproperties hcreated h =>
        obtain ⟨ps, hps⟩ := hproperties
        obtain ⟨created, hcreated⟩ := timeOf_isOk_iff.mpr hcreated
        exact Or.inr (Or.inr ⟨ps, hps, Or.inr ⟨created, hcreated, Or.inl h⟩⟩)
      | path hpath' hproperties hcreated hmodified h =>
        cases hpath.symm.trans hpath'
        obtain ⟨ps, hps⟩ := hproperties
        obtain ⟨created, hcreated⟩ := timeOf_isOk_iff.mpr hcreated
        obtain ⟨modified, hmodified⟩ := timeOf_isOk_iff.mpr hmodified
        exact Or.inr (Or.inr ⟨ps, hps, Or.inr ⟨created, hcreated, Or.inr ⟨modified, hmodified, h⟩⟩⟩)

end

end Note

/-! ## Snapshots -/

namespace Snapshot

def Error.IsLoadError : Error → Prop
  | notFound _ => True
  | nameTooLong _ => False
  | isFolder _ => True
  | notText _ _ => True
  | malformed _ _ => True
  | impossible _ _ => False
  | notList _ => True
  | notEntry _ => True
  | unwritable => False
  | entry e => e.IsLoadError

instance : DecidablePred Error.IsLoadError
  | .notFound _ => .isTrue trivial
  | .nameTooLong _ => .isFalse id
  | .isFolder _ => .isTrue trivial
  | .notText _ _ => .isTrue trivial
  | .malformed _ _ => .isTrue trivial
  | .impossible _ _ => .isFalse id
  | .notList _ => .isTrue trivial
  | .notEntry _ => .isTrue trivial
  | .unwritable => .isFalse id
  | .entry e => inferInstanceAs (Decidable e.IsLoadError)

def Holds (find : FilePath → FileEntry) (path : FilePath) (items : List Value) : Prop :=
  ∃ bytes s v, find path = .file bytes ∧ textOf path bytes = .ok s ∧ read path s = .ok v ∧
    entriesOf v = .ok items

/-- Whether an item strays; an item that is no entry is shown. -/
def ItemStrays (zone : Zone) : Value → Prop
  | .dict entries => Note.Strays zone entries
  | v => v.isWritable = false

/-- Whether loading comes to a file name that is too long, to something that is well formed and
does not exist, or to an item that strays, before it comes to a load error. -/
inductive Strays (zone : Zone) (find : FilePath → FileEntry) (path : FilePath) : Prop
  | name (hfind : find path = .nameTooLong)
  | reading {bytes : ByteArray} {s : Text} {e : ReadError} (hfind : find path = .file bytes)
      (htext : textOf path bytes = .ok s)
      (hread : (if isJson path then Json.read s else Yaml.read s) = .error e)
      (hgrammar : ∀ complaint, e ≠ .malformed complaint)
  | item {before after : List Value} {item : Value}
      (hholds : Holds find path (before ++ item :: after))
      (hbefore : ∀ v ∈ before, ∃ n, noteOf zone v = .ok n) (hitem : ItemStrays zone item)

theorem not_escapes_textOf (path : FilePath) (bytes : ByteArray) :
    ¬Escapes Error.IsLoadError (textOf path bytes) := by
  rw [textOf]
  split
  · exact not_escapes_ok _
  · simp [escapes_error, Error.IsLoadError]

theorem escapes_read (path : FilePath) (s : Text) :
    Escapes Error.IsLoadError (read path s) ↔
      ∃ e, (if isJson path then Json.read s else Yaml.read s) = .error e ∧
        ∀ complaint, e ≠ .malformed complaint := by
  rw [read]
  cases (if isJson path then Json.read s else Yaml.read s) with
  | ok v => simp [not_escapes_ok]
  | error e => cases e <;> simp [escapes_error, Error.IsLoadError]

theorem not_escapes_entriesOf (v : Value) : ¬Escapes Error.IsLoadError (entriesOf v) := by
  simp only [entriesOf]
  split
  · exact not_escapes_ok _
  · simp [escapes_error, Error.IsLoadError]

section

variable {zone : Zone}

/-- An item is shown, if it has a written form. -/
theorem escapes_shown (v : Value) :
    Escapes Error.IsLoadError
        (.error (if v.isWritable then .notEntry v else .unwritable) : Except Error Note) ↔
      v.isWritable = false := by
  rw [escapes_error]
  cases v.isWritable <;> simp [Error.IsLoadError]

theorem escapes_noteOf (v : Value) :
    Escapes Error.IsLoadError (noteOf zone v) ↔ ItemStrays zone v := by
  cases v with
  | dict entries =>
    rw [ItemStrays, ← Note.escapes_ofEntries, noteOf]
    cases Note.ofEntries zone entries with
    | error e => simp [escapes_error, Error.IsLoadError]
    | ok n => simp [not_escapes_ok]
  | _ => exact escapes_shown _

theorem load_of_file {find : FilePath → FileEntry} {path : FilePath} {bytes : ByteArray}
    (h : find path = .file bytes) :
    load zone find path =
      textOf path bytes >>= fun s => read path s >>= fun v =>
        entriesOf v >>= List.mapM (noteOf zone) := by
  rw [load, h]
  rfl

theorem exists_file_of_load {find : FilePath → FileEntry} {path : FilePath} {notes : List Note}
    (h : load zone find path = .ok notes) : ∃ bytes, find path = .file bytes := by
  rw [load] at h
  cases hfind : find path with
  | file bytes => exact ⟨bytes, rfl⟩
  | _ =>
    rw [hfind] at h
    cases h

/-- The notes of a file are those of the items in it, in order. -/
theorem load_eq_ok_iff {find : FilePath → FileEntry} {path : FilePath} {notes : List Note} :
    load zone find path = .ok notes ↔
      ∃ items, Holds find path items ∧
        List.Forall₂ (fun item n => noteOf zone item = .ok n) items notes := by
  constructor
  · intro h
    obtain ⟨bytes, hfind⟩ := exists_file_of_load h
    rw [load_of_file hfind] at h
    obtain ⟨s, hs, h⟩ := bind_eq_ok_iff.mp h
    obtain ⟨v, hv, h⟩ := bind_eq_ok_iff.mp h
    obtain ⟨items, hitems, h⟩ := bind_eq_ok_iff.mp h
    exact ⟨items, ⟨bytes, s, v, hfind, hs, hv, hitems⟩, mapM_eq_ok_iff.mp h⟩
  · rintro ⟨items, ⟨bytes, s, v, hfind, hs, hv, hitems⟩, h⟩
    rw [load_of_file hfind]
    exact bind_eq_ok_iff.mpr ⟨s, hs, bind_eq_ok_iff.mpr ⟨v, hv,
      bind_eq_ok_iff.mpr ⟨items, hitems, mapM_eq_ok_iff.mpr h⟩⟩⟩

/-- The steps of loading a file, in their order; only reading and the items let errors
through. -/
theorem escapes_load_of_file {find : FilePath → FileEntry} {path : FilePath} {bytes : ByteArray}
    (h : find path = .file bytes) :
    Escapes Error.IsLoadError (load zone find path) ↔
      ∃ s, textOf path bytes = .ok s ∧ (Escapes Error.IsLoadError (read path s) ∨
        ∃ v, read path s = .ok v ∧ ∃ items, entriesOf v = .ok items ∧
          Escapes Error.IsLoadError (items.mapM (noteOf zone))) := by
  simp only [load_of_file h, escapes_bind, not_escapes_textOf, not_escapes_entriesOf, false_or]

theorem escapes_load (find : FilePath → FileEntry) (path : FilePath) :
    Escapes Error.IsLoadError (load zone find path) ↔ Strays zone find path := by
  constructor
  · intro h
    cases hfind : find path with
    | missing => simp [load, hfind, escapes_error, Error.IsLoadError] at h
    | folder => simp [load, hfind, escapes_error, Error.IsLoadError] at h
    | nameTooLong => exact .name hfind
    | file bytes =>
      obtain ⟨s, hs, h | ⟨v, hv, items, hitems, h⟩⟩ := (escapes_load_of_file hfind).mp h
      · obtain ⟨e, hread, hgrammar⟩ := (escapes_read path s).mp h
        exact .reading hfind hs hread hgrammar
      · obtain ⟨before, item, after, rfl, hbefore, hitem⟩ := escapes_mapM.mp h
        exact .item ⟨bytes, s, v, hfind, hs, hv, hitems⟩ hbefore ((escapes_noteOf item).mp hitem)
  · intro h
    cases h with
    | name hfind => simp [load, hfind, escapes_error, Error.IsLoadError]
    | reading hfind hs hread hgrammar =>
      exact (escapes_load_of_file hfind).mpr
        ⟨_, hs, Or.inl ((escapes_read path _).mpr ⟨_, hread, hgrammar⟩)⟩
    | item hholds hbefore hitem =>
      obtain ⟨bytes, s, v, hfind, hs, hv, hitems⟩ := hholds
      exact (escapes_load_of_file hfind).mpr ⟨s, hs, Or.inr ⟨v, hv, _, hitems,
        escapes_mapM.mpr ⟨_, _, _, rfl, hbefore, (escapes_noteOf _).mpr hitem⟩⟩⟩

end

end Snapshot

end NoteQuery
