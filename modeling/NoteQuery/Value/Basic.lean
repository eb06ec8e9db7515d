import NoteQuery.Calendar.Instant
import NoteQuery.Number.Shortest
import NoteQuery.Text.Basic
import NoteQuery.Value.ReadError

/-!
# Loose values

What a snapshot file or a settings file can hold before it is given a shape: texts,
numbers, times, lists and dictionaries whose keys may be any value. Bytes, sets and tuples,
which only tags of YAML write, are no such values, and no list or dictionary contains itself. A
value has two written forms, the plain one of `toText` and the quoted one of `literal`, which
differ on texts and times.
-/
namespace NoteQuery

inductive Value where
  | null
  | bool (b : Bool)
  | int (n : Int)
  | float (x : Double)
  | text (s : Text)
  | date (d : Day)
  | moment (m : Stamp)
  /-- A time of day, as an instant of the first day. -/
  | clock (t : Instant)
  | list (items : List Value)
  | dict (entries : List (Value × Value))

namespace Value

instance : Inhabited Value := ⟨null⟩

/-- The name of a value's kind. -/
def kindName : Value → Text
  | null => "NoneType".toList
  | bool _ => "bool".toList
  | int _ => "int".toList
  | float _ => "float".toList
  | text _ => "str".toList
  | date _ => "date".toList
  | moment _ => "datetime".toList
  | clock _ => "time".toList
  | list _ => "list".toList
  | dict _ => "dict".toList

/-- The name of a value's kind, with the module that defines times in front. -/
def typeName (v : Value) : Text :=
  match v with
  | date _ | moment _ | clock _ => "datetime.".toList ++ v.kindName
  | v => v.kindName

/-- Empty and zero values do not count as given. -/
def isGiven : Value → Bool
  | null => false
  | bool b => b
  | int n => n != 0
  | float x => !x.isZero
  | text s => !s.isEmpty
  | date _ => true
  | moment _ => true
  | clock _ => true
  | list items => !items.isEmpty
  | dict entries => !entries.isEmpty

/-- Numbers separated by commas. -/
def arguments (ns : List Int) : Text := Text.join [',', ' '] (ns.map Text.ofInt)

def dateArguments (d : Day) : List Int := [d.year, d.month, d.dayOfMonth]

/-- The offset of a moment, in days, seconds and microseconds, the last two not
negative; parts that are zero are left out. -/
def offsetLiteral (offset : Int) : Text :=
  if offset == 0 then "datetime.timezone.utc".toList
  else
    let perDay : Int := Instant.ticksPerDay
    let days := offset.fdiv perDay
    let rest := offset.fmod perDay
    let part (name : String) (n : Int) : List Text :=
      if n == 0 then [] else [name.toList ++ ['='] ++ Text.ofInt n]
    "datetime.timezone(datetime.timedelta(".toList
      ++ Text.join [',', ' ']
        (part "days" days ++ part "seconds" (rest / 1000000)
          ++ part "microseconds" (rest % 1000000))
      ++ [')', ')']

/-- Seconds and microseconds are left out where they are zero. -/
def clockArguments (t : Instant) : List Int :=
  let tail : List Int :=
    if t.micro != 0 then [t.second, t.micro] else if t.second != 0 then [t.second] else []
  [(t.hour : Int), t.minute] ++ tail

def momentLiteral (m : Stamp) : Text :=
  "datetime.datetime(".toList ++ arguments (dateArguments m.wall.day ++ clockArguments m.wall)
    ++ (match m.east with
      | none => []
      | some offset => ", tzinfo=".toList ++ offsetLiteral offset)
    ++ [')']

mutual

def literal : Value → Text
  | null => "None".toList
  | bool b => if b then "True".toList else "False".toList
  | int n => Text.ofInt n
  | float x => x.toText
  | text s => Text.literal s
  | date d => "datetime.date(".toList ++ arguments (dateArguments d) ++ [')']
  | moment m => momentLiteral m
  | clock t => "datetime.time(".toList ++ arguments (clockArguments t) ++ [')']
  | list items => ['['] ++ Text.join [',', ' '] (literals items) ++ [']']
  | dict entries => ['\x7b'] ++ Text.join [',', ' '] (entryLiterals entries) ++ ['\x7d']

def literals : List Value → List Text
  | [] => []
  | v :: rest => literal v :: literals rest

def entryLiterals : List (Value × Value) → List Text
  | [] => []
  | (k, v) :: rest => (literal k ++ [':', ' '] ++ literal v) :: entryLiterals rest

end

mutual

/-- Whether a value has written forms: integers are written up to as many digits as they are
read. -/
def isWritable : Value → Bool
  | null => true
  | bool _ => true
  | int n => (Text.ofNat n.natAbs).length ≤ ReadError.digitLimit
  | float _ => true
  | text _ => true
  | date _ => true
  | moment _ => true
  | clock _ => true
  | list items => areWritable items
  | dict entries => areEntriesWritable entries

def areWritable : List Value → Bool
  | [] => true
  | v :: rest => isWritable v && areWritable rest

def areEntriesWritable : List (Value × Value) → Bool
  | [] => true
  | (k, v) :: rest => isWritable k && isWritable v && areEntriesWritable rest

end

theorem areWritable_iff {items : List Value} :
    areWritable items = true ↔ ∀ v ∈ items, v.isWritable = true := by
  induction items with
  | nil => simp [areWritable]
  | cons v rest ih => simp [areWritable, ih]

theorem areEntriesWritable_iff {entries : List (Value × Value)} :
    areEntriesWritable entries = true ↔
      ∀ e ∈ entries, e.1.isWritable = true ∧ e.2.isWritable = true := by
  induction entries with
  | nil => simp [areEntriesWritable]
  | cons e rest ih => simp [areEntriesWritable, ih, and_assoc]

/-- A text was to be made of a value that has no written form. -/
structure Unwritable where
  deriving DecidableEq, Repr

def Unwritable.message (_ : Unwritable) : Text :=
  "Exceeds the limit (".toList ++ Text.ofNat ReadError.digitLimit
    ++ " digits) for integer string conversion; use sys.set_int_max_str_digits() ".toList
    ++ "to increase the limit".toList

def toText : Value → Text
  | text s => s
  | date d => d.toText
  | moment m => m.toTextWith ' '
  | clock t => t.timeText
  | v => literal v

/-- An exact quotient for the numbers among the values. -/
def number? : Value → Option (Bool × Nat × Nat)
  | bool b => some (false, if b then 1 else 0, 1)
  | int n => some (n < 0, n.natAbs, 1)
  | float (.finite negative m e) =>
    let (n, d) := Double.ratio m e
    some (negative && n != 0, n, d)
  | _ => none

/-- Whether two values are the same dictionary key; numbers of all kinds compare by
value, and what is no number is the same as itself. -/
def sameKey : Value → Value → Bool
  | null, null => true
  | text s, text t => s == t
  | date d, date e => d == e
  | clock t, clock u => t == u
  | moment m, moment n =>
    match m.east, n.east with
    | none, none => m.wall == n.wall
    | some a, some b => (m.wall.ticks : Int) - a == n.wall.ticks - b
    | _, _ => false
  | float (.infinite a), float (.infinite b) => a == b
  | float .nan, float .nan => true
  | a, b =>
    match number? a, number? b with
    | some (s, n, d), some (t, m, e) => s == t && n * e == m * d
    | _, _ => false

/-- Sets a key of a dictionary; a key that is there keeps its place and spelling. -/
def setEntry (key value : Value) : List (Value × Value) → List (Value × Value)
  | [] => [(key, value)]
  | (k, v) :: rest =>
    if sameKey k key then (k, value) :: rest else (k, v) :: setEntry key value rest

def lookup? (name : Text) : List (Value × Value) → Option Value
  | [] => none
  | (k, v) :: rest => if sameKey k (text name) then some v else lookup? name rest

/-- The first of several keys that a dictionary has. -/
def lookupFirst? (names : List Text) (entries : List (Value × Value)) : Option Value :=
  names.findSome? fun name => lookup? name entries

end Value

end NoteQuery
