import NoteQuery.Dates.Form

/-!
# Resolving date expressions

An expression is one form, or two with two dots between them, of which one may be left
out: the range then starts with the calendar or ends now, or with its left side where
that is later. Sides written in the wrong order are exchanged.
-/
namespace NoteQuery.DateExpr

def dots : Text := ['.', '.']

def side? (order : DayOrder) (now : Instant) (s : Text) : Option DateRange :=
  (DateForm.ofText? s).bind (DateForm.span? order now.day)

def between (a b : DateRange) : DateRange :=
  if b.stop < a.start then ⟨b.start, a.stop⟩ else ⟨a.start, b.stop⟩

def resolve? (order : DayOrder) (now : Instant) (expression : Text) : Option DateRange :=
  let s := Text.trim expression
  match Text.splitFirst? dots s with
  | none => side? order now s
  | some (left, right) =>
    if (Text.splitFirst? dots right).isSome then none
    else
      match left.isEmpty, right.isEmpty with
      | true, true => none
      | true, false => (side? order now right).map fun b => ⟨.first, b.stop⟩
      | false, true => (side? order now left).map fun a => ⟨a.start, max now a.stop⟩
      | false, false => do
        let a ← side? order now left
        let b ← side? order now right
        some (between a b)

/-- The range that an expression stands for at a moment. -/
def resolve (order : DayOrder) (now : Moment) (expression : Text) :
    Except OutOfCalendar (Option DateRange) :=
  (now.local).map fun t => resolve? order t expression

/-- A field mark `c:` or `m:` in front of an expression, and the rest. -/
def splitField : Text → Option DateField × Text
  | c :: ':' :: rest =>
    if c.toLower == 'c' then (some .created, rest)
    else if c.toLower == 'm' then (some .modified, rest)
    else (none, c :: ':' :: rest)
  | s => (none, s)

/-- Whether an expression is the beginning of a relative word, but not the whole. -/
def isUnfinished (expression : Text) : Bool :=
  let s := Text.lower expression
  RelativeDay.all.any fun w => s.isPrefixOf w.word && s != w.word

end NoteQuery.DateExpr
