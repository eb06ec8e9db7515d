import NoteQuery.Query.Match
import NoteQuery.Query.Parse

/-!
# Query sessions

A session parses the text of a search box and runs it over the notes at hand. It keeps
the last parsed query, which serves again while the text and the calendar day of the
clock stay the same. Another search engine may answer the text instead; the session then
only narrows the answer down to a scope.
-/
namespace NoteQuery

/-- A parsed query and the day it was parsed on. -/
structure CacheEntry where
  day : Day
  query : Query

/-- A search engine outside: the paths it answers to a text. -/
abbrev SearchProvider := Text → List Text

structure Session where
  conventions : Conventions
  clock : Moment
  provider : Option SearchProvider := none
  cached : Option CacheEntry := none
  /-- How often a text was parsed for the cache. -/
  parses : Nat := 0
  /-- The texts that the provider was asked, the latest first. -/
  asked : List Text := []

namespace Session

def setClock (s : Session) (now : Moment) : Session := { s with clock := now }

def invalidate (s : Session) : Session := { s with cached := none }

def hit? (s : Session) (raw : Text) : Option Query :=
  s.cached.bind fun entry =>
    if entry.query.raw == raw && entry.day == s.clock.wall.day then some entry.query else none

def parse (s : Session) (raw : Text) : Except OutOfCalendar Query :=
  Query.parseAt s.conventions s.clock raw

def store (s : Session) (q : Query) : Session :=
  { s with cached := some ⟨s.clock.wall.day, q⟩, parses := s.parses + 1 }

/-- The query of a text, from the cache where that has it. -/
def query (s : Session) (raw : Text) : Except OutOfCalendar Query × Session :=
  match s.hit? raw with
  | some q => (.ok q, s)
  | none =>
    match s.parse raw with
    | .ok q => (.ok q, s.store q)
    | .error e => (.error e, s)

/-- The notes that a query selects; one without terms selects all. -/
def run (q : Query) (notes : List Note) : Except MatchError (List Note) :=
  if q.isEmpty then .ok notes else q.root.select notes

def filter (s : Session) (raw : Text) (notes : List Note) :
    Except MatchError (List Note) × Session :=
  match s.query raw with
  | (.ok q, s) => (run q notes, s)
  | (.error e, s) => (.error (.outOfCalendar e), s)

/-- The tree of a scope; an empty text limits nothing. -/
def scopeRoot (s : Session) (scope : Option Text) : Except OutOfCalendar (Option Node) :=
  match scope with
  | none => .ok none
  | some [] => .ok none
  | some text => (s.parse text).map fun q => some q.root

def ask (s : Session) (provider : SearchProvider) (raw : Text) : List Text × Session :=
  (provider raw, { s with asked := raw :: s.asked })

def narrow (scope : Option Node) (notes : List Note) : Except MatchError (List Note) :=
  match scope with
  | none => .ok notes
  | some root => root.select notes

/-- The notes in a scope that match a text, or that the provider answers to it. -/
def search (s : Session) (raw : Text) (notes : List Note) (scope : Option Text) :
    Except MatchError (List Note) × Session :=
  match s.scopeRoot scope with
  | .error e => (.error (.outOfCalendar e), s)
  | .ok root =>
    match s.provider with
    | none =>
      let (found, s) := s.filter raw notes
      (found.bind (narrow root), s)
    | some provider =>
      let (paths, s) := s.ask provider raw
      (narrow root (notes.filter fun n => paths.contains n.path), s)

/-- Whether two states of a session hold one and the same cached query. -/
def keeps (before after : Session) : Bool :=
  before.parses == after.parses && before.cached.isSome == after.cached.isSome

end Session

end NoteQuery
