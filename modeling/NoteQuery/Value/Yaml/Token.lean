import NoteQuery.Value.Yaml.Place

/-!
# YAML: tokens

The pieces that a YAML text is cut into. Besides what is written there are tokens for the
starts and ends of block collections, which indentation shows, and for keys, which are known by
the colon behind them.
-/
namespace NoteQuery.Yaml

/-- A tag as written: a handle with what follows it, or the whole tag alone. -/
structure TagName where
  handle : Option Text
  rest : Text
  deriving DecidableEq, Repr

inductive Directive where
  | version (major : Nat)
  /-- What a handle stands for. -/
  | handle (name meaning : Text)
  | other
  deriving DecidableEq, Repr

inductive TokenKind where
  | directive (d : Directive)
  | documentStart
  | documentEnd
  | streamEnd
  | blockListStart
  | blockMappingStart
  | blockEnd
  | flowListStart
  | flowListEnd
  | flowMappingStart
  | flowMappingEnd
  | blockEntry
  | flowEntry
  | key
  | value
  | aliasOf (name : Text)
  | anchor (name : Text)
  | tag (t : TagName)
  | scalar (plain : Bool) (s : Text)
  deriving DecidableEq, Repr

def TokenKind.name : TokenKind → Text
  | directive _ => "<directive>".toList
  | documentStart => "<document start>".toList
  | documentEnd => "<document end>".toList
  | streamEnd => "<stream end>".toList
  | blockListStart => "<block sequence start>".toList
  | blockMappingStart => "<block mapping start>".toList
  | blockEnd => "<block end>".toList
  | flowListStart => ['[']
  | flowListEnd => [']']
  | flowMappingStart => ['\x7b']
  | flowMappingEnd => ['\x7d']
  | blockEntry => ['-']
  | flowEntry => [',']
  | key => ['?']
  | value => [':']
  | aliasOf _ => "<alias>".toList
  | anchor _ => "<anchor>".toList
  | tag _ => "<tag>".toList
  | scalar _ _ => "<scalar>".toList

/-- A token, and where it starts and stops. -/
structure Token where
  kind : TokenKind
  start : Mark
  stop : Mark
  deriving DecidableEq, Repr

end NoteQuery.Yaml
