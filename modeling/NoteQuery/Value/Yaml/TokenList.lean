import NoteQuery.Value.Yaml.Lexeme

/-!
# YAML: cutting a text into tokens

Indentation opens and closes block collections. A colon makes a key of what stands in front
of it on its line, so tokens that may start a key are remembered: one for the block that is
open, and one for each flow collection around the place. Such a token is not known before its
line ends, and neither are those behind it. So a text that cannot be cut up to its end still
gives the tokens that are known in front of the fault.
-/
namespace NoteQuery.Yaml

/-- A token that may turn out to start a key. -/
structure PossibleKey where
  /-- How many tokens stand in front of it. -/
  number : Nat
  /-- Whether the indentation says that it must be one. -/
  required : Bool
  place : Place

/-- A text that is cut in part. -/
structure Cutting where
  place : Place
  /-- The tokens so far, the last one first. -/
  tokens : List Token
  /-- How many tokens there are. -/
  count : Nat
  /-- The columns of the open block collections, the innermost first. -/
  indents : List Nat
  /-- What may be a key of the innermost open collection. -/
  pending : Option PossibleKey
  /-- What may be keys of the collections around the open flow collections. -/
  outer : List (Option PossibleKey)
  /-- Whether a key may start at the place. -/
  keyAllowed : Bool

namespace Cutting

/-- The start of a text, behind a byte order mark. -/
def start (s : Text) : Cutting :=
  let p := Place.start s
  ⟨if p.isAt (·.toNat == 0xfeff) then p.next else p, [], 0, [], none, [], true⟩

def inFlow (c : Cutting) : Bool := !c.outer.isEmpty

def mark (c : Cutting) : Mark := c.place.mark

def add (c : Cutting) (kind : TokenKind) (start stop : Mark) : Cutting :=
  { c with tokens := ⟨kind, start, stop⟩ :: c.tokens, count := c.count + 1 }

def addEmpty (c : Cutting) (kind : TokenKind) : Cutting := c.add kind c.mark c.mark

def addTo (c : Cutting) (kind : TokenKind) (stop : Place) : Cutting :=
  { c.add kind c.mark stop.mark with place := stop }

def addNext (c : Cutting) (kind : TokenKind) (size : Nat) : Cutting :=
  c.addTo kind (c.place.forward size)

/-! ## Keys -/

def maxKeySize : Nat := 1024

/-- Whether a token is still in reach of the place. -/
def isFresh (c : Cutting) (k : PossibleKey) : Bool :=
  k.place.line == c.place.line && k.place.left - c.place.left ≤ maxKeySize

def keyMissing (c : Cutting) (k : PossibleKey) : ReadError :=
  complainWithin "while scanning a simple key".toList k.place.mark
    "could not find expected ':'".toList c.mark

/-- Forgets the tokens that cannot be keys any more. -/
def dropStale (c : Cutting) : Except ReadError Cutting :=
  let keys := (c.pending :: c.outer).filterMap id
  match keys.find? fun k => k.required && !c.isFresh k with
  | some k => .error (c.keyMissing k)
  | none => .ok
    { c with pending := c.pending.filter c.isFresh, outer := c.outer.map (·.filter c.isFresh) }

/-- Forgets what may be a key of the innermost collection. -/
def dropPending (c : Cutting) : Except ReadError Cutting :=
  match c.pending with
  | some k => if k.required then .error (c.keyMissing k) else .ok { c with pending := none }
  | none => .ok c

/-- Remembers the token that starts here as a possible key, if one may stand here. -/
def noteKey (c : Cutting) : Except ReadError Cutting :=
  if c.keyAllowed then do
    let c ← c.dropPending
    let required := !c.inFlow && c.indents.head? == some c.place.column
    .ok { c with pending := some ⟨c.count, required, c.place⟩ }
  else .ok c

/-- How many tokens do not depend on what follows: those in front of all possible keys. -/
def known (c : Cutting) : Nat :=
  (c.pending :: c.outer).foldl
    (fun n k => match k with
      | some k => min n k.number
      | none => n) c.count

/-! ## Indentation -/

/-- Closes the block collections that are indented further than a column. -/
def unwindTo (c : Cutting) (column : Nat) : List Nat → Cutting
  | [] => { c with indents := [] }
  | n :: outer =>
    if column < n then (c.addEmpty .blockEnd).unwindTo column outer
    else { c with indents := n :: outer }

/-- Closes all block collections, outside of flow collections. -/
def unwindAll (c : Cutting) : Cutting :=
  if c.inFlow then c
  else
    let closed := c.indents.foldl (fun c _ => c.addEmpty .blockEnd) c
    { closed with indents := [] }

/-- Whether a block collection in a column lies deeper than the open ones. -/
def isDeeper (c : Cutting) (column : Nat) : Bool := c.indents.head?.all (· < column)

/-- Opens a block collection here, if it is deeper than the open ones. -/
def openBlock (c : Cutting) (kind : TokenKind) : Cutting :=
  if c.isDeeper c.place.column then
    { c.addEmpty kind with indents := c.place.column :: c.indents }
  else c

/-! ## Tokens -/

def endStream (c : Cutting) : Except ReadError Cutting := do
  let c ← c.unwindAll.dropPending
  .ok (c.addEmpty .streamEnd)

def documentMark (c : Cutting) (kind : TokenKind) : Except ReadError Cutting := do
  let c ← c.unwindAll.dropPending
  .ok { c.addNext kind 3 with keyAllowed := false }

def directiveLine (c : Cutting) : Except ReadError Cutting := do
  let c ← c.unwindAll.dropPending
  let (d, q) ← directive c.place
  .ok { c.addTo (.directive d) q with keyAllowed := false }

/-- An opening bracket, which may start a key itself. -/
def openFlow (c : Cutting) (kind : TokenKind) : Except ReadError Cutting := do
  let c ← c.noteKey
  .ok { c.addNext kind 1 with pending := none, outer := c.pending :: c.outer, keyAllowed := true }

def closeFlow (c : Cutting) (kind : TokenKind) : Except ReadError Cutting := do
  let c ← c.dropPending
  .ok { c.addNext kind 1 with
    pending := c.outer.head?.getD none, outer := c.outer.tail, keyAllowed := false }

def flowComma (c : Cutting) : Except ReadError Cutting := do
  let c ← c.dropPending
  .ok { c.addNext .flowEntry 1 with keyAllowed := true }

def orNotAllowed (c : Cutting) (what : String) : Except ReadError Unit :=
  if c.inFlow || c.keyAllowed then .ok ()
  else .error (complain (what.toList ++ " are not allowed here".toList) c.mark)

/-- The dash of a block item. -/
def dash (c : Cutting) : Except ReadError Cutting := do
  c.orNotAllowed "sequence entries"
  let c ← (if c.inFlow then c else c.openBlock .blockListStart).dropPending
  .ok { c.addNext .blockEntry 1 with keyAllowed := true }

def keyMark (c : Cutting) : Except ReadError Cutting := do
  c.orNotAllowed "mapping keys"
  let c ← (if c.inFlow then c else c.openBlock .blockMappingStart).dropPending
  .ok { c.addNext .key 1 with keyAllowed := !c.inFlow }

/-- Makes a key of a token in front, which may open a block mapping. -/
def makeKey (c : Cutting) (k : PossibleKey) : Cutting :=
  let after := c.count - k.number
  let column := k.place.column
  let opens := !c.inFlow && c.isDeeper column
  let token (kind : TokenKind) : Token := ⟨kind, k.place.mark, k.place.mark⟩
  { c with
    tokens := c.tokens.take after ++ [token .key]
      ++ (if opens then [token .blockMappingStart] else []) ++ c.tokens.drop after
    count := if opens then c.count + 2 else c.count + 1
    indents := if opens then column :: c.indents else c.indents
    pending := none }

def colon (c : Cutting) : Except ReadError Cutting :=
  match c.pending with
  | some k => .ok { (c.makeKey k).addNext .value 1 with keyAllowed := false }
  | none => do
    c.orNotAllowed "mapping values"
    let opened := if c.inFlow then c else c.openBlock .blockMappingStart
    .ok { opened.addNext .value 1 with keyAllowed := !c.inFlow }

/-- A token that may start a key, as a reader gives it. -/
def leaf (c : Cutting) (read : Place → Except ReadError (TokenKind × Place)) :
    Except ReadError Cutting := do
  let c ← c.noteKey
  let (kind, q) ← read c.place
  .ok { c.addTo kind q with keyAllowed := false }

/-- The least indentation of the further lines of a scalar. -/
def least (c : Cutting) : Nat :=
  match c.indents.head? with
  | some n => n + 1
  | none => 0

def blockText (c : Cutting) (folded : Bool) : Except ReadError Cutting := do
  let c ← c.dropPending
  let (s, q) ← blockScalar folded (max 1 c.least) c.place
  .ok { c.addTo (.scalar false s) q with keyAllowed := true }

def plainText (c : Cutting) : Except ReadError Cutting := do
  let c ← c.noteKey
  let s := plain c.inFlow c.least c.place
  .ok { c.add (.scalar true s.text) c.mark s.stop with place := s.place, keyAllowed := s.broken }

/-- The characters that no plain scalar starts with, as a rule. -/
def indicators : Text := "-?:,[]\x7b\x7d#&*!|>'\"%@".toList ++ [Char.ofNat 0x60]

def startsPlain (flow : Bool) (s : Text) : Bool :=
  match s with
  | [] => false
  | c :: rest =>
    if atGap s then false
    else if !indicators.contains c then true
    else !atGap rest && (c == '-' || (!flow && (c == '?' || c == ':')))

def nextToken (c : Cutting) (first : Char) (rest : Text) : Except ReadError Cutting :=
  let gap := atGap rest
  let lineStart := c.place.column == 0
  let marker := lineStart && atMarker c.place.rest
  let named (read : Place → Except ReadError (Text × Place)) (kind : Text → TokenKind) :=
    c.leaf fun p => (read p).map fun (s, q) => (kind s, q)
  if first == '%' && lineStart then c.directiveLine
  else if first == '-' && marker then c.documentMark .documentStart
  else if first == '.' && marker then c.documentMark .documentEnd
  else if first == '[' then c.openFlow .flowListStart
  else if first == '\x7b' then c.openFlow .flowMappingStart
  else if first == ']' then c.closeFlow .flowListEnd
  else if first == '\x7d' then c.closeFlow .flowMappingEnd
  else if first == ',' then c.flowComma
  else if first == '-' && gap then c.dash
  else if first == '?' && (c.inFlow || gap) then c.keyMark
  else if first == ':' && (c.inFlow || gap) then c.colon
  else if first == '*' then named (anchorName "alias") .aliasOf
  else if first == '&' then named (anchorName "anchor") .anchor
  else if first == '!' then c.leaf fun p => (tag p).map fun (t, q) => (.tag t, q)
  else if first == '|' && !c.inFlow then c.blockText false
  else if first == '>' && !c.inFlow then c.blockText true
  else if first == '\'' then named (quoted false) (.scalar false)
  else if first == '"' then named (quoted true) (.scalar false)
  else if startsPlain c.inFlow c.place.rest then c.plainText
  else
    .error (.malformed [.words "while scanning for the next token".toList,
      .words ("found character ".toList ++ c.place.found ++ " that cannot start any token".toList),
      c.mark.remark])

/-- Whether a bracket closes that nothing has opened: no document goes on behind it. -/
def isHopeless (c : Cutting) : Bool :=
  !c.inFlow && (c.place.rest.head?.any fun d => d == ']' || d == '\x7d')

def advance (c : Cutting) : Except ReadError Cutting := do
  let (broken, p) := c.place.skip
  let c := { c with place := p, keyAllowed := c.keyAllowed || (broken && !c.inFlow) }
  let c ← c.dropStale
  .ok (if c.inFlow then c else c.unwindTo p.column c.indents)

/-- One more token, with those that come unwritten in front of it; nothing more if it is the
last. -/
def step (c : Cutting) : Except ReadError (Cutting × Bool) := do
  let c ← c.advance
  match c.place.rest with
  | [] => .ok (← c.endStream, true)
  | first :: rest =>
    let next ← c.nextToken first rest
    .ok (← next.dropStale, c.isHopeless)

end Cutting

/-- The tokens of a text, and why there are no more of them if the last one is missing. -/
structure TokenList where
  tokens : List Token
  fault : Option ReadError

def Cutting.finish : Nat → Cutting → TokenList
  | 0, c => ⟨c.tokens.reverse, none⟩
  | fuel + 1, c =>
    match c.step with
    | .error e => ⟨c.tokens.reverse.take c.known, some e⟩
    | .ok (next, true) => ⟨next.tokens.reverse, none⟩
    | .ok (next, false) => finish fuel next

def TokenList.ofText (s : Text) : TokenList := (Cutting.start s).finish (s.length + 2)

end NoteQuery.Yaml
