import NoteQuery.Value.Yaml.TokenList

/-!
# YAML: trees

The nesting of a document's scalars, lists and mappings, as its tokens show it. Aliases stand
for copies of the trees that have their anchors. Tags are whole, but nothing is done about them
yet. A text holds one document at most.
-/
namespace NoteQuery.Yaml

/-- A tree with its tags. A scalar without a tag is valued by its spelling, a collection
without one is what it looks like. -/
inductive Tree where
  | scalar (tag : Option Text) (s : Text) (start : Mark)
  | list (tag : Option Text) (items : List Tree) (start : Mark)
  | mapping (tag : Option Text) (entries : List (Tree × Tree)) (start : Mark)

def Tree.start : Tree → Mark
  | scalar _ _ start => start
  | list _ _ start => start
  | mapping _ _ start => start

/-- Where the tags of the usual kinds of values start. -/
def commonTag (name : String) : Text := "tag:yaml.org,2002:".toList ++ name.toList

/-- A named tree. It is not there before its end. -/
structure Anchor where
  name : Text
  start : Mark
  tree : Option Tree

def Anchor.attach (name : Option Text) (t : Tree) (a : Anchor) : Anchor :=
  if name == some a.name then { a with tree := some t } else a

/-- The tokens ahead, the anchors so far, and what the handles of tags stand for. -/
structure Reading where
  ahead : TokenList
  anchors : List Anchor
  handles : List (Text × Text)

abbrev Reader := StateT Reading (Except ReadError)

namespace Reader

def peek : Reader Token := do
  let r ← get
  match r.ahead.tokens with
  | t :: _ => pure t
  | [] => throw (r.ahead.fault.getD (.malformed []))

def skip : Reader Unit :=
  modify fun r => { r with ahead := { r.ahead with tokens := r.ahead.tokens.drop 1 } }

/-- What was expected instead of a token. -/
def unexpected {α : Type} (context : String) (start : Mark) (what : String) (t : Token) :
    Reader α :=
  throw (complainWithin context.toList start (what.toList ++ Text.literal t.kind.name) t.start)

/-- The tree with an anchor, which must not lie within it. -/
def aliased (name : Text) (start : Mark) : Reader Tree := do
  match (← get).anchors.find? (·.name == name) with
  | some ⟨_, _, some t⟩ => pure t
  | some ⟨_, first, none⟩ => throw (complain "found unconstructable recursive node".toList first)
  | none => throw (complain ("found undefined alias ".toList ++ Text.literal name) start)

/-- Notes an anchor whose tree starts. Each has one tree. -/
def announce (name : Option Text) (start : Mark) : Reader Unit := do
  match name with
  | none => pure ()
  | some name =>
    match (← get).anchors.find? (·.name == name) with
    | some first =>
      throw (complainWithin
        ("found duplicate anchor ".toList ++ Text.literal name ++ "; first occurrence".toList)
        first.start "second occurrence".toList start)
    | none => modify fun r => { r with anchors := ⟨name, start, none⟩ :: r.anchors }

def attach (name : Option Text) (t : Tree) : Reader Tree := do
  modify fun r => { r with anchors := r.anchors.map (Anchor.attach name t) }
  pure t

def wholeTag (t : TagName) (nodeStart tagStart : Mark) : Reader Text := do
  match t.handle with
  | none => pure t.rest
  | some handle =>
    match (← get).handles.lookup handle with
    | some meaning => pure (meaning ++ t.rest)
    | none =>
      throw (complainWithin "while parsing a node".toList nodeStart
        ("found undefined tag handle ".toList ++ Text.literal handle) tagStart)

end Reader

open Reader

/-- What stands in front of a tree: an anchor and a tag in either order. -/
structure Properties where
  anchor : Option Text := none
  tag : Option Text := none
  start : Option Mark := none

def Properties.isEmpty (p : Properties) : Bool := p.anchor.isNone && p.tag.isNone

/-- The tag of a collection; a lone mark is none. -/
def Properties.listTag (p : Properties) : Option Text := p.tag.filter (· != ['!'])

/-- The tag of a scalar: that of texts, if it is not plain. A lone mark makes it plain. -/
def Properties.scalarTag (p : Properties) (plain : Bool) : Option Text :=
  match p.tag with
  | none => if plain then none else some (commonTag "str")
  | some t => if t == ['!'] then none else some t

def anchorHere? : Reader (Option Text) := do
  match (← peek).kind with
  | .anchor name => do
    skip
    pure (some name)
  | _ => pure none

def tagHere? : Reader (Option (TagName × Mark)) := do
  let t ← peek
  match t.kind with
  | .tag name => do
    skip
    pure (some (name, t.start))
  | _ => pure none

/-- The properties in front of a tree, which start at a mark if there are any. -/
def properties (start : Mark) : Reader Properties := do
  let anchor ← anchorHere?
  match ← tagHere? with
  | none => pure ⟨anchor, none, anchor.map fun _ => start⟩
  | some (name, tagStart) =>
    let anchor ← if anchor.isSome then pure anchor else anchorHere?
    pure ⟨anchor, some (← wholeTag name start tagStart), some start⟩

def empty (start : Mark) : Tree := .scalar none [] start

mutual

/-- A tree. Block collections start only in blocks, and a list may hang under its key without
being indented further. -/
def node (block hanging : Bool) (fuel : Nat) : Reader Tree :=
  match fuel with
  | 0 => throw (.malformed [])
  | fuel + 1 => do
    let t ← peek
    match t.kind with
    | .aliasOf name => do
      skip
      aliased name t.start
    | _ => do
      let p ← properties t.start
      let t ← peek
      let start := p.start.getD t.start
      let scalar (plain : Bool) (s : Text) : Reader Tree := do
        announce p.anchor start
        attach p.anchor (.scalar (p.scalarTag plain) s start)
      let list (items : Reader (List Tree)) : Reader Tree := do
        announce p.anchor start
        attach p.anchor (.list p.listTag (← items) start)
      let mapping (entries : Reader (List (Tree × Tree))) : Reader Tree := do
        announce p.anchor start
        attach p.anchor (.mapping p.listTag (← entries) start)
      match t.kind, hanging, block with
      | .blockEntry, true, _ => list (hangingItems fuel)
      | .scalar plain s, _, _ => do
        skip
        scalar plain s
      | .flowListStart, _, _ => list do
        skip
        flowItems t.start true fuel
      | .flowMappingStart, _, _ => mapping do
        skip
        flowEntries t.start true fuel
      | .blockListStart, _, true => list do
        skip
        blockItems t.start fuel
      | .blockMappingStart, _, true => mapping do
        skip
        blockEntries t.start fuel
      | _, _, _ =>
        if p.isEmpty then
          unexpected (if block then "while parsing a block node" else "while parsing a flow node")
            start "expected the node content, but found " t
        else scalar true []

def blockItems (start : Mark) (fuel : Nat) : Reader (List Tree) :=
  match fuel with
  | 0 => throw (.malformed [])
  | fuel + 1 => do
    let t ← peek
    match t.kind with
    | .blockEntry => do
      skip
      let item ←
        match (← peek).kind with
        | .blockEntry => pure (empty t.stop)
        | .blockEnd => pure (empty t.stop)
        | _ => node true false fuel
      pure (item :: (← blockItems start fuel))
    | .blockEnd => do
      skip
      pure []
    | _ =>
      unexpected "while parsing a block collection" start "expected <block end>, but found " t

/-- The items of a block list that is not indented further than its key. -/
def hangingItems (fuel : Nat) : Reader (List Tree) :=
  match fuel with
  | 0 => throw (.malformed [])
  | fuel + 1 => do
    let t ← peek
    match t.kind with
    | .blockEntry => do
      skip
      let item ←
        match (← peek).kind with
        | .blockEntry => pure (empty t.stop)
        | .key => pure (empty t.stop)
        | .value => pure (empty t.stop)
        | .blockEnd => pure (empty t.stop)
        | _ => node true false fuel
      pure (item :: (← hangingItems fuel))
    | _ => pure []

def blockPart (stop : Mark) (fuel : Nat) : Reader Tree :=
  match fuel with
  | 0 => throw (.malformed [])
  | fuel + 1 => do
    match (← peek).kind with
    | .key => pure (empty stop)
    | .value => pure (empty stop)
    | .blockEnd => pure (empty stop)
    | _ => node true true fuel

def blockEntries (start : Mark) (fuel : Nat) : Reader (List (Tree × Tree)) :=
  match fuel with
  | 0 => throw (.malformed [])
  | fuel + 1 => do
    let t ← peek
    match t.kind with
    | .key => do
      skip
      let key ← blockPart t.stop fuel
      let t ← peek
      let value ←
        match t.kind with
        | .value => do
          skip
          blockPart t.stop fuel
        | _ => pure (empty t.start)
      pure ((key, value) :: (← blockEntries start fuel))
    | .blockEnd => do
      skip
      pure []
    | _ => unexpected "while parsing a block mapping" start "expected <block end>, but found " t

/-- A key or a value of a flow collection, behind its mark, which stops at a mark. -/
def flowPart (closing : TokenKind) (isKey : Bool) (stop : Mark) (fuel : Nat) : Reader Tree :=
  match fuel with
  | 0 => throw (.malformed [])
  | fuel + 1 => do
    let kind := (← peek).kind
    if kind == .flowEntry || kind == closing || (isKey && kind == .value) then pure (empty stop)
    else node false false fuel

/-- The value behind a key of a flow collection; it may be left out. -/
def flowValue (closing : TokenKind) (fuel : Nat) : Reader Tree :=
  match fuel with
  | 0 => throw (.malformed [])
  | fuel + 1 => do
    let t ← peek
    match t.kind with
    | .value => do
      skip
      flowPart closing false t.stop fuel
    | _ => pure (empty t.start)

/-- The items of a flow list up to its end; a pair is a mapping of its own. -/
def flowItems (start : Mark) (first : Bool) (fuel : Nat) : Reader (List Tree) :=
  match fuel with
  | 0 => throw (.malformed [])
  | fuel + 1 => do
    let t ← peek
    if t.kind == .flowListEnd then
      skip
      pure []
    else
      if first then pure ()
      else if t.kind == .flowEntry then skip
      else unexpected "while parsing a flow sequence" start "expected ',' or ']', but got " t
      let t ← peek
      match t.kind with
      | .flowListEnd => do
        skip
        pure []
      | .key => do
        skip
        let key ← flowPart .flowListEnd true t.stop fuel
        let value ← flowValue .flowListEnd fuel
        pure (.mapping none [(key, value)] t.start :: (← flowItems start false fuel))
      | _ => do
        let item ← node false false fuel
        pure (item :: (← flowItems start false fuel))

def flowEntries (start : Mark) (first : Bool) (fuel : Nat) : Reader (List (Tree × Tree)) :=
  match fuel with
  | 0 => throw (.malformed [])
  | fuel + 1 => do
    let t ← peek
    if t.kind == .flowMappingEnd then
      skip
      pure []
    else
      if first then pure ()
      else if t.kind == .flowEntry then skip
      else unexpected "while parsing a flow mapping" start "expected ',' or '\x7d', but got " t
      let t ← peek
      match t.kind with
      | .flowMappingEnd => do
        skip
        pure []
      | .key => do
        skip
        let key ← flowPart .flowMappingEnd true t.stop fuel
        let value ← flowValue .flowMappingEnd fuel
        pure ((key, value) :: (← flowEntries start false fuel))
      | _ => do
        let key ← node false false fuel
        let value := empty (← peek).start
        pure ((key, value) :: (← flowEntries start false fuel))

end

/-! ## Documents -/

def commonHandles : List (Text × Text) := [(['!'], ['!']), (['!', '!'], commonTag "")]

def directives (versioned : Bool) (handles : List (Text × Text)) : Nat → Reader Unit
  | 0 => pure ()
  | fuel + 1 => do
    let t ← peek
    match t.kind with
    | .directive d => do
      skip
      match d with
      | .version major => do
        if versioned then throw (complain "found duplicate YAML directive".toList t.start)
        if major != 1 then
          throw (complain
            "found incompatible YAML document (version 1.* is required)".toList t.start)
        directives true handles fuel
      | .handle name meaning => do
        if (handles.lookup name).isSome then
          throw (complain ("duplicate tag handle ".toList ++ Text.literal name) t.start)
        directives versioned ((name, meaning) :: handles) fuel
      | .other => directives versioned handles fuel
    | _ => modify fun r => { r with handles := handles ++ commonHandles }

/-- Passes over the marks behind a document. -/
def passEnds : Nat → Reader Unit
  | 0 => pure ()
  | fuel + 1 => do
    if (← peek).kind == .documentEnd then
      skip
      passEnds fuel

/-- The start of a document that is marked, and nothing at the end of the text. -/
def documentStart? (fuel : Nat) : Reader (Option Mark) := do
  passEnds fuel
  let t ← peek
  if t.kind == .streamEnd then pure none
  else
    directives false [] fuel
    let mark ← peek
    if mark.kind == .documentStart then
      skip
      pure (some t.start)
    else
      throw (complain
        ("expected '<document start>', but found ".toList ++ Text.literal mark.kind.name)
        mark.start)

def markedTree (fuel : Nat) : Reader Tree := do
  let t ← peek
  match t.kind with
  | .directive _ => pure (empty t.start)
  | .documentStart => pure (empty t.start)
  | .documentEnd => pure (empty t.start)
  | .streamEnd => pure (empty t.start)
  | _ => node true false fuel

def firstTree? (fuel : Nat) : Reader (Option Tree) := do
  let marked ←
    match (← peek).kind with
    | .directive _ => pure true
    | .documentStart => pure true
    | .streamEnd => pure true
    | _ => pure false
  if marked then
    match ← documentStart? fuel with
    | some _ => some <$> markedTree fuel
    | none => pure none
  else some <$> node true false fuel

def onlyTree? (fuel : Nat) : Reader (Option Tree) := do
  match ← firstTree? fuel with
  | none => pure none
  | some t =>
    match ← documentStart? fuel with
    | none => pure (some t)
    | some second =>
      throw (complainWithin "expected a single document in the stream".toList t.start
        "but found another document".toList second)

/-- Characters that may not stand in a YAML text. -/
def isForbidden (c : Char) : Bool :=
  let n := c.toNat
  !(n == 9 || n == 10 || n == 13 || (0x20 ≤ n && n ≤ 0x7e) || n == 0x85
    || (0xa0 ≤ n && n ≤ 0xd7ff) || (0xe000 ≤ n && n ≤ 0xfffd) || 0x10000 ≤ n)

/-- The complaint about a character that may not stand where it does. -/
def forbidden (c : Char) (position : Nat) : ReadError :=
  .malformed [
    .words ("unacceptable character #x".toList ++ Text.ofNatHex 4 c.toNat
      ++ ": special characters are not allowed".toList),
    .position position]

/-- The tree of the one document that a text holds, if it holds one. -/
def Tree.ofText? (s : Text) : Except ReadError (Option Tree) :=
  let allowed := s.takeWhile fun c => !isForbidden c
  match s.drop allowed.length with
  | c :: _ => .error (forbidden c allowed.length)
  | [] =>
    let ahead := TokenList.ofText s
    (onlyTree? (4 * ahead.tokens.length + 8) |>.run ⟨ahead, [], commonHandles⟩).map (·.1)

end NoteQuery.Yaml
