import NoteQuery.Value.Yaml.Scalar
import NoteQuery.Value.Yaml.Tree

/-!
# YAML: documents

The value that a YAML text writes. Merge keys are resolved first: the entries of other
mappings come in front of a mapping's own. Of several faults one counts that lies least deep,
and of those the first: the items of a list are read before the items of its items.

Of the tags that the language has for values those of sets, bytes, ordered mappings and lists of
pairs are left out: a text with one of them is malformed here, for it has a value that is none
of `Value`. So is a collection with an alias of itself inside, which would have no end.
-/
namespace NoteQuery.Yaml

def Tree.looks : Tree → Text
  | .scalar _ _ _ => "scalar".toList
  | .list _ _ _ => "sequence".toList
  | .mapping _ _ _ => "mapping".toList

/-- What a tag makes of a tree. -/
inductive TreeKind where
  | scalar (kind : ScalarKind)
  | list
  | mapping
  | unknown (tag : Text)

/-- What a whole tag means. -/
def TreeKind.ofTag (tag : Text) : TreeKind :=
  if tag == commonTag "seq" then list
  else if tag == commonTag "map" then mapping
  else
    match ScalarKind.all.find? fun k => commonTag k.name == tag with
    | some k => scalar k
    | none => unknown tag

def Tree.kind : Tree → TreeKind
  | .scalar (some tag) _ _ => .ofTag tag
  | .scalar none s _ => .scalar (.ofPlain s)
  | .list (some tag) _ _ => .ofTag tag
  | .list none _ _ => .list
  | .mapping (some tag) _ _ => .ofTag tag
  | .mapping none _ _ => .mapping

def Tree.isScalarOf (k : ScalarKind) (t : Tree) : Bool :=
  match t.kind with
  | .scalar kind => kind == k
  | _ => false

/-! ## Merging -/

/-- A tree without merge keys. A mapping whose merge keys are at fault holds the fault. -/
inductive Merged where
  | scalar (tree : Tree) (s : Text)
  | list (tree : Tree) (items : List Merged)
  | mapping (tree : Tree) (entries : Except ReadError (List (Merged × Merged)))

namespace Merged

def tree : Merged → Tree
  | scalar tree _ => tree
  | list tree _ => tree
  | mapping tree _ => tree

/-- The entries of a mapping that is merged into one that starts at a mark. -/
def mergedEntries (start : Mark) (what : String) :
    Merged → Except ReadError (List (Merged × Merged))
  | mapping _ entries => entries
  | m => .error (complainWithin "while constructing a mapping".toList start
      (what.toList ++ ", but found ".toList ++ m.tree.looks) m.tree.start)

/-- The entries that the value of a merge key adds. Of several mappings the first counts
most, so it comes last. -/
def additions (start : Mark) : Merged → Except ReadError (List (Merged × Merged))
  | list _ items => do
    let each ← items.mapM (mergedEntries start "expected a mapping for merging")
    .ok each.reverse.flatten
  | m => mergedEntries start "expected a mapping or list of mappings for merging" m

/-- The entries of a mapping, those of merge keys in front. A lone equals sign is a text as a
key. -/
def entriesOf (start : Mark) (entries : List (Merged × Merged)) :
    Except ReadError (List (Merged × Merged)) := do
  let isMerge (e : Merged × Merged) : Bool := e.1.tree.isScalarOf .merge
  let added ← (entries.filter isMerge).mapM fun e => additions start e.2
  let own := (entries.filter fun e => !isMerge e).map fun (k, v) =>
    if k.tree.isScalarOf .default then
      (scalar (.scalar (some (commonTag "str")) ['='] k.tree.start) ['='], v)
    else (k, v)
  .ok (added.flatten ++ own)

end Merged

mutual

def Tree.merged : Tree → Merged
  | .scalar tag s start => .scalar (.scalar tag s start) s
  | .list tag items start => .list (.list tag [] start) (mergedItems items)
  | .mapping tag entries start =>
    .mapping (.mapping tag [] start) (Merged.entriesOf start (mergedPairs entries))

def mergedItems : List Tree → List Merged
  | [] => []
  | t :: rest => t.merged :: mergedItems rest

def mergedPairs : List (Tree × Tree) → List (Merged × Merged)
  | [] => []
  | (k, v) :: rest => (k.merged, v.merged) :: mergedPairs rest

end

/-! ## Values -/

/-- The value of a tree, and the first fault of each level: that of the tree itself, that
of its parts, and so on. The value counts if there is no fault. -/
structure Valued where
  value : Value
  faults : List (Option ReadError)

namespace Valued

/-- A value of its own, or a fault. -/
def ofExcept : Except ReadError Value → Valued
  | .ok v => ⟨v, []⟩
  | .error e => ⟨.null, [some e]⟩

/-- The first faults of two rows of levels. -/
def joinFaults : List (Option ReadError) → List (Option ReadError) → List (Option ReadError)
  | [], faults => faults
  | faults, [] => faults
  | a :: as, b :: bs => a.or b :: joinFaults as bs

/-- A value whose parts have faults. -/
def ofParts (value : Value) (parts : List (List (Option ReadError))) : Valued :=
  ⟨value, none :: parts.foldr joinFaults []⟩

def fault? (v : Valued) : Option ReadError := v.faults.findSome? id

def result (v : Valued) : Except ReadError Value :=
  match v.fault? with
  | some e => .error e
  | none => .ok v.value

end Valued

/-- A tree that has a tag for something else. -/
def Tree.mismatch (expected : String) (t : Tree) : ReadError :=
  complain ("expected a ".toList ++ expected.toList ++ " node, but found ".toList ++ t.looks)
    t.start

def Tree.undetermined (tag : Text) (t : Tree) : ReadError :=
  complain ("could not determine a constructor for the tag ".toList ++ Text.literal tag) t.start

/-- A collection by its tag: a fault of itself if the tag is not for collections, a fault of
its parts if it is for the other kind. -/
def Tree.valuedAs (t : Tree) (isList : Bool) (valued : Valued) : Valued :=
  match t.kind with
  | .unknown tag => .ofExcept (.error (t.undetermined tag))
  | .scalar k =>
    .ofExcept (.error
      (if (k.value? []).isSome then t.mismatch "scalar" else t.undetermined (commonTag k.name)))
  | .list => if isList then valued else .ofParts (.list []) [[some (t.mismatch "sequence")]]
  | .mapping => if isList then .ofParts (.dict []) [[some (t.mismatch "mapping")]] else valued

def Tree.scalarValued (t : Tree) (s : Text) : Valued :=
  match t.kind with
  | .unknown tag => .ofExcept (.error (t.undetermined tag))
  | .scalar k => .ofExcept ((k.value? s).getD (.error (t.undetermined (commonTag k.name))))
  | .list => .ofParts (.list []) [[some (t.mismatch "sequence")]]
  | .mapping => .ofParts (.dict []) [[some (t.mismatch "mapping")]]

/-- Lists and dictionaries cannot be keys. -/
def isKey : Value → Bool
  | .list _ => false
  | .dict _ => false
  | _ => true

/-- The entries of a dictionary with their faults; of several values under one key the last
counts. -/
def dictOf (start : Mark) (entries : List (Mark × Valued × Valued)) : Valued :=
  let keyFault (keyStart : Mark) (k : Valued) : List (Option ReadError) :=
    if isKey k.value then []
    else [some (complainWithin "while constructing a mapping".toList start
      "found unhashable key".toList keyStart)]
  .ofParts
    (.dict (entries.foldl (fun seen (_, k, v) => Value.setEntry k.value v.value seen) []))
    (entries.flatMap fun (keyStart, k, v) => [k.faults, keyFault keyStart k, v.faults])

mutual

/-- The value of a tree. -/
def Merged.valued : Merged → Valued
  | .scalar t s => t.scalarValued s
  | .list t items =>
    let parts := valuedItems items
    t.valuedAs true (.ofParts (.list (parts.map (·.value))) (parts.map (·.faults)))
  | .mapping t (.ok entries) => t.valuedAs false (dictOf t.start (valuedPairs entries))
  | .mapping t (.error e) => t.valuedAs false (.ofParts (.dict []) [[some e]])

def valuedItems : List Merged → List Valued
  | [] => []
  | m :: rest => m.valued :: valuedItems rest

def valuedPairs : List (Merged × Merged) → List (Mark × Valued × Valued)
  | [] => []
  | (k, v) :: rest => (k.tree.start, k.valued, v.valued) :: valuedPairs rest

end

/-- The value of the one document that a text holds, null if it holds none. -/
def read (s : Text) : Except ReadError Value := do
  match ← Tree.ofText? s with
  | none => .ok .null
  | some t => t.merged.valued.result

end NoteQuery.Yaml
