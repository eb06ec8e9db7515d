import NoteQuery.Text.Surrogate

/-!
# File trees

The files that a program sees from its working directory. Paths are cut at slashes;
empty segments and single dots say nothing, and two dots lead back up. Writing a file makes
the folders on the way to it. What is there can be read and written: permissions, links and a
working directory that is gone are left out.
-/
namespace NoteQuery

/-- A path as written: how many slashes it starts with, and its segments. -/
structure FilePath where
  slashes : Nat
  parts : List Text
  deriving DecidableEq, Repr

namespace FilePath

/-- Exactly two slashes in front differ from one; three or more do not. -/
def ofText (s : Text) : FilePath where
  slashes :=
    match (s.takeWhile (· == '/')).length with
    | 0 => 0
    | 2 => 2
    | _ => 1
  parts := (Text.splitOn ['/'] s).filter fun p => !p.isEmpty && p != ['.']

def toText (p : FilePath) : Text :=
  if p.slashes == 0 && p.parts.isEmpty then ['.']
  else List.replicate p.slashes '/' ++ Text.join ['/'] p.parts

/-- The text of the last segment from its last dot on, if something stands on both
sides of the dot. -/
def suffix (p : FilePath) : Text :=
  let name := p.parts.getLastD []
  let ext := (name.reverse.takeWhile (· != '.')).reverse
  if name.contains '.' && !ext.isEmpty && ext.length + 1 < name.length then '.' :: ext else []

end FilePath

/-- What a path leads to. -/
inductive FileEntry where
  | missing
  | folder
  | file (bytes : ByteArray)
  /-- A name or the whole path is longer than file systems take. -/
  | nameTooLong

/-- A place that segments lead to. Those above the working directory, which has no name, are
written with two dots, and those of the whole file system stand behind a slash. -/
abbrev Place := List Text

namespace Place

def parent : Text := ['.', '.']

def root : Place := [['/']]

def up (place : Place) : Place :=
  if place == root then root
  else if place.all (· == parent) then place ++ [parent]
  else place.dropLast

def step (place : Place) (part : Text) : Place :=
  if part == parent then place.up else place ++ [part]

/-- The places that are folders whatever there is: the working directory and those above. -/
def isAbove (place : Place) : Bool := place == root || place.all (· == parent)

end Place

/-- Files and folders by their places. A folder is also there if something is in it. -/
structure FileTree where
  files : List (Place × ByteArray)
  folders : List Place

/-- Why no file can be written at a path. -/
inductive FileFault where
  /-- A file stands where a folder is needed. -/
  | fileExists
  /-- A file stands on the way to a folder that is needed. -/
  | notFolder
  | isFolder
  | nameTooLong
  deriving DecidableEq, Repr

/-- Names are at most this many bytes long. -/
def maxNameSize : Nat := 255

/-- Paths are shorter than this many bytes. -/
def pathSizeLimit : Nat := 4096

def byteSize (s : Text) : Nat := (String.ofList s).utf8ByteSize

namespace FileTree

def empty : FileTree := ⟨[], []⟩

/-- What stands at a place. -/
def entry (tree : FileTree) (place : Place) : FileEntry :=
  match tree.files.lookup place with
  | some bytes => .file bytes
  | none =>
    if place.isAbove || tree.folders.any place.isPrefixOf
        || tree.files.any fun (p, _) => place.isPrefixOf p then .folder
    else .missing

/-- What stands at the end of some segments, and where, each but the last being taken from a
folder. -/
def walk (tree : FileTree) (place : Place) : List Text → Place × FileEntry
  | [] => (place, tree.entry place)
  | part :: rest =>
    match tree.entry place with
    | .folder =>
      if maxNameSize < byteSize part then (place, .nameTooLong)
      else tree.walk (place.step part) rest
    | _ => (place, .missing)

def start (p : FilePath) : Place := if 0 < p.slashes then Place.root else []

def find (tree : FileTree) (p : FilePath) : FileEntry :=
  if pathSizeLimit ≤ byteSize p.toText then .nameTooLong else (tree.walk (start p) p.parts).2

def put (tree : FileTree) (place : Place) (bytes : ByteArray) : FileTree :=
  { tree with files := (place, bytes) :: tree.files.filter fun (p, _) => p != place }

/-- Puts a file at a path, with the folders that it needs. -/
def write (tree : FileTree) (path : FilePath) (bytes : ByteArray) : FileTree :=
  tree.put (path.parts.foldl Place.step (start path)) bytes

def addFolder (tree : FileTree) (place : Place) : FileTree :=
  { tree with folders := place :: tree.folders }

/-- Makes a folder in one that is there; it may be there itself. -/
def makeFolder (tree : FileTree) (above : Place) (name : Text) : Except FileFault FileTree :=
  if maxNameSize < byteSize name then .error .nameTooLong
  else
    match tree.entry (above.step name) with
    | .missing => .ok (tree.addFolder (above.step name))
    | .folder => .ok tree
    | .file _ => .error .fileExists
    | .nameTooLong => .error .nameTooLong

/-- Whether a file stands in the way of some segments. -/
def isBlocked (tree : FileTree) (place : Place) : List Text → Bool
  | [] => false
  | part :: rest =>
    match tree.entry place with
    | .file _ => true
    | .folder => tree.isBlocked (place.step part) rest
    | _ => false

/-- Makes the folder at the end of some segments, given backwards, and those above it. What
has been made stays in case of a fault. -/
def makeFolders (tree : FileTree) (origin : Place) : List Text → FileTree × Option FileFault
  | [] => (tree, none)
  | name :: above =>
    let (tree, fault) :=
      match tree.walk origin above.reverse with
      | (_, .missing) =>
        if tree.isBlocked origin (name :: above).reverse then (tree, some .notFolder)
        else tree.makeFolders origin above
      | (_, .file _) => (tree, some .notFolder)
      | (_, .nameTooLong) => (tree, some .nameTooLong)
      | (_, .folder) => (tree, none)
    match fault with
    | some e => (tree, some e)
    | none =>
      match tree.makeFolder (tree.walk origin above.reverse).1 name with
      | .ok made => (made, none)
      | .error e => (tree, some e)

/-- Opens a file for writing, which empties it; the folders that it needs are made. -/
def openNew (tree : FileTree) (path : FilePath) : FileTree × Except FileFault Place :=
  match path.parts.reverse with
  | [] => (tree, .error .isFolder)
  | name :: above =>
    match tree.makeFolders (start path) above with
    | (tree, some e) => (tree, .error e)
    | (tree, none) =>
      let place := (tree.walk (start path) above.reverse).1.step name
      if maxNameSize < byteSize name then (tree, .error .nameTooLong)
      else
        match tree.entry place with
        | .folder => (tree, .error .isFolder)
        | _ => (tree.put place .empty, .ok place)

end FileTree

/-- The characters that bytes encode, if they encode any. -/
def decodeText? (bytes : ByteArray) : Option Text := (String.fromUTF8? bytes).map String.toList

def encodeText (s : Text) : ByteArray := (String.ofList s).toUTF8

/-- The bytes of a text, which halves of surrogate pairs have not. -/
def encodeText? (s : Text) : Option ByteArray :=
  if s.any Text.isCarrier then none else some (encodeText s)

/-- Line breaks of all kinds as line feeds. -/
def Text.unixLines : Text → Text
  | [] => []
  | '\r' :: '\n' :: rest => '\n' :: unixLines rest
  | '\r' :: rest => '\n' :: unixLines rest
  | c :: rest => c :: unixLines rest

end NoteQuery
