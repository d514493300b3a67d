/-! # Files

A file tree says what its paths lead to. Directories need not be listed; they are there as soon as
something lies below them. Paths are relative to the root of the tree and do not lead out of it.
-/

namespace BatchChanges

/-- What a path leads to. -/
inductive FileContent where
  | text (content : String)
  /-- A file that holds no text. -/
  | binary
  | directory
deriving DecidableEq

namespace FileContent

def ofBytes (bytes : ByteArray) : FileContent :=
  match String.fromUTF8? bytes with
  | some content => text content
  | none => binary

def text? : FileContent → Option String
  | text content => some content
  | binary => none
  | directory => none

end FileContent

/-- Files and directories by path. -/
structure FileTree where
  files : List (String × FileContent)

namespace FileTree

def names (path : String) : List String := (path.splitOn "/").filter (· != "")

/-- Whether a list of names leads to a directory of a tree of files. -/
def isDirectory (tree : FileTree) (place : List String) : Bool :=
  place.isEmpty || tree.files.any fun file =>
    let path := names file.1
    place.isPrefixOf path && (place != path || file.2 == .directory)

/-- Where the parts of a path lead from a place. A part can follow a directory only, and none leads
out of the tree. -/
def walk? (tree : FileTree) (place : List String) : List String → Option (List String)
  | [] => some place
  | part :: rest =>
    if !tree.isDirectory place then none
    else if part = "" ∨ part = "." then walk? tree place rest
    else if part = ".." then if place.isEmpty then none else walk? tree place.dropLast rest
    else walk? tree (place ++ [part]) rest

def find? (tree : FileTree) (path : String) : Option FileContent :=
  if path.startsWith "/" then none
  else do
    let found ← tree.walk? [] (path.splitOn "/")
    match tree.files.find? fun file => names file.1 == found with
    | some (_, content) => some content
    | none => if tree.isDirectory found then some .directory else none

end FileTree

end BatchChanges
