import WorkloadNames.Text.Split

/-!
Paths and what they lead to. `Sight` is all that a reader of files can tell; `Tree` keeps a few
files in memory and answers for every path below, above or beside them, with the steps `.` and `..`
taken one by one as a file system takes them.
-/

set_option autoImplicit false
set_option relaxedAutoImplicit false

namespace WorkloadNames.Files

/-- What is found at a path. -/
inductive Sight where
  | missing
  /-- Something that cannot be read as a file, such as a directory. -/
  | unreadable
  | file (content : ByteArray)
  deriving Inhabited

/-- The path of a name below a directory. -/
def below (directory name : Text) : Text :=
  directory ++ (if directory.getLast?.all (· == '/') then [] else ['/']) ++ name

/-- A directory, with the files and directories named by their paths from it. -/
structure Tree where
  /-- The absolute path of the directory itself. -/
  root : Text
  files : List (List Text × ByteArray)
  directories : List (List Text)

/-- Where a walk through a file system stands. -/
inductive Place where
  /-- At a path from the root of the tree. -/
  | within (path : List Text)
  /-- In some directory above or beside the tree. -/
  | outside
  deriving DecidableEq, Repr

namespace Tree

/-- The file at a path from the root. -/
def file? (tree : Tree) (path : List Text) : Option ByteArray :=
  (tree.files.find? fun entry ↦ entry.1 = path).map Prod.snd

/-- Whether a directory is at a path from the root; whatever holds something is one. -/
def isDirectory (tree : Tree) (path : List Text) : Bool :=
  path.isEmpty || tree.directories.any (path.isPrefixOf ·)
    || tree.files.any fun entry ↦ path.isPrefixOf entry.1 && path != entry.1

/-- Whether a walk may go on from a place. -/
def isOpen (tree : Tree) : Place → Bool
  | .within path => tree.isDirectory path
  | .outside => true

/-- One step of a walk. -/
def step? (tree : Tree) (place : Place) (name : Text) : Option Place :=
  if !tree.isOpen place then none
  else if name.isEmpty || name = ['.'] then some place
  else
    match place with
    | .outside => if name = ['.', '.'] then some .outside else none
    | .within path =>
      if name = ['.', '.'] then
        some (if path.isEmpty then .outside else .within path.dropLast)
      else
        let inner := path ++ [name]
        if tree.isDirectory inner || (tree.file? inner).isSome then some (.within inner) else none

/-- The place that a path leads to. -/
def place? (tree : Tree) (path : Text) : Option Place :=
  let names := Text.pieces '/' path
  let rootNames := Text.pieces '/' tree.root
  if path.isEmpty then none
  else if path.head? != some '/' then names.foldlM tree.step? (.within [])
  else if rootNames.isPrefixOf names then
    (names.drop rootNames.length).foldlM tree.step? (.within [])
  else names.foldlM tree.step? .outside

/-- What is found at a path. -/
def look (tree : Tree) (path : Text) : Sight :=
  match tree.place? path with
  | none => .missing
  | some .outside => .unreadable
  | some (.within path) =>
    match tree.file? path with
    | some content => .file content
    | none => .unreadable

end Tree

end WorkloadNames.Files
