import ServiceProbe.Files.Path

/-!
# Trees of files

A `FileTree` is a working directory with the files in it. A directory is there because of the files below it
or because it was made. `FileTree.locate` follows a path step by step, and `FileTree.makeAll` makes a
directory together with those above it; both say what stands in the way. What lies outside of the working
directory is not known, so that every step there leads somewhere and every directory can be made.
-/

namespace ServiceProbe

/-- Why a path leads to no place, or a directory cannot be made. -/
inductive PathFault where
  | notFound | alreadyThere | notDirectory | nameTooLong | nullCharacter
deriving DecidableEq

def PathFault.message : PathFault → String
  | notFound => "No such file or directory (os error 2)"
  | alreadyThere => "File exists (os error 17)"
  | notDirectory => "Not a directory (os error 20)"
  | nameTooLong => "File name too long (os error 36)"
  | nullCharacter => "file name contained an unexpected NUL byte"

/-- Where a path leads. -/
inductive Place where
  /-- The names from the working directory on. -/
  | inside (names : List String)
  | outside
deriving DecidableEq

/-- A working directory: the texts of the files in it, and the directories that were made. -/
structure FileTree where
  files : List (List String × String)
  made : List (List String) := []

namespace FileTree

/-- The files with these paths. -/
def ofTexts (texts : List (String × String)) : FileTree :=
  { files := texts.map fun (path, text) => (Path.steps path, text) }

/-- The most bytes a name may have. -/
def longestName : Nat := 255

/-- The most bytes a path may have. -/
def longestPath : Nat := 4095

def isFile (tree : FileTree) (names : List String) : Bool :=
  (tree.files.lookup names).isSome

/-- The names lead to a directory. -/
def holds (tree : FileTree) (names : List String) : Bool :=
  names.isEmpty || tree.made.any (names.isPrefixOf ·) ||
    tree.files.any fun (file, _) => names.isPrefixOf file && names.length < file.length

def isDirectory (tree : FileTree) : Place → Bool
  | .inside names => tree.holds names
  | .outside => true

/-- The place of a name in a directory; it may be free. -/
def nameIn (tree : FileTree) (place : Place) (name : String) : Except PathFault Place :=
  if !tree.isDirectory place then .error .notDirectory
  else if longestName < name.utf8ByteSize then .error .nameTooLong
  else
    match place with
    | .inside names => .ok (.inside (names ++ [name]))
    | .outside => .ok .outside

/-- There is something at the place. -/
def isTaken (tree : FileTree) : Place → Bool
  | .inside names => tree.isFile names || tree.holds names
  | .outside => true

/-- One step from a place. -/
def step (tree : FileTree) (place : Place) (name : String) : Except PathFault Place :=
  if Path.isIdle name then if tree.isDirectory place then .ok place else .error .notDirectory
  else if name = ".." then
    if tree.isDirectory place then
      match place with
      | .inside [] => .ok .outside
      | .inside names => .ok (.inside names.dropLast)
      | .outside => .ok .outside
    else .error .notDirectory
  else do
    let next ← tree.nameIn place name
    if tree.isTaken next then return next else throw .notFound

/-- What is wrong with a path as a text. -/
def textFault? (path : String) : Option PathFault :=
  if path.contains '\x00' then some .nullCharacter
  else if longestPath < path.utf8ByteSize then some .nameTooLong
  else if path.isEmpty then some .notFound
  else none

/-- Where a path begins. -/
def start (path : String) : Place :=
  if Path.isAbsolute path then .outside else .inside []

/-- Where a path leads. -/
def locate (tree : FileTree) (path : String) : Except PathFault Place :=
  match textFault? path with
  | some fault => .error fault
  | none => (Path.allSteps path).foldlM tree.step (start path)

/-- The text of the file at a path. -/
def read? (tree : FileTree) (path : String) : Option String :=
  match tree.locate path with
  | .ok (.inside names) => tree.files.lookup names
  | _ => none

/-! ### Making directories -/

/-- The steps of a path, without the empty ones at its end. -/
private def stepsToMake (path : String) : List String :=
  ((Path.allSteps path).reverse.dropWhile (· = "")).reverse

/-- The tree with one directory more. -/
def make (tree : FileTree) (path : String) : Except PathFault FileTree :=
  match textFault? path with
  | some fault => .error fault
  | none => do
    let steps := stepsToMake path
    let place ← steps.dropLast.foldlM tree.step (start path)
    match steps.getLast? with
    | none => throw .alreadyThere
    | some name =>
      -- a name that stands for a directory that is there already
      if Path.isIdle name || name = ".." then
        if tree.isDirectory place then throw .alreadyThere else throw .notDirectory
      else
        let next ← tree.nameIn place name
        match next with
        | .outside => return tree
        | .inside names =>
          if tree.isTaken next then throw .alreadyThere
          else return { tree with made := names :: tree.made }

/-- The tree after `made`, where it is enough that the directory at the path is there. -/
private def settled (tree : FileTree) (path : String) (made : Except PathFault FileTree) :
    Except PathFault FileTree :=
  match made with
  | .error .alreadyThere =>
    if (tree.locate path).toOption.any tree.isDirectory then .ok tree else .error .alreadyThere
  | made => made

/-- The tree with the directory at the first of the paths; those after it lead there and are made where they
are missing, the last one first. -/
private def makeFirst (tree : FileTree) : List String → Except PathFault FileTree
  | [] => .ok tree
  | path :: above =>
    match tree.make path with
    | .error .notFound => do
      let tree ← makeFirst tree above
      settled tree path (tree.make path)
    | made => settled tree path made

/-- The tree with a directory and those above it. An empty path stands for the working directory. -/
def makeAll (tree : FileTree) (path : String) : Except PathFault FileTree :=
  if path.isEmpty then .ok tree else makeFirst tree (path :: Path.above path)

/-- The place of a directory once it is made. -/
def directoryAt (tree : FileTree) (path : String) : Except PathFault Place := do
  let tree ← tree.makeAll path
  if path.isEmpty then return .inside [] else tree.locate path

end FileTree

end ServiceProbe
