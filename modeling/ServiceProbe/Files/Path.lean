import ServiceProbe.Text.Blank

/-!
# Paths

A path is a text of steps with slashes between them. Empty steps and single points lead nowhere, two points
lead to the directory above, and every other step is a name. `Path.plain` is a path without the steps that
lead nowhere; `Path.withEnding?` puts an ending behind its last name.
-/

namespace ServiceProbe.Path

/-- All steps of a path. -/
def allSteps (path : String) : List String :=
  (Text.splitOn '/' path.toList).map String.ofList

/-- The step leads nowhere. -/
def isIdle (step : String) : Bool :=
  step = "" || step = "."

/-- The steps that lead somewhere. -/
def steps (path : String) : List String :=
  (allSteps path).filter (!isIdle ·)

def isAbsolute (path : String) : Bool :=
  path.startsWith "/"

/-- The path of steps. -/
def ofSteps (isAbsolute : Bool) (steps : List String) : String :=
  (if isAbsolute then "/" else "") ++ Text.joinWith "/" steps

/-- The path without the steps that lead nowhere. -/
def plain (path : String) : String :=
  ofSteps (isAbsolute path) (steps path)

/-- The paths of what a path leads through, the nearest first. -/
def above (path : String) : List String :=
  let steps := steps path
  ((List.range steps.length).drop 1).reverse.map fun n => ofSteps (isAbsolute path) (steps.take n)

/-- The name a path ends in. -/
def fileName? (path : String) : Option String :=
  (steps path).getLast?.filter (· ≠ "..")

/-- The text without the idle steps at its end, given in reverse. -/
private def dropIdle : List Char → List Char
  | '/' :: rest => dropIdle rest
  | '.' :: '/' :: rest => dropIdle rest
  | rest => rest

/-- The path with an ending behind the name it ends in; what follows that name is left out. -/
def withEnding? (ending path : String) : Option String :=
  (fileName? path).map fun _ => String.ofList (dropIdle path.toList.reverse).reverse ++ ending

/-- A path that ends neither in a slash nor in a single point keeps all of itself in front of an ending. -/
theorem withEnding?_eq (ending : String) {path name : String} (isName : fileName? path = some name)
    (noSlash : ∀ rest, path.toList.reverse ≠ '/' :: rest) (noPoint : ∀ rest, path.toList.reverse ≠ '.' :: '/' :: rest) :
    withEnding? ending path = some (path ++ ending) := by
  have kept : dropIdle path.toList.reverse = path.toList.reverse := by
    unfold dropIdle
    split
    · next isSlash => exact absurd isSlash (noSlash _)
    · next isPoint => exact absurd isPoint (noPoint _)
    · rfl
  rw [withEnding?, isName, Option.map_some, kept, List.reverse_reverse, String.ofList_toList]

end ServiceProbe.Path
