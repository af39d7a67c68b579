import ServiceProbe.Config.Toml
import ServiceProbe.Error
import ServiceProbe.Files.Path

/-!
# Configuration files

A configuration file is written in a format that is known by the ending of its name. `Files` is what there is to
be read: the texts of files by their paths, and how a text is read in its format. Only TOML is read here; the
readers of the other formats come with the files, since nothing depends on how they read.

A file can be asked for by a stem, that is without the ending of its name. Then the formats are tried one after the
other, in an order that is not fixed and may change from one start of the program to the next.
-/

namespace ServiceProbe.Config

/-- The settings at the top of a file under their names, in the order in which they are put over others. -/
abbrev Layer := List (String × Setting)

/-- A format other than TOML. -/
inductive ForeignFormat where
  | json | yaml | ini | ron | json5
deriving DecidableEq

/-- A format of configuration files. -/
inductive FileFormat where
  | toml
  | foreign (format : ForeignFormat)
deriving DecidableEq

namespace FileFormat

/-- All formats. -/
def all : List FileFormat :=
  [.toml, .foreign .json, .foreign .yaml, .foreign .ini, .foreign .ron, .foreign .json5]

/-- What the names of files of a format end in. -/
def endings : FileFormat → List String
  | toml => [".toml"]
  | foreign .json => [".json"]
  | foreign .yaml => [".yaml", ".yml"]
  | foreign .ini => [".ini"]
  | foreign .ron => [".ron"]
  | foreign .json5 => [".json5"]

/-- The format of the file at a path. An ending that is the whole name of the file tells nothing. -/
def of? (path : String) : Option FileFormat :=
  (Path.fileName? path).bind fun name =>
    all.find? fun format => format.endings.any fun ending => name.endsWith ending && name ≠ ending

end FileFormat

/-- The files at hand. -/
structure Files where
  /-- The text of the file at a path. -/
  text? : String → Option String
  /-- The order in which the formats are tried. -/
  order : List FileFormat
  perm_all : order.Perm FileFormat.all
  /-- What a text in another format than TOML says, each setting with the origin, or what is wrong with it. -/
  readForeign : ForeignFormat → Origin → String → Except String Layer

namespace Files

/-- Files with these texts, of which only those in TOML can be read. -/
def ofTexts (text? : String → Option String) : Files where
  text?
  order := FileFormat.all
  perm_all := .refl _
  readForeign _ _ _ := .error "no reader for this format"

/-- The endings of file names, in the order in which they are tried. -/
def endings (files : Files) : List String :=
  files.order.flatMap FileFormat.endings

/-- The file that a stem stands for, if there is one, with its text: the one at the very path, else the first with
an ending behind it. A file of no known format counts as none, but hides the others. -/
def named? (files : Files) (stem : String) : Option (String × String) :=
  match files.text? stem with
  | some text => if (FileFormat.of? stem).isSome then some (stem, text) else none
  | none =>
    files.endings.findSome? fun ending => do
      let path ← Path.withEnding? ending stem
      (files.text? path).map (path, ·)

/-- The text of a file without a byte order mark at its start. -/
def unmarked (text : String) : String :=
  match text.toList with
  | '\ufeff' :: rest => String.ofList rest
  | _ => text

/-- The settings of a file. Their origin is its plain path. The mark of the file is none of the document's, which
may begin with a mark of its own. -/
def read (files : Files) (path text : String) : Except Error Layer :=
  let origin := some (Path.plain path)
  match FileFormat.of? path with
  | none => .error (.config (.unknownFormat path))
  | some .toml => ((Toml.read? origin (unmarked text)).map .ok).getD (.error (.config .unreadableFile))
  | some (.foreign format) =>
    (files.readForeign format origin (unmarked text)).mapError fun fault =>
      .config (.other s!"{fault} in {Path.plain path}")

end Files

end ServiceProbe.Config
