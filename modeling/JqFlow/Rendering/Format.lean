import JqFlow.Files.Path
import JqFlow.Text.Casing

/-!
# Output formats

The suffix of a path, in any case, tells the format of the file: an image of one of three kinds, or
the diagram script itself.

## Main definitions

- `OutputFormat`, `OutputFormat.suffix`: the formats
- `Path.format?`: the format that a path asks for
- `Path.scriptPath?`: where the script of a diagram is kept
-/

namespace JqFlow

/-- What is written to the output. -/
inductive OutputFormat
  | svg
  | png
  | pdf
  | script
  deriving DecidableEq

namespace OutputFormat

/-- All formats. -/
def all : List OutputFormat := [svg, png, pdf, script]

/-- The suffix of the files of a format. -/
def suffix : OutputFormat → Text
  | svg => ".svg"
  | png => ".png"
  | pdf => ".pdf"
  | script => ".d2"

/-- The suffixes of all formats. -/
def suffixes : List Text := all.map suffix

/-- The format of a suffix in lower case. -/
def ofSuffix? (s : Text) : Option OutputFormat :=
  all.find? fun f => f.suffix = s

end OutputFormat

/-- The suffix of a path in lower case. -/
def Path.formatSuffix (p : Path) : Text :=
  Text.toLower p.suffix

/-- The format that a path asks for. -/
def Path.format? (p : Path) : Option OutputFormat :=
  OutputFormat.ofSuffix? p.formatSuffix

/-- The path beside an output where its script is kept. A path without a name has none. -/
def Path.scriptPath? (p : Path) : Option Path :=
  p.withSuffix? OutputFormat.script.suffix

end JqFlow
