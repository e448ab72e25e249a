import JqFlow.Text.Basic

/-!
# Lines

A text that is read from a file or from a program may end its lines in three ways; inside the
library a line ends with a line feed alone.

## Main definitions

- `Text.normalizeLineEnds`: every line end as a line feed
- `Text.firstLine`: what stands before the first line break of any kind
-/

namespace JqFlow

/-- Does a line end at this code point? Beside line feed and carriage return these are the vertical
tab, the form feed, three separators of ASCII, the next-line control, and the separators of lines
and of paragraphs. -/
def CodePoint.isLineBreak (c : CodePoint) : Bool :=
  (0x0A ≤ c.toNat && c.toNat ≤ 0x0D) || (0x1C ≤ c.toNat && c.toNat ≤ 0x1E) ||
    c.toNat = 0x85 || c.toNat = 0x2028 || c.toNat = 0x2029

namespace Text

/-- The text with carriage returns, alone or before a line feed, turned into line feeds. -/
def normalizeLineEnds : Text → Text
  | .scalar '\r' :: .scalar '\n' :: rest => CodePoint.scalar '\n' :: normalizeLineEnds rest
  | .scalar '\r' :: rest => CodePoint.scalar '\n' :: normalizeLineEnds rest
  | c :: rest => c :: normalizeLineEnds rest
  | [] => []

/-- The text before the first line break. -/
def firstLine (t : Text) : Text :=
  t.takeWhile (!CodePoint.isLineBreak ·)

end Text

end JqFlow
