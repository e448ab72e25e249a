import JqFlow.Text.Category

/-!
# Texts made visible

In messages a text stands in quotes, with every code point that cannot be printed written as an
escape, so that any text can be read off the message.

## Main definitions

- `Visible.quote`: a text in quotes
-/

namespace JqFlow.Visible

/-- The quote to use for a text: a single quote, unless there are single quotes and no double ones
in it. -/
def quoteFor (t : Text) : CodePoint :=
  if t.contains '\'' && !t.contains '"' then '"' else '\''

/-- How one code point is written between the given quotes. -/
def encodeOne (quote c : CodePoint) : Text :=
  if c = quote || c = '\\' then ['\\', c]
  else if c = '\t' then "\\t"
  else if c = '\n' then "\\n"
  else if c = '\r' then "\\r"
  else if c.isPrintable then [c]
  else if c.toNat ≤ 0xFF then "\\x" ++ Text.ofNatHex 2 c.toNat
  else if c.toNat ≤ 0xFFFF then "\\u" ++ Text.ofNatHex 4 c.toNat
  else "\\U" ++ Text.ofNatHex 8 c.toNat

/-- A text in quotes, with escapes for what cannot be printed. -/
def quote (t : Text) : Text :=
  let q := quoteFor t
  [q] ++ t.replaceEach (encodeOne q) ++ [q]

end JqFlow.Visible
