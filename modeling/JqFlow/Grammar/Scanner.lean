import JqFlow.Grammar.Derivation
import JqFlow.Text.Category

/-!
# Cutting a query into tokens

Which terminals are tried at a place depends on what the automaton has read so far. Of those that
match, one with an open-ended spelling comes first, then the longer of two fixed spellings. Words
are keywords only where the automaton expects them; where it expects a name as well, the whole name
has to be the keyword.

## Main definitions

- `Position`, `Cursor`, `Token`
- `Terminal.match?`: the text of a terminal at the beginning of a text
- `scan?`: the token at the beginning of a text, of those that are expected
- `Cursor.next`: the next token, after what stands between tokens
-/

namespace JqFlow

/-- A place in a query: how many code points come before it, and its line and column, counted
from 1. -/
structure Position where
  offset : Nat
  line : Nat
  column : Nat
  deriving DecidableEq, Inhabited

namespace Position

/-- The beginning of a query. -/
def start : Position := ⟨0, 1, 1⟩

/-- The place after one code point. -/
def step (p : Position) (c : CodePoint) : Position :=
  if c = '\n' then ⟨p.offset + 1, p.line + 1, 1⟩ else ⟨p.offset + 1, p.line, p.column + 1⟩

/-- The place after a text. -/
def advance (p : Position) (t : Text) : Position :=
  t.foldl step p

end Position

/-- A token with the place where it begins. -/
structure Token where
  lexeme : Lexeme
  position : Position
  deriving DecidableEq, Inhabited

/-- A place in a query, with the text from there on. -/
structure Cursor where
  position : Position
  rest : Text
  deriving Inhabited

/-- The cursor after the given number of code points. -/
def Cursor.skip (cursor : Cursor) (n : Nat) : Cursor :=
  ⟨cursor.position.advance (cursor.rest.take n), cursor.rest.drop n⟩

/-! ### The spellings of the terminals -/

namespace Spelling

/-- May this begin a name? -/
def isNameStart (c : CodePoint) : Bool :=
  c.isAsciiLetter || c = '_'

/-- May this stand in a name? -/
def isNamePart (c : CodePoint) : Bool :=
  c.isAsciiLetter || c.isAsciiDigit || c = '_'

/-- Is this a blank between tokens? -/
def isBlank (c : CodePoint) : Bool :=
  c = ' ' || c = '\t' || c = '\x0c' || c = '\r' || c = '\n'

/-- The longest plain name at the beginning of a text. -/
def plainName? : Text → Option Text
  | [] => none
  | c :: rest => if isNameStart c then some (c :: rest.takeWhile isNamePart) else none

/-- The further parts of a name, each after `::`. The fuel bounds their number. -/
def nameParts : Nat → Text → Text
  | fuel + 1, .scalar ':' :: .scalar ':' :: rest =>
    match plainName? rest with
    | some part => "::" ++ part ++ nameParts fuel (rest.drop part.length)
    | none => []
  | _, _ => []

/-- The longest name at the beginning of a text. -/
def name? (t : Text) : Option Text :=
  (plainName? t).map fun first => first ++ nameParts t.length (t.drop first.length)

/-- The longest run of decimal digits at the beginning of a text. -/
def digits (t : Text) : Text :=
  t.takeWhile CodePoint.isDecimalDigit

/-- The fraction at the beginning of a text; it may be empty. -/
def fraction : Text → Text
  | .scalar '.' :: rest => if digits rest = [] then [] else "." ++ digits rest
  | _ => []

/-- The exponent at the beginning of a text; it may be empty. -/
def exponent : Text → Text
  | c :: rest =>
    if c = 'e' || c = 'E' then
      let sign := (rest.take 1).takeWhile fun (s : CodePoint) => s = '+' || s = '-'
      let ds := digits (rest.drop sign.length)
      if ds = [] then [] else c :: sign ++ ds
    else []
  | [] => []

/-- The longest number at the beginning of a text. -/
def number? (t : Text) : Option Text :=
  let whole := digits t
  if whole = [] then none
  else
    let frac := fraction (t.drop whole.length)
    let expo := exponent (t.drop (whole.length + frac.length))
    some (whole ++ frac ++ expo)

/-- What is left of a string literal after its opening quote, up to the closing one. A backslash
may stand before anything but the end of a line. -/
def stringRest? : Text → Option Text
  | .scalar '"' :: _ => some ['"']
  | .scalar '\\' :: c :: rest =>
    if c = '\n' then none else (stringRest? rest).map fun t => .scalar '\\' :: c :: t
  | [.scalar '\\'] => none
  | c :: rest => (stringRest? rest).map (c :: ·)
  | [] => none

/-- The string literal at the beginning of a text. -/
def string? : Text → Option Text
  | .scalar '"' :: rest => (stringRest? rest).map (.scalar '"' :: ·)
  | _ => none

/-- A sign with a plain name at the beginning of a text. -/
def signed? (sign : CodePoint) : Text → Option Text
  | [] => none
  | c :: rest => if c = sign then (plainName? rest).map (c :: ·) else none

/-- The name of a format at the beginning of a text. -/
def format? : Text → Option Text
  | .scalar '@' :: rest =>
    let part := rest.takeWhile isNamePart
    if part = [] then none else some (.scalar '@' :: part)
  | _ => none

/-- The blanks at the beginning of a text. -/
def blanks? (t : Text) : Option Text :=
  let part := t.takeWhile isBlank
  if part = [] then none else some part

/-- The comment at the beginning of a text. -/
def comment? : Text → Option Text
  | .scalar '#' :: rest => some (.scalar '#' :: rest.takeWhile fun c => c != '\n')
  | _ => none

end Spelling

namespace Terminal

/-- The text of a terminal at the beginning of a text. -/
def match? (terminal : Terminal) (t : Text) : Option Text :=
  match terminal with
  | field => Spelling.signed? '.' t
  | varName => Spelling.signed? '$' t
  | format => Spelling.format? t
  | ident => Spelling.name? t
  | number => Spelling.number? t
  | string => Spelling.string? t
  | blank => Spelling.blanks? t
  | comment => Spelling.comment? t
  | _ => terminal.literal?.bind fun literal => if literal.isPrefixOf t then some literal else none

/-- The terminals in the order in which they are tried. -/
def inMatchOrder : List Terminal :=
  [field, varName, format, ident, number, string, blank, comment] ++ signs ++ keywords

/-- The keyword of a word. -/
def keyword? (word : Text) : Option Terminal :=
  keywords.find? fun k => k.literal? = some word

end Terminal

/-- A name as a keyword, if it is one that is expected. -/
def promote (expects : Terminal → Bool) (word : Text) : Terminal :=
  match Terminal.keyword? word with
  | some k => if expects k then k else .ident
  | none => .ident

/-- The token at the beginning of a text, of those that are expected. -/
def scan? (expects : Terminal → Bool) (t : Text) : Option Lexeme :=
  Terminal.inMatchOrder.findSome? fun terminal =>
    if expects terminal || Terminal.ignored.contains terminal then
      (terminal.match? t).map fun text =>
        ⟨if terminal = .ident then promote expects text else terminal, text⟩
    else none

/-- What comes next in a query: a token, the end, or a place where nothing that is expected
matches. -/
inductive Next
  | token (token : Token) (after : Cursor)
  | atEnd
  | stuck (place : Cursor)

/-- What comes next, after what stands between tokens. The fuel bounds the number of things
skipped. -/
def Cursor.nextWithin (expects : Terminal → Bool) : Nat → Cursor → Next
  | 0, cursor => .stuck cursor
  | fuel + 1, cursor =>
    if cursor.rest = [] then .atEnd
    else
      match scan? expects cursor.rest with
      | none => .stuck cursor
      | some lexeme =>
        let after := cursor.skip lexeme.text.length
        if Terminal.ignored.contains lexeme.terminal then after.nextWithin expects fuel
        else .token ⟨lexeme, cursor.position⟩ after

/-- What comes next, of what is expected, after what stands between tokens. -/
def Cursor.next (expects : Terminal → Bool) (cursor : Cursor) : Next :=
  cursor.nextWithin expects (cursor.rest.length + 1)

end JqFlow
