import JqFlow.Number.Decimal

/-!
# Style names

A style is named by words: attributes such as `bold`, which `not` takes away, a colour, a background
colour after `on`, and a target after `link`. Names of the same style have one normal form. A name
that is of no style stands for itself.

## Main definitions

- `Style`, `Style.ofWords`: a style, and the style of a name
- `Style.normalName`: the normal form of a name
- `ComponentFault`: a component of a colour that is not a number
-/

namespace JqFlow

/-- Attributes that are set or taken away, last one first, and what else belongs to a style. -/
structure Style where
  attributes : List (Text × Bool)
  colour : Option Text
  background : Option Text
  link : Option Text

/-- Why a component of a mixed colour is not read as a number. -/
inductive ComponentFault
  /-- It has no digits. -/
  | missing
  /-- It has so many digits, more than are read. -/
  | tooLong (digits : Nat)
  deriving DecidableEq

/-- The greatest number of digits that are read as a number. -/
def ComponentFault.digitLimit : Nat := 4300

/-- What is wrong with a component, in words. -/
def ComponentFault.message : ComponentFault → Text
  | missing => "invalid literal for int() with base 10: ''"
  | tooLong digits =>
    "Exceeds the limit (" ++ Text.ofNat digitLimit ++
      " digits) for integer string conversion: value has " ++ Text.ofNat digits ++
      " digits; use sys.set_int_max_str_digits() to increase the limit"

/-- Why a name is of no style. -/
inductive StyleFault
  /-- A word means nothing. -/
  | unknown
  /-- A component of a colour is not read. -/
  | component (f : ComponentFault)

namespace Style

/-- The attributes in the order in which they are named. -/
def attributeNames : List Text :=
  ["bold", "dim", "italic", "underline", "blink", "blink2", "reverse", "conceal", "strike",
    "underline2", "frame", "encircle", "overline"]

/-- The short names of attributes. -/
def shortNames : List (Text × Text) :=
  [("b", "bold"), ("d", "dim"), ("i", "italic"), ("u", "underline"), ("r", "reverse"),
    ("c", "conceal"), ("s", "strike"), ("uu", "underline2"), ("o", "overline")]

/-- The attribute of a word. -/
def attribute? (word : Text) : Option Text :=
  (shortNames.lookup word).or (attributeNames.find? (· = word))

/-- The colours that have a name. -/
def colourNames : List Text :=
  Text.words "black red green yellow blue magenta cyan white bright_black bright_red bright_green
    bright_yellow bright_blue bright_magenta bright_cyan bright_white grey0 gray0 navy_blue
    dark_blue blue3 blue1 dark_green deep_sky_blue4 dodger_blue3 dodger_blue2 green4 spring_green4
    turquoise4 deep_sky_blue3 dodger_blue1 green3 spring_green3 dark_cyan light_sea_green
    deep_sky_blue2 deep_sky_blue1 spring_green2 cyan3 dark_turquoise turquoise2 green1
    spring_green1 medium_spring_green cyan2 cyan1 dark_red deep_pink4 purple4 purple3 blue_violet
    orange4 grey37 gray37 medium_purple4 slate_blue3 royal_blue1 chartreuse4 dark_sea_green4
    pale_turquoise4 steel_blue steel_blue3 cornflower_blue chartreuse3 cadet_blue sky_blue3
    steel_blue1 pale_green3 sea_green3 aquamarine3 medium_turquoise chartreuse2 sea_green2
    sea_green1 aquamarine1 dark_slate_gray2 dark_magenta dark_violet purple light_pink4 plum4
    medium_purple3 slate_blue1 yellow4 wheat4 grey53 gray53 light_slate_grey light_slate_gray
    medium_purple light_slate_blue dark_olive_green3 dark_sea_green light_sky_blue3 sky_blue2
    dark_sea_green3 dark_slate_gray3 sky_blue1 chartreuse1 light_green pale_green1
    dark_slate_gray1 red3 medium_violet_red magenta3 dark_orange3 indian_red hot_pink3
    medium_orchid3 medium_orchid medium_purple2 dark_goldenrod light_salmon3 rosy_brown grey63
    gray63 medium_purple1 gold3 dark_khaki navajo_white3 grey69 gray69 light_steel_blue3
    light_steel_blue yellow3 dark_sea_green2 light_cyan3 light_sky_blue1 green_yellow
    dark_olive_green2 dark_sea_green1 pale_turquoise1 deep_pink3 magenta2 hot_pink2 orchid
    medium_orchid1 orange3 light_pink3 pink3 plum3 violet light_goldenrod3 tan misty_rose3
    thistle3 plum2 khaki3 light_goldenrod2 light_yellow3 grey84 gray84 light_steel_blue1 yellow2
    dark_olive_green1 honeydew2 light_cyan1 red1 deep_pink2 deep_pink1 magenta1 orange_red1
    indian_red1 hot_pink dark_orange salmon1 light_coral pale_violet_red1 orchid2 orchid1 orange1
    sandy_brown light_salmon1 light_pink1 pink1 plum1 gold1 navajo_white1 misty_rose1 thistle1
    yellow1 light_goldenrod1 khaki1 wheat1 cornsilk1 grey100 gray100 grey3 gray3 grey7 gray7
    grey11 gray11 grey15 gray15 grey19 gray19 grey23 gray23 grey27 gray27 grey30 gray30 grey35
    gray35 grey39 gray39 grey42 gray42 grey46 gray46 grey50 gray50 grey54 gray54 grey58 gray58
    grey62 gray62 grey66 gray66 grey70 gray70 grey74 gray74 grey78 gray78 grey82 gray82 grey85
    gray85 grey89 gray89 grey93 gray93"

/-- The part of a text between a beginning and an end. -/
def between? (start stop t : Text) : Option Text := do
  let rest ← Text.dropStart? start t
  if stop.isSuffixOf rest then some (rest.take (rest.length - stop.length)) else none

/-- The value of decimal digits of any script. -/
def digitsValue (digits : Text) : Nat :=
  Decimal.natural 10 (digits.map Decimal.toAscii)

/-- The greatest value of a component of a colour, and the greatest number of a colour. -/
def greatestPart : Nat := 255

/-- Checks six hexadecimal digits after `#`. -/
def isHexColour (t : Text) : Bool :=
  match t with
  | c :: digits =>
    c = '#' && digits.length = 6 && digits.all fun d => d.hexValue?.isSome && d.toLower = [d]
  | [] => false

/-- Checks the number of a colour. -/
def isNumberedColour (t : Text) : Bool :=
  match between? "color(" ")" t with
  | some digits =>
    digits ≠ [] && digits.length ≤ 3 && digits.all CodePoint.isAsciiDigit &&
      digitsValue digits ≤ greatestPart
  | none => false

/-- The value of a component of a mixed colour. -/
def componentValue (digits : Text) : Except StyleFault Nat :=
  if digits = [] then .error (.component .missing)
  else if digits.length > ComponentFault.digitLimit then
    .error (.component (.tooLong digits.length))
  else .ok (digitsValue digits)

/-- Checks a mixed colour. -/
def checkMixture (t : Text) : Except StyleFault Unit :=
  match between? "rgb(" ")" t with
  | none => .error .unknown
  | some inside => do
    let parts := Text.splitOn ',' inside
    if (inside.all fun c => c = CodePoint.scalar ',' || c.isDecimalDigit) ∧ parts.length = 3 then
      let values ← parts.mapM componentValue
      if values.all (· ≤ greatestPart) then return () else throw .unknown
    else throw .unknown

/-- Checks a colour in lower case. -/
def checkColour (t : Text) : Except StyleFault Unit :=
  if t = "default" ∨ colourNames.contains t ∨ isHexColour t ∨ isNumberedColour t then .ok ()
  else checkMixture t

/-- The style of words after those that gave `s`. -/
def ofWords (s : Style) : List Text → Except StyleFault Style
  | [] => .ok s
  | written :: rest =>
    let word := Text.toLower written
    if word = "on" then
      match rest with
      | [] => .error .unknown
      | colour :: rest => do
        checkColour (Text.toLower colour)
        ofWords { s with background := some (Text.toLower colour) } rest
    else if word = "not" then
      match rest with
      | [] => .error .unknown
      | name :: rest =>
        match attribute? name with
        | some a => ofWords { s with attributes := (a, false) :: s.attributes } rest
        | none => .error .unknown
    else if word = "link" then
      match rest with
      | [] => .error .unknown
      | target :: rest => ofWords { s with link := some target } rest
    else
      match attribute? word with
      | some a => ofWords { s with attributes := (a, true) :: s.attributes } rest
      | none => do
        checkColour word
        ofWords { s with colour := some word } rest

/-- The name of a style that sets nothing. -/
def noStyleName : Text := "none"

/-- Words, if there are any, after another one. -/
def phrase (word : Text) (t : Option Text) : List Text :=
  t.toList.map fun t => word ++ " " ++ t

/-- The name of a style in its normal form. -/
def name (s : Style) : Text :=
  let attributes := attributeNames.filterMap fun a =>
    (s.attributes.lookup a).map fun isSet => if isSet then a else "not " ++ a
  let words := attributes ++ s.colour.toList ++ phrase "on" s.background ++ phrase "link" s.link
  if words = [] then noStyleName else Text.join " " words

/-- The normal form of a name. A name of no style is taken in lower case without the white space
around it. -/
def normalName (t : Text) : Except ComponentFault Text :=
  if Text.trim t = noStyleName then .ok noStyleName
  else
    match ofWords ⟨[], none, none, none⟩ (Text.words t) with
    | .ok s => .ok s.name
    | .error .unknown => .ok (Text.toLower (Text.trim t))
    | .error (.component f) => .error f

end Style

end JqFlow
