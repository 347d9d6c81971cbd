import GosuForge.Fault
import GosuForge.Text.Blank
import GosuForge.Text.Case
import GosuForge.Text.Digit

/-!
# Styles of console texts

A style is written as words: attributes such as `bold` or `not italic`, a colour, a colour after
`on` for the background, and an address after `link`. `Style.normalForm` is one text for all ways
to write a style, by which the tags of a text are compared; a text that is no style is compared by
its small letters.
-/

namespace GosuForge

inductive StyleAttribute
  | bold
  | dim
  | italic
  | underline
  | blink
  | blink2
  | reverse
  | conceal
  | strike
  | underline2
  | frame
  | encircle
  | overline
  deriving DecidableEq, Repr

namespace StyleAttribute

/-- The attributes in the order in which a style names them. -/
def all : List StyleAttribute :=
  [bold, dim, italic, underline, blink, blink2, reverse, conceal, strike, underline2, frame,
   encircle, overline]

def word : StyleAttribute → String
  | bold => "bold"
  | dim => "dim"
  | italic => "italic"
  | underline => "underline"
  | blink => "blink"
  | blink2 => "blink2"
  | reverse => "reverse"
  | conceal => "conceal"
  | strike => "strike"
  | underline2 => "underline2"
  | frame => "frame"
  | encircle => "encircle"
  | overline => "overline"

/-- Short words for attributes. -/
def short : List (String × StyleAttribute) :=
  [("b", bold), ("d", dim), ("i", italic), ("u", underline), ("r", reverse), ("c", conceal),
   ("s", strike), ("uu", underline2), ("o", overline)]

def ofWord? (word : String) : Option StyleAttribute :=
  (all.find? fun a => a.word == word).or (short.lookup word)

end StyleAttribute

/-- A style: attributes that are on or off, the latest first, and what else is given. -/
structure Style where
  attributes : List (StyleAttribute × Bool)
  color : Option String
  background : Option String
  link : Option String
  deriving DecidableEq, Repr

namespace Style

def plain : Style := ⟨[], none, none, none⟩

def attributeWords (s : Style) : List String :=
  StyleAttribute.all.filterMap fun a =>
    (s.attributes.lookup a).map fun isOn => if isOn then a.word else "not " ++ a.word

/-- The words of a style in their fixed order. -/
def words (s : Style) : List String :=
  s.attributeWords ++ s.color.toList ++ (s.background.map fun c => ["on", c]).getD []
    ++ (s.link.map fun address => ["link", address]).getD []

def text (s : Style) : String := if s.words.isEmpty then "none" else Text.join " " s.words

/-- The colours that have names, several on a line. -/
def colorNames : List String :=
  ["black red green yellow blue magenta cyan white bright_black bright_red bright_green",
   "bright_yellow bright_blue bright_magenta bright_cyan bright_white grey0 gray0 navy_blue",
   "dark_blue blue3 blue1 dark_green deep_sky_blue4 dodger_blue3 dodger_blue2 green4",
   "spring_green4 turquoise4 deep_sky_blue3 dodger_blue1 green3 spring_green3 dark_cyan",
   "light_sea_green deep_sky_blue2 deep_sky_blue1 spring_green2 cyan3 dark_turquoise turquoise2",
   "green1 spring_green1 medium_spring_green cyan2 cyan1 dark_red deep_pink4 purple4 purple3",
   "blue_violet orange4 grey37 gray37 medium_purple4 slate_blue3 royal_blue1 chartreuse4",
   "dark_sea_green4 pale_turquoise4 steel_blue steel_blue3 cornflower_blue chartreuse3",
   "cadet_blue sky_blue3 steel_blue1 pale_green3 sea_green3 aquamarine3 medium_turquoise",
   "chartreuse2 sea_green2 sea_green1 aquamarine1 dark_slate_gray2 dark_magenta dark_violet",
   "purple light_pink4 plum4 medium_purple3 slate_blue1 yellow4 wheat4 grey53 gray53",
   "light_slate_grey light_slate_gray medium_purple light_slate_blue dark_olive_green3",
   "dark_sea_green light_sky_blue3 sky_blue2 dark_sea_green3 dark_slate_gray3 sky_blue1",
   "chartreuse1 light_green pale_green1 dark_slate_gray1 red3 medium_violet_red magenta3",
   "dark_orange3 indian_red hot_pink3 medium_orchid3 medium_orchid medium_purple2",
   "dark_goldenrod light_salmon3 rosy_brown grey63 gray63 medium_purple1 gold3 dark_khaki",
   "navajo_white3 grey69 gray69 light_steel_blue3 light_steel_blue yellow3 dark_sea_green2",
   "light_cyan3 light_sky_blue1 green_yellow dark_olive_green2 dark_sea_green1 pale_turquoise1",
   "deep_pink3 magenta2 hot_pink2 orchid medium_orchid1 orange3 light_pink3 pink3 plum3 violet",
   "light_goldenrod3 tan misty_rose3 thistle3 plum2 khaki3 light_goldenrod2 light_yellow3",
   "grey84 gray84 light_steel_blue1 yellow2 dark_olive_green1 honeydew2 light_cyan1 red1",
   "deep_pink2 deep_pink1 magenta1 orange_red1 indian_red1 hot_pink dark_orange salmon1",
   "light_coral pale_violet_red1 orchid2 orchid1 orange1 sandy_brown light_salmon1 light_pink1",
   "pink1 plum1 gold1 navajo_white1 misty_rose1 thistle1 yellow1 light_goldenrod1 khaki1 wheat1",
   "cornsilk1 grey100 gray100 grey3 gray3 grey7 gray7 grey11 gray11 grey15 gray15 grey19 gray19",
   "grey23 gray23 grey27 gray27 grey30 gray30 grey35 gray35 grey39 gray39 grey42 gray42 grey46",
   "gray46 grey50 gray50 grey54 gray54 grey58 gray58 grey62 gray62 grey66 gray66 grey70 gray70",
   "grey74 gray74 grey78 gray78 grey82 gray82 grey85 gray85 grey89 gray89 grey93 gray93"]

def isHexDigit (c : Char) : Bool := c.isDigit || ('a' ≤ c && c ≤ 'f')

/-- What stands between a word with an opening bracket and the closing bracket at the end. -/
def argument? (word : String) (cs : List Char) : Option (List Char) :=
  let opening := word.toList ++ ['(']
  if opening.isPrefixOf cs && cs.getLast? = some ')' then some ((cs.drop opening.length).dropLast)
  else none

/-- A share of a primary colour, which must be a number; `none` if it is too large. -/
def readShare (cs : List Char) : Except Fault Bool :=
  match Text.readInt? (String.ofList cs) with
  | some n => .ok (n ≤ 255)
  | none => .error .badValue

/-- Whether a text is three shares between commas, each of which must be a number. -/
def areShares (cs : List Char) : Except Fault Bool :=
  if cs.isEmpty || !cs.all (fun c => c = ',' || (Text.digitValue? c).isSome) then .ok false
  else
    match Text.splitChars ',' cs with
    | [red, green, blue] => do
      let red ← readShare red
      let green ← readShare green
      let blue ← readShare blue
      .ok (red && green && blue)
    | _ => .ok false

/-- A colour by its number: up to three digits, and at most 255. -/
def isColorNumber (cs : List Char) : Bool :=
  !cs.isEmpty && cs.length ≤ 3 && cs.all Char.isDigit
    && ((Text.readInt? (String.ofList cs)).getD 256 ≤ 255)

/-- Whether a word in small letters is a colour. -/
def isColor (word : String) : Except Fault Bool :=
  if word = "default" || colorNames.any (fun line => (Text.split ' ' line).contains word) then .ok true
  else
    let cs := word.toList
    match cs with
    | '#' :: digits => .ok (digits.length = 6 && digits.all isHexDigit)
    | _ =>
      match argument? "color" cs, argument? "rgb" cs with
      | some number, _ => .ok (isColorNumber number)
      | none, some shares => areShares shares
      | none, none => .ok false

/-- The colour that a word names, in small letters. -/
def color? (word : String) : Except Fault (Option String) := do
  let word := Text.lower word
  let found ← isColor word
  .ok (if found then some word else none)

/-- Reads the words of a style after what is read already; `none` if they are no style. -/
def ofWords (s : Style) : List String → Except Fault (Option Style)
  | [] => .ok (some s)
  | word :: rest =>
    match Text.lower word, rest with
    | "on", [] => .ok none
    | "on", word :: rest => do
      match ← color? word with
      | some c => ofWords { s with background := some c } rest
      | none => .ok none
    | "not", [] => .ok none
    | "not", word :: rest =>
      match StyleAttribute.ofWord? word with
      | some a => ofWords { s with attributes := (a, false) :: s.attributes } rest
      | none => .ok none
    | "link", [] => .ok none
    | "link", address :: rest => ofWords { s with link := some address } rest
    | word, rest =>
      match StyleAttribute.ofWord? word with
      | some a => ofWords { s with attributes := (a, true) :: s.attributes } rest
      | none => do
        match ← color? word with
        | some c => ofWords { s with color := some c } rest
        | none => .ok none

/-- The words of a text, with blanks between them. -/
def wordsOf (text : String) : List String :=
  let spaced := text.toList.map fun c => if Text.isBlank c then ' ' else c
  (Text.split ' ' (String.ofList spaced)).filter (· ≠ "")

/-- The style that a text is, if it is one. -/
def ofText? (text : String) : Except Fault (Option Style) :=
  if text = "" || Text.trim text = "none" then .ok (some plain) else ofWords plain (wordsOf text)

/-- The text by which a style is compared with others. -/
def normalForm (text : String) : Except Fault String := do
  match ← ofText? text with
  | some style => .ok style.text
  | none => .ok (Text.lower (Text.trim text))

end Style

end GosuForge
