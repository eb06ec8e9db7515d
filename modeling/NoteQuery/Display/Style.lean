import NoteQuery.Text.Basic
import NoteQuery.Text.Case
import NoteQuery.Text.Digit

/-!
# Styles

The words that describe how text looks: attributes, a colour, a background and a link.
Words that describe one style have a normal form, by which the tags of markup are matched;
words that describe none are only put into small letters.
-/
namespace NoteQuery

/-! ## Colours -/

namespace Colour

def nameLines : List String := [
  "black red green yellow blue magenta cyan white bright_black bright_red bright_green",
  "bright_yellow bright_blue bright_magenta bright_cyan bright_white grey0 gray0 navy_blue",
  "dark_blue blue3 blue1 dark_green deep_sky_blue4 dodger_blue3 dodger_blue2 green4",
  "spring_green4 turquoise4 deep_sky_blue3 dodger_blue1 green3 spring_green3 dark_cyan",
  "light_sea_green deep_sky_blue2 deep_sky_blue1 spring_green2 cyan3 dark_turquoise",
  "turquoise2 green1 spring_green1 medium_spring_green cyan2 cyan1 dark_red deep_pink4",
  "purple4 purple3 blue_violet orange4 grey37 gray37 medium_purple4 slate_blue3 royal_blue1",
  "chartreuse4 dark_sea_green4 pale_turquoise4 steel_blue steel_blue3 cornflower_blue",
  "chartreuse3 cadet_blue sky_blue3 steel_blue1 pale_green3 sea_green3 aquamarine3",
  "medium_turquoise chartreuse2 sea_green2 sea_green1 aquamarine1 dark_slate_gray2",
  "dark_magenta dark_violet purple light_pink4 plum4 medium_purple3 slate_blue1 yellow4",
  "wheat4 grey53 gray53 light_slate_grey light_slate_gray medium_purple light_slate_blue",
  "dark_olive_green3 dark_sea_green light_sky_blue3 sky_blue2 dark_sea_green3",
  "dark_slate_gray3 sky_blue1 chartreuse1 light_green pale_green1 dark_slate_gray1 red3",
  "medium_violet_red magenta3 dark_orange3 indian_red hot_pink3 medium_orchid3 medium_orchid",
  "medium_purple2 dark_goldenrod light_salmon3 rosy_brown grey63 gray63 medium_purple1 gold3",
  "dark_khaki navajo_white3 grey69 gray69 light_steel_blue3 light_steel_blue yellow3",
  "dark_sea_green2 light_cyan3 light_sky_blue1 green_yellow dark_olive_green2 dark_sea_green1",
  "pale_turquoise1 deep_pink3 magenta2 hot_pink2 orchid medium_orchid1 orange3 light_pink3",
  "pink3 plum3 violet light_goldenrod3 tan misty_rose3 thistle3 plum2 khaki3 light_goldenrod2",
  "light_yellow3 grey84 gray84 light_steel_blue1 yellow2 dark_olive_green1 honeydew2",
  "light_cyan1 red1 deep_pink2 deep_pink1 magenta1 orange_red1 indian_red1 hot_pink",
  "dark_orange salmon1 light_coral pale_violet_red1 orchid2 orchid1 orange1 sandy_brown",
  "light_salmon1 light_pink1 pink1 plum1 gold1 navajo_white1 misty_rose1 thistle1 yellow1",
  "light_goldenrod1 khaki1 wheat1 cornsilk1 grey100 gray100 grey3 gray3 grey7 gray7 grey11",
  "gray11 grey15 gray15 grey19 gray19 grey23 gray23 grey27 gray27 grey30 gray30 grey35 gray35",
  "grey39 gray39 grey42 gray42 grey46 gray46 grey50 gray50 grey54 gray54 grey58 gray58 grey62",
  "gray62 grey66 gray66 grey70 gray70 grey74 gray74 grey78 gray78 grey82 gray82 grey85 gray85",
  "grey89 gray89 grey93 gray93"]

def names : List Text := nameLines.flatMap fun line => Text.splitOn [' '] line.toList

structure BadNumber where
  part : Text
  deriving DecidableEq, Repr

def BadNumber.message (e : BadNumber) : Text :=
  "invalid literal for int() with base 10: ".toList ++ ['\''] ++ e.part ++ ['\'']

def isHexDigit (c : Char) : Bool := ('0' ≤ c && c ≤ '9') || ('a' ≤ c && c ≤ 'f')

/-- What stands between a word with an opening bracket and a closing bracket at the end. -/
def argument? (word s : Text) : Option Text :=
  if word.isPrefixOf s && s.getLast? == some ')' then some (s.drop word.length).dropLast else none

/-- A part of a colour, the digits of any script allowed. -/
def number (part : Text) : Except BadNumber Nat :=
  if part.isEmpty then .error ⟨part⟩ else .ok (Text.digitsValue part)

/-- Red, green and blue, of at most 255 each. -/
def isMixture (parts : Text) : Except BadNumber Bool :=
  if parts.isEmpty || !parts.all fun c => Text.isDigit c || c == ',' then .ok false
  else
    match Text.splitOn [','] parts with
    | [red, green, blue] => do
      let r ← number red
      let g ← number green
      let b ← number blue
      return r ≤ 255 && g ≤ 255 && b ≤ 255
    | _ => .ok false

/-- Whether a word in small letters is a colour. -/
def isColour (s : Text) : Except BadNumber Bool :=
  if s == "default".toList || names.contains s then .ok true
  else
    match s with
    | '#' :: digits => .ok (digits.length == 6 && digits.all isHexDigit)
    | s =>
      match argument? "color(".toList s, argument? "rgb(".toList s with
      | some n, _ =>
        .ok (!n.isEmpty && n.length ≤ 3 && n.all (fun c => '0' ≤ c && c ≤ '9')
          && Text.digitsValue n ≤ 255)
      | none, some parts => isMixture parts
      | none, none => .ok false

end Colour

/-! ## Styles -/

/-- A style; each attribute is set, unset or left open. -/
structure Style where
  attributes : List (Text × Bool) := []
  colour : Option Text := none
  background : Option Text := none
  link : Option Text := none
  deriving DecidableEq, Repr

namespace Style

def attributeNames : List Text :=
  ["bold", "dim", "italic", "underline", "blink", "blink2", "reverse", "conceal", "strike",
    "underline2", "frame", "encircle", "overline"].map String.toList

def shortNames : List (Text × Text) :=
  [("b", "bold"), ("d", "dim"), ("i", "italic"), ("u", "underline"), ("uu", "underline2"),
    ("r", "reverse"), ("s", "strike"), ("c", "conceal"), ("o", "overline")].map
    fun (short, long) => (short.toList, long.toList)

/-- The attribute of a long or a short name. -/
def attribute? (s : Text) : Option Text :=
  match shortNames.lookup s with
  | some name => some name
  | none => if attributeNames.contains s then some s else none

/-- Sets or unsets an attribute; the latest word on one counts. -/
def setAttribute (st : Style) (name : Text) (isOn : Bool) : Style :=
  { st with attributes := (name, isOn) :: st.attributes }

def wordsFrom (word : Text) : Text → List Text
  | [] => if word.isEmpty then [] else [word.reverse]
  | c :: rest =>
    if Text.isBlank c then
      (if word.isEmpty then [] else [word.reverse]) ++ wordsFrom [] rest
    else wordsFrom (c :: word) rest

def words (s : Text) : List Text := wordsFrom [] s

def withColour (s : Text) (f : Text → Style) : Except Colour.BadNumber (Option Style) := do
  let s := Text.lower s
  return if ← Colour.isColour s then some (f s) else none

def ofWords? (st : Style) : List Text → Except Colour.BadNumber (Option Style)
  | [] => .ok (some st)
  | [w] =>
    let word := Text.lower w
    if ["on".toList, "not".toList, "link".toList].contains word then .ok none
    else
      match attribute? word with
      | some name => .ok (some (st.setAttribute name true))
      | none => withColour word fun c => { st with colour := some c }
  | w :: v :: rest =>
    let word := Text.lower w
    if word == "on".toList then do
      match ← withColour v fun c => { st with background := some c } with
      | some st => ofWords? st rest
      | none => return none
    else if word == "not".toList then
      match attribute? v with
      | some name => ofWords? (st.setAttribute name false) rest
      | none => .ok none
    else if word == "link".toList then ofWords? { st with link := some v } rest
    else
      match attribute? word with
      | some name => ofWords? (st.setAttribute name true) (v :: rest)
      | none => do
        match ← withColour word fun c => { st with colour := some c } with
        | some st => ofWords? st (v :: rest)
        | none => return none

/-- The words of a style in their normal order. -/
def toText (st : Style) : Text :=
  let attributes := attributeNames.filterMap fun name =>
    (st.attributes.lookup name).map fun isOn => if isOn then name else "not ".toList ++ name
  let phrases := attributes ++ st.colour.toList
    ++ (st.background.map ("on ".toList ++ ·)).toList ++ (st.link.map ("link ".toList ++ ·)).toList
  if phrases.isEmpty then "none".toList else Text.join [' '] phrases

/-- The style that a text describes, if it describes any; `none` and blanks describe the
plain one. -/
def ofText? (s : Text) : Except Colour.BadNumber (Option Style) :=
  if Text.trim s == "none".toList then .ok (some {}) else ofWords? {} (words s)

def normalName (s : Text) : Except Colour.BadNumber Text := do
  match ← ofText? s with
  | some st => return st.toText
  | none => return Text.lower (Text.trim s)

end Style

end NoteQuery
