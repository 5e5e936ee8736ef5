/-
Style definitions: attributes that are switched on or off, a color, a
background color and a link, written as words. Colors are given by name, by six
hexadecimal digits, by number, or by three components. Two definitions of one
effect have one normal form, by which a closing tag finds the tag it closes. The
words and the normal form are those of the `rich` package (see
`Console.Markup`).

Consumed by `Console.Markup`.
-/
import SourceAtlas.Pattern.Search
import SourceAtlas.Table
import SourceAtlas.Text.Case
import SourceAtlas.Text.Integer

namespace SourceAtlas.Console

open Pattern

-- ============================================================== colors

/-- The names of colors, with white space between them. -/
def colorNames : String := "
black red green yellow blue magenta cyan white bright_black bright_red
bright_green bright_yellow bright_blue bright_magenta bright_cyan bright_white
grey0 gray0 navy_blue dark_blue blue3 blue1 dark_green deep_sky_blue4
dodger_blue3 dodger_blue2 green4 spring_green4 turquoise4 deep_sky_blue3
dodger_blue1 green3 spring_green3 dark_cyan light_sea_green deep_sky_blue2
deep_sky_blue1 spring_green2 cyan3 dark_turquoise turquoise2 green1
spring_green1 medium_spring_green cyan2 cyan1 dark_red deep_pink4 purple4
purple3 blue_violet orange4 grey37 gray37 medium_purple4 slate_blue3 royal_blue1
chartreuse4 dark_sea_green4 pale_turquoise4 steel_blue steel_blue3
cornflower_blue chartreuse3 cadet_blue sky_blue3 steel_blue1 pale_green3
sea_green3 aquamarine3 medium_turquoise chartreuse2 sea_green2 sea_green1
aquamarine1 dark_slate_gray2 dark_magenta dark_violet purple light_pink4 plum4
medium_purple3 slate_blue1 yellow4 wheat4 grey53 gray53 light_slate_grey
light_slate_gray medium_purple light_slate_blue dark_olive_green3 dark_sea_green
light_sky_blue3 sky_blue2 dark_sea_green3 dark_slate_gray3 sky_blue1 chartreuse1
light_green pale_green1 dark_slate_gray1 red3 medium_violet_red magenta3
dark_orange3 indian_red hot_pink3 medium_orchid3 medium_orchid medium_purple2
dark_goldenrod light_salmon3 rosy_brown grey63 gray63 medium_purple1 gold3
dark_khaki navajo_white3 grey69 gray69 light_steel_blue3 light_steel_blue
yellow3 dark_sea_green2 light_cyan3 light_sky_blue1 green_yellow
dark_olive_green2 dark_sea_green1 pale_turquoise1 deep_pink3 magenta2 hot_pink2
orchid medium_orchid1 orange3 light_pink3 pink3 plum3 violet light_goldenrod3
tan misty_rose3 thistle3 plum2 khaki3 light_goldenrod2 light_yellow3 grey84
gray84 light_steel_blue1 yellow2 dark_olive_green1 honeydew2 light_cyan1 red1
deep_pink2 deep_pink1 magenta1 orange_red1 indian_red1 hot_pink dark_orange
salmon1 light_coral pale_violet_red1 orchid2 orchid1 orange1 sandy_brown
light_salmon1 light_pink1 pink1 plum1 gold1 navajo_white1 misty_rose1 thistle1
yellow1 light_goldenrod1 khaki1 wheat1 cornsilk1 grey100 gray100 grey3 gray3
grey7 gray7 grey11 gray11 grey15 gray15 grey19 gray19 grey23 gray23 grey27
gray27 grey30 gray30 grey35 gray35 grey39 gray39 grey42 gray42 grey46 gray46
grey50 gray50 grey54 gray54 grey58 gray58 grey62 gray62 grey66 gray66 grey70
gray70 grey74 gray74 grey78 gray78 grey82 gray82 grey85 gray85 grey89 gray89
grey93 gray93
"

/-- Why a word is no color. -/
inductive ColorError where
  /-- The word has no form of a color. -/
  | unknown
  /-- One of three components is no number. -/
  | noComponent
  deriving DecidableEq, Repr

/-- Six hexadecimal digits after a number sign. -/
def hexColor : Pattern :=
  let digit := char fun c => c.isDigit || ('a' ≤ c && c ≤ 'f')
  lit "#" ++ digit ++ digit ++ digit ++ digit ++ digit ++ digit

/-- A color number of up to three digits. -/
def numberedColor : Pattern :=
  let digit := char Char.isDigit
  lit "color(" ++ group .body (digit ++ opt (digit ++ opt digit)) ++ lit ")"

/-- Components in parentheses. -/
def componentColor : Pattern :=
  lit "rgb(" ++ group .body
    (many1 fun c => (Text.digitValue? c).isSome || Text.isBlank c || c == ',')
    ++ lit ")"

/-- Whether a number fits a component. -/
def fitsByte (n : Int) : Bool := n ≤ 255

/-- Checks the components of a color: three numbers up to 255. -/
def checkComponents (body : Text) : Except ColorError Unit :=
  match Text.split ',' body with
  | [red, green, blue] =>
    match Text.integer? red, Text.integer? green, Text.integer? blue with
    | some r, some g, some b =>
      if fitsByte r && fitsByte g && fitsByte b then .ok () else .error .unknown
    | _, _, _ => .error .noComponent
  | _ => .error .unknown

/-- The name of the color that a word denotes: the word in small letters. -/
def color (word : Text) : Except ColorError Text :=
  let name := Text.trim (Text.smalls word)
  if name = "default".toList || (Text.words colorNames.toList).contains name
    then .ok name
  else if (hexColor.matchWhole name).isSome then .ok name
  else match numberedColor.matchWhole name with
    | some m =>
        if (Text.integer? (m.get .body)).any fitsByte then .ok name
        else .error .unknown
    | none => match componentColor.matchWhole name with
      | some m => (checkComponents (m.get .body)).map fun _ => name
      | none => .error .unknown

-- ============================================================== styles

/-- The attributes, in the order of the normal form. -/
def attributes : List String :=
  ["bold", "dim", "italic", "underline", "blink", "blink2", "reverse",
    "conceal", "strike", "underline2", "frame", "encircle", "overline"]

/-- Short names of attributes. -/
def shortAttributes : List (String × String) :=
  [("d", "dim"), ("b", "bold"), ("i", "italic"), ("u", "underline"),
    ("r", "reverse"), ("c", "conceal"), ("s", "strike"), ("uu", "underline2"),
    ("o", "overline")]

/-- The attribute that a word names. -/
def attribute? (word : Text) : Option Text :=
  match attributes.find? (·.toList == word) with
  | some name => some name.toList
  | none => (shortAttributes.find? (·.1.toList == word)).map (·.2.toList)

/-- A style. -/
structure Style where
  switches : Table Bool := .empty
  color : Option Text := none
  background : Option Text := none
  link : Option Text := none
  deriving DecidableEq, Repr

namespace Style

/-- Adds what the words of a definition say. -/
def addWords : Style → List Text → Except ColorError Style
  | s, [] => .ok s
  | s, word :: rest =>
    let name := Text.smalls word
    if name = "on".toList then
      match rest with
      | [] => .error .unknown
      | other :: more => do
        let found ← Console.color other
        addWords { s with background := some found } more
    else if name = "not".toList then
      match rest with
      | [] => .error .unknown
      | other :: more =>
        match attribute? other with
        | some a => addWords { s with switches := s.switches.put a false } more
        | none => .error .unknown
    else if name = "link".toList then
      match rest with
      | [] => .error .unknown
      | other :: more => addWords { s with link := some other } more
    else match attribute? name with
      | some a => addWords { s with switches := s.switches.put a true } rest
      | none => do
        let found ← Console.color name
        addWords { s with color := some found } rest

/-- The style that a definition denotes. -/
def read (definition : Text) : Except ColorError Style :=
  if Text.trim definition = "none".toList then .ok {}
  else addWords {} (Text.words definition)

/-- The words of the normal form. -/
def normalWords (s : Style) : List Text :=
  (attributes.filterMap fun name => (s.switches.get? name.toList).map fun on =>
      if on then name.toList else "not ".toList ++ name.toList)
    ++ s.color.toList
    ++ (s.background.map fun b => "on ".toList ++ b).toList
    ++ (s.link.map fun l => "link ".toList ++ l).toList

/-- The normal form of a style. -/
def text (s : Style) : Text :=
  if s.normalWords.isEmpty then "none" else Text.join [' '] s.normalWords

/-- Why a definition has no normal form: a component of a color is no
number. -/
structure Broken where
  deriving DecidableEq, Repr

/-- The normal form of a definition; one that denotes no style is only put
into small letters. -/
def normalize (definition : Text) : Except Broken Text :=
  match read definition with
  | .ok s => .ok s.text
  | .error .unknown => .ok (Text.smalls (Text.trim definition))
  | .error .noComponent => .error {}

end Style

end SourceAtlas.Console
