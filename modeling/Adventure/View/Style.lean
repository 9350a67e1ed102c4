import Adventure.Game.Colors

/-!
# Styled text

A terminal shows a text in color when it stands between an escape sequence that sets its style and
one that resets it. A reset inside the text is followed by the style again, so the style holds to
the end. Where color is off a text stays as it is.
-/

namespace Adventure

/-- How a text is shown. -/
structure Style where
  bold : Bool := false
  italic : Bool := false
  underline : Bool := false
  pair : ColorPair := {}
  deriving DecidableEq, Repr

namespace Style

/-- The place of a color among the eight basic ones, after its brightness; plain has none. -/
def colorCode? : Color → Option (Bool × Nat)
  | .plain => none
  | .black => some (false, 0)
  | .red => some (false, 1)
  | .green => some (false, 2)
  | .yellow => some (false, 3)
  | .blue => some (false, 4)
  | .magenta => some (false, 5)
  | .cyan => some (false, 6)
  | .white => some (false, 7)
  | .brightBlack => some (true, 0)
  | .brightRed => some (true, 1)
  | .brightGreen => some (true, 2)
  | .brightYellow => some (true, 3)
  | .brightBlue => some (true, 4)
  | .brightMagenta => some (true, 5)
  | .brightCyan => some (true, 6)
  | .brightWhite => some (true, 7)

/-- The code that sets a color as that of the letters. -/
def foregroundCode? (color : Color) : Option Nat :=
  (colorCode? color).map fun (bright, n) => if bright then 90 + n else 30 + n

/-- The code that sets a color as the one behind the letters. -/
def backgroundCode? (color : Color) : Option Nat :=
  (colorCode? color).map fun (bright, n) => if bright then 100 + n else 40 + n

/-- The codes of a style, in the order in which they are written. -/
def codes (style : Style) : List Nat :=
  (if style.bold then [1] else []) ++ (if style.italic then [3] else [])
    ++ (if style.underline then [4] else [])
    ++ (backgroundCode? style.pair.background).toList
    ++ (foregroundCode? style.pair.foreground).toList

/-- The sequence that ends every style. -/
def reset : List Char := "\x1b[0m".toList

/-- The sequence that sets a style. -/
def opening (style : Style) : List Char :=
  '\x1b' :: '[' :: (";".intercalate (style.codes.map toString)).toList ++ ['m']

/-- Follows every reset in a text by `opening`; `skip` characters belong to the reset found last. -/
def reopen (opening : List Char) : Nat → List Char → List Char
  | _, [] => []
  | skip + 1, c :: rest =>
    if skip = 0 then c :: opening ++ reopen opening 0 rest else c :: reopen opening skip rest
  | 0, c :: rest =>
    if reset.isPrefixOf (c :: rest) then c :: reopen opening (reset.length - 1) rest
    else c :: reopen opening 0 rest

/-- The text as it is sent to the terminal. -/
def paint (style : Style) (color : Bool) (text : String) : String :=
  if !color || style.codes.isEmpty then text
  else String.ofList (style.opening ++ reopen style.opening 0 text.toList ++ reset)

/-- Titles are bold, underlined and bright yellow. -/
def title : Style := { bold := true, underline := true, pair := { foreground := .brightYellow } }

/-- Prompts are bold and bright white. -/
def prompt : Style := { bold := true, pair := { foreground := .brightWhite } }

/-- The author's name is in italics. -/
def author : Style := { italic := true }

/-- A message is shown in its pair of colors. -/
def message (pair : ColorPair) : Style := { pair := pair }

/-- What is shown before a game starts: its title and, where one is named, its author
(`title_banner`). -/
def banner (color : Bool) (gameTitle gameAuthor : String) : String :=
  title.paint color gameTitle
    ++ if gameAuthor.isEmpty then "" else "\n" ++ author.paint color ("by " ++ gameAuthor)

end Style

end Adventure
