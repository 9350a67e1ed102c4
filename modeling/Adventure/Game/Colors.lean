/-!
# Colors of a game

Each of the three categories of messages has a pair of colors. The plain color leaves the terminal
as it is.
-/

namespace Adventure

/-- The colors of a terminal. -/
inductive Color
  | plain | black | red | green | yellow | blue | magenta | cyan | white
  | brightBlack | brightRed | brightGreen | brightYellow | brightBlue | brightMagenta
  | brightCyan | brightWhite
  deriving DecidableEq, Repr, Inhabited

/-- The color of the letters and the color behind them. -/
structure ColorPair where
  foreground : Color := .plain
  background : Color := .plain
  deriving DecidableEq, Repr, Inhabited

/-- The colors of what succeeded, of plain messages and of what failed. -/
structure Colors where
  success : ColorPair := { foreground := .brightGreen }
  neutral : ColorPair := {}
  failure : ColorPair := { foreground := .brightRed }
  deriving DecidableEq, Repr, Inhabited

/-- The categories of messages. -/
inductive Tone
  | success | neutral | failure
  deriving DecidableEq, Repr, Inhabited

/-- The colors of a category. -/
def Colors.of (colors : Colors) : Tone → ColorPair
  | .success => colors.success
  | .neutral => colors.neutral
  | .failure => colors.failure

end Adventure
