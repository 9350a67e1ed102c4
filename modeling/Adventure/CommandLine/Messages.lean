import Adventure.CommandLine.Arguments

/-!
# Messages of the command line

How mistakes in the arguments are reported and what is printed on request. Where color is on, the
parts that matter stand out.
-/

namespace Adventure.CommandLine

/-- A text between the sequences that begin and end a style. -/
def styled (color : Bool) (codes : List String) (text : String) : String :=
  if color then String.join (codes.map fun code => "\x1b[" ++ code ++ "m") ++ text ++ "\x1b[0m"
  else text

/-- What is wrong. -/
def wrong (color : Bool) (text : String) : String := styled color ["33"] text

/-- What is to be typed as it stands. -/
def literal (color : Bool) (text : String) : String := styled color ["1"] text

/-- What heads a paragraph. -/
def heading (color : Bool) (text : String) : String := styled color ["1", "4"] text

/-- What is wrong with the arguments, in words. -/
def ArgumentError.describe (color : Bool) : ArgumentError → String
  | unexpected argument => "unexpected argument '" ++ wrong color argument ++ "' found"
  | unneededValue value flag =>
    "unexpected value '" ++ wrong color value ++ "' for '" ++ literal color flag
      ++ "' found; no more were expected"
  | missingValue option =>
    "a value is required for '" ++ wrong color option.label ++ "' but none was supplied"
  | repeated option =>
    "the argument '" ++ wrong color option.label ++ "' cannot be used multiple times"
  | conflict first second =>
    "the argument '" ++ wrong color first.label ++ "' cannot be used with '"
      ++ wrong color second.label ++ "'"

/-- How a mistake in the arguments is reported. -/
def ArgumentError.message (color : Bool) (e : ArgumentError) : String :=
  styled color ["1", "31"] "error:" ++ " " ++ e.describe color

/-- The name of the program. -/
def programName : String := "wander_engine"

/-- What is printed when the version is asked for. -/
def versionText : String := programName ++ " 0.3.0\n"

/-- What is printed when help is asked for. -/
def helpText (color : Bool) : String :=
  "Template-driven command parser, action engine and REPL for Wander text adventures.\n\n"
    ++ heading color "Usage:" ++ " " ++ literal color programName ++ " [OPTIONS]\n\n"
    ++ heading color "Options:" ++ "\n"
    ++ "      " ++ literal color "--world"
    ++ " <PATH>   World file (RON) to play; defaults to the bundled data/world.ron\n"
    ++ "      " ++ literal color "--resume"
    ++ " <PATH>  Continue from a snapshot written by an earlier --save\n"
    ++ "      " ++ literal color "--save"
    ++ " <PATH>    Write a snapshot of the world to this file after every command\n"
    ++ "  " ++ literal color "-h" ++ ", " ++ literal color "--help"
    ++ "           Print help\n"
    ++ "  " ++ literal color "-V" ++ ", " ++ literal color "--version"
    ++ "        Print version\n"

end Adventure.CommandLine
