import Adventure.Failure
import Adventure.Regex.Parser

/-!
# Identifiers of objects

The words by which the player can name an object are described by fragments of regular
expressions. Each fragment has to be an expression by itself. A word names the object if it
matches all fragments joined to one choice, in letters of either case. Limits to the size and the
nesting of expressions are left out.
-/

namespace Adventure.Identifier

/-- The expression for whole words that a fragment makes by itself. -/
def alone (fragment : String) : String := "^(?:" ++ fragment ++ ")$"

/-- The expression for words in letters of either case that fragments make together. -/
def joined (fragments : List String) : String :=
  "(?i)^(?:" ++ "|".intercalate fragments ++ ")$"

/-- The first fragment that is no expression by itself. -/
def firstBad? (fragments : List String) : Option String :=
  fragments.find? fun fragment => (Regex.parse? (alone fragment)).isNone

/-- The expression for the words that name an object (`identifier_regex`); there is none without
fragments. -/
def compile (fragments : List String) : Except Failure (Option Regex) :=
  if fragments.isEmpty then .ok none
  else match firstBad? fragments with
    | some fragment => .error (.badIdentifier fragment)
    | none => match Regex.parse? (joined fragments) with
      | some r => .ok (some r)
      | none => .error (.badIdentifier ("|".intercalate fragments))

/-- Whether a word names the object with the given fragments (`identifier_matches`). -/
def accepts (fragments : List String) (word : String) : Except Failure Bool :=
  (compile fragments).map fun r => r.any (·.matchesIn word)

end Adventure.Identifier
