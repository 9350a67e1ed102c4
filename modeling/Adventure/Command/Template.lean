import Adventure.Text.Replace
import Adventure.Text.Words

/-!
# Templates

A template is a phrase in small letters with optional groups in square brackets and the markers
`<A>` and `<B>` for the objects of a command, such as `take [the ]<A>`. `Template.parse?` reads a
template for a command that names a given number of objects and reports the first rule that the
text breaks: rules about spaces come first, then single characters, then brackets, then markers.

A template also has a written form as a regular expression, in which a group becomes `(?:…)?` and
a marker a numbered capture of a word; `Template.ofRegexText` leads back.
-/

namespace Adventure

/-- The markers for the objects of a command. -/
inductive Marker
  | a | b
  deriving DecidableEq, Repr

/-- The letter of a marker. -/
def Marker.letter : Marker → Char
  | a => 'A'
  | b => 'B'

/-- The rule that a template breaks, with the position of the fault (`TemplateError`). -/
inductive TemplateError
  | empty
  | outerSpace
  | doubleSpace (position : Nat)
  | invalidCharacter (c : Char) (position : Nat)
  | unbalancedBracket (position : Nat)
  | nestedBracket (position : Nat)
  | emptyBracket (position : Nat)
  | markerInBracket (position : Nat)
  | noLiteralWord
  | markerCount (marker : Marker) (expected found : Nat)
  deriving DecidableEq, Repr

/-- How a broken rule is reported. -/
def TemplateError.message : TemplateError → String
  | empty => "template is empty"
  | outerSpace => "template starts or ends with a space"
  | doubleSpace position =>
    "template contains two consecutive spaces at position " ++ toString position
  | invalidCharacter c position =>
    "character '" ++ c.toString ++ "' at position " ++ toString position
      ++ " is not allowed (use a-z, space, [ ], <A> or <B>)"
  | unbalancedBracket position =>
    "bracket at position " ++ toString position ++ " is not balanced"
  | nestedBracket position =>
    "optional groups may not be nested (position " ++ toString position ++ ")"
  | emptyBracket position =>
    "optional group at position " ++ toString position ++ " contains no letters"
  | markerInBracket position =>
    "parameter marker inside optional group at position " ++ toString position
  | noLiteralWord => "template needs at least one literal word outside of optional groups"
  | markerCount marker expected found =>
    "expected " ++ toString expected ++ " occurrence(s) of <" ++ marker.letter.toString
      ++ ">, found " ++ toString found

namespace Template

/-- The small letters of plain English. -/
def isLetter (c : Char) : Bool := decide ('a' ≤ c) && decide (c ≤ 'z')

/-! ## Tokens -/

/-- The smallest parts of a template. A letter token may also be a space. -/
inductive Token
  | letter (c : Char)
  | opening
  | closing
  | marker (m : Marker)
  deriving DecidableEq, Repr

/-- The tokens of a text whose first character has the given position, each with its own one
(`tokenize`). -/
def scan : Nat → List Char → Except TemplateError (List (Nat × Token))
  | _, [] => .ok []
  | at', '<' :: rest =>
    match rest with
    | 'A' :: '>' :: rest => do return (at', .marker .a) :: (← scan (at' + 3) rest)
    | 'B' :: '>' :: rest => do return (at', .marker .b) :: (← scan (at' + 3) rest)
    | _ => .error (.invalidCharacter '<' at')
  | at', c :: rest =>
    if c = '[' then do return (at', .opening) :: (← scan (at' + 1) rest)
    else if c = ']' then do return (at', .closing) :: (← scan (at' + 1) rest)
    else if c = ' ' ∨ isLetter c then do return (at', .letter c) :: (← scan (at' + 1) rest)
    else .error (.invalidCharacter c at')

/-! ## Rules -/

/-- Where two spaces follow each other, counted in bytes from `offset`. -/
def doubleSpaceAt? : Nat → List Char → Option Nat
  | _, [] => none
  | _, [_] => none
  | offset, c :: d :: rest =>
    if c = ' ' ∧ d = ' ' then some offset else doubleSpaceAt? (offset + c.utf8Size) (d :: rest)

/-- The rules about spaces: a template is not empty, begins and ends with no space and has no two
spaces in a row (`tokenize_checked`). -/
def checkSpaces (cs : List Char) : Except TemplateError Unit :=
  if cs = [] then .error .empty
  else if cs.head? = some ' ' ∨ cs.getLast? = some ' ' then .error .outerSpace
  else match doubleSpaceAt? 0 cs with
    | some offset => .error (.doubleSpace offset)
    | none => .ok ()

/-- What has been seen of a template: where the open group began, whether it holds a letter, and
whether a letter stands outside all groups. -/
structure Brackets where
  openAt : Option Nat := none
  letterInside : Bool := false
  letterOutside : Bool := false

/-- The rules about brackets: groups are closed, not nested, hold a letter and no marker, and some
letter stands outside them (`check_brackets`). -/
def checkBrackets (seen : Brackets) : List (Nat × Token) → Except TemplateError Unit
  | [] =>
    match seen.openAt with
    | some start => .error (.unbalancedBracket start)
    | none => if seen.letterOutside then .ok () else .error .noLiteralWord
  | (position, token) :: rest =>
    match token, seen.openAt with
    | .opening, some _ => .error (.nestedBracket position)
    | .opening, none =>
      checkBrackets { seen with openAt := some position, letterInside := false } rest
    | .closing, none => .error (.unbalancedBracket position)
    | .closing, some start =>
      if seen.letterInside then checkBrackets { seen with openAt := none } rest
      else .error (.emptyBracket start)
    | .marker _, some _ => .error (.markerInBracket position)
    | .marker _, none => checkBrackets seen rest
    | .letter c, inside =>
      if !isLetter c then checkBrackets seen rest
      else if inside.isSome then checkBrackets { seen with letterInside := true } rest
      else checkBrackets { seen with letterOutside := true } rest

/-- How often a marker occurs. -/
def count (m : Marker) (tokens : List Token) : Nat := tokens.count (.marker m)

/-- How often a marker has to occur in a phrasing that names `arity` objects. -/
def expected (arity : Nat) : Marker → Nat
  | .a => if 1 ≤ arity then 1 else 0
  | .b => if 2 ≤ arity then 1 else 0

/-- The rule about one marker (`check_markers`). -/
def checkMarker (arity : Nat) (m : Marker) (tokens : List Token) : Except TemplateError Unit :=
  if count m tokens = expected arity m then .ok ()
  else .error (.markerCount m (expected arity m) (count m tokens))

/-- The tokens of a text that keeps all rules. -/
def tokens? (arity : Nat) (cs : List Char) : Except TemplateError (List Token) := do
  checkSpaces cs
  let placed ← scan 0 cs
  checkBrackets {} placed
  let tokens := placed.map (·.2)
  checkMarker arity .a tokens
  checkMarker arity .b tokens
  return tokens

/-! ## Pieces -/

/-- The pieces a player's line is compared with: letters and spaces, groups that may be left out,
and places for a word. -/
inductive Piece
  | letter (c : Char)
  | group (cs : List Char)
  | slot (m : Marker)
  deriving DecidableEq, Repr

/-- The pieces that tokens make up; `held` is the text of the group that is open. -/
def piecesFrom : Option (List Char) → List Token → List Piece
  | _, [] => []
  | none, .letter c :: rest => .letter c :: piecesFrom none rest
  | some held, .letter c :: rest => piecesFrom (some (held ++ [c])) rest
  | _, .opening :: rest => piecesFrom (some []) rest
  | held, .closing :: rest => .group (held.getD []) :: piecesFrom none rest
  | held, .marker m :: rest => .slot m :: piecesFrom held rest

end Template

/-- A template, as the pieces it consists of. -/
structure Template where
  pieces : List Template.Piece
  deriving DecidableEq, Repr

namespace Template

/-- Reads a template for a command that names `arity` objects (`validate_template`). -/
def parse? (arity : Nat) (text : String) : Except TemplateError Template := do
  return ⟨piecesFrom none (← tokens? arity text.toList)⟩

/-- A raw template in the form in which it is read: small letters, with capital markers
(`normalize_template`). -/
def normalize (raw : String) : String :=
  let cs := Unicode.lowercase raw.toList
  let cs := Text.replaceChars "<a>".toList "<A>".toList cs
  String.ofList (Text.replaceChars "<b>".toList "<B>".toList cs)

/-! ## Regular expressions -/

/-- The name of the capture with a given number. -/
def captureName (n : Nat) : String := "o" ++ toString n

/-- A piece as part of a regular expression whose captures are numbered from `base`. -/
def Piece.regexChars (base : Nat) : Piece → List Char
  | .letter c => [c]
  | .group cs => "(?:".toList ++ cs ++ ")?".toList
  | .slot .a => "(?<".toList ++ (captureName base).toList ++ ">\\w+)".toList
  | .slot .b => "(?<".toList ++ (captureName (base + 1)).toList ++ ">\\w+)".toList

/-- The template as a regular expression whose captures are numbered from `base`
(`compile_template`). -/
def regexText (template : Template) (base : Nat) : String :=
  String.ofList (template.pieces.flatMap (·.regexChars base))

/-- The names of the captures of a command that names `arity` objects, numbered from `base`. -/
def captureNames (arity base : Nat) : List String :=
  (List.range arity).map fun i => captureName (base + i)

/-- A stretch of a regular expression: a single character or a numbered capture of a word. -/
inductive Stretch
  | char (c : Char)
  | capture (digits : List Char)
  deriving DecidableEq, Repr

/-- The digits of the capture that `cs` begins with. -/
def leadingCapture? (cs : List Char) : Option (List Char) :=
  if "(?<o".toList.isPrefixOf cs then
    let digits := (cs.drop 4).takeWhile Unicode.isDecimalDigit
    let rest := (cs.drop 4).dropWhile Unicode.isDecimalDigit
    if digits ≠ [] ∧ ">\\w+)".toList.isPrefixOf rest then some digits else none
  else none

/-- The stretches of a text; `skip` characters belong to the capture found last. -/
def stretches : Nat → List Char → List Stretch
  | _, [] => []
  | skip + 1, _ :: rest => stretches skip rest
  | 0, c :: rest =>
    match leadingCapture? (c :: rest) with
    | some digits => .capture digits :: stretches (digits.length + 8) rest
    | none => .char c :: stretches 0 rest

/-- The number of a capture: plain digits that write a number of at most 64 bits. -/
def captureNumber? (digits : List Char) : Option Nat :=
  if digits.all Char.isDigit then
    let n := digits.foldl (fun n d => 10 * n + (d.toNat - 48)) 0
    if n < UInt64.size then some n else none
  else none

/-- The template that a regular expression was written for: the capture with the lowest number is
`<A>` and every other one `<B>` (`to_template`). -/
def ofRegexText (pattern : String) : String :=
  let parts := stretches 0 pattern.toList
  let numbers := parts.filterMap fun
    | .capture digits => captureNumber? digits
    | .char _ => none
  let base := numbers.min?.getD 0
  let marked := parts.flatMap fun
    | .char c => [c]
    | .capture digits =>
      if (captureNumber? digits).getD base = base then "<A>".toList else "<B>".toList
  String.ofList (Text.replaceChars ")?".toList "]".toList
    (Text.replaceChars "(?:".toList "[".toList marked))

end Template

end Adventure
