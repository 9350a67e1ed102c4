import Adventure.Unicode.Fold

/-!
# Sets of characters

The sets that bracketed classes and escapes of a regular expression stand for.
-/

namespace Adventure

/-- A set of characters. -/
inductive CharSet
  | empty
  | range (first last : Char)
  /-- The characters with a property. -/
  | having (property : Char → Bool)
  | union (s t : CharSet)
  | inter (s t : CharSet)
  | diff (s t : CharSet)
  | symDiff (s t : CharSet)
  | compl (s : CharSet)
  /-- The characters that differ at most in case from one in the set. -/
  | folded (s : CharSet)
  /-- The same for the letters of ASCII alone. -/
  | asciiFolded (s : CharSet)

namespace CharSet

/-- The character of ASCII that differs from `c` in case, if `c` is a letter of ASCII. -/
def asciiPartner? (c : Char) : Option Char :=
  if 'a' ≤ c ∧ c ≤ 'z' then some (Char.ofNat (c.toNat - 32))
  else if 'A' ≤ c ∧ c ≤ 'Z' then some (Char.ofNat (c.toNat + 32))
  else none

/-- Whether a character is in the set. -/
def contains : CharSet → Char → Bool
  | empty, _ => false
  | range first last, c => decide (first ≤ c) && decide (c ≤ last)
  | having property, c => property c
  | union s t, c => s.contains c || t.contains c
  | inter s t, c => s.contains c && t.contains c
  | diff s t, c => s.contains c && !t.contains c
  | symDiff s t, c => s.contains c != t.contains c
  | compl s, c => !s.contains c
  | folded s, c => (Unicode.foldClass c).any s.contains
  | asciiFolded s, c => s.contains c || (asciiPartner? c).any s.contains

/-- The set of one character. -/
def single (c : Char) : CharSet := range c c

/-- The union of the given ranges. -/
def ofRanges (ranges : List (Char × Char)) : CharSet :=
  ranges.foldr (fun (first, last) s => union (range first last) s) empty

/-- Whether the set has none of the characters from 128 to 255. -/
def isAscii (s : CharSet) : Bool :=
  (List.range 128).all fun n => !s.contains (Char.ofNat (128 + n))

/-- The decimal digits of ASCII. -/
def asciiDigit : CharSet := range '0' '9'

/-- The letters, digits and low line of ASCII. -/
def asciiWord : CharSet := ofRanges [('0', '9'), ('A', 'Z'), ('_', '_'), ('a', 'z')]

/-- The white space of ASCII. -/
def asciiSpace : CharSet := ofRanges [('\t', '\r'), (' ', ' ')]

/-- The classes of ASCII characters that go by a name in brackets. -/
def asciiNamed? (name : String) : Option CharSet :=
  match name with
  | "alnum" => some (ofRanges [('0', '9'), ('A', 'Z'), ('a', 'z')])
  | "alpha" => some (ofRanges [('A', 'Z'), ('a', 'z')])
  | "ascii" => some (range '\x00' '\x7f')
  | "blank" => some (ofRanges [('\t', '\t'), (' ', ' ')])
  | "cntrl" => some (ofRanges [('\x00', '\x1f'), ('\x7f', '\x7f')])
  | "digit" => some asciiDigit
  | "graph" => some (range '!' '~')
  | "lower" => some (range 'a' 'z')
  | "print" => some (range ' ' '~')
  | "punct" => some (ofRanges [('!', '/'), (':', '@'), ('[', '\x60'), ('\x7b', '~')])
  | "space" => some asciiSpace
  | "upper" => some (range 'A' 'Z')
  | "word" => some asciiWord
  | "xdigit" => some (ofRanges [('0', '9'), ('A', 'F'), ('a', 'f')])
  | _ => none

/-- The groups of general categories and other properties with names of their own. -/
def grouped? (name : String) : Option (Char → Bool) :=
  let within (test : Unicode.Category → Bool) := some fun c => test (Unicode.category c)
  if name ∈ ["l", "letter"] then within Unicode.Category.isLetter
  else if name ∈ ["lc", "casedletter"] then
    within fun k => k == .uppercaseLetter || k == .lowercaseLetter || k == .titlecaseLetter
  else if name ∈ ["m", "mark", "combiningmark"] then within Unicode.Category.isMark
  else if name ∈ ["n", "number"] then
    within fun k => k == .decimalNumber || k == .letterNumber || k == .otherNumber
  else if name ∈ ["p", "punctuation", "punct"] then
    within fun k => k == .connectorPunctuation || k == .dashPunctuation || k == .openPunctuation
      || k == .closePunctuation || k == .initialPunctuation || k == .finalPunctuation
      || k == .otherPunctuation
  else if name ∈ ["s", "symbol"] then
    within fun k => k == .mathSymbol || k == .currencySymbol || k == .modifierSymbol
      || k == .otherSymbol
  else if name ∈ ["z", "separator"] then
    within fun k => k == .spaceSeparator || k == .lineSeparator || k == .paragraphSeparator
  else if name ∈ ["c", "other"] then
    within fun k => k == .control || k == .format || k == .surrogate || k == .privateUse
      || k == .unassigned
  else if name = "any" then some fun _ => true
  else if name = "ascii" then some fun c => decide (c.toNat < 128)
  else if name = "assigned" then within fun k => k != .unassigned
  else if name ∈ ["whitespace", "space", "wspace"] then some Unicode.isWhitespace
  else if name ∈ ["xidstart", "xids"] then some Unicode.isIdentifierStart
  else if name ∈ ["xidcontinue", "xidc"] then some Unicode.isIdentifierPart
  else if name = "cased" then some Unicode.isCased
  else if name ∈ ["caseignorable", "ci"] then some Unicode.isCaseIgnorable
  else none

/-- Single general categories under their long names. -/
def longNames : List (String × Unicode.Category) :=
  [("uppercaseletter", .uppercaseLetter), ("lowercaseletter", .lowercaseLetter),
   ("titlecaseletter", .titlecaseLetter), ("modifierletter", .modifierLetter),
   ("otherletter", .otherLetter), ("nonspacingmark", .nonspacingMark),
   ("spacingmark", .spacingMark), ("enclosingmark", .enclosingMark),
   ("decimalnumber", .decimalNumber), ("digit", .decimalNumber),
   ("letternumber", .letterNumber), ("othernumber", .otherNumber),
   ("connectorpunctuation", .connectorPunctuation), ("dashpunctuation", .dashPunctuation),
   ("openpunctuation", .openPunctuation), ("closepunctuation", .closePunctuation),
   ("initialpunctuation", .initialPunctuation), ("finalpunctuation", .finalPunctuation),
   ("otherpunctuation", .otherPunctuation), ("mathsymbol", .mathSymbol),
   ("currencysymbol", .currencySymbol), ("modifiersymbol", .modifierSymbol),
   ("othersymbol", .otherSymbol), ("spaceseparator", .spaceSeparator),
   ("lineseparator", .lineSeparator), ("paragraphseparator", .paragraphSeparator),
   ("control", .control), ("cntrl", .control), ("format", .format),
   ("surrogate", .surrogate), ("privateuse", .privateUse), ("unassigned", .unassigned)]

/-- The categories under their short names in small letters. -/
def shortNames : List (String × Unicode.Category) :=
  Unicode.Category.names.map fun (name, category) =>
    (String.ofList (name.toList.map Char.toLower), category)

/-- The set of characters with a property of a given name. Case, spaces, hyphens and low lines in
the name do not count. -/
def property? (name : List Char) : Option CharSet :=
  let plain := String.ofList
    ((name.filter fun c => c ≠ ' ' ∧ c ≠ '-' ∧ c ≠ '_').map Char.toLower)
  match (shortNames ++ longNames).lookup plain with
  | some category => some (.having fun c => Unicode.category c == category)
  | none => (grouped? plain).map .having

end CharSet

end Adventure
