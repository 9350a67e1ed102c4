import Adventure.Unicode.Category
import Adventure.Unicode.LineBreakTable
import Adventure.Unicode.Run

/-!
# Line breaks

Where a line of text may be broken, by the rules of the Unicode line breaking algorithm. The rules
look at the class of the character after a place and at what came before it: the class of the last
character that was no space, and whether spaces follow it. Combining marks belong to the character
before them.
-/

namespace Adventure.Unicode

/-- The line break classes. -/
inductive LineClass
  | mandatory | carriageReturn | lineFeed | nextLine
  | space | zeroWidthSpace | joiner | combining | wordJoiner | glue
  | opening | closing | closingParenthesis | quotation | exclamation | infixSeparator | symbol
  | nonstarter | breakBoth | breakAfter | breakBefore | hyphen | contingent | inseparable
  | alphabetic | hebrew | numeric | numericBefore | numericAfter
  | ideograph | emojiBase | emojiModifier | regional
  | jamoLead | jamoVowel | jamoTail | hangulOpen | hangulClosed
  deriving DecidableEq, Repr, Inhabited

namespace LineClass

/-- The classes with their two-letter names. -/
def names : List (String × LineClass) :=
  [("BK", mandatory), ("CR", carriageReturn), ("LF", lineFeed), ("NL", nextLine), ("SP", space),
   ("ZW", zeroWidthSpace), ("ZWJ", joiner), ("CM", combining), ("WJ", wordJoiner), ("GL", glue),
   ("OP", opening), ("CL", closing), ("CP", closingParenthesis), ("QU", quotation),
   ("EX", exclamation), ("IS", infixSeparator), ("SY", symbol), ("NS", nonstarter),
   ("B2", breakBoth), ("BA", breakAfter), ("BB", breakBefore), ("HY", hyphen), ("CB", contingent),
   ("IN", inseparable), ("AL", alphabetic), ("HL", hebrew), ("NU", numeric),
   ("PR", numericBefore), ("PO", numericAfter), ("ID", ideograph), ("EB", emojiBase),
   ("EM", emojiModifier), ("RI", regional), ("JL", jamoLead), ("JV", jamoVowel), ("JT", jamoTail),
   ("H2", hangulOpen), ("H3", hangulClosed)]

/-- The class with a given name. -/
def named? (name : List Char) : Option LineClass := names.lookup (String.ofList name)

/-- The class of a character that the table does not list. -/
def ofCategory (c : Char) : LineClass :=
  match category c with
  | .nonspacingMark | .spacingMark | .enclosingMark | .control | .format => combining
  | .decimalNumber => numeric
  | _ => alphabetic

/-- The class of a character by the runs of the table. -/
def ofRuns (runs : Array (Run LineClass)) (c : Char) : LineClass :=
  if 0xAC00 ≤ c.toNat ∧ c.toNat ≤ 0xD7A3 then
    if (c.toNat - 0xAC00) % 28 = 0 then hangulOpen else hangulClosed
  else match Run.find? runs c.toNat with
    | some run => run.value
    | none => ofCategory c

/-- Line ends. -/
def isLineEnd : LineClass → Bool
  | mandatory | carriageReturn | lineFeed | nextLine => true
  | _ => false

/-- Letters. -/
def isLetter : LineClass → Bool
  | alphabetic | hebrew => true
  | _ => false

/-- Ideographs and what is treated like them. -/
def isIdeographic : LineClass → Bool
  | ideograph | emojiBase | emojiModifier => true
  | _ => false

/-- Syllables of Hangul and their parts. -/
def isHangul : LineClass → Bool
  | jamoLead | jamoVowel | jamoTail | hangulOpen | hangulClosed => true
  | _ => false

/-- Pairs within a number, with the signs around it. -/
def joinsNumber : LineClass → LineClass → Bool
  | closing, numericAfter | closing, numericBefore => true
  | closingParenthesis, numericAfter | closingParenthesis, numericBefore => true
  | numeric, numericAfter | numeric, numericBefore | numeric, numeric => true
  | numericAfter, opening | numericAfter, numeric => true
  | numericBefore, opening | numericBefore, numeric => true
  | hyphen, numeric | infixSeparator, numeric | symbol, numeric => true
  | _, _ => false

/-- Pairs within a syllable of Hangul. -/
def joinsSyllable : LineClass → LineClass → Bool
  | jamoLead, jamoLead | jamoLead, jamoVowel | jamoLead, hangulOpen | jamoLead, hangulClosed => true
  | jamoVowel, jamoVowel | jamoVowel, jamoTail | hangulOpen, jamoVowel | hangulOpen, jamoTail =>
    true
  | jamoTail, jamoTail | hangulClosed, jamoTail => true
  | _, _ => false

/-- Pairs that stay together wherever nothing stands between them. -/
def joins (a b : LineClass) : Bool :=
  b == inseparable
    || (a.isLetter && b == numeric) || (a == numeric && b.isLetter)
    || (a == numericBefore && b.isIdeographic) || (a.isIdeographic && b == numericAfter)
    || ((a == numericBefore || a == numericAfter) && b.isLetter)
    || (a.isLetter && (b == numericBefore || b == numericAfter))
    || joinsNumber a b || joinsSyllable a b
    || (a.isHangul && b == numericAfter) || (a == numericBefore && b.isHangul)
    || (a.isLetter && b.isLetter) || (a == infixSeparator && b.isLetter)
    || ((a.isLetter || a == numeric) && b == opening)
    || (a == closingParenthesis && (b.isLetter || b == numeric))
    || (a == emojiBase && b == emojiModifier)

end LineClass

/-- The runs of the table. -/
def lineBreakRuns : Array (Run LineClass) := Run.table LineClass.named? lineBreakText

/-- The line break class of a character. -/
def lineClass (c : Char) : LineClass := LineClass.ofRuns lineBreakRuns c

namespace LineBreak

open LineClass

/-- What came before a place in a text. -/
structure Before where
  /-- The class of the last character that was no space. -/
  base : Option LineClass := none
  /-- Whether spaces follow it. -/
  spaces : Bool := false
  /-- Whether the last character joins others to itself. -/
  joining : Bool := false
  /-- Whether a Hebrew letter stands before a hyphen. -/
  hebrewHyphen : Bool := false
  /-- Whether the number of regional indicators in a row is odd. -/
  oddRegional : Bool := false

/-- Whether a mark at this place belongs to the character before it. -/
def Before.carries (x : Before) : Bool :=
  match x.base with
  | none => false
  | some a => !x.spaces && !a.isLineEnd && a != zeroWidthSpace

/-- The class that a character counts as at a place. -/
def Before.counted (x : Before) (b : LineClass) : LineClass :=
  if (b == combining || b == joiner) && !x.carries then alphabetic else b

/-- Whether a line may be broken between a class and one that follows it directly. -/
def breaksBetween (x : Before) (a b : LineClass) : Bool :=
  if a == wordJoiner || a == glue then false
  else if b == glue then a == breakAfter || a == hyphen
  else if b == quotation || a == quotation then false
  else if a == contingent || b == contingent then true
  else if b == breakAfter || b == hyphen || b == nonstarter || a == breakBefore then false
  else if x.hebrewHyphen then false
  else if a == symbol && b == hebrew then false
  else if joins a b then false
  else if a == regional && b == regional then !x.oddRegional
  else true

/-- Whether a line may be broken at a place before a character of a class that is no mark of the
one before. -/
def breaks (x : Before) (b : LineClass) : Bool :=
  match x.base with
  | none => x.spaces && !(b.isLineEnd || b == space || b == zeroWidthSpace || b == wordJoiner
      || b == closing || b == closingParenthesis || b == exclamation || b == infixSeparator
      || b == symbol)
  | some a =>
    if !x.spaces && a.isLineEnd then !(a == carriageReturn && b == lineFeed)
    else if b.isLineEnd || b == space || b == zeroWidthSpace then false
    else if a == zeroWidthSpace then true
    else if x.joining then false
    else if b == wordJoiner then false
    else if !x.spaces && (a == wordJoiner || a == glue) then false
    else if !x.spaces && b == glue then a == breakAfter || a == hyphen
    else if b == closing || b == closingParenthesis || b == exclamation || b == infixSeparator
      || b == symbol then false
    else if a == opening then false
    else if a == quotation && b == opening then false
    else if (a == closing || a == closingParenthesis) && b == nonstarter then false
    else if a == breakBoth && b == breakBoth then false
    else if x.spaces then true
    else breaksBetween x a b

/-- What came before the place after a character. -/
def Before.next (x : Before) (b : LineClass) : Before :=
  if b == space then { x with spaces := true, joining := false }
  else
    { base := some b
      hebrewHyphen := !x.spaces && x.base == some hebrew && (b == hyphen || b == breakAfter)
      oddRegional := b == regional && !(x.base == some regional && !x.spaces && x.oddRegional) }

/-- For each character whether a line may be broken before it. -/
def allowedFrom (x : Before) : List LineClass → List Bool
  | [] => []
  | b :: rest =>
    if (b == combining || b == joiner) && x.carries then
      false :: allowedFrom { x with joining := b == joiner } rest
    else
      let counted := x.counted b
      breaks x counted :: allowedFrom { x.next counted with joining := b == joiner } rest

/-- For each character of a text whether a line may be broken before it. -/
def allowed (cs : List Char) : List Bool := allowedFrom {} (cs.map lineClass)

end LineBreak

end Adventure.Unicode
