import Adventure.Unicode.CategoryTable
import Adventure.Unicode.Run

/-!
# General categories

Every code point has one of thirty general categories. ASCII is answered without the table, so
that the properties of commands typed on a plain keyboard can be settled by evaluation.
-/

namespace Adventure.Unicode

/-- The general categories of the Unicode Character Database. -/
inductive Category
  | uppercaseLetter | lowercaseLetter | titlecaseLetter | modifierLetter | otherLetter
  | nonspacingMark | spacingMark | enclosingMark
  | decimalNumber | letterNumber | otherNumber
  | connectorPunctuation | dashPunctuation | openPunctuation | closePunctuation
  | initialPunctuation | finalPunctuation | otherPunctuation
  | mathSymbol | currencySymbol | modifierSymbol | otherSymbol
  | spaceSeparator | lineSeparator | paragraphSeparator
  | control | format | surrogate | privateUse | unassigned
  deriving DecidableEq, Repr

namespace Category

/-- The categories with their two-letter names. -/
def names : List (String × Category) :=
  [("Lu", uppercaseLetter), ("Ll", lowercaseLetter), ("Lt", titlecaseLetter),
   ("Lm", modifierLetter), ("Lo", otherLetter), ("Mn", nonspacingMark), ("Mc", spacingMark),
   ("Me", enclosingMark), ("Nd", decimalNumber), ("Nl", letterNumber), ("No", otherNumber),
   ("Pc", connectorPunctuation), ("Pd", dashPunctuation), ("Ps", openPunctuation),
   ("Pe", closePunctuation), ("Pi", initialPunctuation), ("Pf", finalPunctuation),
   ("Po", otherPunctuation), ("Sm", mathSymbol), ("Sc", currencySymbol), ("Sk", modifierSymbol),
   ("So", otherSymbol), ("Zs", spaceSeparator), ("Zl", lineSeparator),
   ("Zp", paragraphSeparator), ("Cc", control), ("Cf", format), ("Cs", surrogate),
   ("Co", privateUse), ("Cn", unassigned)]

/-- The category with a two-letter name. -/
def named? (name : String) : Option Category := names.lookup name

/-- Capital, small, title-case, modifier and other letters. -/
def isLetter : Category → Bool
  | uppercaseLetter | lowercaseLetter | titlecaseLetter | modifierLetter | otherLetter => true
  | _ => false

/-- Nonspacing, spacing and enclosing marks. -/
def isMark : Category → Bool
  | nonspacingMark | spacingMark | enclosingMark => true
  | _ => false

/-- Separators, controls and code points without a character of their own. -/
def isBlankOrOther : Category → Bool
  | spaceSeparator | lineSeparator | paragraphSeparator
  | control | format | surrogate | privateUse | unassigned => true
  | _ => false

end Category

/-- What a table entry says about its run: one category, or capital and small letters in turn. -/
inductive CategoryEntry
  | all (category : Category)
  | alternating

/-- The entry value with a given name. -/
def CategoryEntry.named? (name : List Char) : Option CategoryEntry :=
  if name = "LuLl".toList then some .alternating
  else (Category.named? (String.ofList name)).map .all

/-- The categories of all assigned code points. -/
def categoryTable : Array (Run CategoryEntry) := Run.table CategoryEntry.named? categoryText

/-- The category of an ASCII character. -/
def asciiCategory (c : Char) : Category :=
  if c < ' ' ∨ c = '\x7f' then .control
  else if c = ' ' then .spaceSeparator
  else if 'a' ≤ c ∧ c ≤ 'z' then .lowercaseLetter
  else if 'A' ≤ c ∧ c ≤ 'Z' then .uppercaseLetter
  else if '0' ≤ c ∧ c ≤ '9' then .decimalNumber
  else if c ∈ ['+', '<', '=', '>', '|', '~'] then .mathSymbol
  else if c ∈ ['^', '\x60'] then .modifierSymbol
  else if c = '$' then .currencySymbol
  else if c = '_' then .connectorPunctuation
  else if c = '-' then .dashPunctuation
  else if c ∈ ['(', '[', '\x7b'] then .openPunctuation
  else if c ∈ [')', ']', '\x7d'] then .closePunctuation
  else .otherPunctuation

/-- The general category of a character. -/
def category (c : Char) : Category :=
  if c.toNat < 128 then asciiCategory c
  else match Run.find? categoryTable c.toNat with
    | none => .unassigned
    | some ⟨_, _, .all category⟩ => category
    | some ⟨first, _, .alternating⟩ =>
      if (c.toNat - first) % 2 = 0 then .uppercaseLetter else .lowercaseLetter

end Adventure.Unicode
