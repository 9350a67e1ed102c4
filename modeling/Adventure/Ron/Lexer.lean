import Adventure.Ron.Quoted

/-!
# Words of RON

What stands between the brackets: blanks and comments, identifiers, keywords and numbers. A
scanner takes what it recognizes from the beginning of a text and leaves the rest.
-/

namespace Adventure.Ron

/-- A scanner; without a result the text is not well formed. -/
abbrev Scan := StateT (List Char) Option

namespace Scan

/-- Takes what a function finds at the beginning of the text. -/
def ofRead {α : Type} (read? : List Char → Option (α × List Char)) : Scan α := read?

/-- Whether the text begins with the given characters. -/
def sees (cs : List Char) : Scan Bool := fun text => some (cs.isPrefixOf text, text)

/-- Takes the given characters if the text begins with them. -/
def tryTake (cs : List Char) : Scan Bool := fun text =>
  if cs.isPrefixOf text then some (true, text.drop cs.length) else some (false, text)

/-- Takes the given character, which has to be there. -/
def expect (c : Char) : Scan Unit := fun text =>
  match text with
  | d :: rest => if d = c then some ((), rest) else none
  | [] => none

/-- Takes characters as long as they satisfy `p`. -/
def takeWhile (p : Char → Bool) : Scan (List Char) := fun text =>
  some (text.takeWhile p, text.dropWhile p)

end Scan

open Scan

/-! ## Blanks -/

/-- Characters without meaning between words. -/
def isBlank (c : Char) : Bool :=
  c == ' ' || c == '\t' || c == '\n' || c == '\r' || c == '\x0B' || c == '\x0C' || c == '\u0085'
    || c == '\u200E' || c == '\u200F' || c == '\u2028' || c == '\u2029'

/-- Where blanks are skipped: between words, in a comment to the end of the line, or in a comment
between marks, with the number of such comments around it. -/
inductive Skipping
  | words
  | line
  | marked (outer : Nat)

/-- What follows blanks and comments. A comment between marks has to be closed. -/
def afterBlanks? : Skipping → List Char → Option (List Char)
  | .words, [] => some []
  | .words, [c] => if isBlank c then some [] else if c = '/' then none else some [c]
  | .words, c :: d :: rest =>
    if c = '/' then
      if d = '/' then afterBlanks? .line rest
      else if d = '*' then afterBlanks? (.marked 0) rest
      else none
    else if isBlank c then afterBlanks? .words (d :: rest)
    else some (c :: d :: rest)
  | .line, [] => some []
  | .line, c :: rest => afterBlanks? (if c = '\n' then .words else .line) rest
  | .marked _, [] => none
  | .marked _, [_] => none
  | .marked outer, c :: d :: rest =>
    if c = '/' ∧ d = '*' then afterBlanks? (.marked (outer + 1)) rest
    else if c = '*' ∧ d = '/' then
      afterBlanks? (if outer = 0 then .words else .marked (outer - 1)) rest
    else afterBlanks? (.marked outer) (d :: rest)

/-- Skips blanks and comments. -/
def blanks : Scan Unit := fun text => (afterBlanks? .words text).map fun rest => ((), rest)

/-! ## Identifiers -/

/-- Characters of an identifier that is marked as raw. -/
def isRawPart (c : Char) : Bool := c == '.' || c == '+' || c == '-' || Unicode.isIdentifierPart c

/-- How quoted texts, bytes and characters of bytes begin, where they look like identifiers. -/
def quoteOpenings : List (List Char) :=
  ["b'", "b\"", "br\"", "br#\"", "br##", "r\"", "r#\"", "r##"].map String.toList

/-- The identifier at the beginning of the text. -/
def identifier? : List Char → Option (String × List Char)
  | [] => none
  | c :: rest =>
    if !(c == '_' || Unicode.isIdentifierStart c) then none
    else if quoteOpenings.any (·.isPrefixOf (c :: rest)) then none
    else if ['r', '#'].isPrefixOf (c :: rest) then
      let raw := rest.drop 1
      if (raw.head?.map isRawPart).getD false then
        some (String.ofList (raw.takeWhile isRawPart), raw.dropWhile isRawPart)
      else none
    else
      let plain := (c :: rest).takeWhile Unicode.isIdentifierPart
      if ((c :: rest).takeWhile isRawPart).length > plain.length then none
      else some (String.ofList plain, (c :: rest).dropWhile Unicode.isIdentifierPart)

/-- The text after a keyword that it begins with. -/
def afterKeyword? (word : String) (text : List Char) : Option (List Char) :=
  let rest := text.drop word.length
  if word.toList.isPrefixOf text && !(rest.head?.map Unicode.isIdentifierPart).getD false then
    some rest
  else none

/-! ## Numbers -/

/-- Digits with underscores between them, and what follows. -/
def digits? (p : Char → Bool) (text : List Char) : Option (List Char) :=
  match text with
  | c :: rest => if p c then some (rest.dropWhile fun d => p d || d == '_') else none
  | [] => none

/-- What follows an exponent, if there is one. -/
def afterExponent? : List Char → Option (List Char)
  | c :: rest =>
    if c = 'e' ∨ c = 'E' then
      match rest with
      | '+' :: rest => digits? Char.isDigit rest
      | '-' :: rest => digits? Char.isDigit rest
      | rest => digits? Char.isDigit rest
    else some (c :: rest)
  | [] => some []

/-- What follows the fraction and the exponent of a number; `whole` says whether digits stand
before. -/
def afterFraction? (whole : Bool) : List Char → Option (List Char)
  | '.' :: rest =>
    match digits? Char.isDigit rest with
    | some rest => afterExponent? rest
    | none => if whole then afterExponent? rest else none
  | rest => if whole then afterExponent? rest else none

/-- The suffixes that name the type of a number. -/
def numberSuffixes : List String :=
  ["u8", "u16", "u32", "u64", "u128", "i8", "i16", "i32", "i64", "i128", "f32", "f64"]

/-- What follows a suffix, if there is one. -/
def afterSuffix (text : List Char) : List Char :=
  (numberSuffixes.findSome? fun suffix => afterKeyword? suffix text).getD text

/-- What follows a number without a sign. -/
def afterUnsigned? : List Char → Option (List Char)
  | '0' :: 'x' :: rest => digits? (fun c => (Quoted.hexValue? c).isSome) rest
  | '0' :: 'b' :: rest => digits? (fun c => c == '0' || c == '1') rest
  | '0' :: 'o' :: rest => digits? (fun c => decide ('0' ≤ c) && decide (c ≤ '7')) rest
  | text =>
    match digits? Char.isDigit text with
    | some rest => afterFraction? true rest
    | none => match afterKeyword? "inf" text with
      | some rest => some rest
      | none => match afterKeyword? "NaN" text with
        | some rest => some rest
        | none => afterFraction? false text

/-- What follows a number. -/
def afterNumber? (text : List Char) : Option (List Char) :=
  let unsigned := match text with
    | '+' :: rest => rest
    | '-' :: rest => rest
    | text => text
  (afterUnsigned? unsigned).map afterSuffix

end Adventure.Ron
