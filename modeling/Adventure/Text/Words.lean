import Adventure.Unicode.Case

/-!
# Words of a line

A line of input means the same however it is spaced and whichever case its letters have: it is
read as its words in small letters with one space between them.
-/

namespace Adventure.Text

open Unicode

/-- The stretches of a list between the elements that satisfy `p`, empty ones included. -/
def splitWhen {α : Type} (p : α → Bool) : List α → List (List α)
  | [] => [[]]
  | a :: rest =>
    match p a, splitWhen p rest with
    | true, parts => [] :: parts
    | false, [] => [[a]]
    | false, part :: parts => (a :: part) :: parts

/-- The words of a text: its longest stretches without white space. -/
def words (cs : List Char) : List (List Char) :=
  (splitWhen isWhitespace cs).filter fun word => !word.isEmpty

/-- The parts in order, with `separator` between neighbours. -/
def join {α : Type} (separator : List α) : List (List α) → List α
  | [] => []
  | [part] => part
  | part :: parts => part ++ separator ++ join separator parts

/-- The text without white space at its ends. -/
def trim (cs : List Char) : List Char :=
  ((cs.dropWhile isWhitespace).reverse.dropWhile isWhitespace).reverse

/-- A line of input in normal form: small letters, one space between words, none outside
(`normalize_input`). -/
def normalize (line : String) : String :=
  String.ofList (join [' '] ((words line.toList).map lowercase))

/-- The text with its first character in capital form (`capitalize`). -/
def capitalize (text : String) : String := String.ofList (capitalizeChars text.toList)

end Adventure.Text
