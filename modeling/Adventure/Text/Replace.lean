/-!
# Replacing phrases

Every occurrence of a phrase gives way to a value. Occurrences are taken from the left and do not
overlap, and an inserted value is not searched again.
-/

namespace Adventure.Text

/-- Replaces `phrase` by `value`, after skipping the `skip` characters still covered by the
occurrence found last. -/
def replaceFrom (phrase value : List Char) : Nat → List Char → List Char
  | _, [] => []
  | skip + 1, _ :: rest => replaceFrom phrase value skip rest
  | 0, c :: rest =>
    if phrase.isPrefixOf (c :: rest) then
      value ++ replaceFrom phrase value (phrase.length - 1) rest
    else c :: replaceFrom phrase value 0 rest

/-- The text with every occurrence of a non-empty phrase replaced. -/
def replaceChars (phrase value cs : List Char) : List Char := replaceFrom phrase value 0 cs

/-- The text with every occurrence of a non-empty phrase replaced. -/
def replace (phrase value text : String) : String :=
  String.ofList (replaceChars phrase.toList value.toList text.toList)

/-- Whether a phrase occurs among characters. -/
def occursIn (phrase : List Char) : List Char → Bool
  | [] => phrase.isEmpty
  | c :: rest => phrase.isPrefixOf (c :: rest) || occursIn phrase rest

/-- Whether a phrase occurs in a text. -/
def occurs (phrase text : String) : Bool := occursIn phrase.toList text.toList

end Adventure.Text
