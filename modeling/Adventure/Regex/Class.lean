import Adventure.Regex.Basic

/-!
# Escapes and bracketed classes

Reading the parts of a regular expression that stand for one character or a condition: escapes,
ranges, named classes and the nested classes in brackets with their set operations. How a part is
read depends on the flags in force; with the flag `x` white space and comments between the parts
do not count.
-/

namespace Adventure.Regex

/-- The flags in force at a place of an expression. -/
structure Flags where
  ignoreCase : Bool := false
  multiLine : Bool := false
  dotAll : Bool := false
  swapGreed : Bool := false
  wide : Bool := true
  extended : Bool := false
  crlf : Bool := false
  deriving DecidableEq, Repr

/-- Drops white space and comments. `inComment` says whether the text begins in a comment. -/
def dropBlank : Bool → List Char → List Char
  | _, [] => []
  | true, c :: rest => dropBlank (c ≠ '\n') rest
  | false, c :: rest =>
    if Unicode.isWhitespace c then dropBlank false rest
    else if c = '#' then dropBlank true rest
    else c :: rest

namespace Flags

/-- Drops what does not count under the flags. -/
def skip (f : Flags) (cs : List Char) : List Char := if f.extended then dropBlank false cs else cs

/-- Moves on by one character to the next one that counts; fails at the end. -/
def next? (f : Flags) (cs : List Char) : Option (List Char) :=
  match f.skip (cs.drop 1) with
  | [] => none
  | rest => some rest

/-- The set as it is taken under the flags: letters of either case, then the complement. In ASCII
mode the set must not reach beyond ASCII. -/
def close? (f : Flags) (negated : Bool) (s : CharSet) : Option CharSet :=
  let s := if f.ignoreCase then (if f.wide then .folded s else .asciiFolded s) else s
  let s := if negated then .compl s else s
  if f.wide || s.isAscii then some s else none

/-- Letters of either case where the flags say so. -/
def fold (f : Flags) (s : CharSet) : CharSet :=
  if f.ignoreCase then (if f.wide then .folded s else .asciiFolded s) else s

end Flags

/-- What a part of an expression stands for. -/
inductive Part
  /-- A character; `byte` says that it was written as a number of two digits. -/
  | literal (c : Char) (byte : Bool)
  | set (s : CharSet)
  | look (condition : Look)

/-- The characters with a meaning of their own in an expression. -/
def isMeta (c : Char) : Bool :=
  c ∈ ['\\', '.', '+', '*', '?', '(', ')', '|', '[', ']', '\x7b', '\x7d', '^', '$', '#', '&',
    '-', '~']

/-- Whether a backslash before the character makes it stand for itself. -/
def isEscapable (c : Char) : Bool :=
  isMeta c || (decide (c.toNat < 128) && !c.isAlphanum && c ≠ '<' && c ≠ '>')

/-- The value of a hexadecimal digit. -/
def hexDigit? (c : Char) : Option Nat := Unicode.Run.hexDigit? c

/-- The character that hexadecimal digits write. -/
def hexChar? (digits : List Char) : Option Char := do
  let values ← digits.mapM hexDigit?
  let n := values.foldl (fun n d => 16 * n + d) 0
  if Nat.isValidChar n then some (Char.ofNat n) else none

/-- Reads exactly `count` hexadecimal digits, of which the first is at hand. -/
def hexDigits? (f : Flags) : Nat → List Char → Option (List Char × List Char)
  | 0, cs => some ([], cs)
  | count + 1, cs =>
    match cs with
    | [] => none
    | c :: rest => do
      guard (hexDigit? c).isSome
      let (digits, rest) ← hexDigits? f count (f.skip rest)
      return (c :: digits, rest)

/-- Reads up to a closing brace, from the character after the opening one on. -/
def untilBrace? (f : Flags) : Nat → List Char → Option (List Char × List Char)
  | 0, _ => none
  | fuel + 1, cs =>
    match f.skip cs with
    | [] => none
    | '\x7d' :: rest => some ([], rest)
    | c :: rest => do
      let (inner, rest) ← untilBrace? f fuel rest
      return (c :: inner, rest)

/-- Reads a character by number: `count` digits or any number of them in braces. -/
def hexEscape? (f : Flags) (count : Nat) (cs : List Char) : Option (Char × Bool × List Char) :=
  match f.skip cs with
  | '\x7b' :: rest => do
    let (digits, rest) ← untilBrace? f (rest.length + 1) rest
    guard (digits ≠ [])
    return (← hexChar? digits, false, f.skip rest)
  | cs => do
    let (digits, rest) ← hexDigits? f count cs
    return (← hexChar? digits, count = 2, rest)

/-- The parts of a text before and after the first place where `sign` stands. -/
def splitAt? (sign : List Char) : List Char → Option (List Char × List Char)
  | [] => none
  | c :: rest =>
    if sign.isPrefixOf (c :: rest) then some ([], (c :: rest).drop sign.length)
    else (splitAt? sign rest).map fun (before, after) => (c :: before, after)

/-- The set of characters that a property in braces means: a property by its name, or a category
as the value of the property of that name, which `!=` denies. The flag says whether it is. -/
def namedProperty? (name : List Char) : Option (Bool × CharSet) :=
  let valueOf (denied : Bool) (parts : List Char × List Char) : Option (Bool × CharSet) :=
    let key := (parts.1.filter fun c => c ≠ ' ' ∧ c ≠ '-' ∧ c ≠ '_').map Char.toLower
    let key := String.ofList key
    if key = "gc" ∨ key = "generalcategory" then
      (CharSet.property? parts.2).map fun s => (denied, s)
    else none
  match splitAt? ['!', '='] name, splitAt? [':'] name, splitAt? ['='] name with
  | some parts, _, _ => valueOf true parts
  | none, some parts, _ => valueOf false parts
  | none, none, some parts => valueOf false parts
  | none, none, none => (CharSet.property? name).map fun s => (false, s)

/-- Reads a property after `\p` or `\P`. -/
def propertyEscape? (f : Flags) (negated : Bool) (cs : List Char) :
    Option (CharSet × List Char) := do
  guard f.wide
  match f.skip cs with
  | [] => none
  | '\x7b' :: rest =>
    let (name, rest) ← untilBrace? f (rest.length + 1) rest
    let (denied, s) ← namedProperty? name
    return (← f.close? (negated != denied) s, rest)
  | c :: rest =>
    guard (c ≠ '\\')
    let s ← f.close? negated (← CharSet.property? [c])
    return (s, f.skip rest)

/-- The class that a letter after a backslash stands for. -/
def letterClass? (f : Flags) (c : Char) : Option CharSet :=
  let pick (wide ascii : CharSet) : CharSet := if f.wide then wide else ascii
  let digit := pick (.having Unicode.isDecimalDigit) .asciiDigit
  let space := pick (.having Unicode.isWhitespace) .asciiSpace
  let word := pick (.having Unicode.isWordChar) .asciiWord
  let negate (s : CharSet) : Option CharSet := if f.wide then some (.compl s) else none
  match c with
  | 'd' => some digit
  | 's' => some space
  | 'w' => some word
  | 'D' => negate digit
  | 'S' => negate space
  | 'W' => negate word
  | _ => none

/-- The letters of `cs` up to a closing brace, for a condition on words; blanks are skipped. -/
def conditionName? (f : Flags) : Nat → List Char → Option (List Char × List Char)
  | 0, _ => none
  | fuel + 1, cs =>
    match f.skip cs with
    | '\x7d' :: rest => some ([], rest)
    | c :: rest => do
      guard (c.isAlpha || c = '-')
      let (name, rest) ← conditionName? f fuel rest
      return (c :: name, rest)
    | [] => none

/-- Reads what follows `\b`: a kind of word boundary in braces, if the braces hold no count. -/
def boundary? (f : Flags) (cs : List Char) : Option (Look × List Char) :=
  match cs with
  | '\x7b' :: rest =>
    match f.skip rest with
    | [] => none
    | c :: _ =>
      if c.isAlpha || c = '-' then do
        let (name, rest) ← conditionName? f (rest.length + 1) rest
        match String.ofList name with
        | "start" => some (.wordStart f.wide, rest)
        | "end" => some (.wordEnd f.wide, rest)
        | "start-half" => some (.wordStartHalf f.wide, rest)
        | "end-half" => some (.wordEndHalf f.wide, rest)
        | _ => none
      else some (.wordBoundary f.wide, cs)
  | _ => some (.wordBoundary f.wide, cs)

/-- Reads an escape after its backslash. -/
def escape? (f : Flags) : List Char → Option (Part × List Char)
  | [] => none
  | c :: rest =>
    match c with
    | 'x' => (hexEscape? f 2 rest).map fun (c, byte, rest) => (.literal c byte, rest)
    | 'u' => (hexEscape? f 4 rest).map fun (c, _, rest) => (.literal c false, rest)
    | 'U' => (hexEscape? f 8 rest).map fun (c, _, rest) => (.literal c false, rest)
    | 'p' => (propertyEscape? f false rest).map fun (s, rest) => (.set s, rest)
    | 'P' => (propertyEscape? f true rest).map fun (s, rest) => (.set s, rest)
    | 'a' => some (.literal '\x07' false, rest)
    | 'f' => some (.literal '\x0c' false, rest)
    | 't' => some (.literal '\t' false, rest)
    | 'n' => some (.literal '\n' false, rest)
    | 'r' => some (.literal '\r' false, rest)
    | 'v' => some (.literal '\x0b' false, rest)
    | 'A' => some (.look .textStart, rest)
    | 'z' => some (.look .textEnd, rest)
    | 'b' => (boundary? f rest).map fun (condition, rest) => (.look condition, rest)
    | 'B' => some (.look (.notWordBoundary f.wide), rest)
    | '<' => some (.look (.wordStart f.wide), rest)
    | '>' => some (.look (.wordEnd f.wide), rest)
    | c =>
      if isEscapable c then some (.literal c false, rest)
      else (letterClass? f c).map fun s => (.set s, rest)

/-! ## Classes in brackets -/

/-- One item of a class: a character or an escape. -/
def classPart? (f : Flags) : List Char → Option (Part × List Char)
  | [] => none
  | '\\' :: rest => escape? f rest
  | c :: rest => some (.literal c false, rest)

/-- The set that an item of a class stands for. In ASCII mode characters are bytes. -/
def Part.set? (f : Flags) : Part → Option CharSet
  | .literal c byte => if f.wide || byte || c.toNat < 128 then some (.single c) else none
  | .set s => some s
  | .look _ => none

/-- The character that counts for `-` in a class: the one after it that is no blank. -/
def peek (f : Flags) (cs : List Char) : Option Char :=
  let rest := cs.drop 1
  if f.extended then
    let rest := rest.dropWhile Unicode.isWhitespace
    match rest with
    | '#' :: rest => (rest.dropWhile Unicode.isWhitespace).head?
    | rest => rest.head?
  else rest.head?

/-- Reads a single item or a range of a class. -/
def classRange? (f : Flags) (cs : List Char) : Option (CharSet × List Char) := do
  let (first, rest) ← classPart? f cs
  match f.skip rest with
  | [] => none
  | '-' :: rest =>
    if peek f ('-' :: rest) = some ']' ∨ peek f ('-' :: rest) = some '-' then
      return (← first.set? f, '-' :: rest)
    else
      let rest ← f.next? ('-' :: rest)
      let (last, rest) ← classPart? f rest
      match first, last with
      | .literal a byteA, .literal b byteB =>
        guard (a ≤ b)
        let _ ← Part.set? f (.literal a byteA)
        let _ ← Part.set? f (.literal b byteB)
        return (.range a b, rest)
      | _, _ => none
  | rest => return (← first.set? f, rest)

/-- Reads a named class of ASCII characters such as `[:alpha:]`. -/
def namedClass? (f : Flags) (cs : List Char) : Option (CharSet × List Char) :=
  match cs with
  | '[' :: ':' :: rest => do
    let negated := rest.head? = some '^'
    let rest := if negated then rest.drop 1 else rest
    let name := rest.takeWhile (· ≠ ':')
    match rest.dropWhile (· ≠ ':') with
    | ':' :: ']' :: rest =>
      let s ← CharSet.asciiNamed? (String.ofList name)
      return (← f.close? negated s, rest)
    | _ => none
  | _ => none

/-- Whether the text begins with a named class, be it allowed under the flags or not. -/
def isNamedClass (cs : List Char) : Bool := (namedClass? {} cs).isSome

/-- The operations on sets in a class. -/
inductive SetOp
  | inter | diff | symDiff

/-- The result of an operation, of which both sides are taken under the flags. -/
def SetOp.apply (op : SetOp) (f : Flags) (s t : CharSet) : CharSet :=
  match op with
  | .inter => .inter (f.fold s) (f.fold t)
  | .diff => .diff (f.fold s) (f.fold t)
  | .symDiff => .symDiff (f.fold s) (f.fold t)

/-- The left side of an operation that waits for its right side. -/
abbrev Pending := Option (CharSet × SetOp)

/-- Completes a waiting operation. -/
def Pending.finish (pending : Pending) (f : Flags) (right : CharSet) : CharSet :=
  match pending with
  | none => right
  | some (left, op) => op.apply f left right

/-- Reads hyphens that stand for themselves; tells whether there are any. -/
def hyphens? (f : Flags) : Nat → List Char → Option (Bool × List Char)
  | 0, _ => none
  | fuel + 1, cs =>
    if cs.head? = some '-' then do
      let rest ← f.next? cs
      let (_, rest) ← hyphens? f fuel rest
      return (true, rest)
    else some (false, cs)

/-- Reads the signs after an opening bracket: `^` and the hyphens and brackets that stand for
themselves. Also tells whether the class is negated and which set the signs make up. -/
def classOpening? (f : Flags) (cs : List Char) : Option (Bool × CharSet × List Char) := do
  let rest ← f.next? cs
  let negated := rest.head? = some '^'
  let rest ← if negated then f.next? rest else some rest
  let (any, rest) ← hyphens? f (rest.length + 1) rest
  if any then return (negated, .single '-', rest)
  else if rest.head? = some ']' then return (negated, .single ']', ← f.next? rest)
  else return (negated, .empty, rest)

/-- Reads the items of a class up to its closing bracket. `pending` is an operation that waits
for its right side and `held` the union of the items since then. -/
def classItems? (f : Flags) (negated : Bool) :
    Nat → Pending → CharSet → List Char → Option (CharSet × List Char)
  | 0, _, _, _ => none
  | fuel + 1, pending, held, cs =>
    match f.skip cs with
    | [] => none
    | '[' :: rest =>
      if isNamedClass ('[' :: rest) then do
        let (s, rest) ← namedClass? f ('[' :: rest)
        classItems? f negated fuel pending (.union held s) rest
      else do
        let (innerNegated, start, rest) ← classOpening? f ('[' :: rest)
        let (s, rest) ← classItems? f innerNegated fuel none start rest
        classItems? f negated fuel pending (.union held s) rest
    | ']' :: rest => (f.close? negated (pending.finish f held)).map fun s => (s, rest)
    | '&' :: '&' :: rest =>
      classItems? f negated fuel (some (pending.finish f held, .inter)) .empty rest
    | '-' :: '-' :: rest =>
      classItems? f negated fuel (some (pending.finish f held, .diff)) .empty rest
    | '~' :: '~' :: rest =>
      classItems? f negated fuel (some (pending.finish f held, .symDiff)) .empty rest
    | cs => do
      let (s, rest) ← classRange? f cs
      classItems? f negated fuel pending (.union held s) rest

/-- Reads a class in brackets. -/
def class? (f : Flags) (cs : List Char) : Option (CharSet × List Char) := do
  let (negated, start, rest) ← classOpening? f cs
  classItems? f negated (cs.length + 1) none start rest

end Adventure.Regex
