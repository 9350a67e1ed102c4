import Adventure.Regex.Class

/-!
# Reading regular expressions

An expression is a choice between sequences of repeated parts. The flags that a group or a
directive sets hold to the end of the group around them. Every step of the reader takes up a
character, so the length of the text bounds its steps.

Engines set limits to the size of an expression and to the depth of its groups. These are left out
here: a text that is well formed is read, however long and nested it is. Whether an engine accepts
the expression of a pattern is for `Regex.Engine` to say.
-/

namespace Adventure.Regex

/-- An item of a sequence: an expression or a directive that only sets flags. -/
inductive Item
  | expression (r : Regex)
  | directive

/-- The expression that an item is. -/
def Item.regex : Item → Regex
  | expression r => r
  | directive => .empty

/-- The sequence of items, which come last one first. -/
def sequence (items : List Item) : Regex :=
  items.foldl (fun r item => .seq item.regex r) .empty

/-- The choice between branches, which come last one first. -/
def choice (last : Regex) (branches : List Regex) : Regex :=
  branches.foldl (fun r branch => .alt branch r) last

/-- Sets the flag with a given letter. -/
def Flags.set? (f : Flags) (letter : Char) (value : Bool) : Option Flags :=
  match letter with
  | 'i' => some { f with ignoreCase := value }
  | 'm' => some { f with multiLine := value }
  | 's' => some { f with dotAll := value }
  | 'U' => some { f with swapGreed := value }
  | 'u' => some { f with wide := value }
  | 'R' => some { f with crlf := value }
  | 'x' => some { f with extended := value }
  | _ => none

/-- Reads flags up to the sign that ends them, which is the first result. `seen` are the letters
and signs read before. A hyphen, which may stand once, turns off the flags after it. -/
def flags? (f : Flags) (seen : List Char) : List Char → Option (Char × Bool × Flags × List Char)
  | [] => none
  | c :: rest =>
    if c = ':' ∨ c = ')' then
      if seen.head? = some '-' then none else some (c, seen.isEmpty, f, rest)
    else if c ∈ seen then none
    else if c = '-' then flags? f ('-' :: seen) rest
    else (f.set? c (!seen.contains '-')).bind fun f => flags? f (c :: seen) rest

/-- Whether a character may stand in the name of a capture. -/
def isNameChar (first : Bool) (c : Char) : Bool :=
  c = '_' || if first then Unicode.isAlphabetic c
    else Unicode.isAlphanumeric c || c = '.' || c = '[' || c = ']'

/-- Reads the name of a capture, which must not be one of `names`. -/
def captureName? (names : List (List Char)) (cs : List Char) : Option (List Char × List Char) :=
  let name := cs.takeWhile (· ≠ '>')
  match cs.dropWhile (· ≠ '>'), name with
  | '>' :: rest, first :: more =>
    if isNameChar true first && more.all (isNameChar false) && !names.contains name then
      some (name, rest)
    else none
  | _, _ => none

/-- What the opening bracket of a group leads to. -/
inductive Opening
  /-- Flags for the rest of the group around. -/
  | directive (flags : Flags)
  /-- A group with flags of its own and, for a named capture, a name. -/
  | group (flags : Flags) (name : Option (List Char))

/-- Reads what follows an opening bracket. -/
def opening? (f : Flags) (names : List (List Char)) (cs : List Char) :
    Option (Opening × List Char) :=
  match f.skip cs with
  | '?' :: '=' :: _ => none
  | '?' :: '!' :: _ => none
  | '?' :: '<' :: '=' :: _ => none
  | '?' :: '<' :: '!' :: _ => none
  | '?' :: 'P' :: '<' :: rest =>
    (captureName? names rest).map fun (name, rest) => (.group f (some name), rest)
  | '?' :: '<' :: rest =>
    (captureName? names rest).map fun (name, rest) => (.group f (some name), rest)
  | '?' :: rest => do
    let (ending, none?, f, rest) ← flags? f [] rest
    if ending = ')' then
      if none? then none else some (.directive f, rest)
    else some (.group f none, rest)
  | rest => some (.group f none, rest)

/-- Reads a number of at most 32 bits, with white space around it. -/
def count? (f : Flags) (cs : List Char) : Option (Nat × List Char) :=
  let rec digits : Nat → List Char → List Char × List Char
    | 0, cs => ([], cs)
    | fuel + 1, cs =>
      match cs with
      | c :: rest =>
        if c.isDigit then
          let (ds, rest) := digits fuel (f.skip rest)
          (c :: ds, rest)
        else ([], cs)
      | [] => ([], [])
  let (ds, rest) := digits (cs.length + 1) (cs.dropWhile Unicode.isWhitespace)
  let n := ds.foldl (fun n d => 10 * n + (d.toNat - 48)) 0
  if ds.isEmpty ∨ UInt32.size ≤ n then none
  else some (n, f.skip (rest.dropWhile Unicode.isWhitespace))

/-- Drops the sign that makes a repetition lazy, which does not change what matches. -/
def dropLazy : List Char → List Char
  | '?' :: rest => rest
  | rest => rest

/-- Reads a count in braces, after the opening one. -/
def counts? (f : Flags) (cs : List Char) : Option (Nat × Option Nat × List Char) := do
  let (least, rest) ← count? f (f.skip cs)
  match rest with
  | ',' :: rest =>
    match f.skip rest with
    | '\x7d' :: rest => some (least, none, dropLazy (f.skip rest))
    | rest =>
      let (most, rest) ← count? f rest
      match rest with
      | '\x7d' :: rest =>
        if least ≤ most then some (least, some most, dropLazy (f.skip rest)) else none
      | _ => none
  | '\x7d' :: rest => some (least, some least, dropLazy (f.skip rest))
  | _ => none

/-- The set of characters that a dot stands for. -/
def dot? (f : Flags) : Option CharSet :=
  if !f.wide then none
  else if f.dotAll then some (.compl .empty)
  else if f.crlf then some (.compl (.union (.single '\r') (.single '\n')))
  else some (.compl (.single '\n'))

/-- The expression that a part stands for by itself. -/
def Part.regex? (f : Flags) : Part → Option Regex
  | .literal c byte =>
    if !f.wide && byte && 128 ≤ c.toNat then none else some (.char (f.fold (.single c)))
  | .set s => some (.char s)
  | .look condition => some (.look condition)

/-- Reads a part that is no group, no class and no repetition. -/
def part? (f : Flags) : List Char → Option (Regex × List Char)
  | [] => none
  | '\\' :: rest => do
    let (part, rest) ← escape? f rest
    return (← part.regex? f, rest)
  | '.' :: rest => (dot? f).map fun s => (.char s, rest)
  | '^' :: rest =>
    some (.look (if f.multiLine then .lineStart f.crlf else .textStart), rest)
  | '$' :: rest =>
    some (.look (if f.multiLine then .lineEnd f.crlf else .textEnd), rest)
  | c :: rest => some (.char (f.fold (.single c)), rest)

/-- Repeats the last item; there has to be one that is an expression. -/
def repeatLast? (least : Nat) (most : Option Nat) : List Item → Option (List Item)
  | .expression r :: items => some (.expression (.rep r least most) :: items)
  | _ => none

/-- Reads a choice up to the end of its group, or of the text outside all groups. `branches` and
`items` are what has been read of the choice, and `names` the names of all captures so far. -/
def choice? : Nat → Bool → Flags → List (List Char) → List Regex → List Item → List Char →
    Option (Regex × List (List Char) × List Char)
  | 0, _, _, _, _, _, _ => none
  | fuel + 1, grouped, f, names, branches, items, cs =>
    match f.skip cs with
    | [] => if grouped then none else some (choice (sequence items) branches, names, [])
    | ')' :: rest =>
      if grouped then some (choice (sequence items) branches, names, rest) else none
    | '|' :: rest => choice? fuel grouped f names (sequence items :: branches) [] rest
    | '(' :: rest => do
      match ← opening? f names rest with
      | (.directive f, rest) => choice? fuel grouped f names branches (.directive :: items) rest
      | (.group inner name, rest) =>
        let (r, names, rest) ← choice? fuel true inner (name.toList ++ names) [] [] rest
        choice? fuel grouped f names branches (.expression r :: items) rest
    | '[' :: rest => do
      let (s, rest) ← class? f ('[' :: rest)
      choice? fuel grouped f names branches (.expression (.char s) :: items) rest
    | '?' :: rest => do
      choice? fuel grouped f names branches (← repeatLast? 0 (some 1) items) (dropLazy rest)
    | '*' :: rest => do
      choice? fuel grouped f names branches (← repeatLast? 0 none items) (dropLazy rest)
    | '+' :: rest => do
      choice? fuel grouped f names branches (← repeatLast? 1 none items) (dropLazy rest)
    | '\x7b' :: rest => do
      let (least, most, rest) ← counts? f rest
      choice? fuel grouped f names branches (← repeatLast? least most items) rest
    | cs => do
      let (r, rest) ← part? f cs
      choice? fuel grouped f names branches (.expression r :: items) rest

/-- The expression that a text writes. -/
def parse? (text : String) : Option Regex :=
  let cs := text.toList
  (choice? (cs.length + 1) false {} [] [] [] cs).map (·.1)

end Adventure.Regex
