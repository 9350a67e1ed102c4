import Adventure.Ron.Basic
import Adventure.Ron.Lexer

/-!
# Parsing RON

`Ron.parse?` reads a document: the extensions it asks for and one value. Lists, maps, tuples and
records may end in a comma. Values may be nested only so deep: what is present costs one level,
and a bracket with what stands in it costs two.
-/

namespace Adventure.Ron

open Scan

/-- How deep values may be nested. -/
def levels : Nat := 128

/-! ## Parts in brackets -/

/-- The parts up to a closing bracket, with commas between them and perhaps after the last one.
`fuel` bounds their number. -/
def separated {α : Type} (part : Scan α) (closing : Char) : Nat → Scan (List α)
  | 0 => failure
  | fuel + 1 => do
    blanks
    if ← tryTake [closing] then return []
    let a ← part
    blanks
    if ← tryTake [','] then return a :: (← separated part closing fuel)
    blanks
    expect closing
    return [a]

/-- The parts up to a closing bracket. -/
def parts {α : Type} (part : Scan α) (closing : Char) : Scan (List α) := fun text =>
  separated part closing (text.length + 1) text

/-- A field: its name, a colon and its value. -/
def field (value : Scan Ron) : Scan (String × Ron) := do
  let name ← ofRead identifier?
  blanks
  expect ':'
  blanks
  return (name, ← value)

/-- An entry of a map. -/
def entry (value : Scan Ron) : Scan (Ron × Ron) := do
  let key ← value
  blanks
  expect ':'
  blanks
  return (key, ← value)

/-- Whether a record goes on here and not a tuple: an identifier and a colon follow. -/
def seesField : Scan Bool := fun text =>
  match afterBlanks? .words text with
  | none => none
  | some rest => match identifier? rest with
    | none => some (false, text)
    | some (_, rest) => match afterBlanks? .words rest with
      | none => none
      | some rest => some (rest.head? == some ':', text)

/-- A tuple or a record after its opening bracket. -/
def afterBracket (name : Option String) (value : Scan Ron) : Scan Ron := do
  if ← seesField then return .record name (← parts (field value) ')')
  else return .tuple name (← parts value ')')

/-! ## Single words -/

/-- A character between single quotes. -/
def character? : List Char → Option (List Char)
  | '\'' :: '\'' :: rest => some rest
  | text =>
    match Quoted.scan '\'' .plain text with
    | some ([_], rest) => some rest
    | _ => none

/-- A value that is no collection and has no name: a text, a number, a character or bytes. -/
def scalar : Scan Ron := ofRead fun text =>
  let unused (rest? : Option (List Char)) := rest?.map fun rest => (Ron.other, rest)
  match text with
  | '"' :: rest => (Quoted.read? rest).map fun (s, rest) => (.string s, rest)
  | 'r' :: rest => (Quoted.readRaw? rest).map fun (s, rest) => (.string s, rest)
  | 'b' :: '\'' :: rest => unused (character? rest)
  | 'b' :: '"' :: rest => unused ((Quoted.scan '"' .plain rest).map (·.2))
  | 'b' :: 'r' :: rest => unused ((Quoted.readRaw? rest).map (·.2))
  | '\'' :: rest => unused (character? rest)
  | text => unused (afterNumber? text)

/-- Takes a keyword if the text begins with it. -/
def tryKeyword (word : String) : Scan Bool := fun text =>
  match afterKeyword? word text with
  | some rest => some (true, rest)
  | none => some (false, text)

/-- Takes an identifier if the text begins with one. -/
def tryIdentifier : Scan (Option String) := fun text =>
  match identifier? text with
  | some (name, rest) => some (some name, rest)
  | none => some (none, text)

/-- Takes blanks and an opening bracket if they come next. -/
def tryBracket : Scan Bool := fun text =>
  match afterBlanks? .words text with
  | none => none
  | some ('(' :: rest) => some (true, rest)
  | some _ => some (false, text)

/-! ## Values -/

/-- A value that is present, after its bracket. -/
def presentAfterBracket (content : Scan Ron) : Scan Ron := do
  blanks
  let v ← content
  blanks
  let _ ← tryTake [',']
  blanks
  expect ')'
  return .present v

/-- A value, given how to read what is present in it and what stands in its brackets; `opens` says
whether there may be brackets. -/
def node (opens : Bool) (content element : Scan Ron) : Scan Ron := do
  if ← tryKeyword "true" then return .bool true
  if ← tryKeyword "false" then return .bool false
  if ← tryKeyword "None" then return .absent
  let saw ← sees "Some".toList
  match ← tryIdentifier with
  | some name =>
    if ← tryBracket then
      if saw && name == "Some" then presentAfterBracket content
      else if opens then afterBracket (some name) element
      else failure
    else return .identifier name
  | none =>
    if ← tryTake ['('] then
      if opens then afterBracket none element else failure
    else if ← tryTake ['['] then
      if opens then return .list (← parts element ']') else failure
    else if ← tryTake ['\x7b'] then
      if opens then return .map (← parts (entry element) '\x7d') else failure
    else scalar

/-- A value that is nested no deeper than some number of levels. -/
def value : Nat → Scan Ron
  | 0 => node false failure failure
  | 1 => node true (value 0) failure
  | n + 2 => node true (value (n + 1)) (value n)

/-! ## Documents -/

/-- Adds an extension by name. -/
def Extensions.with? (e : Extensions) : String → Option Extensions
  | "unwrap_newtypes" => some e
  | "unwrap_variant_newtypes" => some e
  | "implicit_some" => some { e with implicitPresent := true }
  | "explicit_struct_names" => some { e with explicitNames := true }
  | _ => none

/-- The names of extensions, with commas between them and perhaps after the last one. -/
def extensionNames (e : Extensions) : Nat → Scan Extensions
  | 0 => failure
  | fuel + 1 => do
    let e ← match e.with? (← ofRead identifier?) with
      | some e => pure e
      | none => failure
    blanks
    if ← tryTake [','] then
      blanks
      let more : Bool := match identifier? (← get) with
        | some _ => true
        | none => false
      if more then extensionNames e fuel else return e
    else return e

/-- The extensions that stand at the beginning of a document, in any number of brackets. -/
def extensions (e : Extensions) : Nat → Scan Extensions
  | 0 => failure
  | fuel + 1 => do
    blanks
    if ← sees ['#'] then
      for word in ["#", "!", "[", "enable", "("] do
        if !(← tryTake word.toList) then failure
        blanks
      let e ← extensionNames e ((← get).length + 1)
      blanks
      expect ')'
      blanks
      expect ']'
      extensions e fuel
    else return e

/-- A document: extensions, a value and nothing else. -/
def document : Scan (Extensions × Ron) := do
  let e ← extensions {} ((← get).length + 1)
  let v ← value levels
  blanks
  return (e, v)

/-- The extensions and the value that a text writes. -/
def parse? (s : String) : Option (Extensions × Ron) :=
  match document s.toList with
  | some (d, []) => some d
  | _ => none

end Adventure.Ron
