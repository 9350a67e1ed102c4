import Adventure.Ron.Basic
import Adventure.Ron.Quoted

/-!
# Printing RON

Each item, entry or field stands on a line of its own, indented by four spaces more than what it
belongs to and followed by a comma. Tuples stand on one line.
-/

namespace Adventure.Ron

/-- The space before a line at some depth. -/
def indent (depth : Nat) : List Char := List.replicate (4 * depth) ' '

/-- Lines at a depth, between brackets; nothing at all stands between brackets without lines. -/
def block (opening closing : Char) (depth : Nat) (lines : List (List Char)) : List Char :=
  match lines with
  | [] => [opening, closing]
  | lines =>
    opening :: '\n' :: lines.flatMap (fun line => indent (depth + 1) ++ line ++ [',', '\n'])
      ++ indent depth ++ [closing]

/-- Parts with a comma and a space between neighbours. -/
def commas : List (List Char) → List Char
  | [] => []
  | [part] => part
  | part :: parts => part ++ [',', ' '] ++ commas parts

/-- A name that may be left out. -/
def nameChars : Option String → List Char
  | none => []
  | some name => name.toList

mutual

/-- The value as it is printed where lines are indented by `depth`. -/
def printAt (depth : Nat) : Ron → List Char
  | bool b => (if b then "true" else "false").toList
  | string s => Quoted.write s
  | other => "0".toList
  | absent => "None".toList
  | present v => "Some(".toList ++ printAt depth v ++ [')']
  | identifier name => name.toList
  | list items => block '[' ']' depth (printItems (depth + 1) items)
  | map entries => block '\x7b' '\x7d' depth (printEntries (depth + 1) entries)
  | tuple name items => nameChars name ++ '(' :: commas (printItems depth items) ++ [')']
  | record name fields => nameChars name ++ block '(' ')' depth (printFields (depth + 1) fields)

/-- The items of a list. -/
def printItems (depth : Nat) : List Ron → List (List Char)
  | [] => []
  | v :: vs => printAt depth v :: printItems depth vs

/-- The entries of a map. -/
def printEntries (depth : Nat) : List (Ron × Ron) → List (List Char)
  | [] => []
  | (k, v) :: es => (printAt depth k ++ [':', ' '] ++ printAt depth v) :: printEntries depth es

/-- The fields of a record. -/
def printFields (depth : Nat) : List (String × Ron) → List (List Char)
  | [] => []
  | (name, v) :: fs => (name.toList ++ [':', ' '] ++ printAt depth v) :: printFields depth fs

end

/-- The value as it is printed. -/
def print (v : Ron) : String := String.ofList (printAt 0 v)

end Adventure.Ron
