import Adventure.Unicode.Property

/-!
# Quoted texts

A text stands between quotes. Characters that cannot be seen and the quotes themselves are written
by escape sequences. Reading also takes escape sequences for bytes; bytes in a row have to make up
characters.
-/

namespace Adventure.Ron.Quoted

/-! ## Writing -/

/-- The digits of a number in base 16. -/
def hexDigits (n : Nat) : List Char := Nat.toDigits 16 n

/-- A character by its number. -/
def numbered (c : Char) : List Char := '\\' :: 'u' :: '\x7b' :: hexDigits c.toNat ++ ['\x7d']

/-- A character as it is written. -/
def escape (c : Char) : List Char :=
  if c = '\x00' then ['\\', '0']
  else if c = '\t' then ['\\', 't']
  else if c = '\r' then ['\\', 'r']
  else if c = '\n' then ['\\', 'n']
  else if c = '\'' then ['\\', '\'']
  else if c = '"' then ['\\', '"']
  else if c = '\\' then ['\\', '\\']
  else if Unicode.isGraphemeExtend c || !Unicode.isPrintable c then numbered c
  else [c]

/-- A text between quotes. -/
def write (s : String) : List Char := '"' :: s.toList.flatMap escape ++ ['"']

/-! ## Reading -/

/-- What stands between quotes: characters, and bytes given by number. -/
inductive Piece
  | char (c : Char)
  | byte (b : UInt8)
  deriving DecidableEq

/-- What is being read: plain text, the character after a backslash, the digits of a byte or those
of a character. -/
inductive Mode
  | plain
  | escaped
  | byteHigh
  | byteLow (high : Nat)
  | codeOpen
  | code (value count : Nat)

/-- The value of a digit in base 16. -/
def hexValue? (c : Char) : Option Nat :=
  if '0' ≤ c ∧ c ≤ '9' then some (c.toNat - 48)
  else if 'a' ≤ c ∧ c ≤ 'f' then some (c.toNat - 87)
  else if 'A' ≤ c ∧ c ≤ 'F' then some (c.toNat - 55)
  else none

/-- The character that a letter after a backslash stands for. -/
def simpleEscape? (c : Char) : Option Char :=
  if c = '\'' ∨ c = '"' ∨ c = '\\' then some c
  else if c = 'n' then some '\n'
  else if c = 'r' then some '\r'
  else if c = 't' then some '\t'
  else if c = '0' then some '\x00'
  else none

/-- The character with a number. -/
def ofCode? (n : Nat) : Option Char :=
  if h : n.isValidChar then some (Char.ofNatAux n h) else none

/-- Puts a piece before the pieces of the rest. -/
def before (piece : Piece) : Option (List Piece × List Char) → Option (List Piece × List Char)
  | some (pieces, rest) => some (piece :: pieces, rest)
  | none => none

/-- The pieces up to the quote `stop`, and what follows it. -/
def scan (stop : Char) : Mode → List Char → Option (List Piece × List Char)
  | _, [] => none
  | .plain, c :: rest =>
    if c = stop then some ([], rest)
    else if c = '\\' then scan stop .escaped rest
    else before (.char c) (scan stop .plain rest)
  | .escaped, c :: rest =>
    if c = 'x' then scan stop .byteHigh rest
    else if c = 'u' then scan stop .codeOpen rest
    else match simpleEscape? c with
      | some d => before (.char d) (scan stop .plain rest)
      | none => none
  | .byteHigh, c :: rest =>
    match hexValue? c with
    | some n => scan stop (.byteLow n) rest
    | none => none
  | .byteLow high, c :: rest =>
    match hexValue? c with
    | some n => before (.byte (UInt8.ofNat (16 * high + n))) (scan stop .plain rest)
    | none => none
  | .codeOpen, c :: rest => if c = '\x7b' then scan stop (.code 0 0) rest else none
  | .code value count, c :: rest =>
    if c = '\x7d' then
      if count = 0 then none
      else match ofCode? value with
        | some d => before (.char d) (scan stop .plain rest)
        | none => none
    else if count = 6 then none
    else match hexValue? c with
      | some n => scan stop (.code (16 * value + n) (count + 1)) rest
      | none => none

/-- The characters that bytes make up. -/
def ofBytes? (bytes : List UInt8) : Option (List Char) :=
  (String.fromUTF8? ⟨bytes.toArray⟩).map String.toList

/-- The text that pieces make up; `held` are the bytes just before. -/
def assemble (held : List UInt8) : List Piece → Option (List Char)
  | [] => if held.isEmpty then some [] else ofBytes? held
  | .byte b :: rest => assemble (held ++ [b]) rest
  | .char c :: rest => do
    let start ← if held.isEmpty then some [] else ofBytes? held
    let rest ← assemble [] rest
    return start ++ c :: rest

/-- The text that begins after a quote, and what follows the closing quote. -/
def read? (cs : List Char) : Option (String × List Char) := do
  let (pieces, rest) ← scan '"' .plain cs
  return (String.ofList (← assemble [] pieces), rest)

/-- The characters up to a closing sequence, and what follows it. -/
def upTo? (closing : List Char) : List Char → Option (List Char × List Char)
  | [] => none
  | c :: rest =>
    if closing.isPrefixOf (c :: rest) then some ([], (c :: rest).drop closing.length)
    else (upTo? closing rest).map fun (taken, rest) => (c :: taken, rest)

/-- A raw text after its letter: number signs and a quote, at the end the same in reverse. -/
def readRaw? (cs : List Char) : Option (String × List Char) :=
  let hashes := cs.takeWhile (· = '#')
  match cs.dropWhile (· = '#') with
  | '"' :: rest => (upTo? ('"' :: hashes) rest).map fun (taken, rest) => (String.ofList taken, rest)
  | _ => none

end Adventure.Ron.Quoted
