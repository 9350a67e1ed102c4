import Adventure.Uuid.Sha1

/-!
# Universally unique identifiers

An identifier is 128 bits. It is written as 32 small hexadecimal digits in groups of 8, 4, 4, 4
and 12 and read in that form, without hyphens, in braces or as a URN, with digits of either case.
`Uuid.named` derives an identifier from a namespace and a name, so that equal names always have
equal identifiers.
-/

namespace Adventure

/-- An identifier of 128 bits. -/
structure Uuid where
  bits : BitVec 128
  deriving DecidableEq

namespace Uuid

/-- The identifier whose bits are all zero. -/
def zero : Uuid := ⟨0⟩

instance : Inhabited Uuid := ⟨zero⟩

/-- The number that the bits write. -/
def toNat (id : Uuid) : Nat := id.bits.toNat

theorem toNat_inj {a b : Uuid} : a.toNat = b.toNat ↔ a = b := by
  cases a; cases b; simp [toNat, BitVec.toNat_inj]

/-- The small hexadecimal digit of a number below sixteen. -/
def digit (n : Nat) : Char := "0123456789abcdef".toList.getD n '0'

/-- The value of a hexadecimal digit. -/
def digitValue? (c : Char) : Option Nat :=
  if '0' ≤ c ∧ c ≤ '9' then some (c.toNat - 48)
  else if 'a' ≤ c ∧ c ≤ 'f' then some (c.toNat - 87)
  else if 'A' ≤ c ∧ c ≤ 'F' then some (c.toNat - 55)
  else none

/-- The lowest `k` hexadecimal digits of `n`, highest first. -/
def digits : Nat → Nat → List Char
  | 0, _ => []
  | k + 1, n => digits k (n / 16) ++ [digit (n % 16)]

/-- The number that hexadecimal digits write after the digits of `n`. -/
def valueFrom? (n : Nat) : List Char → Option Nat
  | [] => some n
  | c :: rest => (digitValue? c).bind fun d => valueFrom? (16 * n + d) rest

/-- The identifier with the given 32 hexadecimal digits. -/
def ofDigits? (cs : List Char) : Option Uuid :=
  if cs.length = 32 then (valueFrom? 0 cs).map fun n => ⟨BitVec.ofNat 128 n⟩ else none

/-- The 32 digits of an identifier in groups. -/
def toChars (id : Uuid) : List Char :=
  let ds := digits 32 id.toNat
  ds.take 8 ++ '-' :: (ds.drop 8).take 4 ++ '-' :: (ds.drop 12).take 4
    ++ '-' :: (ds.drop 16).take 4 ++ '-' :: ds.drop 20

/-- The written form of an identifier. -/
def toString (id : Uuid) : String := String.ofList id.toChars

instance : ToString Uuid := ⟨toString⟩

/-- The identifier of 32 digits in groups of 8, 4, 4, 4 and 12. -/
def ofGroups? (cs : List Char) : Option Uuid :=
  if cs.length = 36 ∧ cs[8]? = some '-' ∧ cs[13]? = some '-' ∧ cs[18]? = some '-'
      ∧ cs[23]? = some '-' then
    ofDigits? (cs.take 8 ++ (cs.drop 9).take 4 ++ (cs.drop 14).take 4 ++ (cs.drop 19).take 4
      ++ cs.drop 24)
  else none

/-- The identifier that a text writes. -/
def ofChars? (cs : List Char) : Option Uuid :=
  if cs.length = 32 then ofDigits? cs
  else if cs.length = 36 then ofGroups? cs
  else if cs.length = 38 ∧ cs.head? = some '\x7b' ∧ cs.getLast? = some '\x7d' then
    ofGroups? ((cs.drop 1).take 36)
  else if cs.length = 45 ∧ cs.take 9 = "urn:uuid:".toList then ofGroups? (cs.drop 9)
  else none

/-- The identifier that a text writes. -/
def ofString? (text : String) : Option Uuid := ofChars? text.toList

/-- The sixteen bytes of an identifier, most significant first. -/
def toBytes (id : Uuid) : List UInt8 :=
  (List.range 16).map fun i => UInt8.ofNat (id.toNat >>> (8 * (15 - i)))

/-- The identifier with the given bytes, most significant first. -/
def ofBytes (bytes : List UInt8) : Uuid :=
  ⟨BitVec.ofNat 128 (bytes.foldl (fun n b => 256 * n + b.toNat) 0)⟩

/-- The identifier of version 5 for a name in a namespace: the first sixteen bytes of the digest
of both, with the version and the variant written over six of its bits. -/
def named (space : Uuid) (name : String) : Uuid :=
  let hash := (Sha1.digest (space.toBytes ++ name.toUTF8.toList)).take 16
  ofBytes (hash.mapIdx fun i b =>
    if i = 6 then (b &&& 0x0F) ||| 0x50 else if i = 8 then (b &&& 0x3F) ||| 0x80 else b)

end Uuid

end Adventure
