/-!
# The SHA-1 digest

A message is padded to whole blocks of sixteen words, each block is stretched to eighty words by
a sliding window, and every word mixes into the five words of the state.
-/

namespace Adventure.Sha1

/-- Bits that leave at the left come in at the right. -/
def rotate (w : UInt32) (n : UInt32) : UInt32 := (w <<< n) ||| (w >>> (32 - n))

/-- The big-endian word of four bytes. -/
def word (a b c d : UInt8) : UInt32 :=
  (a.toUInt32 <<< 24) ||| (b.toUInt32 <<< 16) ||| (c.toUInt32 <<< 8) ||| d.toUInt32

/-- The four bytes of a word, most significant first. -/
def bytes (w : UInt32) : List UInt8 :=
  [(w >>> 24).toUInt8, (w >>> 16).toUInt8, (w >>> 8).toUInt8, w.toUInt8]

/-- The big-endian words of a list of bytes; a remainder of fewer than four bytes is dropped. -/
def words : List UInt8 → List UInt32
  | a :: b :: c :: d :: rest => word a b c d :: words rest
  | _ => []

/-- The message with a one bit, zeros and its length in bits, which together fill whole blocks. -/
def padded (message : List UInt8) : List UInt8 :=
  let bits := 8 * message.length
  message ++ 0x80 :: List.replicate ((119 - message.length % 64) % 64) 0
    ++ bytes (UInt32.ofNat (bits / UInt32.size)) ++ bytes (UInt32.ofNat bits)

/-- The five words of the state. -/
structure State where
  a : UInt32
  b : UInt32
  c : UInt32
  d : UInt32
  e : UInt32
  deriving DecidableEq, Repr

/-- The state before the first block. -/
def start : State := ⟨0x67452301, 0xEFCDAB89, 0x98BADCFE, 0x10325476, 0xC3D2E1F0⟩

/-- The word-wise sum of two states. -/
def State.add (s t : State) : State := ⟨s.a + t.a, s.b + t.b, s.c + t.c, s.d + t.d, s.e + t.e⟩

/-- The function and the constant of round `t`. -/
def mix (t : Nat) (s : State) : UInt32 :=
  if t < 20 then ((s.b &&& s.c) ||| (~~~s.b &&& s.d)) + 0x5A827999
  else if t < 40 then (s.b ^^^ s.c ^^^ s.d) + 0x6ED9EBA1
  else if t < 60 then ((s.b &&& s.c) ||| (s.b &&& s.d) ||| (s.c &&& s.d)) + 0x8F1BBCDC
  else (s.b ^^^ s.c ^^^ s.d) + 0xCA62C1D6

/-- The next word of the stretched block, from the sixteen words before it. -/
def stretch (window : List UInt32) : UInt32 :=
  rotate (window.getD 13 0 ^^^ window.getD 8 0 ^^^ window.getD 2 0 ^^^ window.getD 0 0) 1

/-- Runs `n` rounds from round `t` on; the head of `window` is the word of round `t`. -/
def rounds : Nat → Nat → List UInt32 → State → State
  | 0, _, _, s => s
  | n + 1, t, window, s =>
    rounds n (t + 1) (window.drop 1 ++ [stretch window])
      ⟨rotate s.a 5 + mix t s + s.e + window.headD 0, s.a, rotate s.b 30, s.c, s.d⟩

/-- The state after one more block of sixteen words. -/
def compress (s : State) (block : List UInt32) : State := s.add (rounds 80 0 block s)

/-- The lists of `n` consecutive elements; `held` are those of the list that is being filled. -/
def chunks {α : Type} (n : Nat) : List α → List α → List (List α)
  | _, [] => []
  | held, x :: rest =>
    if held.length + 1 = n then (held ++ [x]) :: chunks n [] rest
    else chunks n (held ++ [x]) rest

/-- The twenty bytes of the digest. -/
def digest (message : List UInt8) : List UInt8 :=
  let s := (chunks 16 [] (words (padded message))).foldl compress start
  [s.a, s.b, s.c, s.d, s.e].flatMap bytes

end Adventure.Sha1
