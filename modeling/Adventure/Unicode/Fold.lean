import Adventure.Unicode.Case

/-!
# Comparing letters without case

Two characters are the same but for their case if they fold to the same character. A character
folds to its small form, and a few variant letters fold to the usual one.
-/

namespace Adventure.Unicode

/-- Variants of small letters with the letters they fold to. -/
def foldedVariants : List (Nat × Nat) :=
  [(0xB5, 0x3BC), (0x17F, 0x73), (0x345, 0x3B9), (0x3C2, 0x3C3), (0x3D0, 0x3B2),
   (0x3D1, 0x3B8), (0x3D5, 0x3C6), (0x3D6, 0x3C0), (0x3F0, 0x3BA), (0x3F1, 0x3C1),
   (0x3F5, 0x3B5), (0x1C80, 0x432), (0x1C81, 0x434), (0x1C82, 0x43E), (0x1C83, 0x441),
   (0x1C84, 0x442), (0x1C85, 0x442), (0x1C86, 0x44A), (0x1C87, 0x463), (0x1C88, 0xA64B),
   (0x1E9B, 0x1E61), (0x1FBE, 0x3B9), (0x1FD3, 0x390), (0x1FE3, 0x3B0), (0xFB05, 0xFB06)]

/-- The letters that become small letters. -/
def foldedRuns : List CaseRun := letterPairs ++ oneWaySmall

/-- The code point that a code point folds to. -/
def foldKey (n : Nat) : Nat :=
  match foldedVariants.lookup n with
  | some k => k
  | none => (CaseRun.find? foldedRuns n).getD n

/-- All characters that fold to the same character as `c`. -/
def foldClass (c : Char) : List Char :=
  let key := foldKey c.toNat
  (key :: (foldedRuns.map CaseRun.flip).filterMap (·.partner? key)
    ++ (foldedVariants.filter (·.2 = key)).map (·.1)).map Char.ofNat

end Adventure.Unicode
