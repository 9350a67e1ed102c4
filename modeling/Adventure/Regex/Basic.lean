import Adventure.Regex.CharSet

/-!
# Regular expressions

An expression relates the positions of a text: it leads from where a match begins to where it may
end. `Regex.ends` computes the positions at which a match may end; since positions never go back,
a repetition has nothing new to offer after as many rounds as the text has characters.
-/

namespace Adventure

/-- Conditions on a position that take up no characters. -/
inductive Look
  | textStart | textEnd
  /-- Where a line begins; with `crlf` carriage returns end lines too. -/
  | lineStart (crlf : Bool)
  | lineEnd (crlf : Bool)
  /-- Conditions on the words next to the position; without `wide` words consist of ASCII. -/
  | wordBoundary (wide : Bool)
  | notWordBoundary (wide : Bool)
  | wordStart (wide : Bool)
  | wordEnd (wide : Bool)
  | wordStartHalf (wide : Bool)
  | wordEndHalf (wide : Bool)
  deriving DecidableEq, Repr

namespace Look

/-- Whether the character at a place is a word character. -/
def isWordAt (wide : Bool) (c : Option Char) : Bool :=
  c.any fun c => if wide then Unicode.isWordChar c else CharSet.asciiWord.contains c

/-- Whether the condition holds between the characters before and after a position. -/
def holdsBetween (before after : Option Char) : Look → Bool
  | textStart => before.isNone
  | textEnd => after.isNone
  | lineStart crlf =>
    before.isNone || before == some '\n'
      || (crlf && before == some '\r' && after != some '\n')
  | lineEnd crlf =>
    after.isNone || (after == some '\n' && !(crlf && before == some '\r'))
      || (crlf && after == some '\r')
  | wordBoundary wide => isWordAt wide before != isWordAt wide after
  | notWordBoundary wide => isWordAt wide before == isWordAt wide after
  | wordStart wide => !isWordAt wide before && isWordAt wide after
  | wordEnd wide => isWordAt wide before && !isWordAt wide after
  | wordStartHalf wide => !isWordAt wide before
  | wordEndHalf wide => !isWordAt wide after

/-- Whether the condition holds at position `i` of a text. -/
def holdsAt (look : Look) (text : List Char) (i : Nat) : Bool :=
  look.holdsBetween (if i = 0 then none else text[i - 1]?) text[i]?

end Look

/-- A regular expression. -/
inductive Regex
  | empty
  | char (set : CharSet)
  | look (condition : Look)
  | seq (r s : Regex)
  | alt (r s : Regex)
  /-- At least `least` and at most `most` matches in a row. -/
  | rep (r : Regex) (least : Nat) (most : Option Nat)

namespace Regex

/-- Follows a step `k` times. -/
def power (step : List Nat → List Nat) : Nat → List Nat → List Nat
  | 0, positions => positions
  | k + 1, positions => power step k (step positions)

/-- Follows a step up to `k` times. -/
def upTo (step : List Nat → List Nat) : Nat → List Nat → List Nat
  | 0, positions => positions
  | k + 1, positions => (positions ++ upTo step k (step positions)).eraseDups

/-- The positions of `text` at which a match that begins at position `i` may end. -/
def ends (text : List Char) : Regex → Nat → List Nat
  | empty, i => [i]
  | char set, i => if text[i]?.any set.contains then [i + 1] else []
  | look condition, i => if condition.holdsAt text i then [i] else []
  | seq r s, i => ((ends text r i).flatMap (ends text s)).eraseDups
  | alt r s, i => (ends text r i ++ ends text s i).eraseDups
  | rep r least most, i =>
    let rounds := text.length + 2
    let step := fun positions => (positions.flatMap (ends text r)).eraseDups
    let reached := power step (min least rounds) [i]
    upTo step (match most with
      | none => rounds
      | some most => min (most - least) rounds) reached

/-- Whether the expression matches somewhere in a text. -/
def matchesIn (r : Regex) (text : String) : Bool :=
  (List.range (text.toList.length + 1)).any fun i => !(ends text.toList r i).isEmpty

end Regex

end Adventure
