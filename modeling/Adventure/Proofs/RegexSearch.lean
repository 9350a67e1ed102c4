import Adventure.Regex.Basic
import Mathlib.Logic.Basic

/-!
# Searching with captures

`Regex.ends` says where a match may end, which is all that a test needs. A search with captures
has to choose: it takes the leftmost match and, of several that begin there, the one it comes to
first. `CapturingRegex.ways` lists the matches from a position in that order: the first branch of
a choice comes before the second, a part that may be left out is rather taken, and a repetition
goes on as long as it can. `plain` forgets the captures and the preferences; what is left is
the expression whose matches `Regex.ends` finds (`stopsAt_ways`).
-/

namespace Adventure

/-- A regular expression with named captures and the preferences of a search. -/
inductive CapturingRegex
  | empty
  | char (c : Char)
  | wordChar
  | textStart
  | textEnd
  | seq (r s : CapturingRegex)
  /-- Either of two expressions, the first one if both match. -/
  | alt (r s : CapturingRegex)
  | group (r : CapturingRegex)
  /-- The expression or nothing, rather the expression. -/
  | optional (r : CapturingRegex)
  /-- The expression once or several times in a row, rather more often. -/
  | repeated (r : CapturingRegex)
  | capture (name : String) (r : CapturingRegex)

namespace CapturingRegex

/-- How the expression is written. -/
def written : CapturingRegex → List Char
  | empty => []
  | char c => [c]
  | wordChar => ['\\', 'w']
  | textStart => ['^']
  | textEnd => ['$']
  | seq r s => r.written ++ s.written
  | alt r s => r.written ++ '|' :: s.written
  | group r => ['(', '?', ':'] ++ r.written ++ [')']
  | optional r => r.written ++ ['?']
  | repeated r => r.written ++ ['+']
  | capture name r => ['(', '?', '<'] ++ name.toList ++ '>' :: r.written ++ [')']

/-- The expression without its captures. -/
def plain : CapturingRegex → Regex
  | empty => .empty
  | char c => .char (.single c)
  | wordChar => .char (.having Unicode.isWordChar)
  | textStart => .look .textStart
  | textEnd => .look .textEnd
  | seq r s => .seq r.plain s.plain
  | alt r s => .alt r.plain s.plain
  | group r => r.plain
  | optional r => .rep r.plain 0 (some 1)
  | repeated r => .rep r.plain 1 none
  | capture _ r => r.plain

/-! ## Ways to match -/

/-- A match from a given position: where it ends, and what its captures hold by name. Of several
values of one capture the last one comes first. -/
structure Way where
  stop : Nat
  captures : List (String × String)
  deriving DecidableEq, Repr

/-- The way that goes on with `next` where `way` ends. -/
def Way.followedBy (way next : Way) : Way := ⟨next.stop, next.captures ++ way.captures⟩

/-- At least one and at most `n` steps in a row, rather more. A step that takes up nothing is the
last one. -/
def rounds (step : Nat → List Way) : Nat → Nat → List Way
  | 0, _ => []
  | n + 1, i => (step i).flatMap fun way =>
    (if i < way.stop then (rounds step n way.stop).map way.followedBy else []) ++ [way]

/-- The characters between two positions of a text. -/
def slice (text : List Char) (start stop : Nat) : String :=
  String.ofList ((text.drop start).take (stop - start))

/-- The ways to match from a position, in the order in which a search tries them. -/
def ways (text : List Char) : CapturingRegex → Nat → List Way
  | empty, i => [⟨i, []⟩]
  | char c, i => if text[i]? = some c then [⟨i + 1, []⟩] else []
  | wordChar, i => if text[i]?.any Unicode.isWordChar then [⟨i + 1, []⟩] else []
  | textStart, i => if i = 0 then [⟨i, []⟩] else []
  | textEnd, i => if i = text.length then [⟨i, []⟩] else []
  | seq r s, i => (ways text r i).flatMap fun way => (ways text s way.stop).map way.followedBy
  | alt r s, i => ways text r i ++ ways text s i
  | group r, i => ways text r i
  | optional r, i => ways text r i ++ [⟨i, []⟩]
  | repeated r, i => rounds (ways text r) (text.length + 1) i
  | capture name r, i => (ways text r i).map fun way =>
    ⟨way.stop, (name, slice text i way.stop) :: way.captures⟩

/-- The way that a search takes: the first one from the leftmost position that has any. -/
def search (r : CapturingRegex) (text : List Char) : Option Way :=
  (List.range (text.length + 1)).findSome? fun i => (ways text r i).head?

end CapturingRegex

theorem CharSet.contains_single (c x : Char) : (CharSet.single c).contains x = decide (x = c) := by
  rw [Bool.eq_iff_iff, CharSet.single, CharSet.contains, Bool.and_eq_true, decide_eq_true_iff,
    decide_eq_true_iff, decide_eq_true_iff]
  exact ⟨fun h => Char.le_antisymm h.2 h.1, fun h => h ▸ ⟨Char.le_refl x, Char.le_refl x⟩⟩

/-! ## Positions that are reached -/

namespace Regex

/-- Whether `k` matches in a row lead from one position to another. -/
def Reaches (text : List Char) (r : Regex) : Nat → Nat → Nat → Prop
  | 0, i, j => j = i
  | k + 1, i, j => ∃ m ∈ ends text r i, Reaches text r k m j

variable {text : List Char} {r : Regex} {j : Nat}

theorem mem_power {k : Nat} {positions : List Nat} :
    j ∈ power (fun positions => (positions.flatMap (ends text r)).eraseDups) k positions ↔
      ∃ i ∈ positions, Reaches text r k i j := by
  induction k generalizing positions with
  | zero => simp [power, Reaches]
  | succ k ih =>
    simp only [power, ih, Reaches, List.mem_eraseDups, List.mem_flatMap]
    grind

theorem mem_upTo {n : Nat} {positions : List Nat} :
    j ∈ upTo (fun positions => (positions.flatMap (ends text r)).eraseDups) n positions ↔
      ∃ k ≤ n, ∃ i ∈ positions, Reaches text r k i j := by
  induction n generalizing positions with
  | zero => simp [upTo, Reaches]
  | succ n ih =>
    simp only [upTo, List.mem_eraseDups, List.mem_append, ih, List.mem_flatMap]
    constructor
    · rintro (hj | ⟨k, hk, m, ⟨i, hi, hm⟩, hreaches⟩)
      · exact ⟨0, Nat.zero_le _, j, hj, rfl⟩
      · exact ⟨k + 1, Nat.succ_le_succ hk, i, hi, m, hm, hreaches⟩
    · rintro ⟨_ | k, hk, i, hi, hreaches⟩
      · exact .inl (hreaches ▸ hi)
      · obtain ⟨m, hm, hreaches⟩ := hreaches
        exact .inr ⟨k, Nat.le_of_succ_le_succ hk, m, ⟨i, hi, hm⟩, hreaches⟩

end Regex

namespace CapturingRegex

variable {text : List Char} {i j : Nat}

/-! ## Bounds -/

/-- The way leads from a position to the same or a later one within the text. -/
def Way.Within (text : List Char) (i : Nat) (way : Way) : Prop :=
  i ≤ way.stop ∧ way.stop ≤ text.length

theorem Way.Within.followedBy {way next : Way} (h : way.Within text i)
    (hnext : next.Within text way.stop) : (way.followedBy next).Within text i :=
  ⟨Nat.le_trans h.1 hnext.1, hnext.2⟩

theorem within_of_mem_rounds {step : Nat → List Way}
    (hstep : ∀ i ≤ text.length, ∀ way ∈ step i, way.Within text i) {n : Nat} :
    ∀ i ≤ text.length, ∀ way ∈ rounds step n i, way.Within text i := by
  induction n with
  | zero => simp [rounds]
  | succ n ih =>
    intro i hi way hway
    simp only [rounds, List.mem_flatMap, List.mem_append, List.mem_singleton] at hway
    obtain ⟨first, hfirst, hway | rfl⟩ := hway
    · have hwithin := hstep i hi first hfirst
      split at hway
      · obtain ⟨next, hnext, rfl⟩ := List.mem_map.1 hway
        exact hwithin.followedBy (ih first.stop hwithin.2 next hnext)
      · cases hway
    · exact hstep i hi way hfirst

theorem within_of_mem_ways (r : CapturingRegex) :
    ∀ i ≤ text.length, ∀ way ∈ ways text r i, way.Within text i := by
  induction r with
  | empty | textStart | textEnd =>
    intro i hi way hway
    obtain rfl : way = ⟨i, []⟩ := by
      simp only [ways] at hway
      grind
    exact ⟨Nat.le_refl i, hi⟩
  | char | wordChar =>
    intro i hi way hway
    obtain ⟨hlt, rfl⟩ : i < text.length ∧ way = ⟨i + 1, []⟩ := by
      simp only [ways] at hway
      grind
    exact ⟨Nat.le_succ i, hlt⟩
  | seq r s ihr ihs =>
    intro i hi way hway
    simp only [ways, List.mem_flatMap, List.mem_map] at hway
    obtain ⟨first, hfirst, next, hnext, rfl⟩ := hway
    have hwithin := ihr i hi first hfirst
    exact hwithin.followedBy (ihs first.stop hwithin.2 next hnext)
  | alt r s ihr ihs =>
    intro i hi way hway
    rcases List.mem_append.1 hway with hway | hway
    · exact ihr i hi way hway
    · exact ihs i hi way hway
  | group r ih => exact ih
  | optional r ih =>
    intro i hi way hway
    rcases List.mem_append.1 hway with hway | hway
    · exact ih i hi way hway
    · obtain rfl := List.mem_singleton.1 hway
      exact ⟨Nat.le_refl i, hi⟩
  | repeated r ih => exact within_of_mem_rounds ih
  | capture name r ih =>
    intro i hi way hway
    obtain ⟨inner, hinner, rfl⟩ := List.mem_map.1 hway
    exact ih i hi inner hinner

/-! ## Ways and ends -/

/-- Whether one of the ways stops at a position. -/
def StopsAt (ways : List Way) (j : Nat) : Prop := ∃ way ∈ ways, way.stop = j

section

variable {r : CapturingRegex}
  (hr : ∀ i ≤ text.length, ∀ j, StopsAt (ways text r i) j ↔ j ∈ Regex.ends text r.plain i)
include hr

theorem reaches_of_mem_rounds {n : Nat} : ∀ {i : Nat}, i ≤ text.length →
    ∀ way ∈ rounds (ways text r) n i, ∃ k < n, Regex.Reaches text r.plain (k + 1) i way.stop := by
  induction n with
  | zero => simp [rounds]
  | succ n ih =>
    intro i hi way hway
    simp only [rounds, List.mem_flatMap, List.mem_append, List.mem_singleton] at hway
    obtain ⟨first, hfirst, hway⟩ := hway
    have hends : first.stop ∈ Regex.ends text r.plain i := (hr i hi _).1 ⟨first, hfirst, rfl⟩
    rcases hway with hway | rfl
    · split at hway
      · obtain ⟨next, hnext, rfl⟩ := List.mem_map.1 hway
        have hbound := (within_of_mem_ways r i hi first hfirst).2
        obtain ⟨k, hk, hreaches⟩ := ih hbound next hnext
        exact ⟨k + 1, Nat.succ_lt_succ hk, first.stop, hends, hreaches⟩
      · cases hway
    · exact ⟨0, Nat.succ_pos n, way.stop, hends, rfl⟩

/-- Rounds lead to all positions that several matches in a row reach: a match that takes up
nothing may be left out, and there are only as many others as the text has characters. -/
theorem stopsAt_rounds_of_reaches {k : Nat} : ∀ {n i : Nat}, i ≤ text.length →
    text.length < n + i → Regex.Reaches text r.plain (k + 1) i j →
    StopsAt (rounds (ways text r) n i) j := by
  induction k with
  | zero =>
    rintro (_ | n) i hi hn ⟨m, hm, rfl⟩
    · omega
    · obtain ⟨way, hway, hstop⟩ := (hr i hi j).2 hm
      exact ⟨way, List.mem_flatMap.2 ⟨way, hway, by simp⟩, hstop⟩
  | succ k ih =>
    rintro (_ | n) i hi hn ⟨m, hm, hreaches⟩
    · omega
    · obtain ⟨way, hway, rfl⟩ := (hr i hi m).2 hm
      obtain ⟨hle, hbound⟩ := within_of_mem_ways r i hi way hway
      -- A match that takes up nothing leads back to where it began: the rest of the matches do.
      rcases Nat.eq_or_lt_of_le hle with heq | hlt
      · rw [← heq] at hreaches
        exact ih hi hn hreaches
      · obtain ⟨next, hnext, hstop⟩ := ih (n := n) hbound (by omega) hreaches
        refine ⟨way.followedBy next, List.mem_flatMap.2 ⟨way, hway, ?_⟩, hstop⟩
        rw [if_pos hlt]
        exact List.mem_append_left _ (List.mem_map_of_mem hnext)

end

theorem stopsAt_nil : ¬ StopsAt [] j := by simp [StopsAt]

theorem stopsAt_singleton {way : Way} : StopsAt [way] j ↔ j = way.stop := by
  simp [StopsAt, eq_comm]

theorem stopsAt_append {front back : List Way} :
    StopsAt (front ++ back) j ↔ StopsAt front j ∨ StopsAt back j := by
  simp only [StopsAt, List.mem_append, or_and_right, exists_or]

/-- The ways of an expression that takes up at most one character are looked up. -/
theorem stopsAt_ite {p q : Prop} [Decidable p] [Decidable q] {way : Way} (h : p ↔ q) :
    StopsAt (if p then [way] else []) j ↔ j ∈ if q then [way.stop] else [] := by
  by_cases hq : q
  · simp [h, hq, stopsAt_singleton]
  · simp [h, hq, stopsAt_nil]

/-- The ways lead to the positions at which the expression without captures may end. -/
theorem stopsAt_ways (r : CapturingRegex) :
    ∀ i ≤ text.length, ∀ j, StopsAt (ways text r i) j ↔ j ∈ Regex.ends text r.plain i := by
  induction r with
  | empty => simp [ways, plain, Regex.ends, stopsAt_singleton]
  | char c =>
    intro i hi j
    refine stopsAt_ite ?_
    rw [Option.any_eq_true]
    simp [CharSet.contains_single]
  | wordChar =>
    intro i hi j
    exact stopsAt_ite Iff.rfl
  | textStart =>
    intro i hi j
    refine stopsAt_ite ?_
    simp only [Look.holdsAt, Look.holdsBetween, Option.isNone_iff_eq_none, ite_eq_left_iff,
      List.getElem?_eq_none_iff]
    omega
  | textEnd =>
    intro i hi j
    refine stopsAt_ite ?_
    simp only [Look.holdsAt, Look.holdsBetween, Option.isNone_iff_eq_none,
      List.getElem?_eq_none_iff]
    omega
  | seq r s ihr ihs =>
    intro i hi j
    simp only [ways, StopsAt, plain, Regex.ends, List.mem_eraseDups, List.mem_flatMap, List.mem_map]
    constructor
    · rintro ⟨_, ⟨first, hfirst, next, hnext, rfl⟩, rfl⟩
      have hbound := (within_of_mem_ways r i hi first hfirst).2
      exact ⟨first.stop, (ihr i hi _).1 ⟨first, hfirst, rfl⟩,
        (ihs first.stop hbound _).1 ⟨next, hnext, rfl⟩⟩
    · rintro ⟨m, hm, hj⟩
      obtain ⟨first, hfirst, rfl⟩ := (ihr i hi m).2 hm
      have hbound := (within_of_mem_ways r i hi first hfirst).2
      obtain ⟨next, hnext, rfl⟩ := (ihs first.stop hbound j).2 hj
      exact ⟨_, ⟨first, hfirst, next, hnext, rfl⟩, rfl⟩
  | alt r s ihr ihs =>
    intro i hi j
    simp only [plain, Regex.ends, List.mem_eraseDups, List.mem_append, ways, stopsAt_append,
      ihr i hi, ihs i hi]
  | group r ih => exact ih
  | optional r ih =>
    intro i hi j
    have hmost : min (1 - 0) (text.length + 2) = 1 := by omega
    simp only [plain, Regex.ends, ways, stopsAt_append, ih i hi, stopsAt_singleton, hmost,
      Nat.zero_min, Regex.power, Regex.mem_upTo, List.mem_singleton, exists_eq_left]
    constructor
    · rintro (hj | rfl)
      · exact ⟨1, Nat.le_refl 1, j, hj, rfl⟩
      · exact ⟨0, Nat.zero_le 1, rfl⟩
    · rintro ⟨k, hk, hreaches⟩
      obtain rfl | rfl := Nat.le_one_iff_eq_zero_or_eq_one.1 hk
      · exact .inr hreaches
      · obtain ⟨m, hm, rfl⟩ := hreaches
        exact .inl hm
  | repeated r ih =>
    intro i hi j
    have hleast : min 1 (text.length + 2) = 1 := by omega
    simp only [plain, Regex.ends, ways, hleast, Regex.mem_upTo, Regex.mem_power, List.mem_singleton,
      exists_eq_left]
    constructor
    · rintro ⟨way, hway, rfl⟩
      obtain ⟨k, hk, m, hm, hreaches⟩ := reaches_of_mem_rounds ih hi way hway
      exact ⟨k, by omega, m, ⟨m, hm, rfl⟩, hreaches⟩
    · rintro ⟨k, -, m, ⟨_, hm, rfl⟩, hreaches⟩
      exact stopsAt_rounds_of_reaches ih hi (by omega) ⟨m, hm, hreaches⟩
  | capture name r ih =>
    intro i hi j
    rw [plain, ← ih i hi]
    simp only [ways, StopsAt, List.mem_map, exists_exists_and_eq_and]

/-- A search finds a way exactly if the expression without captures matches somewhere. -/
theorem isSome_search (r : CapturingRegex) (text : String) :
    (r.search text.toList).isSome = r.plain.matchesIn text := by
  rw [Bool.eq_iff_iff, search, Regex.matchesIn, List.any_eq_true, List.findSome?_isSome_iff]
  refine exists_congr fun i => and_congr_right fun hi => ?_
  have hi : i ≤ text.toList.length := Nat.le_of_lt_succ (List.mem_range.1 hi)
  have hways : (ways text.toList r i).head?.isSome ↔ ∃ way, way ∈ ways text.toList r i := by
    rw [List.isSome_head?, Ne, ← List.isEmpty_iff, Bool.not_eq_true,
      List.isEmpty_eq_false_iff_exists_mem]
  rw [hways, Bool.not_eq_true', List.isEmpty_eq_false_iff_exists_mem]
  constructor
  · rintro ⟨way, hway⟩
    exact ⟨way.stop, (stopsAt_ways r i hi _).1 ⟨way, hway, rfl⟩⟩
  · rintro ⟨j, hj⟩
    obtain ⟨way, hway, -⟩ := (stopsAt_ways r i hi j).2 hj
    exact ⟨way, hway⟩

end CapturingRegex

end Adventure
