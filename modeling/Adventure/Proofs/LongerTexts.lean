import Adventure.Proofs.RegexSteps
import Mathlib.Data.Option.Basic
import Mathlib.Tactic.SplitIfs

/-!
# Readers on longer texts

What a reader takes up it also takes up where the text goes on, if it has stopped before the end.
At the end of a text more can follow that belongs to what has been read: blanks and comments, which
count for nothing under the flag `x`, digits of a number or the second half of a sign. A text that
goes on with a bar or a closing bracket has none of these but the comment (`Firm`), so that each
reader keeps its result there.
-/

namespace Adventure.Regex

/-- The reader has stopped for good: before the end, or where nothing may be skipped. -/
def Firm (f : Flags) (rest : List Char) : Prop := rest = [] → f.extended = false

/-- A text that begins with a bar or a closing bracket. -/
def Closes (more : List Char) : Prop := ∃ c rest, more = c :: rest ∧ (c = '|' ∨ c = ')')

/-- What the text goes on with does not complete a beginning. -/
theorem Closes.of_append {more : List Char} (hmore : Closes more) (start : List Char)
    (hstart : '|' ∉ start ∧ ')' ∉ start) {cs tail : List Char} (h : cs ++ more = start ++ tail) :
    ∃ rest, cs = start ++ rest := by
  obtain ⟨c, next, rfl, hc⟩ := hmore
  obtain ⟨_ | ⟨d, between⟩, rfl, hnext⟩ | ⟨rest, hrest, -⟩ := List.append_eq_append_iff.1 h
  · exact ⟨[], by simp⟩
  · obtain ⟨rfl, -⟩ := List.cons.inj hnext
    rcases hc with rfl | rfl
    · exact absurd (by simp) hstart.1
    · exact absurd (by simp) hstart.2
  · exact ⟨rest, hrest⟩

theorem Closes.ne_append {more : List Char} (hmore : Closes more) (start : List Char)
    (hstart : '|' ∉ start ∧ ')' ∉ start) {cs : List Char} (h : ∀ rest, cs = start ++ rest → False)
    (tail : List Char) : cs ++ more ≠ start ++ tail := by
  intro happend
  obtain ⟨rest, hrest⟩ := hmore.of_append start hstart happend
  exact h rest hrest

theorem Firm.of_ne_nil {f : Flags} {rest : List Char} (h : rest ≠ []) : Firm f rest :=
  fun hrest => absurd hrest h

variable {f : Flags} {cs rest : List Char}

/-! ## Blanks -/

theorem dropBlank_longer {inComment : Bool} (h : dropBlank inComment cs ≠ []) (more : List Char) :
    dropBlank inComment (cs ++ more) = dropBlank inComment cs ++ more := by
  induction cs generalizing inComment with
  | nil => cases inComment <;> exact absurd rfl h
  | cons c rest ih =>
    cases inComment with
    | true => exact ih h
    | false =>
      rw [dropBlank] at h
      rw [List.cons_append, dropBlank, dropBlank]
      split_ifs at h ⊢ with hblank hcomment
      · exact ih h
      · exact ih h
      · rfl

theorem skip_longer (h : Firm f (f.skip cs)) (more : List Char) :
    f.skip (cs ++ more) = f.skip cs ++ more := by
  unfold Flags.skip at h ⊢
  cases hextended : f.extended with
  | false => rfl
  | true =>
    rw [hextended] at h
    exact dropBlank_longer (fun hnil => Bool.noConfusion ((h hnil).symm.trans hextended)) more

/-- Either nothing is left after the blanks, or what is left grows with the text. -/
theorem skip_cases (f : Flags) (cs : List Char) :
    f.skip cs = [] ∨ ∀ more, f.skip (cs ++ more) = f.skip cs ++ more := by
  by_cases hskip : f.skip cs = []
  · exact .inl hskip
  · exact .inr (skip_longer (.of_ne_nil hskip))

theorem skip_nil (f : Flags) : f.skip [] = [] := by
  cases hextended : f.extended <;> simp [Flags.skip, hextended, dropBlank]

theorem ne_nil_of_skip (h : f.skip cs ≠ []) : cs ≠ [] := by
  rintro rfl
  exact h (skip_nil f)

theorem length_dropBlank_le (inComment : Bool) (cs : List Char) :
    (dropBlank inComment cs).length ≤ cs.length := by
  induction cs generalizing inComment with
  | nil => cases inComment <;> exact Nat.le_refl _
  | cons c rest ih =>
    cases inComment with
    | true => exact Nat.le_succ_of_le (ih _)
    | false =>
      rw [dropBlank]
      split_ifs with hblank hcomment
      · exact Nat.le_succ_of_le (ih _)
      · exact Nat.le_succ_of_le (ih _)
      · exact Nat.le_refl _

theorem length_skip_le (f : Flags) (cs : List Char) : (f.skip cs).length ≤ cs.length := by
  unfold Flags.skip
  split
  · exact length_dropBlank_le false cs
  · exact Nat.le_refl _

theorem next?_eq_some_iff : f.next? cs = some rest ↔ f.skip (cs.drop 1) = rest ∧ rest ≠ [] := by
  unfold Flags.next?
  split <;> grind

theorem next?_longer (h : f.next? cs = some rest) (more : List Char) :
    f.next? (cs ++ more) = some (rest ++ more) := by
  obtain ⟨rfl, hrest⟩ := next?_eq_some_iff.1 h
  cases cs with
  | nil => exact absurd (skip_nil f) hrest
  | cons c cs =>
    exact next?_eq_some_iff.2 ⟨skip_longer (.of_ne_nil hrest) more, by simp_all⟩

/-! ## Openings -/

theorem flags?_longer {seen : List Char} {ending : Char} {isNone : Bool} {g : Flags}
    (h : flags? f seen cs = some (ending, isNone, g, rest)) (more : List Char) :
    flags? f seen (cs ++ more) = some (ending, isNone, g, rest ++ more) := by
  induction cs generalizing f seen with
  | nil => cases h
  | cons c rest ih =>
    rw [flags?] at h
    rw [List.cons_append, flags?]
    split_ifs at h ⊢ with hend hhyphen hseen hminus
    · cases h
      rfl
    · exact ih h
    · obtain ⟨g, hset, hrest⟩ := Option.bind_eq_some_iff.1 h
      exact Option.bind_eq_some_iff.2 ⟨g, hset, ih hrest⟩

theorem captureName?_longer {names : List (List Char)} {name : List Char}
    (h : captureName? names cs = some (name, rest)) (more : List Char) :
    captureName? names (cs ++ more) = some (name, rest ++ more) := by
  obtain ⟨first, cont, hname, hfirst, hcont, hnew, rfl⟩ := captureName?_eq_some_iff.1 h
  exact captureName?_eq_some_iff.2 ⟨first, cont, hname, hfirst, hcont, hnew, by simp⟩

section

variable {more : List Char} (hmore : Closes more)
include hmore

theorem dropLazy_longer (cs : List Char) : dropLazy (cs ++ more) = dropLazy cs ++ more := by
  obtain ⟨c, next, rfl, rfl | rfl⟩ := hmore <;> unfold dropLazy <;> cases cs <;> grind

/-- A group whose inside is still to come needs the text that follows, a directive does not. -/
theorem opening?_longer {names : List (List Char)} {opening : Opening}
    (h : opening? f names cs = some (opening, rest))
    (hrest : (∃ g, opening = .directive g) ∨ Firm f rest) :
    opening? f names (cs ++ more) = some (opening, rest ++ more) := by
  unfold opening? at h ⊢
  have hfirm : Firm f (f.skip cs) := fun hskip => by
    rw [hskip] at h
    cases h
    obtain ⟨_, ⟨⟩⟩ | hfirm := hrest
    exact hfirm rfl
  rw [skip_longer hfirm]
  generalize f.skip cs = s at h
  split at h
  case h_1 | h_2 | h_3 | h_4 => cases h
  case h_5 s =>
    obtain ⟨⟨name, after⟩, hname, hresult⟩ := Option.map_eq_some_iff.1 h
    cases hresult
    exact Option.map_eq_some_iff.2 ⟨_, captureName?_longer hname more, rfl⟩
  case h_6 s =>
    obtain ⟨⟨name, after⟩, hname, hresult⟩ := Option.map_eq_some_iff.1 h
    cases hresult
    have hlonger := captureName?_longer hname more
    obtain ⟨first, cont, rfl, hfirst, hcont, hnew, rfl⟩ := captureName?_eq_some_iff.1 hname
    simp only [List.cons_append] at hlonger ⊢
    split <;> grind
  case h_7 s h1 h2 h3 h4 h5 h6 =>
    obtain ⟨⟨ending, isNone, g, after⟩, hflags, hresult⟩ := Option.bind_eq_some_iff.1 h
    have hlonger := flags?_longer hflags more
    rw [List.cons_append]
    -- the other forms would begin within `s`, as they hold neither a bar nor a closing bracket
    split
    case h_1 heq =>
      exact absurd (List.cons.inj heq).2 (hmore.ne_append ['='] (by decide) h1 _)
    case h_2 heq =>
      exact absurd (List.cons.inj heq).2 (hmore.ne_append ['!'] (by decide) h2 _)
    case h_3 heq | h_4 heq | h_6 heq =>
      exact absurd (List.cons.inj heq).2 (hmore.ne_append ['<'] (by decide) h6 _)
    case h_5 heq =>
      exact absurd (List.cons.inj heq).2 (hmore.ne_append ['P', '<'] (by decide) h5 _)
    case h_7 heq =>
      cases heq
      refine Option.bind_eq_some_iff.2 ⟨_, hlonger, ?_⟩
      grind
    case h_8 =>
      rename_i hplain
      exact absurd rfl (hplain _)
  case h_8 s _ _ _ _ _ _ hplain =>
    cases h
    split
    case h_8 => rfl
    all_goals
      rename_i heq
      exact absurd heq (hmore.ne_append ['?'] (by decide) hplain _)

end

/-! ## Counts -/

/-- A number ends before something that is no digit. -/
theorem digits_longer {fuel fuel' : Nat} {ds : List Char}
    (h : count?.digits f fuel cs = (ds, rest)) (hrest : rest ≠ []) (hfuel : cs.length < fuel)
    (hle : fuel ≤ fuel') (more : List Char) :
    count?.digits f fuel' (cs ++ more) = (ds, rest ++ more) := by
  induction fuel generalizing fuel' cs ds rest with
  | zero => cases hfuel
  | succ n ih =>
    obtain ⟨n', rfl⟩ : ∃ n', fuel' = n' + 1 := ⟨fuel' - 1, by omega⟩
    cases cs with
    | nil => cases h; exact absurd rfl hrest
    | cons c cs =>
      rw [List.cons_append]
      unfold count?.digits at h ⊢
      by_cases hc : c.isDigit = true
      · simp only [hc, if_true] at h ⊢
        generalize hds : count?.digits f n (f.skip cs) = read at h
        obtain ⟨ds, rest⟩ := read
        cases h
        have hskip : f.skip cs ≠ [] := by
          intro hskip
          rw [hskip] at hds
          cases n <;> cases hds <;> exact hrest rfl
        have hlength : (f.skip cs).length < n :=
          Nat.lt_of_le_of_lt (length_skip_le f cs) (Nat.lt_of_succ_lt_succ hfuel)
        rw [skip_longer (.of_ne_nil hskip), ih hds hrest hlength (Nat.le_of_succ_le_succ hle)]
      · simp only [hc] at h ⊢
        cases h
        rfl

theorem dropWhile_longer {p : Char → Bool} (h : cs.dropWhile p ≠ []) (more : List Char) :
    (cs ++ more).dropWhile p = cs.dropWhile p ++ more := by
  rw [List.dropWhile_append, if_neg (by simpa using h)]

theorem count?_longer {n : Nat} (h : count? f cs = some (n, rest)) (hrest : rest ≠ [])
    (more : List Char) : count? f (cs ++ more) = some (n, rest ++ more) := by
  unfold count? at h ⊢
  generalize hds : count?.digits f (cs.length + 1) (cs.dropWhile Unicode.isWhitespace) = read at h
  obtain ⟨ds, after⟩ := read
  obtain ⟨hnumber, hresult⟩ := Option.ite_none_left_eq_some.1 h
  cases hresult
  have hafter : after.dropWhile Unicode.isWhitespace ≠ [] := ne_nil_of_skip hrest
  have hstart : cs.dropWhile Unicode.isWhitespace ≠ [] := by
    intro hstart
    rw [hstart] at hds
    cases hds
    exact hnumber (.inl rfl)
  have hlength : (cs.dropWhile Unicode.isWhitespace).length < cs.length + 1 :=
    Nat.lt_succ_of_le (List.dropWhile_sublist _).length_le
  have hdigits := digits_longer hds (by rintro rfl; exact hafter rfl) hlength
    (Nat.succ_le_succ (Nat.le_add_right _ more.length)) more
  rw [List.length_append, dropWhile_longer hstart, hdigits]
  simp only [dropWhile_longer hafter, skip_longer (.of_ne_nil hrest)]
  exact Option.ite_none_left_eq_some.2 ⟨hnumber, rfl⟩

section

variable {more : List Char} (hmore : Closes more)
include hmore

theorem dropLazy_skip_longer (h : Firm f (dropLazy (f.skip cs))) :
    dropLazy (f.skip (cs ++ more)) = dropLazy (f.skip cs) ++ more := by
  have hskip : Firm f (f.skip cs) := fun hskip => h (by rw [hskip]; rfl)
  rw [skip_longer hskip, dropLazy_longer hmore]

theorem counts?_longer {least : Nat} {most : Option Nat}
    (h : counts? f cs = some (least, most, rest)) (hrest : Firm f rest) :
    counts? f (cs ++ more) = some (least, most, rest ++ more) := by
  unfold counts? at h ⊢
  obtain ⟨⟨n, after⟩, hcount, h⟩ := Option.bind_eq_some_iff.1 h
  have hafter : after ≠ [] := by
    rintro rfl
    cases h
  rcases skip_cases f cs with hskip | hskip
  · rw [hskip] at hcount
    cases hcount
  rw [hskip]
  refine Option.bind_eq_some_iff.2 ⟨_, count?_longer hcount hafter more, ?_⟩
  dsimp only at h ⊢
  split at h
  case h_1 after =>
    have hskip : f.skip after ≠ [] := by
      intro hskip
      rw [hskip] at h
      cases h
    simp only [List.cons_append, skip_longer (.of_ne_nil hskip)]
    generalize f.skip after = s at h hskip
    split at h
    case h_1 next =>
      cases h
      simp only [List.cons_append, dropLazy_skip_longer hmore hrest]
    case h_2 s hbrace =>
      obtain ⟨⟨m, last⟩, hmost, h⟩ := Option.bind_eq_some_iff.1 h
      dsimp only at h
      split at h
      case h_1 next =>
        obtain ⟨hle, hresult⟩ := Option.ite_none_right_eq_some.1 h
        cases hresult
        split
        case h_1 heq =>
          exact absurd heq (hmore.ne_append ['\x7d'] (by decide) hbrace _)
        case h_2 =>
          refine Option.bind_eq_some_iff.2 ⟨_, count?_longer hmost (by simp) more, ?_⟩
          simp only [List.cons_append, if_pos hle, dropLazy_skip_longer hmore hrest]
      case h_2 => cases h
  case h_2 next =>
    cases h
    simp only [List.cons_append, dropLazy_skip_longer hmore hrest]
  case h_3 => cases h

end

/-! ## Escapes -/

theorem untilBrace?_longer {fuel fuel' : Nat} {inner : List Char}
    (h : untilBrace? f fuel cs = some (inner, rest)) (hle : fuel ≤ fuel') (more : List Char) :
    untilBrace? f fuel' (cs ++ more) = some (inner, rest ++ more) := by
  induction fuel generalizing fuel' cs inner with
  | zero => cases h
  | succ n ih =>
    obtain ⟨n', rfl⟩ : ∃ n', fuel' = n' + 1 := ⟨fuel' - 1, by omega⟩
    unfold untilBrace? at h ⊢
    rcases skip_cases f cs with hskip | hskip
    · rw [hskip] at h
      cases h
    rw [hskip]
    generalize f.skip cs = s at h
    split at h
    case h_1 => cases h
    case h_2 => cases h; rfl
    case h_3 c s hbrace =>
      obtain ⟨⟨inner, after⟩, hinner, hresult⟩ := Option.bind_eq_some_iff.1 h
      cases hresult
      simp only [List.cons_append]
      exact Option.bind_eq_some_iff.2 ⟨_, ih hinner (Nat.le_of_succ_le_succ hle), rfl⟩

theorem hexDigits?_longer {count : Nat} {digits : List Char}
    (h : hexDigits? f count cs = some (digits, rest)) (hrest : Firm f rest) (more : List Char) :
    hexDigits? f count (cs ++ more) = some (digits, rest ++ more) := by
  induction count generalizing cs digits with
  | zero => cases h; rfl
  | succ n ih =>
    cases cs with
    | nil => cases h
    | cons c cs =>
      rw [List.cons_append]
      unfold hexDigits? at h ⊢
      obtain ⟨_, hdigit, h⟩ := Option.bind_eq_some_iff.1 h
      obtain ⟨⟨ds, after⟩, hds, hresult⟩ := Option.bind_eq_some_iff.1 h
      cases hresult
      have hskip : Firm f (f.skip cs) := fun hskip => by
        rw [hskip] at hds
        cases n <;> cases hds
        exact hrest rfl
      refine Option.bind_eq_some_iff.2 ⟨_, hdigit, ?_⟩
      rw [skip_longer hskip]
      exact Option.bind_eq_some_iff.2 ⟨_, ih hds, rfl⟩

theorem conditionName?_longer {fuel fuel' : Nat} {name : List Char}
    (h : conditionName? f fuel cs = some (name, rest)) (hle : fuel ≤ fuel') (more : List Char) :
    conditionName? f fuel' (cs ++ more) = some (name, rest ++ more) := by
  induction fuel generalizing fuel' cs name with
  | zero => cases h
  | succ n ih =>
    obtain ⟨n', rfl⟩ : ∃ n', fuel' = n' + 1 := ⟨fuel' - 1, by omega⟩
    unfold conditionName? at h ⊢
    rcases skip_cases f cs with hskip | hskip
    · rw [hskip] at h
      cases h
    rw [hskip]
    generalize f.skip cs = s at h
    split at h
    case h_1 => cases h; rfl
    case h_2 c s hbrace =>
      obtain ⟨_, hletter, h⟩ := Option.bind_eq_some_iff.1 h
      obtain ⟨⟨name, after⟩, hname, hresult⟩ := Option.bind_eq_some_iff.1 h
      cases hresult
      simp only [List.cons_append]
      refine Option.bind_eq_some_iff.2 ⟨_, hletter, ?_⟩
      exact Option.bind_eq_some_iff.2 ⟨_, ih hname (Nat.le_of_succ_le_succ hle), rfl⟩
    case h_3 => cases h

theorem propertyEscape?_longer {negated : Bool} {s : CharSet}
    (h : propertyEscape? f negated cs = some (s, rest)) (hrest : Firm f rest) (more : List Char) :
    propertyEscape? f negated (cs ++ more) = some (s, rest ++ more) := by
  unfold propertyEscape? at h ⊢
  obtain ⟨_, hwide, h⟩ := Option.bind_eq_some_iff.1 h
  refine Option.bind_eq_some_iff.2 ⟨_, hwide, ?_⟩
  rcases skip_cases f cs with hskip | hskip
  · rw [hskip] at h
    cases h
  rw [hskip]
  generalize f.skip cs = s at h
  split at h
  case h_1 => cases h
  case h_2 s =>
    obtain ⟨⟨name, after⟩, hname, h⟩ := Option.bind_eq_some_iff.1 h
    obtain ⟨⟨denied, set⟩, hproperty, h⟩ := Option.bind_eq_some_iff.1 h
    obtain ⟨closed, hclosed, hresult⟩ := Option.bind_eq_some_iff.1 h
    cases hresult
    have hle : s.length + 1 ≤ (s ++ more).length + 1 := by simp
    simp only [List.cons_append]
    refine Option.bind_eq_some_iff.2 ⟨_, untilBrace?_longer hname hle more, ?_⟩
    refine Option.bind_eq_some_iff.2 ⟨_, hproperty, ?_⟩
    exact Option.bind_eq_some_iff.2 ⟨_, hclosed, rfl⟩
  case h_3 c s hbrace =>
    obtain ⟨_, hescape, h⟩ := Option.bind_eq_some_iff.1 h
    obtain ⟨set, hproperty, h⟩ := Option.bind_eq_some_iff.1 h
    obtain ⟨closed, hclosed, hresult⟩ := Option.bind_eq_some_iff.1 h
    cases hresult
    simp only [List.cons_append]
    refine Option.bind_eq_some_iff.2 ⟨_, hescape, ?_⟩
    refine Option.bind_eq_some_iff.2 ⟨_, hproperty, ?_⟩
    refine Option.bind_eq_some_iff.2 ⟨_, hclosed, ?_⟩
    rw [skip_longer hrest]
    rfl

section

variable {more : List Char} (hmore : Closes more)
include hmore

theorem hexEscape?_longer {count : Nat} (hcount : 0 < count) {c : Char} {byte : Bool}
    (h : hexEscape? f count cs = some (c, byte, rest)) (hrest : Firm f rest) :
    hexEscape? f count (cs ++ more) = some (c, byte, rest ++ more) := by
  unfold hexEscape? at h ⊢
  rcases skip_cases f cs with hskip | hskip
  · obtain ⟨n, rfl⟩ := Nat.exists_eq_succ_of_ne_zero (Nat.ne_of_gt hcount)
    rw [hskip] at h
    cases h
  rw [hskip]
  generalize f.skip cs = s at h
  split at h
  case h_1 s =>
    obtain ⟨⟨digits, after⟩, hdigits, h⟩ := Option.bind_eq_some_iff.1 h
    obtain ⟨_, hsome, h⟩ := Option.bind_eq_some_iff.1 h
    obtain ⟨c, hc, hresult⟩ := Option.bind_eq_some_iff.1 h
    cases hresult
    have hle : s.length + 1 ≤ (s ++ more).length + 1 := by simp
    simp only [List.cons_append]
    refine Option.bind_eq_some_iff.2 ⟨_, untilBrace?_longer hdigits hle more, ?_⟩
    refine Option.bind_eq_some_iff.2 ⟨_, hsome, ?_⟩
    refine Option.bind_eq_some_iff.2 ⟨_, hc, ?_⟩
    rw [skip_longer hrest]
    rfl
  case h_2 s hbrace =>
    obtain ⟨⟨digits, after⟩, hdigits, h⟩ := Option.bind_eq_some_iff.1 h
    obtain ⟨c, hc, hresult⟩ := Option.bind_eq_some_iff.1 h
    cases hresult
    split
    case h_1 heq =>
      exact absurd heq (hmore.ne_append ['\x7b'] (by decide) hbrace _)
    case h_2 =>
      refine Option.bind_eq_some_iff.2 ⟨_, hexDigits?_longer hdigits hrest more, ?_⟩
      exact Option.bind_eq_some_iff.2 ⟨_, hc, rfl⟩

/-- Braces after `\b` belong to it only where they name a kind of boundary. -/
theorem boundary?_longer {condition : Look} (h : boundary? f cs = some (condition, rest))
    (hrest : Firm f rest) : boundary? f (cs ++ more) = some (condition, rest ++ more) := by
  unfold boundary? at h ⊢
  split at h
  case h_1 s =>
    have hskip : f.skip s ≠ [] := by
      intro hskip
      rw [hskip] at h
      cases h
    simp only [List.cons_append, skip_longer (.of_ne_nil hskip)]
    generalize f.skip s = kept at h
    split at h
    case h_1 => cases h
    case h_2 c kept =>
      simp only [List.cons_append]
      split at h
      case isTrue hletter =>
        obtain ⟨⟨name, after⟩, hname, h⟩ := Option.bind_eq_some_iff.1 h
        have hle : s.length + 1 ≤ (s ++ more).length + 1 := by simp
        rw [if_pos hletter]
        refine Option.bind_eq_some_iff.2 ⟨_, conditionName?_longer hname hle more, ?_⟩
        dsimp only at h ⊢
        split at h <;> cases h <;> simp_all
      case isFalse hletter =>
        cases h
        rw [if_neg hletter]
        rfl
  case h_2 hbrace =>
    cases h
    split
    case h_1 heq =>
      exact absurd heq (hmore.ne_append ['\x7b'] (by decide) hbrace _)
    case h_2 => rfl

theorem escape?_longer {part : Part} (h : escape? f cs = some (part, rest))
    (hrest : Firm f rest) : escape? f (cs ++ more) = some (part, rest ++ more) := by
  cases cs with
  | nil => cases h
  | cons c cs =>
    rw [List.cons_append]
    unfold escape? at h ⊢
    dsimp only at h ⊢
    split at h
    case h_1 | h_2 | h_3 =>
      obtain ⟨⟨c, byte, after⟩, hc, hresult⟩ := Option.map_eq_some_iff.1 h
      cases hresult
      exact Option.map_eq_some_iff.2 ⟨_, hexEscape?_longer hmore (by decide) hc hrest, rfl⟩
    case h_4 | h_5 =>
      obtain ⟨⟨s, after⟩, hs, hresult⟩ := Option.map_eq_some_iff.1 h
      cases hresult
      exact Option.map_eq_some_iff.2 ⟨_, propertyEscape?_longer hs hrest more, rfl⟩
    case h_14 =>
      obtain ⟨⟨condition, after⟩, hcondition, hresult⟩ := Option.map_eq_some_iff.1 h
      cases hresult
      exact Option.map_eq_some_iff.2 ⟨_, boundary?_longer hmore hcondition hrest, rfl⟩
    case h_18 c _ _ _ _ _ _ _ _ _ _ _ _ _ _ _ _ _ =>
      split at h
      case isTrue hc => cases h; simp [hc]
      case isFalse hc =>
        obtain ⟨s, hs, hresult⟩ := Option.map_eq_some_iff.1 h
        cases hresult
        simp [hc, hs]
    all_goals cases h; rfl

theorem part?_longer {r : Regex} (h : part? f cs = some (r, rest)) (hrest : Firm f rest) :
    part? f (cs ++ more) = some (r, rest ++ more) := by
  unfold part? at h ⊢
  split at h
  case h_2 =>
    obtain ⟨⟨part, after⟩, hpart, h⟩ := Option.bind_eq_some_iff.1 h
    obtain ⟨r, hr, hresult⟩ := Option.bind_eq_some_iff.1 h
    cases hresult
    refine Option.bind_eq_some_iff.2 ⟨_, escape?_longer hmore hpart hrest, ?_⟩
    exact Option.bind_eq_some_iff.2 ⟨_, hr, rfl⟩
  case h_3 =>
    obtain ⟨s, hs, hresult⟩ := Option.map_eq_some_iff.1 h
    cases hresult
    exact Option.map_eq_some_iff.2 ⟨s, hs, rfl⟩
  case h_1 => cases h
  all_goals
    cases h
    simp_all

end

end Adventure.Regex
