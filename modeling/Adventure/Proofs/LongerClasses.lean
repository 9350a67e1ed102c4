import Adventure.Proofs.LongerTexts
import Mathlib.Data.List.TakeWhile

/-!
# Classes in longer texts

A class in brackets ends with its own closing bracket, so that it is read the same where the text
goes on. What has to be looked at is how far a reader looks ahead: to the character after a hyphen
(`peek_longer`), to the second half of the sign of an operation, and to the end of a named class,
which might lie in the part that follows. The names of classes have neither bars nor closing
brackets in them, so it does not (`isNamedClass_longer`).
-/

namespace Adventure.Regex

variable {f : Flags} {cs rest : List Char}

section

variable {more : List Char} (hmore : Closes more)
include hmore

/-! ## Characters and ranges -/

theorem head?_longer {d : Char} (hd : d ≠ '|' ∧ d ≠ ')') (cs : List Char) :
    (cs ++ more).head? = some d ↔ cs.head? = some d := by
  obtain ⟨c, next, rfl, hc⟩ := hmore
  cases cs with
  | nil => simp; grind
  | cons => rfl

theorem dropWhile_blank_longer (cs : List Char) :
    (cs ++ more).dropWhile Unicode.isWhitespace
      = cs.dropWhile Unicode.isWhitespace ++ more := by
  rw [List.dropWhile_append]
  split
  case isTrue hblank =>
    obtain ⟨c, next, rfl, rfl | rfl⟩ := hmore
    all_goals
      rw [List.isEmpty_iff.1 hblank, List.dropWhile_cons_of_neg (by decide), List.nil_append]
  case isFalse => rfl

theorem peek_longer {d : Char} (hd : d ≠ '|' ∧ d ≠ ')') (c : Char) (cs : List Char) :
    peek f (c :: (cs ++ more)) = some d ↔ peek f (c :: cs) = some d := by
  simp only [peek, List.drop_one, List.tail_cons, dropWhile_blank_longer hmore]
  split
  · generalize cs.dropWhile Unicode.isWhitespace = s
    split
    case h_1 heq =>
      obtain ⟨s, rfl⟩ := hmore.of_append ['#'] (by decide) heq
      cases heq
      change ((s ++ more).dropWhile Unicode.isWhitespace).head? = some d ↔ _
      rw [dropWhile_blank_longer hmore]
      exact head?_longer hmore hd _
    case h_2 hcomment =>
      split
      case h_1 => exact absurd rfl (hcomment _)
      case h_2 => exact head?_longer hmore hd _
  · exact head?_longer hmore hd cs

theorem classPart?_longer {part : Part} (h : classPart? f cs = some (part, rest))
    (hrest : Firm f rest) : classPart? f (cs ++ more) = some (part, rest ++ more) := by
  unfold classPart? at h ⊢
  split at h
  case h_1 => cases h
  case h_2 => exact escape?_longer hmore h hrest
  case h_3 =>
    cases h
    simp_all

theorem classRange?_longer {s : CharSet} (h : classRange? f cs = some (s, rest))
    (hrest : rest ≠ []) : classRange? f (cs ++ more) = some (s, rest ++ more) := by
  unfold classRange? at h ⊢
  obtain ⟨⟨first, after⟩, hfirst, h⟩ := Option.bind_eq_some_iff.1 h
  dsimp only at h
  have hskip : f.skip after ≠ [] := by
    intro hskip
    rw [hskip] at h
    cases h
  refine Option.bind_eq_some_iff.2
    ⟨_, classPart?_longer hmore hfirst (.of_ne_nil (ne_nil_of_skip hskip)), ?_⟩
  dsimp only
  rw [skip_longer (.of_ne_nil hskip)]
  generalize f.skip after = kept at h
  split at h
  case h_1 => cases h
  case h_2 kept =>
    simp only [List.cons_append, peek_longer hmore (show ']' ≠ '|' ∧ ']' ≠ ')' by decide),
      peek_longer hmore (show '-' ≠ '|' ∧ '-' ≠ ')' by decide)]
    split at h
    case isTrue hend =>
      obtain ⟨s, hs, hresult⟩ := Option.bind_eq_some_iff.1 h
      cases hresult
      rw [if_pos hend]
      exact Option.bind_eq_some_iff.2 ⟨_, hs, rfl⟩
    case isFalse hend =>
      obtain ⟨next, hnext, h⟩ := Option.bind_eq_some_iff.1 h
      obtain ⟨⟨last, after⟩, hlast, h⟩ := Option.bind_eq_some_iff.1 h
      rw [if_neg hend]
      have hnext := next?_longer hnext more
      rw [List.cons_append] at hnext
      refine Option.bind_eq_some_iff.2 ⟨_, hnext, ?_⟩
      dsimp only at h
      split at h
      case h_1 a byteA b byteB =>
        obtain ⟨_, hle, h⟩ := Option.bind_eq_some_iff.1 h
        obtain ⟨_, ha, h⟩ := Option.bind_eq_some_iff.1 h
        obtain ⟨_, hb, hresult⟩ := Option.bind_eq_some_iff.1 h
        cases hresult
        refine Option.bind_eq_some_iff.2
          ⟨_, classPart?_longer hmore hlast (.of_ne_nil hrest), ?_⟩
        refine Option.bind_eq_some_iff.2 ⟨_, hle, ?_⟩
        refine Option.bind_eq_some_iff.2 ⟨_, ha, ?_⟩
        exact Option.bind_eq_some_iff.2 ⟨_, hb, rfl⟩
      case h_2 => cases h
  case h_3 kept hnil hhyphen =>
    obtain ⟨s, hs, hresult⟩ := Option.bind_eq_some_iff.1 h
    cases hresult
    split
    case h_1 heq => simp_all
    case h_2 heq =>
      exact absurd heq (hmore.ne_append ['-'] (by decide) hhyphen _)
    case h_3 => exact Option.bind_eq_some_iff.2 ⟨_, hs, rfl⟩

end

/-! ## Named classes -/

theorem not_mem_of_asciiNamed? {name : List Char} {s : CharSet}
    (h : CharSet.asciiNamed? (String.ofList name) = some s) : '|' ∉ name ∧ ')' ∉ name := by
  unfold CharSet.asciiNamed? at h
  split at h
  case h_15 => cases h
  all_goals
    rename_i heq
    rw [← String.toList_ofList (l := name), heq]
    decide

/-- Reads the name of a class of ASCII characters and what closes it. -/
def className? (f : Flags) (negated : Bool) (cs : List Char) : Option (CharSet × List Char) :=
  match cs.dropWhile (· ≠ ':') with
  | ':' :: ']' :: rest => do
    let s ← CharSet.asciiNamed? (String.ofList (cs.takeWhile (· ≠ ':')))
    return (← f.close? negated s, rest)
  | _ => none

theorem namedClass?_cons (f : Flags) (cs : List Char) : namedClass? f ('[' :: ':' :: cs) =
    if cs.head? = some '^' then className? f true (cs.drop 1) else className? f false cs := by
  unfold namedClass?
  by_cases hnegated : cs.head? = some '^' <;>
    simp only [hnegated, decide_true, decide_false] <;> rfl

theorem className?_eq_some_iff {negated : Bool} {s : CharSet} :
    className? f negated cs = some (s, rest) ↔
      ∃ name t, cs = name ++ ':' :: ']' :: rest ∧ ':' ∉ name ∧
        CharSet.asciiNamed? (String.ofList name) = some t ∧ f.close? negated t = some s := by
  have hcs := List.takeWhile_append_dropWhile (p := fun c => decide (c ≠ ':')) (l := cs)
  unfold className?
  constructor
  · intro h
    split at h
    case h_1 rest hdrop =>
      obtain ⟨t, ht, h⟩ := Option.bind_eq_some_iff.1 h
      obtain ⟨s, hs, hresult⟩ := Option.bind_eq_some_iff.1 h
      cases hresult
      rw [hdrop] at hcs
      exact ⟨_, t, hcs.symm, fun hmem => by simpa using List.mem_takeWhile_imp hmem, ht, hs⟩
    case h_2 => cases h
  · rintro ⟨name, t, rfl, hname, ht, hs⟩
    have hall : ∀ c ∈ name, decide (c ≠ ':') = true := by
      intro c hc
      exact decide_eq_true fun hcolon => hname (hcolon ▸ hc)
    rw [List.takeWhile_append_of_pos hall, List.dropWhile_append_of_pos hall]
    simp [ht, hs]

/-- A named class is written with neither a bar nor a closing bracket. -/
theorem exists_of_namedClass? {s : CharSet} (h : namedClass? f cs = some (s, rest)) :
    ∃ start, cs = start ++ rest ∧ ('|' ∉ start ∧ ')' ∉ start) ∧
      ∀ next, namedClass? f (start ++ next) = some (s, next) := by
  have hclass := h
  unfold namedClass? at hclass
  split at hclass
  case h_2 => cases hclass
  case h_1 cs =>
    clear hclass
    rw [namedClass?_cons] at h
    split at h
    case isTrue hnegated =>
      obtain ⟨name, t, hname, hcolon, ht, hs⟩ := className?_eq_some_iff.1 h
      have hcs : cs = '^' :: (name ++ ':' :: ']' :: rest) := by
        cases cs <;> simp_all
      refine ⟨'[' :: ':' :: '^' :: (name ++ [':', ']']), by simp [hcs], ?_, fun next => ?_⟩
      · simpa using not_mem_of_asciiNamed? ht
      · simp only [List.cons_append, List.append_assoc, List.nil_append, namedClass?_cons]
        exact className?_eq_some_iff.2 ⟨name, t, rfl, hcolon, ht, hs⟩
    case isFalse hnegated =>
      obtain ⟨name, t, rfl, hcolon, ht, hs⟩ := className?_eq_some_iff.1 h
      refine ⟨'[' :: ':' :: (name ++ [':', ']']), by simp, ?_, fun next => ?_⟩
      · simpa using not_mem_of_asciiNamed? ht
      · have hhead : (name ++ ':' :: ']' :: next).head? ≠ some '^' := by
          cases name <;> simp_all
        simp only [List.cons_append, List.append_assoc, List.nil_append, namedClass?_cons,
          if_neg hhead]
        exact className?_eq_some_iff.2 ⟨name, t, rfl, hcolon, ht, hs⟩

theorem namedClass?_longer {s : CharSet} (h : namedClass? f cs = some (s, rest))
    (more : List Char) : namedClass? f (cs ++ more) = some (s, rest ++ more) := by
  obtain ⟨start, rfl, -, hstart⟩ := exists_of_namedClass? h
  rw [List.append_assoc]
  exact hstart _

theorem isNamedClass_longer {more : List Char} (hmore : Closes more) (cs : List Char) :
    isNamedClass (cs ++ more) = isNamedClass cs := by
  rw [Bool.eq_iff_iff, isNamedClass, isNamedClass, Option.isSome_iff_exists,
    Option.isSome_iff_exists]
  constructor
  · rintro ⟨⟨s, rest⟩, h⟩
    obtain ⟨start, hcs, hnot, hstart⟩ := exists_of_namedClass? h
    obtain ⟨next, rfl⟩ := hmore.of_append start hnot hcs
    exact ⟨_, hstart next⟩
  · rintro ⟨⟨s, rest⟩, h⟩
    exact ⟨_, namedClass?_longer h more⟩

/-! ## Openings and items -/

/-- Reads the hyphens and brackets that stand for themselves at the beginning of a class. -/
def classSigns? (f : Flags) (negated : Bool) (cs : List Char) :
    Option (Bool × CharSet × List Char) := do
  let (any, rest) ← hyphens? f (cs.length + 1) cs
  if any then some (negated, .single '-', rest)
  else if rest.head? = some ']' then
    (f.next? rest).map fun rest => (negated, .single ']', rest)
  else some (negated, .empty, rest)

theorem classOpening?_eq (f : Flags) (cs : List Char) : classOpening? f cs =
    (f.next? cs).bind fun rest =>
      if rest.head? = some '^' then (f.next? rest).bind (classSigns? f true)
      else classSigns? f false rest := by
  unfold classOpening? classSigns?
  cases f.next? cs with
  | none => rfl
  | some rest =>
    by_cases hnegated : rest.head? = some '^' <;>
      simp [hnegated, Option.map_eq_bind]

section

variable {more : List Char} (hmore : Closes more)
include hmore

theorem hyphens?_longer {fuel fuel' : Nat} {any : Bool}
    (h : hyphens? f fuel cs = some (any, rest)) (hle : fuel ≤ fuel') :
    hyphens? f fuel' (cs ++ more) = some (any, rest ++ more) := by
  induction fuel generalizing fuel' cs any with
  | zero => cases h
  | succ n ih =>
    obtain ⟨n', rfl⟩ : ∃ n', fuel' = n' + 1 := ⟨fuel' - 1, by omega⟩
    unfold hyphens? at h ⊢
    simp only [head?_longer hmore (show '-' ≠ '|' ∧ '-' ≠ ')' by decide)]
    split at h
    case isTrue hhyphen =>
      obtain ⟨next, hnext, h⟩ := Option.bind_eq_some_iff.1 h
      obtain ⟨⟨any, after⟩, hhyphens, hresult⟩ := Option.bind_eq_some_iff.1 h
      cases hresult
      rw [if_pos hhyphen]
      refine Option.bind_eq_some_iff.2 ⟨_, next?_longer hnext more, ?_⟩
      exact Option.bind_eq_some_iff.2 ⟨_, ih hhyphens (Nat.le_of_succ_le_succ hle), rfl⟩
    case isFalse hhyphen =>
      cases h
      rw [if_neg hhyphen]

theorem classSigns?_longer {negated negated' : Bool} {start : CharSet}
    (h : classSigns? f negated cs = some (negated', start, rest)) :
    classSigns? f negated (cs ++ more) = some (negated', start, rest ++ more) := by
  unfold classSigns? at h ⊢
  obtain ⟨⟨any, after⟩, hhyphens, h⟩ := Option.bind_eq_some_iff.1 h
  have hle : cs.length + 1 ≤ (cs ++ more).length + 1 := by simp
  refine Option.bind_eq_some_iff.2 ⟨_, hyphens?_longer hmore hhyphens hle, ?_⟩
  simp only [head?_longer hmore (show ']' ≠ '|' ∧ ']' ≠ ')' by decide)]
  dsimp only at h
  split at h
  case isTrue hany =>
    cases h
    rw [if_pos hany]
  case isFalse hany =>
    rw [if_neg hany]
    split at h
    case isTrue hbracket =>
      obtain ⟨last, hlast, hresult⟩ := Option.map_eq_some_iff.1 h
      cases hresult
      rw [if_pos hbracket]
      exact Option.map_eq_some_iff.2 ⟨_, next?_longer hlast more, rfl⟩
    case isFalse hbracket =>
      cases h
      rw [if_neg hbracket]

theorem classOpening?_longer {negated : Bool} {start : CharSet}
    (h : classOpening? f cs = some (negated, start, rest)) :
    classOpening? f (cs ++ more) = some (negated, start, rest ++ more) := by
  rw [classOpening?_eq] at h ⊢
  obtain ⟨first, hfirst, h⟩ := Option.bind_eq_some_iff.1 h
  refine Option.bind_eq_some_iff.2 ⟨_, next?_longer hfirst more, ?_⟩
  simp only [head?_longer hmore (show '^' ≠ '|' ∧ '^' ≠ ')' by decide)]
  split at h
  case isTrue hnegated =>
    obtain ⟨second, hsecond, h⟩ := Option.bind_eq_some_iff.1 h
    rw [if_pos hnegated]
    exact Option.bind_eq_some_iff.2
      ⟨_, next?_longer hsecond more, classSigns?_longer hmore h⟩
  case isFalse hnegated =>
    rw [if_neg hnegated]
    exact classSigns?_longer hmore h

theorem classItems?_longer {fuel fuel' : Nat} {negated : Bool} {pending : Pending}
    {held s : CharSet} (h : classItems? f negated fuel pending held cs = some (s, rest))
    (hle : fuel ≤ fuel') :
    classItems? f negated fuel' pending held (cs ++ more) = some (s, rest ++ more) := by
  induction fuel generalizing fuel' negated pending held cs s rest with
  | zero => cases h
  | succ n ih =>
    obtain ⟨n', rfl⟩ : ∃ n', fuel' = n' + 1 := ⟨fuel' - 1, by omega⟩
    have hle : n ≤ n' := Nat.le_of_succ_le_succ hle
    unfold classItems? at h ⊢
    rcases skip_cases f cs with hskip | hskip
    · rw [hskip] at h
      cases h
    rw [hskip]
    generalize f.skip cs = kept at h
    split at h
    case h_1 => cases h
    case h_2 kept =>
      simp only [List.cons_append]
      rw [← List.cons_append, isNamedClass_longer hmore]
      split at h
      case isTrue hnamed =>
        obtain ⟨⟨inner, after⟩, hinner, h⟩ := Option.bind_eq_some_iff.1 h
        rw [if_pos hnamed]
        exact Option.bind_eq_some_iff.2 ⟨_, namedClass?_longer hinner more, ih h hle⟩
      case isFalse hnamed =>
        obtain ⟨⟨innerNegated, start, next⟩, hopening, h⟩ := Option.bind_eq_some_iff.1 h
        obtain ⟨⟨inner, after⟩, hinner, h⟩ := Option.bind_eq_some_iff.1 h
        rw [if_neg hnamed]
        refine Option.bind_eq_some_iff.2 ⟨_, classOpening?_longer hmore hopening, ?_⟩
        exact Option.bind_eq_some_iff.2 ⟨_, ih hinner hle, ih h hle⟩
    case h_3 =>
      obtain ⟨s, hs, hresult⟩ := Option.map_eq_some_iff.1 h
      cases hresult
      simp only [List.cons_append]
      exact Option.map_eq_some_iff.2 ⟨_, hs, rfl⟩
    case h_4 | h_5 | h_6 =>
      simp only [List.cons_append]
      exact ih h hle
    case h_7 kept hnil hopen hclose hinter hdiff hsymDiff =>
      obtain ⟨⟨s, after⟩, hs, h⟩ := Option.bind_eq_some_iff.1 h
      have hafter : after ≠ [] := by
        rintro rfl
        cases n <;> simp [classItems?, skip_nil] at h
      split
      case h_1 heq => exact absurd (List.append_eq_nil_iff.1 heq).1 hnil
      case h_2 heq =>
        exact absurd heq (hmore.ne_append ['['] (by decide) hopen _)
      case h_3 heq =>
        exact absurd heq (hmore.ne_append [']'] (by decide) hclose _)
      case h_4 heq =>
        exact absurd heq (hmore.ne_append ['&', '&'] (by decide) hinter _)
      case h_5 heq =>
        exact absurd heq (hmore.ne_append ['-', '-'] (by decide) hdiff _)
      case h_6 heq =>
        exact absurd heq (hmore.ne_append ['~', '~'] (by decide) hsymDiff _)
      case h_7 =>
        exact Option.bind_eq_some_iff.2 ⟨_, classRange?_longer hmore hs hafter, ih h hle⟩

theorem class?_longer {s : CharSet} (h : class? f cs = some (s, rest)) :
    class? f (cs ++ more) = some (s, rest ++ more) := by
  obtain ⟨⟨negated, start, next⟩, hopening, h⟩ := Option.bind_eq_some_iff.1 h
  have hle : cs.length + 1 ≤ (cs ++ more).length + 1 := by simp
  exact Option.bind_eq_some_iff.2
    ⟨_, classOpening?_longer hmore hopening, classItems?_longer hmore h hle⟩

end

end Adventure.Regex
