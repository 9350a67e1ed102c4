import Adventure.Command.Template

/-!
# Small letters

A text in small letters stays as it is when it is put in small letters again
(`Unicode.lowercase_lowercase`), and a word stays a word. Both can be read off the tables: the
letters that the runs lead to lie apart from the letters that have a small form, and apart from
white space. Runs of every other letter interleave with the letters that they lead to, so there it
is the parity that keeps them apart.
-/

namespace Adventure.Unicode

/-! ## Runs of letters -/

namespace CaseRun

/-- `n` is one of the letters of a run. -/
def Has (run : CaseRun) (n : Nat) : Prop :=
  run.first ≤ n ∧ n ≤ run.last ∧ (n - run.first) % run.step = 0

theorem exists_of_find? {runs : List CaseRun} {n m : Nat} (h : find? runs n = some m) :
    ∃ run ∈ runs, run.Has n ∧ m = (n + run.shift).toNat := by
  obtain ⟨run, hrun, hpartner⟩ := List.exists_of_findSome?_eq_some h
  unfold partner? at hpartner
  split at hpartner
  · rename_i hin
    exact ⟨run, hrun, hin, (Option.some.inj hpartner).symm⟩
  · cases hpartner

theorem find?_eq_none {runs : List CaseRun} {n : Nat} (h : ∀ run ∈ runs, ¬ run.Has n) :
    find? runs n = none := by
  refine List.findSome?_eq_none_iff.2 fun run hrun => ?_
  rw [partner?, if_neg]
  exact h run hrun

/-- The partner of a letter of a run is a letter of the run seen from its partners. -/
theorem has_flip {run : CaseRun} (hpositive : 0 < run.first + run.shift) {n : Nat}
    (h : run.Has n) : run.flip.Has (n + run.shift).toNat := by
  obtain ⟨hfirst, hlast, hstep⟩ := h
  have hdistance : (n + run.shift).toNat - (run.first + run.shift).toNat = n - run.first := by omega
  refine ⟨?_, ?_, ?_⟩
  · change (run.first + run.shift).toNat ≤ _
    omega
  · change _ ≤ (run.last + run.shift).toNat
    omega
  · change ((n + run.shift).toNat - (run.first + run.shift).toNat) % run.step = 0
    rw [hdistance, hstep]

/-- Whether the bounds of two runs, or the parity of their letters, keep them apart. -/
def apart (r s : CaseRun) : Bool :=
  Nat.blt r.last s.first || Nat.blt s.last r.first ||
    (r.step == 2 && s.step == 2 && (r.first + s.first) % 2 == 1)

theorem not_has_of_apart {r s : CaseRun} (h : r.apart s = true) {n : Nat} (hr : r.Has n) :
    ¬ s.Has n := by
  obtain ⟨hrfirst, hrlast, hrstep⟩ := hr
  rintro ⟨hsfirst, hslast, hsstep⟩
  simp only [apart, Bool.or_eq_true, Bool.and_eq_true, Nat.blt_eq, beq_iff_eq] at h
  rcases h with (hbelow | habove) | ⟨⟨hr₂, hs₂⟩, hparity⟩
  · omega
  · omega
  · rw [hr₂] at hrstep
    rw [hs₂] at hsstep
    omega

end CaseRun

/-- The letters with a small form that is one character. -/
def capitals : List CaseRun := letterPairs ++ oneWaySmall

theorem capitals_positive : ∀ run ∈ capitals, 0 < run.first + run.shift := by
  decide +kernel

/-- Small letters have no small form of their own. -/
theorem capitals_apart :
    (capitals.map CaseRun.flip).all (fun r => capitals.all r.apart) = true := by
  decide +kernel

/-- No run leads to the one letter whose small form is two characters. -/
theorem capitals_apart_dotted :
    (capitals.map CaseRun.flip).all (·.apart ⟨0x130, 0x130, 1, 0⟩) = true := by
  decide +kernel

/-- Small letters lie apart from white space. -/
theorem capitals_apart_whitespace : (capitals.map CaseRun.flip).all (fun run =>
    whitespaceRuns.all fun r => run.apart ⟨r.1, r.2, 1, 0⟩) = true := by
  decide +kernel

/-- What a run leads to is a letter of the run seen from its partners. -/
theorem exists_flip_of_find? {n m : Nat} (h : CaseRun.find? capitals n = some m) :
    ∃ run ∈ capitals.map CaseRun.flip, run.Has m := by
  obtain ⟨run, hrun, hhas, rfl⟩ := CaseRun.exists_of_find? h
  exact ⟨run.flip, List.mem_map_of_mem hrun, CaseRun.has_flip (capitals_positive run hrun) hhas⟩

/-- A letter that a run leads to has no small form other than itself. -/
theorem find?_capitals {n m : Nat} (h : CaseRun.find? capitals n = some m) :
    CaseRun.find? capitals m = none ∧ m ≠ 0x130 := by
  obtain ⟨run, hrun, hhas⟩ := exists_flip_of_find? h
  constructor
  · refine CaseRun.find?_eq_none fun s hs => CaseRun.not_has_of_apart ?_ hhas
    exact List.all_eq_true.1 (List.all_eq_true.1 capitals_apart run hrun) s hs
  · rintro rfl
    exact CaseRun.not_has_of_apart (List.all_eq_true.1 capitals_apart_dotted run hrun) hhas
      ⟨Nat.le_refl _, Nat.le_refl _, rfl⟩

/-! ## Characters -/

theorem lowerChar_eq (c : Char) : lowerChar c = if c.toNat = 0x130 then ['i', '\u0307'] else
    match CaseRun.find? capitals c.toNat with
    | some n => [Char.ofNat n]
    | none => [c] := rfl

/-- A number that has no character stands for the first one. -/
theorem toNat_ofNat (n : Nat) : (Char.ofNat n).toNat = n ∨ Char.ofNat n = '\x00' := by
  by_cases hvalid : n.isValidChar
  · have heq : Char.ofNat n = Char.ofNatAux n hvalid := dif_pos hvalid
    exact .inl (heq ▸ rfl)
  · exact .inr (dif_neg hvalid)

/-- The characters of a small form are their own small forms. -/
theorem lowerChar_of_mem_lowerChar {c d : Char} (h : d ∈ lowerChar c) : lowerChar d = [d] := by
  rw [lowerChar_eq] at h
  split at h
  · rcases List.mem_cons.1 h with rfl | h
    · decide +kernel
    · obtain rfl := List.mem_singleton.1 h
      decide +kernel
  · rename_i hdotted
    cases hfind : CaseRun.find? capitals c.toNat with
    | some n =>
      simp only [hfind, List.mem_singleton] at h
      subst h
      obtain ⟨hnone, hne⟩ := find?_capitals hfind
      rcases toNat_ofNat n with hvalue | hzero
      · rw [lowerChar_eq, hvalue, if_neg hne, hnone]
      · rw [hzero]
        decide +kernel
    | none =>
      simp only [hfind, List.mem_singleton] at h
      subst h
      rw [lowerChar_eq, if_neg hdotted, hfind]

theorem lowerChar_ne_nil (c : Char) : lowerChar c ≠ [] := by
  unfold lowerChar
  split
  · simp
  · split <;> simp

/-- A letter that a run leads to is no white space. -/
theorem isWhitespace_of_find? {n m : Nat} (h : CaseRun.find? capitals n = some m) :
    isWhitespace (Char.ofNat m) = false := by
  obtain ⟨run, hrun, hhas⟩ := exists_flip_of_find? h
  rcases toNat_ofNat m with hvalue | hzero
  · refine Bool.eq_false_iff.2 fun hspace => ?_
    obtain ⟨r, hr, hle⟩ := inRuns_iff.1 hspace
    rw [hvalue] at hle
    have hapart := List.all_eq_true.1 (List.all_eq_true.1 capitals_apart_whitespace run hrun) r hr
    exact CaseRun.not_has_of_apart hapart hhas ⟨hle.1, hle.2, Nat.mod_one _⟩
  · rw [hzero]
    decide

/-- The small form of a character that is no white space holds none. -/
theorem isWhitespace_of_mem_lowerChar {c d : Char} (hc : isWhitespace c = false)
    (hd : d ∈ lowerChar c) : isWhitespace d = false := by
  rw [lowerChar_eq] at hd
  split at hd
  · rcases List.mem_cons.1 hd with rfl | hd
    · decide
    · obtain rfl := List.mem_singleton.1 hd
      decide
  · split at hd
    · rename_i hfind
      obtain rfl := List.mem_singleton.1 hd
      exact isWhitespace_of_find? hfind
    · obtain rfl := List.mem_singleton.1 hd
      exact hc

/-! ## Texts -/

/-- Characters that are their own small forms stay as they are; a capital sigma is none. -/
theorem lowerFrom_eq_self {cs : List Char} (h : ∀ c ∈ cs, lowerChar c = [c]) (before : List Char) :
    lowerFrom before cs = cs := by
  induction cs generalizing before with
  | nil => rfl
  | cons c cs ih =>
    obtain ⟨hc, hrest⟩ := List.forall_mem_cons.1 h
    have hne : c ≠ 'Σ' := by
      rintro rfl
      exact absurd hc (by decide +kernel)
    rw [lowerFrom, if_neg hne, hc, ih hrest, List.singleton_append]

/-- A text in small letters consists of characters that are their own small forms. -/
theorem lowerChar_of_mem_lowerFrom {before cs : List Char} {d : Char}
    (h : d ∈ lowerFrom before cs) : lowerChar d = [d] := by
  induction cs generalizing before with
  | nil => cases h
  | cons c cs ih =>
    rcases List.mem_append.1 h with hd | hd
    · split at hd
      · obtain rfl := List.mem_singleton.1 hd
        split <;> decide +kernel
      · exact lowerChar_of_mem_lowerChar hd
    · exact ih hd

/-- A text in small letters stays as it is. -/
theorem lowercase_lowercase (cs : List Char) : lowercase (lowercase cs) = lowercase cs :=
  lowerFrom_eq_self (fun _ => lowerChar_of_mem_lowerFrom) []

/-- Without a capital sigma the small form of a text is put together from those of its
characters. -/
theorem lowercase_eq_flatMap {cs : List Char} (h : 'Σ' ∉ cs) :
    lowercase cs = cs.flatMap lowerChar := by
  suffices hfrom : ∀ before, lowerFrom before cs = cs.flatMap lowerChar from hfrom []
  induction cs with
  | nil => exact fun _ => rfl
  | cons c cs ih =>
    obtain ⟨hc, hrest⟩ := List.ne_and_not_mem_of_not_mem_cons h
    intro before
    rw [lowerFrom, if_neg hc.symm, ih hrest, List.flatMap_cons]

/-- A word in small letters is a word. -/
theorem isWhitespace_of_mem_lowerFrom {before cs : List Char} {d : Char}
    (hcs : ∀ c ∈ cs, isWhitespace c = false) (hd : d ∈ lowerFrom before cs) :
    isWhitespace d = false := by
  induction cs generalizing before with
  | nil => cases hd
  | cons c cs ih =>
    obtain ⟨hc, hrest⟩ := List.forall_mem_cons.1 hcs
    rcases List.mem_append.1 hd with hd | hd
    · split at hd
      · obtain rfl := List.mem_singleton.1 hd
        split <;> decide
      · exact isWhitespace_of_mem_lowerChar hc hd
    · exact ih hrest hd

theorem lowercase_ne_nil {cs : List Char} (h : cs ≠ []) : lowercase cs ≠ [] := by
  cases cs with
  | nil => exact absurd rfl h
  | cons c cs =>
    intro hnil
    obtain ⟨hfirst, -⟩ := List.append_eq_nil_iff.1 hnil
    split at hfirst
    · cases hfirst
    · exact lowerChar_ne_nil c hfirst

/-! ## Letters of plain English -/

theorem toNat_of_isLetter {c : Char} (h : Template.isLetter c = true) :
    97 ≤ c.toNat ∧ c.toNat ≤ 122 := by
  simp only [Template.isLetter, Bool.and_eq_true, decide_eq_true_eq] at h
  exact h

theorem isWhitespace_of_isLetter {c : Char} (h : Template.isLetter c = true) :
    isWhitespace c = false := by
  have hle := toNat_of_isLetter h
  simp only [isWhitespace, whitespaceRuns, inRuns, List.any_cons, List.any_nil,
    Bool.or_eq_false_iff, Bool.and_eq_false_iff, decide_eq_false_iff_not, and_true]
  omega

theorem find?_plainLetter : ∀ n ∈ List.range' 97 26, CaseRun.find? capitals n = none := by
  decide +kernel

theorem lowerChar_of_isLetter {c : Char} (h : Template.isLetter c = true) : lowerChar c = [c] := by
  have hle := toNat_of_isLetter h
  rw [lowerChar_eq, if_neg (by omega),
    find?_plainLetter c.toNat (List.mem_range'_1.2 ⟨hle.1, by omega⟩)]

/-- The small letters of plain English stay as they are. -/
theorem lowercase_of_isLetter {cs : List Char} (h : ∀ c ∈ cs, Template.isLetter c = true) :
    lowercase cs = cs :=
  lowerFrom_eq_self (fun c hc => lowerChar_of_isLetter (h c hc)) []

end Adventure.Unicode
