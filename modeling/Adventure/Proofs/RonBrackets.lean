import Adventure.Proofs.RonWords
import Adventure.Ron.Printer

/-!
# Brackets of RON are read back

The printer puts the parts of a list, a map or a record on lines of their own and those of a tuple
on one line; either way the parser finds them one by one (`parts_block`, `parts_commas`). All that
a bracket needs to know of its parts is `Reads`: a part begins with a character that is neither
skipped nor closes a bracket (`Solid`), and it is read as it was printed if nothing follows it or
one of the few marks that can (`Closed`).
-/

namespace Adventure.Ron

open Scan

/-! ## The borders of a part -/

/-- Brackets that close. -/
def closings : List Char := [')', ']', '\x7d']

/-- A text that begins with a character that is neither skipped nor closes a bracket. -/
def Solid (text : List Char) : Prop :=
  ∃ c ∈ text.head?, isBlank c = false ∧ c ∉ '/' :: '#' :: closings

theorem solid_cons {c : Char} (h : isBlank c = false ∧ c ∉ '/' :: '#' :: closings)
    (text : List Char) : Solid (c :: text) := ⟨c, rfl, h⟩

theorem solid_name {name : String} (h : isName name = true) (rest : List Char) :
    Solid (name.toList ++ rest) := by
  have hall : ∀ n < 128, isNamePart (Char.ofNat n) = true → isBlank (Char.ofNat n) = false ∧
      Char.ofNat n ∉ '/' :: '#' :: closings := by decide +kernel
  have hparts := isNamePart_of_isName h
  simp only [isName, Bool.and_eq_true] at h
  cases hchars : name.toList with
  | nil => simp [hchars] at h
  | cons c cs =>
    have hpart := hparts c (by simp [hchars])
    exact solid_cons (of_ascii (p := fun c => isNamePart c = true → isBlank c = false ∧
      c ∉ '/' :: '#' :: closings) hall (toNat_lt_of_isNamePart hpart) hpart) _

theorem Solid.dense {text : List Char} (h : Solid text) (rest : List Char) :
    Dense (text ++ rest) := by
  obtain ⟨c, hc, hblank, hmarks⟩ := h
  obtain ⟨tail, rfl⟩ := List.head?_eq_some_iff.1 hc
  exact dense_cons ⟨hblank, by rintro rfl; simp at hmarks⟩

/-- The marks that can follow a value. -/
def valueEnds : List Char := [',', ')', ':']

/-- Nothing, or a text that begins with a mark that can follow a value. -/
def Closed (text : List Char) : Prop := ∀ c ∈ text.head?, c ∈ valueEnds

theorem Closed.marked {text : List Char} (h : Closed text) : Marked text := by
  intro c hc
  have hsub : ∀ c ∈ valueEnds, c ∈ nameEnds := List.all_iff_forall_prop.1 (by decide)
  exact hsub c (h c hc)

theorem closed_cons {c : Char} {text : List Char} (h : c ∈ valueEnds) : Closed (c :: text) := by
  intro d hd
  obtain rfl : c = d := by simpa using hd
  exact h

/-! ## Brackets and commas -/

theorem tryTake_cons (c : Char) (text : List Char) :
    tryTake [c] (c :: text) = some (true, text) := by
  simp [tryTake]

theorem tryTake_ne {c : Char} {text : List Char} (h : text.head? ≠ some c) :
    tryTake [c] text = some (false, text) := by
  cases text with
  | nil => rfl
  | cons d text =>
    have hne : c ≠ d := fun heq => h (by simp [heq])
    simp [tryTake, hne]

theorem expect_cons (c : Char) (text : List Char) : expect c (c :: text) = some ((), text) := by
  simp [expect]

theorem Solid.not_closing {text : List Char} (h : Solid text) (rest : List Char) {closing : Char}
    (hclosing : closing ∈ closings) : (text ++ rest).head? ≠ some closing := by
  obtain ⟨c, hc, -, hmarks⟩ := h
  obtain ⟨tail, rfl⟩ := List.head?_eq_some_iff.1 hc
  rintro heq
  obtain rfl : c = closing := by simpa using heq
  simp [hclosing] at hmarks

/-- A part is read as it is printed. -/
def Reads {α : Type} (part : Scan α) (print : α → List Char) (a : α) : Prop :=
  Solid (print a) ∧ ∀ rest, Closed rest → part (print a ++ rest) = some (a, rest)

section

variable {α : Type} {part : Scan α} {print : α → List Char} {closing : Char}

theorem separated_end (part : Scan α) (fuel : Nat) {text rest : List Char}
    (h : afterBlanks? .words text = some (closing :: rest)) :
    separated part closing (fuel + 1) text = some ([], rest) := by
  rw [separated, bind_of_some (blanks_of h), bind_of_some (tryTake_cons closing rest)]
  rfl

theorem separated_comma {fuel : Nat} {a : α} {more : List α} {text rest left : List Char}
    (hclosing : closing ∈ closings) (hreads : Reads part print a)
    (h : afterBlanks? .words text = some (print a ++ ',' :: rest))
    (hmore : separated part closing fuel rest = some (more, left)) :
    separated part closing (fuel + 1) text = some (a :: more, left) := by
  rw [separated, bind_of_some (blanks_of h),
    bind_of_some (tryTake_ne (hreads.1.not_closing _ hclosing)), if_neg Bool.false_ne_true,
    bind_of_some (hreads.2 _ (closed_cons (by decide))),
    bind_of_some (blanks_dense (dense_cons (by decide))), bind_of_some (tryTake_cons ',' rest),
    if_pos rfl, bind_of_some hmore]
  rfl

theorem separated_last {fuel : Nat} {a : α} {text rest : List Char} (hreads : Reads part print a)
    (h : afterBlanks? .words text = some (print a ++ ')' :: rest)) :
    separated part ')' (fuel + 1) text = some ([a], rest) := by
  have hdense : Dense (')' :: rest) := dense_cons (by decide)
  rw [separated, bind_of_some (blanks_of h),
    bind_of_some (tryTake_ne (hreads.1.not_closing _ (by decide))), if_neg Bool.false_ne_true,
    bind_of_some (hreads.2 _ (closed_cons (by decide))), bind_of_some (blanks_dense hdense),
    bind_of_some (tryTake_ne (by simp : (')' :: rest).head? ≠ some ',')),
    if_neg Bool.false_ne_true, bind_of_some (blanks_dense hdense),
    bind_of_some (expect_cons ')' rest)]
  rfl

theorem afterBlanks?_line (depth : Nat) (text : List Char) :
    afterBlanks? .words ('\n' :: (indent depth ++ text)) = afterBlanks? .words text := by
  rw [afterBlanks?_blank (by decide), indent, afterBlanks?_spaces]

/-- Parts that stand on lines of their own are read one by one. -/
theorem separated_lines (hclosing : closing ∈ closings) (depth : Nat) (rest : List Char)
    (as : List α) (h : ∀ a ∈ as, Reads part print a) (fuel : Nat)
    (hfuel : as.length < fuel) :
    separated part closing fuel ('\n' :: ((as.map print).flatMap (fun line =>
        indent (depth + 1) ++ line ++ [',', '\n']) ++ (indent depth ++ closing :: rest)))
      = some (as, rest) := by
  induction as generalizing fuel with
  | nil =>
    obtain ⟨fuel, rfl⟩ : ∃ k, fuel = k + 1 := ⟨fuel - 1, by omega⟩
    refine separated_end part fuel ?_
    rw [List.map_nil, List.flatMap_nil, List.nil_append, afterBlanks?_line]
    have hall : ∀ c ∈ closings, isBlank c = false ∧ c ≠ '/' :=
      List.all_iff_forall_prop.1 (by decide)
    exact afterBlanks?_dense (dense_cons (hall closing hclosing))
  | cons a as ih =>
    obtain ⟨fuel, rfl⟩ : ∃ k, fuel = k + 1 := ⟨fuel - 1, by omega⟩
    have hreads := h a List.mem_cons_self
    have hmore := ih (fun b hb => h b (List.mem_cons_of_mem _ hb)) fuel
      (by rw [List.length_cons] at hfuel; omega)
    refine separated_comma hclosing hreads ?_ hmore
    simp only [List.map_cons, List.flatMap_cons, List.append_assoc, List.cons_append,
      List.nil_append]
    rw [afterBlanks?_line, afterBlanks?_dense (hreads.1.dense _)]

theorem block_eq_cons (opening closing : Char) (depth : Nat) (lines : List (List Char)) :
    block opening closing depth lines
      = opening :: (block opening closing depth lines).tail := by
  cases lines <;> rfl

theorem length_le_flatMap (depth : Nat) (lines : List (List Char)) :
    lines.length
      ≤ (lines.flatMap fun line => indent depth ++ line ++ [',', '\n']).length := by
  induction lines with
  | nil => simp
  | cons line lines ih =>
    simp only [List.length_cons, List.flatMap_cons, List.length_append] at ih ⊢
    omega

/-- The parts of a block are read as they are printed. -/
theorem parts_block (opening : Char) (hclosing : closing ∈ closings) (depth : Nat)
    (rest : List Char) (as : List α) (h : ∀ a ∈ as, Reads part print a) :
    parts part closing ((block opening closing depth (as.map print)).tail ++ rest)
      = some (as, rest) := by
  cases as with
  | nil =>
    have hall : ∀ c ∈ closings, isBlank c = false ∧ c ≠ '/' :=
      List.all_iff_forall_prop.1 (by decide)
    exact separated_end part _ (afterBlanks?_dense (dense_cons (hall closing hclosing)))
  | cons a as =>
    have hlength := length_le_flatMap (depth + 1) ((a :: as).map print)
    have hbody : (block opening closing depth ((a :: as).map print)).tail ++ rest
        = '\n' :: (((a :: as).map print).flatMap (fun line =>
          indent (depth + 1) ++ line ++ [',', '\n']) ++ (indent depth ++ closing :: rest)) := by
      simp [block]
    rw [parts, hbody]
    refine separated_lines hclosing depth rest (a :: as) h _ ?_
    rw [List.length_map] at hlength
    simp only [List.length_cons, List.length_append] at hlength ⊢
    omega

theorem commas_cons (p : List Char) (ps : List (List Char)) :
    ∃ tail, (∀ rest, Closed (tail ++ ')' :: rest) ∧ (tail ++ ')' :: rest).head? ≠ some ':') ∧
      commas (p :: ps) = p ++ tail := by
  cases ps with
  | nil => exact ⟨[], fun rest => ⟨closed_cons (by decide), by simp⟩, by simp [commas]⟩
  | cons q ps =>
    exact ⟨',' :: ' ' :: commas (q :: ps), fun rest => ⟨closed_cons (by decide), by simp⟩,
      by simp [commas]⟩

/-- Parts with commas between them are read one by one. -/
theorem separated_commas (rest : List Char) (a : α) (as : List α)
    (h : ∀ b ∈ a :: as, Reads part print b) (fuel : Nat) (hfuel : as.length < fuel)
    {text : List Char}
    (htext : afterBlanks? .words text = some (commas ((a :: as).map print) ++ ')' :: rest)) :
    separated part ')' fuel text = some (a :: as, rest) := by
  induction as generalizing a fuel text with
  | nil =>
    obtain ⟨fuel, rfl⟩ : ∃ k, fuel = k + 1 := ⟨fuel - 1, by omega⟩
    exact separated_last (h a (by simp)) htext
  | cons b bs ih =>
    obtain ⟨fuel, rfl⟩ : ∃ k, fuel = k + 1 := ⟨fuel - 1, by omega⟩
    have hb := h b (by simp)
    have hblank : afterBlanks? .words (' ' :: (commas ((b :: bs).map print) ++ ')' :: rest))
        = some (commas ((b :: bs).map print) ++ ')' :: rest) := by
      rw [afterBlanks?_blank (by decide)]
      obtain ⟨tail, -, htail⟩ := commas_cons (print b) (bs.map print)
      rw [List.map_cons, htail, List.append_assoc, afterBlanks?_dense (hb.1.dense _)]
    have hmore := ih b (fun c hc => h c (List.mem_cons_of_mem _ hc)) fuel
      (by rw [List.length_cons] at hfuel; omega) hblank
    refine separated_comma (by decide) (h a (by simp)) ?_ hmore
    rw [htext]
    simp [commas]

theorem length_le_commas (as : List α) (h : ∀ a ∈ as, Reads part print a) :
    as.length ≤ (commas (as.map print)).length := by
  induction as with
  | nil => simp
  | cons a as ih =>
    have hone : 0 < (print a).length := by
      obtain ⟨c, hc, -⟩ := (h a (by simp)).1
      obtain ⟨tail, htail⟩ := List.head?_eq_some_iff.1 hc
      simp [htail]
    have hmore := ih fun b hb => h b (List.mem_cons_of_mem _ hb)
    cases as with
    | nil => simpa [commas, Nat.one_le_iff_ne_zero, Nat.pos_iff_ne_zero] using hone
    | cons b bs =>
      simp only [List.map_cons, commas, List.length_append, List.length_cons] at hmore ⊢
      omega

/-- The parts of a tuple are read as they are printed. -/
theorem parts_commas (rest : List Char) (as : List α) (h : ∀ a ∈ as, Reads part print a) :
    parts part ')' (commas (as.map print) ++ ')' :: rest) = some (as, rest) := by
  cases as with
  | nil => exact separated_end part _ (afterBlanks?_dense (dense_cons (by decide)))
  | cons a as =>
    have hlength := length_le_commas (a :: as) h
    refine separated_commas rest a as h _ ?_ ?_
    · simp only [List.length_cons, List.length_append] at hlength ⊢
      omega
    · obtain ⟨tail, -, htail⟩ := commas_cons (print a) (as.map print)
      rw [List.map_cons, htail, List.append_assoc,
        afterBlanks?_dense ((h a (by simp)).1.dense _)]

end

end Adventure.Ron
