import Adventure.Proofs.TemplateGrammar
import Adventure.Regex.Parser

/-!
# Reading expressions step by step

Each part that a text begins with is taken up by one step of the reader and leads on to the rest
of the text. The steps are stated for the parts that the expressions of templates are written with,
without flags. What the reader arrives at does not depend on its fuel as long as that exceeds the
length of the text (`Reads`), so a step need not count it.
-/

namespace Adventure.Regex

/-- The reader arrives at the result, with any fuel that exceeds the length of the text. -/
def Reads (grouped : Bool) (names : List (List Char)) (branches : List Regex) (items : List Item)
    (cs : List Char) (result : Regex × List (List Char) × List Char) : Prop :=
  ∀ fuel, cs.length < fuel → choice? fuel grouped {} names branches items cs = some result

theorem skip_default (cs : List Char) : ({} : Flags).skip cs = cs := rfl

theorem dropLazy_of_head? {cs : List Char} (h : cs.head? ≠ some '?') : dropLazy cs = cs := by
  unfold dropLazy
  split
  · exact absurd rfl h
  · rfl

section

variable {grouped : Bool} {names : List (List Char)} {branches : List Regex} {items : List Item}
  {rest : List Char} {result : Regex × List (List Char) × List Char}

/-! ## Ends -/

theorem reads_nil :
    Reads false names branches items [] (choice (sequence items) branches, names, []) := by
  rintro (_ | fuel) hfuel
  · cases hfuel
  · rfl

theorem reads_close :
    Reads true names branches items (')' :: rest)
      (choice (sequence items) branches, names, rest) := by
  rintro (_ | fuel) hfuel
  · cases hfuel
  · rfl

/-! ## Steps -/

/-- A step takes up the first character of a text, and possibly more, and reads on. -/
theorem Reads.of_step {c : Char} {cs : List Char} {branches' : List Regex} {items' : List Item}
    (hstep : ∀ fuel, choice? (fuel + 1) grouped {} names branches items (c :: cs)
      = choice? fuel grouped {} names branches' items' rest)
    (hlength : rest.length ≤ cs.length) (h : Reads grouped names branches' items' rest result) :
    Reads grouped names branches items (c :: cs) result := by
  rintro (_ | fuel) hfuel
  · cases hfuel
  · rw [hstep]
    exact h fuel (Nat.lt_of_le_of_lt hlength (Nat.lt_of_succ_lt_succ hfuel))

theorem Reads.bar (h : Reads grouped names (sequence items :: branches) [] rest result) :
    Reads grouped names branches items ('|' :: rest) result :=
  h.of_step (fun _ => rfl) (Nat.le_refl _)

/-- Letters and spaces stand for themselves: no case of the reader is about one. -/
theorem Reads.letter {c : Char} (hc : Template.isPlain c = true)
    (h : Reads grouped names branches (.expression (.char (.single c)) :: items) rest result) :
    Reads grouped names branches items (c :: rest) result := by
  have hpart : part? {} (c :: rest) = some (.char (.single c), rest) := by
    unfold part?
    split <;> rename_i heq <;> cases heq
    all_goals first
      | exact absurd hc (by decide)
      | rfl
  refine h.of_step (fun fuel => ?_) (Nat.le_refl _)
  rw [choice?, skip_default]
  split <;> rename_i heq
  case h_10 =>
    rw [hpart]
    rfl
  all_goals
    cases heq
    try exact absurd hc (by decide)

theorem Reads.textStart
    (h : Reads grouped names branches (.expression (.look .textStart) :: items) rest result) :
    Reads grouped names branches items ('^' :: rest) result :=
  h.of_step (fun _ => rfl) (Nat.le_refl _)

theorem Reads.textEnd
    (h : Reads grouped names branches (.expression (.look .textEnd) :: items) rest result) :
    Reads grouped names branches items ('$' :: rest) result :=
  h.of_step (fun _ => rfl) (Nat.le_refl _)

theorem Reads.wordChar (h : Reads grouped names branches
      (.expression (.char (.having Unicode.isWordChar)) :: items) rest result) :
    Reads grouped names branches items ('\\' :: 'w' :: rest) result :=
  h.of_step (fun _ => rfl) (Nat.le_succ _)

/-! ## Repetitions -/

theorem Reads.optional {r : Regex} (hrest : rest.head? ≠ some '?')
    (h : Reads grouped names branches (.expression (.rep r 0 (some 1)) :: items) rest result) :
    Reads grouped names branches (.expression r :: items) ('?' :: rest) result := by
  refine h.of_step (fun fuel => ?_) (Nat.le_refl _)
  change choice? fuel grouped {} names branches _ (dropLazy rest) = _
  rw [dropLazy_of_head? hrest]

theorem Reads.repeated {r : Regex} (hrest : rest.head? ≠ some '?')
    (h : Reads grouped names branches (.expression (.rep r 1 none) :: items) rest result) :
    Reads grouped names branches (.expression r :: items) ('+' :: rest) result := by
  refine h.of_step (fun fuel => ?_) (Nat.le_refl _)
  change choice? fuel grouped {} names branches _ (dropLazy rest) = _
  rw [dropLazy_of_head? hrest]

/-! ## Groups -/

section

variable {body : List Char} {r : Regex} {names' : List (List Char)}

/-- Where an opening bracket begins a group, the text up to the closing one is read first. -/
theorem reads_of_opening {inside : List Char} {name : Option (List Char)}
    (hopening : opening? {} names inside = some (.group {} name, body ++ ')' :: rest))
    (hlength : (body ++ ')' :: rest).length ≤ inside.length)
    (hbody : Reads true (name.toList ++ names) [] [] (body ++ ')' :: rest) (r, names', rest))
    (h : Reads grouped names' branches (.expression r :: items) rest result) :
    Reads grouped names branches items ('(' :: inside) result := by
  rintro (_ | fuel) hfuel
  · cases hfuel
  · have hinside : inside.length < fuel := Nat.lt_of_succ_lt_succ hfuel
    have hrest : rest.length < fuel := by
      rw [List.length_append, List.length_cons] at hlength
      omega
    rw [choice?, skip_default]
    change (opening? {} names inside).bind _ = _
    rw [hopening]
    change (choice? fuel true {} (name.toList ++ names) [] [] (body ++ ')' :: rest)).bind _ = _
    rw [hbody fuel (Nat.lt_of_le_of_lt hlength hinside)]
    exact h fuel hrest

theorem Reads.group (hbody : Reads true names [] [] (body ++ ')' :: rest) (r, names', rest))
    (h : Reads grouped names' branches (.expression r :: items) rest result) :
    Reads grouped names branches items ('(' :: '?' :: ':' :: (body ++ ')' :: rest)) result :=
  reads_of_opening rfl (Nat.le_succ_of_le (Nat.le_succ _)) hbody h

variable {first : Char} {more : List Char} (hfirst : isNameChar true first = true)
  (hmore : ∀ c ∈ more, isNameChar false c = true) (hnew : first :: more ∉ names)
include hfirst hmore

theorem forall_ne_bracket : ∀ c ∈ first :: more, decide (c ≠ '>') = true := by
  intro c hc
  refine decide_eq_true ?_
  rintro rfl
  rcases List.mem_cons.1 hc with rfl | hc
  · exact absurd hfirst (by decide +kernel)
  · exact absurd (hmore _ hc) (by decide +kernel)

include hnew

theorem captureName?_append (rest : List Char) :
    captureName? names (first :: more ++ '>' :: rest) = some (first :: more, rest) := by
  have hname := forall_ne_bracket hfirst hmore
  have htake : (first :: more ++ '>' :: rest).takeWhile (fun c => decide (c ≠ '>'))
      = first :: more := by
    rw [List.takeWhile_append_of_pos hname, List.takeWhile_cons_of_neg (by decide),
      List.append_nil]
  have hdrop : (first :: more ++ '>' :: rest).dropWhile (fun c => decide (c ≠ '>'))
      = '>' :: rest := by
    rw [List.dropWhile_append_of_pos hname, List.dropWhile_cons_of_neg (by decide)]
  have hmore : more.all (isNameChar false) = true := List.all_eq_true.2 hmore
  simp only [captureName?, htake, hdrop]
  rw [hfirst, hmore, List.contains_eq_mem, decide_eq_false hnew]
  rfl

/-- A named capture is no look-around, as its name begins with neither `=` nor `!`. -/
theorem opening?_capture (rest : List Char) :
    opening? {} names ('?' :: '<' :: (first :: more ++ '>' :: rest))
      = some (.group {} (some (first :: more)), rest) := by
  have hname := captureName?_append hfirst hmore hnew rest
  have heq : first ≠ '=' := by
    rintro rfl
    exact absurd hfirst (by decide +kernel)
  have hbang : first ≠ '!' := by
    rintro rfl
    exact absurd hfirst (by decide +kernel)
  rw [List.cons_append] at hname ⊢
  simp [opening?, skip_default, heq, hbang, hname]

theorem Reads.capture
    (hbody : Reads true ((first :: more) :: names) [] [] (body ++ ')' :: rest) (r, names', rest))
    (h : Reads grouped names' branches (.expression r :: items) rest result) :
    Reads grouped names branches items
      ('(' :: '?' :: '<' :: (first :: more ++ '>' :: (body ++ ')' :: rest))) result := by
  refine reads_of_opening (opening?_capture hfirst hmore hnew _) ?_ hbody h
  simp only [List.length_cons, List.length_append]
  omega

end

end

end Adventure.Regex
