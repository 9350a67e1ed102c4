import Adventure.Proofs.SmallLetters
import Adventure.Proofs.TemplateGrammar
import Adventure.Text.Words

/-!
# Lines in normal form

A line in normal form is empty or well spaced (`Text.wellSpaced_of_normalize`): its words stay
words in small letters, since no letter becomes a blank. On the other hand a well-spaced line of
small letters and spaces is its own normal form (`Text.normalize_of_wellSpaced`).

Spacing is followed from left to right. Whether the text so far ends with a space decides if
another space may follow (`Text.gapAfter?`).
-/

namespace Adventure

namespace Text

open Unicode Template

/-! ## Words -/

theorem splitWhen_ne_nil {α : Type} (p : α → Bool) (as : List α) : splitWhen p as ≠ [] := by
  cases as with
  | nil => simp [splitWhen]
  | cons a as =>
    unfold splitWhen
    split <;> simp

theorem splitWhen_of_pos {α : Type} {p : α → Bool} {a : α} (h : p a = true) (as : List α) :
    splitWhen p (a :: as) = [] :: splitWhen p as := by
  rw [splitWhen, h]

theorem splitWhen_of_neg {α : Type} {p : α → Bool} {a : α} (h : p a = false) (as : List α) :
    ∃ part parts, splitWhen p as = part :: parts ∧
      splitWhen p (a :: as) = (a :: part) :: parts := by
  obtain ⟨part, parts, hparts⟩ := List.exists_cons_of_ne_nil (splitWhen_ne_nil p as)
  refine ⟨part, parts, hparts, ?_⟩
  rw [splitWhen, h, hparts]

/-- The stretches between elements are made up of the others. -/
theorem of_mem_splitWhen {α : Type} {p : α → Bool} {as part : List α} (h : part ∈ splitWhen p as) :
    ∀ a ∈ part, a ∈ as ∧ p a = false := by
  induction as generalizing part with
  | nil =>
    obtain rfl := List.mem_singleton.1 h
    simp
  | cons b as ih =>
    have hlater : ∀ part ∈ splitWhen p as, ∀ a ∈ part, a ∈ b :: as ∧ p a = false :=
      fun part hpart a ha => (ih hpart a ha).imp_left (List.mem_cons_of_mem _)
    cases hb : p b with
    | true =>
      rw [splitWhen_of_pos hb] at h
      rcases List.mem_cons.1 h with rfl | h
      · simp
      · exact hlater part h
    | false =>
      obtain ⟨first, parts, hparts, heq⟩ := splitWhen_of_neg hb as
      rw [heq] at h
      rcases List.mem_cons.1 h with rfl | h
      · refine List.forall_mem_cons.2 ⟨⟨List.mem_cons_self, hb⟩, ?_⟩
        exact hlater first (hparts ▸ List.mem_cons_self)
      · exact hlater part (hparts ▸ List.mem_cons_of_mem _ h)

/-- A text whose only white space are spaces is made up of the stretches between them. -/
theorem join_splitWhen {cs : List Char} (h : ∀ c ∈ cs, isWhitespace c = true → c = ' ') :
    join [' '] (splitWhen isWhitespace cs) = cs := by
  induction cs with
  | nil => rfl
  | cons c cs ih =>
    obtain ⟨hc, hrest⟩ := List.forall_mem_cons.1 h
    have hjoin := ih hrest
    cases hspace : isWhitespace c with
    | true =>
      obtain rfl := hc hspace
      rw [splitWhen_of_pos hspace]
      obtain ⟨part, parts, hparts⟩ :=
        List.exists_cons_of_ne_nil (splitWhen_ne_nil isWhitespace cs)
      rw [hparts] at hjoin ⊢
      rw [join, hjoin]
      · rfl
      · exact List.cons_ne_nil _ _
    | false =>
      obtain ⟨part, parts, hparts, heq⟩ := splitWhen_of_neg hspace cs
      rw [hparts] at hjoin
      rw [heq]
      cases parts with
      | nil | cons => exact congrArg (c :: ·) hjoin

/-! ## Gaps -/

/-- Whether a text ends with a space, where the place at which it begins counts as one if `blank`
says so. There is no answer if two spaces meet. -/
def gapAfter? : Bool → List Char → Option Bool
  | blank, [] => some blank
  | blank, c :: cs =>
    if c = ' ' then if blank then none else gapAfter? true cs else gapAfter? false cs

theorem gapAfter?_append (blank : Bool) (cs ds : List Char) :
    gapAfter? blank (cs ++ ds) = (gapAfter? blank cs).bind (gapAfter? · ds) := by
  induction cs generalizing blank with
  | nil => rfl
  | cons c cs ih =>
    rw [List.cons_append, gapAfter?, gapAfter?]
    split
    · split
      · rfl
      · exact ih true
    · exact ih false

theorem gapAfter?_cons_of_ne {c : Char} (h : c ≠ ' ') (blank : Bool) (cs : List Char) :
    gapAfter? blank (c :: cs) = gapAfter? false cs := by
  rw [gapAfter?, if_neg h]

/-- After a word there is no gap. -/
theorem gapAfter?_word {word : List Char} (hne : word ≠ []) (h : ∀ c ∈ word, c ≠ ' ')
    (blank : Bool) : gapAfter? blank word = some false := by
  induction word generalizing blank with
  | nil => exact absurd rfl hne
  | cons c word ih =>
    obtain ⟨hc, hrest⟩ := List.forall_mem_cons.1 h
    rw [gapAfter?_cons_of_ne hc]
    cases word with
    | nil => rfl
    | cons d word => exact ih (List.cons_ne_nil _ _) hrest false

/-- After a space there is a gap, if the space is in place. -/
theorem gapAfter?_space (blank : Bool) (cs : List Char) :
    gapAfter? blank (cs ++ [' ']) = none ∨ gapAfter? blank (cs ++ [' ']) = some true := by
  rw [gapAfter?_append]
  cases gapAfter? blank cs with
  | none => exact .inl rfl
  | some gap =>
    cases gap with
    | true => exact .inl rfl
    | false => exact .inr rfl

/-- There is no answer exactly if two spaces meet. -/
theorem gapAfter?_eq_none {blank : Bool} {cs : List Char} : gapAfter? blank cs = none ↔
    (blank = true ∧ cs.head? = some ' ') ∨ [' ', ' '] <:+: cs := by
  induction cs generalizing blank with
  | nil => simp [gapAfter?]
  | cons c cs ih =>
    have hmeet : [' ', ' '] <+: c :: cs ↔ c = ' ' ∧ cs.head? = some ' ' := by
      cases cs <;> simp [List.cons_prefix_cons, eq_comm]
    rw [gapAfter?, List.infix_cons_iff, hmeet, List.head?_cons]
    by_cases hc : c = ' '
    · cases blank <;> simp [hc, ih]
    · simp [hc, ih]

/-- Where there is an answer, it says whether the text ends with a space. -/
theorem eq_of_gapAfter? {blank gap : Bool} {cs : List Char} (h : gapAfter? blank cs = some gap)
    (hne : cs ≠ []) : gap = decide (cs.getLast? = some ' ') := by
  induction cs generalizing blank with
  | nil => exact absurd rfl hne
  | cons c cs ih =>
    cases cs with
    | nil =>
      by_cases hc : c = ' '
      · cases blank <;> simp_all [gapAfter?]
      · simp_all [gapAfter?]
    | cons d cs =>
      rw [List.getLast?_cons_cons]
      rw [gapAfter?] at h
      split at h
      · split at h
        · cases h
        · exact ih h (List.cons_ne_nil _ _)
      · exact ih h (List.cons_ne_nil _ _)

/-- A text is well spaced exactly if no two spaces meet, its ends counting as such. -/
theorem wellSpaced_iff {cs : List Char} : WellSpaced cs ↔ gapAfter? true cs = some false := by
  constructor
  · rintro ⟨hne, hhead, hlast, hsingle⟩
    cases hgap : gapAfter? true cs with
    | none =>
      rcases gapAfter?_eq_none.1 hgap with ⟨-, hspace⟩ | hmeet
      · exact absurd hspace hhead
      · exact absurd hmeet hsingle
    | some gap => rw [eq_of_gapAfter? hgap hne, decide_eq_false hlast]
  · intro hgap
    have hne : cs ≠ [] := by
      rintro rfl
      cases hgap
    have hmeet : ¬ (true = true ∧ cs.head? = some ' ' ∨ [' ', ' '] <:+: cs) := by
      rw [← gapAfter?_eq_none, hgap]
      simp
    rw [not_or] at hmeet
    exact ⟨hne, fun hhead => hmeet.1 ⟨rfl, hhead⟩,
      of_decide_eq_false (eq_of_gapAfter? hgap hne).symm, hmeet.2⟩

/-- Where no two spaces meet, only the first stretch between spaces may be empty, and only if it
does not follow one. -/
theorem ne_nil_of_splitWhen {blank : Bool} {cs first : List Char} {parts : List (List Char)}
    (hgap : gapAfter? blank cs = some false) (h : ∀ c ∈ cs, isWhitespace c = true → c = ' ')
    (hparts : splitWhen isWhitespace cs = first :: parts) :
    (blank = true → first ≠ []) ∧ ∀ part ∈ parts, part ≠ [] := by
  induction cs generalizing blank first parts with
  | nil =>
    obtain rfl : blank = false := Option.some.inj hgap
    obtain ⟨-, rfl⟩ := List.cons.inj hparts
    simp
  | cons c cs ih =>
    obtain ⟨hc, hrest⟩ := List.forall_mem_cons.1 h
    cases hspace : isWhitespace c with
    | true =>
      obtain rfl := hc hspace
      rw [splitWhen_of_pos hspace] at hparts
      obtain ⟨rfl, rfl⟩ := List.cons.inj hparts
      obtain ⟨next, others, hnext⟩ :=
        List.exists_cons_of_ne_nil (splitWhen_ne_nil isWhitespace cs)
      cases blank with
      | true => simp [gapAfter?] at hgap
      | false =>
        obtain ⟨hfirst, hothers⟩ := ih (by simpa [gapAfter?] using hgap) hrest hnext
        exact ⟨nofun, hnext ▸ List.forall_mem_cons.2 ⟨hfirst rfl, hothers⟩⟩
    | false =>
      obtain ⟨part, others, hothers, heq⟩ := splitWhen_of_neg hspace cs
      rw [heq] at hparts
      obtain ⟨rfl, rfl⟩ := List.cons.inj hparts
      have hne : c ≠ ' ' := by
        rintro rfl
        cases hspace
      rw [gapAfter?_cons_of_ne hne] at hgap
      exact ⟨fun _ => List.cons_ne_nil _ _, (ih hgap hrest hothers).2⟩

/-- Words with a space between neighbours make up a well-spaced text. -/
theorem gapAfter?_join {ws : List (List Char)} (hne : ws ≠ [])
    (h : ∀ w ∈ ws, w ≠ [] ∧ ∀ c ∈ w, c ≠ ' ') : gapAfter? true (join [' '] ws) = some false := by
  induction ws with
  | nil => exact absurd rfl hne
  | cons w ws ih =>
    obtain ⟨hw, hrest⟩ := List.forall_mem_cons.1 h
    cases ws with
    | nil => exact gapAfter?_word hw.1 hw.2 true
    | cons w' ws =>
      have hword := gapAfter?_word hw.1 hw.2 true
      rw [join, List.append_assoc, gapAfter?_append, hword]
      · exact ih (List.cons_ne_nil _ _) hrest
      · exact List.cons_ne_nil _ _

/-! ## Normal forms -/

/-- A line in normal form is empty or well spaced. -/
theorem wellSpaced_of_normalize {line : String} (h : normalize line = line) :
    line.toList = [] ∨ WellSpaced line.toList := by
  have hline : line.toList = join [' '] ((words line.toList).map lowercase) :=
    (congrArg String.toList h).symm.trans String.toList_ofList
  by_cases hwords : (words line.toList).map lowercase = []
  · rw [hwords] at hline
    exact .inl hline
  · refine .inr (wellSpaced_iff.2 (hline ▸ gapAfter?_join hwords fun w hw => ?_))
    obtain ⟨word, hword, rfl⟩ := List.mem_map.1 hw
    obtain ⟨hpart, hfull⟩ := List.mem_filter.1 hword
    refine ⟨lowercase_ne_nil (by simpa using hfull), fun c hc hspace => ?_⟩
    have hblank := isWhitespace_of_mem_lowerFrom (fun c hc => (of_mem_splitWhen hpart c hc).2) hc
    rw [hspace] at hblank
    exact absurd hblank (by decide)

/-- A well-spaced line of small letters and spaces is in normal form. -/
theorem normalize_of_wellSpaced {line : String} (h : WellSpaced line.toList)
    (hplain : ∀ c ∈ line.toList, isPlain c = true) : normalize line = line := by
  have hblank : ∀ c ∈ line.toList, isWhitespace c = true → c = ' ' := fun c hc hspace =>
    (isPlain_iff.1 (hplain c hc)).resolve_right fun hletter => by
      rw [isWhitespace_of_isLetter hletter] at hspace
      cases hspace
  obtain ⟨first, parts, hparts⟩ :=
    List.exists_cons_of_ne_nil (splitWhen_ne_nil isWhitespace line.toList)
  obtain ⟨hfirst, hothers⟩ := ne_nil_of_splitWhen (wellSpaced_iff.1 h) hblank hparts
  have hwords : words line.toList = splitWhen isWhitespace line.toList := by
    refine List.filter_eq_self.2 fun part hpart => ?_
    have hfull : ∀ part ∈ first :: parts, part ≠ [] :=
      List.forall_mem_cons.2 ⟨hfirst rfl, hothers⟩
    simpa using hfull part (hparts ▸ hpart)
  have hsmall : (words line.toList).map lowercase = words line.toList := by
    refine List.map_congr_left (g := id) (fun word hword => ?_) |>.trans (List.map_id _)
    refine lowercase_of_isLetter fun c hc => ?_
    obtain ⟨hmem, hsolid⟩ := of_mem_splitWhen (hwords ▸ hword) c hc
    rcases isPlain_iff.1 (hplain c hmem) with rfl | hletter
    · exact absurd hsolid (by decide)
    · exact hletter
  rw [normalize, hsmall, hwords, join_splitWhen hblank, String.ofList_toList]

end Text

end Adventure
