import Mathlib.Data.List.Infix
import Mathlib.Data.List.Nodup
import Mathlib.Data.List.TakeWhile
import Mathlib.Tactic.LinearCombination
import Mathlib.Tactic.Zify
import Adventure.Text.Placeholder

/-!
# Filling in placeholders at once

Placeholders are filled in one after the other, and each pass goes over what the passes before have
inserted. What one would expect is a simultaneous substitution (`Text.substitute`): the placeholders
that the text itself has give way to their values (`Text.substituteChars_occurrence`), and nothing
else changes (`Text.substituteChars_of_not_infix`). Filling agrees with it after each pass exactly
if no pass comes upon a placeholder that was not there to begin with (`Text.undisturbed_iff`), as it
may where a value contains one or completes one. Where neither values nor nested brackets in the
text make this possible, filling is a simultaneous substitution (`Text.fillPlaceholders_of_flat`).

That a pass takes away more than the substitution can only be made up for by a value that is its own
placeholder. To see this, the text is written with marks where placeholders of the pass were in the
beginning (`Text.Spells`): the pass also finds those that are spelled out by now.
-/

namespace Adventure.Text

variable {β γ : Type}

/-! ## Placeholders -/

/-- A phrase in angle brackets. -/
def IsPlaceholder (phrase : List Char) : Prop :=
  ∃ body, phrase = '<' :: (body ++ ['>']) ∧ '<' ∉ body ∧ '>' ∉ body

theorem takeWhile_append_cons {c : Char} {cs : List Char} (h : c ∉ cs) (rest : List Char) :
    (cs ++ c :: rest).takeWhile (· ≠ c) = cs := by
  rw [List.takeWhile_append_of_pos, List.takeWhile_cons_of_neg (by simp), List.append_nil]
  intro x hx
  simpa using fun heq : x = c => h (heq ▸ hx)

theorem closed_prefix_iff {c : Char} {cs cs' : List Char} (h : c ∉ cs) (h' : c ∉ cs')
    (rest : List Char) : cs ++ [c] <+: cs' ++ c :: rest ↔ cs = cs' := by
  constructor
  · rintro ⟨rest', heq⟩
    rw [List.append_assoc, List.singleton_append] at heq
    rw [← takeWhile_append_cons h rest', heq, takeWhile_append_cons h']
  · rintro rfl
    exact ⟨rest, by simp⟩

namespace IsPlaceholder

variable {p q : List Char}

theorem ne_nil (hp : IsPlaceholder p) : p ≠ [] := by
  obtain ⟨body, rfl, -⟩ := hp
  simp

/-- Only the first character is an opening bracket. -/
theorem exists_cons (hp : IsPlaceholder p) : ∃ tail, p = '<' :: tail ∧ '<' ∉ tail := by
  obtain ⟨body, rfl, hopen, -⟩ := hp
  exact ⟨body ++ ['>'], rfl, by simp [hopen]⟩

/-- At most one placeholder begins at a given place. -/
theorem unique (hp : IsPlaceholder p) (hq : IsPlaceholder q) {cs : List Char}
    (hpcs : p <+: cs) (hqcs : q <+: cs) : p = q := by
  obtain ⟨body, rfl, -, hclose⟩ := hp
  obtain ⟨body', rfl, -, hclose'⟩ := hq
  obtain ⟨rest, rfl⟩ := hqcs
  simp only [List.cons_append, List.append_assoc, List.nil_append, List.cons_prefix_cons,
    true_and] at hpcs
  rw [(closed_prefix_iff hclose hclose' rest).1 hpcs]

end IsPlaceholder

/-- Placeholders with values, each placeholder once. -/
structure Proper (fillings : List (List Char × List β)) : Prop where
  bracketed : ∀ f ∈ fillings, IsPlaceholder f.1
  distinct : (fillings.map (·.1)).Nodup

/-! ## Simultaneous substitution -/

/-- Fills in placeholders where they stand, after skipping the `skip` characters still covered by
the placeholder found last. `keep` is what becomes of other characters. -/
def substituteFrom (keep : Char → β) (fillings : List (List Char × List β)) :
    Nat → List Char → List β
  | _, [] => []
  | skip + 1, _ :: rest => substituteFrom keep fillings skip rest
  | 0, c :: rest =>
    match fillings.find? (·.1.isPrefixOf (c :: rest)) with
    | some (phrase, value) => value ++ substituteFrom keep fillings (phrase.length - 1) rest
    | none => keep c :: substituteFrom keep fillings 0 rest

def substituteChars (keep : Char → β) (fillings : List (List Char × List β)) (cs : List Char) :
    List β :=
  substituteFrom keep fillings 0 cs

/-- The text with the placeholders that it has filled in at once. -/
def substitute (fillings : List (String × String)) (text : String) : String :=
  String.ofList
    (substituteChars id (fillings.map fun f => (f.1.toList, f.2.toList)) text.toList)

section

variable {keep : Char → β} {fillings : List (List Char × List β)}

theorem substituteFrom_skip (skipped rest : List Char) :
    substituteFrom keep fillings skipped.length (skipped ++ rest)
      = substituteChars keep fillings rest := by
  induction skipped with
  | nil => rfl
  | cons c skipped ih => exact ih

theorem substituteChars_cons {c : Char} {rest : List Char}
    (h : ∀ f ∈ fillings, ¬ f.1 <+: c :: rest) :
    substituteChars keep fillings (c :: rest) = keep c :: substituteChars keep fillings rest := by
  have hnone : fillings.find? (·.1.isPrefixOf (c :: rest)) = none :=
    List.find?_eq_none.2 fun f hf hbegins => h f hf (List.isPrefixOf_iff_prefix.1 hbegins)
  rw [substituteChars, substituteFrom, hnone]
  rfl

theorem substituteChars_append (hproper : Proper fillings) {p : List Char} {value : List β}
    (hf : (p, value) ∈ fillings) (rest : List Char) :
    substituteChars keep fillings (p ++ rest) = value ++ substituteChars keep fillings rest := by
  have hp := hproper.bracketed _ hf
  have hbegins : p.isPrefixOf (p ++ rest) = true :=
    List.isPrefixOf_iff_prefix.2 (List.prefix_append p rest)
  have hfound : fillings.find? (·.1.isPrefixOf (p ++ rest)) = some (p, value) := by
    cases hfind : fillings.find? (·.1.isPrefixOf (p ++ rest)) with
    | none => exact absurd hbegins (List.find?_eq_none.1 hfind _ hf)
    | some f =>
      have hmem := List.mem_of_find?_eq_some hfind
      have hfirst : f.1.isPrefixOf (p ++ rest) = true := by simpa using List.find?_some hfind
      have hsame : f.1 = p := (hproper.bracketed f hmem).unique hp
        (List.isPrefixOf_iff_prefix.1 hfirst) (List.prefix_append p rest)
      rw [List.inj_on_of_nodup_map hproper.distinct hmem hf hsame]
  obtain ⟨tail, rfl, -⟩ := hp.exists_cons
  rw [List.cons_append] at hfound ⊢
  rw [substituteChars, substituteFrom, hfound]
  exact congrArg (value ++ ·) (substituteFrom_skip tail rest)

/-- Characters without an opening bracket stay. -/
theorem substituteChars_append_of_notMem (hproper : Proper fillings) {cs : List Char}
    (h : '<' ∉ cs) (rest : List Char) :
    substituteChars keep fillings (cs ++ rest)
      = cs.map keep ++ substituteChars keep fillings rest := by
  induction cs with
  | nil => rfl
  | cons c cs ih =>
    obtain ⟨hc, hcs⟩ := List.ne_and_not_mem_of_not_mem_cons h
    rw [List.cons_append, substituteChars_cons, ih hcs, List.map_cons, List.cons_append]
    intro f hf hbegins
    obtain ⟨tail, htail, -⟩ := (hproper.bracketed f hf).exists_cons
    rw [htail, List.cons_prefix_cons] at hbegins
    exact hc hbegins.1

/-- A text is made up of placeholders and of characters at which none begins. -/
theorem cut_induction (hproper : Proper fillings) {motive : List Char → Prop} (nil : motive [])
    (char : ∀ c rest, (∀ f ∈ fillings, ¬ f.1 <+: c :: rest) → motive rest → motive (c :: rest))
    (placeholder : ∀ f ∈ fillings, ∀ rest, motive rest → motive (f.1 ++ rest)) :
    ∀ cs, motive cs
  | [] => nil
  | c :: rest => by
    by_cases hfound : ∃ f ∈ fillings, f.1 <+: c :: rest
    · obtain ⟨f, hf, rest', hrest⟩ := hfound
      have hlength : rest'.length ≤ rest.length := by
        have hpos := List.length_pos_of_ne_nil (hproper.bracketed f hf).ne_nil
        have htotal := congrArg List.length hrest
        rw [List.length_append, List.length_cons] at htotal
        omega
      rw [← hrest]
      exact placeholder f hf rest' (cut_induction hproper nil char placeholder rest')
    · refine char c rest (fun f hf hbegins => hfound ⟨f, hf, hbegins⟩) ?_
      exact cut_induction hproper nil char placeholder rest
termination_by cs => cs.length

/-- Wherever a placeholder stands, it gives way to its value, and the text before it and the text
after it are filled in on their own. -/
theorem substituteChars_occurrence (hproper : Proper fillings) {p : List Char} {value : List β}
    (hf : (p, value) ∈ fillings) (before after : List Char) :
    substituteChars keep fillings (before ++ (p ++ after))
      = substituteChars keep fillings before ++ (value ++ substituteChars keep fillings after) := by
  induction before using cut_induction hproper with
  | nil => exact substituteChars_append hproper hf after
  | char c rest hc ih =>
    have hnone : ∀ g ∈ fillings, ¬ g.1 <+: c :: (rest ++ (p ++ after)) := by
      intro g hg hbegins
      obtain ⟨tail, htail, hopen⟩ := (hproper.bracketed g hg).exists_cons
      obtain ⟨tail', rfl, -⟩ := (hproper.bracketed _ hf).exists_cons
      -- a placeholder does not reach as far as the next one
      rw [← List.cons_append] at hbegins
      rcases List.prefix_or_prefix_of_prefix hbegins (List.prefix_append ..) with h | ⟨z, hz⟩
      · exact hc g hg h
      · rw [htail, List.cons_append, List.cons.injEq] at hz
        cases z with
        | nil => exact hc g hg ⟨[], by rw [htail, ← hz.2, hz.1]; simp⟩
        | cons x z =>
          rw [htail, ← hz.2, hz.1, ← List.cons_append, List.prefix_append_right_inj,
            List.cons_append, List.cons_prefix_cons] at hbegins
          rw [← hz.2, hbegins.1] at hopen
          simp at hopen
    rw [List.cons_append, substituteChars_cons hnone, substituteChars_cons hc, ih, List.cons_append]
  | placeholder g hg rest ih =>
    rw [List.append_assoc, substituteChars_append hproper hg, ih, substituteChars_append hproper hg,
      List.append_assoc]

/-- A text without placeholders stays. -/
theorem substituteChars_of_not_infix (hproper : Proper fillings) {cs : List Char}
    (h : ∀ f ∈ fillings, ¬ f.1 <:+: cs) :
    substituteChars keep fillings cs = cs.map keep := by
  induction cs using cut_induction hproper with
  | nil => rfl
  | char c rest hc ih =>
    have hrest : ∀ f ∈ fillings, ¬ f.1 <:+: rest := fun f hf hin =>
      h f hf (hin.trans (List.suffix_cons c rest).isInfix)
    rw [substituteChars_cons hc, ih hrest, List.map_cons]
  | placeholder f hf rest => exact absurd (List.prefix_append f.1 rest).isInfix (h f hf)

/-- What is made of the result of a substitution can be made of the values. -/
theorem flatMap_substituteChars (keep' : Char → γ) {g : β → List γ}
    (hkeep : ∀ c, g (keep c) = [keep' c]) (cs : List Char) :
    (substituteChars keep fillings cs).flatMap g
      = substituteChars keep' (fillings.map fun f => (f.1, f.2.flatMap g)) cs := by
  have hfrom : ∀ cs skip, (substituteFrom keep fillings skip cs).flatMap g
      = substituteFrom keep' (fillings.map fun f => (f.1, f.2.flatMap g)) skip cs := by
    intro cs
    induction cs with
    | nil => intro skip; cases skip <;> rfl
    | cons c rest ih =>
      intro skip
      cases skip with
      | succ skip => exact ih skip
      | zero =>
        simp only [substituteFrom, List.find?_map, Function.comp_def]
        cases fillings.find? (·.1.isPrefixOf (c :: rest)) with
        | none => simp [hkeep, ih]
        | some f => simp [ih]
  exact hfrom cs 0

end

/-! ## Occurrences -/

/-- How often a phrase occurs among characters. -/
def occurrencesIn (phrase cs : List Char) : Nat := cs.tails.countP phrase.isPrefixOf

/-- How often a phrase occurs in a text. -/
def occurrences (phrase text : String) : Nat := occurrencesIn phrase.toList text.toList

section

variable {p q : List Char}

theorem occurrencesIn_cons (q : List Char) (c : Char) (rest : List Char) :
    occurrencesIn q (c :: rest) = occurrencesIn q rest + (q.isPrefixOf (c :: rest)).toNat := by
  rw [occurrencesIn, List.tails_cons, List.countP_cons]
  cases q.isPrefixOf (c :: rest) <;> rfl

theorem occurrencesIn_nil (hq : IsPlaceholder q) : occurrencesIn q [] = 0 := by
  obtain ⟨tail, rfl, -⟩ := hq.exists_cons
  rfl

theorem occurrencesIn_cons_of_not {c : Char} {rest : List Char} (h : ¬ q <+: c :: rest) :
    occurrencesIn q (c :: rest) = occurrencesIn q rest := by
  have hbegins : q.isPrefixOf (c :: rest) = false := by
    rwa [← Bool.not_eq_true, List.isPrefixOf_iff_prefix]
  rw [occurrencesIn_cons, hbegins]
  rfl

theorem occurrencesIn_append_of_notMem (hq : IsPlaceholder q) {cs : List Char} (h : '<' ∉ cs)
    (rest : List Char) : occurrencesIn q (cs ++ rest) = occurrencesIn q rest := by
  induction cs with
  | nil => rfl
  | cons c cs ih =>
    obtain ⟨hc, hcs⟩ := List.ne_and_not_mem_of_not_mem_cons h
    obtain ⟨tail, rfl, -⟩ := hq.exists_cons
    rw [List.cons_append, occurrencesIn_cons_of_not, ih hcs]
    exact fun hbegins => hc (List.cons_prefix_cons.1 hbegins).1

/-- A placeholder in front of a text is one more occurrence of itself and of nothing else. -/
theorem occurrencesIn_append (hp : IsPlaceholder p) (hq : IsPlaceholder q) (rest : List Char) :
    occurrencesIn q (p ++ rest) = occurrencesIn q rest + (decide (p = q)).toNat := by
  have hsame : q.isPrefixOf (p ++ rest) = decide (p = q) := by
    rw [Bool.eq_iff_iff, List.isPrefixOf_iff_prefix, decide_eq_true_iff]
    constructor
    · exact fun hbegins => hp.unique hq (List.prefix_append p rest) hbegins
    · rintro rfl
      exact List.prefix_append p rest
  obtain ⟨tail, rfl, htail⟩ := hp.exists_cons
  rw [List.cons_append] at hsame ⊢
  rw [occurrencesIn_cons, hsame, occurrencesIn_append_of_notMem hq htail]

end

/-! ## Marked texts -/

/-- A text with marks where a placeholder is to be written, with `value` written there. -/
def fill (value : List Char) (m : List (Option Char)) : List Char :=
  m.flatMap fun x => x.elim value ([·])

/-- The first text has marks where the second one has, except for some where it has the placeholder
itself. -/
inductive Spells (q : List Char) : List (Option Char) → List (Option Char) → Prop
  | nil : Spells q [] []
  | char {m m' : List (Option Char)} (c : Char) (rest : Spells q m m') :
      Spells q (some c :: m) (some c :: m')
  | mark {m m' : List (Option Char)} (rest : Spells q m m') : Spells q (none :: m) (none :: m')
  | spelled {m m' : List (Option Char)} (rest : Spells q m m') :
      Spells q (q.map some ++ m) (none :: m')

theorem fill_map_some (value cs : List Char) (m : List (Option Char)) :
    fill value (cs.map some ++ m) = cs ++ fill value m := by
  simp [fill, List.flatMap_map]

theorem count_none_map_some (cs : List Char) : (cs.map some).count none = 0 :=
  List.count_eq_zero.2 (by simp)

theorem length_fill (value : List Char) (m : List (Option Char)) :
    (fill value m).length + m.count none = m.length + m.count none * value.length := by
  induction m with
  | nil => simp [fill]
  | cons x m ih =>
    have hcons : fill value (x :: m) = x.elim value ([·]) ++ fill value m := rfl
    rw [hcons, List.length_append]
    cases x with
    | none =>
      simp only [List.count_cons_self, List.length_cons, Option.elim_none, Nat.succ_mul]
      omega
    | some c =>
      simp only [List.count_cons_of_ne (by simp : some c ≠ none), List.length_cons,
        Option.elim_some, List.length_nil]
      omega

namespace Spells

variable {q : List Char} {m m' : List (Option Char)}

theorem count_le (h : Spells q m m') : m.count none ≤ m'.count none := by
  induction h with
  | nil => rfl
  | char c _ ih => simpa using ih
  | mark _ ih => simpa using ih
  | spelled _ ih =>
    rw [List.count_append, count_none_map_some, List.count_cons_self]
    omega

theorem eq_of_count (h : Spells q m m') (hcount : m.count none = m'.count none) : m = m' := by
  induction h with
  | nil => rfl
  | char c _ ih => rw [ih (by simpa using hcount)]
  | mark _ ih => rw [ih (by simpa using hcount)]
  | spelled rest =>
    have := rest.count_le
    rw [List.count_append, count_none_map_some, List.count_cons_self] at hcount
    omega

theorem fill_self (h : Spells q m m') : fill q m = fill q m' := by
  induction h with
  | nil => rfl
  | char c _ ih => exact congrArg (c :: ·) ih
  | mark _ ih => exact congrArg (q ++ ·) ih
  | spelled _ ih =>
    rw [fill_map_some]
    exact congrArg (q ++ ·) ih

theorem eq_of_fill_eq {value : List Char} (h : Spells q m m') (hlength : value.length = q.length)
    (hfill : fill value m = fill value m') : value = q ∨ m = m' := by
  induction h with
  | nil => exact .inr rfl
  | char c _ ih => exact (ih (List.cons.inj hfill).2).imp_right (congrArg (some c :: ·))
  | mark _ ih => exact (ih (List.append_cancel_left hfill)).imp_right (congrArg (none :: ·))
  | spelled _ ih =>
    rw [fill_map_some] at hfill
    exact .inl (List.append_inj_left hfill hlength.symm).symm

/-- Where placeholders are spelled out, it shows when a value is written for the marks only, unless
the value is the placeholder. -/
theorem fill_eq_iff {value : List Char} (h : Spells q m m') :
    fill value m = fill value m' ↔ value = q ∨ m.count none = m'.count none := by
  constructor
  · intro hfill
    by_cases hlength : value.length = q.length
    · exact (h.eq_of_fill_eq hlength hfill).imp_right (congrArg (List.count none))
    · -- The lengths before and after tell how many marks there are.
      right
      have hvalue := length_fill value m
      have hvalue' := length_fill value m'
      have hself := length_fill q m
      have hself' := length_fill q m'
      rw [hfill] at hvalue
      rw [h.fill_self] at hself
      have hdiff : ((m.count none : ℤ) - m'.count none) * ((value.length : ℤ) - q.length) = 0 := by
        zify at hvalue hvalue' hself hself'
        linear_combination hvalue' - hvalue - hself' + hself
      rcases mul_eq_zero.1 hdiff with hcount | hsame
      · omega
      · omega
  · rintro (rfl | hcount)
    · exact h.fill_self
    · rw [h.eq_of_count hcount]

end Spells

section

variable {F : List (List Char × List Char)} {q value : List Char}

/-- What a text without marks begins with is written there. -/
theorem exists_of_prefix_fill {tail : List Char} (htail : '<' ∉ tail) (hq : IsPlaceholder q)
    {m : List (Option Char)} (h : tail <+: fill q m) : ∃ m', m = tail.map some ++ m' := by
  induction tail generalizing m with
  | nil => exact ⟨m, rfl⟩
  | cons t tail ih =>
    obtain ⟨ht, htail⟩ := List.ne_and_not_mem_of_not_mem_cons htail
    cases m with
    | nil => exact absurd h (by simp [fill])
    | cons x m =>
      cases x with
      | none =>
        obtain ⟨rest, rfl, -⟩ := hq.exists_cons
        exact absurd (List.cons_prefix_cons.1 h).1.symm ht
      | some c =>
        obtain ⟨rfl, hbegins⟩ := List.cons_prefix_cons.1 h
        obtain ⟨m', rfl⟩ := ih htail hbegins
        exact ⟨m', rfl⟩

/-- Where a placeholder is written without a mark, it is spelled out. -/
theorem exists_spelled (hq : IsPlaceholder q) {c : Char} {m : List (Option Char)}
    (h : q <+: c :: fill q m) : ∃ m', some c :: m = q.map some ++ m' := by
  obtain ⟨tail, rfl, htail⟩ := hq.exists_cons
  obtain ⟨rfl, hrest⟩ := List.cons_prefix_cons.1 h
  obtain ⟨m', rfl⟩ := exists_of_prefix_fill htail hq hrest
  exact ⟨m', rfl⟩

theorem proper_singleton {value : List β} (hq : IsPlaceholder q) : Proper [(q, value)] :=
  ⟨by simpa using hq, by simp⟩

/-- A text with its placeholders filled in and marks for one more. -/
def markedAfter (F : List (List Char × List Char)) (q cs : List Char) : List (Option Char) :=
  substituteChars some (F.map (fun f => (f.1, f.2.map some)) ++ [(q, [none])]) cs

/-- Marking the occurrences of a placeholder brings back the marks it was written for, and others
where it is spelled out. -/
theorem spells_markedAfter (hq : IsPlaceholder q) :
    ∀ m : List (Option Char), Spells q m (markedAfter [] q (fill q m))
  | [] => .nil
  | none :: m => by
    have hcons : markedAfter [] q (fill q (none :: m)) = none :: markedAfter [] q (fill q m) :=
      substituteChars_append (proper_singleton hq) (List.mem_singleton_self _) _
    exact hcons ▸ .mark (spells_markedAfter hq m)
  | some c :: m => by
    by_cases hbegins : q <+: c :: fill q m
    · obtain ⟨m', heq⟩ := exists_spelled hq hbegins
      have hlength : m'.length ≤ m.length := by
        have hpos := List.length_pos_of_ne_nil hq.ne_nil
        have htotal := congrArg List.length heq
        rw [List.length_append, List.length_map, List.length_cons] at htotal
        omega
      have hcons : markedAfter [] q (q ++ fill q m') = none :: markedAfter [] q (fill q m') :=
        substituteChars_append (proper_singleton hq) (List.mem_singleton_self _) _
      rw [heq, fill_map_some, hcons]
      exact .spelled (spells_markedAfter hq m')
    · have hcons : markedAfter [] q (c :: fill q m) = some c :: markedAfter [] q (fill q m) :=
        substituteChars_cons (by simpa using hbegins)
      change Spells q (some c :: m) (markedAfter [] q (c :: fill q m))
      exact hcons ▸ .char c (spells_markedAfter hq m)
termination_by m => m.length

/-- One pass is the substitution for one placeholder. -/
theorem replaceChars_eq_substituteChars (q value cs : List Char) :
    replaceChars q value cs = substituteChars id [(q, value)] cs := by
  have hfrom : ∀ cs skip, replaceFrom q value skip cs = substituteFrom id [(q, value)] skip cs := by
    intro cs
    induction cs with
    | nil => intro skip; cases skip <;> rfl
    | cons c rest ih =>
      intro skip
      cases skip with
      | succ skip => exact ih skip
      | zero =>
        simp only [replaceFrom, substituteFrom, List.find?_cons]
        cases q.isPrefixOf (c :: rest) <;> simp [ih]
  exact hfrom cs 0

theorem fill_markedAfter (value : List Char) (cs : List Char) :
    fill value (markedAfter F q cs) = substituteChars id (F ++ [(q, value)]) cs := by
  rw [fill, markedAfter, flatMap_substituteChars id fun _ => rfl]
  simp [List.flatMap_map, Function.comp_def]

/-- Whether fillings are proper does not depend on the values. -/
theorem Proper.map_append (h : Proper (F ++ [(q, value)]))
    {g : List Char × List Char → List Char × List β} (hg : ∀ f, (g f).1 = f.1) (value' : List β) :
    Proper (F.map g ++ [(q, value')]) := by
  have hkeys : (F.map g ++ [(q, value')]).map (·.1) = (F ++ [(q, value)]).map (·.1) := by
    simp [Function.comp_def, hg]
  refine ⟨fun f hf => ?_, hkeys ▸ h.distinct⟩
  have hmem : f.1 ∈ (F ++ [(q, value)]).map (·.1) := hkeys ▸ List.mem_map_of_mem hf
  obtain ⟨f', hf', heq⟩ := List.mem_map.1 hmem
  exact heq ▸ h.bracketed f' hf'

theorem Proper.of_append {value : List β} {F : List (List Char × List β)}
    (h : Proper (F ++ [(q, value)])) :
    Proper F ∧ IsPlaceholder q ∧ ∀ f ∈ F, f.1 ≠ q := by
  have hdistinct := h.distinct
  rw [List.map_append, List.nodup_append] at hdistinct
  refine ⟨⟨fun f hf => h.bracketed f (List.mem_append_left _ hf), hdistinct.1⟩,
    h.bracketed (q, value) (by simp), fun f hf => ?_⟩
  exact hdistinct.2.2 f.1 (List.mem_map_of_mem hf) q (by simp)

/-- A placeholder that is not filled in stays. -/
theorem substituteChars_other {keep : Char → β} {F : List (List Char × List β)} (hF : Proper F)
    (hq : IsPlaceholder q) (hne : ∀ f ∈ F, f.1 ≠ q) (rest : List Char) :
    substituteChars keep F (q ++ rest) = q.map keep ++ substituteChars keep F rest := by
  have hnone : ∀ f ∈ F, ¬ f.1 <+: q ++ rest := fun f hf hbegins =>
    hne f hf ((hF.bracketed f hf).unique hq hbegins (List.prefix_append q rest))
  obtain ⟨tail, rfl, htail⟩ := hq.exists_cons
  rw [List.cons_append] at hnone ⊢
  rw [substituteChars_cons hnone, substituteChars_append_of_notMem hF htail]
  rfl

/-- Filling in a placeholder with itself leaves the text as it is. -/
theorem substituteChars_self (h : Proper (F ++ [(q, q)])) (cs : List Char) :
    substituteChars id (F ++ [(q, q)]) cs = substituteChars id F cs := by
  obtain ⟨hF, hq, hne⟩ := h.of_append
  induction cs using cut_induction h with
  | nil => rfl
  | char c rest hc ih =>
    rw [substituteChars_cons hc, ih, substituteChars_cons]
    exact fun f hf => hc f (List.mem_append_left _ hf)
  | placeholder f hf rest ih =>
    rw [substituteChars_append h hf, ih]
    rcases List.mem_append.1 hf with hf | hf
    · rw [substituteChars_append hF hf]
    · obtain rfl := List.mem_singleton.1 hf
      rw [substituteChars_other hF hq hne, List.map_id]

/-- The marks are the occurrences in the text as it was in the beginning. -/
theorem count_markedAfter (h : Proper (F ++ [(q, value)])) (cs : List Char) :
    (markedAfter F q cs).count none = occurrencesIn q cs := by
  obtain ⟨-, hq, hne⟩ := h.of_append
  have hmarks : Proper (F.map (fun f => (f.1, f.2.map some)) ++ [(q, [none])]) :=
    h.map_append (g := fun f => (f.1, f.2.map some)) (fun _ => rfl) _
  induction cs using cut_induction hmarks with
  | nil => rw [occurrencesIn_nil hq]; rfl
  | char c rest hc ih =>
    rw [markedAfter, substituteChars_cons hc, List.count_cons_of_ne (by simp),
      occurrencesIn_cons_of_not (hc (q, [none]) (by simp))]
    exact ih
  | placeholder f hf rest ih =>
    rw [markedAfter, substituteChars_append hmarks hf, List.count_append,
      occurrencesIn_append (hmarks.bracketed f hf) hq, ← ih, Nat.add_comm]
    refine congrArg ((markedAfter F q rest).count none + ·) ?_
    rcases List.mem_append.1 hf with hf | hf
    · obtain ⟨f', hf', rfl⟩ := List.mem_map.1 hf
      rw [count_none_map_some, decide_eq_false (hne f' hf')]
      rfl
    · obtain rfl := List.mem_singleton.1 hf
      simp

/-- One more pass does what one more placeholder does to the substitution, unless it finds more
occurrences than the text had in the beginning. -/
theorem replaceChars_substituteChars_iff (h : Proper (F ++ [(q, value)])) (cs : List Char) :
    replaceChars q value (substituteChars id F cs) = substituteChars id (F ++ [(q, value)]) cs ↔
      value = q ∨ occurrencesIn q (substituteChars id F cs) = occurrencesIn q cs := by
  obtain ⟨-, hq, -⟩ := h.of_append
  have hproper : Proper (F ++ [(q, q)]) := by
    simpa using h.map_append (g := id) (fun _ => rfl) q
  have hself : fill q (markedAfter F q cs) = substituteChars id F cs := by
    rw [fill_markedAfter, substituteChars_self hproper]
  have hspells : Spells q (markedAfter F q cs) (markedAfter [] q (substituteChars id F cs)) :=
    hself ▸ spells_markedAfter hq (markedAfter F q cs)
  have hone : Proper ([] ++ [(q, value)]) := proper_singleton hq
  have hpass : replaceChars q value (substituteChars id F cs)
      = fill value (markedAfter [] q (substituteChars id F cs)) := by
    rw [replaceChars_eq_substituteChars, fill_markedAfter, List.nil_append]
  rw [hpass, ← fill_markedAfter, eq_comm, hspells.fill_eq_iff, count_markedAfter h,
    count_markedAfter hone, eq_comm (a := occurrencesIn q cs)]

end

/-! ## Passes -/

/-- Fillings character by character. -/
def spelledOut (fillings : List (String × String)) : List (List Char × List Char) :=
  fillings.map fun f => (f.1.toList, f.2.toList)

theorem toList_substitute (fillings : List (String × String)) (text : String) :
    (substitute fillings text).toList = substituteChars id (spelledOut fillings) text.toList := by
  simp [substitute, spelledOut]

theorem substitute_nil (text : String) : substitute [] text = text := by
  have hproper : Proper ([] : List (List Char × List Char)) := ⟨nofun, List.nodup_nil⟩
  rw [← String.toList_inj, toList_substitute, spelledOut, List.map_nil,
    substituteChars_of_not_infix hproper nofun, List.map_id]

section

variable {fillings passes : List (String × String)} {q value : String}

theorem Proper.initial (h : Proper (spelledOut fillings)) (hpasses : passes <+: fillings) :
    Proper (spelledOut passes) := by
  have hsub : (spelledOut passes).Sublist (spelledOut fillings) := hpasses.sublist.map _
  exact ⟨fun f hf => h.bracketed f (hsub.subset hf), h.distinct.sublist (hsub.map _)⟩

theorem fillAll_append_singleton (text : String) :
    fillAll (passes ++ [(q, value)]) text = replace q value (fillAll passes text) := by
  simp [fillAll]

/-- A pass keeps agreeing with the substitution exactly if it comes upon no placeholders but those
of the text. -/
theorem fillAll_step_iff (h : Proper (spelledOut fillings))
    (hpasses : passes ++ [(q, value)] <+: fillings) {text : String}
    (heq : fillAll passes text = substitute passes text) :
    fillAll (passes ++ [(q, value)]) text = substitute (passes ++ [(q, value)]) text ↔
      value = q ∨ occurrences q (fillAll passes text) = occurrences q text := by
  have hproper : Proper (spelledOut passes ++ [(q.toList, value.toList)]) := by
    simpa [spelledOut] using h.initial hpasses
  have hiff := replaceChars_substituteChars_iff hproper text.toList
  rw [fillAll_append_singleton, heq, ← String.toList_inj, toList_substitute, occurrences,
    occurrences, toList_substitute, replace, String.toList_ofList, toList_substitute]
  rw [String.toList_inj] at hiff
  simpa [spelledOut] using hiff

/-- Passes that keep agreeing with the substitution agree with it in the end. -/
theorem fillAll_eq_substitute (hproper : Proper (spelledOut fillings)) {text : String}
    (h : ∀ passes f, passes ++ [f] <+: fillings → fillAll passes text = substitute passes text →
      f.2 = f.1 ∨ occurrences f.1 (fillAll passes text) = occurrences f.1 text)
    (passes : List (String × String)) (hpasses : passes <+: fillings) :
    fillAll passes text = substitute passes text := by
  induction passes using List.reverseRecOn with
  | nil => exact (substitute_nil text).symm
  | append_singleton passes f ih =>
    have heq := ih ((List.prefix_append passes [f]).trans hpasses)
    exact (fillAll_step_iff hproper hpasses heq).2 (h passes f hpasses heq)

end

/-! ## Subjects -/

/-- The placeholders of the subjects that there are, in the order they are filled, with their
values. -/
def fillings (first second : Option Subject) : List (String × String) :=
  (second.map (·.fillings "2")).getD [] ++ (first.map (·.fillings "")).getD []

theorem isPlaceholder_iff {phrase : List Char} : IsPlaceholder phrase ↔
    phrase = '<' :: (phrase.tail.dropLast ++ ['>']) ∧
      '<' ∉ phrase.tail.dropLast ∧ '>' ∉ phrase.tail.dropLast := by
  constructor
  · rintro ⟨body, rfl, hopen, hclose⟩
    simpa using ⟨hopen, hclose⟩
  · exact fun h => ⟨_, h⟩

instance (phrase : List Char) : Decidable (IsPlaceholder phrase) :=
  decidable_of_iff _ isPlaceholder_iff.symm

/-- Whether there is a subject, with empty values if there is. -/
def blank (subject : Option Subject) : Option Subject := subject.map fun _ => ⟨"", ""⟩

theorem keys_fillings (first second : Option Subject) :
    (fillings first second).map (·.1) = (fillings (blank first) (blank second)).map (·.1) := by
  cases first <;> cases second <;> rfl

theorem proper_fillings (first second : Option Subject) :
    Proper (spelledOut (fillings first second)) := by
  have hkeys : (spelledOut (fillings first second)).map (·.1)
      = ((fillings (blank first) (blank second)).map (·.1)).map String.toList := by
    rw [← keys_fillings]
    simp [spelledOut]
  suffices h : (∀ p ∈ (spelledOut (fillings first second)).map (·.1), IsPlaceholder p) ∧
      ((spelledOut (fillings first second)).map (·.1)).Nodup from
    ⟨fun f hf => h.1 f.1 (List.mem_map_of_mem hf), h.2⟩
  rw [hkeys]
  cases first <;> cases second <;> simp only [blank, Option.map_none, Option.map_some] <;>
    decide +kernel

/-- No pass comes upon placeholders but those of the text. A value that is its own placeholder does
not matter. -/
def Undisturbed (first second : Option Subject) (text : String) : Prop :=
  ∀ passes q value, passes ++ [(q, value)] <+: fillings first second →
    value = q ∨ occurrences q (fillAll passes text) = occurrences q text

theorem undisturbed_iff {first second : Option Subject} {text : String} :
    Undisturbed first second text ↔ ∀ passes, passes <+: fillings first second →
      fillAll passes text = substitute passes text := by
  have hproper := proper_fillings first second
  constructor
  · exact fun h => fillAll_eq_substitute hproper fun passes f hpasses _ => h passes f.1 f.2 hpasses
  · intro h passes q value hpasses
    have heq := h passes ((List.prefix_append passes _).trans hpasses)
    exact (fillAll_step_iff hproper hpasses heq).1 (h _ hpasses)

/-- Placeholders are filled in pass by pass. The passes agree with simultaneous substitution one
after the other exactly if none of them comes upon a placeholder that the text did not have; then so
does the whole. -/
theorem fillPlaceholders_exact (text : String) (first second : Option Subject) :
    (Undisturbed first second text ↔ ∀ passes, passes <+: fillings first second →
      fillAll passes text = substitute passes text) ∧
    (Undisturbed first second text →
      fillPlaceholders text first second = substitute (fillings first second) text) :=
  ⟨undisturbed_iff, fun h => undisturbed_iff.1 h _ List.prefix_rfl⟩

/-- The name of the sign is inserted and then searched for the placeholders of the key. -/
theorem fillPlaceholders_disturbed :
    let text := "Use <name> with <name2>."
    let first : Subject := ⟨"key", "iron key"⟩
    let second : Subject := ⟨"sign", "sign <name>"⟩
    fillPlaceholders text (some first) (some second)
      = "Use iron key with sign iron key." ∧
    substitute (fillings (some first) (some second)) text = "Use iron key with sign <name>." := by
  decide +kernel

/-! ## Flat texts -/

/-- After an opening bracket the next bracket is a closing one, if there is one. -/
def Flat : List Char → Prop
  | [] => True
  | c :: rest => (c = '<' → '<' ∉ rest.takeWhile (· ≠ '>')) ∧ Flat rest

theorem Flat.of_append {rest : List Char} : ∀ {cs : List Char}, Flat (cs ++ rest) → Flat rest
  | [], h => h
  | _ :: _, h => Flat.of_append h.2

section

variable {F : List (List Char × List Char)} {q value : List Char}

/-- In a flat text what follows an opening bracket reads on to the next closing one as before. -/
theorem prefix_substituteChars_iff (hF : Proper F) (hq : IsPlaceholder q) {rest : List Char}
    (hflat : '<' ∉ rest.takeWhile (· ≠ '>')) :
    q <+: '<' :: substituteChars id F rest ↔ q <+: '<' :: rest := by
  obtain ⟨body, rfl, -, hclose⟩ := hq
  have hrest : rest = rest.takeWhile (· ≠ '>') ++ rest.dropWhile (· ≠ '>') :=
    List.takeWhile_append_dropWhile.symm
  have hbefore : '>' ∉ rest.takeWhile (· ≠ '>') := fun hmem => by
    simpa using List.mem_takeWhile_imp hmem
  have hafter := List.head?_dropWhile_not (· ≠ '>') rest
  generalize rest.takeWhile (· ≠ '>') = before at hflat hrest hbefore
  generalize rest.dropWhile (· ≠ '>') = after at hrest hafter
  rw [hrest, substituteChars_append_of_notMem hF hflat, List.map_id, List.cons_prefix_cons,
    List.cons_prefix_cons]
  refine and_congr_right fun _ => ?_
  cases after with
  | nil => rfl
  | cons c after =>
    obtain rfl : c = '>' := by simpa using hafter
    have hclosing : '<' ∉ ['>'] := by simp
    have hstays : substituteChars id F ('>' :: after) = '>' :: substituteChars id F after :=
      substituteChars_append_of_notMem hF hclosing after
    rw [hstays, closed_prefix_iff hclose hbefore, closed_prefix_iff hclose hbefore]

/-- Where the values have no opening brackets, a flat text gets no new placeholders. -/
theorem occurrencesIn_substituteChars (h : Proper (F ++ [(q, value)]))
    (hvalues : ∀ f ∈ F, '<' ∉ f.2) {cs : List Char} (hflat : Flat cs) :
    occurrencesIn q (substituteChars id F cs) = occurrencesIn q cs := by
  obtain ⟨hF, hq, hne⟩ := h.of_append
  induction cs using cut_induction hF with
  | nil => rfl
  | char c rest hc ih =>
    have hbegins : q.isPrefixOf (c :: substituteChars id F rest) = q.isPrefixOf (c :: rest) := by
      rw [Bool.eq_iff_iff, List.isPrefixOf_iff_prefix, List.isPrefixOf_iff_prefix]
      by_cases hopen : c = '<'
      · rw [hopen]
        exact prefix_substituteChars_iff hF hq (hflat.1 hopen)
      · obtain ⟨tail, rfl, -⟩ := hq.exists_cons
        simp [List.cons_prefix_cons, Ne.symm hopen]
    rw [substituteChars_cons hc, id, occurrencesIn_cons, occurrencesIn_cons, ih hflat.2, hbegins]
  | placeholder f hf rest ih =>
    rw [substituteChars_append hF hf, occurrencesIn_append_of_notMem hq (hvalues f hf),
      occurrencesIn_append (hF.bracketed f hf) hq, ih hflat.of_append, decide_eq_false (hne f hf)]
    rfl

end

/-- Where no value has an opening bracket, the placeholders of a flat text are filled in at once. -/
theorem fillPlaceholders_of_flat {text : String} {first second : Option Subject}
    (hvalues : ∀ f ∈ fillings first second, '<' ∉ f.2.toList) (hflat : Flat text.toList) :
    fillPlaceholders text first second = substitute (fillings first second) text := by
  have hproper := proper_fillings first second
  refine fillAll_eq_substitute hproper (fun passes f hpasses heq => .inr ?_) _ List.prefix_rfl
  have hnext : Proper (spelledOut passes ++ [(f.1.toList, f.2.toList)]) := by
    simpa [spelledOut] using hproper.initial hpasses
  rw [heq, occurrences, toList_substitute]
  refine occurrencesIn_substituteChars hnext (fun f' hf' => ?_) hflat
  obtain ⟨f₀, hf₀, rfl⟩ := List.mem_map.1 hf'
  exact hvalues f₀ (((List.prefix_append passes [f]).trans hpasses).subset hf₀)

end Adventure.Text
