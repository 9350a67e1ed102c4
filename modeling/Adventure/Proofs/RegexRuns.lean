import Adventure.Proofs.LongerClasses

/-!
# Runs of the reader within longer texts

A sign, a step and the reading of a group stay what they are where the text goes on with a bar or a
closing bracket. So the steps that lead to the end of a text are also the first ones of a longer
text, after which the reader stands where it stood at the end (`read?_of_run?_append`,
`exists_read?_of_amid`).
-/

namespace Adventure.Regex

variable {f : Flags} {cs rest more : List Char} (hmore : Closes more)
include hmore

/-! ## Signs and steps -/

theorem sign?_longer {names : List (List Char)} {sign : Sign}
    (h : sign? f names cs = some (sign, rest))
    (hrest : (∃ g, sign = .opening (.directive g)) ∨ Firm f rest) :
    sign? f names (cs ++ more) = some (sign, rest ++ more) := by
  unfold sign? at h ⊢
  split at h
  case h_1 | h_2 => cases h
  case h_3 => cases h; rfl
  case h_4 =>
    obtain ⟨⟨opening, after⟩, hopening, hresult⟩ := Option.map_eq_some_iff.1 h
    cases hresult
    have hrest : (∃ g, opening = .directive g) ∨ Firm f rest := by grind
    exact Option.map_eq_some_iff.2 ⟨_, opening?_longer hmore hopening hrest, rfl⟩
  case h_5 =>
    obtain ⟨⟨s, after⟩, hs, hresult⟩ := Option.map_eq_some_iff.1 h
    cases hresult
    exact Option.map_eq_some_iff.2 ⟨_, class?_longer hmore hs, rfl⟩
  case h_6 | h_7 | h_8 =>
    cases h
    simp only [List.cons_append, dropLazy_longer hmore]
  case h_9 =>
    obtain ⟨⟨least, most, after⟩, hcounts, hresult⟩ := Option.map_eq_some_iff.1 h
    cases hresult
    have hrest : Firm f rest := by grind
    exact Option.map_eq_some_iff.2 ⟨_, counts?_longer hmore hcounts hrest, rfl⟩
  case h_10 cs hnil hclose hbar hopening hclass hoptional hstar hplus hcounts =>
    obtain ⟨⟨r, after⟩, hpart, hresult⟩ := Option.map_eq_some_iff.1 h
    cases hresult
    have hrest : Firm f rest := by grind
    have hpart := part?_longer hmore hpart hrest
    obtain ⟨c, cs, rfl⟩ := List.exists_cons_of_ne_nil (fun h => hnil h)
    rw [List.cons_append] at hpart ⊢
    split
    case h_1 heq => cases heq
    case h_2 heq => cases heq; exact absurd rfl (hclose _)
    case h_3 heq => cases heq; exact absurd rfl (hbar _)
    case h_4 heq => cases heq; exact absurd rfl (hopening _)
    case h_5 heq => cases heq; exact absurd rfl (hclass _)
    case h_6 heq => cases heq; exact absurd rfl (hoptional _)
    case h_7 heq => cases heq; exact absurd rfl (hstar _)
    case h_8 heq => cases heq; exact absurd rfl (hplus _)
    case h_9 heq => cases heq; exact absurd rfl (hcounts _)
    case h_10 => exact Option.map_eq_some_iff.2 ⟨_, hpart, rfl⟩

namespace Progress

variable {p q : Progress} {fuel : Nat}

omit hmore in
/-- A group does not end with the text. -/
theorem read?_nil : p.read? fuel true [] = none := by
  cases fuel with
  | zero => rfl
  | succ n =>
    rw [read?_succ, skip_nil]
    rfl

omit hmore in
theorem ne_nil_of_read? {result : Regex × List (List Char) × List Char}
    (h : p.read? fuel true cs = some result) : cs ≠ [] := by
  rintro rfl
  cases read?_nil.symm.trans h

theorem step?_longer
    (hread : ∀ {p : Progress} {cs r names rest}, p.read? fuel true cs = some (r, names, rest) →
      p.read? fuel true (cs ++ more) = some (r, names, rest ++ more))
    (h : p.step? fuel cs = some (q, rest)) (hrest : Firm q.flags rest) :
    p.step? fuel (cs ++ more) = some (q, rest ++ more) := by
  obtain ⟨⟨sign, next⟩, hsign, htake⟩ := Option.bind_eq_some_iff.1 h
  suffices htake : ((∃ g, sign = .opening (.directive g)) ∨ Firm p.flags next) ∧
      p.take? fuel sign (next ++ more) = some (q, rest ++ more) from
    Option.bind_eq_some_iff.2 ⟨_, sign?_longer hmore hsign htake.1, htake.2⟩
  cases sign with
  | bar | part => cases htake; exact ⟨.inr hrest, rfl⟩
  | repetition least most =>
    obtain ⟨items, hitems, hq⟩ := Option.map_eq_some_iff.1 htake
    cases hq
    exact ⟨.inr hrest, Option.map_eq_some_iff.2 ⟨items, hitems, rfl⟩⟩
  | opening opening =>
    cases opening with
    | directive f => cases htake; exact ⟨.inl ⟨_, rfl⟩, rfl⟩
    | group f name =>
      obtain ⟨⟨r, names', after⟩, hinside, hq⟩ := Option.map_eq_some_iff.1 htake
      cases hq
      exact ⟨.inr (.of_ne_nil (ne_nil_of_read? hinside)),
        Option.map_eq_some_iff.2 ⟨_, hread hinside, rfl⟩⟩

theorem read?_longer {r : Regex} {names : List (List Char)}
    (h : p.read? fuel true cs = some (r, names, rest)) :
    p.read? fuel true (cs ++ more) = some (r, names, rest ++ more) := by
  induction fuel generalizing p cs r names rest with
  | zero => cases h
  | succ n ih =>
    obtain ⟨_, ⟨⟩, ⟨⟨⟩, -, -⟩ | ⟨-, next, hskip, hresult⟩ | ⟨q, next, hstep, hread⟩⟩ :=
      read?_cases h
    · cases hresult
      have hfirm : Firm p.flags (p.flags.skip cs) := .of_ne_nil (by simp [hskip])
      exact read?_close (by rw [skip_longer hfirm, hskip]; rfl)
    · have hlonger := step?_longer hmore ih hstep (.of_ne_nil (ne_nil_of_read? hread))
      rw [← skip_longer (.of_ne_nil (ne_nil_of_step? hstep))] at hlonger
      exact (read?_step hlonger).trans (ih hread)

/-! ## Runs -/

variable {last : Progress} {names names' : List (List Char)} {before : List Regex}

/-- A step at the beginning of a run, which does not reach beyond the end of its text. -/
theorem step?_of_run?_append (hstep : p.step? fuel (p.flags.skip cs) = some (q, rest))
    (hrun : run? fuel q rest = some last) (hlast : last.flags.extended = false) :
    p.step? fuel (p.flags.skip (cs ++ more)) = some (q, rest ++ more) := by
  -- a run that begins at the end of the text is there already
  have hfirm : Firm q.flags rest := by
    rintro rfl
    obtain ⟨_, rfl, ⟨-, rfl⟩ | ⟨_, _, hstep, -⟩⟩ := run?_cases hrun
    · exact hlast
    · exact absurd (skip_nil _) (ne_nil_of_step? hstep)
  rw [skip_longer (.of_ne_nil (ne_nil_of_step? hstep))]
  exact step?_longer hmore (read?_longer hmore) hstep hfirm

omit hmore in
theorem skip_of_extended_eq_false (h : p.flags.extended = false) (cs : List Char) :
    p.flags.skip cs = cs := by
  rw [Flags.skip, h]
  rfl

omit hmore in
/-- A run over the inside of a group reads the group. -/
theorem read?_of_run?_append (hrun : run? fuel p cs = some last)
    (hlast : last.flags.extended = false) (rest : List Char) :
    p.read? fuel true (cs ++ ')' :: rest) = some (last.choice, last.names, rest) := by
  have hmore : Closes (')' :: rest) := ⟨_, _, rfl, .inr rfl⟩
  induction fuel generalizing p cs with
  | zero => cases hrun
  | succ n ih =>
    obtain ⟨_, ⟨⟩, ⟨hskip, rfl⟩ | ⟨q, next, hstep, hrun⟩⟩ := run?_cases hrun
    · rw [skip_of_extended_eq_false hlast] at hskip
      exact read?_close (by rw [hskip, skip_of_extended_eq_false hlast]; rfl)
    · exact (read?_step (step?_of_run?_append hmore hstep hrun hlast)).trans (ih hrun)

/-- After the steps of a run the reader stands where the run ended, also amid other readings. -/
theorem exists_read?_of_amid {result : Regex × List (List Char) × List Char} {fuel' : Nat}
    (hrun : run? fuel p cs = some last) (hlast : last.flags.extended = false)
    (hnames : p.names ⊆ names)
    (hread : (p.amid names before).read? fuel' true (cs ++ more) = some result) :
    ∃ n names', last.names ⊆ names' ∧
      (last.amid names' before).read? n true more = some result := by
  induction fuel generalizing p cs names fuel' with
  | zero => cases hrun
  | succ n ih =>
    obtain ⟨_, ⟨⟩, ⟨hskip, rfl⟩ | ⟨q, next, hstep, hrun⟩⟩ := run?_cases hrun
    · rw [skip_of_extended_eq_false hlast] at hskip
      rw [hskip] at hread
      exact ⟨_, names, hnames, hread⟩
    · have hown := step?_of_run?_append hmore hstep hrun hlast
      obtain ⟨m, rfl, ⟨⟨⟩, -, -⟩ | ⟨-, _, hclose, -⟩ | ⟨q', next', hstep', hread⟩⟩ :=
        read?_cases hread
      · change p.flags.skip (cs ++ more) = _ at hclose
        rw [hclose] at hown
        cases hown
      · obtain ⟨own, names', hsame, rfl, hsub⟩ := step?_of_amid read?_of_amid hnames hstep'
        cases step?_unique hown hsame
        exact ih hrun hsub hread

end Progress

end Adventure.Regex
