import Adventure.Entity.Identifier
import Adventure.Proofs.RegexRuns
import Adventure.Proofs.RegexSearch

/-!
# Identifiers taken together and one by one

The fragments that identify an object are joined to one choice before they are read, so the flags
that one of them sets hold for the fragments after it, and a closing bracket in one of them may end
the group that holds the others. What the joined expression accepts is settled for fragments that
are expressions of their own (`Reading`): it accepts the words that one of the readings matches as
a whole, each fragment read with the flags that those before it leave. So it agrees with the
fragments taken one by one where no fragment but the last one changes the flags (`accepts_exact`),
and need not agree otherwise (`accepts_differs`).
-/

namespace Adventure

/-! ## Whole words -/

namespace Regex

/-- Whether the expression matches a text as a whole. -/
def matchesWhole (r : Regex) (text : String) : Bool :=
  (ends text.toList r 0).contains text.toList.length

variable {text : List Char} {i j : Nat}

theorem mem_ends_empty : j ∈ ends text .empty i ↔ j = i := by
  rw [ends, List.mem_singleton]

theorem mem_ends_seq {r s : Regex} :
    j ∈ ends text (.seq r s) i ↔ ∃ m ∈ ends text r i, j ∈ ends text s m := by
  rw [ends, List.mem_eraseDups, List.mem_flatMap]

theorem mem_ends_alt {r s : Regex} :
    j ∈ ends text (.alt r s) i ↔ j ∈ ends text r i ∨ j ∈ ends text s i := by
  rw [ends, List.mem_eraseDups, List.mem_append]

theorem mem_ends_look {condition : Look} :
    j ∈ ends text (.look condition) i ↔ condition.holdsAt text i = true ∧ j = i := by
  rw [ends]
  split <;> simp_all

theorem mem_ends_choice (last : Regex) (branches : List Regex) :
    j ∈ ends text (choice last branches) i ↔
      j ∈ ends text last i ∨ ∃ branch ∈ branches, j ∈ ends text branch i := by
  induction branches generalizing last with
  | nil => simp [choice]
  | cons branch branches ih =>
    rw [choice, List.foldl_cons, ← choice, ih, mem_ends_alt]
    grind

theorem reaches_le {r : Regex} (hr : ∀ i ≤ text.length, ∀ j ∈ ends text r i, j ≤ text.length)
    {k : Nat} (hi : i ≤ text.length) (h : Reaches text r k i j) : j ≤ text.length := by
  induction k generalizing i with
  | zero => exact h ▸ hi
  | succ k ih =>
    obtain ⟨m, hm, h⟩ := h
    exact ih (hr i hi m hm) h

/-- A match ends within the text. -/
theorem ends_le {r : Regex} (hi : i ≤ text.length) (hj : j ∈ ends text r i) :
    j ≤ text.length := by
  induction r generalizing i j with
  | empty => grind [ends]
  | char set =>
    rw [ends] at hj
    grind
  | look condition => grind [mem_ends_look]
  | seq r s ihr ihs =>
    obtain ⟨m, hm, hj⟩ := mem_ends_seq.1 hj
    exact ihs (ihr hi hm) hj
  | alt r s ihr ihs => exact (mem_ends_alt.1 hj).elim (ihr hi) (ihs hi)
  | rep r least most ih =>
    have hr : ∀ i ≤ text.length, ∀ j ∈ ends text r i, j ≤ text.length := fun i hi j hj => ih hi hj
    simp only [ends] at hj
    obtain ⟨k, -, m, hm, hj⟩ := mem_upTo.1 hj
    obtain ⟨n, hn, hm⟩ := mem_power.1 hm
    rw [List.mem_singleton] at hn
    exact reaches_le hr (reaches_le hr (hn ▸ hi) hm) hj

theorem holdsAt_textStart (hi : i ≤ text.length) :
    Look.textStart.holdsAt text i = true ↔ i = 0 := by
  simp only [Look.holdsAt, Look.holdsBetween]
  cases i with
  | zero => simp
  | succ i => simp; omega

theorem holdsAt_textEnd : Look.textEnd.holdsAt text i = true ↔ text.length ≤ i := by
  simp [Look.holdsAt, Look.holdsBetween]

/-- An expression between the conditions for the beginning and the end of the text. -/
def anchored (r : Regex) : Regex :=
  sequence [.expression (.look .textEnd), .expression r, .expression (.look .textStart), .directive]

theorem mem_ends_anchored {r : Regex} (hi : i ≤ text.length) :
    j ∈ ends text (anchored r) i ↔ i = 0 ∧ j = text.length ∧ text.length ∈ ends text r 0 := by
  simp only [anchored, sequence, List.foldl_cons, List.foldl_nil, Item.regex, mem_ends_seq,
    mem_ends_look, mem_ends_empty, holdsAt_textEnd]
  constructor
  · rintro ⟨_, rfl, _, ⟨hstart, rfl⟩, m, hm, _, ⟨hend, rfl⟩, rfl⟩
    obtain rfl := (holdsAt_textStart hi).1 hstart
    obtain rfl := Nat.le_antisymm (ends_le (Nat.zero_le _) hm) hend
    exact ⟨rfl, rfl, hm⟩
  · rintro ⟨rfl, rfl, hend⟩
    exact ⟨0, rfl, 0, ⟨(holdsAt_textStart hi).2 rfl, rfl⟩, _, hend, _,
      ⟨Nat.le_refl _, rfl⟩, rfl⟩

theorem matchesIn_anchored (r : Regex) (text : String) :
    (anchored r).matchesIn text = r.matchesWhole text := by
  rw [Bool.eq_iff_iff, matchesIn, matchesWhole, List.any_eq_true, List.contains_iff_mem]
  constructor
  · rintro ⟨i, hi, hends⟩
    have hi : i ≤ text.toList.length := Nat.le_of_lt_succ (List.mem_range.1 hi)
    obtain ⟨j, hj⟩ := List.exists_mem_of_ne_nil _ (by simpa using hends)
    exact ((mem_ends_anchored hi).1 hj).2.2
  · intro hend
    have hmem := (mem_ends_anchored (Nat.zero_le _)).2 ⟨rfl, rfl, hend⟩
    exact ⟨0, by simp, by simpa using List.ne_nil_of_mem hmem⟩

end Regex

/-! ## Readings -/

namespace Identifier

open Regex (Flags Progress)

/-- The flags that the joined expression begins with: letters of either case. -/
def eitherCase : Flags := { ignoreCase := true }

/-- A fragment that is an expression of its own, with the flags in force after it. -/
structure Reading where
  pattern : Regex
  flags : Flags

/-- Reads a fragment by itself. It must not leave the flag `x` set, under which the text that
follows may belong to a comment. -/
def reading? (f : Flags) (fragment : String) : Option Reading := do
  let cs := fragment.toList
  let last ← Progress.run? (cs.length + 1) (.inside f []) cs
  if last.flags.extended then none else some ⟨last.choice, last.flags⟩

/-- Reads fragments one by one, each with the flags that those before it leave. -/
def readings? : Flags → List String → Option (List Reading)
  | _, [] => some []
  | f, fragment :: rest => do
    let reading ← reading? f fragment
    let others ← readings? reading.flags rest
    return reading :: others

variable {f : Flags} {fragment word : String} {fragments : List String} {reading : Reading}
  {readings : List Reading} {compiled : Option Regex}

theorem exists_run?_of_reading? (h : reading? f fragment = some reading) :
    ∃ last, Progress.run? (fragment.toList.length + 1) (.inside f []) fragment.toList = some last ∧
      last.flags.extended = false ∧ reading = ⟨last.choice, last.flags⟩ := by
  obtain ⟨last, hrun, h⟩ := Option.bind_eq_some_iff.1 h
  obtain ⟨hlast, hreading⟩ := Option.ite_none_left_eq_some.1 h
  exact ⟨last, hrun, Bool.eq_false_iff.2 hlast, (Option.some.inj hreading).symm⟩

/-! ## The joined expression -/

/-- The fragments with bars between them. -/
def body (fragments : List String) : List Char :=
  List.intercalate ['|'] (fragments.map String.toList)

theorem toList_joined (fragments : List String) : (joined fragments).toList =
    ['(', '?', 'i', ')', '^', '(', '?', ':'] ++ (body fragments ++ [')', '$']) := by
  simp [joined, body, String.toList_intercalate]

theorem body_cons_cons (fragment other : String) (rest : List String) :
    body (fragment :: other :: rest) = fragment.toList ++ '|' :: body (other :: rest) := by
  simp [body, List.intercalate_cons_cons]

/-- The reader arrives at the choice between the readings and the branches before them. -/
theorem ends_of_readings (before : List Regex) {names names' : List (List Char)}
    {rest after : List Char} {r : Regex} {fuel : Nat}
    (hne : fragments ≠ []) (hreadings : readings? f fragments = some readings)
    (hread : ((Progress.inside f []).amid names before).read? fuel true
      (body fragments ++ ')' :: rest) = some (r, names', after)) :
    after = rest ∧ ∀ (text : List Char) (i j : Nat), j ∈ Regex.ends text r i ↔
      (∃ reading ∈ readings, j ∈ Regex.ends text reading.pattern i) ∨
        ∃ branch ∈ before, j ∈ Regex.ends text branch i := by
  induction fragments generalizing f names before fuel readings with
  | nil => exact absurd rfl hne
  | cons fragment others ih =>
    obtain ⟨reading, hreading, h⟩ := Option.bind_eq_some_iff.1 hreadings
    obtain ⟨readings, hothers, hresult⟩ := Option.bind_eq_some_iff.1 h
    cases hresult
    obtain ⟨last, hrun, hlast, rfl⟩ := exists_run?_of_reading? hreading
    have hchoice (text : List Char) (i j : Nat) : j ∈ Regex.ends text last.choice i ↔
        j ∈ Regex.ends text (Regex.sequence last.items) i ∨
          ∃ branch ∈ last.branches, j ∈ Regex.ends text branch i := Regex.mem_ends_choice _ _
    have hskip (names : List (List Char)) (cs : List Char) :
        (last.amid names before).flags.skip cs = cs :=
      Progress.skip_of_extended_eq_false hlast cs
    cases others with
    | nil =>
      cases hothers
      rw [show body [fragment] = fragment.toList by simp [body]] at hread
      obtain ⟨_ | n, names'', -, hread⟩ := Progress.exists_read?_of_amid
        ⟨_, _, rfl, .inr rfl⟩ hrun hlast (List.nil_subset _) hread
      · cases hread
      · rw [Progress.read?_close (hskip names'' _), Progress.choice_amid] at hread
        cases hread
        exact ⟨rfl, fun text i j => by simp [Regex.mem_ends_choice last.choice]⟩
    | cons other others =>
      rw [body_cons_cons, List.append_assoc, List.cons_append] at hread
      obtain ⟨_ | n, names'', -, hread⟩ := Progress.exists_read?_of_amid
        ⟨_, _, rfl, .inl rfl⟩ hrun hlast (List.nil_subset _) hread
      · cases hread
      · have hbar : (last.amid names'' before).step? n ((last.amid names'' before).flags.skip
            ('|' :: (body (other :: others) ++ ')' :: rest))) =
            some ((Progress.inside last.flags []).amid names''
              (Regex.sequence last.items :: (last.branches ++ before)),
              body (other :: others) ++ ')' :: rest) := by
          rw [hskip]
          rfl
        rw [Progress.read?_step hbar] at hread
        obtain ⟨hafter, hends⟩ := ih _ (List.cons_ne_nil _ _) hothers hread
        refine ⟨hafter, fun text i j => (hends text i j).trans ?_⟩
        simp only [List.mem_cons, List.mem_append, or_and_right, exists_or, exists_eq_left, hchoice,
          or_assoc, or_left_comm]

/-- The joined text is read up to the group, the group is read, and then what closes it. -/
theorem parse?_joined (fragments : List String) : Regex.parse? (joined fragments) =
    (((Progress.inside eitherCase []).read? ((body fragments).length + 8) true
      (body fragments ++ [')', '$'])).bind fun (inner, names, rest) =>
        ({ Progress.inside eitherCase names with
          items := [.expression inner, .expression (.look .textStart), .directive] }).read?
            ((body fragments).length + 8) false rest).map (·.1) := by
  have hlength : (joined fragments).toList.length + 1 =
      (body fragments).length + 8 + 1 + 1 + 1 := by
    rw [toList_joined]
    simp
  rw [Regex.parse?, hlength, toList_joined]
  rfl

/-- What the joined text is parsed to accepts what one of the readings matches as a whole. -/
theorem matchesIn_of_readings {r : Regex} (hne : fragments ≠ [])
    (hreadings : readings? eitherCase fragments = some readings)
    (hparse : Regex.parse? (joined fragments) = some r) (word : String) :
    r.matchesIn word = readings.any fun reading => reading.pattern.matchesWhole word := by
  rw [parse?_joined] at hparse
  obtain ⟨⟨_, _, _⟩, hchoice, rfl⟩ := Option.map_eq_some_iff.1 hparse
  obtain ⟨⟨inner, names, rest⟩, hinner, hchoice⟩ := Option.bind_eq_some_iff.1 hchoice
  obtain ⟨rfl, hends⟩ := ends_of_readings [] hne hreadings hinner
  cases hchoice
  change (Regex.anchored inner).matchesIn word = _
  rw [Regex.matchesIn_anchored, Bool.eq_iff_iff, Regex.matchesWhole, List.contains_iff_mem, hends]
  simp [Regex.matchesWhole]

theorem exists_parse?_joined_singleton (h : reading? eitherCase fragment = some reading) :
    ∃ r, Regex.parse? (joined [fragment]) = some r := by
  obtain ⟨last, hrun, hlast, -⟩ := exists_run?_of_reading? h
  have hbody : body [fragment] = fragment.toList := by simp [body]
  have hinner := Progress.read?_mono (Progress.read?_of_run?_append hrun hlast ['$'])
    (show _ ≤ fragment.toList.length + 8 by omega)
  rw [parse?_joined, hbody, hinner]
  exact ⟨_, rfl⟩

/-! ## Acceptance -/

theorem compile_eq_ok_iff (hne : fragments ≠ []) : compile fragments = .ok compiled ↔
    firstBad? fragments = none ∧ ∃ r, Regex.parse? (joined fragments) = some r ∧
      compiled = some r := by
  rw [compile, if_neg (by simpa using hne)]
  cases firstBad? fragments with
  | some fragment => simp
  | none => cases Regex.parse? (joined fragments) <;> simp [eq_comm]

/-- The joined expression accepts what one of the readings matches as a whole. -/
theorem accepts_of_readings (hcompile : compile fragments = .ok compiled)
    (hreadings : readings? eitherCase fragments = some readings) (word : String) :
    accepts fragments word = .ok (readings.any (·.pattern.matchesWhole word)) := by
  rw [accepts, hcompile]
  cases fragments with
  | nil =>
    cases hcompile
    cases hreadings
    rfl
  | cons fragment rest =>
    obtain ⟨-, r, hparse, rfl⟩ := (compile_eq_ok_iff (List.cons_ne_nil _ _)).1 hcompile
    exact congrArg Except.ok
      (matchesIn_of_readings (List.cons_ne_nil _ _) hreadings hparse word)

/-- A fragment of a list that compiles also compiles alone, if it is an expression of its own. -/
theorem accepts_singleton (hcompile : compile fragments = .ok compiled)
    (hmem : fragment ∈ fragments) (hreading : reading? eitherCase fragment = some reading)
    (word : String) : accepts [fragment] word = .ok (reading.pattern.matchesWhole word) := by
  obtain ⟨hgood, -⟩ := (compile_eq_ok_iff (List.ne_nil_of_mem hmem)).1 hcompile
  have hgood : firstBad? [fragment] = none := by
    simpa [firstBad?] using List.find?_eq_none.1 hgood fragment hmem
  obtain ⟨r, hparse⟩ := exists_parse?_joined_singleton hreading
  have halone := (compile_eq_ok_iff (List.cons_ne_nil fragment [])).2 ⟨hgood, r, hparse, rfl⟩
  have hreadings : readings? eitherCase [fragment] = some [reading] := by
    simp [readings?, hreading]
  rw [accepts_of_readings halone hreadings, List.any_cons, List.any_nil, Bool.or_false]

/-- Fragments of which none but the last one changes the flags are all read with the same flags. -/
theorem exists_readings? (hown : ∀ fragment ∈ fragments, (reading? f fragment).isSome = true)
    (hflags : ∀ fragment ∈ fragments.dropLast, (reading? f fragment).map (·.flags) = some f) :
    ∃ readings, readings? f fragments = some readings ∧
      ∀ reading, reading ∈ readings ↔
        ∃ fragment ∈ fragments, reading? f fragment = some reading := by
  induction fragments with
  | nil => exact ⟨[], rfl, by simp⟩
  | cons fragment rest ih =>
    obtain ⟨own, hreading⟩ := Option.isSome_iff_exists.1 (hown fragment List.mem_cons_self)
    obtain ⟨readings, hreadings, hmem⟩ : ∃ readings, readings? own.flags rest = some readings ∧
        ∀ reading, reading ∈ readings ↔ ∃ fragment ∈ rest, reading? f fragment = some reading := by
      cases rest with
      | nil => exact ⟨[], rfl, by simp⟩
      | cons other rest =>
        have hsame : own.flags = f := by
          simpa [hreading] using hflags fragment List.mem_cons_self
        rw [hsame]
        exact ih (fun _ h => hown _ (List.mem_cons_of_mem _ h))
          (fun _ h => hflags _ (List.mem_cons_of_mem _ h))
    refine ⟨own :: readings, by simp [readings?, hreading, hreadings], fun reading => ?_⟩
    rw [List.mem_cons, hmem]
    simp [hreading, eq_comm]

/-- Of fragments that compile together, the joined expression accepts the words that a fragment
matches as a whole with the flags that those before it leave. A fragment alone, for which `joined`
writes `(?i)^(?:fragment)$`, accepts the words that it matches in letters of either case. The two
agree if no fragment but the last one changes the flags. -/
theorem accepts_exact (hcompile : (compile fragments).isOk = true) :
    (∀ readings, readings? eitherCase fragments = some readings →
      ∀ word, accepts fragments word = .ok (readings.any (·.pattern.matchesWhole word))) ∧
    (∀ fragment ∈ fragments, ∀ reading, reading? eitherCase fragment = some reading →
      ∀ word, accepts [fragment] word = .ok (reading.pattern.matchesWhole word)) ∧
    ((∀ fragment ∈ fragments, (reading? eitherCase fragment).isSome = true) →
      (∀ fragment ∈ fragments.dropLast,
        (reading? eitherCase fragment).map (·.flags) = some eitherCase) →
      ∀ word, accepts fragments word = .ok true ↔
        ∃ fragment ∈ fragments, accepts [fragment] word = .ok true) := by
  obtain ⟨compiled, hcompile⟩ : ∃ compiled, compile fragments = .ok compiled := by
    cases h : compile fragments with
    | ok compiled => exact ⟨compiled, rfl⟩
    | error failure => rw [h] at hcompile; cases hcompile
  refine ⟨fun readings hreadings => accepts_of_readings hcompile hreadings,
    fun fragment hmem reading hreading => accepts_singleton hcompile hmem hreading,
    fun hown hflags word => ?_⟩
  obtain ⟨readings, hreadings, hmem⟩ := exists_readings? hown hflags
  rw [accepts_of_readings hcompile hreadings, Except.ok.injEq, List.any_eq_true]
  constructor
  · rintro ⟨reading, hreading, hmatches⟩
    obtain ⟨fragment, hfragment, hreading⟩ := (hmem reading).1 hreading
    refine ⟨fragment, hfragment, ?_⟩
    rw [accepts_singleton hcompile hfragment hreading, hmatches]
  · rintro ⟨fragment, hfragment, haccepts⟩
    obtain ⟨reading, hreading⟩ := Option.isSome_iff_exists.1 (hown fragment hfragment)
    rw [accepts_singleton hcompile hfragment hreading, Except.ok.injEq] at haccepts
    exact ⟨_, (hmem _).2 ⟨fragment, hfragment, hreading⟩, haccepts⟩

theorem accepts_exact_ball :
    accepts ["lamp", "(?-i)Lantern", "Oil"] "oil" = .ok false ∧
      accepts ["Oil"] "oil" = .ok true ∧
      accepts ["lamp", "(?:big|red) ?ball"] "Red ball" = .ok true := by
  obtain ⟨hjoined, halone, -⟩ :=
    accepts_exact (show (compile ["lamp", "(?-i)Lantern", "Oil"]).isOk = true by decide +kernel)
  obtain ⟨readings, hreadings, hnone⟩ := Option.map_eq_some_iff.1
    (show (readings? eitherCase ["lamp", "(?-i)Lantern", "Oil"]).map
      (fun readings => readings.any (·.pattern.matchesWhole "oil")) = some false by decide +kernel)
  obtain ⟨reading, hreading, hoil⟩ := Option.map_eq_some_iff.1
    (show (reading? eitherCase "Oil").map (·.pattern.matchesWhole "oil") = some true by
      decide +kernel)
  obtain ⟨-, -, hagree⟩ :=
    accepts_exact (show (compile ["lamp", "(?:big|red) ?ball"]).isOk = true by decide +kernel)
  refine ⟨hnone ▸ hjoined readings hreadings "oil", ?_,
    (hagree (by decide +kernel) (by decide +kernel) _).2 ?_⟩
  · exact hoil ▸ halone "Oil" (by decide) reading hreading "oil"
  · exact ⟨"(?:big|red) ?ball", by decide, by rfl⟩

/-- A fragment that sets flags sets them for the next one too, and one that closes the group around
all of them takes the conditions for whole words away from the rest. -/
theorem accepts_differs :
    (∃ compiled, compile ["(?-i)lamp", "Lantern"] = .ok compiled) ∧
      accepts ["(?-i)lamp", "Lantern"] "lantern" = .ok false ∧
      accepts ["Lantern"] "lantern" = .ok true ∧
    (∃ compiled, compile ["lamp)|(?:light", "lantern"] = .ok compiled) ∧
      accepts ["lamp)|(?:light", "lantern"] "blue lantern" = .ok true ∧
      accepts ["lamp)|(?:light"] "blue lantern" = .ok false ∧
      accepts ["lantern"] "blue lantern" = .ok false :=
  ⟨⟨_, rfl⟩, rfl, rfl, ⟨_, rfl⟩, rfl, rfl, rfl⟩

end Identifier

end Adventure
