import Adventure.Proofs.RegexReading

/-!
# The steps of the reader

`choice?` reads a choice sign by sign: each sign adds to what has been read of the choice, which a
`Progress` records, and leads on to the rest of the text. `read?_succ` says once what a step can do;
what holds of all readings follows from it by induction on the fuel. `run?` follows the steps up
to the end of a text and shows where the reader then stands, with the flags that are in force.
-/

namespace Adventure.Regex

/-- What has been read of a choice. Branches and items come last one first; `names` are the names
of all captures so far. -/
structure Progress where
  flags : Flags
  names : List (List Char)
  branches : List Regex
  items : List Item

/-- What a choice goes on with. -/
inductive Sign
  | bar
  | opening (opening : Opening)
  | part (r : Regex)
  | repetition (least : Nat) (most : Option Nat)

/-- Reads the sign at the beginning of a text. The end of a group is none. -/
def sign? (f : Flags) (names : List (List Char)) : List Char → Option (Sign × List Char)
  | [] => none
  | ')' :: _ => none
  | '|' :: rest => some (.bar, rest)
  | '(' :: rest => (opening? f names rest).map fun (opening, rest) => (.opening opening, rest)
  | '[' :: rest => (class? f ('[' :: rest)).map fun (s, rest) => (.part (.char s), rest)
  | '?' :: rest => some (.repetition 0 (some 1), dropLazy rest)
  | '*' :: rest => some (.repetition 0 none, dropLazy rest)
  | '+' :: rest => some (.repetition 1 none, dropLazy rest)
  | '\x7b' :: rest =>
    (counts? f rest).map fun (least, most, rest) => (.repetition least most, rest)
  | cs => (part? f cs).map fun (r, rest) => (.part r, rest)

namespace Progress

variable (p : Progress)

/-- The expression for what has been read. -/
def choice : Regex := Regex.choice (sequence p.items) p.branches

/-- Reads on up to the end of the group, or of the text outside all groups. -/
def read? (fuel : Nat) (grouped : Bool) (cs : List Char) :
    Option (Regex × List (List Char) × List Char) :=
  choice? fuel grouped p.flags p.names p.branches p.items cs

/-- The beginning of a choice. -/
def inside (f : Flags) (names : List (List Char)) : Progress := ⟨f, names, [], []⟩

/-- Goes on with a sign. A group is read up to its end. -/
def take? (fuel : Nat) : Sign → List Char → Option (Progress × List Char)
  | .bar, rest =>
    some ({ p with branches := sequence p.items :: p.branches, items := [] }, rest)
  | .opening (.directive f), rest =>
    some ({ p with flags := f, items := .directive :: p.items }, rest)
  | .opening (.group f name), rest =>
    ((inside f (name.toList ++ p.names)).read? fuel true rest).map fun (r, names, rest) =>
      ({ p with names := names, items := .expression r :: p.items }, rest)
  | .part r, rest => some ({ p with items := .expression r :: p.items }, rest)
  | .repetition least most, rest =>
    (repeatLast? least most p.items).map fun items => ({ p with items := items }, rest)

/-- Goes on with the sign at the beginning of a text. -/
def step? (fuel : Nat) (cs : List Char) : Option (Progress × List Char) :=
  (sign? p.flags p.names cs).bind fun (sign, rest) => p.take? fuel sign rest

/-- Follows the steps up to the end of a text. -/
def run? : Nat → Progress → List Char → Option Progress
  | 0, _, _ => none
  | fuel + 1, p, cs =>
    match p.flags.skip cs with
    | [] => some p
    | cs => (p.step? fuel cs).bind fun (p, rest) => run? fuel p rest

theorem read?_succ (fuel : Nat) (grouped : Bool) (cs : List Char) :
    p.read? (fuel + 1) grouped cs =
      match p.flags.skip cs with
      | [] => if grouped then none else some (p.choice, p.names, [])
      | ')' :: rest => if grouped then some (p.choice, p.names, rest) else none
      | cs => (p.step? fuel cs).bind fun (p, rest) => p.read? fuel grouped rest := by
  rw [read?, choice?]
  generalize p.flags.skip cs = cs
  split
  case h_1 | h_2 | h_3 => rfl
  case h_4 rest =>
    change _ = (((opening? p.flags p.names rest).map _).bind _).bind _
    cases opening? p.flags p.names rest with
    | none => rfl
    | some read =>
      obtain ⟨_ | ⟨f, name⟩, rest⟩ := read
      · rfl
      · change (Regex.choice? fuel true f (name.toList ++ p.names) [] [] rest).bind _
          = ((Regex.choice? fuel true f (name.toList ++ p.names) [] [] rest).map _).bind _
        cases Regex.choice? fuel true f (name.toList ++ p.names) [] [] rest <;> rfl
  case h_5 rest =>
    change _ = (((class? p.flags ('[' :: rest)).map _).bind _).bind _
    cases class? p.flags ('[' :: rest) <;> rfl
  case h_6 | h_7 | h_8 =>
    change _ = ((repeatLast? _ _ p.items).map _).bind _
    cases repeatLast? _ _ p.items <;> rfl
  case h_9 rest =>
    change _ = (((counts? p.flags rest).map _).bind _).bind _
    cases counts? p.flags rest with
    | none => rfl
    | some counts =>
      obtain ⟨least, most, rest⟩ := counts
      change (repeatLast? least most p.items).bind _
        = ((repeatLast? least most p.items).map _).bind _
      cases repeatLast? least most p.items <;> rfl
  case h_10 hnil hclose hbar hopening hclass hoptional hstar hplus hcount =>
    split
    · contradiction
    · exact absurd rfl (hclose _)
    · rw [step?, sign?]
      cases part? p.flags cs <;> rfl
      all_goals assumption

/-! ## What a step can do -/

variable {p} {q : Progress} {fuel fuel' : Nat} {grouped : Bool} {cs rest : List Char}
  {result : Regex × List (List Char) × List Char}

theorem step?_nil : p.step? fuel [] = none := rfl

theorem ne_nil_of_step? (hstep : p.step? fuel cs = some (q, rest)) : cs ≠ [] := by
  rintro rfl
  cases step?_nil.symm.trans hstep

theorem step?_close : p.step? fuel (')' :: rest) = none := rfl

/-- The reader arrives at the end of the text or of the group, or takes a step. -/
theorem read?_cases (h : p.read? fuel grouped cs = some result) :
    ∃ n, fuel = n + 1 ∧
      ((grouped = false ∧ p.flags.skip cs = [] ∧ result = (p.choice, p.names, [])) ∨
        (grouped = true ∧ ∃ rest, p.flags.skip cs = ')' :: rest ∧
          result = (p.choice, p.names, rest)) ∨
        ∃ q rest, p.step? n (p.flags.skip cs) = some (q, rest) ∧
          q.read? n grouped rest = some result) := by
  cases fuel with
  | zero => cases h
  | succ n =>
    rw [read?_succ] at h
    refine ⟨n, rfl, ?_⟩
    split at h
    case h_1 hskip => cases grouped <;> grind
    case h_2 rest hskip => cases grouped <;> grind
    case h_3 =>
      obtain ⟨⟨q, rest⟩, hstep, hread⟩ := Option.bind_eq_some_iff.1 h
      exact .inr (.inr ⟨q, rest, hstep, hread⟩)

theorem read?_close (hskip : p.flags.skip cs = ')' :: rest) :
    p.read? (fuel + 1) true cs = some (p.choice, p.names, rest) := by
  rw [read?_succ, hskip]
  rfl

theorem read?_end (hskip : p.flags.skip cs = []) :
    p.read? (fuel + 1) false cs = some (p.choice, p.names, []) := by
  rw [read?_succ, hskip]
  rfl

theorem read?_step (hstep : p.step? fuel (p.flags.skip cs) = some (q, rest)) :
    p.read? (fuel + 1) grouped cs = q.read? fuel grouped rest := by
  rw [read?_succ]
  split
  case h_1 hskip => rw [hskip, step?_nil] at hstep; cases hstep
  case h_2 hskip => rw [hskip, step?_close] at hstep; cases hstep
  case h_3 => rw [hstep]; rfl

theorem run?_cases {last : Progress} (h : run? fuel p cs = some last) :
    ∃ n, fuel = n + 1 ∧
      ((p.flags.skip cs = [] ∧ last = p) ∨
        ∃ q rest, p.step? n (p.flags.skip cs) = some (q, rest) ∧ run? n q rest = some last) := by
  cases fuel with
  | zero => cases h
  | succ n =>
    rw [run?] at h
    refine ⟨n, rfl, ?_⟩
    split at h
    case h_1 hskip => exact .inl ⟨hskip, (Option.some.inj h).symm⟩
    case h_2 =>
      obtain ⟨⟨q, rest⟩, hstep, hrun⟩ := Option.bind_eq_some_iff.1 h
      exact .inr ⟨q, rest, hstep, hrun⟩

/-! ## More fuel -/

theorem step?_mono
    (hread : ∀ {p : Progress} {cs result}, p.read? fuel true cs = some result →
      p.read? fuel' true cs = some result)
    (h : p.step? fuel cs = some (q, rest)) : p.step? fuel' cs = some (q, rest) := by
  obtain ⟨⟨sign, next⟩, hsign, htake⟩ := Option.bind_eq_some_iff.1 h
  refine Option.bind_eq_some_iff.2 ⟨(sign, next), hsign, ?_⟩
  cases sign with
  | opening opening =>
    cases opening with
    | directive f => exact htake
    | group f name =>
      obtain ⟨_, hinside, hresult⟩ := Option.map_eq_some_iff.1 htake
      exact Option.map_eq_some_iff.2 ⟨_, hread hinside, hresult⟩
  | _ => exact htake

theorem read?_mono (h : p.read? fuel grouped cs = some result) (hle : fuel ≤ fuel') :
    p.read? fuel' grouped cs = some result := by
  induction fuel generalizing p grouped cs result fuel' with
  | zero => cases h
  | succ n ih =>
    obtain ⟨n', rfl⟩ : ∃ n', fuel' = n' + 1 := ⟨fuel' - 1, by omega⟩
    have hle : n ≤ n' := Nat.le_of_succ_le_succ hle
    obtain ⟨_, ⟨⟩, ⟨rfl, hskip, rfl⟩ | ⟨rfl, rest, hskip, rfl⟩ | ⟨q, rest, hstep, hread⟩⟩ :=
      read?_cases h
    · exact read?_end hskip
    · exact read?_close hskip
    · exact (read?_step (step?_mono (ih · hle) hstep)).trans (ih hread hle)

/-- What a step leads to does not depend on its fuel. -/
theorem step?_unique {next next' : Progress × List Char} (h : p.step? fuel cs = some next)
    (h' : p.step? fuel' cs = some next') : next = next' := by
  rcases Nat.le_total fuel fuel' with hle | hle
  · exact Option.some.inj ((step?_mono (read?_mono · hle) h).symm.trans h')
  · exact Option.some.inj (h.symm.trans (step?_mono (read?_mono · hle) h'))

end Progress

/-! ## What stands before

The names taken before can only make a capture fail, and the branches before stay what they are. -/

theorem captureName?_eq_some_iff {names : List (List Char)} {cs name rest : List Char} :
    captureName? names cs = some (name, rest) ↔
      ∃ first more, name = first :: more ∧ isNameChar true first = true ∧
        (∀ c ∈ more, isNameChar false c = true) ∧ name ∉ names ∧ cs = name ++ '>' :: rest := by
  constructor
  · intro h
    have hcs := List.takeWhile_append_dropWhile (p := fun c => decide (c ≠ '>')) (l := cs)
    simp only [captureName?] at h
    split at h
    case h_1 first more hdrop htake =>
      obtain ⟨hname, hread⟩ := Option.ite_none_right_eq_some.1 h
      rw [htake, hdrop] at hcs
      cases htake ▸ hread
      simp only [htake, Bool.and_eq_true, Bool.not_eq_true', List.contains_eq_mem,
        decide_eq_false_iff_not, List.all_eq_true] at hname
      exact ⟨first, more, rfl, hname.1.1, hname.1.2, hname.2, hcs.symm⟩
    case h_2 => cases h
  · rintro ⟨first, more, rfl, hfirst, hmore, hnew, rfl⟩
    exact captureName?_append hfirst hmore hnew rest

section

variable {f : Flags} {names names' : List (List Char)} {cs : List Char} (hnames : names' ⊆ names)
include hnames

theorem captureName?_of_subset {read : List Char × List Char}
    (h : captureName? names cs = some read) : captureName? names' cs = some read := by
  obtain ⟨first, more, hname, hfirst, hmore, hnew, hcs⟩ := captureName?_eq_some_iff.1 h
  exact captureName?_eq_some_iff.2
    ⟨first, more, hname, hfirst, hmore, fun hmem => hnew (hnames hmem), hcs⟩

theorem opening?_of_subset {read : Opening × List Char} (h : opening? f names cs = some read) :
    opening? f names' cs = some read := by
  unfold opening? at h ⊢
  split at h
  case h_5 | h_6 =>
    obtain ⟨_, hname, hresult⟩ := Option.map_eq_some_iff.1 h
    exact Option.map_eq_some_iff.2 ⟨_, captureName?_of_subset hnames hname, hresult⟩
  all_goals exact h

theorem sign?_of_subset {read : Sign × List Char} (h : sign? f names cs = some read) :
    sign? f names' cs = some read := by
  unfold sign? at h ⊢
  split at h
  case h_4 =>
    obtain ⟨_, hopening, hresult⟩ := Option.map_eq_some_iff.1 h
    exact Option.map_eq_some_iff.2 ⟨_, opening?_of_subset hnames hopening, hresult⟩
  all_goals exact h

end

theorem choice_append (last : Regex) (branches before : List Regex) :
    choice last (branches ++ before) = choice (choice last branches) before :=
  List.foldl_append

namespace Progress

/-- The same reading where other names have been taken before and other branches stand before. -/
def amid (p : Progress) (names : List (List Char)) (before : List Regex) : Progress :=
  { p with names := names, branches := p.branches ++ before }

variable {p q : Progress} {fuel : Nat} {grouped : Bool} {names names' : List (List Char)}
  {before : List Regex} {cs rest : List Char} {r : Regex}

theorem choice_amid : (p.amid names before).choice = Regex.choice p.choice before :=
  choice_append _ _ _

theorem step?_of_amid
    (hread : ∀ {p : Progress} {names before cs r names' rest}, p.names ⊆ names →
      (p.amid names before).read? fuel true cs = some (r, names', rest) →
      ∃ own names'', p.read? fuel true cs = some (own, names'', rest) ∧
        r = Regex.choice own before ∧ names'' ⊆ names')
    (hnames : p.names ⊆ names) (h : (p.amid names before).step? fuel cs = some (q, rest)) :
    ∃ own names', p.step? fuel cs = some (own, rest) ∧ q = own.amid names' before ∧
      own.names ⊆ names' := by
  obtain ⟨⟨sign, next⟩, hsign, htake⟩ := Option.bind_eq_some_iff.1 h
  have hsign : sign? p.flags p.names cs = some (sign, next) := sign?_of_subset hnames hsign
  suffices htake : ∃ own names', p.take? fuel sign next = some (own, rest) ∧
      q = own.amid names' before ∧ own.names ⊆ names' by
    obtain ⟨own, names', htake, hq, hsub⟩ := htake
    exact ⟨own, names', Option.bind_eq_some_iff.2 ⟨_, hsign, htake⟩, hq, hsub⟩
  cases sign with
  | bar | part => cases htake; exact ⟨_, names, rfl, rfl, hnames⟩
  | repetition least most =>
    obtain ⟨items, hitems, hq⟩ := Option.map_eq_some_iff.1 htake
    cases hq
    exact ⟨_, names, Option.map_eq_some_iff.2 ⟨items, hitems, rfl⟩, rfl, hnames⟩
  | opening opening =>
    cases opening with
    | directive f => cases htake; exact ⟨_, names, rfl, rfl, hnames⟩
    | group f name =>
      obtain ⟨⟨r, names', after⟩, hinside, hq⟩ := Option.map_eq_some_iff.1 htake
      cases hq
      have hnames : name.toList ++ p.names ⊆ name.toList ++ names :=
        List.append_subset.2 ⟨List.subset_append_left _ _,
          List.Subset.trans hnames (List.subset_append_right _ _)⟩
      have hinside : ((inside f (name.toList ++ p.names)).amid (name.toList ++ names) []).read?
          fuel true next = some (r, names', rest) := hinside
      obtain ⟨_, _, hread, rfl, hsub⟩ := hread hnames hinside
      exact ⟨_, names', Option.map_eq_some_iff.2 ⟨_, hread, rfl⟩, rfl, hsub⟩

theorem read?_of_amid (hnames : p.names ⊆ names)
    (h : (p.amid names before).read? fuel grouped cs = some (r, names', rest)) :
    ∃ own names'', p.read? fuel grouped cs = some (own, names'', rest) ∧
      r = Regex.choice own before ∧ names'' ⊆ names' := by
  induction fuel generalizing p grouped names before cs r names' rest with
  | zero => cases h
  | succ n ih =>
    obtain ⟨_, ⟨⟩, ⟨rfl, hskip, hresult⟩ | ⟨rfl, next, hskip, hresult⟩ | ⟨q, next, hstep, hread⟩⟩ :=
      read?_cases h
    · cases hresult
      exact ⟨_, _, read?_end hskip, choice_amid, hnames⟩
    · cases hresult
      exact ⟨_, _, read?_close hskip, choice_amid, hnames⟩
    · obtain ⟨own, between, hown, rfl, hsub⟩ := step?_of_amid ih hnames hstep
      obtain ⟨r, names'', hread, hr, hsub⟩ := ih hsub hread
      exact ⟨r, names'', (read?_step hown).trans hread, hr, hsub⟩

end Progress

end Adventure.Regex
