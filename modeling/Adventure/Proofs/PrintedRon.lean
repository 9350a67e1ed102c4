import Adventure.Proofs.QuotedTexts
import Adventure.Proofs.RonBrackets

/-!
# Printed values are read back

Parsing undoes printing (`parse?_print`). It does so for the values that `Legible` admits: those
that are nested no deeper than the parser follows and whose names are plain and no keywords. Records
must not be empty, because empty brackets are read as a tuple. The induction is on `Legible`; its
levels are those that `value` counts down.
-/

namespace Adventure.Ron

open Scan

/-! ## Values that can be read back -/

/-- Names that mean something by themselves. -/
def keywords : List String := ["true", "false", "None", "Some"]

/-- Whether a text is a plain name and no keyword. -/
def isFreeName (name : String) : Bool := isName name && !keywords.contains name

/-- Values that are read as they are printed, with the levels that they are nested at most. -/
inductive Legible : Nat → Ron → Prop
  | bool {n : Nat} (b : Bool) : Legible n (.bool b)
  | string {n : Nat} (s : String) : Legible n (.string s)
  | absent {n : Nat} : Legible n .absent
  | present {n : Nat} {v : Ron} (content : Legible n v) : Legible (n + 1) (.present v)
  | identifier {n : Nat} {name : String} (free : isFreeName name = true) :
      Legible n (.identifier name)
  | list {n : Nat} {items : List Ron} (parts : ∀ v ∈ items, Legible n v) :
      Legible (n + 2) (.list items)
  | map {n : Nat} {entries : List (Ron × Ron)} (keys : ∀ e ∈ entries, Legible n e.1)
      (parts : ∀ e ∈ entries, Legible n e.2) : Legible (n + 2) (.map entries)
  | tuple {n : Nat} {name : Option String} {items : List Ron}
      (free : ∀ s ∈ name, isFreeName s = true) (parts : ∀ v ∈ items, Legible n v) :
      Legible (n + 2) (.tuple name items)
  | record {n : Nat} {name : Option String} {fields : List (String × Ron)}
      (free : ∀ s ∈ name, isFreeName s = true) (some : fields ≠ [])
      (names : ∀ f ∈ fields, isName f.1 = true) (parts : ∀ f ∈ fields, Legible n f.2) :
      Legible (n + 2) (.record name fields)

theorem isName_of_free {name : String} (h : isFreeName name = true) : isName name = true := by
  simp only [isFreeName, Bool.and_eq_true] at h
  exact h.1

theorem ne_of_free {name word : String} (h : isFreeName name = true) (hword : word ∈ keywords) :
    name ≠ word := by
  rintro rfl
  simp [isFreeName, hword] at h

/-! ## What is printed -/

/-- An entry as it is printed. -/
def printEntry (depth : Nat) (e : Ron × Ron) : List Char :=
  printAt depth e.1 ++ [':', ' '] ++ printAt depth e.2

/-- A field as it is printed. -/
def printField (depth : Nat) (f : String × Ron) : List Char :=
  f.1.toList ++ [':', ' '] ++ printAt depth f.2

theorem printItems_eq (depth : Nat) (items : List Ron) :
    printItems depth items = items.map (printAt depth) := by
  induction items with
  | nil => rfl
  | cons v items ih => exact congrArg (printAt depth v :: ·) ih

theorem printEntries_eq (depth : Nat) (entries : List (Ron × Ron)) :
    printEntries depth entries = entries.map (printEntry depth) := by
  induction entries with
  | nil => rfl
  | cons e entries ih => exact congrArg (printEntry depth e :: ·) ih

theorem printFields_eq (depth : Nat) (fields : List (String × Ron)) :
    printFields depth fields = fields.map (printField depth) := by
  induction fields with
  | nil => rfl
  | cons f fields ih => exact congrArg (printField depth f :: ·) ih

theorem printAt_present (depth : Nat) (v : Ron) (rest : List Char) :
    printAt depth (.present v) ++ rest
      = "Some".toList ++ '(' :: (printAt depth v ++ ')' :: rest) := by
  have h : printAt depth (.present v) = "Some(".toList ++ printAt depth v ++ [')'] := rfl
  rw [h, List.append_assoc, List.append_assoc]
  rfl

theorem printAt_list (depth : Nat) (items : List Ron) :
    printAt depth (.list items) = block '[' ']' depth (items.map (printAt (depth + 1))) :=
  congrArg (block '[' ']' depth) (printItems_eq (depth + 1) items)

theorem printAt_map (depth : Nat) (entries : List (Ron × Ron)) :
    printAt depth (.map entries)
      = block '\x7b' '\x7d' depth (entries.map (printEntry (depth + 1))) :=
  congrArg (block '\x7b' '\x7d' depth) (printEntries_eq (depth + 1) entries)

theorem printAt_tuple (depth : Nat) (name : Option String) (items : List Ron) (rest : List Char) :
    printAt depth (.tuple name items) ++ rest
      = nameChars name ++ '(' :: (commas (items.map (printAt depth)) ++ ')' :: rest) := by
  have h : printAt depth (.tuple name items)
      = nameChars name ++ '(' :: commas (printItems depth items) ++ [')'] := rfl
  simp [h, printItems_eq]

theorem printAt_record (depth : Nat) (name : Option String) (fields : List (String × Ron)) :
    printAt depth (.record name fields)
      = nameChars name ++ block '(' ')' depth (fields.map (printField (depth + 1))) :=
  congrArg (nameChars name ++ block '(' ')' depth ·) (printFields_eq (depth + 1) fields)

/-! ## Fields and entries -/

/-- What stands after a colon is found. -/
theorem blanks_part {part : List Char} (h : Solid part) (rest : List Char) :
    blanks (' ' :: (part ++ rest)) = some ((), part ++ rest) := by
  refine blanks_of ?_
  rw [afterBlanks?_blank (by decide), afterBlanks?_dense (h.dense rest)]

theorem reads_entry {value : Scan Ron} {depth : Nat} {e : Ron × Ron}
    (hkey : Reads value (printAt depth) e.1) (hpart : Reads value (printAt depth) e.2) :
    Reads (entry value) (printEntry depth) e := by
  constructor
  · obtain ⟨c, hc, h⟩ := hkey.1
    exact ⟨c, by simp [printEntry, Option.mem_def.1 hc], h⟩
  · intro rest hrest
    have hcolon : Closed (':' :: ' ' :: (printAt depth e.2 ++ rest)) := closed_cons (by decide)
    simp only [printEntry, List.append_assoc, List.cons_append, List.nil_append]
    rw [entry, bind_of_some (hkey.2 _ hcolon), bind_of_some (blanks_dense hcolon.marked.dense),
      bind_of_some (expect_cons _ _), bind_of_some (blanks_part hpart.1 rest),
      bind_of_some (hpart.2 rest hrest)]
    rfl

theorem reads_field {value : Scan Ron} {depth : Nat} {f : String × Ron}
    (hname : isName f.1 = true) (hpart : Reads value (printAt depth) f.2) :
    Reads (field value) (printField depth) f := by
  constructor
  · rw [printField, List.append_assoc]
    exact solid_name hname _
  · intro rest hrest
    have hcolon : Marked (':' :: ' ' :: (printAt depth f.2 ++ rest)) := marked_cons (by decide)
    have hread : ofRead identifier? (f.1.toList ++ ':' :: ' ' :: (printAt depth f.2 ++ rest))
        = some (f.1, ':' :: ' ' :: (printAt depth f.2 ++ rest)) := identifier?_name hname hcolon
    simp only [printField, List.append_assoc, List.cons_append, List.nil_append]
    rw [field, bind_of_some hread, bind_of_some (blanks_dense hcolon.dense),
      bind_of_some (expect_cons _ _), bind_of_some (blanks_part hpart.1 rest),
      bind_of_some (hpart.2 rest hrest)]
    rfl

/-! ## Words -/

/-- The characters that begin a value without a name. -/
def openings : List Char := ['(', '[', '\x7b', '"']

theorem tryKeyword_self {word : String} {rest : List Char} (hword : isName word = true)
    (hrest : Marked rest) :
    tryKeyword word (word.toList ++ rest) = some (true, rest) := by
  have hparts := isNamePart_of_isName hword
  rw [tryKeyword, afterKeyword?_name hparts hparts hrest, if_pos rfl]

theorem tryKeyword_other {word name : String} {rest : List Char}
    (hword : isName word = true) (hname : isName name = true) (hne : name ≠ word)
    (hrest : Marked rest) :
    tryKeyword word (name.toList ++ rest) = some (false, name.toList ++ rest) := by
  have hnone := afterKeyword?_name (isNamePart_of_isName hword) (isNamePart_of_isName hname) hrest
  rw [tryKeyword, hnone, if_neg hne]

theorem tryKeyword_opening {word : String} {c : Char} {rest : List Char}
    (hword : word ∈ keywords) (hc : c ∈ openings) :
    tryKeyword word (c :: rest) = some (false, c :: rest) := by
  have hall : ∀ word ∈ keywords, (word.toList.head?.any (!openings.contains ·)) = true := by decide
  have hhead := hall word hword
  have hstarts : word.toList.isPrefixOf (c :: rest) = false := by
    cases hchars : word.toList with
    | nil => simp [hchars] at hhead
    | cons d ds =>
      have hne : d ≠ c := by
        rintro rfl
        simp [hchars, hc] at hhead
      simp [List.isPrefixOf, hne]
  simp [tryKeyword, afterKeyword?, hstarts]

theorem identifier?_opening {c : Char} (hc : c ∈ ')' :: openings) (rest : List Char) :
    identifier? (c :: rest) = none := by
  have hstart : ∀ d ∈ ')' :: openings, (d == '_' || Unicode.isIdentifierStart d) = false :=
    List.all_iff_forall_prop.1 (by decide +kernel)
  simp [identifier?, hstart c hc]

theorem tryIdentifier_name {name : String} {rest : List Char} (hname : isName name = true)
    (hrest : Marked rest) : tryIdentifier (name.toList ++ rest) = some (some name, rest) := by
  rw [tryIdentifier, identifier?_name hname hrest]

theorem tryIdentifier_opening {c : Char} (hc : c ∈ openings) (rest : List Char) :
    tryIdentifier (c :: rest) = some (none, c :: rest) := by
  rw [tryIdentifier, identifier?_opening (List.mem_cons_of_mem _ hc)]

theorem tryBracket_open (rest : List Char) : tryBracket ('(' :: rest) = some (true, rest) := by
  rw [tryBracket, afterBlanks?_dense (dense_cons (by decide))]
  rfl

theorem tryBracket_closed {rest : List Char} (h : Closed rest) :
    tryBracket rest = some (false, rest) := by
  rw [tryBracket, afterBlanks?_dense h.marked.dense]
  rcases rest with _ | ⟨c, rest⟩
  · rfl
  · have hc : c ∈ valueEnds := h c rfl
    have hne : c ≠ '(' := by rintro rfl; exact absurd hc (by decide)
    simp [hne]

/-! ## Brackets -/

theorem seesField_name {name : String} {rest : List Char} (hname : isName name = true)
    (hrest : Marked rest) : seesField (name.toList ++ rest)
      = some (rest.head? == some ':', name.toList ++ rest) := by
  have hdense : Dense (name.toList ++ rest) := by
    simpa using (solid_name hname rest).dense []
  rw [seesField, afterBlanks?_dense hdense]
  simp [identifier?_name hname hrest, afterBlanks?_dense hrest.dense]

theorem seesField_opening {c : Char} (hc : c ∈ ')' :: openings) (rest : List Char) :
    seesField (c :: rest) = some (false, c :: rest) := by
  have hdense : ∀ d ∈ ')' :: openings, isBlank d = false ∧ d ≠ '/' :=
    List.all_iff_forall_prop.1 (by decide)
  rw [seesField, afterBlanks?_dense (dense_cons (hdense c hc))]
  simp [identifier?_opening hc]

/-- No value looks like the name of a field. -/
theorem seesField_value {n : Nat} {v : Ron} (h : Legible n v) (depth : Nat) {rest : List Char}
    (hrest : Closed rest) (hcolon : rest.head? ≠ some ':') :
    seesField (printAt depth v ++ rest) = some (false, printAt depth v ++ rest) := by
  have hword : ∀ name : String, isName name = true →
      seesField (name.toList ++ rest) = some (false, name.toList ++ rest) := by
    intro name hname
    rw [seesField_name hname hrest.marked, beq_eq_false_iff_ne.2 hcolon]
  have hcase : ∀ (name : String) (body : List Char), isName name = true →
      seesField (name.toList ++ '(' :: body) = some (false, name.toList ++ '(' :: body) := by
    intro name body hname
    have hopening : Marked ('(' :: body) := marked_cons (by decide)
    simpa using seesField_name hname hopening
  cases h with
  | bool b => cases b <;> exact hword _ (by decide)
  | string s => exact seesField_opening (by decide) _
  | absent => exact hword "None" (by decide)
  | @present _ w _ =>
    rw [printAt_present]
    exact hcase "Some" _ (by decide)
  | identifier free => exact hword _ (isName_of_free free)
  | list parts =>
    rw [printAt_list, block_eq_cons]
    exact seesField_opening (by decide) _
  | map keys parts =>
    rw [printAt_map, block_eq_cons]
    exact seesField_opening (by decide) _
  | @tuple _ name _ free =>
    rw [printAt_tuple]
    cases name with
    | none => exact seesField_opening (by decide) _
    | some name => exact hcase name _ (isName_of_free (free name rfl))
  | @record _ name fields free =>
    rw [printAt_record, block_eq_cons, List.append_assoc]
    cases name with
    | none => exact seesField_opening (by decide) _
    | some name => exact hcase name _ (isName_of_free (free name rfl))

/-- A record is read after its opening bracket. -/
theorem afterBracket_record {value : Scan Ron} (name : Option String) (depth : Nat)
    {fields : List (String × Ron)} (hsome : fields ≠ [])
    (hnames : ∀ f ∈ fields, isName f.1 = true)
    (h : ∀ f ∈ fields, Reads value (printAt (depth + 1)) f.2) (rest : List Char) :
    afterBracket name value
        ((block '(' ')' depth (fields.map (printField (depth + 1)))).tail ++ rest)
      = some (.record name fields, rest) := by
  have hreads : ∀ f ∈ fields, Reads (field value) (printField (depth + 1)) f := fun f hf =>
    reads_field (hnames f hf) (h f hf)
  have hclosing : ')' ∈ closings := by decide
  have hparts := parts_block '(' hclosing depth rest fields hreads
  have hsees : seesField ((block '(' ')' depth (fields.map (printField (depth + 1)))).tail ++ rest)
      = some (true, (block '(' ')' depth (fields.map (printField (depth + 1)))).tail ++ rest) := by
    rcases fields with _ | ⟨f, fields⟩
    · exact absurd rfl hsome
    · have hf := hreads f List.mem_cons_self
      simp only [List.map_cons, block, List.tail_cons, List.flatMap_cons, List.append_assoc,
        List.cons_append, seesField]
      rw [afterBlanks?_line, afterBlanks?_dense (hf.1.dense _)]
      simp only [printField, List.append_assoc, List.cons_append, List.nil_append]
      rw [identifier?_name (hnames f List.mem_cons_self) (marked_cons (by decide))]
      simp [afterBlanks?_dense (dense_cons (by decide : isBlank ':' = false ∧ ':' ≠ '/'))]
  rw [afterBracket, bind_of_some hsees, if_pos rfl, bind_of_some hparts]
  rfl

/-- A tuple is read after its opening bracket. -/
theorem afterBracket_tuple {n : Nat} (name : Option String) (depth : Nat) {items : List Ron}
    (hlegible : ∀ v ∈ items, Legible n v)
    (h : ∀ v ∈ items, Reads (value n) (printAt depth) v) (rest : List Char) :
    afterBracket name (value n) (commas (items.map (printAt depth)) ++ ')' :: rest)
      = some (.tuple name items, rest) := by
  have hparts := parts_commas rest items h
  have hsees : seesField (commas (items.map (printAt depth)) ++ ')' :: rest)
      = some (false, commas (items.map (printAt depth)) ++ ')' :: rest) := by
    rcases items with _ | ⟨v, items⟩
    · exact seesField_opening (by decide) rest
    · obtain ⟨tail, htail, hcommas⟩ := commas_cons (printAt depth v) (items.map (printAt depth))
      rw [List.map_cons, hcommas, List.append_assoc]
      exact seesField_value (hlegible v List.mem_cons_self) depth (htail rest).1 (htail rest).2
  rw [afterBracket, bind_of_some hsees, if_neg Bool.false_ne_true, bind_of_some hparts]
  rfl

theorem presentAfterBracket_value {content : Scan Ron} {depth : Nat} {v : Ron}
    (h : Reads content (printAt depth) v) (rest : List Char) :
    presentAfterBracket content (printAt depth v ++ ')' :: rest) = some (.present v, rest) := by
  have hdense : Dense (')' :: rest) := dense_cons (by decide)
  rw [presentAfterBracket, bind_of_some (blanks_dense (h.1.dense _)),
    bind_of_some (h.2 _ (closed_cons (by decide))), bind_of_some (blanks_dense hdense),
    bind_of_some (tryTake_ne (by simp : (')' :: rest).head? ≠ some ',')),
    bind_of_some (blanks_dense hdense), bind_of_some (expect_cons ')' rest)]
  rfl

/-! ## Values -/

section

variable {opens : Bool} {content element : Scan Ron} {name : String} {rest : List Char}

theorem node_true (hrest : Marked rest) :
    node opens content element ("true".toList ++ rest) = some (.bool true, rest) := by
  rw [node, bind_of_some (tryKeyword_self (by decide) hrest), if_pos rfl]
  rfl

theorem node_false (hrest : Marked rest) :
    node opens content element ("false".toList ++ rest) = some (.bool false, rest) := by
  rw [node, bind_of_some (tryKeyword_other (by decide) (by decide) (by decide) hrest),
    if_neg Bool.false_ne_true, bind_of_some (tryKeyword_self (by decide) hrest), if_pos rfl]
  rfl

theorem node_none (hrest : Marked rest) :
    node opens content element ("None".toList ++ rest) = some (.absent, rest) := by
  rw [node, bind_of_some (tryKeyword_other (by decide) (by decide) (by decide) hrest),
    if_neg Bool.false_ne_true,
    bind_of_some (tryKeyword_other (by decide) (by decide) (by decide) hrest),
    if_neg Bool.false_ne_true, bind_of_some (tryKeyword_self (by decide) hrest), if_pos rfl]
  rfl

theorem node_some (rest : List Char) : node opens content element ("Some".toList ++ '(' :: rest)
    = presentAfterBracket content rest := by
  have hrest : Marked ('(' :: rest) := marked_cons (by decide)
  have hsees : sees "Some".toList ("Some".toList ++ '(' :: rest)
      = some (true, "Some".toList ++ '(' :: rest) := rfl
  rw [node, bind_of_some (tryKeyword_other (by decide) (by decide) (by decide) hrest),
    if_neg Bool.false_ne_true,
    bind_of_some (tryKeyword_other (by decide) (by decide) (by decide) hrest),
    if_neg Bool.false_ne_true,
    bind_of_some (tryKeyword_other (by decide) (by decide) (by decide) hrest),
    if_neg Bool.false_ne_true, bind_of_some hsees,
    bind_of_some (tryIdentifier_name (by decide) hrest)]
  simp only
  rw [bind_of_some (tryBracket_open rest)]
  rfl

/-- What a free name begins depends on what follows. -/
theorem node_free (hfree : isFreeName name = true) (hrest : Marked rest) {found : Bool}
    {left : List Char} (hbracket : tryBracket rest = some (found, left)) :
    node opens content element (name.toList ++ rest)
      = if found then (if opens then afterBracket (some name) element else failure : Scan Ron) left
        else some (.identifier name, left) := by
  have hname := isName_of_free hfree
  have hsees : sees "Some".toList (name.toList ++ rest)
      = some ("Some".toList.isPrefixOf (name.toList ++ rest), name.toList ++ rest) := rfl
  have hsome : (name == "Some") = false := beq_eq_false_iff_ne.2 (ne_of_free hfree (by decide))
  rw [node,
    bind_of_some (tryKeyword_other (by decide) hname (ne_of_free hfree (by decide)) hrest),
    if_neg Bool.false_ne_true,
    bind_of_some (tryKeyword_other (by decide) hname (ne_of_free hfree (by decide)) hrest),
    if_neg Bool.false_ne_true,
    bind_of_some (tryKeyword_other (by decide) hname (ne_of_free hfree (by decide)) hrest),
    if_neg Bool.false_ne_true, bind_of_some hsees, bind_of_some (tryIdentifier_name hname hrest)]
  simp only
  rw [bind_of_some hbracket, hsome, Bool.and_false, if_neg Bool.false_ne_true]
  cases found <;> rfl

/-- A value without a name is read by its first character. -/
theorem node_opening {c : Char} (hc : c ∈ openings) (rest : List Char) :
    node opens content element (c :: rest) = (do
      if ← tryTake ['('] then if opens then afterBracket none element else failure
      else if ← tryTake ['['] then
        if opens then return .list (← parts element ']') else failure
      else if ← tryTake ['\x7b'] then
        if opens then return .map (← parts (entry element) '\x7d') else failure
      else scalar : Scan Ron) (c :: rest) := by
  have hsees : sees "Some".toList (c :: rest)
      = some ("Some".toList.isPrefixOf (c :: rest), c :: rest) := rfl
  rw [node, bind_of_some (tryKeyword_opening (by decide) hc), if_neg Bool.false_ne_true,
    bind_of_some (tryKeyword_opening (by decide) hc), if_neg Bool.false_ne_true,
    bind_of_some (tryKeyword_opening (by decide) hc), if_neg Bool.false_ne_true,
    bind_of_some hsees, bind_of_some (tryIdentifier_opening hc rest)]

theorem node_quote {s : String} (rest : List Char) :
    node opens content element (Quoted.write s ++ rest) = some (.string s, rest) := by
  have htext : Quoted.write s ++ rest = '"' :: (s.toList.flatMap Quoted.escape ++ '"' :: rest) := by
    simp [Quoted.write]
  rw [htext, node_opening (by decide), bind_of_some (tryTake_ne (by simp)),
    if_neg Bool.false_ne_true, bind_of_some (tryTake_ne (by simp)), if_neg Bool.false_ne_true,
    bind_of_some (tryTake_ne (by simp)), if_neg Bool.false_ne_true]
  simp [scalar, ofRead, Quoted.read?_write]

theorem node_list {items : List Ron} {body rest : List Char}
    (h : parts element ']' body = some (items, rest)) :
    node true content element ('[' :: body) = some (.list items, rest) := by
  rw [node_opening (by decide), bind_of_some (tryTake_ne (by simp)), if_neg Bool.false_ne_true,
    bind_of_some (tryTake_cons '[' body), if_pos rfl, if_pos rfl, bind_of_some h]
  rfl

theorem node_map {entries : List (Ron × Ron)} {body rest : List Char}
    (h : parts (entry element) '\x7d' body = some (entries, rest)) :
    node true content element ('\x7b' :: body) = some (.map entries, rest) := by
  rw [node_opening (by decide), bind_of_some (tryTake_ne (by simp)), if_neg Bool.false_ne_true,
    bind_of_some (tryTake_ne (by simp)), if_neg Bool.false_ne_true,
    bind_of_some (tryTake_cons '\x7b' body), if_pos rfl, if_pos rfl, bind_of_some h]
  rfl

/-- A bracket may have a name before it. -/
theorem node_bracket {name : Option String} (hfree : ∀ s ∈ name, isFreeName s = true)
    {v : Ron} {body rest : List Char} (h : afterBracket name element body = some (v, rest)) :
    node true content element (nameChars name ++ '(' :: body) = some (v, rest) := by
  cases name with
  | none =>
    rw [nameChars, List.nil_append, node_opening (by decide), bind_of_some (tryTake_cons '(' body),
      if_pos rfl, if_pos rfl, h]
  | some name =>
    rw [nameChars, node_free (hfree name rfl) (marked_cons (by decide)) (tryBracket_open body),
      if_pos rfl, if_pos rfl, h]

end

theorem solid_value {n : Nat} {v : Ron} (h : Legible n v) (depth : Nat) :
    Solid (printAt depth v) := by
  have hopening : ∀ c ∈ openings, isBlank c = false ∧ c ∉ '/' :: '#' :: closings :=
    List.all_iff_forall_prop.1 (by decide)
  have hname : ∀ name : String, isFreeName name = true → Solid name.toList := by
    intro name hfree
    simpa using solid_name (isName_of_free hfree) []
  cases h with
  | bool b => cases b <;> exact solid_cons (by decide) _
  | string s => exact solid_cons (hopening '"' (by decide)) _
  | absent => exact solid_cons (by decide) _
  | present => exact solid_cons (by decide) _
  | identifier free => exact hname _ free
  | list =>
    rw [printAt_list, block_eq_cons]
    exact solid_cons (hopening '[' (by decide)) _
  | map =>
    rw [printAt_map, block_eq_cons]
    exact solid_cons (hopening '\x7b' (by decide)) _
  | @tuple _ name items free =>
    rw [← List.append_nil (printAt depth _), printAt_tuple]
    cases name with
    | none => exact solid_cons (hopening '(' (by decide)) _
    | some name => exact solid_name (isName_of_free (free name rfl)) _
  | @record _ name _ free =>
    rw [printAt_record]
    cases name with
    | none =>
      rw [nameChars, List.nil_append, block_eq_cons]
      exact solid_cons (hopening '(' (by decide)) _
    | some name => exact solid_name (isName_of_free (free name rfl)) _

/-- However many levels are left, a node is read; with more than one, what is present is read with
one level less. -/
theorem value_succ (n : Nat) : ∃ element, value (n + 1) = node true (value n) element := by
  cases n with
  | zero => exact ⟨failure, rfl⟩
  | succ n => exact ⟨value n, rfl⟩

theorem exists_node (n : Nat) : ∃ opens content element, value n = node opens content element := by
  rcases n with _ | _ | n
  · exact ⟨false, failure, failure, rfl⟩
  · exact ⟨true, value 0, failure, rfl⟩
  · exact ⟨true, value (n + 1), value n, rfl⟩

/-- A legible value is read as it is printed, at any depth. -/
theorem reads_value {n : Nat} {v : Ron} (h : Legible n v) (depth : Nat) :
    Reads (value n) (printAt depth) v := by
  refine ⟨solid_value h depth, ?_⟩
  induction h generalizing depth with
  | @bool n b =>
    intro rest hrest
    obtain ⟨opens, content, element, hnode⟩ := exists_node n
    rw [hnode]
    cases b with
    | false => exact node_false hrest.marked
    | true => exact node_true hrest.marked
  | @string n s =>
    intro rest _
    obtain ⟨opens, content, element, hnode⟩ := exists_node n
    rw [hnode]
    exact node_quote rest
  | @absent n =>
    intro rest hrest
    obtain ⟨opens, content, element, hnode⟩ := exists_node n
    rw [hnode]
    exact node_none hrest.marked
  | @present n v content ih =>
    intro rest hrest
    obtain ⟨element, hnode⟩ := value_succ n
    have hcontent : Reads (value n) (printAt depth) v := ⟨solid_value content depth, ih depth⟩
    rw [printAt_present, hnode, node_some]
    exact presentAfterBracket_value hcontent rest
  | @identifier n name free =>
    intro rest hrest
    obtain ⟨opens, content, element, hnode⟩ := exists_node n
    have htext : printAt depth (.identifier name) = name.toList := rfl
    rw [hnode, htext, node_free free hrest.marked (tryBracket_closed hrest),
      if_neg Bool.false_ne_true]
  | @list n items hparts ih =>
    intro rest _
    have hreads : ∀ v ∈ items, Reads (value n) (printAt (depth + 1)) v := fun v hv =>
      ⟨solid_value (hparts v hv) _, ih v hv (depth + 1)⟩
    rw [printAt_list, block_eq_cons]
    exact node_list (parts_block _ (by decide) depth rest items hreads)
  | @map n entries hkeys hparts ihkeys ih =>
    intro rest _
    have hreads : ∀ e ∈ entries, Reads (entry (value n)) (printEntry (depth + 1)) e :=
      fun e he => reads_entry ⟨solid_value (hkeys e he) _, ihkeys e he (depth + 1)⟩
        ⟨solid_value (hparts e he) _, ih e he (depth + 1)⟩
    rw [printAt_map, block_eq_cons]
    exact node_map (parts_block _ (by decide) depth rest entries hreads)
  | @tuple n name items free hparts ih =>
    intro rest _
    have hreads : ∀ v ∈ items, Reads (value n) (printAt depth) v := fun v hv =>
      ⟨solid_value (hparts v hv) _, ih v hv depth⟩
    have hbody := afterBracket_tuple name depth hparts hreads rest
    rw [printAt_tuple]
    exact node_bracket free hbody
  | @record n name fields free hsome hnames hparts ih =>
    intro rest _
    have hreads : ∀ f ∈ fields, Reads (value n) (printAt (depth + 1)) f.2 := fun f hf =>
      ⟨solid_value (hparts f hf) _, ih f hf (depth + 1)⟩
    have hbody := afterBracket_record name depth hsome hnames hreads rest
    rw [printAt_record, block_eq_cons, List.append_assoc]
    exact node_bracket free hbody

/-! ## Documents -/

theorem extensions_value {text : List Char} (h : Solid text) (fuel : Nat) :
    extensions {} (fuel + 1) text = some ({}, text) := by
  have hdense : Dense text := by simpa using h.dense []
  have hsees : sees ['#'] text = some (false, text) := by
    obtain ⟨c, hc, -, hmarks⟩ := h
    obtain ⟨tail, rfl⟩ := List.head?_eq_some_iff.1 hc
    have hne : '#' ≠ c := by rintro rfl; simp at hmarks
    simp [sees, List.isPrefixOf, hne]
  rw [extensions, bind_of_some (blanks_dense hdense), bind_of_some hsees]
  rfl

/-- What is printed for a legible value is a document with this value, which asks for nothing. -/
theorem parse?_print {v : Ron} (h : Legible levels v) : parse? v.print = some ({}, v) := by
  have hsolid := solid_value h 0
  have hclosed : Closed [] := by simp [Closed]
  have hread := (reads_value h 0).2 [] hclosed
  rw [List.append_nil] at hread
  have hdocument : document (printAt 0 v) = some (({}, v), []) := by
    have hget : (get : Scan (List Char)) (printAt 0 v) = some (printAt 0 v, printAt 0 v) := rfl
    rw [document, bind_of_some hget, bind_of_some (extensions_value hsolid _),
      bind_of_some hread, bind_of_some (blanks_dense hclosed.marked.dense)]
    rfl
  rw [parse?, print, String.toList_ofList, hdocument]

end Adventure.Ron
