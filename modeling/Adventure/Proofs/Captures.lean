import Adventure.Command.Cache
import Adventure.Proofs.TemplateGrammar
import Mathlib.Data.List.Nodup

/-!
# Captures of a matched line

A pattern is well-formed if each of its templates has one marker for each object that the verb
names (`Pattern.Formed`), which is what reading a template checks. If a line matches, then the
template that took part is found by its first capture and none of its captures is missing, so
reading the captures never fails and yields the words that the template bound (`Pattern.read_eq`).
-/

namespace Adventure

namespace Template

/-! ## Markers -/

/-- The marker that a piece stands for. -/
def Piece.marker? : Piece → Option Marker
  | .slot m => some m
  | _ => none

/-- The markers of pieces in order. -/
def markers (pieces : List Piece) : List Marker := pieces.filterMap Piece.marker?

theorem mem_markers {m : Marker} {pieces : List Piece} : m ∈ markers pieces ↔ .slot m ∈ pieces := by
  have hmarker : ∀ piece : Piece, piece.marker? = some m ↔ piece = .slot m := by
    rintro (_ | _ | _) <;> simp [Piece.marker?]
  simp [markers, hmarker]

theorem count_markers (m : Marker) (pieces : List Piece) :
    (markers pieces).count m = pieces.count (.slot m) := by
  rw [markers, List.count_filterMap, List.count]
  refine List.countP_congr fun piece _ => ?_
  cases piece <;> simp [Piece.marker?]

/-- A template has each marker as often as a phrasing that names `arity` objects should. -/
def Fits (arity : Nat) (template : Template) : Prop :=
  ∀ m, (markers template.pieces).count m = expected arity m

/-- What is read as a template fits. -/
theorem fits_of_parse? {arity : Nat} {text : String} {template : Template}
    (h : parse? arity text = .ok template) : template.Fits arity := fun m => by
  rw [count_markers, (parse?_eq_ok_iff.1 h).count_slot]

/-- No marker occurs twice in a template that fits. -/
theorem Fits.nodup_markers {arity : Nat} {template : Template} (h : template.Fits arity) :
    (markers template.pieces).Nodup := by
  rw [List.nodup_iff_count_le_one]
  intro m
  rw [h m]
  cases m <;> simp only [expected] <;> split <;> omega

theorem Fits.captureIndex_lt {arity : Nat} {template : Template} (h : template.Fits arity)
    {m : Marker} (hm : m ∈ markers template.pieces) : Pattern.captureIndex m < arity := by
  have hpos : 0 < expected arity m := h m ▸ List.count_pos_iff.2 hm
  cases m <;> simp only [expected] at hpos <;> split at hpos
  all_goals first
    | assumption
    | exact absurd hpos (Nat.lt_irrefl 0)

/-! ## Bindings -/

/-- What is found is accepted for one of the beginnings that are tried. -/
theorem longestWord_eq_some {α : Type} {cs : List Char} {accept : List Char → List Char → Option α}
    {a : α} : ∀ {n : Nat}, longestWord cs accept n = some a →
      ∃ k < n, accept (cs.take (k + 1)) (cs.drop (k + 1)) = some a
  | 0, h => by cases h
  | n + 1, h => by
    unfold longestWord at h
    split at h
    · rename_i heq
      exact ⟨n, Nat.lt_succ_self n, heq.trans h⟩
    · obtain ⟨k, hk, haccept⟩ := longestWord_eq_some h
      exact ⟨k, Nat.lt_succ_of_lt hk, haccept⟩

/-- A match binds the markers of the template in their order. -/
theorem markers_of_matchPieces? :
    ∀ {pieces : List Piece} {cs : List Char} {bindings : Bindings},
      matchPieces? pieces cs = some bindings → bindings.map (·.1) = markers pieces
  | [], [], _, h => by
    obtain rfl := Option.some.inj h
    rfl
  | [], _ :: _, _, h => by cases h
  | .letter _ :: _, [], _, h => by cases h
  | .letter c :: pieces, x :: cs, bindings, h => by
    unfold matchPieces? at h
    split at h
    · exact @markers_of_matchPieces? pieces _ _ h
    · cases h
  | .group g :: pieces, cs, bindings, h => by
    unfold matchPieces? at h
    split at h
    · rename_i heq
      obtain rfl := Option.some.inj h
      split at heq
      · exact @markers_of_matchPieces? pieces _ _ heq
      · cases heq
    · exact @markers_of_matchPieces? pieces _ _ h
  | .slot m :: pieces, cs, bindings, h => by
    unfold matchPieces? at h
    obtain ⟨k, -, hword⟩ := longestWord_eq_some h
    obtain ⟨bindings', hbindings, rfl⟩ := Option.map_eq_some_iff.1 hword
    have ih := markers_of_matchPieces? hbindings
    rw [List.map_cons, ih]
    rfl

/-- A marker that should occur is bound by a match. -/
theorem lookup_isSome {arity : Nat} {template : Template} {line : List Char} {bindings : Bindings}
    (hfits : template.Fits arity) (h : template.match? line = some bindings) (m : Marker) :
    (bindings.lookup m).isSome = decide (0 < expected arity m) := by
  have hmarkers := markers_of_matchPieces? h
  have hcount : (bindings.map (·.1)).count m = expected arity m := hmarkers ▸ hfits m
  rw [← hcount, Bool.eq_iff_iff, List.lookup_isSome_iff, decide_eq_true_iff, List.count_pos_iff,
    List.mem_map]
  simp only [beq_iff_eq, @eq_comm _ m]

theorem captureName_inj {m n : Nat} : captureName m = captureName n ↔ m = n := by
  refine ⟨fun h => ?_, fun h => h ▸ rfl⟩
  have hchars := congrArg String.toList h
  simp only [captureName, String.toList_append, List.append_cancel_left_eq, Nat.toString_eq_repr,
    Nat.toList_repr] at hchars
  rw [← Nat.ofDigitChars_ten_toDigits (n := m), hchars, Nat.ofDigitChars_ten_toDigits]

end Template

namespace Pattern

open Template

/-! ## Captures -/

/-- What the captures hold that a match of the template at a given place has made. -/
def capturesOf (verb : Verb) (place : Nat) (bindings : Bindings) : List (String × String) :=
  bindings.map fun (m, word) => (captureName (base verb place + captureIndex m), String.ofList word)

theorem captureName_beq (m n : Nat) : (captureName m == captureName n) = decide (m = n) := by
  rw [Bool.eq_iff_iff, beq_iff_eq, decide_eq_true_iff, captureName_inj]

theorem lookup_capturesOf (verb : Verb) (place n : Nat) :
    ∀ bindings : Bindings, (capturesOf verb place bindings).lookup (captureName n) =
      if n = base verb place then (bindings.lookup .a).map String.ofList
      else if n = base verb place + 1 then (bindings.lookup .b).map String.ofList
      else none
  | [] => by simp [capturesOf]
  | (.a, word) :: rest => by
    have ih := lookup_capturesOf verb place n rest
    have hb : ((Marker.a, word) :: rest).lookup .b = rest.lookup .b := rfl
    change List.lookup _ ((captureName (base verb place), _) :: capturesOf verb place rest) = _
    rw [List.lookup_cons, captureName_beq, ih, hb]
    by_cases h : n = base verb place <;> simp [h]
  | (.b, word) :: rest => by
    have ih := lookup_capturesOf verb place n rest
    have ha : ((Marker.b, word) :: rest).lookup .a = rest.lookup .a := rfl
    change List.lookup _ ((captureName (base verb place + 1), _) :: capturesOf verb place rest) = _
    rw [List.lookup_cons, captureName_beq, ih, ha]
    by_cases h : n = base verb place + 1 <;> simp [h]

/-- A pattern of templates that fit its verb. -/
def Formed (pattern : Pattern) : Prop := ∀ t ∈ pattern.templates, t.Fits pattern.verb.arity

/-- Whether the first of the given captures took part. -/
def tookPart (captures : List (String × String)) (names : List String) : Bool :=
  names.head?.any fun group => (captures.lookup group).isSome

theorem head?_captureNames {arity : Nat} (h : 0 < arity) (n : Nat) :
    (captureNames arity n).head? = some (captureName n) := by
  obtain ⟨k, rfl⟩ := Nat.exists_eq_add_of_lt h
  simp [captureNames, List.head?_map, List.head?_range]

/-- The first of the templates, counted from `place`, that matches the line, and what it binds. -/
def firstMatch? (line : List Char) : Nat → List Template → Option (Nat × Bindings)
  | _, [] => none
  | place, template :: rest =>
    match template.match? line with
    | some bindings => some (place, bindings)
    | none => firstMatch? line (place + 1) rest

theorem firstMatch?_cons (line : List Char) (place : Nat) (template : Template)
    (rest : List Template) : firstMatch? line place (template :: rest)
      = ((template.match? line).map fun bindings => (place, bindings)).or
          (firstMatch? line (place + 1) rest) := by
  rw [firstMatch?]
  cases template.match? line <;> rfl

theorem capturesFrom?_eq (verb : Verb) (line : List Char) :
    ∀ (place : Nat) (templates : List Template), capturesFrom? verb line place templates
      = (firstMatch? line place templates).map fun m => capturesOf verb m.1 m.2
  | _, [] => rfl
  | place, template :: rest => by
    rw [capturesFrom?, firstMatch?, capturesFrom?_eq verb line (place + 1) rest]
    cases template.match? line <;> rfl

theorem matchFrom?_eq (verb : Verb) (line : List Char) :
    ∀ (place : Nat) (templates : List Template), matchFrom? verb line place templates
      = (firstMatch? line place templates).map fun m => parameters verb (base verb m.1) m.2
  | _, [] => rfl
  | place, template :: rest => by
    rw [matchFrom?, firstMatch?, matchFrom?_eq verb line (place + 1) rest]
    cases template.match? line <;> rfl

/-- Where a line matches one of the templates, the first capture that took part belongs to it. -/
theorem find?_groups {verb : Verb} {line : List Char} (harity : 0 < verb.arity) :
    ∀ {place k : Nat} {templates : List Template} {bindings : Bindings},
      (∀ t ∈ templates, t.Fits verb.arity) →
      firstMatch? line place templates = some (k, bindings) →
      place ≤ k ∧ (∀ m, (bindings.lookup m).isSome = decide (0 < expected verb.arity m)) ∧
        (templates.mapIdx fun i _ => captureNames verb.arity (base verb (place + i))).find?
          (tookPart (capturesOf verb k bindings)) = some (captureNames verb.arity (base verb k))
  | _, _, [], _, _, h => by cases h
  | place, k, template :: rest, bindings, hfits, h => by
    unfold firstMatch? at h
    rw [List.mapIdx_cons]
    split at h
    · rename_i hmatch
      obtain ⟨rfl, rfl⟩ := Prod.mk.inj (Option.some.inj h)
      have hbound := lookup_isSome (hfits template (by simp)) hmatch
      refine ⟨Nat.le_refl _, hbound, List.find?_cons_of_pos ?_⟩
      have ha : 0 < expected verb.arity .a := by
        rw [expected, if_pos (by omega)]
        exact Nat.one_pos
      simp [tookPart, head?_captureNames harity, lookup_capturesOf, hbound, ha]
    · have hrest : ∀ t ∈ rest, t.Fits verb.arity := fun t ht => hfits t (List.mem_cons_of_mem _ ht)
      obtain ⟨hk, hbound, hfind⟩ := find?_groups harity hrest h
      refine ⟨by omega, hbound, ?_⟩
      have hlt : base verb place < base verb k := Nat.mul_lt_mul_of_pos_right (by omega) harity
      rw [List.find?_cons_of_neg]
      · simpa only [Nat.add_assoc, Nat.add_comm 1] using hfind
      · have hne : base verb place ≠ base verb k := by omega
        have hne' : base verb place ≠ base verb k + 1 := by omega
        simp [tookPart, head?_captureNames harity, lookup_capturesOf, hne, hne']

/-- The captures of the template that took part make up its parameters. -/
theorem collect_eq (pattern : Pattern) (line : String) (k : Nat) {bindings : Bindings}
    (hbound : ∀ m, (bindings.lookup m).isSome = decide (0 < expected pattern.verb.arity m)) :
    pattern.collect line (capturesOf pattern.verb k bindings)
        (captureNames pattern.verb.arity (base pattern.verb k))
      = .ok (parameters pattern.verb (base pattern.verb k) bindings) := by
  have hle := pattern.verb.arity_le_two
  have ha := hbound .a
  have hb := hbound .b
  rw [parameters, captureNames]
  generalize pattern.verb.arity = arity at hle ha hb ⊢
  match arity, hle with
  | 0, _ => rfl
  | 1, _ =>
    obtain ⟨a, ha⟩ := Option.isSome_iff_exists.1 (ha.trans rfl)
    simp [List.range_succ, collect, lookup_capturesOf, ha, Except.map]
  | 2, _ =>
    obtain ⟨a, ha⟩ := Option.isSome_iff_exists.1 (ha.trans rfl)
    obtain ⟨b, hb⟩ := Option.isSome_iff_exists.1 (hb.trans rfl)
    simp [List.range_succ, collect, lookup_capturesOf, ha, hb, Except.map]

/-- Reading the captures of a well-formed pattern does not fail: it yields the parameters of the
first template that matches. -/
theorem read_eq {pattern : Pattern} (h : pattern.Formed) (line : String) :
    pattern.read line = .ok (pattern.match? line) := by
  rw [read, captures?, match?, capturesFrom?_eq, matchFrom?_eq]
  cases hmatch : firstMatch? line.toList 0 pattern.templates with
  | none => rfl
  | some m =>
    obtain ⟨k, bindings⟩ := m
    simp only [Option.map_some]
    by_cases harity : pattern.verb.arity = 0
    · simp [harity, parameters]
    · obtain ⟨-, hbound, hfind⟩ := find?_groups (by omega) h hmatch
      simp only [Nat.zero_add] at hfind
      unfold tookPart at hfind
      simp only [if_neg harity, groups, hfind]
      rw [collect_eq pattern line k hbound]
      rfl

end Pattern

end Adventure
