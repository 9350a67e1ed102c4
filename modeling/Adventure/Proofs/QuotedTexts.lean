import Adventure.Ron.Quoted

/-!
# Quoted texts are read back

What `write` puts between quotes, `read?` takes for the same text again, whatever the text is and
whatever follows it (`read?_write`). Each character is written by itself, so it is enough that
`scan` gives back one character (`scan_escape`). The only ones it takes several steps for are
those written by number: their digits are taken one after the other, from the highest on
(`scan_hexDigits`).
-/

namespace Adventure.Ron.Quoted

/-! ## Characters by number -/

theorem hexValue?_digitChar : ∀ d < 16, hexValue? (Nat.digitChar d) = some d := by decide

theorem digitChar_ne_close : ∀ d < 16, Nat.digitChar d ≠ '\x7d' := by decide

theorem scan_digit (stop : Char) {value count d : Nat} (rest : List Char) (hd : d < 16)
    (hcount : count ≠ 6) :
    scan stop (.code value count) (Nat.digitChar d :: rest)
      = scan stop (.code (16 * value + d) (count + 1)) rest := by
  rw [scan, if_neg (digitChar_ne_close d hd), if_neg hcount, hexValue?_digitChar d hd]

/-- The digits of a number lead to the number. -/
theorem scan_hexDigits (stop : Char) (n : Nat) (rest : List Char) (h : (hexDigits n).length ≤ 6) :
    scan stop (.code 0 0) (hexDigits n ++ rest)
      = scan stop (.code n (hexDigits n).length) rest := by
  induction n using Nat.strongRecOn generalizing rest with
  | ind n ih =>
    unfold hexDigits at h ih ⊢
    by_cases hn : n < 16
    · have hone := @scan_digit stop 0 0 n rest hn (by decide)
      simpa [Nat.toDigits_of_lt_base hn] using hone
    · rw [Nat.toDigits_of_base_le (by omega) (by omega)] at h ⊢
      rw [List.length_append, List.length_singleton] at h ⊢
      rw [List.append_assoc, ih (n / 16) (by omega) _ (by omega), List.singleton_append,
        scan_digit stop rest (by omega) (by omega)]
      congr 2
      omega

theorem length_hexDigits_le (c : Char) : (hexDigits c.toNat).length ≤ 6 := by
  have hvalid : c.toNat.isValidChar := c.valid
  rw [hexDigits, Nat.length_toDigits_le_iff (by omega) (by omega)]
  simp only [Nat.isValidChar] at hvalid
  omega

theorem ofCode?_toNat (c : Char) : ofCode? c.toNat = some c := by
  have hvalid : c.toNat.isValidChar := c.valid
  rw [ofCode?, dif_pos hvalid]
  rfl

theorem scan_numbered (c : Char) (rest : List Char) :
    scan '"' .plain (numbered c ++ rest) = before (.char c) (scan '"' .plain rest) := by
  have hlength : (hexDigits c.toNat).length ≠ 0 := by simp [hexDigits]
  have hopen : scan '"' .plain (numbered c ++ rest)
      = scan '"' (.code 0 0) (hexDigits c.toNat ++ '\x7d' :: rest) := by
    simp [numbered, scan]
  rw [hopen, scan_hexDigits _ _ _ (length_hexDigits_le c), scan, if_pos rfl, if_neg hlength,
    ofCode?_toNat]

/-! ## Texts -/

/-- What is written for a character is read as this character. -/
theorem scan_escape (c : Char) (rest : List Char) :
    scan '"' .plain (escape c ++ rest) = before (.char c) (scan '"' .plain rest) := by
  by_cases hzero : c = '\x00'
  · subst hzero; simp [escape, scan, simpleEscape?]
  by_cases htab : c = '\t'
  · subst htab; simp [escape, scan, simpleEscape?]
  by_cases hreturn : c = '\r'
  · subst hreturn; simp [escape, scan, simpleEscape?]
  by_cases hline : c = '\n'
  · subst hline; simp [escape, scan, simpleEscape?]
  by_cases hsingle : c = '\''
  · subst hsingle; simp [escape, scan, simpleEscape?]
  by_cases hdouble : c = '"'
  · subst hdouble; simp [escape, scan, simpleEscape?]
  by_cases hslash : c = '\\'
  · subst hslash; simp [escape, scan, simpleEscape?]
  unfold escape
  simp only [hzero, htab, hreturn, hline, hsingle, hdouble, hslash, if_false]
  split
  · exact scan_numbered c rest
  · rw [List.singleton_append, scan, if_neg hdouble, if_neg hslash]

theorem scan_flatMap_escape (cs rest : List Char) :
    scan '"' .plain (cs.flatMap escape ++ '"' :: rest) = some (cs.map .char, rest) := by
  induction cs with
  | nil => simp [scan]
  | cons c cs ih =>
    rw [List.flatMap_cons, List.append_assoc, scan_escape, ih]
    rfl

theorem assemble_map_char (cs : List Char) : assemble [] (cs.map .char) = some cs := by
  induction cs with
  | nil => rfl
  | cons c cs ih => simp [assemble, ih]

/-- A text that has been written is read as it was. -/
theorem read?_write (s : String) (rest : List Char) :
    read? (s.toList.flatMap escape ++ '"' :: rest) = some (s, rest) := by
  simp [read?, scan_flatMap_escape, assemble_map_char]

end Adventure.Ron.Quoted
