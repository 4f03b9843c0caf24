import HostedFs.Data.Json
import HostedFs.Proofs.Options.Numerals

/-! # Integers and strings of JSON

    An integer of any size is read as the one that was written, and so is a string,
    whatever its characters are. What stands behind them is left.

    * `digits_toDigits`: decimal digits write the number that they were made of.
    * `Closed`: what may stand behind a value in a compact text.
    * `number?_toString`: an integer that was written.
    * `ofUnits?_unitsOf_append`: a character from its code units.
    * `stringBody?_escaped`: a string that was written.
-/

namespace HostedFs.Json

open Options.Numeral (Digits IsDigit magnitude? magnitude?_eq_some_iff)

/-! ## Decimal digits -/

/-- The digits of a number write it. -/
theorem digits_toDigits (n : Nat) : Digits 10 (Nat.toDigits 10 n) n := by
  induction n using Nat.strongRecOn with
  | ind n ih =>
    rw [Nat.toDigits_eq_if (by decide)]
    split
    next hsmall => exact .one ⟨hsmall, .inl rfl⟩
    next hlarge =>
      have hlast : IsDigit 10 (n % 10).digitChar (n % 10) := ⟨Nat.mod_lt n (by decide), .inl rfl⟩
      have hdigits := Digits.more (ih (n / 10) (by omega)) hlast
      rwa [Nat.div_add_mod' n 10] at hdigits

/-- What digits begin with. -/
theorem toDigits_head (n : Nat) : ∃ c cs, Nat.toDigits 10 n = c :: cs ∧ c.isDigit := by
  obtain ⟨c, cs, hcs⟩ := List.exists_cons_of_ne_nil (Nat.toDigits_ne_nil (n := n) (b := 10))
  have hc : c ∈ Nat.toDigits 10 n := by simp [hcs]
  exact ⟨c, cs, hcs, Nat.isDigit_of_mem_toDigits (by decide) (by decide) hc⟩

/-- No other number than zero begins with a zero. -/
theorem eq_zero_of_head?_toDigits {n : Nat} (h : (Nat.toDigits 10 n).head? = some '0') : n = 0 := by
  induction n using Nat.strongRecOn with
  | ind n ih =>
    rw [Nat.toDigits_eq_if (by decide)] at h
    split at h
    next hsmall =>
      have hzero : ∀ d < 10, Nat.digitChar d = '0' → d = 0 := by decide
      exact hzero n hsmall (Option.some.inj h)
    next hlarge =>
      obtain ⟨c, cs, hcs, -⟩ := toDigits_head (n / 10)
      rw [hcs] at h
      have hfront : n / 10 = 0 := ih (n / 10) (by omega) (hcs ▸ h)
      omega

/-- Behind a zero stand no other digits. -/
theorem toDigits_ne_zero_cons (n : Nat) (c : Char) (cs : List Char) :
    Nat.toDigits 10 n ≠ '0' :: c :: cs := by
  intro h
  obtain rfl : n = 0 := eq_zero_of_head?_toDigits (by rw [h]; rfl)
  cases h

/-! ## Integers -/

/-- What stands behind a value in a compact text: nothing, or a mark that ends it. -/
def Closed (rest : List Char) : Prop :=
  ∀ c ∈ rest.head?, c = ',' ∨ c = ']' ∨ c = '\x7d'

theorem Closed.nil : Closed [] := by
  intro c hc
  cases hc

theorem Closed.cons {c : Char} (h : c = ',' ∨ c = ']' ∨ c = '\x7d') (rest : List Char) :
    Closed (c :: rest) := by
  intro d hd
  obtain rfl := Option.some.inj hd
  exact h

/-- None of the marks belongs to a number. -/
theorem Closed.not_number {rest : List Char} (h : Closed rest) :
    takeDigits rest = ([], rest) ∧ afterFraction? rest = some (false, rest) ∧
      afterExponent? rest = some (false, rest) := by
  cases rest with
  | nil => exact ⟨rfl, rfl, rfl⟩
  | cons c rest =>
    obtain rfl | rfl | rfl := h c rfl
    all_goals exact ⟨rfl, rfl, rfl⟩

theorem takeDigits_append {digits rest : List Char} (h : ∀ c ∈ digits, c.isDigit)
    (hrest : takeDigits rest = ([], rest)) : takeDigits (digits ++ rest) = (digits, rest) := by
  obtain ⟨htake, hdrop⟩ := Prod.mk.inj hrest
  rw [takeDigits, List.takeWhile_append_of_pos h, List.dropWhile_append_of_pos h, htake, hdrop,
    List.append_nil]

theorem integerPart?_toDigits (n : Nat) {rest : List Char} (h : takeDigits rest = ([], rest)) :
    integerPart? (Nat.toDigits 10 n ++ rest) = some (n, rest) := by
  have hdigit : ∀ c ∈ Nat.toDigits 10 n, c.isDigit :=
    fun c hc => Nat.isDigit_of_mem_toDigits (by decide) (by decide) hc
  have hnumber : magnitude? 10 (Nat.toDigits 10 n) = some n :=
    (magnitude?_eq_some_iff (by decide)).mpr (digits_toDigits n)
  rw [integerPart?, takeDigits_append hdigit h]
  split
  next heq => exact absurd (Prod.mk.inj heq).1 Nat.toDigits_ne_nil
  next heq => exact absurd (Prod.mk.inj heq).1 (toDigits_ne_zero_cons n _ _)
  next heq =>
    cases heq
    rw [hnumber]
    rfl

section Numbers

variable {cs rest : List Char} {n : Nat}

/-- An integer without a sign. -/
theorem number?_unsigned (hsign : ∀ cs', cs ≠ '-' :: cs')
    (hdigits : integerPart? cs = some (n, rest)) (h : Closed rest) :
    number? cs = some (.int n, rest) := by
  obtain ⟨-, hfraction, hexponent⟩ := h.not_number
  simp [number?, hdigits, hfraction, hexponent]

/-- One below zero. -/
theorem number?_minus (hdigits : integerPart? cs = some (n, rest)) (hn : n ≠ 0) (h : Closed rest) :
    number? ('-' :: cs) = some (.int (-n), rest) := by
  obtain ⟨-, hfraction, hexponent⟩ := h.not_number
  simp [number?, hdigits, hfraction, hexponent, hn]

end Numbers

theorem toList_toString (n : Int) :
    (toString n).toList =
      if 0 ≤ n then Nat.toDigits 10 n.toNat else '-' :: Nat.toDigits 10 (-n).toNat := by
  rw [Int.toString_eq_repr, Int.repr_eq_if]
  split
  · exact Nat.toList_repr
  · rw [String.toList_append, Nat.toList_repr]
    rfl

/-- What an integer that was written begins with. -/
theorem toString_head (n : Int) :
    ∃ c cs, (toString n).toList = c :: cs ∧ (c = '-' ∨ c.isDigit) := by
  rw [toList_toString]
  split
  · obtain ⟨c, cs, hcs, hc⟩ := toDigits_head n.toNat
    exact ⟨c, cs, hcs, .inr hc⟩
  · exact ⟨'-', _, rfl, .inl rfl⟩

/-- An integer is read as it was written, however large it is. -/
theorem number?_toString (n : Int) {rest : List Char} (h : Closed rest) :
    number? ((toString n).toList ++ rest) = some (.int n, rest) := by
  have hdigits (m : Nat) : integerPart? (Nat.toDigits 10 m ++ rest) = some (m, rest) :=
    integerPart?_toDigits m h.not_number.1
  rw [toList_toString]
  split
  next hpos =>
    have hsign : ∀ cs', Nat.toDigits 10 n.toNat ++ rest ≠ '-' :: cs' := by
      intro cs' heq
      obtain ⟨c, cs, hcs, hc⟩ := toDigits_head n.toNat
      rw [hcs, List.cons_append] at heq
      obtain rfl := (List.cons.inj heq).1
      cases hc
    have hself : (n.toNat : Int) = n := Int.toNat_of_nonneg hpos
    rw [number?_unsigned hsign (hdigits _) h, hself]
  next hneg =>
    have hself : -((-n).toNat : Int) = n := by omega
    rw [List.cons_append, number?_minus (hdigits _) (by omega) h, hself]

/-! ## Characters -/

/-- A character is no half of a surrogate pair. -/
theorem not_surrogate (c : Char) :
    isHighSurrogate c.toNat = false ∧ isLowSurrogate c.toNat = false := by
  have hvalid : c.toNat < 0xD800 ∨ 0xDFFF < c.toNat ∧ c.toNat < 0x110000 := c.valid
  simp only [isHighSurrogate, isLowSurrogate, Bool.and_eq_false_iff, decide_eq_false_iff_not]
  omega

/-- The code units of a character are read as the character. -/
theorem ofUnits?_unitsOf_append (c : Char) (units : List Nat) :
    ofUnits? (unitsOf c ++ units) = (ofUnits? units).map (c :: ·) := by
  obtain ⟨hhigh, hlow⟩ := not_surrogate c
  unfold unitsOf
  split
  next hsmall =>
    cases units with
    | nil => simp [ofUnits?, hhigh, hlow]
    | cons unit units => simp [ofUnits?, hhigh, hlow]
  next hlarge =>
    have hvalid : c.toNat < 0xD800 ∨ 0xDFFF < c.toNat ∧ c.toNat < 0x110000 := c.valid
    -- Beyond the first plane the two halves add up to the character again.
    have hpair : 0x10000 + (0xD800 + (c.toNat - 0x10000) / 0x400 - 0xD800) * 0x400 +
        (0xDC00 + (c.toNat - 0x10000) % 0x400 - 0xDC00) = c.toNat := by omega
    have hfirst : isHighSurrogate (0xD800 + (c.toNat - 0x10000) / 0x400) := by
      simp [isHighSurrogate]
      omega
    have hsecond : isLowSurrogate (0xDC00 + (c.toNat - 0x10000) % 0x400) := by
      simp [isLowSurrogate]
      omega
    rw [List.cons_append, List.cons_append, List.nil_append, ofUnits?, if_pos hfirst,
      if_pos hsecond, hpair, Char.ofNat_toNat]

theorem ofUnits?_flatMap (cs : List Char) : ofUnits? (cs.flatMap unitsOf) = some cs := by
  induction cs with
  | nil => rfl
  | cons c cs ih =>
    rw [List.flatMap_cons, ofUnits?_unitsOf_append, ih]
    rfl

/-! ## Strings -/

section Parts

variable {c x y z w : Char} {unit : Nat}

/-- A short escape stands for one code unit. -/
theorem stringBody?_short (hunit : shortEscape? c = some unit) (hc : c ≠ 'u') (rest : List Char) :
    stringBody? ('\\' :: c :: rest) = (stringBody? rest).map fun p => (unit :: p.1, p.2) := by
  cases h : stringBody? rest with
  | none => simp [stringBody?, hunit, hc, h]
  | some p => simp [stringBody?, hunit, hc, h]

/-- So do four digits. -/
theorem stringBody?_code (hunit : hex4? x y z w = some unit) (rest : List Char) :
    stringBody? ('\\' :: 'u' :: x :: y :: z :: w :: rest) =
      (stringBody? rest).map fun p => (unit :: p.1, p.2) := by
  cases h : stringBody? rest with
  | none => simp [stringBody?, hunit, h]
  | some p => simp [stringBody?, hunit, h]

/-- Any other character stands for itself. -/
theorem stringBody?_plain (hquote : c ≠ '"') (hbackslash : c ≠ '\\') (hplain : ¬ c.toNat < 0x20)
    (rest : List Char) :
    stringBody? (c :: rest) = (stringBody? rest).map fun p => (unitsOf c ++ p.1, p.2) := by
  cases h : stringBody? rest with
  | none => simp [stringBody?, hbackslash, hplain, h]
  | some p => simp [stringBody?, hbackslash, hplain, h]

end Parts

/-- The four digits of a control character. -/
def controlDigits (n : Nat) : List Char :=
  (if n < 0x10 then ['0', '0', '0'] else ['0', '0']) ++ Nat.toDigits 16 n

theorem controlDigits_eq {n : Nat} (h : n < 0x20) :
    ∃ x y z w, controlDigits n = [x, y, z, w] ∧ hex4? x y z w = some n := by
  have hall : ∀ n < 0x20, (controlDigits n).length = 4 ∧
      magnitude? 16 (controlDigits n) = some n := by decide
  obtain ⟨hlength, hnumber⟩ := hall n h
  generalize controlDigits n = digits at hlength hnumber ⊢
  match digits, hlength with
  | [x, y, z, w], _ => exact ⟨x, y, z, w, rfl, hnumber⟩

/-- The letter of a one-letter escape stands for the character that is written with it. -/
theorem shortEscape?_of_shortLetter? {c letter : Char} (h : shortLetter? c = some letter) :
    shortEscape? letter = some c.toNat ∧ letter ≠ 'u' ∧ unitsOf c = [c.toNat] := by
  unfold shortLetter? at h
  split at h
  all_goals first | (cases h; decide) | cases h

/-- A character without such an escape is one of the control characters, or it is written
    as itself. -/
theorem toList_escapeChar {c : Char} (h : shortLetter? c = none) :
    (escapeChar c).toList =
      if c.toNat < 0x20 then '\\' :: 'u' :: controlDigits c.toNat else [c] := by
  rw [escapeChar, h]
  dsimp only
  split
  next =>
    rw [String.toList_append, String.toList_append, String.toList_ofList, controlDigits]
    split
    next => simp
    next => simp
  next => simp

/-- A character is read as it was written. -/
theorem stringBody?_escapeChar (c : Char) (rest : List Char) :
    stringBody? ((escapeChar c).toList ++ rest) =
      (stringBody? rest).map fun p => (unitsOf c ++ p.1, p.2) := by
  cases hletter : shortLetter? c with
  | some letter =>
    obtain ⟨hunit, hne, hunits⟩ := shortEscape?_of_shortLetter? hletter
    have htext : (escapeChar c).toList = ['\\', letter] := by
      rw [escapeChar, hletter]
      exact String.toList_ofList
    rw [htext, hunits]
    exact stringBody?_short hunit hne rest
  | none =>
    -- A quote and a backslash have short escapes, so this is neither.
    have hquote : c ≠ '"' := by
      rintro rfl
      cases hletter
    have hbackslash : c ≠ '\\' := by
      rintro rfl
      cases hletter
    rw [toList_escapeChar hletter]
    split
    next hcontrol =>
      obtain ⟨x, y, z, w, hdigits, hunit⟩ := controlDigits_eq hcontrol
      have hunits : unitsOf c = [c.toNat] := if_pos (by omega)
      rw [hdigits, hunits]
      exact stringBody?_code hunit rest
    next hplain => exact stringBody?_plain hquote hbackslash hplain rest

/-- A string is read as it was written, up to its closing quote. -/
theorem stringBody?_escaped (cs rest : List Char) :
    stringBody? (cs.flatMap (fun c => (escapeChar c).toList) ++ '"' :: rest) =
      some (cs.flatMap unitsOf, rest) := by
  induction cs with
  | nil => rfl
  | cons c cs ih =>
    rw [List.flatMap_cons, List.append_assoc, stringBody?_escapeChar, ih]
    rfl

theorem toList_quote (s : String) :
    (quote s).toList = '"' :: (s.toList.flatMap fun c => (escapeChar c).toList) ++ ['"'] := by
  simp [quote, String.toList_join, List.flatMap_map]

/-- What is read behind the opening quote of a string are the units of its text. -/
theorem quote_append (s : String) (rest : List Char) :
    ∃ cs, (quote s).toList ++ rest = '"' :: cs ∧
      stringBody? cs = some (s.toList.flatMap unitsOf, rest) := by
  refine ⟨_, ?_, stringBody?_escaped s.toList rest⟩
  simp [toList_quote]

/-- The text of these units is the string. -/
theorem ofUnits?_toList (s : String) :
    (ofUnits? (s.toList.flatMap unitsOf)).map String.ofList = some s := by
  rw [ofUnits?_flatMap, Option.map_some, String.ofList_toList]

end HostedFs.Json
