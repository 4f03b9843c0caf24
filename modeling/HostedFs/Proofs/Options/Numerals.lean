import HostedFs.Options.Numeral
import Mathlib.Algebra.Group.Nat.Defs
import Mathlib.Data.List.Induction

/-! # The grammar of numerals

    A numeral is an optional sign, for some verbs a mark of the base, and one or more
    digits. What it stands for can be said without reading it.

    * `IsDigit`, `Digits`, `Unsigned`, `Spells`: the numerals of a verb, and the numbers
      that they stand for.
    * `magnitude?_eq_some_iff`, `read?_eq_some_iff`: they are read, and nothing else is.
    * `readWithin?`, `readWithin?_eq_some_iff`: they are read with integers of a bounded
      size, and no step overflows unless the number itself is too large.
-/

namespace HostedFs.Options.Numeral

/-! ## Grammar -/

/-- The character is a digit of the base, of either case. -/
def IsDigit (base : Nat) (c : Char) (d : Nat) : Prop :=
  d < base ∧ (c = Nat.digitChar d ∨ c = (Nat.digitChar d).toUpper)

/-- One or more digits, the last of which counts one. -/
inductive Digits (base : Nat) : List Char → Nat → Prop
  | one {c : Char} {d : Nat} (digit : IsDigit base c d) : Digits base [c] d
  | more {cs : List Char} {c : Char} {n d : Nat} (front : Digits base cs n)
      (digit : IsDigit base c d) : Digits base (cs ++ [c]) (n * base + d)

/-- The marks of a hexadecimal numeral. -/
inductive Mark : List Char → Prop
  | lower : Mark ['0', 'x']
  | upper : Mark ['0', 'X']

/-- A numeral without a sign. -/
inductive Unsigned : Verb → List Char → Nat → Prop
  /-- What is a text elsewhere is decimal here. -/
  | decimal {verb : Verb} {cs : List Char} {n : Nat} (plain : verb = .decimal ∨ verb = .text)
      (digits : Digits 10 cs n) : Unsigned verb cs n
  | octal {cs : List Char} {n : Nat} (digits : Digits 8 cs n) : Unsigned .octal cs n
  | hexadecimal {cs : List Char} {n : Nat} (digits : Digits 16 cs n) : Unsigned .hexadecimal cs n
  | marked {verb : Verb} {mark cs : List Char} {n : Nat}
      (allowed : verb = .hexadecimal ∨ verb = .automatic) (hex : Mark mark)
      (digits : Digits 16 cs n) : Unsigned verb (mark ++ cs) n
  /-- A zero before other digits tells that these are octal. -/
  | zeroLed {cs : List Char} {n : Nat} (digits : Digits 8 cs n) : Unsigned .automatic ('0' :: cs) n
  /-- Without one, or as a zero alone, it is decimal. -/
  | unmarked {cs : List Char} {n : Nat} (digits : Digits 10 cs n)
      (single : ∀ c rest, cs ≠ '0' :: c :: rest) : Unsigned .automatic cs n

/-- A numeral with one sign, or none. -/
inductive Spells (verb : Verb) : List Char → Int → Prop
  | unsigned {cs : List Char} {n : Nat} (h : Unsigned verb cs n) : Spells verb cs n
  | plus {cs : List Char} {n : Nat} (h : Unsigned verb cs n) : Spells verb ('+' :: cs) n
  | minus {cs : List Char} {n : Nat} (h : Unsigned verb cs n) : Spells verb ('-' :: cs) (-n)

/-! ## Digits -/

theorem char_le_iff {a b : Char} : a ≤ b ↔ a.toNat ≤ b.toNat := by
  rw [Char.le_def, UInt32.le_iff_toNat_le]
  rfl

/-- A character is known by its distance to one before it. -/
theorem eq_ofNat_add {a c : Char} (h : a ≤ c) :
    c = Char.ofNat (a.toNat + (c.toNat - a.toNat)) := by
  rw [Nat.add_sub_cancel' (char_le_iff.mp h), Char.ofNat_toNat]

/-- What is read as a digit is one. -/
theorem isDigit_of_digit? {base : Nat} (hbase : base ≤ 16) {c : Char} {d : Nat}
    (h : digit? base c = some d) : IsDigit base c d := by
  -- Both tables of digits are small enough to be compared as a whole.
  have hdecimal : ∀ k < 10, Char.ofNat ('0'.toNat + k) = Nat.digitChar k := by decide
  have hlower : ∀ k < 6, Char.ofNat ('a'.toNat + k) = Nat.digitChar (k + 10) := by decide
  have hupper : ∀ k < 6, Char.ofNat ('A'.toNat + k) = (Nat.digitChar (k + 10)).toUpper := by decide
  obtain ⟨hvalue, hless⟩ := Option.filter_eq_some_iff.mp h
  have hless : d < base := of_decide_eq_true hless
  refine ⟨hless, ?_⟩
  split at hvalue
  next hc =>
    obtain rfl := Option.some.inj hvalue
    have hlast : c.toNat ≤ 57 := char_le_iff.mp hc.2
    have hsmall : c.toNat - '0'.toNat < 10 := by
      show c.toNat - 48 < 10
      omega
    exact .inl ((eq_ofNat_add hc.1).trans (hdecimal _ hsmall))
  next =>
    split at hvalue
    next hc =>
      obtain rfl := Option.some.inj hvalue
      exact .inl ((eq_ofNat_add hc.1).trans (hlower _ (by omega)))
    next =>
      split at hvalue
      next hc =>
        obtain rfl := Option.some.inj hvalue
        exact .inr ((eq_ofNat_add hc.1).trans (hupper _ (by omega)))
      next => cases hvalue

/-- A digit is read. -/
theorem digit?_of_isDigit {base : Nat} (hbase : base ≤ 16) {c : Char} {d : Nat}
    (h : IsDigit base c d) : digit? base c = some d := by
  obtain ⟨hless, hc⟩ := h
  have hall : ∀ k < 16, digit? 16 (Nat.digitChar k) = some k ∧
      digit? 16 (Nat.digitChar k).toUpper = some k := by decide
  have hwide : digit? 16 c = some d := by
    rcases hc with rfl | rfl
    · exact (hall d (by omega)).1
    · exact (hall d (by omega)).2
  obtain ⟨hvalue, -⟩ := Option.filter_eq_some_iff.mp hwide
  exact Option.filter_eq_some_iff.mpr ⟨hvalue, decide_eq_true hless⟩

theorem digit?_eq_some_iff {base : Nat} (hbase : base ≤ 16) {c : Char} {d : Nat} :
    digit? base c = some d ↔ IsDigit base c d :=
  ⟨isDigit_of_digit? hbase, digit?_of_isDigit hbase⟩

theorem magnitude?_singleton (base : Nat) (c : Char) : magnitude? base [c] = digit? base c := by
  unfold magnitude?
  cases h : digit? base c with
  | none => simp [h]
  | some d => simp [h, ofDigits]

/-- One more digit. -/
theorem magnitude?_concat (base : Nat) {cs : List Char} (h : cs ≠ []) (c : Char) :
    magnitude? base (cs ++ [c]) =
      (magnitude? base cs).bind fun n => (digit? base c).map fun d => n * base + d := by
  obtain ⟨first, rest, rfl⟩ := List.exists_cons_of_ne_nil h
  show (((first :: rest) ++ [c]).mapM (digit? base)).map (ofDigits base) =
    (((first :: rest).mapM (digit? base)).map (ofDigits base)).bind _
  rw [List.mapM_append]
  cases (first :: rest).mapM (digit? base) with
  | none => rfl
  | some ds =>
    cases hc : digit? base c with
    | none => simp [hc]
    | some d => simp [hc, ofDigits]

/-- Digits are read as the number that they write. -/
theorem magnitude?_eq_some_iff {base : Nat} (hbase : base ≤ 16) {cs : List Char} {n : Nat} :
    magnitude? base cs = some n ↔ Digits base cs n := by
  constructor
  · intro h
    -- Digits count from the last one, so the induction takes them off at the end.
    induction cs using List.reverseRecOn generalizing n with
    | nil => cases h
    | append_singleton cs c ih =>
      by_cases hcs : cs = []
      · rw [hcs, List.nil_append, magnitude?_singleton] at h
        rw [hcs]
        exact .one ((digit?_eq_some_iff hbase).mp h)
      · rw [magnitude?_concat base hcs] at h
        obtain ⟨m, hm, h⟩ := Option.bind_eq_some_iff.mp h
        obtain ⟨d, hd, rfl⟩ := Option.map_eq_some_iff.mp h
        exact .more (ih hm) ((digit?_eq_some_iff hbase).mp hd)
  · intro h
    induction h with
    | one digit =>
      rw [magnitude?_singleton]
      exact (digit?_eq_some_iff hbase).mpr digit
    | @more cs c n d front digit ih =>
      have hcs : cs ≠ [] := by
        rintro rfl
        cases ih
      rw [magnitude?_concat base hcs, ih, (digit?_eq_some_iff hbase).mpr digit]
      rfl

theorem Digits.ne_nil {base : Nat} {cs : List Char} {n : Nat} (h : Digits base cs n) :
    cs ≠ [] := by
  cases h with
  | one => simp
  | more => simp

/-- What is no digit does not occur among digits. -/
theorem Digits.not_mem {base : Nat} (hbase : base ≤ 16) {cs : List Char} {n : Nat}
    (h : Digits base cs n) {c : Char} (hc : digit? 16 c = none) : c ∉ cs := by
  have hdigit {c' : Char} {d : Nat} (digit : IsDigit base c' d) : c ≠ c' := by
    rintro rfl
    have hwide : IsDigit 16 c d := ⟨Nat.lt_of_lt_of_le digit.1 hbase, digit.2⟩
    cases hc.symm.trans (digit?_of_isDigit (Nat.le_refl 16) hwide)
  induction h with
  | one digit => exact fun hmem => hdigit digit (List.mem_singleton.mp hmem)
  | more front digit ih =>
    intro hmem
    rcases List.mem_append.mp hmem with hmem | hmem
    · exact ih hmem
    · exact hdigit digit (List.mem_singleton.mp hmem)

/-! ## Bases -/

theorem Mark.not_digits {mark rest : List Char} (hex : Mark mark) {base : Nat} (hbase : base ≤ 16)
    {n : Nat} : ¬ Digits base (mark ++ rest) n := by
  intro h
  cases hex with
  | lower => exact h.not_mem hbase (c := 'x') (by decide) (by simp)
  | upper => exact h.not_mem hbase (c := 'X') (by decide) (by simp)

theorem afterHexMark?_append {mark : List Char} (hex : Mark mark) (rest : List Char) :
    afterHexMark? (mark ++ rest) = some rest := by
  cases hex with
  | lower => rfl
  | upper => rfl

theorem afterHexMark?_eq_some_iff {cs rest : List Char} :
    afterHexMark? cs = some rest ↔ ∃ mark, Mark mark ∧ cs = mark ++ rest := by
  constructor
  · intro h
    unfold afterHexMark? at h
    split at h
    next =>
      cases h
      exact ⟨_, .lower, rfl⟩
    next =>
      cases h
      exact ⟨_, .upper, rfl⟩
    next => cases h
  · rintro ⟨mark, hex, rfl⟩
    exact afterHexMark?_append hex rest

namespace Unsigned

variable {verb : Verb} {cs rest : List Char} {n : Nat}

theorem decimal_iff (plain : verb = .decimal ∨ verb = .text) :
    Unsigned verb cs n ↔ Digits 10 cs n := by
  constructor
  · intro h
    cases h with
    | decimal _ digits => exact digits
    | marked allowed =>
      rcases plain with rfl | rfl
      · simp at allowed
      · simp at allowed
    | octal | hexadecimal | zeroLed | unmarked => simp at plain
  · exact .decimal plain

theorem octal_iff : Unsigned .octal cs n ↔ Digits 8 cs n := by
  constructor
  · intro h
    cases h with
    | decimal plain => simp at plain
    | octal digits => exact digits
    | marked allowed => simp at allowed
  · exact .octal

/-- After a mark there are hexadecimal digits. -/
theorem marked_iff (allowed : verb = .hexadecimal ∨ verb = .automatic) {mark : List Char}
    (hex : Mark mark) : Unsigned verb (mark ++ rest) n ↔ Digits 16 rest n := by
  constructor
  · intro h
    -- A mark begins with `0x` or `0X`, and `x` is no digit in any base: no other rule applies.
    generalize hcs : mark ++ rest = cs at h
    cases h with
    | decimal plain =>
      rcases plain with rfl | rfl
      · simp at allowed
      · simp at allowed
    | octal => simp at allowed
    | hexadecimal digits => exact absurd (hcs ▸ digits) (hex.not_digits (Nat.le_refl 16))
    | @marked _ mark' rest' _ _ hex' digits =>
      have hrest : some rest = some rest' := by
        rw [← afterHexMark?_append hex, hcs, afterHexMark?_append hex']
      cases hrest
      exact digits
    | zeroLed digits =>
      cases hex with
      | lower =>
        cases hcs
        exact absurd List.mem_cons_self (digits.not_mem (by decide) (by decide))
      | upper =>
        cases hcs
        exact absurd List.mem_cons_self (digits.not_mem (by decide) (by decide))
    | unmarked digits => exact absurd (hcs ▸ digits) (hex.not_digits (by decide))
  · exact .marked allowed hex

/-- Without one all of them are digits. -/
theorem hexadecimal_iff (unmarked : afterHexMark? cs = none) :
    Unsigned .hexadecimal cs n ↔ Digits 16 cs n := by
  constructor
  · intro h
    cases h with
    | decimal plain => simp at plain
    | hexadecimal digits => exact digits
    | marked _ hex =>
      rw [afterHexMark?_append hex] at unmarked
      cases unmarked
  · exact .hexadecimal

theorem zeroLed_iff {c : Char} (unmarked : afterHexMark? ('0' :: c :: rest) = none) :
    Unsigned .automatic ('0' :: c :: rest) n ↔ Digits 8 (c :: rest) n := by
  constructor
  · intro h
    generalize hcs : '0' :: c :: rest = cs at h unmarked
    cases h with
    | decimal plain => simp at plain
    | marked _ hex =>
      rw [afterHexMark?_append hex] at unmarked
      cases unmarked
    | zeroLed digits =>
      cases hcs
      exact digits
    | unmarked digits single => exact absurd hcs.symm (single c rest)
  · exact .zeroLed

theorem unmarked_iff (single : ∀ c rest, cs ≠ '0' :: c :: rest) :
    Unsigned .automatic cs n ↔ Digits 10 cs n := by
  constructor
  · intro h
    cases h with
    | decimal plain => simp at plain
    | marked _ hex =>
      cases hex with
      | lower => exact absurd rfl (single _ _)
      | upper => exact absurd rfl (single _ _)
    | @zeroLed cs _ digits =>
      cases cs with
      | nil => exact absurd rfl digits.ne_nil
      | cons c rest => exact absurd rfl (single c rest)
    | unmarked digits => exact digits
  · exact fun digits => .unmarked digits single

end Unsigned

/-- There are three bases. -/
theorem radix_cases (verb : Verb) (cs : List Char) :
    (split verb cs).1 = 8 ∨ (split verb cs).1 = 10 ∨ (split verb cs).1 = 16 := by
  cases verb with
  | decimal | text | octal | hexadecimal => simp [split]
  | automatic =>
    unfold split
    dsimp only
    split
    next => exact .inr (.inr rfl)
    next => exact .inl rfl
    next => exact .inr (.inl rfl)

theorem radix_le (verb : Verb) (cs : List Char) : (split verb cs).1 ≤ 16 := by
  have hcases := radix_cases verb cs
  omega

theorem radix_pos (verb : Verb) (cs : List Char) : 0 < (split verb cs).1 := by
  have hcases := radix_cases verb cs
  omega

/-- Digits of the base that a numeral is split by are all that it spells. -/
theorem digits_split_iff {verb : Verb} {cs : List Char} {n : Nat} :
    Digits (split verb cs).1 (split verb cs).2 n ↔ Unsigned verb cs n := by
  cases verb with
  -- `split` takes off what marks the base, if the verb allows a mark.
  | decimal => exact (Unsigned.decimal_iff (.inl rfl)).symm
  | text => exact (Unsigned.decimal_iff (.inr rfl)).symm
  | octal => exact Unsigned.octal_iff.symm
  | hexadecimal =>
    cases hmark : afterHexMark? cs with
    | some rest =>
      obtain ⟨mark, hex, rfl⟩ := afterHexMark?_eq_some_iff.mp hmark
      have hsplit : split .hexadecimal (mark ++ rest) = (16, rest) := by simp [split, hmark]
      rw [hsplit, Unsigned.marked_iff (.inl rfl) hex]
    | none =>
      have hsplit : split .hexadecimal cs = (16, cs) := by simp [split, hmark]
      rw [hsplit, Unsigned.hexadecimal_iff hmark]
  | automatic =>
    cases hmark : afterHexMark? cs with
    | some rest =>
      obtain ⟨mark, hex, rfl⟩ := afterHexMark?_eq_some_iff.mp hmark
      have hsplit : split .automatic (mark ++ rest) = (16, rest) := by simp [split, hmark]
      rw [hsplit, Unsigned.marked_iff (.inr rfl) hex]
    | none =>
      -- A zero with more behind it marks an octal numeral, and is no digit of it.
      by_cases hzero : ∃ c rest, cs = '0' :: c :: rest
      · obtain ⟨c, rest, rfl⟩ := hzero
        have hsplit : split .automatic ('0' :: c :: rest) = (8, c :: rest) := by
          simp [split, hmark]
        rw [hsplit, Unsigned.zeroLed_iff hmark]
      · have hsingle : ∀ c rest, cs ≠ '0' :: c :: rest := fun c rest h => hzero ⟨c, rest, h⟩
        have hsplit : split .automatic cs = (10, cs) := by simp [split, hmark]
        rw [hsplit, Unsigned.unmarked_iff hsingle]

/-! ## Signs -/

/-- A numeral without a sign has none anywhere. -/
theorem Unsigned.not_mem {verb : Verb} {cs : List Char} {n : Nat} (h : Unsigned verb cs n)
    {c : Char} (sign : c = '+' ∨ c = '-') : c ∉ cs := by
  -- A sign is no digit, not even a hexadecimal one, and no part of a mark.
  have hc : digit? 16 c = none := by
    rcases sign with rfl | rfl
    · decide
    · decide
  have hfront : c ≠ '0' ∧ c ≠ 'x' ∧ c ≠ 'X' := by
    rcases sign with rfl | rfl
    · decide
    · decide
  cases h with
  | decimal _ digits => exact digits.not_mem (by decide) hc
  | octal digits => exact digits.not_mem (by decide) hc
  | hexadecimal digits => exact digits.not_mem (by decide) hc
  | marked _ hex digits =>
    have hrest := digits.not_mem (by decide) hc
    cases hex with
    | lower => simp [hfront, hrest]
    | upper => simp [hfront, hrest]
  | zeroLed digits =>
    have hrest := digits.not_mem (by decide) hc
    simp [hfront, hrest]
  | unmarked digits => exact digits.not_mem (by decide) hc

/-- What a text without a sign spells it spells as it is. -/
theorem takeSign_of_unsigned {cs : List Char} (minus : ∀ rest, cs ≠ '-' :: rest)
    (plus : ∀ rest, cs ≠ '+' :: rest) : takeSign cs = (false, cs) := by
  unfold takeSign
  split
  next rest => exact absurd rfl (minus rest)
  next rest => exact absurd rfl (plus rest)
  next => rfl

/-- The number of a magnitude and a sign. -/
def signed (negative : Bool) (m : Nat) : Int :=
  if negative then -(m : Int) else m

/-- The sign is taken off, and it counts once. -/
theorem spells_iff {verb : Verb} {cs : List Char} {n : Int} :
    Spells verb cs n ↔
      ∃ m, Unsigned verb (takeSign cs).2 m ∧ signed (takeSign cs).1 m = n := by
  constructor
  · intro h
    cases h with
    | @unsigned _ m h =>
      -- Digits do not begin with a sign, so none is taken off.
      have hnone : takeSign cs = (false, cs) := by
        refine takeSign_of_unsigned (fun rest hcs => ?_) fun rest hcs => ?_
        · exact h.not_mem (.inr rfl) (hcs ▸ List.mem_cons_self)
        · exact h.not_mem (.inl rfl) (hcs ▸ List.mem_cons_self)
      rw [hnone]
      exact ⟨m, h, rfl⟩
    | plus h => exact ⟨_, h, rfl⟩
    | minus h => exact ⟨_, h, rfl⟩
  · rintro ⟨m, h, rfl⟩
    by_cases hminus : ∃ rest, cs = '-' :: rest
    · obtain ⟨rest, rfl⟩ := hminus
      exact .minus h
    · by_cases hplus : ∃ rest, cs = '+' :: rest
      · obtain ⟨rest, rfl⟩ := hplus
        exact .plus h
      · have hnone := takeSign_of_unsigned (not_exists.mp hminus) (not_exists.mp hplus)
        rw [hnone] at h ⊢
        exact .unsigned h

/-- A numeral is read by parts. -/
theorem read?_eq (verb : Verb) (cs : List Char) :
    read? verb cs = (magnitude? (split verb (takeSign cs).2).1 (split verb (takeSign cs).2).2).map
      (signed (takeSign cs).1) := by
  unfold read?
  generalize takeSign cs = signs
  obtain ⟨negative, unsigned⟩ := signs
  generalize hparts : split verb unsigned = parts
  obtain ⟨radix, digits⟩ := parts
  dsimp only
  rw [hparts]
  cases magnitude? radix digits with
  | none => rfl
  | some m => rfl

/-- It is read as the number that it spells, and nothing else is read. -/
theorem read?_eq_some_iff {verb : Verb} {cs : List Char} {n : Int} :
    read? verb cs = some n ↔ Spells verb cs n := by
  rw [read?_eq, spells_iff, Option.map_eq_some_iff]
  simp only [magnitude?_eq_some_iff (radix_le verb _), digits_split_iff]

/-- A text spells one number at most. -/
theorem Spells.unique {verb : Verb} {cs : List Char} {m n : Int} (hm : Spells verb cs m)
    (hn : Spells verb cs n) : m = n :=
  Option.some.inj ((read?_eq_some_iff.mpr hm).symm.trans (read?_eq_some_iff.mpr hn))

/-- It is read if its magnitude is less than a power of two. -/
theorem readBounded?_eq_some_iff {verb : Verb} {cs : List Char} {n : Int} :
    readBounded? verb cs = some n ↔ Spells verb cs n ∧ n.natAbs < 2 ^ 127 := by
  have hlargest : n.natAbs ≤ largest ↔ n.natAbs < 2 ^ 127 := by
    rw [largest, Nat.shiftLeft_eq, Nat.one_mul]
    omega
  rw [readBounded?, Option.filter_eq_some_iff, read?_eq_some_iff, decide_eq_true_iff, hlargest]

/-! ## Bounded arithmetic -/

/-- The number is an integer of two's complement with that many non-negative ones. -/
def Within (limit : Nat) (n : Int) : Prop :=
  -limit ≤ n ∧ n < limit

instance (limit : Nat) (n : Int) : Decidable (Within limit n) :=
  inferInstanceAs (Decidable (_ ∧ _))

/-- The number, unless it overflows. -/
def within? (limit : Nat) (n : Int) : Option Int :=
  if Within limit n then some n else none

/-- Takes in one more digit, by a product and a sum. -/
def shiftWithin? (limit radix : Nat) (n : Int) (d : Nat) : Option Int :=
  (within? limit (n * radix)).bind fun product => within? limit (product + d)

/-- The number that one or more digits stand for, unless a step overflows. -/
def magnitudeWithin? (limit radix : Nat) : List Char → Option Int
  | [] => none
  | cs => (cs.mapM (digit? radix)).bind fun ds => ds.foldlM (shiftWithin? limit radix) 0

/-- The integer that a signed numeral stands for, unless a step overflows. -/
def readWithin? (limit : Nat) (verb : Verb) (cs : List Char) : Option Int := do
  let (negative, unsigned) := takeSign cs
  let (radix, digits) := split verb unsigned
  let m ← magnitudeWithin? limit radix digits
  if negative then within? limit (-m) else return m

variable {limit : Nat}

/-- A magnitude overflows on one side only. -/
theorem within?_natCast (n : Nat) :
    within? limit n = if n < limit then some (n : Int) else none := by
  have hwithin : Within limit n ↔ n < limit := by
    unfold Within
    omega
  simp only [within?, hwithin]

theorem shiftWithin?_natCast (radix n d : Nat) :
    shiftWithin? limit radix n d = within? limit (n * radix + d : Nat) := by
  unfold shiftWithin?
  rw [← Int.natCast_mul, within?_natCast]
  by_cases h : n * radix < limit
  · rw [if_pos h, Option.bind_some, Int.natCast_add]
  · have hsum : ¬ n * radix + d < limit := by omega
    rw [if_neg h, Option.bind_none, within?_natCast, if_neg hsum]

/-- A number does not shrink while digits are taken in. -/
theorem le_foldl {radix : Nat} (hradix : 0 < radix) (ds : List Nat) (n : Nat) :
    n ≤ ds.foldl (fun n d => n * radix + d) n := by
  induction ds generalizing n with
  | nil => exact Nat.le_refl n
  | cons d ds ih =>
    have hproduct : n ≤ n * radix := Nat.le_mul_of_pos_right n hradix
    have hrest := ih (n * radix + d)
    rw [List.foldl_cons]
    omega

/-- So a step overflows just if the number at the end is too large. -/
theorem foldlM_shiftWithin? {radix : Nat} (hradix : 0 < radix) (ds : List Nat) {n : Nat}
    (hn : n < limit) :
    ds.foldlM (shiftWithin? limit radix) n =
      within? limit (ds.foldl (fun n d => n * radix + d) n : Nat) := by
  induction ds generalizing n with
  | nil =>
    rw [within?_natCast, List.foldl_nil, if_pos hn]
    rfl
  | cons d ds ih =>
    rw [List.foldlM_cons, shiftWithin?_natCast, within?_natCast]
    by_cases hnext : n * radix + d < limit
    · rw [if_pos hnext, List.foldl_cons]
      exact ih hnext
    · have hrest := le_foldl hradix ds (n * radix + d)
      have hend : ¬ (d :: ds).foldl (fun n d => n * radix + d) n < limit := by
        rw [List.foldl_cons]
        omega
      rw [if_neg hnext, within?_natCast, if_neg hend]
      rfl

theorem magnitudeWithin?_eq {radix : Nat} (hradix : 0 < radix) (hlimit : 0 < limit)
    (cs : List Char) :
    magnitudeWithin? limit radix cs = (magnitude? radix cs).bind fun m => within? limit m := by
  cases cs with
  | nil => rfl
  | cons c cs =>
    show ((c :: cs).mapM (digit? radix)).bind _ =
      (((c :: cs).mapM (digit? radix)).map (ofDigits radix)).bind _
    cases (c :: cs).mapM (digit? radix) with
    | none => rfl
    | some ds => exact foldlM_shiftWithin? hradix ds hlimit

/-- With integers of that size all numerals are read whose magnitude is one of them. -/
theorem readWithin?_eq (hlimit : 0 < limit) (verb : Verb) (cs : List Char) :
    readWithin? limit verb cs = (read? verb cs).filter fun n => n.natAbs < limit := by
  have hread : readWithin? limit verb cs =
      (magnitudeWithin? limit (split verb (takeSign cs).2).1 (split verb (takeSign cs).2).2).bind
        fun m => if (takeSign cs).1 then within? limit (-m) else some m := rfl
  -- Both read the same magnitude; the bounded one gives up if it reaches the limit.
  rw [hread, magnitudeWithin?_eq (radix_pos verb _) hlimit, read?_eq]
  cases magnitude? (split verb (takeSign cs).2).1 (split verb (takeSign cs).2).2 with
  | none => rfl
  | some m =>
    have habs : (signed (takeSign cs).1 m).natAbs = m := by
      unfold signed
      split
      · exact Int.natAbs_neg m
      · rfl
    rw [Option.bind_some, Option.map_some, within?_natCast, Option.filter_some, habs]
    by_cases hm : m < limit
    · have hneg : within? limit (-m) = some (-m : Int) := by
        rw [within?, if_pos]
        unfold Within
        omega
      rw [if_pos hm, Option.bind_some, hneg, decide_eq_true hm, if_pos rfl]
      cases (takeSign cs).1 with
      | true => rfl
      | false => rfl
    · rw [if_neg hm, Option.bind_none, decide_eq_false hm]
      rfl

/-- `readBounded?` needs no more than integers of 128 bits: it reads the same if a step that
    overflows them ends it. -/
theorem readWithin?_eq_readBounded? (verb : Verb) (cs : List Char) :
    readWithin? (2 ^ 127) verb cs = readBounded? verb cs := by
  have hlargest (n : Int) : decide (n.natAbs < 2 ^ 127) = decide (n.natAbs ≤ largest) := by
    rw [largest, Nat.shiftLeft_eq, Nat.one_mul]
    congr 1
    apply propext
    omega
  rw [readWithin?_eq (Nat.two_pow_pos 127), readBounded?]
  simp only [hlargest]

theorem readWithin?_eq_some_iff (hlimit : 0 < limit) {verb : Verb} {cs : List Char} {n : Int} :
    readWithin? limit verb cs = some n ↔ Spells verb cs n ∧ n.natAbs < limit := by
  rw [readWithin?_eq hlimit, Option.filter_eq_some_iff, read?_eq_some_iff, decide_eq_true_iff]

end HostedFs.Options.Numeral
