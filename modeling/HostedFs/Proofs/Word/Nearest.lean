import HostedFs.Word

/-! # The nearest word

    A word is carried over to another type as the value that is nearest to it. That is the
    word itself where the other type has it, and else the limit that it is beyond. So the
    order of words is kept, and a word comes back as it was if and only if the other type
    has it.

    * `Word.Represents`, `represents_iff`: the integers that a type of words has.
    * `Word.Nearest`, `nearest_iff`: the value of a type that is nearest to an integer.
    * `fit_nearest`: words of one type in another.
-/

namespace HostedFs

/-! ## Clamped integers -/

namespace IntKind

variable {k : IntKind} {m n : Int}

theorem clamp_of_lt_min (h : n < k.min) : k.clamp n = k.min := by
  have hzero := k.min_le_zero
  have hout : ¬ k.Contains n := fun hn => Int.not_le.mpr h hn.1
  rw [clamp, if_neg hout, if_pos (by omega)]

theorem clamp_of_max_lt (h : k.max < n) : k.clamp n = k.max := by
  have hzero := k.zero_le_max
  have hout : ¬ k.Contains n := fun hn => Int.not_le.mpr h hn.2
  rw [clamp, if_neg hout, if_neg (by omega)]

/-- The integer itself, or the limit that it is beyond. -/
theorem clamp_eq (k : IntKind) (n : Int) :
    k.clamp n = if n < k.min then k.min else if k.max < n then k.max else n := by
  split
  next hlow => exact clamp_of_lt_min hlow
  next hlow =>
    split
    next hhigh => exact clamp_of_max_lt hhigh
    next hhigh => exact clamp_of_contains ⟨Int.not_lt.mp hlow, Int.not_lt.mp hhigh⟩

theorem clamp_mono (k : IntKind) (h : m ≤ n) : k.clamp m ≤ k.clamp n := by
  rw [clamp_eq_max_min, clamp_eq_max_min]
  omega

/-- A limit that an integer is beyond lies between the integer and zero. So each kind that
    has the integer has its neighbour in another kind. -/
theorem contains_clamp_of_contains {k' : IntKind} (h : k.Contains n) : k.Contains (k'.clamp n) := by
  have hmin := k.min_le_zero
  have hmax := k.zero_le_max
  have hmin' := k'.min_le_zero
  have hmax' := k'.zero_le_max
  obtain ⟨hlow, hhigh⟩ := h
  rw [clamp_eq_max_min]
  simp only [Contains]
  omega

/-- The kind has no gaps, so one of its integers is nearer than all others. -/
theorem eq_clamp_iff (hm : k.Contains m) :
    m = k.clamp n ↔ ∀ other, k.Contains other → (m - n).natAbs ≤ (other - n).natAbs := by
  obtain ⟨hlow, hhigh⟩ := hm
  rw [clamp_eq_max_min]
  constructor
  · intro h other hother
    obtain ⟨hlow', hhigh'⟩ := hother
    omega
  · intro h
    have hnear := h (k.clamp n) (k.contains_clamp n)
    rw [clamp_eq_max_min] at hnear
    omega

end IntKind

/-! ## Words -/

namespace Word

variable {α β : Type} [Word α] [Word β] {n : Int}

/-- A type of words has a value for the integer. -/
def Represents (β : Type) [Word β] (n : Int) : Prop :=
  ∃ b : β, toInt b = n

theorem represents_iff : Represents β n ↔ (kind β).Contains n := by
  constructor
  · rintro ⟨b, rfl⟩
    exact contains_toInt b
  · intro h
    exact ⟨ofInt n, toInt_ofInt n h⟩

theorem toInt_inj {a a' : α} : toInt a = toInt a' ↔ a = a' := by
  constructor
  · intro h
    rw [← ofInt_toInt a, h, ofInt_toInt]
  · rintro rfl
    rfl

/-- No value of the type is nearer to the integer. -/
def Nearest (b : β) (n : Int) : Prop :=
  ∀ other : β, (toInt b - n).natAbs ≤ (toInt other - n).natAbs

/-- There is one nearest value. -/
theorem nearest_iff {b : β} : Nearest b n ↔ toInt b = (kind β).clamp n := by
  rw [IntKind.eq_clamp_iff (contains_toInt b)]
  constructor
  · intro h other hother
    obtain ⟨b', rfl⟩ := represents_iff.mpr hother
    exact h b'
  · intro h b'
    exact h (toInt b') (contains_toInt b')

end Word

open Word (Nearest Represents)

section Fit

variable {α β : Type} [Word α] [Word β] {a : α}

theorem represents_iff_toInt_fit :
    Represents β (Word.toInt a) ↔ Word.toInt (fit a : β) = Word.toInt a := by
  constructor
  · intro h
    exact toInt_fit_of_contains (Word.represents_iff.mp h)
  · intro h
    exact ⟨fit a, h⟩

/-- On the way back nothing is clamped. -/
theorem toInt_fit_fit (a : α) : Word.toInt (fit (fit a : β) : α) = Word.toInt (fit a : β) := by
  apply toInt_fit_of_contains
  rw [toInt_fit]
  exact IntKind.contains_clamp_of_contains (Word.contains_toInt a)

/-- So a word comes back as it was if and only if it was not clamped on the way there. -/
theorem fit_fit_iff : (fit (fit a : β) : α) = a ↔ Represents β (Word.toInt a) := by
  rw [represents_iff_toInt_fit, ← toInt_fit_fit a, Word.toInt_inj]

end Fit

/-- Words of one type in another.

    `fit` carries a word over to the one value of the other type that is `Nearest` to it: the word
    itself, unless it is beyond a limit of that type, and then the limit. Of two words the lesser
    one never becomes the greater. A word that is carried over and back is the same again if and
    only if the other type `Represents` it. -/
theorem fit_nearest {α β : Type} [Word α] [Word β] (a : α) :
    (∀ b : β, Nearest b (Word.toInt a) ↔ b = fit a) ∧
    (Represents β (Word.toInt a) ↔ Word.toInt (fit a : β) = Word.toInt a) ∧
    Word.toInt (fit a : β) =
      (if Word.toInt a < (Word.kind β).min then (Word.kind β).min
      else if (Word.kind β).max < Word.toInt a then (Word.kind β).max
      else Word.toInt a) ∧
    (∀ a' : α, Word.toInt a ≤ Word.toInt a' →
      Word.toInt (fit a : β) ≤ Word.toInt (fit a' : β)) ∧
    ((fit (fit a : β) : α) = a ↔ Represents β (Word.toInt a)) := by
  refine ⟨?_, represents_iff_toInt_fit, ?_, ?_, fit_fit_iff⟩
  · intro b
    rw [Word.nearest_iff, ← toInt_fit, Word.toInt_inj]
  · rw [toInt_fit, IntKind.clamp_eq]
  · intro a' h
    rw [toInt_fit, toInt_fit]
    exact (Word.kind β).clamp_mono h

/-- The greatest word of 32 bits is beyond the limit of a signed one of 16 bits, as is the
    one before it, and it does not come back. -/
theorem fit_nearest_beyond :
    (fit (4294967295 : UInt32) : Int16) = 32767 ∧
      Word.toInt (fit (4294967294 : UInt32) : Int16) ≤
        Word.toInt (fit (4294967295 : UInt32) : Int16) ∧
      ¬ Represents Int16 (Word.toInt (4294967295 : UInt32)) := by
  have hback : (fit (fit (4294967295 : UInt32) : Int16) : UInt32) ≠ 4294967295 := by decide
  have hbefore := (fit_nearest (β := Int16) (4294967294 : UInt32)).2.2.2.1
  have hrest := (fit_nearest (β := Int16) (4294967295 : UInt32)).2.2.2.2
  exact ⟨by decide, hbefore 4294967295 (by decide), mt hrest.mpr hback⟩

/-- A negative distance of addresses is carried over to the address zero, however wide
    addresses are. -/
example {a : ISize} (h : a.toInt < 0) : (fit a : USize) = 0 := by
  apply Word.toInt_inj.mp
  rw [toInt_fit]
  exact IntKind.clamp_of_lt_min (k := Word.kind USize) h

end HostedFs
