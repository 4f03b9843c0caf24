/-! # Fixed-width integers

    The integers of native records come in eight kinds: signed or unsigned,
    of 8, 16, 32 or 64 bits. Those of the size of an address are of one of
    these kinds, too. This module holds

    * `IntKind`: a kind with its limits, and `IntKind.clamp`, which moves an
      integer to the nearest one of the kind;
    * `IntKind.Bits`: the bit patterns of a kind, with their reading as
      integers and the wrapping way back;
    * `Word`: the types of core that carry such integers, and `fit`, the
      clamping conversion between any two of them.
-/

namespace HostedFs

/-! ## Kinds -/

/-- The widths that occur in native records. -/
inductive Width
  | w8
  | w16
  | w32
  | w64
  deriving DecidableEq, Repr

/-- The width in bits. -/
def Width.bits : Width → Nat
  | .w8 => 8
  | .w16 => 16
  | .w32 => 32
  | .w64 => 64

/-- Half the number of bit patterns of the width. -/
def Width.half : Width → Int
  | .w8 => 0x80
  | .w16 => 0x8000
  | .w32 => 0x80000000
  | .w64 => 0x8000000000000000

/-- The width of an address. -/
def Width.address : Width :=
  if USize.size = 0x100000000 then .w32 else .w64

theorem Width.two_mul_half_address : 2 * Width.address.half = USize.size := by
  unfold Width.address
  rcases USize.size_eq with h | h
  · rw [if_pos h, h]
    rfl
  · rw [if_neg (by omega), h]
    rfl

/-- A kind of fixed-width integer. -/
structure IntKind where
  signed : Bool
  width : Width
  deriving DecidableEq, Repr

namespace IntKind

/-- The width in bits. -/
abbrev bits (k : IntKind) : Nat :=
  k.width.bits

/-- The least integer of the kind. -/
def min (k : IntKind) : Int :=
  if k.signed then -k.width.half else 0

/-- The greatest integer of the kind. -/
def max (k : IntKind) : Int :=
  if k.signed then k.width.half - 1 else 2 * k.width.half - 1

/-- The kind of a name such as `u16`, where an address has 64 bits. -/
def ofName? (name : String) : Option IntKind :=
  [("i8", ⟨true, .w8⟩), ("i16", ⟨true, .w16⟩), ("i32", ⟨true, .w32⟩), ("i64", ⟨true, .w64⟩),
    ("isize", ⟨true, .w64⟩), ("u8", ⟨false, .w8⟩), ("u16", ⟨false, .w16⟩), ("u32", ⟨false, .w32⟩),
    ("u64", ⟨false, .w64⟩), ("usize", (⟨false, .w64⟩ : IntKind))].lookup name

/-- The integer can be written in the kind. -/
def Contains (k : IntKind) (n : Int) : Prop :=
  k.min ≤ n ∧ n ≤ k.max

instance (k : IntKind) (n : Int) : Decidable (k.Contains n) :=
  inferInstanceAs (Decidable (_ ∧ _))

/-- The integer itself when the kind has it, else the limit on its side of
    zero. Zero belongs to every kind, so that is the limit it violates. -/
def clamp (k : IntKind) (n : Int) : Int :=
  if k.Contains n then n else if n < 0 then k.min else k.max

theorem contains_unsigned (w : Width) (n : Int) :
    (⟨false, w⟩ : IntKind).Contains n ↔ 0 ≤ n ∧ n < 2 * w.half := by
  simp only [Contains, min, max, Bool.false_eq_true, ↓reduceIte]
  omega

theorem contains_signed (w : Width) (n : Int) :
    (⟨true, w⟩ : IntKind).Contains n ↔ -w.half ≤ n ∧ n < w.half := by
  simp only [Contains, min, max, ↓reduceIte]
  omega

theorem min_le_zero (k : IntKind) : k.min ≤ 0 := by
  obtain ⟨s, w⟩ := k
  cases s <;> cases w <;> decide

theorem zero_le_max (k : IntKind) : 0 ≤ k.max := by
  obtain ⟨s, w⟩ := k
  cases s <;> cases w <;> decide

theorem clamp_of_contains {k : IntKind} {n : Int} (h : k.Contains n) : k.clamp n = n := by
  simp [clamp, h]

theorem contains_clamp (k : IntKind) (n : Int) : k.Contains (k.clamp n) := by
  have := k.min_le_zero
  have := k.zero_le_max
  unfold clamp
  split
  · assumption
  · split <;> simp only [Contains] <;> omega

theorem clamp_eq_max_min (k : IntKind) (n : Int) : k.clamp n = Max.max k.min (Min.min n k.max) := by
  have := k.min_le_zero
  have := k.zero_le_max
  unfold clamp
  split
  next h =>
    obtain ⟨_, _⟩ := h
    omega
  next h =>
    simp only [Contains] at h
    split <;> omega

/-! ## Bit patterns -/

/-- The bit patterns of a kind. -/
abbrev Bits (k : IntKind) : Type :=
  BitVec k.bits

/-- The integer that a bit pattern stands for. -/
def toInt (k : IntKind) (b : k.Bits) : Int :=
  if k.signed then b.toInt else b.toNat

/-- The low bits of an integer in two's complement. -/
def ofInt (k : IntKind) (n : Int) : k.Bits :=
  BitVec.ofInt k.bits n

end IntKind

/-! ## Types of words -/

/-- A type whose values are the integers of one kind. -/
class Word (α : Type) where
  kind : IntKind
  toInt : α → Int
  ofInt : Int → α
  contains_toInt : ∀ a : α, kind.Contains (toInt a)
  toInt_ofInt : ∀ n : Int, kind.Contains n → toInt (ofInt n) = n
  ofInt_toInt : ∀ a : α, ofInt (toInt a) = a

/-- The value of one word type that is nearest to a value of another. -/
def fit {α β : Type} [Word α] [Word β] (a : α) : β :=
  Word.ofInt ((Word.kind β).clamp (Word.toInt a))

instance : Word UInt8 where
  kind := ⟨false, .w8⟩
  toInt a := a.toNat
  ofInt := UInt8.ofInt
  contains_toInt a := by
    have := a.toNat_lt
    exact (IntKind.contains_unsigned ..).2 (by simp only [Width.half]; omega)
  toInt_ofInt n h := by
    have ⟨_, _⟩ := (IntKind.contains_unsigned ..).1 h
    simp only [UInt8.ofInt, UInt8.toNat_ofNat', Width.half] at *
    omega
  ofInt_toInt a := by
    have := a.toNat_lt
    apply UInt8.toNat_inj.1
    simp only [UInt8.ofInt, UInt8.toNat_ofNat']
    omega

instance : Word UInt16 where
  kind := ⟨false, .w16⟩
  toInt a := a.toNat
  ofInt := UInt16.ofInt
  contains_toInt a := by
    have := a.toNat_lt
    exact (IntKind.contains_unsigned ..).2 (by simp only [Width.half]; omega)
  toInt_ofInt n h := by
    have ⟨_, _⟩ := (IntKind.contains_unsigned ..).1 h
    simp only [UInt16.ofInt, UInt16.toNat_ofNat', Width.half] at *
    omega
  ofInt_toInt a := by
    have := a.toNat_lt
    apply UInt16.toNat_inj.1
    simp only [UInt16.ofInt, UInt16.toNat_ofNat']
    omega

instance : Word UInt32 where
  kind := ⟨false, .w32⟩
  toInt a := a.toNat
  ofInt := UInt32.ofInt
  contains_toInt a := by
    have := a.toNat_lt
    exact (IntKind.contains_unsigned ..).2 (by simp only [Width.half]; omega)
  toInt_ofInt n h := by
    have ⟨_, _⟩ := (IntKind.contains_unsigned ..).1 h
    simp only [UInt32.ofInt, UInt32.toNat_ofNat', Width.half] at *
    omega
  ofInt_toInt a := by
    have := a.toNat_lt
    apply UInt32.toNat_inj.1
    simp only [UInt32.ofInt, UInt32.toNat_ofNat']
    omega

instance : Word UInt64 where
  kind := ⟨false, .w64⟩
  toInt a := a.toNat
  ofInt := UInt64.ofInt
  contains_toInt a := by
    have := a.toNat_lt
    exact (IntKind.contains_unsigned ..).2 (by simp only [Width.half]; omega)
  toInt_ofInt n h := by
    have ⟨_, _⟩ := (IntKind.contains_unsigned ..).1 h
    simp only [UInt64.ofInt, UInt64.toNat_ofNat', Width.half] at *
    omega
  ofInt_toInt a := by
    have := a.toNat_lt
    apply UInt64.toNat_inj.1
    simp only [UInt64.ofInt, UInt64.toNat_ofNat']
    omega

instance : Word Int8 where
  kind := ⟨true, .w8⟩
  toInt := Int8.toInt
  ofInt := Int8.ofInt
  contains_toInt a := by
    have := a.le_toInt
    have := a.toInt_lt
    exact (IntKind.contains_signed ..).2 (by simp only [Width.half]; omega)
  toInt_ofInt n h := by
    have ⟨hmin, hmax⟩ := (IntKind.contains_signed ..).1 h
    simp only [Width.half] at hmin hmax
    exact Int8.toInt_ofInt_of_le (by omega) (by omega)
  ofInt_toInt := Int8.ofInt_toInt

instance : Word Int16 where
  kind := ⟨true, .w16⟩
  toInt := Int16.toInt
  ofInt := Int16.ofInt
  contains_toInt a := by
    have := a.le_toInt
    have := a.toInt_lt
    exact (IntKind.contains_signed ..).2 (by simp only [Width.half]; omega)
  toInt_ofInt n h := by
    have ⟨hmin, hmax⟩ := (IntKind.contains_signed ..).1 h
    simp only [Width.half] at hmin hmax
    exact Int16.toInt_ofInt_of_le (by omega) (by omega)
  ofInt_toInt := Int16.ofInt_toInt

instance : Word Int32 where
  kind := ⟨true, .w32⟩
  toInt := Int32.toInt
  ofInt := Int32.ofInt
  contains_toInt a := by
    have := a.le_toInt
    have := a.toInt_lt
    exact (IntKind.contains_signed ..).2 (by simp only [Width.half]; omega)
  toInt_ofInt n h := by
    have ⟨hmin, hmax⟩ := (IntKind.contains_signed ..).1 h
    simp only [Width.half] at hmin hmax
    exact Int32.toInt_ofInt_of_le (by omega) (by omega)
  ofInt_toInt := Int32.ofInt_toInt

instance : Word Int64 where
  kind := ⟨true, .w64⟩
  toInt := Int64.toInt
  ofInt := Int64.ofInt
  contains_toInt a := by
    have := a.le_toInt
    have := a.toInt_lt
    exact (IntKind.contains_signed ..).2 (by simp only [Width.half]; omega)
  toInt_ofInt n h := by
    have ⟨hmin, hmax⟩ := (IntKind.contains_signed ..).1 h
    simp only [Width.half] at hmin hmax
    exact Int64.toInt_ofInt_of_le (by omega) (by omega)
  ofInt_toInt := Int64.ofInt_toInt

instance : Word USize where
  kind := ⟨false, .address⟩
  toInt a := a.toNat
  ofInt n := USize.ofNat (n % USize.size).toNat
  contains_toInt a := by
    have := a.toNat_lt_size
    exact (IntKind.contains_unsigned ..).2 (by rw [Width.two_mul_half_address]; omega)
  toInt_ofInt n h := by
    have ⟨hmin, hmax⟩ := (IntKind.contains_unsigned ..).1 h
    rw [Width.two_mul_half_address] at hmax
    rw [Int.emod_eq_of_lt hmin hmax, USize.toNat_ofNat_of_lt' (by omega)]
    omega
  ofInt_toInt a := by
    have := a.toNat_lt_size
    have hsmall : (a.toNat : Int) % USize.size = a.toNat := Int.emod_eq_of_lt (by omega) (by omega)
    rw [hsmall, Int.toNat_natCast, USize.ofNat_toNat]

instance : Word ISize where
  kind := ⟨true, .address⟩
  toInt := ISize.toInt
  ofInt := ISize.ofInt
  contains_toInt a := by
    have hsize : 2 * Width.address.half = ISize.size := Width.two_mul_half_address
    have hpos : 0 < ISize.size := USize.size_pos
    have hmin := Int.le_bmod (x := a.toInt) hpos
    have hmax := Int.bmod_lt (x := a.toInt) hpos
    rw [a.toInt_bmod_size] at hmin hmax
    exact (IntKind.contains_signed ..).2 (by omega)
  toInt_ofInt n h := by
    have ⟨hmin, hmax⟩ := (IntKind.contains_signed ..).1 h
    have hsize : 2 * Width.address.half = ISize.size := Width.two_mul_half_address
    rw [ISize.toInt_ofInt]
    exact Int.bmod_eq_of_le (by omega) (by omega)
  ofInt_toInt := ISize.ofInt_toInt

/-- The nearest value stands for the clamped integer. -/
theorem toInt_fit {α β : Type} [Word α] [Word β] (a : α) :
    Word.toInt (fit a : β) = (Word.kind β).clamp (Word.toInt a) :=
  Word.toInt_ofInt _ ((Word.kind β).contains_clamp _)

/-- A value that the other kind has, too, is carried over as it is. -/
theorem toInt_fit_of_contains {α β : Type} [Word α] [Word β] {a : α}
    (h : (Word.kind β).Contains (Word.toInt a)) : Word.toInt (fit a : β) = Word.toInt a := by
  rw [toInt_fit, IntKind.clamp_of_contains h]

theorem fit_self {α : Type} [Word α] (a : α) : (fit a : α) = a := by
  rw [fit, IntKind.clamp_of_contains (Word.contains_toInt a), Word.ofInt_toInt]

end HostedFs
