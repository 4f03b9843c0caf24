import HostedFs.Proofs.Options.Numerals
import HostedFs.Proofs.Options.Reference
import Mathlib.Data.Int.ModEq

/-! # Numbers on a command line

    An integer slot takes what a value spells, as long as a signed or an unsigned
    integer of its width can be that. Of the other ones, a numeral is reported as out of
    range and anything else as no number.

    * `toInt_ofInt_modEq`, `toInt_modEq_iff`: a slot holds the low bits of a number.
    * `Template.SpellsNumber`: the number that a value spells.
    * `read_single`: a command line that gives one option.
    * `Converts`, `parse_converts`: what comes of a value for an integer slot.
-/

namespace HostedFs

/-! ## Low bits -/

theorem Width.half_eq (w : Width) : w.half = 2 ^ (w.bits - 1) := by
  cases w with
  | w8 | w16 | w32 | w64 => rfl

theorem Width.two_mul_half (w : Width) : 2 * w.half = 2 ^ w.bits := by
  cases w with
  | w8 | w16 | w32 | w64 => rfl

namespace IntKind

variable {kind : IntKind} {m n : Int}

/-- Numbers that differ by multiples of the number of bit patterns have the same bits. -/
theorem ofInt_eq_of_modEq (h : m ≡ n [ZMOD 2 ^ kind.bits]) : kind.ofInt m = kind.ofInt n := by
  apply BitVec.eq_of_toNat_eq
  unfold ofInt
  rw [BitVec.toNat_ofInt, BitVec.toNat_ofInt]
  push_cast
  rw [h]

/-- A bit pattern has the bits of the integer that it stands for. -/
theorem ofInt_toInt (b : kind.Bits) : kind.ofInt (kind.toInt b) = b := by
  unfold ofInt toInt
  split
  · exact BitVec.ofInt_toInt
  · rw [BitVec.ofInt_natCast, BitVec.ofNat_toNat, BitVec.setWidth_eq]

/-- The bits of a number stand for one that differs by such a multiple. -/
theorem toInt_ofInt_modEq (kind : IntKind) (n : Int) :
    kind.toInt (kind.ofInt n) ≡ n [ZMOD 2 ^ kind.bits] := by
  unfold ofInt toInt
  split
  · rw [BitVec.toInt_ofInt]
    have h := Int.bmod_emod (x := n) (m := 2 ^ kind.bits)
    push_cast at h
    exact h
  · have hnonneg : 0 ≤ n % 2 ^ kind.bits := Int.emod_nonneg n (pow_ne_zero _ (by decide))
    rw [BitVec.toNat_ofInt]
    push_cast
    rw [Int.toNat_of_nonneg hnonneg]
    exact Int.mod_modEq n _

/-- There is one integer of a kind that is congruent to a number. -/
theorem toInt_modEq_iff (n : Int) (b : kind.Bits) :
    kind.toInt b ≡ n [ZMOD 2 ^ kind.bits] ↔ b = kind.ofInt n := by
  constructor
  · intro h
    rw [← ofInt_eq_of_modEq h, ofInt_toInt]
  · rintro rfl
    exact toInt_ofInt_modEq kind n

end IntKind

namespace Options

/-! ## Values -/

/-- The value of an option spells a number, as the template says. Without a verb it is
    decimal. -/
def Template.SpellsNumber (t : Template) (text : String) (n : Int) : Prop :=
  Numeral.Spells (t.verb.getD .decimal) text.toList n

/-- A slot of the kind takes the number. -/
def Slot.InRange (kind : IntKind) (n : Int) : Prop :=
  -2 ^ (kind.bits - 1) ≤ n ∧ n ≤ 2 ^ kind.bits - 1

theorem Slot.accepts_iff {kind : IntKind} {n : Int} : Accepts kind n ↔ InRange kind n := by
  have hhalf := kind.width.half_eq
  have hdouble := kind.width.two_mul_half
  show -kind.width.half ≤ n ∧ n < 2 * kind.width.half ↔
    -2 ^ (kind.width.bits - 1) ≤ n ∧ n ≤ 2 ^ kind.width.bits - 1
  rw [← hhalf, ← hdouble]
  omega

/-- No slot takes a number that is too large to be read. -/
theorem Slot.InRange.natAbs_lt {kind : IntKind} {n : Int} (h : InRange kind n) :
    n.natAbs < 2 ^ 127 := by
  obtain ⟨signed, width⟩ := kind
  cases width with
  | w8 | w16 | w32 | w64 =>
    obtain ⟨hleast, hgreatest⟩ := h
    simp only [IntKind.bits, Width.bits] at hleast hgreatest
    omega

namespace Template

variable {t : Template} {kind : IntKind} {old : kind.Bits} {candidate text : String} {n : Int}

/-- A text is decimal in an integer slot. -/
theorem spells_intVerb_iff :
    Numeral.Spells t.intVerb text.toList n ↔ t.SpellsNumber text n := by
  unfold SpellsNumber intVerb
  cases t.verb with
  | none => rfl
  | some verb =>
    cases verb with
    | text =>
      simp only [Option.getD_some, Numeral.spells_iff, Numeral.Unsigned.decimal_iff (.inr rfl),
        Numeral.Unsigned.decimal_iff (.inl rfl)]
    | decimal | octal | hexadecimal | automatic => rfl

theorem readBounded?_intVerb_iff :
    Numeral.readBounded? t.intVerb text.toList = some n ↔
      t.SpellsNumber text n ∧ n.natAbs < 2 ^ 127 := by
  rw [Numeral.readBounded?_eq_some_iff, spells_intVerb_iff]

/-- A value is decoded if it spells a number that the slot takes. -/
theorem decode_of_inRange (spells : t.SpellsNumber text n) (fits : Slot.InRange kind n) :
    t.decode (.int kind old) candidate (some text) = .ok (.number n) := by
  have hread := readBounded?_intVerb_iff.mpr ⟨spells, fits.natAbs_lt⟩
  simp [decode, number, hread, Slot.accepts_iff.mpr fits, bind, Except.bind]

/-- Another number is out of range, if it can be read. -/
theorem decode_of_not_inRange (spells : t.SpellsNumber text n) (small : n.natAbs < 2 ^ 127)
    (outside : ¬ Slot.InRange kind n) :
    t.decode (.int kind old) candidate (some text) = .error (.outOfRange candidate text) := by
  have hread := readBounded?_intVerb_iff.mpr ⟨spells, small⟩
  simp [decode, number, hread, mt Slot.accepts_iff.mp outside, bind, Except.bind]

/-- What cannot be read is no number. -/
theorem decode_of_unread (unread : ∀ n, t.SpellsNumber text n → ¬ n.natAbs < 2 ^ 127) :
    t.decode (.int kind old) candidate (some text) = .error (.badNumber candidate text) := by
  have hread : Numeral.readBounded? t.intVerb text.toList = none := by
    rw [Option.eq_none_iff_forall_ne_some]
    intro n hn
    obtain ⟨spells, small⟩ := readBounded?_intVerb_iff.mp hn
    exact unread n spells small
  simp [decode, number, hread, bind, Except.bind]

end Template

/-! ## Command lines -/

theorem Slot.Written.eq_commit {slot new : Slot} {value : Value} (h : slot.Written value new) :
    new = slot.commit value := by
  cases h with
  | flag | text | number => rfl

/-- One rule fails first on one candidate if it fails on it. -/
theorem failsOn_of_firstFailure {r : Rule} {candidate : String} {e : Error}
    (h : FirstFailure [r] [candidate] e) : r.FailsOn candidate e := by
  obtain ⟨front, other, back, hrules, -, hfails⟩ := firstFailure_singleton.mp h
  have hmem : other ∈ [r] := by
    rw [hrules]
    simp
  obtain rfl := List.mem_singleton.mp hmem
  exact hfails

section

variable {r : Rule} {candidate text : String} (cut : Splits candidate r.template.name (some text))
include cut

theorem failsOn_iff (e : Error) :
    r.FailsOn candidate e ↔ r.template.decode r.slot candidate (some text) = .error e := by
  constructor
  · rintro ⟨other, hcut, hfails⟩
    have hsame := (keyValue_of_splits cut).symm.trans (keyValue_of_splits hcut)
    cases hsame
    exact hfails
  · exact fun hfails => ⟨text, cut, hfails⟩

/-- One rule that decodes the value of one candidate has it in its slot at the end. -/
theorem eq_commit_of_endsWith {value : Value} {slot : Slot}
    (hdecode : r.template.decode r.slot candidate (some text) = .ok value)
    (h : r.EndsWith [candidate] slot) : slot = r.slot.commit value := by
  have htakes : r.template.Takes r.slot candidate (some text) := .valued cut
  cases h with
  | kept untaken => exact absurd htakes (untaken candidate List.mem_cons_self _)
  | @written before after other value? value' _ split takes decoded last written =>
    obtain rfl : other = candidate := by
      have hmem : other ∈ [candidate] := by
        rw [split]
        simp
      exact List.mem_singleton.mp hmem
    obtain rfl := takes.unique htakes
    obtain rfl : value' = value := by
      rw [hdecode] at decoded
      exact (Except.ok.inj decoded).symm
    exact written.eq_commit

/-- A command line that gives one option comes to what is decoded. -/
theorem read_single {result : Except Error Parsed} (h : Read [r] [candidate] false result) :
    (∀ e, r.template.decode r.slot candidate (some text) = .error e → result = .error e) ∧
      ∀ value, r.template.decode r.slot candidate (some text) = .ok value →
        ∃ parsed, result = .ok parsed ∧ parsed.slots = [r.slot.commit value] := by
  refine ⟨fun e hdecode => ?_, fun value hdecode => ?_⟩
  · have hfails := (failsOn_iff cut e).mpr hdecode
    obtain ⟨other, hother⟩ := h.fails_iff.mpr
      (.inr ⟨candidate, List.mem_cons_self, r, List.mem_cons_self, e, hfails⟩)
    -- It is the first failure, and there is no other rule or candidate.
    rcases h.first other hother with hfirst | ⟨-, hdangling, -⟩
    · have hfirst := (failsOn_iff cut other).mp (failsOn_of_firstFailure hfirst)
      obtain rfl := Except.error.inj (hdecode.symm.trans hfirst)
      exact hother
    · cases hdangling
  · cases result with
    | error e =>
      rcases h.fails_iff.mp ⟨e, rfl⟩ with hdangling | ⟨other, hmem, q, hq, e', hfails⟩
      · cases hdangling
      · obtain rfl := List.mem_singleton.mp hmem
        obtain rfl := List.mem_singleton.mp hq
        cases hdecode.symm.trans ((failsOn_iff cut e').mp hfails)
    | ok parsed =>
      refine ⟨parsed, rfl, ?_⟩
      -- The one slot ends with what the one rule decodes.
      obtain ⟨slot, rest, hends, hrest, hslots⟩ :=
        List.forall₂_cons_left_iff.mp (h.filled parsed rfl)
      rw [hslots, List.forall₂_nil_left_iff.mp hrest, eq_commit_of_endsWith cut hdecode hends]

end

/-- What comes of a value that is given to an integer slot. -/
structure Converts (t : Template) (kind : IntKind) (text : String)
    (result : Except Error Parsed) : Prop where
  /-- It is accepted if it spells a number that the slot takes, and not otherwise. -/
  accepted_iff : (∃ parsed, result = .ok parsed) ↔
    ∃ n, t.SpellsNumber text n ∧ Slot.InRange kind n
  /-- Then the slot holds the one integer of its kind that is congruent to that number. -/
  held : ∀ parsed n, result = .ok parsed → t.SpellsNumber text n →
    ∃ bits, parsed.slots = [.int kind bits] ∧
      ∀ other : kind.Bits, kind.toInt other ≡ n [ZMOD 2 ^ kind.bits] ↔ other = bits
  /-- Another number is out of range. -/
  outOfRange : ∀ n, t.SpellsNumber text n → n.natAbs < 2 ^ 127 → ¬ Slot.InRange kind n →
    result = .error (.outOfRange (t.name ++ "=" ++ text) text)
  /-- What spells none is no number. -/
  badNumber : (∀ n, ¬ t.SpellsNumber text n) →
    result = .error (.badNumber (t.name ++ "=" ++ text) text)
  /-- Integers of 128 bits are enough to read it. `Numeral.readBounded?` comes to the same
      with a check of every product and sum, so no step overflows on the way to a number. -/
  stepwise : Numeral.readWithin? (2 ^ 127) t.intVerb text.toList =
    Numeral.readBounded? t.intVerb text.toList
  exact_iff : ∀ n, Numeral.readWithin? (2 ^ 127) t.intVerb text.toList = some n ↔
    t.SpellsNumber text n ∧ n.natAbs < 2 ^ 127
  /-- What is read so decides the result: -/
  read : ∀ n, Numeral.readWithin? (2 ^ 127) t.intVerb text.toList = some n →
    ((∃ parsed, result = .ok parsed) ↔ Slot.InRange kind n) ∧
      (result = .error (.outOfRange (t.name ++ "=" ++ text) text) ↔ ¬ Slot.InRange kind n)
  /-- there is no number only where it reads none. -/
  unread : result = .error (.badNumber (t.name ++ "=" ++ text) text) ↔
    Numeral.readWithin? (2 ^ 127) t.intVerb text.toList = none
  /-- The limits that `Slot.InRange` compares the number with are such integers, too. -/
  limits : Numeral.Within (2 ^ 127) (-2 ^ (kind.bits - 1)) ∧
    Numeral.Within (2 ^ 127) (2 ^ kind.bits)

theorem within_of_bits (kind : IntKind) :
    Numeral.Within (2 ^ 127) (-2 ^ (kind.bits - 1)) ∧ Numeral.Within (2 ^ 127) (2 ^ kind.bits) := by
  obtain ⟨signed, width⟩ := kind
  cases width with
  | w8 | w16 | w32 | w64 =>
    simp only [Numeral.Within, IntKind.bits, Width.bits]
    omega

/-- An integer slot that is given one value converts it. -/
theorem converts_of_read {t : Template} (plain : '=' ∉ t.name.toList) {kind : IntKind}
    {old : kind.Bits} {text : String} {result : Except Error Parsed}
    (h : Read [⟨t, .int kind old⟩] [t.name ++ "=" ++ text] false result) :
    Converts t kind text result := by
  obtain ⟨herror, hok⟩ := read_single (.valued text plain) h
  have haccepted {n : Int} (spells : t.SpellsNumber text n) (fits : Slot.InRange kind n) :
      ∃ parsed, result = .ok parsed ∧ parsed.slots = [.int kind (kind.ofInt n)] :=
    hok _ (Template.decode_of_inRange spells fits)
  have hunread (unread : ∀ n, t.SpellsNumber text n → ¬ n.natAbs < 2 ^ 127) :
      result = .error (.badNumber (t.name ++ "=" ++ text) text) :=
    herror _ (Template.decode_of_unread unread)
  have hrefused {n : Int} (spells : t.SpellsNumber text n) (small : n.natAbs < 2 ^ 127)
      (outside : ¬ Slot.InRange kind n) :
      result = .error (.outOfRange (t.name ++ "=" ++ text) text) :=
    herror _ (Template.decode_of_not_inRange spells small outside)
  -- What is accepted can be read, and lies within the range.
  have hfits {parsed : Parsed} (hparsed : result = .ok parsed) :
      ∃ n, t.SpellsNumber text n ∧ Slot.InRange kind n := by
    by_contra hnone
    by_cases hread : ∃ n, t.SpellsNumber text n ∧ n.natAbs < 2 ^ 127
    · obtain ⟨n, spells, small⟩ := hread
      cases hparsed.symm.trans (hrefused spells small fun fits => hnone ⟨n, spells, fits⟩)
    · cases hparsed.symm.trans (hunread fun n spells small => hread ⟨n, spells, small⟩)
  -- Each of the three results excludes the others.
  have hread (n : Int) : Numeral.readWithin? (2 ^ 127) t.intVerb text.toList = some n ↔
      t.SpellsNumber text n ∧ n.natAbs < 2 ^ 127 := by
    rw [Numeral.readWithin?_eq_some_iff (Nat.two_pow_pos 127), Template.spells_intVerb_iff]
  constructor
  case accepted_iff =>
    refine ⟨fun ⟨parsed, hparsed⟩ => hfits hparsed, ?_⟩
    rintro ⟨n, spells, fits⟩
    obtain ⟨parsed, hparsed, -⟩ := haccepted spells fits
    exact ⟨parsed, hparsed⟩
  case held =>
    intro parsed n hparsed spells
    obtain ⟨m, hm, fits⟩ := hfits hparsed
    obtain rfl := hm.unique spells
    obtain ⟨other, hother, hslots⟩ := haccepted spells fits
    obtain rfl := Except.ok.inj (hparsed.symm.trans hother)
    exact ⟨kind.ofInt m, hslots, IntKind.toInt_modEq_iff m⟩
  case outOfRange => exact fun n spells small outside => hrefused spells small outside
  case badNumber => exact fun hnone => hunread fun n spells => absurd spells (hnone n)
  case stepwise => exact Numeral.readWithin?_eq_readBounded? _ _
  case exact_iff => exact hread
  case read =>
    intro n hn
    obtain ⟨spells, small⟩ := (hread n).mp hn
    by_cases fits : Slot.InRange kind n
    · obtain ⟨parsed, rfl, -⟩ := haccepted spells fits
      simp [fits]
    · obtain rfl := hrefused spells small fits
      simp [fits]
  case unread =>
    constructor
    · intro hbad
      rw [Option.eq_none_iff_forall_ne_some]
      intro n hn
      obtain ⟨spells, small⟩ := (hread n).mp hn
      by_cases fits : Slot.InRange kind n
      · obtain ⟨parsed, hparsed, -⟩ := haccepted spells fits
        cases hbad.symm.trans hparsed
      · cases hbad.symm.trans (hrefused spells small fits)
    · intro hnone
      refine hunread fun n spells small => ?_
      cases hnone.symm.trans ((hread n).mpr ⟨spells, small⟩)
  case limits => exact within_of_bits kind

/-- Every value for an integer slot is converted as `Converts` says.

    Say a format has one template, and a command line gives its option a value and nothing else to
    look at. The value is accepted if and only if it is a numeral, by the grammar of the
    template's verb, of a number that a signed or an unsigned integer of the slot's width can be.
    The slot then holds the one integer of its kind that is congruent to it. Any other numeral is
    reported as `outOfRange`, if its magnitude is less than `2 ^ 127`, the limit of the integers
    it is read with, and what is no numeral as `badNumber`. The reader that checks every step
    against that limit gives the same, so no step on the way overflows. -/
theorem parse_converts {format word text : String} {t : Template} {args : List String}
    {kind : IntKind} (old : kind.Bits) (hformat : Text.wordsOf format = [word])
    (hword : Template.Spells word t) (hargs : Scanned args [t.name ++ "=" ++ text] false) :
    Converts t kind text (parse format [.int kind old] args) := by
  have htemplates : List.Forall₂ Template.Spells (Text.wordsOf format) [t] := by
    rw [hformat]
    exact .cons hword .nil
  have hlength : [t].length = [Slot.int kind old].length := rfl
  exact converts_of_read hword.plain (parse_read htemplates hlength hargs)

/-- A slot without negative numbers takes the least one of its width and holds its bits. -/
theorem parse_converts_negative :
    Converts ⟨"n", true, some .automatic⟩ ⟨false, .w8⟩ "-0x80"
        (parse "n=%v" [.int ⟨false, .w8⟩ 0] ["-on=-0x80"]) ∧
      parse "n=%v" [.int ⟨false, .w8⟩ 0] ["-on=-0x80"] =
        .ok ⟨[], [.int ⟨false, .w8⟩ 128]⟩ := by
  have hformat : Text.wordsOf "n=%v" = ["n=%v"] := by decide
  have hword : Template.Spells "n=%v" ⟨"n", true, some .automatic⟩ :=
    Template.parse?_eq_some_iff.mp (by decide)
  have hargs : Scanned ["-on=-0x80"] ["n=-0x80"] false := scanned_iff.mpr ⟨by decide, by decide⟩
  exact ⟨parse_converts 0 hformat hword hargs, by decide +kernel⟩

end Options

end HostedFs
