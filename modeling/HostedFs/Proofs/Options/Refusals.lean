import HostedFs.Proofs.Options.Numbers

/-! # Values that an integer slot refuses

    A value that an integer slot does not take is reported in one of two ways: as out
    of range, or as no number. Which of them is a matter of the integers that numerals
    are read with. A numeral whose magnitude they cannot hold is no number, although
    it spells one.

    * `Template.Refuses`: the values that an integer slot does not take.
    * `Template.Legible`: the values that can be read all the same.
    * `Template.decode_of_refuses`: how a value that is not taken is decoded.
    * `refusal_iff`: how it is reported, whatever else is on the command line.
    * `long_numeral_no_number`: a numeral that is reported as no number.
-/

namespace HostedFs.Options

/-! ## Values -/

namespace Template

/-- A slot of the kind does not take what the value spells, if it spells anything. -/
def Refuses (t : Template) (kind : IntKind) (text : String) : Prop :=
  ∀ n, t.SpellsNumber text n → ¬ Slot.InRange kind n

/-- The value spells a number that integers of 128 bits can hold together with its
    opposite. -/
def Legible (t : Template) (text : String) : Prop :=
  ∃ n, t.SpellsNumber text n ∧ n.natAbs < 2 ^ 127

variable {t : Template} {kind : IntKind} {text : String}

/-- A numeral can be read if its own magnitude is small enough. -/
theorem legible_iff {n : Int} (spells : t.SpellsNumber text n) :
    t.Legible text ↔ n.natAbs < 2 ^ 127 := by
  constructor
  · rintro ⟨m, hm, small⟩
    rw [← Numeral.Spells.unique hm spells]
    exact small
  · intro small
    exact ⟨n, spells, small⟩

/-- A value that is not taken is out of range if it can be read, and else no number. -/
theorem decode_of_refuses (old : kind.Bits) (candidate : String) (hrefuses : t.Refuses kind text) :
    t.Legible text ∧
        t.decode (.int kind old) candidate (some text) = .error (.outOfRange candidate text) ∨
      ¬ t.Legible text ∧
        t.decode (.int kind old) candidate (some text) = .error (.badNumber candidate text) := by
  by_cases hlegible : t.Legible text
  · obtain ⟨n, spells, small⟩ := hlegible
    have houtside := hrefuses n spells
    exact .inl ⟨⟨n, spells, small⟩, decode_of_not_inRange spells small houtside⟩
  · have hunread : ∀ n, t.SpellsNumber text n → ¬ n.natAbs < 2 ^ 127 := by
      intro n spells small
      exact hlegible ⟨n, spells, small⟩
    exact .inr ⟨hlegible, decode_of_unread hunread⟩

/-- What cannot be read is no numeral, or one of too great a magnitude. -/
theorem not_legible_iff :
    ¬ t.Legible text ↔ ∀ n, t.SpellsNumber text n → 2 ^ 127 ≤ n.natAbs := by
  unfold Legible
  constructor
  · intro h n spells
    have hlarge : ¬ n.natAbs < 2 ^ 127 := fun small => h ⟨n, spells, small⟩
    omega
  · rintro h ⟨n, spells, small⟩
    have hlarge := h n spells
    omega

end Template

/-! ## Command lines -/

/-- Say the rules can decode all candidates before one (`Decodes`), and those in front of a rule can
    decode that one, too. If the rule is for an integer slot and the slot `Refuses` the value, then
    this is what the command line fails with: `outOfRange` if the value is a numeral of a magnitude
    below `2 ^ 127`, the limit of the integers that it is read with, and `badNumber` if it is a
    greater one or no numeral. -/
theorem refusal_iff {format : String} {templates : List Template} {slots : List Slot}
    {args before after : List String} {candidate text : String} {dangling : Bool}
    {front back : List Rule} {t : Template} {kind : IntKind} {old : kind.Bits}
    (htemplates : List.Forall₂ Template.Spells (Text.wordsOf format) templates)
    (hlength : templates.length = slots.length)
    (hscanned : Scanned args (before ++ candidate :: after) dangling)
    (hrules : rulesOf templates slots = front ++ ⟨t, .int kind old⟩ :: back)
    (earlier : Decodes (rulesOf templates slots) before) (ahead : Decodes front [candidate])
    (cut : Splits candidate t.name (some text)) (refuses : t.Refuses kind text) :
    (∀ n, t.SpellsNumber text n →
      (parse format slots args = .error (.outOfRange candidate text) ↔ n.natAbs < 2 ^ 127)) ∧
    (parse format slots args = .error (.badNumber candidate text) ↔
      ∀ n, t.SpellsNumber text n → 2 ^ 127 ≤ n.natAbs) := by
  have hparse {e : Error}
      (hdecode : t.decode (.int kind old) candidate (some text) = .error e) :
      parse format slots args = .error e := by
    have hfails : Rule.FailsOn ⟨t, .int kind old⟩ candidate e := ⟨text, cut, hdecode⟩
    -- All before it is decoded, so this failure is the first.
    have hfirst : FirstFailure (front ++ ⟨t, .int kind old⟩ :: back)
        (before ++ candidate :: after) e := .intro (hrules ▸ earlier) ahead hfails
    exact parse_of_firstFailure htemplates hlength hscanned (hrules ▸ hfirst)
  -- The two errors part by whether the numeral is `Legible`, that is below the limit.
  obtain ⟨houtside, hunread⟩ :
      (parse format slots args = .error (.outOfRange candidate text) ↔ t.Legible text) ∧
      (parse format slots args = .error (.badNumber candidate text) ↔ ¬ t.Legible text) := by
    rcases Template.decode_of_refuses old candidate refuses with
      ⟨hlegible, hdecode⟩ | ⟨hlegible, hdecode⟩
    · simp [hparse hdecode, hlegible]
    · simp [hparse hdecode, hlegible]
  constructor
  · intro n spells
    rw [houtside, Template.legible_iff spells]
  · rw [hunread, Template.not_legible_iff]

/-- The greatest magnitude that can be read is out of range, whatever is around it. -/
theorem refusal_iff_greatest :
    (Template.SpellsNumber ⟨"n", true, some .hexadecimal⟩ "-0x7fffffffffffffffffffffffffffffff"
        (1 - 2 ^ 127) ∧
      Template.Refuses ⟨"n", true, some .hexadecimal⟩ ⟨true, .w64⟩
        "-0x7fffffffffffffffffffffffffffffff") ∧
    parse "-f n=%x" [.flag false, .int ⟨true, .w64⟩ 0]
        ["-f", "-on=-0x7fffffffffffffffffffffffffffffff,n=z", "p"] =
      .error (.outOfRange "n=-0x7fffffffffffffffffffffffffffffff"
        "-0x7fffffffffffffffffffffffffffffff") := by
  have htemplates : List.Forall₂ Template.Spells (Text.wordsOf "-f n=%x")
      [⟨"-f", false, none⟩, ⟨"n", true, some .hexadecimal⟩] :=
    parseFormat_eq_ok_iff.mp (by decide)
  have hscanned : Scanned ["-f", "-on=-0x7fffffffffffffffffffffffffffffff,n=z", "p"]
      (["-f"] ++ "n=-0x7fffffffffffffffffffffffffffffff" :: ["n=z"]) false :=
    scanned_iff.mpr ⟨by decide, by decide⟩
  have hrules : rulesOf [⟨"-f", false, none⟩, ⟨"n", true, some .hexadecimal⟩]
        [.flag false, .int ⟨true, .w64⟩ 0] =
      [⟨⟨"-f", false, none⟩, .flag false⟩] ++
        ⟨⟨"n", true, some .hexadecimal⟩, .int ⟨true, .w64⟩ 0⟩ :: [] := rfl
  have hplain := plain_rulesOf htemplates [.flag false, .int ⟨true, .w64⟩ 0]
  -- The flag ahead of it is decoded, and its rule does not take the number.
  have earlier : Decodes (rulesOf [⟨"-f", false, none⟩, ⟨"n", true, some .hexadecimal⟩]
      [.flag false, .int ⟨true, .w64⟩ 0]) ["-f"] :=
    (values_isOk_iff hplain).mp ⟨[some (.flag true), none], by decide⟩
  have ahead : Decodes [⟨⟨"-f", false, none⟩, .flag false⟩]
      ["n=-0x7fffffffffffffffffffffffffffffff"] := by
    have hfront : ∀ r ∈ [⟨⟨"-f", false, none⟩, .flag false⟩], Rule.Plain r := by
      intro r hr
      exact hplain r (hrules ▸ List.mem_append_left _ hr)
    exact (values_isOk_iff hfront).mp ⟨[none], by decide⟩
  have cut : Splits "n=-0x7fffffffffffffffffffffffffffffff" "n"
      (some "-0x7fffffffffffffffffffffffffffffff") := splits_keyValue _
  -- `2 ^ 127 - 1` can still be read, but no slot holds it.
  have hspells : Template.SpellsNumber ⟨"n", true, some .hexadecimal⟩
      "-0x7fffffffffffffffffffffffffffffff" (1 - 2 ^ 127) :=
    Numeral.read?_eq_some_iff.mp (by decide)
  have refuses : Template.Refuses ⟨"n", true, some .hexadecimal⟩ ⟨true, .w64⟩
      "-0x7fffffffffffffffffffffffffffffff" := by
    intro n hn
    rw [Numeral.Spells.unique hn hspells]
    unfold Slot.InRange
    decide
  have hreported := refusal_iff htemplates rfl hscanned hrules earlier ahead cut refuses
  exact ⟨⟨hspells, refuses⟩, (hreported.1 _ hspells).mpr (by decide)⟩

/-- A numeral of the next magnitude is no number. -/
theorem long_numeral_no_number :
    Template.SpellsNumber ⟨"n", true, some .hexadecimal⟩ "0x80000000000000000000000000000000"
      (2 ^ 127) ∧
    ¬ Slot.InRange ⟨false, .w64⟩ (2 ^ 127) ∧
    parse "n=%x" [.int ⟨false, .w64⟩ 0] ["-on=0x80000000000000000000000000000000"] =
      .error (.badNumber "n=0x80000000000000000000000000000000"
        "0x80000000000000000000000000000000") := by
  have hspells : Template.SpellsNumber ⟨"n", true, some .hexadecimal⟩
      "0x80000000000000000000000000000000" (2 ^ 127) :=
    Numeral.read?_eq_some_iff.mp (by decide)
  have houtside : ¬ Slot.InRange ⟨false, .w64⟩ (2 ^ 127) := by
    unfold Slot.InRange
    decide
  exact ⟨hspells, houtside, by decide +kernel⟩

end HostedFs.Options
