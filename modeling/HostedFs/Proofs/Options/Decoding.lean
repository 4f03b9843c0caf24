import HostedFs.Proofs.Attempts
import HostedFs.Proofs.Options.Candidates
import Mathlib.Data.List.Basic

/-! # What a template makes of a candidate

    A template takes the candidates whose key is its name. The value is decoded
    first, as the template and the slot say, and then written to the slot.

    * `Template.Spells`: the words that are templates.
    * `Template.Takes`: the candidates that a template takes.
    * `Template.decode`, `Slot.commit`: decoding and writing apart, as
      `assign?_of_takes` joins them.
    * `written_commit`: what was decoded can always be written.
-/

namespace HostedFs.Options

/-! ## Words -/

namespace Template

/-- The word spells the template. -/
inductive Spells : String → Template → Prop
  /-- A name alone. -/
  | bare {word name : String} (cut : Splits word name none) (named : IsName name) :
      Spells word ⟨name, false, none⟩
  /-- A name, an equals sign and perhaps a verb. -/
  | valued {word name spec : String} {verb : Option Verb} (cut : Splits word name (some spec))
      (known : Verb.ofSpec? spec = some verb) (named : IsName name) :
      Spells word ⟨name, true, verb⟩

/-- A word is read as the template that it spells. -/
theorem parse?_eq_some_iff {word : String} {t : Template} :
    parse? word = some t ↔ Spells word t := by
  constructor
  · intro h
    have hcut := splits_keyValue word
    simp only [parse?] at h
    rw [Option.filter_eq_some_iff] at h
    obtain ⟨h, hnamed⟩ := h
    have hnamed : IsName t.name := of_decide_eq_true hnamed
    cases hspec : (keyValue word).2 with
    | none =>
      rw [hspec] at h hcut
      cases h
      exact .bare hcut hnamed
    | some spec =>
      rw [hspec] at h hcut
      -- Behind the equals sign a known verb has to stand.
      obtain ⟨verb, hverb, rfl⟩ := Option.map_eq_some_iff.mp h
      exact .valued hcut hverb hnamed
  · intro h
    cases h with
    | bare cut named => simp [parse?, keyValue_of_splits cut, named]
    | valued cut known named => simp [parse?, keyValue_of_splits cut, known, named]

/-- A word that spells no template is not read. -/
theorem parse?_eq_none_iff {word : String} :
    parse? word = none ↔ ∀ t, ¬ Spells word t := by
  simp only [Option.eq_none_iff_forall_ne_some, ne_eq, parse?_eq_some_iff]

/-- No name has an equals sign. -/
theorem Spells.plain {word : String} {t : Template} (h : Spells word t) : '=' ∉ t.name.toList := by
  cases h with
  | bare cut named => exact cut.plain
  | valued cut known named => exact cut.plain

/-! ## Candidates -/

/-- The template takes the candidate, with the value that it has. Without a value
    only flags are set, and only where the template demands none. -/
inductive Takes (t : Template) (slot : Slot) (candidate : String) : Option String → Prop
  | valued {value : String} (cut : Splits candidate t.name (some value)) :
      Takes t slot candidate (some value)
  | bare (cut : Splits candidate t.name none) (flag : slot.isFlag = true)
      (optional : t.needsValue = false) : Takes t slot candidate none

/-- A value stands after the name and an equals sign. -/
theorem value?_eq_some_iff {t : Template} (plain : '=' ∉ t.name.toList)
    {candidate value : String} :
    t.value? candidate = some value ↔ Splits candidate t.name (some value) := by
  -- Both sides say that the name and `=` are ahead of the value.
  have hcs : t.value? candidate = some value ↔
      candidate.toList = t.name.toList ++ '=' :: value.toList := by
    unfold value?
    constructor
    · intro h
      split at h
      next rest hprefix =>
        cases h
        simpa using (List.isPrefixOf?_eq_some_iff_append_eq.mp hprefix).symm
      · cases h
    · intro h
      rw [List.isPrefixOf?_eq_some_iff_append_eq.mpr h.symm]
      simp
  rw [hcs]
  constructor
  · intro h
    obtain rfl : candidate = t.name ++ "=" ++ value := by
      apply String.toList_inj.mp
      simpa using h
    exact .valued value plain
  · intro h
    generalize hname : t.name = name at h
    cases h with
    | valued value plain => simp

/-- Without a value the candidate is the name. -/
theorem eq_name_iff {t : Template} (plain : '=' ∉ t.name.toList) {candidate : String} :
    candidate = t.name ↔ Splits candidate t.name none := by
  constructor
  · rintro rfl
    exact .bare plain
  · intro h
    generalize t.name = name at h
    cases h with
    | bare plain => rfl

/-- A template takes a candidate in one way. -/
theorem Takes.unique {t : Template} {slot : Slot} {candidate : String} {v w : Option String}
    (hv : t.Takes slot candidate v) (hw : t.Takes slot candidate w) : v = w := by
  have hcut {value? : Option String} (h : t.Takes slot candidate value?) :
      keyValue candidate = (t.name, value?) := by
    cases h with
    | valued cut => exact keyValue_of_splits cut
    | bare cut flag optional => exact keyValue_of_splits cut
  have hsame := (hcut hv).symm.trans (hcut hw)
  exact (Prod.mk.inj hsame).2

end Template

/-! ## Values -/

/-- What a candidate's value is decoded to. -/
inductive Value
  | flag (value : Bool)
  | text (value : String)
  | number (n : Int)
  deriving DecidableEq, Repr

/-- The slot after a value was written to it. A value of another sort than the
    slot's is dropped. -/
def Slot.commit : Slot → Value → Slot
  | .flag _, .flag value => .flag value
  | .text _, .text value => .text value
  | .int kind _, .number n => .int kind (kind.ofInt n)
  | slot, _ => slot

/-- The value is of the slot's sort and can be held by it, and the other slot is
    the same with that value in it. -/
inductive Slot.Written : Slot → Value → Slot → Prop
  | flag (old value : Bool) : Written (.flag old) (.flag value) (.flag value)
  | text (old value : String) : Written (.text old) (.text value) (.text value)
  | number {kind : IntKind} (old : kind.Bits) {n : Int} (fits : Slot.Accepts kind n) :
      Written (.int kind old) (.number n) (.int kind (kind.ofInt n))

namespace Template

/-- Decodes the value of a candidate for a slot. -/
def decode (t : Template) (slot : Slot) (candidate : String) :
    Option String → Except Error Value
  | none =>
    match slot with
    | .flag _ => .ok (.flag true)
    | _ => .error (.missingValue candidate)
  | some value =>
    match slot with
    | .flag _ =>
      match t.verb with
      | none | some .text => .ok (.flag true)
      | some verb => (number verb candidate value).map fun n => .flag (n != 0)
    | .text _ => .ok (.text value)
    | .int kind _ => do
      let n ← number t.intVerb candidate value
      if Slot.Accepts kind n then .ok (.number n)
      else .error (.outOfRange candidate value)

/-- What was decoded for a slot is written to it; nothing is dropped. -/
theorem written_commit {t : Template} {slot : Slot} {candidate : String}
    {value? : Option String} {value : Value}
    (h : t.decode slot candidate value? = .ok value) : slot.Written value (slot.commit value) := by
  cases value? with
  -- By the kinds of slots, as `decode` goes; the number of an integer slot was found to fit.
  | none =>
    cases slot with
    | flag old =>
      cases h
      exact .flag old true
    | text old => cases h
    | int kind old => cases h
  | some text =>
    cases slot with
    | flag old =>
      simp only [decode] at h
      split at h
      · cases h
        exact .flag old true
      · cases h
        exact .flag old true
      · obtain ⟨n, -, rfl⟩ := map_eq_ok_iff.mp h
        exact .flag old _
    | text old =>
      cases h
      exact .text old text
    | int kind old =>
      simp only [decode] at h
      obtain ⟨n, -, h⟩ := bind_eq_ok_iff.mp h
      split at h
      next fits =>
        cases h
        exact .number old fits
      · cases h

/-- A template that takes a candidate assigns to its slot what is decoded. -/
theorem assign?_of_takes {t : Template} (plain : '=' ∉ t.name.toList) {slot : Slot}
    {candidate : String} {value? : Option String} (h : t.Takes slot candidate value?) :
    t.assign? slot candidate = some ((t.decode slot candidate value?).map slot.commit) := by
  cases h with
  | @valued value cut =>
    -- A value stands behind the equals sign; what becomes of it goes by the slot and its verb.
    have hvalue := (value?_eq_some_iff plain).mpr cut
    cases slot with
    | flag old =>
      cases hverb : t.verb with
      | none => simp [assign?, hvalue, decode, hverb, Except.map, Slot.commit]
      | some verb =>
        cases verb with
        | text => simp [assign?, hvalue, decode, hverb, Except.map, Slot.commit]
        | decimal | octal | hexadecimal | automatic =>
          simp only [assign?, hvalue, decode, hverb]
          cases number _ candidate value with
          | error e => rfl
          | ok n => rfl
    | text old => simp [assign?, hvalue, decode, Except.map, Slot.commit]
    | int kind old =>
      simp only [assign?, hvalue, decode, Option.map_some]
      cases hnumber : number t.intVerb candidate value with
      | error e => rfl
      | ok n =>
        by_cases hfits : Slot.Accepts kind n
        · simp [hfits, bind, Except.bind, Except.map, Slot.commit]
        · simp [hfits, bind, Except.bind, Except.map]
  | bare cut flag optional =>
    -- The candidate is the bare name, which only a flag takes.
    have hname := beq_iff_eq.mpr ((eq_name_iff plain).mpr cut)
    have hnone : t.value? candidate = none := by
      rw [Option.eq_none_iff_forall_ne_some]
      intro value hvalue
      have hcut := keyValue_of_splits ((value?_eq_some_iff plain).mp hvalue)
      cases hcut.symm.trans (keyValue_of_splits cut)
    cases slot with
    | flag old => simp [assign?, hnone, optional, hname, decode, Except.map, Slot.commit]
    | text old => cases flag
    | int kind old => cases flag

/-- A template that does not take it assigns nothing. -/
theorem assign?_eq_none {t : Template} (plain : '=' ∉ t.name.toList) {slot : Slot}
    {candidate : String} (h : ∀ value?, ¬ t.Takes slot candidate value?) :
    t.assign? slot candidate = none := by
  have hnone : t.value? candidate = none := by
    rw [Option.eq_none_iff_forall_ne_some]
    intro value hvalue
    exact h _ (.valued ((value?_eq_some_iff plain).mp hvalue))
  cases slot with
  | flag old =>
    have hbare : ¬ (t.needsValue = false ∧ candidate = t.name) := by
      intro hbare
      exact h _ (.bare ((eq_name_iff plain).mp hbare.2) rfl hbare.1)
    simpa [assign?, hnone] using hbare
  | text old => simp [assign?, hnone]
  | int kind old => simp [assign?, hnone]

end Template

end HostedFs.Options
