import HostedFs.Capability
import Mathlib.Data.Set.Basic
import Mathlib.Tactic.Tauto

/-! # Features that are agreed on

    A negotiation goes through the features of a platform one by one, and keeps a word of
    what is wanted beside the set of what is granted. Both can be said at once: which
    features are granted, and which bits they have.

    * `Feature.place?`: the bit that stands for a feature on a platform.
    * `Feature.Available`: a feature that can be had.
    * `granted_iff`, `mem_want_iff`, `enable_eq`: the three parts of what is settled.
    * `negotiate_settles`: what follows, for one negotiation and for two of them.
-/

namespace HostedFs

/-! ## Features and their bits -/

/-- An optional feature of a mount. -/
inductive Feature
  | caseInsensitive
  | readdirPlus
  | deleteAccess
  | openTrunc
  | statEx

theorem Feature.exists_iff {P : Feature → Prop} :
    (∃ f, P f) ↔
      P .caseInsensitive ∨ P .readdirPlus ∨ P .deleteAccess ∨ P .openTrunc ∨ P .statEx := by
  constructor
  · rintro ⟨f, h⟩
    cases f <;> simp [h]
  · rintro (h | h | h | h | h)
    all_goals exact ⟨_, h⟩

/-- The feature is in a set. -/
def Capabilities.Has (c : Capabilities) : Feature → Prop
  | .caseInsensitive => c.caseInsensitive
  | .readdirPlus => c.readdirPlus
  | .deleteAccess => c.deleteAccess
  | .openTrunc => c.openTrunc
  | .statEx => c.statEx

theorem Capabilities.ext_has {c c' : Capabilities} (h : ∀ f, c.Has f ↔ c'.Has f) : c = c' := by
  have hcase : c.caseInsensitive = c'.caseInsensitive := Bool.eq_iff_iff.mpr (h .caseInsensitive)
  have hplus : c.readdirPlus = c'.readdirPlus := Bool.eq_iff_iff.mpr (h .readdirPlus)
  have hdelete : c.deleteAccess = c'.deleteAccess := Bool.eq_iff_iff.mpr (h .deleteAccess)
  have htrunc : c.openTrunc = c'.openTrunc := Bool.eq_iff_iff.mpr (h .openTrunc)
  have hstat : c.statEx = c'.statEx := Bool.eq_iff_iff.mpr (h .statEx)
  cases c
  cases c'
  simp only [mk.injEq]
  exact ⟨hcase, hplus, hdelete, htrunc, hstat⟩

/-- The number of the bit that stands for a feature on a platform, if there is one. -/
def Feature.place? : Platform → Feature → Option Nat
  | _, .openTrunc => some 3
  | .windows, .readdirPlus => some 21
  | .windows, .statEx => some 23
  | .windows, .deleteAccess => some 24
  | .windows, .caseInsensitive => some 29
  | _, _ => none

namespace Offer

/-- The numbers of the bits of a word that are set. -/
def bits (w : UInt32) : Set Nat :=
  fun k => w.toBitVec.getLsbD k

instance (k : Nat) (w : UInt32) : Decidable (k ∈ bits w) :=
  inferInstanceAs (Decidable (w.toBitVec.getLsbD k = true))

theorem bits_inj {v w : UInt32} (h : bits v = bits w) : v = w := by
  apply UInt32.toBitVec_inj.mp
  apply BitVec.eq_of_getLsbD_eq
  intro k _
  exact Bool.eq_iff_iff.mpr (Iff.of_eq (congrFun h k))

theorem mem_bits_or {v w : UInt32} {k : Nat} : k ∈ bits (v ||| w) ↔ k ∈ bits v ∨ k ∈ bits w := by
  show (v ||| w).toBitVec.getLsbD k ↔ _
  rw [UInt32.toBitVec_or, BitVec.getLsbD_or, Bool.or_eq_true]
  rfl

/-- The word that has one bit only. -/
def single (k : Nat) : UInt32 :=
  ⟨BitVec.twoPow 32 k⟩

theorem has_single {w : UInt32} {k : Nat} (hk : k < 32) : has w (single k) ↔ k ∈ bits w := by
  have hand : (w &&& single k).toBitVec =
      if w.toBitVec.getLsbD k then BitVec.twoPow 32 k else 0#32 := BitVec.and_twoPow _ _
  have hne : BitVec.twoPow 32 k ≠ 0#32 := by
    intro h
    have hbit := congrArg (fun b : BitVec 32 => b.getLsbD k) h
    simp [hk] at hbit
  show (w &&& single k != 0) = true ↔ w.toBitVec.getLsbD k
  rw [bne_iff_ne, Ne, ← UInt32.toBitVec_inj, hand]
  split
  next h => simpa [h] using hne
  next h => simp [h]

theorem mem_bits_wanted {granted : Bool} {k i : Nat} (hk : k < 32) :
    i ∈ bits (wanted granted (single k)) ↔ granted ∧ k = i := by
  cases granted with
  | false =>
    show (0#32).getLsbD i ↔ _
    simp
  | true =>
    show (BitVec.twoPow 32 k).getLsbD i ↔ _
    simp [BitVec.getLsbD_twoPow, hk]

theorem openTrunc_eq : openTrunc = single 3 := by decide

theorem readdirPlus_eq : readdirPlus = single 21 := by decide

theorem statEx_eq : statEx = single 23 := by decide

theorem deleteAccess_eq : deleteAccess = single 24 := by decide

theorem caseInsensitive_eq : caseInsensitive = single 29 := by decide

end Offer

open Offer

/-- The feature can be had: its bit is offered, or it needs no offer. -/
inductive Feature.Available (offered : UInt32) : Platform → Feature → Prop
  | offered {p : Platform} {f : Feature} {k : Nat} (place : f.place? p = some k)
      (mem : k ∈ bits offered) : Available offered p f
  | unasked : Available offered .macos .caseInsensitive

theorem Feature.available_iff {p : Platform} {offered : UInt32} {f : Feature} :
    f.Available offered p ↔
      (∃ k, f.place? p = some k ∧ k ∈ bits offered) ∨ p = .macos ∧ f = .caseInsensitive := by
  constructor
  · intro h
    cases h with
    | offered place mem => exact .inl ⟨_, place, mem⟩
    | unasked => exact .inr ⟨rfl, rfl⟩
  · rintro (⟨k, place, mem⟩ | ⟨rfl, rfl⟩)
    · exact .offered place mem
    · exact .unasked

/-! ## What is settled -/

variable {p : Platform} {offered offered' : UInt32} {asked asked' : Capabilities}

/-- A feature is granted if it can be had and is asked for, or wanted anyway. -/
theorem granted_iff (f : Feature) :
    (negotiate p offered asked).granted.Has f ↔
      (asked.Has f ∨ f = .statEx) ∧ f.Available offered p := by
  rw [Feature.available_iff]
  cases p with
  | posix =>
    rw [negotiate_posix]
    cases f <;> simp [Capabilities.Has, Feature.place?, openTrunc_eq, has_single]
  | macos =>
    rw [negotiate_macos]
    cases f <;> simp [Capabilities.Has, Feature.place?, openTrunc_eq, has_single]
  | windows =>
    rw [negotiate_windows]
    cases f <;>
      simp [Capabilities.Has, Feature.place?, openTrunc_eq, readdirPlus_eq, statEx_eq,
        deleteAccess_eq, caseInsensitive_eq, has_single]

/-- Those bits are wanted that stand for granted features. -/
theorem mem_want_iff (k : Nat) :
    k ∈ bits (negotiate p offered asked).want ↔
      ∃ f, (negotiate p offered asked).granted.Has f ∧ f.place? p = some k := by
  rw [Feature.exists_iff]
  cases p with
  | posix =>
    rw [negotiate_posix]
    simp [Capabilities.Has, Feature.place?, openTrunc_eq, mem_bits_wanted]
  | macos =>
    rw [negotiate_macos]
    simp [Capabilities.Has, Feature.place?, openTrunc_eq, mem_bits_wanted]
  | windows =>
    rw [negotiate_windows]
    simp only [Capabilities.Has, Feature.place?, openTrunc_eq, readdirPlus_eq, statEx_eq,
      deleteAccess_eq, caseInsensitive_eq, mem_bits_or, mem_bits_wanted, Nat.reduceLT,
      Option.some.injEq]
    tauto

/-- Look-ups that ignore case are enabled where they are granted without an offer. -/
theorem enable_eq :
    (negotiate p offered asked).enable =
      if p = .macos ∧ (negotiate p offered asked).granted.caseInsensitive then
        enableCaseInsensitive
      else 0 := by
  cases p with
  | posix => rfl
  | macos =>
    rw [negotiate_macos]
    simp [wanted]
  | windows => rfl

/-- No bit is wanted that is not offered. -/
theorem want_subset : bits (negotiate p offered asked).want ⊆ bits offered := by
  intro k h
  obtain ⟨f, hgranted, hplace⟩ := (mem_want_iff k).mp h
  obtain ⟨-, havailable⟩ := (granted_iff f).mp hgranted
  cases havailable with
  | offered place mem =>
    obtain rfl : _ = k := Option.some.inj (place.symm.trans hplace)
    exact mem
  | unasked => cases hplace

/-- What is granted settles all. -/
theorem negotiate_ext
    (h : ∀ f, (negotiate p offered asked).granted.Has f ↔
      (negotiate p offered' asked').granted.Has f) :
    negotiate p offered asked = negotiate p offered' asked' := by
  have hgranted : (negotiate p offered asked).granted = (negotiate p offered' asked').granted :=
    Capabilities.ext_has h
  have hwant : (negotiate p offered asked).want = (negotiate p offered' asked').want := by
    apply bits_inj
    ext k
    rw [mem_want_iff, mem_want_iff, hgranted]
  have henable : (negotiate p offered asked).enable = (negotiate p offered' asked').enable := by
    rw [enable_eq, enable_eq, hgranted]
  generalize negotiate p offered asked = n at *
  generalize negotiate p offered' asked' = n' at *
  cases n
  cases n'
  simp only [Negotiation.mk.injEq]
  exact ⟨hwant, henable, hgranted⟩

/-! ## Two negotiations -/

/-- Another offer with the same bits for the features of the platform settles the same. -/
theorem negotiate_congr
    (h : ∀ f k, Feature.place? p f = some k → (k ∈ bits offered ↔ k ∈ bits offered')) :
    negotiate p offered asked = negotiate p offered' asked := by
  apply negotiate_ext
  intro f
  have hplaces : (∃ k, f.place? p = some k ∧ k ∈ bits offered) ↔
      ∃ k, f.place? p = some k ∧ k ∈ bits offered' :=
    exists_congr fun k => and_congr_right fun hplace => h f k hplace
  rw [granted_iff, granted_iff, Feature.available_iff, Feature.available_iff, hplaces]

/-- A greater offer has no feature less. -/
theorem Feature.Available.mono {f : Feature} (h : f.Available offered p)
    (hoffered : bits offered ⊆ bits offered') : f.Available offered' p := by
  cases h with
  | offered place mem => exact .offered place (hoffered mem)
  | unasked => exact .unasked

/-- With more offered and more asked for, no feature less is granted. -/
theorem granted_mono (hoffered : bits offered ⊆ bits offered')
    (hasked : ∀ f, asked.Has f → asked'.Has f) {f : Feature}
    (h : (negotiate p offered asked).granted.Has f) :
    (negotiate p offered' asked').granted.Has f := by
  rw [granted_iff] at h ⊢
  obtain ⟨hwished, havailable⟩ := h
  exact ⟨hwished.imp_left (hasked f), havailable.mono hoffered⟩

/-- So no bit less is wanted. -/
theorem want_mono (hoffered : bits offered ⊆ bits offered')
    (hasked : ∀ f, asked.Has f → asked'.Has f) :
    bits (negotiate p offered asked).want ⊆ bits (negotiate p offered' asked').want := by
  intro k h
  rw [mem_want_iff] at h ⊢
  obtain ⟨f, hgranted, hplace⟩ := h
  exact ⟨f, granted_mono hoffered hasked hgranted, hplace⟩

/-- What is wanted can be had again: it is all that was granted. -/
theorem negotiate_want :
    negotiate p (negotiate p offered asked).want asked = negotiate p offered asked := by
  apply negotiate_ext
  intro f
  constructor
  · exact granted_mono want_subset fun _ => id
  · intro h
    obtain ⟨hwished, havailable⟩ := (granted_iff f).mp h
    rw [granted_iff]
    refine ⟨hwished, ?_⟩
    cases havailable with
    | offered place _ => exact .offered place ((mem_want_iff _).mpr ⟨f, h, place⟩)
    | unasked => exact .unasked

/-- What `negotiate` settles, on every platform, whatever is offered and asked for.

    The `bits` that are wanted are offered, and they are the places of the features granted.
    Look-ups that ignore case have no place where they need no offer, but are enabled there, and
    nothing else ever is. A feature is granted if and only if it is `Available` and asked for, but
    for `statEx`, which is wanted anyway. With more offered or asked for, no feature less is
    granted and no bit less is wanted; bits that are the place of no feature do not matter; and
    what is wanted, as an offer, settles the same again. -/
theorem negotiate_settles (p : Platform) (offered : UInt32) (asked : Capabilities) :
    bits (negotiate p offered asked).want ⊆ bits offered ∧
    (∀ k, k ∈ bits (negotiate p offered asked).want ↔
      ∃ f, (negotiate p offered asked).granted.Has f ∧ f.place? p = some k) ∧
    (negotiate p offered asked).enable =
      (if p = .macos ∧ (negotiate p offered asked).granted.caseInsensitive then 1 else 0) ∧
    (∀ f, (negotiate p offered asked).granted.Has f ↔
      (asked.Has f ∨ f = .statEx) ∧ f.Available offered p) ∧
    (∀ offered' asked', bits offered ⊆ bits offered' → (∀ f, asked.Has f → asked'.Has f) →
      (∀ f, (negotiate p offered asked).granted.Has f →
        (negotiate p offered' asked').granted.Has f) ∧
      bits (negotiate p offered asked).want ⊆ bits (negotiate p offered' asked').want) ∧
    (∀ offered', (∀ f k, Feature.place? p f = some k → (k ∈ bits offered ↔ k ∈ bits offered')) →
      negotiate p offered' asked = negotiate p offered asked) ∧
    negotiate p (negotiate p offered asked).want asked = negotiate p offered asked := by
  refine ⟨want_subset, mem_want_iff, enable_eq, granted_iff, ?_, ?_, negotiate_want⟩
  · intro offered' asked' hoffered hasked
    exact ⟨fun f => granted_mono hoffered hasked, want_mono hoffered hasked⟩
  · intro offered' hsame
    exact (negotiate_congr hsame).symm

/-- Where the flags of files are offered, too, they are granted and wanted beside what
    was before, and a bit that stands for nothing changes nothing. -/
theorem negotiate_settles_more :
    (negotiate .windows 0x00800008 { openTrunc := true }).granted.Has .openTrunc ∧
      3 ∈ bits (negotiate .windows 0x00800008 { openTrunc := true }).want ∧
      negotiate .windows 0x0080000f { openTrunc := true } =
        negotiate .windows 0x00800008 { openTrunc := true } := by
  have hless : bits 0x00000008 ⊆ bits 0x00800008 := fun k h =>
    (mem_bits_or (v := 0x00000008) (w := 0x00800000)).mpr (.inl h)
  have hplaces : ∀ f k, Feature.place? .windows f = some k →
      (k ∈ bits 0x00800008 ↔ k ∈ bits 0x0080000f) := by
    intro f k hplace
    cases f <;> (obtain rfl := Option.some.inj hplace) <;> decide
  have hmore := (negotiate_settles .windows 0x00000008 { openTrunc := true }).2.2.2.2.1 0x00800008
    { openTrunc := true } hless fun _ => id
  have hsame := (negotiate_settles .windows 0x00800008 { openTrunc := true }).2.2.2.2.2.1 0x0080000f
    hplaces
  exact ⟨hmore.1 .openTrunc rfl, hmore.2 rfl, hsame⟩

end HostedFs
