import HostedFs.Data.Codec
import HostedFs.Proofs.Json.Values
import HostedFs.Proofs.Toml.Documents
import Mathlib.Algebra.Group.Int.Defs

/-! # What formats keep

    Little is asked of a format: that it reads back the kinds of documents that settings
    and records are, and that it takes no number for another one. The project's own
    formats do, and so does any library that follows the standards.

    * `SettingsDocument`: flags, texts, lists of texts, and tables of these.
    * `Codec.KeepsSettings`: such a document is read back, in any order.
    * `Numeric`: flags, integers of 64 bits, and lists and tables of these.
    * `ReadAs`: what a tree may be read as, if some of its integers have more bits.
    * `Codec.KeepsIntegers`: numeric trees are read back, and others at most as that.
    * `Toml.keepsSettings`, `Json.keepsIntegers`: `Toml.codec` and `Json.codec`.
-/

namespace HostedFs

/-! ## Settings -/

/-- The value of a setting. -/
inductive Setting : Tree → Prop
  | flag (b : Bool) : Setting (.flag b)
  | text (s : String) : Setting (.text s)
  | texts (texts : List String) : Setting (.list (texts.map .text))

/-- Settings under keys that need no quotes. -/
structure SettingsTable (entries : List (String × Tree)) : Prop where
  distinct : (entries.map Prod.fst).Nodup
  bare : ∀ p ∈ entries, Toml.IsBare p.1
  settings : ∀ p ∈ entries, Setting p.2

/-- Settings and tables of settings. -/
structure SettingsDocument (entries : List (String × Tree)) : Prop where
  distinct : (entries.map Prod.fst).Nodup
  bare : ∀ p ∈ entries, Toml.IsBare p.1
  settings : ∀ p ∈ entries, Setting p.2 ∨ ∃ inner, p.2 = .table inner ∧ SettingsTable inner

theorem SettingsTable.document {entries : List (String × Tree)} (h : SettingsTable entries) :
    SettingsDocument entries where
  distinct := h.distinct
  bare := h.bare
  settings p hp := .inl (h.settings p hp)

/-- The same value, but for the order in which a table has its entries. -/
inductive Reordered : Tree → Tree → Prop
  | same (tree : Tree) : Reordered tree tree
  | table {entries after : List (String × Tree)} (perm : after.Perm entries) :
      Reordered (.table entries) (.table after)

/-- The same entries in another order, and so those of the tables among them. -/
def Rearranged (entries after : List (String × Tree)) : Prop :=
  ∃ part : String × Tree → Tree, (∀ p ∈ entries, Reordered p.2 (part p)) ∧
    after.Perm (entries.map fun p => (p.1, part p))

theorem Rearranged.of_perm {entries after : List (String × Tree)} (h : after.Perm entries) :
    Rearranged entries after := by
  refine ⟨Prod.snd, fun p _ => .same p.2, ?_⟩
  have hself : (entries.map fun p => (p.1, p.2)) = entries := List.map_id entries
  rwa [hself]

/-- What settings ask of a format: documents of settings are read back. The order of the
    keys is up to the format. -/
structure Codec.KeepsSettings (toml : Codec (List (String × Tree))) : Prop where
  read_back : ∀ entries, SettingsDocument entries →
    ∃ after, Rearranged entries after ∧ toml.parse? (toml.render entries) = some (.table after)

namespace Toml

theorem Simple.of_setting {tree : Tree} (h : Setting tree) : Simple depthLimit tree := by
  cases h with
  | flag b => exact .flag b
  | text s => exact .text s
  | texts texts => exact .texts texts

theorem Pairs.of_settings {entries : List (String × Tree)} (h : SettingsTable entries) :
    Pairs entries where
  distinct := h.distinct
  bare := h.bare
  simple p hp := .of_setting (h.settings p hp)

theorem Document.of_settings {entries : List (String × Tree)} (h : SettingsDocument entries) :
    Document entries where
  distinct := h.distinct
  bare := h.bare
  written p hp := by
    obtain setting | ⟨inner, htable, hinner⟩ := h.settings p hp
    · exact .inl (.of_setting setting)
    · exact .inr ⟨inner, htable, .of_settings hinner⟩

/-- `Toml.codec` reads settings back, the tables after the others. -/
theorem keepsSettings : codec.KeepsSettings where
  read_back entries h :=
    ⟨arranged entries, .of_perm (arranged_perm entries), parse?_render (.of_settings h)⟩

end Toml

/-! ## Integers -/

/-- The integer has 64 bits at most, with a sign or without one. -/
def FitsWord (n : Int) : Prop :=
  -2 ^ 63 ≤ n ∧ n < 2 ^ 64

/-- Every kind of integers has 64 bits at most. -/
theorem fitsWord_of_contains {kind : IntKind} {n : Int} (h : kind.Contains n) : FitsWord n := by
  obtain ⟨signed, width⟩ := kind
  have hhalf : 0 < width.half ∧ width.half ≤ 2 ^ 63 := by
    cases width with
    | w8 | w16 | w32 | w64 => decide
  cases signed with
  | false =>
    obtain ⟨hmin, hmax⟩ := (IntKind.contains_unsigned width n).mp h
    constructor
    · omega
    · omega
  | true =>
    obtain ⟨hmin, hmax⟩ := (IntKind.contains_signed width n).mp h
    constructor
    · omega
    · omega

/-- Flags, integers of 64 bits, and lists and tables of these, with so many of them in one
    another at most. -/
inductive Numeric : Nat → Tree → Prop
  | flag {depth : Nat} (b : Bool) : Numeric depth (.flag b)
  | int {depth : Nat} {n : Int} (fits : FitsWord n) : Numeric depth (.int n)
  | list {depth : Nat} {items : List Tree} (numeric : ∀ item ∈ items, Numeric depth item) :
      Numeric (depth + 1) (.list items)
  | table {depth : Nat} {entries : List (String × Tree)}
      (numeric : ∀ p ∈ entries, Numeric depth p.2) : Numeric (depth + 1) (.table entries)

/-- What a tree is read as. An integer of more than 64 bits may be taken for a number that
    is none of the integers, and so be a value that no field can hold. -/
inductive ReadAs : Tree → Tree → Prop
  | same (tree : Tree) : ReadAs tree tree
  | beyond {n : Int} (long : ¬ FitsWord n) : ReadAs (.int n) .other
  | list {items : List Tree} (part : Tree → Tree)
      (parts : ∀ item ∈ items, ReadAs item (part item)) :
      ReadAs (.list items) (.list (items.map part))
  | table {entries : List (String × Tree)} (part : String × Tree → Tree)
      (parts : ∀ p ∈ entries, ReadAs p.2 (part p)) :
      ReadAs (.table entries) (.table (entries.map fun p => (p.1, part p)))

/-- What records ask of a format. Records have no tables in the tables within them, so no
    more than this nesting is asked of it. -/
structure Codec.KeepsIntegers (json : Codec Tree) : Prop where
  read_back : ∀ tree, Numeric 2 tree → json.parse? (json.render tree) = some tree
  read_as : ∀ tree tree', Json.Written tree → json.parse? (json.render tree) = some tree' →
    ReadAs tree tree'

namespace Json

theorem Written.of_numeric {depth : Nat} {tree : Tree} (h : Numeric depth tree) : Written tree := by
  induction h with
  | flag b => exact .flag b
  | int _ => exact .int _
  | list _ written => exact .list written
  | table _ written => exact .table written

/-- `Json.codec` reads integers of any size back. -/
theorem keepsIntegers : codec.KeepsIntegers where
  read_back tree h := parse?_render (.of_numeric h)
  read_as tree tree' written h := by
    obtain rfl := Option.some.inj ((parse?_render written).symm.trans h)
    exact .same tree

end Json

end HostedFs
