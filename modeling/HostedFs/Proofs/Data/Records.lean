import HostedFs.Proofs.Data.Codecs
import HostedFs.Proofs.Data.Shapes

/-! # Records in texts

    A record that was written is read again as it was, whether it is a table or a list. An
    integer is read as the document says it or not at all. This holds in every format with
    `Codec.KeepsIntegers`, even one that takes longer integers for other numbers.

    * `Timespec.ofTree?_reshaped`, `Stat.ofTree?_reshaped` and others: records in any shape.
    * `Timespec.fields`, `Stat.fields` and others: where the integers of a record stand.
    * `RecordKind.spots`: those of every kind of records.
    * `RecordKind.kept_in_texts`: every record of every kind is read from its text as it was, and
      no integer is changed.
-/

namespace HostedFs

open HostedFs.Tree (Reshaped Spot)
open Json (Written)

variable {strictness : Tree.Strictness} {tree : Tree}

@[simp] theorem word?_ofWord {α : Type} [Word α] (a : α) : (Tree.ofWord a).word? = some a :=
  Tree.word?_eq_some_iff.mpr rfl

/-- A word that is read first. -/
theorem bind_word?_eq_some_iff {α β : Type} [Word α] {next : α → Option β} {b : β} :
    tree.word?.bind next = some b ↔ ∃ a, tree = .ofWord a ∧ next a = some b := by
  simp only [Option.bind_eq_some_iff, Tree.word?_eq_some_iff]

theorem numeric_ofWord {α : Type} [Word α] {depth : Nat} (a : α) : Numeric depth (.ofWord a) :=
  .int (fitsWord_of_contains (Word.contains_toInt a))

theorem ofWord_ne_table {α : Type} [Word α] (a : α) (entries : List (String × Tree)) :
    Tree.ofWord a ≠ .table entries :=
  nofun

/-- Other shapes of a numeric tree are numeric, too. -/
theorem numeric_reshaped {shape : Tree} (h : Reshaped tree shape) {depth : Nat}
    (numeric : Numeric depth tree) : Numeric depth shape := by
  induction h generalizing depth with
  | same => exact numeric
  | table part _ ih =>
    cases numeric with
    | table parts =>
      apply Numeric.table
      simp only [List.mem_map, forall_exists_index, and_imp]
      rintro _ p hp rfl
      exact ih p hp (parts p hp)
  | list part _ ih =>
    cases numeric with
    | table parts =>
      apply Numeric.list
      simp only [List.mem_map, forall_exists_index, and_imp]
      rintro _ p hp rfl
      exact ih p hp (parts p hp)

/-- What a tree gives to a field is read as such. -/
theorem ReadAs.gives {tree' value : Tree} {names : List String} {name : String}
    (h : ReadAs tree tree') (given : tree.Gives names name value) :
    ∃ value', tree'.Gives names name value' ∧ ReadAs value value' := by
  cases h with
  | same => exact ⟨value, given, .same value⟩
  | beyond => cases given
  | list part parts =>
    cases given with
    | list place item =>
      have hmem := List.mem_of_getElem? item
      exact ⟨part value, .list place (by simp [item]), parts value hmem⟩
  | table part parts =>
    cases given with
    | table mem => exact ⟨_, .table (List.mem_map_of_mem mem), parts _ mem⟩

/-- So is every part of it. -/
theorem ReadAs.at {tree' part : Tree} {path : List (List String × String)}
    (h : ReadAs tree tree') (hpart : Tree.At path tree part) :
    ∃ part', Tree.At path tree' part' ∧ ReadAs part part' := by
  induction path generalizing tree tree' with
  | nil =>
    obtain rfl : part = tree := hpart
    exact ⟨tree', rfl, h⟩
  | cons step path ih =>
    obtain ⟨inner, given, hpart⟩ := hpart
    obtain ⟨inner', given', hinner⟩ := h.gives given
    obtain ⟨part', hpart', hread⟩ := ih hinner hpart
    exact ⟨part', ⟨inner', given', hpart'⟩, hread⟩

/-! ## Times -/

namespace Timespec

theorem numeric_toTree (t : Timespec) {depth : Nat} : Numeric (depth + 1) t.toTree := by
  apply Numeric.table
  simp [numeric_ofWord]

/-- A stamp is read from every shape of it. -/
theorem ofTree?_reshaped {t : Timespec} (h : Reshaped t.toTree tree) :
    ofTree? strictness tree = some t := by
  have hdistinct : fieldNames.Nodup := by decide
  exact ofTree?_eq_some_iff.mpr
    (h.fields?_flat strictness hdistinct rfl (by simp [ofWord_ne_table]))

/-- The fields of a stamp, and the integers in them. -/
def fields : List (String × List (Spot Timespec)) :=
  [("sec", [.word sec]), ("nsec", [.word nsec])]

theorem exact_fields : ∀ spot ∈ Spot.ofFields fields, spot.Exact (ofTree? strictness) := by
  have hdistinct : (fields.map Prod.fst).Nodup := by decide
  apply Spot.exact_ofFields hdistinct
  intro tree t h
  refine ⟨_, ofTree?_eq_some_iff.mp h, ?_⟩
  simp [fields, Spot.holds_word]

end Timespec

/-! ## Metadata -/

namespace Stat

theorem numeric_toTree (s : Stat) : Numeric 2 s.toTree := by
  apply Numeric.table
  simp [numeric_ofWord, Timespec.numeric_toTree]

/-- The values of the fields, where the times are given. -/
def values (s : Stat) (time : Stamp → Tree) : List Tree :=
  [.ofWord s.dev, .ofWord s.ino, .ofWord s.mode, .ofWord s.nlink, .ofWord s.uid, .ofWord s.gid,
    .ofWord s.rdev, .ofWord s.size, time .atim, time .mtim, time .ctim, time .birthtim,
    .ofWord s.blksize, .ofWord s.blocks, .ofWord s.flags]

/-- One of four values, by the stamp that it belongs to. -/
def Stamp.pick {α : Type} (atim mtim ctim birthtim : α) : Stamp → α
  | .atim => atim
  | .mtim => mtim
  | .ctim => ctim
  | .birthtim => birthtim

/-- The metadata of a file are read from words and stamps. -/
theorem ofTree?_eq_some_iff {s : Stat} :
    ofTree? strictness tree = some s ↔
      ∃ time : Stamp → Tree,
        (∀ stamp, Timespec.ofTree? strictness (time stamp) = some (stamp.of s)) ∧
          tree.fields? strictness fieldNames = some ((s.values time).map some) := by
  unfold ofTree?
  constructor
  · intro h
    split at h
    next atim mtim ctim birthtim _ _ _ hfields =>
      -- The stamps are read after eight words and before three.
      iterate 8
        replace h := bind_word?_eq_some_iff.mp h
        obtain ⟨_, rfl, h⟩ := h
      replace h := Option.bind_eq_some_iff.mp h
      obtain ⟨_, hatim, h⟩ := h
      replace h := Option.bind_eq_some_iff.mp h
      obtain ⟨_, hmtim, h⟩ := h
      replace h := Option.bind_eq_some_iff.mp h
      obtain ⟨_, hctim, h⟩ := h
      replace h := Option.bind_eq_some_iff.mp h
      obtain ⟨_, hbirthtim, h⟩ := h
      iterate 3
        replace h := bind_word?_eq_some_iff.mp h
        obtain ⟨_, rfl, h⟩ := h
      cases h
      refine ⟨Stamp.pick atim mtim ctim birthtim, ?_, hfields⟩
      intro stamp
      cases stamp with
      | atim => exact hatim
      | mtim => exact hmtim
      | ctim => exact hctim
      | birthtim => exact hbirthtim
    next => cases h
  · rintro ⟨time, htime, h⟩
    rw [h]
    have hatim := htime .atim
    have hmtim := htime .mtim
    have hctim := htime .ctim
    have hbirthtim := htime .birthtim
    simp [values, Stamp.of, hatim, hmtim, hctim, hbirthtim]

/-- Metadata are read from every shape of them, whatever shapes the stamps have. -/
theorem ofTree?_reshaped {s : Stat} (h : Reshaped s.toTree tree) :
    ofTree? strictness tree = some s := by
  have hdistinct : fieldNames.Nodup := by decide
  obtain ⟨part, parts, hfields⟩ := h.fields?_eq strictness hdistinct rfl
  let time (stamp : Stamp) : Tree := part (stamp.name, (stamp.of s).toTree)
  have htime (stamp : Stamp) : Timespec.ofTree? strictness (time stamp) = some (stamp.of s) := by
    apply Timespec.ofTree?_reshaped
    apply parts (stamp.name, (stamp.of s).toTree)
    cases stamp with
    | atim | mtim | ctim | birthtim => simp [Stamp.name, Stamp.of]
  have hword {α : Type} [Word α] {name : String} {a : α}
      (hmem : (name, Tree.ofWord a) ∈ _) : part (name, .ofWord a) = .ofWord a :=
    (parts _ hmem).eq_of_ne_table (ofWord_ne_table a)
  apply ofTree?_eq_some_iff.mpr
  refine ⟨time, htime, hfields.trans ?_⟩
  simp [values, time, Stamp.name, Stamp.of, hword]

/-- The fields of the metadata, and the integers in them. -/
def fields : List (String × List (Spot Stat)) :=
  [("dev", [.word dev]), ("ino", [.word ino]), ("mode", [.word mode]), ("nlink", [.word nlink]),
    ("uid", [.word uid]), ("gid", [.word gid]), ("rdev", [.word rdev]), ("size", [.word size]),
    ("atim", (Spot.ofFields Timespec.fields).map (.inside atim)),
    ("mtim", (Spot.ofFields Timespec.fields).map (.inside mtim)),
    ("ctim", (Spot.ofFields Timespec.fields).map (.inside ctim)),
    ("birthtim", (Spot.ofFields Timespec.fields).map (.inside birthtim)),
    ("blksize", [.word blksize]), ("blocks", [.word blocks]), ("flags", [.word flags])]

/-- The stamp has the integers of what it is read from. -/
theorem holds_stamp {s : Stat} (get : Stat → Timespec) {part : Tree}
    (h : Timespec.ofTree? strictness part = some (get s)) :
    ∀ spot ∈ (Spot.ofFields Timespec.fields).map (Spot.inside get),
      spot.Holds s (some part) := by
  intro spot hspot
  obtain ⟨inner, hinner, rfl⟩ := List.mem_map.mp hspot
  intro tree part' htree hpart
  cases htree
  have hagrees := Timespec.exact_fields inner hinner part (get s) part' h hpart
  exact ⟨hagrees.held, hagrees.has⟩

theorem exact_fields : ∀ spot ∈ Spot.ofFields fields, spot.Exact (ofTree? strictness) := by
  have hdistinct : (fields.map Prod.fst).Nodup := by decide
  apply Spot.exact_ofFields hdistinct
  intro tree s h
  obtain ⟨time, htime, hfields⟩ := ofTree?_eq_some_iff.mp h
  refine ⟨_, hfields, ?_⟩
  simp only [fields, values, List.map_cons, List.map_nil, List.forall₂_cons,
    List.forall_mem_singleton, Spot.holds_word, true_and, List.Forall₂.nil, and_true]
  exact ⟨holds_stamp atim (htime .atim), holds_stamp mtim (htime .mtim),
    holds_stamp ctim (htime .ctim), holds_stamp birthtim (htime .birthtim)⟩

end Stat

namespace Statfs

theorem numeric_toTree (s : Statfs) : Numeric 2 s.toTree := by
  apply Numeric.table
  simp [numeric_ofWord]

/-- The values of the fields. -/
def values (s : Statfs) : List Tree :=
  [.ofWord s.bsize, .ofWord s.frsize, .ofWord s.blocks, .ofWord s.bfree, .ofWord s.bavail,
    .ofWord s.files, .ofWord s.ffree, .ofWord s.favail, .ofWord s.fsid, .ofWord s.flag,
    .ofWord s.namemax]

/-- The metadata of a filesystem are read from words. -/
theorem ofTree?_eq_some_iff {s : Statfs} :
    ofTree? strictness tree = some s ↔
      tree.fields? strictness fieldNames = some (s.values.map some) := by
  unfold ofTree?
  constructor
  · intro h
    split at h
    next hfields =>
      iterate 11
        replace h := bind_word?_eq_some_iff.mp h
        obtain ⟨_, rfl, h⟩ := h
      cases h
      exact hfields
    next => cases h
  · intro h
    rw [h]
    simp [values]

theorem ofTree?_reshaped {s : Statfs} (h : Reshaped s.toTree tree) :
    ofTree? strictness tree = some s := by
  have hdistinct : fieldNames.Nodup := by decide
  exact ofTree?_eq_some_iff.mpr
    (h.fields?_flat strictness hdistinct rfl (by simp [ofWord_ne_table]))

/-- The fields of the metadata, and the integers in them. -/
def fields : List (String × List (Spot Statfs)) :=
  [("bsize", [.word bsize]), ("frsize", [.word frsize]), ("blocks", [.word blocks]),
    ("bfree", [.word bfree]), ("bavail", [.word bavail]), ("files", [.word files]),
    ("ffree", [.word ffree]), ("favail", [.word favail]), ("fsid", [.word fsid]),
    ("flag", [.word flag]), ("namemax", [.word namemax])]

theorem exact_fields : ∀ spot ∈ Spot.ofFields fields, spot.Exact (ofTree? strictness) := by
  have hdistinct : (fields.map Prod.fst).Nodup := by decide
  apply Spot.exact_ofFields hdistinct
  intro tree s h
  refine ⟨_, ofTree?_eq_some_iff.mp h, ?_⟩
  simp [fields, values, Spot.holds_word]

end Statfs

/-! ## Features -/

namespace Capabilities

theorem numeric_toTree (c : Capabilities) : Numeric 2 c.toTree := by
  apply Numeric.table
  simp [Numeric.flag]

/-- A set of features is read from flags, where one that is missing is unset. -/
theorem ofTree?_eq_some_iff {c : Capabilities} :
    ofTree? strictness tree = some c ↔
      ∃ caseInsensitive readdirPlus deleteAccess openTrunc statEx,
        tree.fields? strictness fieldNames =
            some [caseInsensitive, readdirPlus, deleteAccess, openTrunc, statEx] ∧
          flagOrUnset caseInsensitive = some c.caseInsensitive ∧
          flagOrUnset readdirPlus = some c.readdirPlus ∧
          flagOrUnset deleteAccess = some c.deleteAccess ∧
          flagOrUnset openTrunc = some c.openTrunc ∧ flagOrUnset statEx = some c.statEx := by
  unfold ofTree?
  constructor
  · intro h
    split at h
    next hfields =>
      obtain ⟨_, hcaseInsensitive, h⟩ := Option.bind_eq_some_iff.mp h
      obtain ⟨_, hreaddirPlus, h⟩ := Option.bind_eq_some_iff.mp h
      obtain ⟨_, hdeleteAccess, h⟩ := Option.bind_eq_some_iff.mp h
      obtain ⟨_, hopenTrunc, h⟩ := Option.bind_eq_some_iff.mp h
      obtain ⟨_, hstatEx, h⟩ := Option.bind_eq_some_iff.mp h
      cases h
      exact ⟨_, _, _, _, _, hfields, hcaseInsensitive, hreaddirPlus, hdeleteAccess, hopenTrunc,
        hstatEx⟩
    next => cases h
  · rintro ⟨_, _, _, _, _, hfields, hcaseInsensitive, hreaddirPlus, hdeleteAccess, hopenTrunc,
      hstatEx⟩
    rw [hfields]
    simp [hcaseInsensitive, hreaddirPlus, hdeleteAccess, hopenTrunc, hstatEx]

/-- A set of features is read from every shape of it. -/
theorem ofTree?_reshaped {c : Capabilities} (h : Reshaped c.toTree tree) :
    ofTree? strictness tree = some c := by
  have hdistinct : fieldNames.Nodup := by decide
  have hfields := h.fields?_flat strictness hdistinct rfl (by simp)
  exact ofTree?_eq_some_iff.mpr ⟨_, _, _, _, _, hfields, rfl, rfl, rfl, rfl, rfl⟩

/-- The fields of a set of features, where no integer fits. -/
def fields : List (String × List (Spot Capabilities)) :=
  fieldNames.map fun name => (name, [.flag])

/-- What a flag is read from says no integer. -/
theorem holds_flag {c : Capabilities} {found : Option Tree} {b : Bool}
    (h : flagOrUnset found = some b) : Spot.flag.Holds c found := by
  rintro tree part rfl rfl
  constructor
  · rintro rfl
    cases h
  · rintro n rfl
    cases h

theorem exact_fields : ∀ spot ∈ Spot.ofFields fields, spot.Exact (ofTree? strictness) := by
  have hdistinct : (fields.map Prod.fst).Nodup := by decide
  apply Spot.exact_ofFields hdistinct
  intro tree c h
  obtain ⟨_, _, _, _, _, hfields, hcaseInsensitive, hreaddirPlus, hdeleteAccess, hopenTrunc,
    hstatEx⟩ := ofTree?_eq_some_iff.mp h
  refine ⟨_, hfields, ?_⟩
  simp only [fields, fieldNames, List.map_cons, List.map_nil, List.forall₂_cons,
    List.forall_mem_singleton, List.Forall₂.nil, and_true]
  exact ⟨holds_flag hcaseInsensitive, holds_flag hreaddirPlus, holds_flag hdeleteAccess,
    holds_flag hopenTrunc, holds_flag hstatEx⟩

end Capabilities

/-! ## Identifiers -/

section Whole

variable {α ρ : Type} [Word α] {make : α → ρ} {get : ρ → α}

/-- What is made of one word is read from the word. -/
theorem map_word?_reshaped (inverse : ∀ r, make (get r) = r) {r : ρ}
    (h : Reshaped (.ofWord (get r)) tree) : tree.word?.map make = some r := by
  rw [h.eq_of_ne_table (ofWord_ne_table _), word?_ofWord, Option.map_some, inverse]

theorem exact_word (inverse : ∀ a, get (make a) = a) :
    (Spot.word get).Exact fun tree => tree.word?.map make := by
  rintro tree r part hr rfl
  obtain ⟨a, ha, rfl⟩ := Option.map_eq_some_iff.mp hr
  obtain rfl := Tree.word?_eq_some_iff.mp ha
  exact Spot.agrees_word (inverse a)

end Whole

/-! ## Kinds of records -/

namespace RecordKind

/-- Where the integers of a record stand. -/
def spots : (kind : RecordKind) → List (Spot kind.Record)
  | timespec => Spot.ofFields Timespec.fields
  | stat => Spot.ofFields Stat.fields
  | statfs => Spot.ofFields Statfs.fields
  | capabilities => Spot.ofFields Capabilities.fields
  | uid => [.word Uid.value]
  | gid => [.word Gid.value]
  | pid => [.word Pid.value]

theorem numeric_toTree (kind : RecordKind) (r : kind.Record) : Numeric 2 (kind.toTree r) := by
  cases kind with
  | timespec => exact Timespec.numeric_toTree r
  | stat => exact Stat.numeric_toTree r
  | statfs => exact Statfs.numeric_toTree r
  | capabilities => exact Capabilities.numeric_toTree r
  | uid | gid | pid => exact numeric_ofWord _

/-- A record is read from every shape of it. -/
theorem ofTree?_reshaped (kind : RecordKind) {r : kind.Record}
    (h : Reshaped (kind.toTree r) tree) : kind.ofTree? strictness tree = some r := by
  cases kind with
  | timespec => exact Timespec.ofTree?_reshaped h
  | stat => exact Stat.ofTree?_reshaped h
  | statfs => exact Statfs.ofTree?_reshaped h
  | capabilities => exact Capabilities.ofTree?_reshaped h
  | uid => exact map_word?_reshaped (fun _ => rfl) h
  | gid => exact map_word?_reshaped (fun _ => rfl) h
  | pid => exact map_word?_reshaped (fun _ => rfl) h

/-- What is read has the integers that the tree says. -/
theorem exact_spots (kind : RecordKind) :
    ∀ spot ∈ kind.spots, spot.Exact (kind.ofTree? strictness) := by
  cases kind with
  | timespec => exact Timespec.exact_fields
  | stat => exact Stat.exact_fields
  | statfs => exact Statfs.exact_fields
  | capabilities => exact Capabilities.exact_fields
  | uid => exact List.forall_mem_singleton.mpr (exact_word fun _ => rfl)
  | gid => exact List.forall_mem_singleton.mpr (exact_word fun _ => rfl)
  | pid => exact List.forall_mem_singleton.mpr (exact_word fun _ => rfl)

/-! ## Texts -/

/-- The compact text of a record. -/
def toJson (json : Codec Tree) (kind : RecordKind) (r : kind.Record) : String :=
  json.render (kind.toTree r)

/-- The record that a text holds. -/
def ofJson? (json : Codec Tree) (kind : RecordKind) (text : String) : Option kind.Record :=
  (json.parse? text).bind (kind.ofTree? ⟨false⟩)

variable {json : Codec Tree}

theorem ofJson?_of_parse? (kind : RecordKind) {text : String} (h : json.parse? text = some tree) :
    kind.ofJson? json text = kind.ofTree? ⟨false⟩ tree := by
  rw [ofJson?, h, Option.bind_some]

/-- An integer that does not fit is not read from the text that is written for it, whether
    it is read back or taken for another kind of number. -/
theorem ofJson?_of_unfit (hkeeps : json.KeepsIntegers) {kind : RecordKind}
    {spot : Spot kind.Record} (hexact : spot.Exact (kind.ofTree? ⟨false⟩)) {n : Int}
    (hsaid : spot.Says tree n) (written : Written tree) (hunfit : ¬ spot.Fits n) :
    kind.ofJson? json (json.render tree) = none := by
  cases htext : json.parse? (json.render tree) with
  | none => rw [ofJson?, htext, Option.bind_none]
  | some tree' =>
    obtain ⟨part, hpart, hread⟩ := (hkeeps.read_as tree tree' written htext).at hsaid
    rw [kind.ofJson?_of_parse? htext]
    cases hread with
    | same => exact hexact.refused hpart hunfit
    | beyond => exact hexact.refused_other hpart

/-- The records of every `kind` in a format that keeps integers. A record is read back from the
    text of its `toTree`, from the list of its values in the order of its fields, and from any text
    that is `Reshaped` from it. Where a text gives an integer to a `Spot` of the kind, the record
    that is read has that integer there, and if it does not fit, `ofJson?` gives `none`. -/
theorem kept_in_texts (json : Codec Tree) (hkeeps : json.KeepsIntegers) (kind : RecordKind) :
    (∀ r : kind.Record, kind.ofJson? json (kind.toJson json r) = some r) ∧
    (∀ (r : kind.Record) (entries : List (String × Tree)), kind.toTree r = .table entries →
      kind.ofJson? json (json.render (.list (entries.map Prod.snd))) = some r) ∧
    (∀ (r : kind.Record) (text : String) (tree : Tree), json.parse? text = some tree →
      Reshaped (kind.toTree r) tree → kind.ofJson? json text = some r) ∧
    ∀ spot ∈ kind.spots, ∀ (tree : Tree) (n : Int), spot.Says tree n →
      (Written tree → ¬ spot.Fits n → kind.ofJson? json (json.render tree) = none) ∧
      ∀ text : String, json.parse? text = some tree →
        (∀ r, kind.ofJson? json text = some r → spot.Has r n) ∧
        (¬ spot.Fits n → kind.ofJson? json text = none) := by
  have hkept {r : kind.Record} {text : String} {tree : Tree} (htext : json.parse? text = some tree)
      (h : Reshaped (kind.toTree r) tree) : kind.ofJson? json text = some r := by
    rw [kind.ofJson?_of_parse? htext]
    exact kind.ofTree?_reshaped h
  -- `KeepsIntegers` asks of a tree that it is `Numeric`, which the trees of records are.
  have hnumeric (r : kind.Record) : Numeric 2 (kind.toTree r) := kind.numeric_toTree r
  refine ⟨fun r => ?_, fun r entries hentries => ?_, fun r text tree => hkept, ?_⟩
  · exact hkept (hkeeps.read_back _ (hnumeric r)) (.same _)
  · have hlist : Reshaped (kind.toTree r) (.list (entries.map Prod.snd)) :=
      hentries ▸ Reshaped.values entries
    exact hkept (hkeeps.read_back _ (numeric_reshaped hlist (hnumeric r))) hlist
  · -- The spots read their integers exactly, whatever else the text holds.
    intro spot hspot tree n hsaid
    have hexact : spot.Exact (kind.ofTree? ⟨false⟩) := kind.exact_spots spot hspot
    refine ⟨fun written => ofJson?_of_unfit hkeeps hexact hsaid written, fun text htext => ?_⟩
    rw [kind.ofJson?_of_parse? htext]
    refine ⟨fun r hr => ?_, hexact.refused hsaid⟩
    exact (hexact tree r _ hr hsaid).has n rfl

/-- The limits of a stamp in both shapes, and what lies beyond one. -/
theorem kept_in_texts_limits :
    timespec.ofJson? Json.codec "\x7b\"sec\":-9223372036854775808,\"nsec\":4294967295\x7d" =
        some (⟨Int64.minValue, 4294967295⟩ : Timespec) ∧
      timespec.ofJson? Json.codec "[-9223372036854775808,4294967295]" =
        some (⟨Int64.minValue, 4294967295⟩ : Timespec) ∧
      timespec.ofJson? Json.codec "\x7b\"sec\":9223372036854775808,\"nsec\":0\x7d" = none := by
  let t : Timespec := ⟨Int64.minValue, 4294967295⟩
  let beyond : Tree := .table [("sec", .int 9223372036854775808), ("nsec", .int 0)]
  obtain ⟨hcompact, hlisted, -, hexact⟩ :=
    kept_in_texts Json.codec Json.keepsIntegers .timespec
  have htable : timespec.toJson Json.codec t =
      "\x7b\"sec\":-9223372036854775808,\"nsec\":4294967295\x7d" := by decide
  have hlist : Json.codec.render (.list [.ofWord t.sec, .ofWord t.nsec]) =
      "[-9223372036854775808,4294967295]" := by decide
  have hbeyond : Json.codec.render beyond =
      "\x7b\"sec\":9223372036854775808,\"nsec\":0\x7d" := by
    decide
  have hspot : Spot.field Timespec.fieldNames "sec" (.word Timespec.sec) ∈ timespec.spots :=
    List.mem_cons_self
  have hsaid : (Spot.field Timespec.fieldNames "sec" (.word Timespec.sec)).Says beyond
      9223372036854775808 := ⟨_, .table List.mem_cons_self, rfl⟩
  have written : Written beyond := by
    apply Written.table
    simp [Written.int]
  -- One more than the seconds can hold.
  have hunfit : ¬ (Word.kind Int64).Contains 9223372036854775808 := by decide
  have hkept := hcompact t
  have hkeptList := hlisted t [("sec", .ofWord t.sec), ("nsec", .ofWord t.nsec)] rfl
  have hrefused := (hexact _ hspot beyond _ hsaid).1 written hunfit
  rw [htable] at hkept
  rw [List.map_cons, List.map_cons, List.map_nil, hlist] at hkeptList
  rw [hbeyond] at hrefused
  exact ⟨hkept, hkeptList, hrefused⟩

end RecordKind

end HostedFs
