import HostedFs.Proofs.Data.Fields
import Mathlib.Data.List.Forall2

/-! # The shapes of a record

    A record may be a table, or the list of the values that the table has. So may the
    records in it, each by itself. The fields have the same values whatever the shape is.

    * `Reshaped`: trees of the same records in other shapes.
    * `Reshaped.fields?_eq`: the values of the fields in any shape.
    * `eq_of_gives`: what a tree gives to a field is the value of the field.
    * `At`: a part of a tree, by the way to it.
    * `Spot`: where a tree says an integer of a record, and which integers fit there.
    * `Spot.Exact`: a record that is read has the integer that the tree says.
    * `Spot.exact_ofFields`: the spots of a record whose fields are known.
    * `Spot.Exact.refused`: a record is not read if the integer does not fit.
-/

namespace HostedFs

namespace Tree

/-! ## Shapes -/

/-- A tree in which tables are lists of their values, all of them or some. -/
inductive Reshaped : Tree → Tree → Prop
  | same (tree : Tree) : Reshaped tree tree
  | table {entries : List (String × Tree)} (part : String × Tree → Tree)
      (parts : ∀ p ∈ entries, Reshaped p.2 (part p)) :
      Reshaped (.table entries) (.table (entries.map fun p => (p.1, part p)))
  | list {entries : List (String × Tree)} (part : String × Tree → Tree)
      (parts : ∀ p ∈ entries, Reshaped p.2 (part p)) :
      Reshaped (.table entries) (.list (entries.map part))

/-- The list of the values of a table. -/
theorem Reshaped.values (entries : List (String × Tree)) :
    Reshaped (.table entries) (.list (entries.map Prod.snd)) :=
  .list Prod.snd fun p _ => .same p.2

/-- What is no table has one shape. -/
theorem Reshaped.eq_of_ne_table {tree shape : Tree} (h : Reshaped tree shape)
    (flat : ∀ entries, tree ≠ .table entries) : shape = tree := by
  cases h with
  | same => rfl
  | table | list => exact absurd rfl (flat _)

variable {strictness : Strictness} {tree : Tree} {entries : List (String × Tree)}

/-- The values of a table with different names. -/
theorem fields?_table (distinct : (entries.map Prod.fst).Nodup) :
    (Tree.table entries).fields? strictness (entries.map Prod.fst) =
      some (entries.map fun p => some p.2) := by
  have hvalue : ∀ p ∈ entries, valueAt? entries p.1 = some (some p.2) := by
    intro p hp
    rw [valueAt?, lookupAll_of_mem distinct hp]
  change (entries.map Prod.fst).mapM (valueAt? entries) = _
  rw [List.mapM_map]
  exact mapM_eq_map hvalue

/-- The values of a list that has one for each name. -/
theorem fields?_list {names : List String} {items : List Tree}
    (length : items.length = names.length) :
    (Tree.list items).fields? strictness names = some (items.map some) := by
  have hvalues : names.zipIdx.map (fun p => items[p.2]?) = items.map some := by
    apply List.ext_getElem (by simp [length])
    intro i hi hi'
    simp only [List.length_map] at hi'
    simp [hi']
  change (if _ then some _ else none) = _
  rw [if_pos (by simp [length]), hvalues]

/-- The fields have the values of the table, each of them in a shape of its own. -/
theorem Reshaped.fields?_eq (strictness : Strictness) {names : List String}
    (distinct : names.Nodup) (hnames : entries.map Prod.fst = names)
    (h : Reshaped (.table entries) tree) :
    ∃ part : String × Tree → Tree, (∀ p ∈ entries, Reshaped p.2 (part p)) ∧
      tree.fields? strictness names = some (entries.map fun p => some (part p)) := by
  subst hnames
  cases h with
  | same => exact ⟨Prod.snd, fun p _ => .same p.2, fields?_table distinct⟩
  | table part parts =>
    have hnames : (entries.map fun p => (p.1, part p)).map Prod.fst = entries.map Prod.fst := by
      rw [List.map_map]
      rfl
    have htable := @fields?_table strictness _ (hnames ▸ distinct)
    rw [hnames, List.map_map] at htable
    exact ⟨part, parts, htable⟩
  | list part parts =>
    refine ⟨part, parts, ?_⟩
    rw [fields?_list (by simp), List.map_map]
    rfl

/-- Those of a table without tables in it have the values themselves. -/
theorem Reshaped.fields?_flat (strictness : Strictness) {names : List String}
    (distinct : names.Nodup) (hnames : entries.map Prod.fst = names)
    (flat : ∀ p ∈ entries, ∀ inner, p.2 ≠ .table inner) (h : Reshaped (.table entries) tree) :
    tree.fields? strictness names = some (entries.map fun p => some p.2) := by
  obtain ⟨part, parts, hfields⟩ := h.fields?_eq strictness distinct hnames
  have hparts : (entries.map fun p => some (part p)) = entries.map fun p => some p.2 := by
    apply List.map_congr_left
    intro p hp
    rw [(parts p hp).eq_of_ne_table (flat p hp)]
  rw [hfields, hparts]

/-! ## What a tree gives to a field -/

section Given

variable {names : List String} {name : String} {value : Tree} {values : List (Option Tree)}
  {i : Nat}

/-- Nothing is given to a field that has no value. -/
theorem not_gives (distinct : names.Nodup) (h : tree.fields? strictness names = some values)
    (place : names[i]? = some name) (missing : values[i]? = some none) :
    ¬ tree.Gives names name value := by
  intro given
  cases given with
  | @table entries _ mem =>
    -- In a table a field without a value has no entry of its name at all.
    have hnone : valueAt? entries name = some none := (getElem?_of_mapM h place).trans missing
    unfold valueAt? at hnone
    split at hnone
    next hall =>
      have hmem := mem_lookupAll_iff.mpr mem
      rw [hall] at hmem
      cases hmem
    next => cases hnone
    next => cases hnone
  | @list items _ j place' item =>
    -- In a list it lies behind the last item.
    have hmissing : items[i]? = none :=
      Option.some.inj ((getElem?_of_list h place).symm.trans missing)
    obtain ⟨hi, hname⟩ := List.getElem?_eq_some_iff.mp place
    obtain ⟨hj, hname'⟩ := List.getElem?_eq_some_iff.mp place'
    obtain rfl : i = j := (List.Nodup.getElem_inj_iff distinct).mp (hname.trans hname'.symm)
    cases hmissing.symm.trans item

/-- What is given to a field is its value. -/
theorem eq_of_gives (distinct : names.Nodup) (h : tree.fields? strictness names = some values)
    (place : names[i]? = some name) {found : Option Tree} (read : values[i]? = some found)
    (given : tree.Gives names name value) : found = some value := by
  cases found with
  | none => exact absurd given (not_gives distinct h place read)
  | some v => rw [(gives_iff distinct h place read value).mp given]

end Given

/-! ## Integers of a record -/

/-- A part of a tree, reached through the fields of records. Each step has the names of all
    fields, since a list has the values in the places of these, and the name of one. -/
def At : List (List String × String) → Tree → Tree → Prop
  | [], tree, part => part = tree
  | (names, name) :: path, tree, part => ∃ inner, tree.Gives names name inner ∧ At path inner part

/-- Where a tree says an integer of a record. -/
structure Spot (ρ : Type) where
  /-- The way to the integer. -/
  path : List (List String × String)
  /-- The record has the integer there. -/
  Has : ρ → Int → Prop
  /-- The integers of the type that the record has there. -/
  Fits : Int → Prop
  fits : ∀ r n, Has r n → Fits n

namespace Spot

variable {ρ σ : Type}

/-- The tree says the integer there. -/
def Says (spot : Spot ρ) (tree : Tree) (n : Int) : Prop :=
  At spot.path tree (.int n)

/-- The whole tree is the integer of a word. -/
def word {α : Type} [Word α] (get : ρ → α) : Spot ρ where
  path := []
  Has r n := Word.toInt (get r) = n
  Fits := (Word.kind α).Contains
  fits := by
    rintro r n rfl
    exact Word.contains_toInt (get r)

/-- The whole tree is an integer where the record has a flag. -/
def flag : Spot ρ where
  path := []
  Has _ _ := False
  Fits _ := False
  fits _ _ h := h

/-- A spot in a field. -/
def field (names : List String) (name : String) (spot : Spot ρ) : Spot ρ where
  path := (names, name) :: spot.path
  Has := spot.Has
  Fits := spot.Fits
  fits := spot.fits

/-- A spot in a part of a record. -/
def inside (get : ρ → σ) (spot : Spot σ) : Spot ρ where
  path := spot.path
  Has r := spot.Has (get r)
  Fits := spot.Fits
  fits r := spot.fits (get r)

/-- The spots of a record with these fields, each of which has spots of its own. -/
def ofFields (fields : List (String × List (Spot ρ))) : List (Spot ρ) :=
  fields.flatMap fun (name, spots) => spots.map (field (fields.map Prod.fst) name)

/-- What stands at the spot is something that a field can hold, and an integer there is
    the one that the record has. -/
structure Agrees (spot : Spot ρ) (r : ρ) (part : Tree) : Prop where
  held : part ≠ .other
  has : ∀ n, part = .int n → spot.Has r n

/-- The record has what stands at the spot in the value of the field, if there is one. -/
def Holds (spot : Spot ρ) (r : ρ) (found : Option Tree) : Prop :=
  ∀ tree part, found = some tree → At spot.path tree part → spot.Agrees r part

theorem agrees_word {α : Type} [Word α] {get : ρ → α} {r : ρ} {a : α} (h : get r = a) :
    (word get).Agrees r (.ofWord a) where
  held := nofun
  has n hn := by
    show Word.toInt (get r) = n
    rw [h]
    exact Tree.int.inj hn

theorem holds_word {α : Type} [Word α] (get : ρ → α) (r : ρ) :
    (word get).Holds r (some (.ofWord (get r))) := by
  rintro tree part htree rfl
  cases htree
  exact agrees_word rfl

/-- A record that is read has what stands at the spot of the tree. -/
def Exact (ofTree? : Tree → Option ρ) (spot : Spot ρ) : Prop :=
  ∀ tree r part, ofTree? tree = some r → At spot.path tree part → spot.Agrees r part

variable {ofTree? : Tree → Option ρ}

/-- The spots of a record are exact, if the values hold them that its fields are read from. -/
theorem exact_ofFields {fields : List (String × List (Spot ρ))}
    (distinct : (fields.map Prod.fst).Nodup)
    (h : ∀ tree r, ofTree? tree = some r → ∃ values,
      tree.fields? strictness (fields.map Prod.fst) = some values ∧
        List.Forall₂ (fun field found => ∀ spot ∈ field.2, spot.Holds r found) fields values) :
    ∀ spot ∈ ofFields fields, spot.Exact ofTree? := by
  intro spot hspot
  obtain ⟨⟨name, spots⟩, hfield, hspot⟩ := List.mem_flatMap.mp hspot
  obtain ⟨inner, hinner, rfl⟩ := List.mem_map.mp hspot
  rintro tree r part hr ⟨value, given, hpart⟩
  obtain ⟨values, hfields, hholds⟩ := h tree r hr
  obtain ⟨i, hi, hfield⟩ := List.mem_iff_getElem.mp hfield
  obtain ⟨hlength, hholds⟩ := List.forall₂_iff_get.mp hholds
  have hname : (fields.map Prod.fst)[i]? = some name := by simp [hi, hfield]
  have hvalue : values[i]? = some values[i] := List.getElem?_eq_getElem (hlength ▸ hi)
  have hheld := hholds i hi (hlength ▸ hi) inner (by simpa [hfield] using hinner)
  have hagrees : inner.Agrees r part :=
    hheld value part (eq_of_gives distinct hfields hname hvalue given) hpart
  exact ⟨hagrees.held, hagrees.has⟩

/-- No record is read if the integer does not fit, -/
theorem Exact.refused {spot : Spot ρ} (h : spot.Exact ofTree?) {tree : Tree} {n : Int}
    (hsaid : spot.Says tree n) (hunfit : ¬ spot.Fits n) : ofTree? tree = none := by
  rw [Option.eq_none_iff_forall_ne_some]
  intro r hr
  exact hunfit (spot.fits r n ((h tree r _ hr hsaid).has n rfl))

/-- or if there is a value that no field can hold. -/
theorem Exact.refused_other {spot : Spot ρ} (h : spot.Exact ofTree?) {tree : Tree}
    (hother : At spot.path tree .other) : ofTree? tree = none := by
  rw [Option.eq_none_iff_forall_ne_some]
  intro r hr
  exact (h tree r _ hr hother).held rfl

end Spot

end Tree

end HostedFs
