import HostedFs.Data.Record
import Mathlib.Data.List.Nodup

/-! # The values of a record's fields

    A record is read from a table by the names of its fields or from a list by their
    places. Which value a tree gives to a field can be said of the tree alone.

    * `Tree.Gives`: a tree gives a value to a field.
    * `gives_iff`: a field that is read has that value, and no other is given to it.
    * `word?_eq_some_iff`: the integer that a word is read from.
    * `lookupAll_of_mem`: the values among entries with different names.
    * `Timespec.gives_nsec_iff`, `Stat.stamp_of_ofTree?`: the nanoseconds of a time stamp,
      and the four stamps of a file's metadata.
-/

namespace HostedFs

namespace Tree

variable {strictness : Strictness} {names : List String} {name : String} {tree value : Tree}

/-- A tree gives a value to one of the fields with these names. -/
inductive Gives (names : List String) (name : String) : Tree → Tree → Prop
  | table {entries : List (String × Tree)} {value : Tree} (mem : (name, value) ∈ entries) :
      Gives names name (.table entries) value
  | list {items : List Tree} {value : Tree} {i : Nat} (place : names[i]? = some name)
      (item : items[i]? = some value) : Gives names name (.list items) value

/-! ## Fields -/

theorem mem_lookupAll_iff {entries : List (String × Tree)} :
    value ∈ lookupAll entries name ↔ (name, value) ∈ entries := by
  simp only [lookupAll, List.mem_filterMap]
  constructor
  · rintro ⟨⟨key, v⟩, hmem, h⟩
    dsimp only at h
    split at h
    next hkey =>
      cases h
      rwa [← hkey]
    next => cases h
  · intro h
    exact ⟨(name, value), h, if_pos rfl⟩

/-- A table gives one value to a field that is read. -/
theorem table_gives_iff {entries : List (String × Tree)}
    (h : valueAt? entries name = some (some value)) (v : Tree) :
    Gives names name (.table entries) v ↔ v = value := by
  have hall : lookupAll entries name = [value] := by
    unfold valueAt? at h
    split at h
    next => cases h
    next only hall =>
      cases h
      exact hall
    next => cases h
  rw [← List.mem_singleton, ← hall, mem_lookupAll_iff]
  constructor
  · intro hgives
    cases hgives with
    | table mem => exact mem
  · exact .table

/-- So does a list, if no two fields have one name. -/
theorem list_gives_iff {items : List Tree} {i : Nat} (distinct : names.Nodup)
    (place : names[i]? = some name) (item : items[i]? = some value) (v : Tree) :
    Gives names name (.list items) v ↔ v = value := by
  constructor
  · intro hgives
    cases hgives with
    | @list _ _ j place' item' =>
      obtain ⟨hi, hname⟩ := List.getElem?_eq_some_iff.mp place
      obtain ⟨hj, hname'⟩ := List.getElem?_eq_some_iff.mp place'
      obtain rfl : i = j :=
        (List.Nodup.getElem_inj_iff distinct).mp (hname.trans hname'.symm)
      exact Option.some.inj (item'.symm.trans item)
  · rintro rfl
    exact .list place item

/-- The values that are looked up for the names of a list. -/
theorem getElem?_of_mapM {α β : Type} {f : α → Option β} {xs : List α} {ys : List β}
    (h : xs.mapM f = some ys) {i : Nat} {x : α} (hx : xs[i]? = some x) : f x = ys[i]? := by
  induction xs generalizing ys i with
  | nil => cases hx
  | cons first xs ih =>
    rw [List.mapM_cons] at h
    obtain ⟨y, hy, h⟩ := Option.bind_eq_some_iff.mp h
    obtain ⟨rest, hrest, h⟩ := Option.bind_eq_some_iff.mp h
    cases h
    cases i with
    | zero =>
      obtain rfl : first = x := by simpa using hx
      exact hy
    | succ i => exact ih hrest hx

/-- The values of a list are looked up by their places. -/
theorem getElem?_of_list {items : List Tree} {values : List (Option Tree)} {i : Nat}
    (h : (Tree.list items).fields? strictness names = some values) (place : names[i]? = some name) :
    values[i]? = some items[i]? := by
  have hvalues : names.zipIdx.map (fun p => items[p.2]?) = values := by
    change (if _ then some _ else none) = some values at h
    split at h
    next => exact Option.some.inj h
    next => cases h
  rw [← hvalues, List.getElem?_map, List.getElem?_zipIdx, place]
  simp

/-- The value of a field is the one that is given to it. -/
theorem gives_iff {values : List (Option Tree)} {i : Nat} (distinct : names.Nodup)
    (h : tree.fields? strictness names = some values) (place : names[i]? = some name)
    (read : values[i]? = some (some value)) (v : Tree) :
    tree.Gives names name v ↔ v = value := by
  cases tree with
  | table entries =>
    have hvalue : valueAt? entries name = some (some value) :=
      (getElem?_of_mapM h place).trans read
    exact table_gives_iff hvalue v
  | list items =>
    have hitem : items[i]? = some value :=
      Option.some.inj ((getElem?_of_list h place).symm.trans read)
    exact list_gives_iff distinct place hitem v
  | moment =>
    obtain rfl := Option.some.inj h
    rw [List.getElem?_map, place] at read
    cases read
  | flag | int | text | other => cases h

/-! ## Words -/

/-- A word is read from its own integer. -/
theorem word?_eq_some_iff {α : Type} [Word α] {a : α} :
    tree.word? = some a ↔ tree = .ofWord a := by
  constructor
  · intro h
    cases tree with
    | int n =>
      change (if _ then some _ else none) = some a at h
      split at h
      next hn =>
        obtain rfl := Option.some.inj h
        rw [ofWord, Word.toInt_ofInt n hn]
      next => cases h
    | flag | text | list | table | moment | other => cases h
  · rintro rfl
    show (if (Word.kind α).Contains (Word.toInt a) then some (Word.ofInt _) else none) = some a
    rw [if_pos (Word.contains_toInt a), Word.ofInt_toInt]

end Tree

/-! ## Entries with different names -/

section Entries

open HostedFs.Tree (lookupAll)

variable {entries : List (String × Tree)} {name : String}

theorem lookupAll_eq_nil (h : ∀ tree, (name, tree) ∉ entries) : lookupAll entries name = [] := by
  rw [List.eq_nil_iff_forall_not_mem]
  intro tree htree
  exact h tree (Tree.mem_lookupAll_iff.mp htree)

theorem mem_names {α : Type} {entries : List (String × α)} {a : α} (h : (name, a) ∈ entries) :
    name ∈ entries.map Prod.fst :=
  List.mem_map.mpr ⟨_, h, rfl⟩

/-- Among entries with different names no other one has the name. -/
theorem lookupAll_of_mem (distinct : (entries.map Prod.fst).Nodup) {tree : Tree}
    (h : (name, tree) ∈ entries) : lookupAll entries name = [tree] := by
  induction entries with
  | nil => cases h
  | cons p entries ih =>
    rw [List.map_cons, List.nodup_cons] at distinct
    obtain ⟨hfresh, distinct⟩ := distinct
    obtain rfl | hmem := List.mem_cons.mp h
    · have hnone : lookupAll entries name = [] :=
        lookupAll_eq_nil fun tree htree => hfresh (mem_names htree)
      simpa [lookupAll] using hnone
    · have hne : p.1 ≠ name := by
        rintro rfl
        exact hfresh (mem_names hmem)
      simpa [lookupAll, hne] using ih distinct hmem

theorem mapM_eq_map {α β : Type} {f : α → Option β} {g : α → β} {xs : List α}
    (h : ∀ x ∈ xs, f x = some (g x)) : xs.mapM f = some (xs.map g) := by
  induction xs with
  | nil => rfl
  | cons x xs ih =>
    obtain ⟨hx, hxs⟩ := List.forall_mem_cons.mp h
    rw [List.mapM_cons, hx, ih hxs]
    rfl

end Entries

variable {strictness : Tree.Strictness} {tree : Tree}

/-! ## Times -/

namespace Timespec

/-- A stamp is read from two words. -/
theorem ofTree?_eq_some_iff {t : Timespec} :
    ofTree? strictness tree = some t ↔
      tree.fields? strictness fieldNames = some [some (.ofWord t.sec), some (.ofWord t.nsec)] := by
  constructor
  · intro h
    unfold ofTree? at h
    split at h
    next sec nsec hfields =>
      obtain ⟨s, hsec, h⟩ := Option.bind_eq_some_iff.mp h
      obtain ⟨n, hnsec, h⟩ := Option.bind_eq_some_iff.mp h
      cases h
      rw [hfields, Tree.word?_eq_some_iff.mp hsec, Tree.word?_eq_some_iff.mp hnsec]
    next => cases h
  · intro h
    unfold ofTree?
    rw [h]
    dsimp only
    rw [Tree.word?_eq_some_iff.mpr rfl, Tree.word?_eq_some_iff.mpr rfl]
    rfl

/-- A stamp that is read has the nanoseconds that are given, whatever they are. -/
theorem gives_nsec_iff {t : Timespec} (h : ofTree? strictness tree = some t) (v : Tree) :
    tree.Gives fieldNames "nsec" v ↔ v = .int t.nsec.toNat :=
  Tree.gives_iff (by decide) (ofTree?_eq_some_iff.mp h) (i := 1) rfl rfl v

end Timespec

namespace Stat

/-- The times of a file. -/
inductive Stamp
  | atim
  | mtim
  | ctim
  | birthtim

namespace Stamp

/-- The name of the field. -/
def name : Stamp → String
  | atim => "atim"
  | mtim => "mtim"
  | ctim => "ctim"
  | birthtim => "birthtim"

/-- The value of the field. -/
def of (s : Stat) : Stamp → Timespec
  | atim => s.atim
  | mtim => s.mtim
  | ctim => s.ctim
  | birthtim => s.birthtim

end Stamp

/-- The times of a file are read from what is given to their fields. -/
theorem stamp_of_ofTree? {s : Stat} (h : ofTree? strictness tree = some s) (stamp : Stamp) :
    ∃ part, Timespec.ofTree? strictness part = some (stamp.of s) ∧
      ∀ v, tree.Gives fieldNames stamp.name v ↔ v = part := by
  unfold ofTree? at h
  split at h
  next hfields =>
    -- The stamps are read after eight other fields and before three.
    iterate 8 obtain ⟨_, -, h⟩ := Option.bind_eq_some_iff.mp h
    obtain ⟨atim, hatim, h⟩ := Option.bind_eq_some_iff.mp h
    obtain ⟨mtim, hmtim, h⟩ := Option.bind_eq_some_iff.mp h
    obtain ⟨ctim, hctim, h⟩ := Option.bind_eq_some_iff.mp h
    obtain ⟨birthtim, hbirthtim, h⟩ := Option.bind_eq_some_iff.mp h
    iterate 3 obtain ⟨_, -, h⟩ := Option.bind_eq_some_iff.mp h
    cases h
    have hdistinct : fieldNames.Nodup := by decide
    cases stamp with
    | atim => exact ⟨_, hatim, Tree.gives_iff hdistinct hfields (i := 8) rfl rfl⟩
    | mtim => exact ⟨_, hmtim, Tree.gives_iff hdistinct hfields (i := 9) rfl rfl⟩
    | ctim => exact ⟨_, hctim, Tree.gives_iff hdistinct hfields (i := 10) rfl rfl⟩
    | birthtim => exact ⟨_, hbirthtim, Tree.gives_iff hdistinct hfields (i := 11) rfl rfl⟩
  next => cases h

end Stat

end HostedFs
