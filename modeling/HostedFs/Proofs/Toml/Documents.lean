import HostedFs.Proofs.Toml.Values
import Mathlib.Data.List.Nodup

/-! # Documents of TOML

    A document is written from entries, of which some are tables with simple values. It is
    read as these entries, the tables after the others.

    * `Pairs`, `Document`: entries that can be written.
    * `Spells`: what statements characters are read as.
    * `build?_statements`: the tree that the statements of a document come to.
    * `parse?_render`: a document that was written.
-/

namespace HostedFs.Toml

/-- Pairs of a table that stand on lines of their own. -/
structure Pairs (entries : List (String × Tree)) : Prop where
  distinct : (entries.map Prod.fst).Nodup
  bare : ∀ p ∈ entries, IsBare p.1
  simple : ∀ p ∈ entries, Simple depthLimit p.2

/-- Entries of a document, some of them tables. -/
structure Document (entries : List (String × Tree)) : Prop where
  distinct : (entries.map Prod.fst).Nodup
  bare : ∀ p ∈ entries, IsBare p.1
  written : ∀ p ∈ entries, Simple depthLimit p.2 ∨ ∃ pairs, p.2 = .table pairs ∧ Pairs pairs

/-- Pairs alone are a document. -/
theorem Pairs.document {pairs : List (String × Tree)} (h : Pairs pairs) : Document pairs where
  distinct := h.distinct
  bare := h.bare
  written p hp := .inl (h.simple p hp)

/-! ## Statements -/

theorem IsBare.head {key : String} (h : IsBare key) :
    ∃ c cs, key.toList = c :: cs ∧ isKeyChar c = true := by
  obtain ⟨c, cs, hkey, hall⟩ := h.cons
  exact ⟨c, cs, hkey, hall c List.mem_cons_self⟩

/-- The value after a key, with the blank before it. -/
theorem value?_line {value : Tree} (h : Simple depthLimit value) (rest : List Char) :
    ∃ line, skipBlanks (' ' :: ((valueText value).toList ++ '\n' :: rest)) = line ∧
      value? depthLimit (line.length + 1) line = some (value, '\n' :: rest) := by
  obtain ⟨c, cs, htext, hc⟩ := h.head
  have hskip : skipBlanks (' ' :: ((valueText value).toList ++ '\n' :: rest)) =
      (valueText value).toList ++ '\n' :: rest := by
    rw [htext, List.cons_append]
    exact (skip_of_mem_firstChars hc _).1
  refine ⟨_, hskip, h.reads _ _ ?_ (.cons (by decide) (by decide) rest)⟩
  rw [List.length_append, String.length_toList]
  omega

/-- A pair on a line of its own. -/
theorem statement?_pair {key : String} (hkey : IsBare key) {value : Tree}
    (hvalue : Simple depthLimit value) (rest : List Char) :
    statement? (key.toList ++ ' ' :: '=' :: ' ' :: ((valueText value).toList ++ '\n' :: rest)) =
      some (.pair [] key value, rest) := by
  obtain ⟨c, cs, hchars, hc⟩ := hkey.head
  obtain ⟨line, hline, hread⟩ := value?_line hvalue rest
  generalize hafter : (valueText value).toList ++ '\n' :: rest = after at hline
  have hskip : skipBlanks (' ' :: '=' :: ' ' :: after) = '=' :: ' ' :: after := rfl
  -- The key goes up to the blank before the equals sign, and the value to the end of the line.
  have hname : key? depthLimit (key.toList ++ ' ' :: '=' :: ' ' :: after) =
      some ([key], '=' :: ' ' :: after) :=
    key?_bare hkey 78 rfl hskip (by decide)
  unfold statement?
  split
  next heq =>
    rw [hchars] at heq
    exact absurd (List.cons.inj heq).1 (isKeyChar_ne hc rfl)
  next heq =>
    rw [hchars] at heq
    exact absurd (List.cons.inj heq).1 (isKeyChar_ne hc rfl)
  next =>
    rw [hname]
    change (do
      let read ← value? depthLimit ((skipBlanks (' ' :: after)).length + 1)
        (skipBlanks (' ' :: after))
      return (Statement.pair [] key read.1, ← lineEnd? read.2)) = _
    rw [hline, hread]
    rfl

/-- The header of a table. -/
theorem statement?_header {key : String} (hkey : IsBare key) (rest : List Char) :
    statement? ('[' :: (key.toList ++ ']' :: '\n' :: rest)) = some (.header [] key, rest) := by
  obtain ⟨c, cs, hchars, hc⟩ := hkey.head
  have hskip : skipBlanks (']' :: '\n' :: rest) = ']' :: '\n' :: rest := rfl
  have hname : key? depthLimit (key.toList ++ ']' :: '\n' :: rest) =
      some ([key], ']' :: '\n' :: rest) :=
    key?_bare hkey 78 rfl hskip (by decide)
  unfold statement?
  split
  next heq =>
    rw [hchars] at heq
    simp only [List.cons_append, List.cons.injEq, true_and] at heq
    exact absurd heq.1 (isKeyChar_ne hc rfl)
  next heq =>
    obtain rfl := (List.cons.inj heq).2
    rw [hname]
    rfl
  next hno => exact absurd rfl (hno _)

/-! ## Texts of several statements -/

/-- Characters are read as statements, at the front of a document or after other ones. -/
structure Spells (cs : List Char) (statements : List Statement) : Prop where
  unmarked : afterMark cs = cs
  read : ∀ n, cs.length < n → statements? n cs = some statements

theorem Spells.nil : Spells [] [] where
  unmarked := rfl
  read n hn := by
    obtain ⟨n, rfl⟩ : ∃ m, n = m + 1 := ⟨n - 1, by omega⟩
    rfl

theorem Spells.blank {cs : List Char} {statements : List Statement} (h : Spells cs statements) :
    Spells ('\n' :: cs) statements where
  unmarked := rfl
  read n hn := by
    rw [List.length_cons] at hn
    have hread := h.read n (by omega)
    obtain ⟨n, rfl⟩ : ∃ m, n = m + 1 := ⟨n - 1, by omega⟩
    exact hread

/-- The statement at the front of a line. -/
theorem Spells.statement {c : Char} {cs rest : List Char} {statement : Statement}
    {statements : List Statement} (h : Spells rest statements)
    (hmark : afterMark (c :: cs) = c :: cs) (hskip : skipTrivia false (c :: cs) = c :: cs)
    (hread : statement? (c :: cs) = some (statement, rest)) (hrest : rest.length ≤ cs.length) :
    Spells (c :: cs) (statement :: statements) where
  unmarked := hmark
  read n hn := by
    rw [List.length_cons] at hn
    obtain ⟨n, rfl⟩ : ∃ m, n = m + 1 := ⟨n - 1, by omega⟩
    rw [statements?, hskip]
    dsimp only
    rw [hread]
    dsimp only [Option.bind_eq_bind, Option.bind_some]
    rw [h.read n (by omega)]
    rfl

/-- The statements of pairs. -/
def pairStatements (pairs : List (String × Tree)) : List Statement :=
  pairs.map fun (key, value) => .pair [] key value

theorem pairStatements_cons (key : String) (value : Tree) (pairs : List (String × Tree)) :
    pairStatements ((key, value) :: pairs) = .pair [] key value :: pairStatements pairs :=
  rfl

/-- Nothing is skipped before a key. -/
theorem skip_of_isKeyChar {c : Char} (h : isKeyChar c) (cs : List Char) :
    afterMark (c :: cs) = c :: cs ∧ skipTrivia false (c :: cs) = c :: cs := by
  have hne {d : Char} (hd : isKeyChar d = false) : c ≠ d := isKeyChar_ne h hd
  have hspace : c ≠ ' ' := hne rfl
  have htab : c ≠ '\t' := hne rfl
  have hline : c ≠ '\n' := hne rfl
  have hreturn : c ≠ '\r' := hne rfl
  have hcomment : c ≠ '#' := hne rfl
  have hmark : c ≠ '\ufeff' := hne rfl
  constructor
  · unfold afterMark
    split
    next heq => exact absurd (List.cons.inj heq).1 hmark
    next => rfl
  · simp [skipTrivia, isBlank, hspace, htab, hreturn, hcomment]

variable {pairs : List (String × Tree)} {rest : List Char} {statements : List Statement}

theorem pairLines_cons (key : String) (value : Tree) (pairs : List (String × Tree)) :
    pairLines ((key, value) :: pairs) =
      keyText key ++ " = " ++ valueText value ++ "\n" ++ pairLines pairs :=
  String.join_cons

/-- The lines of pairs are read as their statements. -/
theorem Spells.pairLines (h : Spells rest statements) (hpairs : Pairs pairs) :
    Spells ((pairLines pairs).toList ++ rest) (pairStatements pairs ++ statements) := by
  obtain ⟨-, bare, simple⟩ := hpairs
  induction pairs with
  -- Induction over the lines: what follows a pair on its line is left to the next statement.
  | nil => exact h
  | cons p pairs ih =>
    obtain ⟨key, value⟩ := p
    obtain ⟨hkey, bare⟩ := List.forall_mem_cons.mp bare
    obtain ⟨hvalue, simple⟩ := List.forall_mem_cons.mp simple
    obtain ⟨c, cs, hchars, hc⟩ := hkey.head
    generalize hafter : (Toml.pairLines pairs).toList ++ rest = after at ih
    have htext : (Toml.pairLines ((key, value) :: pairs)).toList ++ rest =
        key.toList ++ ' ' :: '=' :: ' ' :: ((valueText value).toList ++ '\n' :: after) := by
      rw [pairLines_cons, hkey.keyText, ← hafter]
      simp
    have hread := statement?_pair hkey hvalue after
    rw [htext]
    rw [hchars, List.cons_append] at hread ⊢
    obtain ⟨hmark, hskip⟩ := skip_of_isKeyChar hc _
    refine (ih bare simple).statement hmark hskip hread ?_
    simp only [List.length_append, List.length_cons]
    omega

/-- A table with its header is read as its statements. -/
theorem Spells.titled (h : Spells rest statements) {key : String} (hkey : IsBare key)
    (hpairs : Pairs pairs) :
    Spells ((titled key pairs).toList ++ rest)
      (.header [] key :: (pairStatements pairs ++ statements)) := by
  have htext : (Toml.titled key pairs).toList ++ rest =
      '[' :: (key.toList ++ ']' :: '\n' :: ((Toml.pairLines pairs).toList ++ rest)) := by
    rw [Toml.titled, hkey.keyText]
    simp
  have hread := statement?_header hkey ((Toml.pairLines pairs).toList ++ rest)
  rw [htext]
  refine (h.pairLines hpairs).statement rfl rfl hread ?_
  simp only [List.length_append, List.length_cons]
  omega

/-- The statements of tables with their headers. -/
def tableStatements (tables : List (String × List (String × Tree))) : List Statement :=
  tables.flatMap fun (key, pairs) => .header [] key :: pairStatements pairs

theorem tableStatements_cons (key : String) (pairs : List (String × Tree))
    (tables : List (String × List (String × Tree))) :
    tableStatements ((key, pairs) :: tables) =
      .header [] key :: (pairStatements pairs ++ tableStatements tables) :=
  rfl

/-- Tables with an empty line between any two of them. -/
theorem Spells.tables {tables : List (String × List (String × Tree))}
    (h : ∀ t ∈ tables, IsBare t.1 ∧ Pairs t.2) :
    Spells ("\n".intercalate (tables.map fun (key, pairs) => Toml.titled key pairs)).toList
      (tableStatements tables) := by
  induction tables with
  | nil => exact .nil
  | cons t tables ih =>
    obtain ⟨key, pairs⟩ := t
    obtain ⟨⟨hkey, hpairs⟩, htables⟩ := List.forall_mem_cons.mp h
    cases tables with
    | nil => simpa [tableStatements] using nil.titled hkey hpairs
    | cons next tables => simpa [tableStatements] using (ih htables).blank.titled hkey hpairs

/-- The statements of a document. -/
def documentStatements (entries : List (String × Tree)) : List Statement :=
  pairStatements (plainPairs entries) ++ tableStatements (subtables entries)

theorem Spells.render {entries : List (String × Tree)} (hplain : Pairs (plainPairs entries))
    (htables : ∀ t ∈ subtables entries, IsBare t.1 ∧ Pairs t.2) :
    Spells (render entries).toList (documentStatements entries) := by
  have hspells := tables htables
  unfold Toml.render documentStatements
  dsimp only
  split
  next hempty =>
    have hnone : plainPairs entries = [] := by
      cases hpairs : plainPairs entries with
      | nil => rfl
      | cons p pairs =>
        obtain ⟨key, value⟩ := p
        simp [hpairs, pairLines_cons] at hempty
    simpa [hnone, pairStatements] using hspells
  next hown =>
    cases htext : subtables entries with
    | nil => simpa [tableStatements] using nil.pairLines hplain
    | cons t tables =>
      rw [htext] at hspells
      simpa using hspells.blank.pairLines hplain

/-! ## Building -/

/-- The node of a pair. -/
def valueNode (p : String × Tree) : String × Node :=
  (p.1, .value p.2)

/-- The node of a table with a header. -/
def tableNode (t : String × List (String × Tree)) : String × Node :=
  (t.1, .table ⟨false, false⟩ (t.2.map valueNode))

theorem lookup_eq_none {α : Type} {entries : List (String × α)} {key : String}
    (h : key ∉ entries.map Prod.fst) : entries.lookup key = none := by
  rw [List.lookup_eq_none_iff]
  intro p hp
  have hne : key ≠ p.1 := fun heq => h (heq ▸ List.mem_map_of_mem hp)
  simpa using hne

namespace Draft

variable {d : Draft}

/-- A key that the open table does not have gets its value. -/
theorem add?_pair {key : String} (h : key ∉ d.current.map Prod.fst) (value : Tree) :
    d.add? (.pair [] key value) =
      some { d with current := d.current ++ [valueNode (key, value)] } := by
  have hnone : d.current.lookup key = none := lookup_eq_none h
  simp [add?, assign?, update?, hnone, valueNode]

/-- Pairs with keys of their own are added to the open table. -/
theorem foldlM_add?_pairs {pairs : List (String × Tree)}
    (h : (d.current.map Prod.fst ++ pairs.map Prod.fst).Nodup) :
    (pairStatements pairs).foldlM add? d =
      some { d with current := d.current ++ pairs.map valueNode } := by
  induction pairs generalizing d with
  | nil => simp [pairStatements]
  | cons p pairs ih =>
    obtain ⟨key, value⟩ := p
    have hkey : key ∉ d.current.map Prod.fst := by
      intro hmem
      exact (List.nodup_append.mp h).2.2 key hmem key List.mem_cons_self rfl
    have hnext : ((d.current ++ [valueNode (key, value)]).map Prod.fst ++
        pairs.map Prod.fst).Nodup := by
      simpa [valueNode] using h
    have hrest := ih (d := { d with current := d.current ++ [valueNode (key, value)] }) hnext
    rw [pairStatements_cons, List.foldlM_cons, add?_pair hkey]
    simpa using hrest

/-- The header of a table that the document does not have opens it. -/
theorem add?_header {root : Entries} (hclose : d.close? = some root) {key : String}
    (h : key ∉ root.map Prod.fst) :
    d.add? (.header [] key) = some { root, place := some ([], key, false), current := [] } := by
  have hnone : root.lookup key = none := lookup_eq_none h
  simp [add?, openTable?, update?, hclose, hnone]

/-- A table that was opened is put behind the others. -/
theorem close?_opened (root current : Entries) (key : String) :
    close? { root, place := some ([], key, false), current } =
      some (root ++ [(key, .table ⟨false, false⟩ current)]) :=
  rfl

/-- Tables with names of their own are put behind what there is. -/
theorem foldlM_add?_tables {root : Entries} (hclose : d.close? = some root)
    {tables : List (String × List (String × Tree))}
    (h : (root.map Prod.fst ++ tables.map Prod.fst).Nodup)
    (hpairs : ∀ t ∈ tables, Pairs t.2) :
    ∃ d', (tableStatements tables).foldlM add? d = some d' ∧
      d'.close? = some (root ++ tables.map tableNode) := by
  induction tables generalizing d root with
  -- Induction over the tables: the header opens one, and its pairs fill it.
  | nil => exact ⟨d, rfl, by simpa using hclose⟩
  | cons t tables ih =>
    obtain ⟨key, pairs⟩ := t
    obtain ⟨⟨distinct, -, -⟩, hpairs⟩ := List.forall_mem_cons.mp hpairs
    have hkey : key ∉ root.map Prod.fst := by
      intro hmem
      exact (List.nodup_append.mp h).2.2 key hmem key List.mem_cons_self rfl
    have hnext : ((root ++ [tableNode (key, pairs)]).map Prod.fst ++
        tables.map Prod.fst).Nodup := by
      simpa [tableNode] using h
    let opened : Draft := { root, place := some ([], key, false), current := [] }
    have hopen : d.add? (.header [] key) = some opened := add?_header hclose hkey
    have hfill : (pairStatements pairs).foldlM add? opened =
        some { opened with current := pairs.map valueNode } := by
      simpa [opened] using foldlM_add?_pairs (d := opened) (by simpa [opened] using distinct)
    obtain ⟨d', hrest, hclosed⟩ :=
      ih (close?_opened root (pairs.map valueNode) key) hnext hpairs
    refine ⟨d', ?_, by simpa [tableNode] using hclosed⟩
    rw [tableStatements_cons, List.foldlM_cons, hopen]
    change (pairStatements pairs ++ tableStatements tables).foldlM add? opened = some d'
    rw [List.foldlM_append, hfill]
    exact hrest

end Draft

theorem entryTrees_append (front back : Entries) :
    entryTrees (front ++ back) = entryTrees front ++ entryTrees back := by
  induction front with
  | nil => rfl
  | cons p front ih => simp [entryTrees, ih]

theorem entryTrees_map_valueNode (pairs : List (String × Tree)) :
    entryTrees (pairs.map valueNode) = pairs := by
  induction pairs with
  | nil => rfl
  | cons p pairs ih => simp [entryTrees, valueNode, Node.toTree, ih]

theorem entryTrees_map_tableNode (tables : List (String × List (String × Tree))) :
    entryTrees (tables.map tableNode) = tables.map fun (key, pairs) => (key, .table pairs) := by
  induction tables with
  | nil => rfl
  | cons t tables ih => simp [entryTrees, tableNode, Node.toTree, entryTrees_map_valueNode, ih]

/-- The entries of a document as they are read, its tables after the others. -/
def arranged (entries : List (String × Tree)) : List (String × Tree) :=
  plainPairs entries ++ (subtables entries).map fun (key, pairs) => (key, .table pairs)

/-- The tree that the statements of a document come to. -/
theorem build?_statements {entries : List (String × Tree)}
    (htables : ∀ t ∈ subtables entries, Pairs t.2)
    (h : ((arranged entries).map Prod.fst).Nodup) :
    build? (documentStatements entries) = some (.table (arranged entries)) := by
  have hnames : ((plainPairs entries).map Prod.fst ++ (subtables entries).map Prod.fst).Nodup := by
    simpa [arranged, Function.comp_def] using h
  let root : Entries := (plainPairs entries).map valueNode
  -- First the pairs of the document itself, and then its tables, whose names are others.
  have hfill : (pairStatements (plainPairs entries)).foldlM Draft.add? {} =
      some { current := root } := by
    have hdistinct : ((plainPairs entries).map Prod.fst).Nodup := (List.nodup_append.mp hnames).1
    simpa using Draft.foldlM_add?_pairs (d := {}) (by simpa using hdistinct)
  have hroot : root.map Prod.fst = (plainPairs entries).map Prod.fst := by
    simp [root, valueNode, Function.comp_def]
  have hclose : Draft.close? { current := root } = some root := rfl
  obtain ⟨d, hopen, hclosed⟩ :=
    Draft.foldlM_add?_tables hclose (by rwa [hroot]) htables
  unfold build? documentStatements
  rw [List.foldlM_append, hfill]
  change (do
    let draft ← (tableStatements (subtables entries)).foldlM Draft.add? { current := root }
    return Tree.table (entryTrees (← draft.close?))) = _
  rw [hopen]
  change (do return Tree.table (entryTrees (← d.close?))) = _
  rw [hclosed]
  change some (Tree.table (entryTrees (root ++ (subtables entries).map tableNode))) = _
  rw [entryTrees_append, entryTrees_map_valueNode, entryTrees_map_tableNode]
  rfl

/-! ## Documents -/

/-- A value that is written with a header. -/
def isTable : Tree → Bool
  | .table _ => true
  | _ => false

theorem subtables_eq_filter (entries : List (String × Tree)) :
    (subtables entries).map (fun (key, pairs) => (key, Tree.table pairs)) =
      entries.filter fun p => isTable p.2 := by
  induction entries with
  | nil => rfl
  | cons p entries ih =>
    obtain ⟨key, value⟩ := p
    unfold subtables at ih ⊢
    cases value <;> simp [isTable, ih]

theorem plainPairs_eq_filter (entries : List (String × Tree)) :
    plainPairs entries = entries.filter fun p => !isTable p.2 := by
  apply List.filter_congr
  rintro ⟨key, value⟩ -
  cases value <;> rfl

/-- Only the order differs. -/
theorem arranged_perm (entries : List (String × Tree)) : (arranged entries).Perm entries := by
  rw [arranged, subtables_eq_filter, plainPairs_eq_filter]
  exact List.perm_append_comm.trans (List.filter_append_perm (fun p => isTable p.2) entries)

theorem Document.plainPairs {entries : List (String × Tree)} (h : Document entries) :
    Pairs (plainPairs entries) := by
  rw [plainPairs_eq_filter]
  have hsub : (entries.filter fun p => !isTable p.2).Sublist entries := List.filter_sublist
  refine ⟨h.distinct.sublist (hsub.map _), fun p hp => h.bare p (hsub.mem hp), ?_⟩
  intro p hp
  obtain ⟨hmem, hplain⟩ := List.mem_filter.mp hp
  obtain hsimple | ⟨pairs, htable, -⟩ := h.written p hmem
  · exact hsimple
  · rw [htable] at hplain
    cases hplain

theorem Document.subtables {entries : List (String × Tree)} (h : Document entries) :
    ∀ t ∈ subtables entries, IsBare t.1 ∧ Pairs t.2 := by
  rintro ⟨key, pairs⟩ ht
  have hmem : (key, Tree.table pairs) ∈ entries := by
    have htable : (key, Tree.table pairs) ∈ entries.filter fun p => isTable p.2 := by
      rw [← subtables_eq_filter]
      exact List.mem_map_of_mem ht
    exact (List.mem_filter.mp htable).1
  refine ⟨h.bare _ hmem, ?_⟩
  obtain hsimple | ⟨_, htable, hpairs⟩ := h.written _ hmem
  · cases hsimple
  · cases htable
    exact hpairs

/-- A document that was written is read as its entries. -/
theorem parse?_render {entries : List (String × Tree)} (h : Document entries) :
    parse? (render entries) = some (.table (arranged entries)) := by
  have hspells := Spells.render h.plainPairs h.subtables
  have hdistinct : ((arranged entries).map Prod.fst).Nodup :=
    ((arranged_perm entries).map Prod.fst).nodup_iff.mpr h.distinct
  have hread : statements? ((render entries).length + 1) (render entries).toList =
      some (documentStatements entries) := by
    apply hspells.read
    rw [String.length_toList]
    omega
  unfold parse?
  rw [hspells.unmarked, hread]
  exact build?_statements (fun t ht => (h.subtables t ht).2) hdistinct

end HostedFs.Toml
