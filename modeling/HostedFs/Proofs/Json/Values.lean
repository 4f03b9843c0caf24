import HostedFs.Proofs.Json.Lexical

/-! # Values of JSON

    The compact text of a tree is read as the tree, if the tree holds nothing but flags,
    integers, texts, lists and tables. The keys of a table may be any strings.

    * `Written`: trees that have a text of their own.
    * `Written.reads`: such a tree is read from its text, whatever follows it.
    * `parse?_render`: a text that holds such a tree and nothing else.
-/

namespace HostedFs.Json

/-- A tree that has a text of its own. -/
inductive Written : Tree → Prop
  | flag (b : Bool) : Written (.flag b)
  | int (n : Int) : Written (.int n)
  | text (s : String) : Written (.text s)
  | list {items : List Tree} (written : ∀ item ∈ items, Written item) : Written (.list items)
  | table {entries : List (String × Tree)} (written : ∀ p ∈ entries, Written p.2) :
      Written (.table entries)

/-! ## What a text begins with -/

/-- Nothing is skipped before the text, and it does not begin with a closing mark. -/
def Opens (cs : List Char) : Prop :=
  ∃ c rest, cs = c :: rest ∧ isSpace c = false ∧ c ≠ ']' ∧ c ≠ '\x7d'

theorem Opens.append {cs : List Char} (h : Opens cs) (rest : List Char) : Opens (cs ++ rest) := by
  obtain ⟨c, cs, rfl, hc⟩ := h
  exact ⟨c, cs ++ rest, rfl, hc⟩

theorem Opens.skipSpace {cs : List Char} (h : Opens cs) : skipSpace cs = cs := by
  obtain ⟨c, cs, rfl, hspace, -⟩ := h
  exact List.dropWhile_cons_of_neg (by simp [hspace])

theorem opens_quote (s : String) : Opens (quote s).toList := by
  rw [toList_quote]
  exact ⟨'"', _, rfl, by decide⟩

/-- What an integer begins with is told from every other character. -/
theorem ne_of_numeral {c d : Char} (h : c = '-' ∨ c.isDigit) (hd : d ≠ '-' ∧ d.isDigit = false) :
    c ≠ d := by
  rintro rfl
  rcases h with h | h
  · exact hd.1 h
  · rw [hd.2] at h
    cases h

theorem opens_render (tree : Tree) : Opens (render tree).toList := by
  cases tree with
  -- A text of JSON begins with a letter, a quote, a bracket, a sign or a digit.
  | flag b => cases b with
    | false => exact ⟨'f', _, rfl, by decide⟩
    | true => exact ⟨'t', _, rfl, by decide⟩
  | int n =>
    obtain ⟨c, cs, hcs, hc⟩ := toString_head n
    have hne {d : Char} (hd : d ≠ '-' ∧ d.isDigit = false) : c ≠ d := ne_of_numeral hc hd
    have hspace : isSpace c = false := by
      simp [isSpace, hne (d := ' '), hne (d := '\t'), hne (d := '\n'), hne (d := '\r')]
    exact ⟨c, cs, hcs, hspace, hne (by decide), hne (by decide)⟩
  | text s => exact opens_quote s
  | list items =>
    have hopen : Opens "[".toList := ⟨'[', [], rfl, by decide⟩
    rw [render, String.toList_append, String.toList_append]
    exact (hopen.append _).append _
  | table entries =>
    have hopen : Opens "\x7b".toList := ⟨'\x7b', [], rfl, by decide⟩
    rw [render, String.toList_append, String.toList_append]
    exact (hopen.append _).append _
  | moment => exact ⟨'n', _, rfl, by decide⟩
  | other => exact ⟨'n', _, rfl, by decide⟩

/-! ## Values -/

/-- A tree is read from its text, if the measure is greater than the length of the text. -/
def Reads (tree : Tree) : Prop :=
  ∀ (n : Nat) (rest : List Char), (render tree).length < n → Closed rest →
    value? n ((render tree).toList ++ rest) = some (tree, rest)

theorem reads_flag (b : Bool) : Reads (.flag b) := by
  intro n rest hn _
  obtain ⟨n, rfl⟩ : ∃ m, n = m + 1 := ⟨n - 1, by omega⟩
  cases b with
  | false => rfl
  | true => rfl

theorem reads_int (m : Int) : Reads (.int m) := by
  intro n rest hn hrest
  obtain ⟨n, rfl⟩ : ∃ m, n = m + 1 := ⟨n - 1, by omega⟩
  have hskip := ((opens_render (.int m)).append rest).skipSpace
  have hnumber := number?_toString m hrest
  obtain ⟨c, cs, hcs, hc⟩ := toString_head m
  have hne {d : Char} (hd : d ≠ '-' ∧ d.isDigit = false) : c ≠ d := ne_of_numeral hc hd
  rw [render, hcs, List.cons_append] at hskip ⊢
  rw [hcs, List.cons_append] at hnumber
  rw [value?, hskip]
  -- All other kinds of values begin with other characters.
  split
  iterate 6 next heq => exact absurd (List.cons.inj heq).1 (hne (by decide))
  next => exact hnumber

/-- What stands behind a quote is a string. -/
theorem value?_quote (n : Nat) (cs : List Char) :
    value? (n + 1) ('"' :: cs) = (stringBody? cs).map fun (units, rest) =>
      match ofUnits? units with
      | some text => (.text (String.ofList text), rest)
      | none => (.other, rest) :=
  rfl

theorem reads_text (s : String) : Reads (.text s) := by
  intro n rest hn _
  obtain ⟨n, rfl⟩ : ∃ m, n = m + 1 := ⟨n - 1, by omega⟩
  obtain ⟨cs, hcs, hbody⟩ := quote_append s rest
  rw [render, hcs, value?_quote, hbody, Option.map_some]
  dsimp only
  rw [ofUnits?_flatMap]
  dsimp only
  rw [String.ofList_toList]

/-! ## Parts between commas -/

section Joined

variable {α : Type} (text : α → String)

/-- The texts of the parts, with commas between them. -/
def joined (parts : List α) : String :=
  ",".intercalate (parts.map text)

theorem joined_single (a : α) : joined text [a] = text a := by
  simp [joined]

theorem joined_cons (a b : α) (parts : List α) :
    joined text (a :: b :: parts) = text a ++ "," ++ joined text (b :: parts) := by
  rw [joined, List.map_cons, List.map_cons, String.intercalate_cons_cons]
  rfl

theorem length_joined_cons (a b : α) (parts : List α) :
    (joined text (a :: b :: parts)).length =
      (text a).length + 1 + (joined text (b :: parts)).length := by
  rw [joined_cons, String.length_append, String.length_append]
  rfl

theorem toList_joined_cons (a b : α) (parts : List α) (rest : List Char) :
    (joined text (a :: b :: parts)).toList ++ rest =
      (text a).toList ++ ',' :: ((joined text (b :: parts)).toList ++ rest) := by
  simp [joined_cons]

theorem opens_joined (opens : ∀ a, Opens (text a).toList) (a : α) (parts : List α) :
    Opens (joined text (a :: parts)).toList := by
  cases parts with
  | nil =>
    rw [joined_single]
    exact opens a
  | cons b parts =>
    rw [joined_cons, String.toList_append, String.toList_append]
    exact ((opens a).append _).append _

end Joined

/-! ## Lists -/

theorem render_list (items : List Tree) :
    render (.list items) = "[" ++ joined render items ++ "]" := by
  have hitems : renderItems items = items.map render := by
    induction items with
    | nil => rfl
    | cons item items ih => rw [renderItems, ih, List.map_cons]
  rw [render, hitems, joined]

theorem value?_bracket (n : Nat) (cs : List Char) :
    value? (n + 1) ('[' :: cs) =
      match skipSpace cs with
      | ']' :: rest => some (.list [], rest)
      | rest => (items? n rest).map fun (items, rest) => (.list items, rest) :=
  rfl

/-- Between brackets stand the items of a list. -/
theorem value?_bracket_items (n : Nat) {cs : List Char} (h : Opens cs) :
    value? (n + 1) ('[' :: cs) = (items? n cs).map fun (items, rest) => (.list items, rest) := by
  rw [value?_bracket, h.skipSpace]
  obtain ⟨c, cs, rfl, -, hc, -⟩ := h
  split
  next heq => exact absurd (List.cons.inj heq).1 hc
  next => rfl

/-- The item at the front of a list. -/
theorem items?_render {item : Tree} (read : Reads item) {n : Nat} (hn : (render item).length < n)
    {rest : List Char} (hrest : Closed rest) :
    items? (n + 1) ((render item).toList ++ rest) =
      match skipSpace rest with
      | ',' :: rest => do
        let (items, rest) ← items? n rest
        return (item :: items, rest)
      | ']' :: rest => some ([item], rest)
      | _ => none := by
  rw [items?, read n rest hn hrest]
  rfl

/-- The items of a list are read up to the closing bracket. -/
theorem items?_joined {item : Tree} {items : List Tree}
    (read : ∀ item' ∈ item :: items, Reads item') {n : Nat}
    (hn : (joined render (item :: items)).length + 1 < n) (rest : List Char) :
    items? n ((joined render (item :: items)).toList ++ ']' :: rest) =
      some (item :: items, rest) := by
  induction items generalizing item n with
  | nil =>
    obtain ⟨n, rfl⟩ : ∃ m, n = m + 1 := ⟨n - 1, by omega⟩
    rw [joined_single] at hn ⊢
    exact items?_render (read item List.mem_cons_self) (by omega) (.cons (.inr (.inl rfl)) rest)
  | cons next items ih =>
    obtain ⟨n, rfl⟩ : ∃ m, n = m + 1 := ⟨n - 1, by omega⟩
    obtain ⟨readItem, read⟩ := List.forall_mem_cons.mp read
    rw [length_joined_cons] at hn
    rw [toList_joined_cons, items?_render readItem (by omega) (.cons (.inl rfl) _)]
    change (do
      let (items, rest) ← items? n _
      return (item :: items, rest)) = _
    rw [ih read (by omega)]
    rfl

/-- A list is read, since its items are. -/
theorem reads_list {items : List Tree} (read : ∀ item ∈ items, Reads item) :
    Reads (.list items) := by
  intro n rest hn _
  have htext : (render (.list items)).toList ++ rest =
      '[' :: ((joined render items).toList ++ ']' :: rest) := by
    simp [render_list]
  have hlength : (render (.list items)).length = 1 + (joined render items).length + 1 := by
    rw [render_list, String.length_append, String.length_append]
    rfl
  obtain ⟨n, rfl⟩ : ∃ m, n = m + 1 := ⟨n - 1, by omega⟩
  rw [htext]
  cases items with
  | nil => rfl
  | cons item items =>
    rw [value?_bracket_items n ((opens_joined render opens_render item items).append _),
      items?_joined read (by omega)]
    rfl

/-! ## Tables -/

/-- The text of an entry. -/
def entryText (p : String × Tree) : String :=
  quote p.1 ++ ":" ++ render p.2

theorem opens_entryText (p : String × Tree) : Opens (entryText p).toList := by
  rw [entryText, String.toList_append, String.toList_append]
  exact ((opens_quote p.1).append _).append _

theorem render_table (entries : List (String × Tree)) :
    render (.table entries) = "\x7b" ++ joined entryText entries ++ "\x7d" := by
  have hentries : renderEntries entries = entries.map entryText := by
    induction entries with
    | nil => rfl
    | cons p entries ih => rw [renderEntries, ih, List.map_cons, entryText]
  rw [render, hentries, joined]

theorem value?_brace (n : Nat) (cs : List Char) :
    value? (n + 1) ('\x7b' :: cs) =
      match skipSpace cs with
      | '\x7d' :: rest => some (.table [], rest)
      | rest => (members? n rest).map fun (members, rest) => (ofMembers members, rest) :=
  rfl

/-- Between braces stand the entries of a table. -/
theorem value?_brace_members (n : Nat) {cs : List Char} (h : Opens cs) :
    value? (n + 1) ('\x7b' :: cs) =
      (members? n cs).map fun (members, rest) => (ofMembers members, rest) := by
  rw [value?_brace, h.skipSpace]
  obtain ⟨c, cs, rfl, -, -, hc⟩ := h
  split
  next heq => exact absurd (List.cons.inj heq).1 hc
  next => rfl

/-- An entry as a member whose key has a text. -/
def memberOf (p : String × Tree) : Option String × Tree :=
  (some p.1, p.2)

theorem mapM_memberOf (entries : List (String × Tree)) :
    ((entries.map memberOf).mapM fun (key?, value) => key?.map (·, value)) = some entries := by
  induction entries with
  | nil => rfl
  | cons p entries ih =>
    rw [List.map_cons, List.mapM_cons, ih]
    rfl

theorem ofMembers_map (entries : List (String × Tree)) :
    ofMembers (entries.map memberOf) = .table entries := by
  rw [ofMembers, mapM_memberOf]

/-- The entry at the front of a table. -/
theorem members?_entryText {p : String × Tree} (read : Reads p.2) {n : Nat}
    (hn : (entryText p).length < n) {rest : List Char} (hrest : Closed rest) :
    members? (n + 1) ((entryText p).toList ++ rest) =
      match skipSpace rest with
      | ',' :: rest => do
        let (members, rest) ← members? n rest
        return (memberOf p :: members, rest)
      | '\x7d' :: rest => some ([memberOf p], rest)
      | _ => none := by
  have hlength : (entryText p).length = (quote p.1).length + 1 + (render p.2).length := by
    rw [entryText, String.length_append, String.length_append]
    rfl
  have htext : (entryText p).toList ++ rest =
      (quote p.1).toList ++ ':' :: ((render p.2).toList ++ rest) := by
    simp [entryText]
  have hvalue := read n rest (by omega) hrest
  have hskip := ((opens_quote p.1).append (':' :: ((render p.2).toList ++ rest))).skipSpace
  obtain ⟨cs, hcs, hbody⟩ := quote_append p.1 (':' :: ((render p.2).toList ++ rest))
  rw [hcs] at hskip
  rw [htext, hcs, members?, hskip]
  -- The key, and then the value behind the colon.
  change (stringBody? cs).bind _ = _
  rw [hbody]
  change (value? n ((render p.2).toList ++ rest)).bind _ = _
  rw [hvalue]
  simp only [Option.bind_some, ofUnits?_toList p.1]
  rfl

/-- The entries of a table are read up to the closing brace. -/
theorem members?_joined {p : String × Tree} {entries : List (String × Tree)}
    (read : ∀ p' ∈ p :: entries, Reads p'.2) {n : Nat}
    (hn : (joined entryText (p :: entries)).length + 1 < n) (rest : List Char) :
    members? n ((joined entryText (p :: entries)).toList ++ '\x7d' :: rest) =
      some ((p :: entries).map memberOf, rest) := by
  induction entries generalizing p n with
  | nil =>
    obtain ⟨n, rfl⟩ : ∃ m, n = m + 1 := ⟨n - 1, by omega⟩
    rw [joined_single] at hn ⊢
    exact members?_entryText (read p List.mem_cons_self) (by omega) (.cons (.inr (.inr rfl)) rest)
  | cons next entries ih =>
    obtain ⟨n, rfl⟩ : ∃ m, n = m + 1 := ⟨n - 1, by omega⟩
    obtain ⟨readEntry, read⟩ := List.forall_mem_cons.mp read
    rw [length_joined_cons] at hn
    rw [toList_joined_cons, members?_entryText readEntry (by omega) (.cons (.inl rfl) _)]
    change (do
      let (members, rest) ← members? n _
      return (memberOf p :: members, rest)) = _
    rw [ih read (by omega)]
    rfl

/-- A table is read, since the values in it are. -/
theorem reads_table {entries : List (String × Tree)} (read : ∀ p ∈ entries, Reads p.2) :
    Reads (.table entries) := by
  intro n rest hn _
  have htext : (render (.table entries)).toList ++ rest =
      '\x7b' :: ((joined entryText entries).toList ++ '\x7d' :: rest) := by
    simp [render_table]
  have hlength : (render (.table entries)).length = 1 + (joined entryText entries).length + 1 := by
    rw [render_table, String.length_append, String.length_append]
    rfl
  obtain ⟨n, rfl⟩ : ∃ m, n = m + 1 := ⟨n - 1, by omega⟩
  rw [htext]
  cases entries with
  | nil => rfl
  | cons p entries =>
    rw [value?_brace_members n ((opens_joined entryText opens_entryText p entries).append _),
      members?_joined read (by omega), Option.map_some]
    dsimp only
    rw [ofMembers_map]

/-! ## Whole texts -/

/-- Every tree with a text of its own is read from it. -/
theorem Written.reads {tree : Tree} (h : Written tree) : Reads tree := by
  induction h with
  | flag b => exact reads_flag b
  | int n => exact reads_int n
  | text s => exact reads_text s
  | list _ read => exact reads_list read
  | table _ read => exact reads_table read

/-- What was written is read. -/
theorem parse?_render {tree : Tree} (h : Written tree) : parse? (render tree) = some tree := by
  have hvalue := h.reads ((render tree).length + 1) [] (by omega) .nil
  rw [List.append_nil] at hvalue
  rw [parse?, hvalue]
  rfl

end HostedFs.Json
