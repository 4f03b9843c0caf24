import HostedFs.Data.Toml.Parse
import HostedFs.Proofs.Toml.Strings

/-! # Values of TOML

    The flags, the texts and the lists of these that are written are read as they were,
    whatever follows them, and so are the keys that need no quotes.

    * `Simple`: flags, texts and lists of these, the lists so many deep.
    * `Simple.reads`: a value that was written.
    * `key?_bare`: a key that was written.
-/

namespace HostedFs.Toml

/-- Flags, texts and lists of these, with so many lists in one another at most. -/
inductive Simple : Nat → Tree → Prop
  | flag {depth : Nat} (b : Bool) : Simple depth (.flag b)
  | text {depth : Nat} (s : String) : Simple depth (.text s)
  | list {depth : Nat} {items : List Tree} (simple : ∀ item ∈ items, Simple depth item) :
      Simple (depth + 1) (.list items)

theorem Simple.texts {depth : Nat} (texts : List String) :
    Simple (depth + 1) (.list (texts.map .text)) := by
  apply Simple.list
  intro item hitem
  obtain ⟨text, -, rfl⟩ := List.mem_map.mp hitem
  exact .text text

/-- What follows a text does not begin with a quote. -/
structure Unquoted (rest : List Char) : Prop where
  double : rest.head? ≠ some '"'
  single : rest.head? ≠ some '\''

theorem Unquoted.cons {c : Char} (hdouble : c ≠ '"') (hsingle : c ≠ '\'') (rest : List Char) :
    Unquoted (c :: rest) :=
  ⟨by simpa using hdouble, by simpa using hsingle⟩

/-! ## Values -/

/-- The characters that a simple value begins with. -/
def firstChars : List Char :=
  ['"', '\'', 't', 'f', '[']

theorem stringChars_head (cs : List Char) :
    ∃ c ds, stringChars cs = c :: ds ∧ (c = '"' ∨ c = '\'') := by
  unfold stringChars
  dsimp only
  split
  next => exact ⟨_, _, rfl, .inl rfl⟩
  split
  next => exact ⟨_, _, rfl, .inr rfl⟩
  split
  next => exact ⟨_, _, rfl, .inl rfl⟩
  split
  next => exact ⟨_, _, rfl, .inr rfl⟩
  split
  next => exact ⟨_, _, rfl, .inl rfl⟩
  next => exact ⟨_, _, rfl, .inl rfl⟩

theorem Simple.head {depth : Nat} {value : Tree} (h : Simple depth value) :
    ∃ c cs, (valueText value).toList = c :: cs ∧ c ∈ firstChars := by
  cases h with
  | flag b => cases b with
    | false => exact ⟨_, _, rfl, by decide⟩
    | true => exact ⟨_, _, rfl, by decide⟩
  | text s =>
    obtain ⟨c, cs, hs, hc⟩ := stringChars_head s.toList
    refine ⟨c, cs, ?_, ?_⟩
    · simpa [valueText, stringText] using hs
    · obtain rfl | rfl := hc
      all_goals decide
  | @list _ items _ =>
    refine ⟨'[', ?_⟩
    match items with
    | [] => exact ⟨_, rfl, by decide⟩
    | [item] => exact ⟨(valueText item ++ "]").toList, by simp [valueText], by decide⟩
    | item :: next :: items =>
      exact ⟨("\n" ++ itemLines (item :: next :: items) ++ "]").toList, by simp [valueText],
        by decide⟩

/-- Nothing is skipped before a simple value. -/
theorem skip_of_mem_firstChars {c : Char} (h : c ∈ firstChars) (cs : List Char) :
    skipBlanks (c :: cs) = c :: cs ∧ skipTrivia false (c :: cs) = c :: cs := by
  simp only [firstChars, List.mem_cons, List.not_mem_nil, or_false] at h
  obtain rfl | rfl | rfl | rfl | rfl := h
  all_goals exact ⟨rfl, by simp [skipTrivia, isBlank]⟩

/-- The blanks before an item, and the ends of lines. -/
theorem skipTrivia_indent (cs : List Char) :
    skipTrivia false (' ' :: ' ' :: ' ' :: ' ' :: cs) = skipTrivia false cs := by
  simp [skipTrivia, isBlank]

/-- A value is read, if the measure is greater than the length of its text. -/
def Reads (depth : Nat) (value : Tree) : Prop :=
  ∀ (n : Nat) (rest : List Char), (valueText value).length < n → Unquoted rest →
    value? depth n ((valueText value).toList ++ rest) = some (value, rest)

section Items

variable {depth n : Nat} {front rest : List Char}

/-- The item at the front of a list. -/
theorem items?_item {item : Tree} (simple : Simple depth item) (read : Reads depth item)
    (hfront : skipTrivia false front = skipTrivia false ((valueText item).toList ++ rest))
    (hn : (valueText item).length < n) (hrest : Unquoted rest) :
    items? depth (n + 1) front =
      match skipTrivia false rest with
      | ',' :: rest => do
        let (items, rest) ← items? depth n rest
        return (item :: items, rest)
      | ']' :: rest => some ([item], rest)
      | _ => none := by
  obtain ⟨c, cs, htext, hc⟩ := simple.head
  have hread := read n rest hn hrest
  rw [htext, List.cons_append] at hread hfront
  rw [(skip_of_mem_firstChars hc _).2] at hfront
  -- A value does not begin like the end of the list.
  have hclosing : c ≠ ']' := by
    rintro rfl
    revert hc
    decide
  rw [items?, hfront]
  split
  next heq => exact absurd (List.cons.inj heq).1 hclosing
  next =>
    rw [hread]
    rfl

/-- The items of a list that stand on lines of their own. -/
theorem items?_itemLines {items : List Tree}
    (simple : ∀ item ∈ items, Simple depth item) (read : ∀ item ∈ items, Reads depth item)
    (rest : List Char)
    (hfront : skipTrivia false front = skipTrivia false ((itemLines items).toList ++ ']' :: rest))
    (hn : (itemLines items).length < n) :
    items? depth n front = some (items, rest) := by
  induction items generalizing n front with
  -- Induction over the lines; the fuel `n` is as long as the text that is left.
  | nil =>
    match n, hn with
    | n + 1, _ =>
      rw [items?, hfront]
      rfl
  | cons item items ih =>
    match n, hn with
    | n + 1, hn =>
      obtain ⟨simpleItem, simple⟩ := List.forall_mem_cons.mp simple
      obtain ⟨readItem, read⟩ := List.forall_mem_cons.mp read
      have hfront' : skipTrivia false front = skipTrivia false ((valueText item).toList ++
          ',' :: '\n' :: ((itemLines items).toList ++ ']' :: rest)) := by
        rw [hfront]
        simp [itemLines, skipTrivia_indent]
      have hlength : (itemLines (item :: items)).length =
          4 + (valueText item).length + 2 + (itemLines items).length := by
        rw [itemLines, String.length_append, String.length_append, String.length_append]
        rfl
      have hitem : (valueText item).length < n := by omega
      have hitems : (itemLines items).length < n := by omega
      have hline : skipTrivia false ('\n' :: ((itemLines items).toList ++ ']' :: rest)) =
          skipTrivia false ((itemLines items).toList ++ ']' :: rest) := rfl
      rw [items?_item simpleItem readItem hfront' hitem (.cons (by decide) (by decide) _)]
      change (do
        let (items, rest) ← items? depth n _
        return (item :: items, rest)) = _
      rw [ih simple read hline hitems]
      rfl

end Items

/-- Between brackets stand the items of a list. -/
theorem value?_bracket (depth n : Nat) (cs : List Char) :
    value? (depth + 1) (n + 1) ('[' :: cs) =
      (items? depth n cs).map fun (items, rest) => (.list items, rest) := by
  rw [value?, if_neg (Nat.succ_ne_zero depth)]
  rfl

theorem value?_text (s : String) (depth n : Nat) {rest : List Char} (h : Unquoted rest) :
    value? depth (n + 1) (stringChars s.toList ++ rest) = some (.text s, rest) := by
  have hread := string?_stringChars s.toList h.double h.single
  obtain ⟨c, cs, hs, hc⟩ := stringChars_head s.toList
  rw [hs, List.cons_append] at hread ⊢
  obtain rfl | rfl := hc
  all_goals
    rw [value?, hread, String.ofList_toList]
    rfl

theorem length_valueText_single (item : Tree) :
    (valueText (.list [item])).length = (valueText item).length + 2 := by
  rw [valueText, String.length_append, String.length_append]
  change 1 + _ + 1 = _
  omega

theorem length_valueText_several (item next : Tree) (items : List Tree) :
    (valueText (.list (item :: next :: items))).length =
      (itemLines (item :: next :: items)).length + 3 := by
  rw [valueText, String.length_append, String.length_append]
  · change 2 + _ + 1 = _
    omega
  · exact fun h => nomatch h

/-- A list of simple values is read, since its items are. -/
theorem reads_list {depth : Nat} {items : List Tree} (simple : ∀ item ∈ items, Simple depth item)
    (read : ∀ item ∈ items, Reads depth item) : Reads (depth + 1) (.list items) := by
  intro n rest hn _
  match items, n, hn with
  -- The three forms of a written list: empty, on one line, and on lines of their own.
  | [], n + 2, _ => exact value?_bracket depth _ (']' :: rest)
  | [item], n, hn =>
    rw [length_valueText_single] at hn
    obtain ⟨n, rfl⟩ : ∃ m, n = m + 2 := ⟨n - 2, by omega⟩
    have hitem : (valueText item).length < n := by omega
    have hrest : Unquoted (']' :: rest) := .cons (by decide) (by decide) rest
    have htext : (valueText (.list [item])).toList ++ rest =
        '[' :: ((valueText item).toList ++ ']' :: rest) := by
      simp [valueText]
    rw [htext, value?_bracket,
      items?_item (simple item (by simp)) (read item (by simp)) rfl hitem hrest]
    rfl
  | item :: next :: items, n, hn =>
    rw [length_valueText_several] at hn
    obtain ⟨n, rfl⟩ : ∃ m, n = m + 1 := ⟨n - 1, by omega⟩
    have hitems : (itemLines (item :: next :: items)).length < n := by omega
    have htext : (valueText (.list (item :: next :: items))).toList ++ rest =
        '[' :: '\n' :: ((itemLines (item :: next :: items)).toList ++ ']' :: rest) := by
      simp [valueText]
    have hline : skipTrivia false ('\n' :: ((itemLines (item :: next :: items)).toList ++
        ']' :: rest)) =
          skipTrivia false ((itemLines (item :: next :: items)).toList ++ ']' :: rest) := rfl
    rw [htext, value?_bracket, items?_itemLines simple read rest hline hitems]
    rfl

/-- Every simple value is read as it was written. -/
theorem Simple.reads {depth : Nat} {value : Tree} (h : Simple depth value) :
    Reads depth value := by
  induction h with
  | flag b =>
    intro n rest hn _
    obtain ⟨n, rfl⟩ : ∃ m, n = m + 1 := ⟨n - 1, by omega⟩
    cases b with
    | false => rfl
    | true => rfl
  | text s =>
    intro n rest hn hrest
    obtain ⟨n, rfl⟩ : ∃ m, n = m + 1 := ⟨n - 1, by omega⟩
    simpa [valueText, stringText] using value?_text s _ n hrest
  | list simple read => exact reads_list simple read

/-! ## Keys -/

/-- A key that stands without quotes. -/
def IsBare (key : String) : Prop :=
  (!key.isEmpty && key.toList.all isKeyChar) = true

instance (key : String) : Decidable (IsBare key) :=
  inferInstanceAs (Decidable (_ = _))

theorem IsBare.keyText {key : String} (h : IsBare key) : keyText key = key :=
  if_pos h

theorem IsBare.cons {key : String} (h : IsBare key) :
    ∃ c cs, key.toList = c :: cs ∧ ∀ d ∈ c :: cs, isKeyChar d = true := by
  obtain ⟨hne, hall⟩ := Bool.and_eq_true_iff.mp h
  have hall : ∀ d ∈ key.toList, isKeyChar d = true := by simpa using hall
  match hkey : key.toList with
  | [] => simp [String.toList_eq_nil_iff.mp hkey] at hne
  | c :: cs => exact ⟨c, cs, rfl, hkey ▸ hall⟩

theorem isKeyChar_ne {c : Char} (h : isKeyChar c) {d : Char} (hd : isKeyChar d = false) :
    c ≠ d := by
  rintro rfl
  rw [hd] at h
  cases h

/-- A key without quotes goes up to the first other character. -/
theorem keyPart?_bare {key : String} (h : IsBare key) {d : Char} (hd : isKeyChar d = false)
    (rest : List Char) : keyPart? (key.toList ++ d :: rest) = some (key, d :: rest) := by
  obtain ⟨c, cs, hkey, hall⟩ := h.cons
  have hc : isKeyChar c := hall c List.mem_cons_self
  -- The character behind the key is none of a key.
  have htake : (key.toList ++ d :: rest).takeWhile isKeyChar = c :: cs := by
    rw [hkey, List.takeWhile_append_of_pos hall, List.takeWhile_cons_of_neg (by simp [hd]),
      List.append_nil]
  have hdrop : (key.toList ++ d :: rest).dropWhile isKeyChar = d :: rest := by
    rw [hkey, List.dropWhile_append_of_pos hall, List.dropWhile_cons_of_neg (by simp [hd])]
  have hself : String.ofList (c :: cs) = key := by rw [← hkey, String.ofList_toList]
  unfold keyPart?
  split
  next heq =>
    rw [hkey] at heq
    exact absurd (List.cons.inj heq).1 (isKeyChar_ne hc rfl)
  next heq =>
    rw [hkey] at heq
    exact absurd (List.cons.inj heq).1 (isKeyChar_ne hc rfl)
  next =>
    rw [htake, hdrop]
    dsimp only
    rw [hself]

/-- A key without quotes that has one part. -/
theorem key?_bare {key : String} (h : IsBare key) (n : Nat) {d e : Char}
    (hd : isKeyChar d = false) {rest rest' : List Char}
    (hrest : skipBlanks (d :: rest) = e :: rest') (he : e ≠ '.') :
    key? (n + 1) (key.toList ++ d :: rest) = some ([key], e :: rest') := by
  obtain ⟨c, cs, hkey, hall⟩ := h.cons
  have hc : isKeyChar c := hall c List.mem_cons_self
  have hblank : isBlank c = false := by
    simp [isBlank, isKeyChar_ne hc (d := ' ') rfl, isKeyChar_ne hc (d := '\t') rfl]
  have hskip : skipBlanks (key.toList ++ d :: rest) = key.toList ++ d :: rest := by
    rw [hkey, List.cons_append]
    exact List.dropWhile_cons_of_neg (by simp [hblank])
  rw [key?, hskip, keyPart?_bare h hd]
  dsimp only [Option.bind_eq_bind, Option.bind_some]
  rw [hrest]
  split
  next heq => exact absurd (List.cons.inj heq).1 he
  next => rfl

end HostedFs.Toml
