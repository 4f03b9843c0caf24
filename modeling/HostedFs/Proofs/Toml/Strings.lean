import HostedFs.Data.Toml.Render
import HostedFs.Proofs.Options.Numerals

/-! # Strings of TOML

    A string is written in one of several forms. Whichever it is, what is read is the
    string, whatever its characters are: quotes, ends of lines and control characters are
    shown so that they are told from the quotes around the string.

    * `Shown`: how a character is shown between double quotes.
    * `basicBody?_escaped`, `multilineBasicBody?_escaped`: strings in double quotes.
    * `le_longestRun`: no run of a quote is longer than the longest one.
    * `literalBody?_append`, `multilineLiteralBody?_append`: strings in single quotes.
    * `string?_stringChars`: a string that was written, whatever follows it.
-/

namespace HostedFs.Toml

open Options.Numeral (char_le_iff)

/-! ## Characters -/

/-- What is no control character may stand as it is. -/
theorem isTextChar_of_not_control {c : Char} (h : ¬ (c.toNat < 0x20 || c.toNat == 0x7f) = true) :
    isTextChar c := by
  simp only [Bool.or_eq_true, decide_eq_true_eq, beq_iff_eq, not_or] at h
  have hle : ' ' ≤ c := char_le_iff.mpr (Nat.le_of_not_lt h.1)
  have hne : c ≠ '\x7f' := by
    rintro rfl
    exact h.2 rfl
  simp [isTextChar, hle, hne]

/-- What needs no escape may stand in a string on one line or ends one. -/
theorem isTextChar_of_not_needsEscape {c : Char} (h : needsEscape c = false) (hline : c ≠ '\n') :
    isTextChar c := by
  by_cases htab : c = '\t'
  · rw [htab]
    rfl
  · apply isTextChar_of_not_control
    simpa [needsEscape, htab, hline] using h

theorem ne_newline_of_isTextChar {c : Char} (h : isTextChar c) : c ≠ '\n' ∧ c ≠ '\r' := by
  constructor
  · rintro rfl
    revert h
    decide
  · rintro rfl
    revert h
    decide

/-! ## Escapes -/

/-- The character of a code point that is written in four digits. -/
theorem hex4_eq {n : Nat} (h : n < 0x80) :
    ∃ a b c d, hex4 n = [a, b, c, d] ∧ codePoint? [a, b, c, d] = some (Char.ofNat n) := by
  have hall : ∀ n < 0x80, (hex4 n).length = 4 ∧ codePoint? (hex4 n) = some (Char.ofNat n) := by
    decide
  obtain ⟨hlength, hcode⟩ := hall n h
  generalize hex4 n = digits at hlength hcode ⊢
  match digits, hlength with
  | [a, b, c, d], _ => exact ⟨a, b, c, d, rfl, hcode⟩

/-- The letter of a short escape is read as its character. -/
theorem shortEscape?_of_shortEscapeOf? {c letter : Char}
    (h : escaped.shortEscapeOf? c = some letter) :
    shortEscape? letter = some c ∧ letter ≠ 'u' ∧ letter ≠ 'U' := by
  unfold escaped.shortEscapeOf? at h
  split at h
  all_goals
    cases h
    try decide

/-- How a character is shown between double quotes. -/
inductive Shown : Char → List Char → Prop
  /-- By a letter after a backslash. -/
  | short {c letter : Char} (h : shortEscape? letter = some c) (hu : letter ≠ 'u')
      (hU : letter ≠ 'U') : Shown c ['\\', letter]
  /-- By its code point. -/
  | code {c x y z w : Char} (h : codePoint? [x, y, z, w] = some c) :
      Shown c ['\\', 'u', x, y, z, w]
  /-- As it is. -/
  | plain {c : Char} (h : isTextChar c) (hquote : c ≠ '"') (hbackslash : c ≠ '\\') : Shown c [c]

/-- What a shown character begins with is neither a quote nor the end of a line. -/
theorem Shown.head {c : Char} {shown : List Char} (h : Shown c shown) :
    ∃ d ds, shown = d :: ds ∧ d ≠ '"' ∧ d ≠ '\n' ∧ d ≠ '\r' := by
  cases h with
  | short | code => exact ⟨_, _, rfl, by decide⟩
  | plain h hquote hbackslash => exact ⟨c, [], rfl, hquote, ne_newline_of_isTextChar h⟩

theorem escaped_raw_quote {quotes : Nat} (h : quotes < 2) (cs : List Char) :
    escaped true quotes ('"' :: cs) = '"' :: escaped true (quotes + 1) cs := by
  simp [escaped, h]

theorem escaped_raw_newline (quotes : Nat) (cs : List Char) :
    escaped true quotes ('\n' :: cs) = '\n' :: escaped true 0 cs := by
  simp [escaped]

/-- Any other character is shown by itself, and so is a quote that could end the string. -/
theorem escaped_cons {c : Char} {multiline : Bool} {quotes : Nat}
    (hquote : c = '"' → ¬ (multiline && quotes < 2) = true)
    (hline : ¬ (c == '\n' && multiline) = true) (cs : List Char) :
    ∃ shown, Shown c shown ∧
      escaped multiline quotes (c :: cs) = shown ++ escaped multiline 0 cs := by
  by_cases hc : c = '"'
  · have hfew := hquote hc
    subst hc
    have hshown : Shown '"' ['\\', '"'] := .short rfl (by decide) (by decide)
    refine ⟨_, hshown, ?_⟩
    rw [escaped, if_pos (by decide), if_neg hfew]
    rfl
  have hc' : ¬ (c == '"') = true := by simpa using hc
  rw [escaped, if_neg hc', if_neg hline]
  cases hshort : escaped.shortEscapeOf? c with
  | some letter =>
    obtain ⟨hletter, hu, hU⟩ := shortEscape?_of_shortEscapeOf? hshort
    exact ⟨_, .short hletter hu hU, rfl⟩
  | none =>
    dsimp only
    split
    next hcontrol =>
      -- A control character is below `0x80`, and two of its four digits are zero.
      have hsmall : c.toNat < 0x80 := by
        simp only [Bool.or_eq_true, decide_eq_true_eq, beq_iff_eq] at hcontrol
        omega
      obtain ⟨x, y, z, w, hdigits, hcode⟩ := hex4_eq hsmall
      rw [Char.ofNat_toNat] at hcode
      refine ⟨_, .code hcode, ?_⟩
      rw [hdigits]
    next hcontrol =>
      have hbackslash : c ≠ '\\' := by
        rintro rfl
        cases hshort
      exact ⟨_, .plain (isTextChar_of_not_control hcontrol) hc hbackslash, rfl⟩

/-! ## Double quotes on one line -/

theorem Shown.basicBody? {c : Char} {shown : List Char} (h : Shown c shown) (rest : List Char) :
    basicBody? (shown ++ rest) = before c (basicBody? rest) := by
  cases h with
  | short h hu hU => simp [Toml.basicBody?, h, hu, hU]
  | code h => simp [Toml.basicBody?, h]
  | plain h hquote hbackslash => simp [Toml.basicBody?, h, hbackslash]

/-- Escaped characters are read as they were. -/
theorem basicBody?_escaped (quotes : Nat) (cs rest : List Char) :
    basicBody? (escaped false quotes cs ++ '"' :: rest) = some (cs, rest) := by
  induction cs generalizing quotes with
  | nil => rfl
  | cons c cs ih =>
    have hquote : c = '"' → ¬ (false && quotes < 2) = true := by simp
    obtain ⟨shown, hshown, hescaped⟩ := escaped_cons hquote (by simp) cs
    rw [hescaped, List.append_assoc, hshown.basicBody?, ih]
    rfl

/-! ## Double quotes on several lines -/

theorem onlyBlanksLeft_of_shortEscape? {letter c : Char} (h : shortEscape? letter = some c)
    (rest : List Char) : onlyBlanksLeft (letter :: rest) = false := by
  unfold shortEscape? at h
  split at h
  all_goals
    cases h
    try rfl

theorem Shown.multilineBasicBody? {c : Char} {shown : List Char} (h : Shown c shown)
    (rest : List Char) :
    multilineBasicBody? false (shown ++ rest) = before c (multilineBasicBody? false rest) := by
  cases h with
  | short h hu hU =>
    have hblank := onlyBlanksLeft_of_shortEscape? h rest
    simp [Toml.multilineBasicBody?, h, hu, hU, hblank]
  | code h => simp [Toml.multilineBasicBody?, h]
  | plain h hquote hbackslash =>
    obtain ⟨hline, hreturn⟩ := ne_newline_of_isTextChar h
    simp [Toml.multilineBasicBody?, h, hquote, hbackslash, hreturn]

/-- The quotes at the end belong to the text but for the last three. -/
theorem multilineBasicBody?_end {rest : List Char} (h : rest.head? ≠ some '"') :
    multilineBasicBody? false ('"' :: '"' :: '"' :: rest) = some ([], rest) ∧
      multilineBasicBody? false ('"' :: '"' :: '"' :: '"' :: rest) = some (['"'], rest) ∧
      multilineBasicBody? false ('"' :: '"' :: '"' :: '"' :: '"' :: rest) =
        some (['"', '"'], rest) := by
  cases rest with
  | nil => exact ⟨rfl, rfl, rfl⟩
  | cons c rest =>
    have hc : c ≠ '"' := by simpa using h
    simp [multilineBasicBody?, hc]

/-- A quote that is not followed by two others is read as it is. -/
theorem multilineBasicBody?_quote {rest : List Char} (h : ¬ ['"', '"'] <+: rest) :
    multilineBasicBody? false ('"' :: rest) = before '"' (multilineBasicBody? false rest) := by
  have htext : isTextChar '"' = true := rfl
  rw [multilineBasicBody?]
  · simp [htext]
  case x_1 | x_2 | x_3 =>
    rintro _ - rfl
    exact h (List.prefix_append ['"', '"'] _)
  all_goals
    intros
    contradiction

theorem multilineBasicBody?_newline (rest : List Char) :
    multilineBasicBody? false ('\n' :: rest) = before '\n' (multilineBasicBody? false rest) := by
  simp [multilineBasicBody?]

/-- But for a quote that stands as it is, no character is shown by one. -/
theorem head_escaped_ne_quote {quotes : Nat} {c : Char} (h : c = '"' → ¬ quotes < 2)
    (cs tail : List Char) : ¬ ['"'] <+: escaped true quotes (c :: cs) ++ tail := by
  by_cases hline : c = '\n'
  · subst hline
    simp [escaped]
  · have hquote : c = '"' → ¬ (true && quotes < 2) = true := by simpa using h
    obtain ⟨shown, hshown, hescaped⟩ := escaped_cons hquote (by simpa using hline) cs
    obtain ⟨d, ds, rfl, hd, -⟩ := hshown.head
    simpa [hescaped] using hd.symm

/-- Two quotes in a row stand at the end of the text only, where they are followed by
    the closing ones. -/
theorem eq_of_two_quotes {quotes : Nat} {cs tail : List Char}
    (h : ['"', '"'] <+: escaped true (quotes + 1) cs ++ tail) :
    cs = [] ∨ quotes = 0 ∧ cs = ['"'] := by
  match cs with
  | [] => exact .inl rfl
  | c :: cs =>
    have hfirst : ['"'] <+: escaped true (quotes + 1) (c :: cs) ++ tail :=
      (List.prefix_append ['"'] ['"']).trans h
    by_cases hc : c = '"' → ¬ quotes + 1 < 2
    · exact absurd hfirst (head_escaped_ne_quote hc cs tail)
    · obtain ⟨rfl, hquotes⟩ := Classical.not_imp.mp hc
      obtain rfl : quotes = 0 := by omega
      rw [escaped_raw_quote (by decide), List.cons_append, List.cons_prefix_cons] at h
      cases cs with
      | nil => exact .inr ⟨rfl, rfl⟩
      | cons d ds => exact absurd h.2 (head_escaped_ne_quote (fun _ => by decide) ds tail)

/-- Escaped characters are read as they were, up to quotes that no other follows. -/
theorem multilineBasicBody?_escaped {rest : List Char} (h : rest.head? ≠ some '"') (quotes : Nat)
    (cs : List Char) :
    multilineBasicBody? false (escaped true quotes cs ++ '"' :: '"' :: '"' :: rest) =
      some (cs, rest) := by
  obtain ⟨hzero, hone, htwo⟩ := multilineBasicBody?_end h
  induction cs generalizing quotes with
  -- Up to two quotes in a row stand unescaped; the reader must not take them for the end.
  | nil => exact hzero
  | cons c cs ih =>
    by_cases hraw : c = '"' ∧ quotes < 2
    · obtain ⟨rfl, hfew⟩ := hraw
      rw [escaped_raw_quote hfew]
      by_cases hrun : ['"', '"'] <+: escaped true (quotes + 1) cs ++ '"' :: '"' :: '"' :: rest
      · obtain rfl | ⟨rfl, rfl⟩ := eq_of_two_quotes hrun
        · exact hone
        · exact htwo
      · rw [List.cons_append, multilineBasicBody?_quote hrun, ih]
        rfl
    · by_cases hline : c = '\n'
      · subst hline
        rw [escaped_raw_newline, List.cons_append, multilineBasicBody?_newline, ih]
        rfl
      · have hquote : c = '"' → ¬ (true && quotes < 2) = true := by simpa using hraw
        obtain ⟨shown, hshown, hescaped⟩ := escaped_cons hquote (by simpa using hline) cs
        rw [hescaped, List.append_assoc, hshown.multilineBasicBody?, ih]
        rfl

/-! ## Runs of a quote -/

/-- The run that a character ends or adds to, and the longest one so far. -/
def runStep (c : Char) (run : Nat × Nat) (d : Char) : Nat × Nat :=
  let current := if d == c then run.1 + 1 else 0
  (current, max run.2 current)

theorem le_foldl_runStep (c : Char) (cs : List Char) (run : Nat × Nat) :
    run.2 ≤ (cs.foldl (runStep c) run).2 := by
  induction cs generalizing run with
  | nil => exact Nat.le_refl _
  | cons d cs ih => exact Nat.le_trans (Nat.le_max_left _ _) (ih (runStep c run d))

/-- So many of the character in a row make a run of at least that length. -/
theorem le_foldl_replicate (c : Char) (n : Nat) {run : Nat × Nat} (h : run.1 ≤ run.2) :
    run.1 + n ≤ ((List.replicate n c).foldl (runStep c) run).2 := by
  induction n generalizing run with
  | zero => exact h
  | succ n ih =>
    have hstep : (runStep c run c).1 ≤ (runStep c run c).2 := Nat.le_max_right _ _
    have hlong := ih hstep
    have hcurrent : (runStep c run c).1 = run.1 + 1 := by simp [runStep]
    rw [List.replicate_succ, List.foldl_cons]
    omega

theorem foldl_runStep_le (c : Char) (cs : List Char) {run : Nat × Nat} (h : run.1 ≤ run.2) :
    (cs.foldl (runStep c) run).1 ≤ (cs.foldl (runStep c) run).2 := by
  induction cs generalizing run with
  | nil => exact h
  | cons d cs ih => exact ih (Nat.le_max_right _ _)

/-- No run is longer than the longest one. -/
theorem le_longestRun {c : Char} {n : Nat} {cs : List Char} (h : List.replicate n c <:+: cs) :
    n ≤ longestRun c cs := by
  obtain ⟨front, back, rfl⟩ := h
  let run := front.foldl (runStep c) (0, 0)
  have hrun : run.1 ≤ run.2 := foldl_runStep_le c front (Nat.le_refl 0)
  calc n ≤ run.1 + n := Nat.le_add_left n run.1
    _ ≤ ((List.replicate n c).foldl (runStep c) run).2 := le_foldl_replicate c n hrun
    _ ≤ (back.foldl (runStep c) ((List.replicate n c).foldl (runStep c) run)).2 :=
      le_foldl_runStep c back _
    _ = longestRun c (front ++ List.replicate n c ++ back) := by
      change _ = (List.foldl (runStep c) (0, 0) _).2
      rw [List.foldl_append, List.foldl_append]

/-! ## Single quotes -/

/-- A text of one line without the quote is read as it stands. -/
theorem literalBody?_append {cs : List Char} (hquote : '\'' ∉ cs)
    (htext : ∀ c ∈ cs, isTextChar c) (rest : List Char) :
    literalBody? (cs ++ '\'' :: rest) = some (cs, rest) := by
  induction cs with
  | nil => rfl
  | cons c cs ih =>
    simp only [List.mem_cons, not_or] at hquote
    obtain ⟨hc, hquote⟩ := hquote
    obtain ⟨htextc, htext⟩ := List.forall_mem_cons.mp htext
    have hc' : c ≠ '\'' := fun h => hc h.symm
    rw [List.cons_append, literalBody?]
    · rw [if_pos htextc, ih hquote htext]
      rfl
    · exact fun h => hc' h

theorem multilineLiteralBody?_end {rest : List Char} (h : rest.head? ≠ some '\'') :
    multilineLiteralBody? ('\'' :: '\'' :: '\'' :: rest) = some ([], rest) ∧
      multilineLiteralBody? ('\'' :: '\'' :: '\'' :: '\'' :: rest) = some (['\''], rest) ∧
      multilineLiteralBody? ('\'' :: '\'' :: '\'' :: '\'' :: '\'' :: rest) =
        some (['\'', '\''], rest) := by
  cases rest with
  | nil => exact ⟨rfl, rfl, rfl⟩
  | cons c rest =>
    have hc : c ≠ '\'' := by simpa using h
    simp [multilineLiteralBody?, hc]

theorem multilineLiteralBody?_newline (rest : List Char) :
    multilineLiteralBody? ('\n' :: rest) = before '\n' (multilineLiteralBody? rest) := by
  simp [multilineLiteralBody?]

/-- Any other character is read as it is, and so is a quote that is not followed by two
    others. -/
theorem multilineLiteralBody?_cons {c : Char} {rest : List Char} (htext : isTextChar c)
    (h : c = '\'' → ¬ ['\'', '\''] <+: rest) :
    multilineLiteralBody? (c :: rest) = before c (multilineLiteralBody? rest) := by
  obtain ⟨hline, hreturn⟩ := ne_newline_of_isTextChar htext
  rw [multilineLiteralBody?]
  · rw [if_pos htext]
  case x_1 | x_2 | x_3 =>
    rintro _ rfl rfl
    exact h rfl (List.prefix_append ['\'', '\''] _)
  case x_4 => exact hline
  case x_5 => exact fun _ hc _ => hreturn hc

/-- A text without three quotes in a row is read as it stands, up to quotes that no other
    follows. -/
theorem multilineLiteralBody?_append {cs rest : List Char} (h : rest.head? ≠ some '\'')
    (hquotes : ¬ List.replicate 3 '\'' <:+: cs) (htext : ∀ c ∈ cs, c = '\n' ∨ isTextChar c) :
    multilineLiteralBody? (cs ++ '\'' :: '\'' :: '\'' :: rest) = some (cs, rest) := by
  obtain ⟨hzero, hone, htwo⟩ := multilineLiteralBody?_end h
  induction cs with
  | nil => exact hzero
  | cons c cs ih =>
    have hquotes' : ¬ List.replicate 3 '\'' <:+: cs := fun hrun =>
      hquotes (hrun.trans (List.suffix_cons c cs).isInfix)
    obtain ⟨htextc, htext'⟩ := List.forall_mem_cons.mp htext
    obtain rfl | htextc := htextc
    · rw [List.cons_append, multilineLiteralBody?_newline, ih hquotes' htext']
      rfl
    by_cases hrun : c = '\'' ∧ ['\'', '\''] <+: cs ++ '\'' :: '\'' :: '\'' :: rest
    · obtain ⟨rfl, hrun⟩ := hrun
      match cs with
      | [] => exact hone
      | ['\''] => exact htwo
      | d :: e :: ds =>
        -- The two quotes that follow are in the text, so there are three in a row.
        refine absurd ?_ hquotes
        obtain ⟨rfl, rfl⟩ : '\'' = d ∧ '\'' = e := by simpa using hrun
        exact (List.prefix_append ['\'', '\'', '\''] ds).isInfix
    · have hc : c = '\'' → ¬ ['\'', '\''] <+: cs ++ '\'' :: '\'' :: '\'' :: rest := by
        simpa using hrun
      rw [List.cons_append, multilineLiteralBody?_cons htextc hc, ih hquotes' htext']
      rfl

/-! ## Strings of any form -/

variable {rest : List Char}

theorem string?_basic (cs : List Char) (h : rest.head? ≠ some '"') :
    string? ('"' :: (escaped false 0 cs ++ '"' :: rest)) = some (String.ofList cs, rest) := by
  have hopen : ¬ ['"', '"'] <+: escaped false 0 cs ++ '"' :: rest := by
    cases cs with
    | nil =>
      cases rest with
      | nil => simp [escaped]
      | cons d ds => simpa [escaped, eq_comm] using h
    | cons c cs =>
      have hquote : c = '"' → ¬ (false && 0 < 2) = true := by simp
      obtain ⟨shown, hshown, hescaped⟩ := escaped_cons hquote (by simp) cs
      obtain ⟨d, ds, rfl, hd, -⟩ := hshown.head
      simp [hescaped, hd.symm]
  rw [string?, basicBody?_escaped]
  · rfl
  · rintro _ hrun
    exact hopen (hrun ▸ List.prefix_append ['"', '"'] _)

theorem afterFirstNewline_opening {cs body : List Char}
    (h : '\n' ∉ cs → ∀ c ∈ body.head?, c ≠ '\n' ∧ c ≠ '\r') :
    afterFirstNewline (opening cs ++ body) = body := by
  unfold opening
  split
  next => rfl
  next hline =>
    rw [List.nil_append]
    unfold afterFirstNewline
    split
    next => exact absurd rfl (h hline _ rfl).1
    next => exact absurd rfl (h hline _ rfl).2
    next => rfl

theorem string?_multilineBasic (cs : List Char) (h : rest.head? ≠ some '"') :
    string? ('"' :: '"' :: '"' ::
      (opening cs ++ (escaped true 0 cs ++ '"' :: '"' :: '"' :: rest))) =
        some (String.ofList cs, rest) := by
  -- The first newline after the opening quotes is dropped, so the text must not begin with one.
  have hbody : '\n' ∉ cs → ∀ c ∈ (escaped true 0 cs ++ '"' :: '"' :: '"' :: rest).head?,
      c ≠ '\n' ∧ c ≠ '\r' := by
    intro hline
    cases cs with
    | nil => simp [escaped]
    | cons c cs =>
      by_cases hc : c = '"'
      · subst hc
        simp [escaped]
      · simp only [List.mem_cons, not_or] at hline
        have hline' : ¬ (c == '\n' && true) = true := by simpa using Ne.symm hline.1
        have hquote : c = '"' → ¬ (true && 0 < 2) = true := fun h => absurd h hc
        obtain ⟨shown, hshown, hescaped⟩ := escaped_cons hquote hline' cs
        obtain ⟨d, ds, rfl, -, hd⟩ := hshown.head
        simpa [hescaped] using hd
  rw [string?, afterFirstNewline_opening hbody, multilineBasicBody?_escaped h]
  rfl

theorem string?_literal {cs : List Char} (h : rest.head? ≠ some '\'') (hquote : '\'' ∉ cs)
    (htext : ∀ c ∈ cs, isTextChar c) :
    string? ('\'' :: (cs ++ '\'' :: rest)) = some (String.ofList cs, rest) := by
  have hopen : ¬ ['\'', '\''] <+: cs ++ '\'' :: rest := by
    cases cs with
    | nil =>
      cases rest with
      | nil => simp
      | cons d ds => simpa [eq_comm] using h
    | cons c cs =>
      simp only [List.mem_cons, not_or] at hquote
      simp [hquote.1]
  rw [string?, literalBody?_append hquote htext]
  · rfl
  · rintro _ hrun
    exact hopen (hrun ▸ List.prefix_append ['\'', '\''] _)

theorem string?_multilineLiteral {cs : List Char} (h : rest.head? ≠ some '\'')
    (hquotes : ¬ List.replicate 3 '\'' <:+: cs) (htext : ∀ c ∈ cs, c = '\n' ∨ isTextChar c) :
    string? ('\'' :: '\'' :: '\'' :: (opening cs ++ (cs ++ '\'' :: '\'' :: '\'' :: rest))) =
      some (String.ofList cs, rest) := by
  have hbody : '\n' ∉ cs → ∀ c ∈ (cs ++ '\'' :: '\'' :: '\'' :: rest).head?,
      c ≠ '\n' ∧ c ≠ '\r' := by
    intro hline
    cases cs with
    | nil => simp
    | cons c cs =>
      simp only [List.mem_cons, not_or] at hline
      obtain ⟨rfl | htextc, -⟩ := List.forall_mem_cons.mp htext
      · exact absurd rfl hline.1
      · simpa using ne_newline_of_isTextChar htextc
  rw [string?, afterFirstNewline_opening hbody, multilineLiteralBody?_append h hquotes htext]
  rfl

/-- What needs no escape may stand as it is. -/
theorem eq_newline_or_isTextChar {cs : List Char} (h : (!cs.any needsEscape) = true) :
    ∀ c ∈ cs, c = '\n' ∨ isTextChar c := by
  intro c hc
  by_cases hline : c = '\n'
  · exact .inl hline
  · have hall : cs.any needsEscape = false := by simpa using h
    have hno : needsEscape c = false := by simpa using List.any_eq_false.mp hall c hc
    exact .inr (isTextChar_of_not_needsEscape hno hline)

/-- A string that was written is read as it was, where no quote follows it. -/
theorem string?_stringChars (cs : List Char) (hdouble : rest.head? ≠ some '"')
    (hsingle : rest.head? ≠ some '\'') :
    string? (stringChars cs ++ rest) = some (String.ofList cs, rest) := by
  -- The writer chooses among four forms by what is in the text; each is read back.
  have hbasic : string? ('"' :: escaped false 0 cs ++ ['"'] ++ rest) =
      some (String.ofList cs, rest) := by
    simpa using string?_basic cs hdouble
  have hmultiline : string? ("\"\"\"".toList ++ opening cs ++ escaped true 0 cs ++
      "\"\"\"".toList ++ rest) = some (String.ofList cs, rest) := by
    simpa using string?_multilineBasic cs hdouble
  unfold stringChars
  dsimp only
  split
  next => exact hbasic
  split
  next hliteral =>
    simp only [Bool.and_eq_true, beq_iff_eq, Bool.not_eq_true', decide_eq_false_iff_not]
      at hliteral
    obtain ⟨⟨hcontrol, hzero⟩, hline⟩ := hliteral
    -- A literal string is chosen only if it holds no quote that would end it.
    have hquote : '\'' ∉ cs := by
      intro hmem
      obtain ⟨front, back, rfl⟩ := List.append_of_mem hmem
      have hrun : List.replicate 1 '\'' <:+: front ++ '\'' :: back := ⟨front, back, by simp⟩
      have hone := le_longestRun hrun
      omega
    have htext : ∀ c ∈ cs, isTextChar c := by
      intro c hc
      obtain rfl | htext := eq_newline_or_isTextChar (by simpa using hcontrol) c hc
      · exact absurd hc hline
      · exact htext
    simpa using string?_literal hsingle hquote htext
  split
  next => exact hmultiline
  split
  next hliteral =>
    obtain ⟨hcontrol, hfew⟩ := Bool.and_eq_true_iff.mp hliteral
    have hquotes : ¬ List.replicate 3 '\'' <:+: cs := by
      intro hrun
      have hmany := le_longestRun hrun
      have hfew := of_decide_eq_true hfew
      omega
    simpa using string?_multilineLiteral hsingle hquotes (eq_newline_or_isTextChar hcontrol)
  split
  next => exact hmultiline
  next => exact hbasic

/-- Two quotes in a row may stand as they are, also before the closing ones. -/
example : stringChars ['a', '\n', '"', 'b', '"', '"'] =
    ['"', '"', '"', '\n', 'a', '\n', '"', 'b', '"', '"', '"', '"', '"'] := by
  decide

end HostedFs.Toml
