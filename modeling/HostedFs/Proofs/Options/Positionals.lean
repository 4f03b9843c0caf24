import HostedFs.Proofs.Options.Separator

/-! # Positional arguments of a command line

    Without a template there is nothing to decode, and what is handed back are the
    arguments that are no options: those before the separator, and all that are after
    it. The separator itself stays where there are some on both sides.

    * `positionals`: the arguments that are no options, by their look alone.
    * `parted`: arguments with a separator between them.
    * `parse_wordless`, `parse_wordless_dangling`: what comes of a command line without
      a template.
    * `Filtered`, `parse_empty`: the same for the empty format.
-/

namespace HostedFs.Options

/-! ## Arguments that are no options -/

/-- The arguments that neither start with a dash nor are the list that `-o` announces. -/
def positionals : List String → List String
  | [] => []
  | "-o" :: _ :: rest => positionals rest
  | arg :: rest =>
    if arg.toList.head? = some '-' then positionals rest else arg :: positionals rest

variable {arg : String} {args front back rest : List String} {pieces : List Piece}
  {ending : Ending}

theorem positionals_cons_of_plain (plain : arg.toList.head? ≠ some '-') (rest : List String) :
    positionals (arg :: rest) = arg :: positionals rest := by
  have hother : arg ≠ "-o" := by
    rintro rfl
    exact plain (by decide)
  rw [positionals.eq_def]
  simp [hother, plain]

theorem positionals_cons_of_dash (dash : arg.toList.head? = some '-') (other : arg ≠ "-o")
    (rest : List String) : positionals (arg :: rest) = positionals rest := by
  rw [positionals.eq_def]
  simp [other, dash]

/-- An option that does not start like one with a list is not the one that announces it. -/
theorem ne_announcing_of_unlisted {text : String} (unlisted : text.toList.head? ≠ some 'o') :
    "-" ++ text ≠ "-o" := by
  intro h
  have htext : text = "o" := by
    have hcs := congrArg String.toList h
    apply String.toList_inj.mp
    simpa using hcs
  exact unlisted (by rw [htext]; decide)

/-- They are the pieces that are positional. -/
theorem filterMap_positional (cut : Cut front pieces) :
    pieces.filterMap Piece.positional? = positionals front := by
  have hnone := filterMap_suboption_none Piece.positional? fun _ => rfl
  induction cut with
  | nil => rfl
  | @announced list parts rest pieces cut next ih =>
    rw [List.filterMap_append, hnone, List.nil_append, ih]
    rfl
  | @attached list parts rest pieces some cut next ih =>
    have hother : "-o" ++ list ≠ "-o" := by simpa using some
    rw [List.filterMap_append, hnone, List.nil_append, ih,
      positionals_cons_of_dash (by simp) hother]
  | @option text rest pieces other unlisted next ih =>
    rw [positionals_cons_of_dash (by simp) (ne_announcing_of_unlisted unlisted)]
    exact ih
  | @positional arg rest pieces plain next ih =>
    rw [positionals_cons_of_plain plain, ← ih]
    rfl

/-- None of them starts with a dash. -/
theorem plain_of_mem_positionals (h : arg ∈ positionals args) : arg.toList.head? ≠ some '-' := by
  fun_induction positionals args with
  | case1 => cases h
  | case2 list rest ih => exact ih h
  | case3 other rest hother dash ih => exact ih h
  | case4 other rest hother plain ih =>
    rcases List.mem_cons.mp h with rfl | h
    · exact plain
    · exact ih h

/-- So none is a separator. -/
theorem separator_notMem_positionals (args : List String) : "--" ∉ positionals args := by
  intro h
  exact plain_of_mem_positionals h (by decide)

/-! ## Separators between them and others -/

/-- The arguments that the scan does not look at. -/
def Ending.unscanned : Ending → List String
  | .separated rest => rest
  | _ => []

@[simp] theorem Ending.unscanned_exhausted : Ending.exhausted.unscanned = [] := rfl

@[simp] theorem Ending.unscanned_dangling : Ending.dangling.unscanned = [] := rfl

@[simp] theorem Ending.unscanned_separated (rest : List String) :
    (Ending.separated rest).unscanned = rest := rfl

/-- Arguments in front of others, with a separator between them unless there are none on
    one side. -/
def parted (front back : List String) : List String :=
  front ++ (if front ≠ [] ∧ back ≠ [] then ["--"] else []) ++ back

@[simp] theorem parted_nil_left (back : List String) : parted [] back = back := by
  simp [parted]

@[simp] theorem parted_nil_right (front : List String) : parted front [] = front := by
  simp [parted]

theorem parted_of_ne_nil (hfront : front ≠ []) (hback : back ≠ []) :
    parted front back = front ++ "--" :: back := by
  simp [parted, hfront, hback]

/-- A list without separators keeps its front, too. -/
theorem dropLeadingSeparator_of_notMem (h : "--" ∉ args) : dropLeadingSeparator args = args := by
  refine if_neg fun hhead => ?_
  exact h (List.mem_of_head? hhead)

/-- Without a separator at either end, the arguments after it are parted from those
    before it. -/
theorem dropSeparators_eq (hfront : "--" ∉ front)
    (hlast : ending.unscanned.getLast? ≠ some "--") :
    dropLeadingSeparator (dropFinalSeparator (front ++ ending.tail)) =
      parted front ending.unscanned := by
  have hunseparated : dropLeadingSeparator (dropFinalSeparator front) = front := by
    rw [dropFinalSeparator_of_notMem hfront, dropLeadingSeparator_of_notMem hfront]
  cases ending with
  | exhausted =>
    show dropLeadingSeparator (dropFinalSeparator (front ++ [])) = parted front []
    rw [List.append_nil, hunseparated, parted_nil_right]
  | dangling =>
    show dropLeadingSeparator (dropFinalSeparator (front ++ [])) = parted front []
    rw [List.append_nil, hunseparated, parted_nil_right]
  | separated rest =>
    show dropLeadingSeparator (dropFinalSeparator (front ++ "--" :: rest)) = parted front rest
    -- The separator is dropped if nothing is left behind it, or if nothing is ahead of it.
    rw [dropFinalSeparator_separated]
    by_cases hrest : rest = []
    · have hnone : keptTail [] = [] := rfl
      rw [hrest, hnone, List.append_nil, dropLeadingSeparator_of_notMem hfront, parted_nil_right]
    · rw [keptTail_of_ne hrest hlast]
      by_cases hnone : front = []
      · rw [hnone, parted_nil_left]
        rfl
      · have hhead : front.head? ≠ some "--" := by
          intro hhead
          exact hfront (List.mem_of_head? hhead)
        rw [dropLeadingSeparator_append hhead hnone, parted_of_ne_nil hnone hrest]

/-! ## Command lines without a template -/

/-- Without a rule every piece can be read. -/
theorem exists_readings_nil (pieces : List Piece) :
    ∃ readings, pieces.mapM (Reading.ofPiece []) = .ok readings :=
  (readings_isOk_iff (by simp)).mpr (by simp [Decodes])

section Wordless

variable {format : String} (blank : Text.wordsOf format = [])
include blank

/-- Such a format reads a command line by no rule. -/
theorem parse_eq_parseScan_nil (args : List String) :
    parse format [] args = parseScan [] (Scan.ofArgs args) := by
  have htemplates : List.Forall₂ Template.Spells (Text.wordsOf format) [] := by
    rw [blank]
    exact .nil
  exact parse_eq_parseScan htemplates rfl args

/-- So nothing can fail but the scan. -/
theorem parse_wordless_dangling (cut : Cut front pieces) :
    parse format [] (front ++ ["-o"]) = .error (.missingValue "-o") := by
  obtain ⟨readings, hreadings⟩ := exists_readings_nil pieces
  rw [parse_eq_parseScan_nil blank, ofArgs_append cut .dangling]
  simp [parseScan, readScan, hreadings, bind, Except.bind, throw, throwThe, MonadExceptOf.throw]

/-- Otherwise positional arguments and those after a separator are handed back, but for
    separators at either end. -/
theorem parse_wordless (cut : Cut front pieces) (stop : Stops back ending)
    (complete : ending ≠ .dangling) :
    parse format [] (front ++ back) =
      .ok ⟨dropLeadingSeparator (dropFinalSeparator (positionals front ++ ending.tail)), []⟩ := by
  obtain ⟨readings, hreadings⟩ := exists_readings_nil pieces
  have hrest : leftover true readings ending =
      dropLeadingSeparator (dropFinalSeparator (positionals front ++ ending.tail)) := by
    unfold leftover
    rw [if_pos rfl, leftArguments_positional (by simp) hreadings, filterMap_positional cut]
  have hslots : readings.foldl Reading.commit [] = [] := by
    refine List.foldl_fixed' (fun reading => ?_) readings
    simp [Reading.commit]
  rw [parse_eq_parseScan_nil blank, ofArgs_append cut stop, ← hrest]
  refine parseScan_eq_ok_iff.mpr ⟨readings, hreadings, complete, ?_⟩
  rw [List.map_nil, hslots]
  rfl

/-- Where the arguments after the separator do not end in another one, they are parted
    from the positional ones. -/
theorem parse_wordless_parted (cut : Cut front pieces) (stop : Stops back ending)
    (complete : ending ≠ .dangling) (hlast : ending.unscanned.getLast? ≠ some "--") :
    parse format [] (front ++ back) =
      .ok ⟨parted (positionals front) ending.unscanned, []⟩ := by
  have hfront := separator_notMem_positionals front
  rw [parse_wordless blank cut stop complete, dropSeparators_eq hfront hlast]

/-- A command line that fails ends in an option whose list is missing. -/
theorem dangling_of_wordless {e : Error} (h : parse format [] args = .error e) :
    e = .missingValue "-o" ∧ ∃ front pieces, Cut front pieces ∧ args = front ++ ["-o"] := by
  obtain ⟨front, pieces, back, ending, rfl, cut, stop⟩ := exists_cut args
  cases stop with
  | dangling =>
    rw [parse_wordless_dangling blank cut] at h
    cases h
    exact ⟨rfl, front, pieces, cut, rfl⟩
  | exhausted =>
    rw [parse_wordless blank cut .exhausted (by simp)] at h
    cases h
  | separated rest =>
    rw [parse_wordless blank cut (.separated rest) (by simp)] at h
    cases h

end Wordless

/-- What comes of a command line when only its positional arguments are wanted. -/
structure Filtered (args : List String) (result : Except Error Parsed) : Prop where
  /-- A command line is scanned up to its end, a separator or a missing list. -/
  scanned : ∃ front pieces back ending, args = front ++ back ∧ Cut front pieces ∧
    Stops back ending
  /-- It fails if it ends in an option whose list is missing, and the error says so. -/
  fails_iff : (∃ e, result = .error e) ↔ ∃ front pieces, Cut front pieces ∧ args = front ++ ["-o"]
  missing : ∀ e, result = .error e → e = .missingValue "-o"
  /-- Otherwise the positional arguments before the separator are handed back, and then
      those after it. -/
  handedBack : ∀ front pieces back ending, args = front ++ back → Cut front pieces →
    Stops back ending → ending ≠ .dangling → ending.unscanned.getLast? ≠ some "--" →
    result = .ok ⟨parted (positionals front) ending.unscanned, []⟩

/-- The empty format hands every command line back `Filtered`: it fails just where `-o` dangles, and
    else the positional arguments come first and those after the separator last. -/
theorem parse_empty (args : List String) : Filtered args (parse "" [] args) where
  scanned := exists_cut args
  fails_iff := by
    have blank : Text.wordsOf "" = [] := by decide
    constructor
    · rintro ⟨e, he⟩
      exact (dangling_of_wordless blank he).2
    · rintro ⟨front, pieces, cut, rfl⟩
      exact ⟨_, parse_wordless_dangling blank cut⟩
  missing := by
    intro e he
    exact (dangling_of_wordless (by decide) he).1
  handedBack := by
    rintro front pieces back ending rfl cut stop complete hlast
    exact parse_wordless_parted (by decide) cut stop complete hlast

/-- The list of an option is no positional argument, and a separator that nothing
    precedes is dropped. -/
example : parse "" [] ["-s", "-o", "ro", "--", "arg1", "--", "-x"] =
    .ok ⟨["arg1", "--", "-x"], []⟩ := by
  decide +kernel

end HostedFs.Options
