import HostedFs.Proofs.Options.Remainder

/-! # Arguments after the separator

    The arguments after the separator are not looked at, and are handed back behind
    all others. A separator at the end is dropped from what is handed back, though,
    and it is told by its text: where the last of those arguments is another `--`,
    that one goes instead.

    * `keptTail`: the separator and what follows it, without a `--` at the end.
    * `suffix_keptTail_iff`, `suffix_tail_keptTail_iff`: when the arguments survive.
    * `rest_of_separated`: this ends what is handed back, but for the separator at its
      front where positional arguments alone are wanted and there are none.
    * `tail_kept_iff`: when the arguments survive on a command line.
-/

namespace HostedFs.Options

variable {front rest : List String} {pieces : List Piece} {readings : List Reading}

/-! ## The end of a list -/

/-- The separator and the arguments after it, without a `--` at the end. -/
def keptTail (rest : List String) : List String :=
  dropFinalSeparator ("--" :: rest)

/-- Only the end of a list matters. -/
theorem dropFinalSeparator_append (front : List String) {back : List String} (hback : back ≠ []) :
    dropFinalSeparator (front ++ back) = front ++ dropFinalSeparator back := by
  unfold dropFinalSeparator
  rw [List.getLast?_append_of_ne_nil front hback]
  by_cases hlast : back.getLast? = some "--"
  · rw [if_pos hlast, if_pos hlast, List.dropLast_append_of_ne_nil hback]
  · rw [if_neg hlast, if_neg hlast]

/-- So it is what is kept of the arguments after a separator. -/
theorem dropFinalSeparator_separated (front rest : List String) :
    dropFinalSeparator (front ++ "--" :: rest) = front ++ keptTail rest :=
  dropFinalSeparator_append front (List.cons_ne_nil _ _)

/-- Where the arguments end in `--`, that one is dropped. -/
theorem keptTail_of_eq (hlast : rest.getLast? = some "--") :
    keptTail rest = "--" :: rest.dropLast := by
  have hne : rest ≠ [] := by
    rintro rfl
    cases hlast
  rw [keptTail, dropFinalSeparator, List.getLast?_cons, hlast, Option.getD_some, if_pos rfl,
    List.dropLast_cons_of_ne_nil hne]

/-- Otherwise none is. -/
theorem keptTail_of_ne (hne : rest ≠ []) (hlast : rest.getLast? ≠ some "--") :
    keptTail rest = "--" :: rest := by
  obtain ⟨last, hsome⟩ := Option.ne_none_iff_exists'.mp (mt List.getLast?_eq_none_iff.mp hne)
  have hother : ("--" :: rest).getLast? ≠ some "--" := by
    rw [List.getLast?_cons, hsome, Option.getD_some, ← hsome]
    exact hlast
  exact if_neg hother

/-- A list can be turned by one place only if it has the same element throughout. -/
theorem concat_eq_cons_iff {α : Type} {a : α} {init : List α} :
    init ++ [a] = a :: init ↔ ∀ b ∈ init, b = a := by
  induction init with
  | nil => simp
  | cons first init ih =>
    rw [List.forall_mem_cons, ← ih, List.cons_append, List.cons.injEq]
    constructor
    · rintro ⟨rfl, h⟩
      exact ⟨rfl, h⟩
    · rintro ⟨rfl, h⟩
      exact ⟨rfl, h⟩

/-- Arguments that do not end in `--` survive. -/
theorem suffix_tail_of_ne (hlast : rest.getLast? ≠ some "--") : rest <:+ (keptTail rest).tail := by
  by_cases hne : rest = []
  · rw [hne]
    exact List.nil_suffix
  · rw [keptTail_of_ne hne hlast]
    exact List.suffix_refl rest

/-- What survives without the separator does so with it, whatever is before it. -/
theorem tail_keptTail_suffix (front rest : List String) :
    (keptTail rest).tail <:+ front ++ keptTail rest :=
  (List.tail_suffix _).trans (List.suffix_append front _)

/-- Arguments survive behind others unless the last one is a `--` and another one is
    not. -/
theorem suffix_keptTail_iff (front rest : List String) :
    rest <:+ front ++ keptTail rest ↔
      rest.getLast? ≠ some "--" ∨ ∀ arg ∈ rest, arg = "--" := by
  by_cases hlast : rest.getLast? = some "--"
  · rw [keptTail_of_eq hlast]
    obtain ⟨init, rfl⟩ := List.getLast?_eq_some_iff.mp hlast
    rw [List.dropLast_concat]
    -- Both lists are equally long, so that one is the end of the other only as a whole.
    have hsame : init ++ ["--"] <:+ front ++ "--" :: init ↔ init ++ ["--"] = "--" :: init := by
      constructor
      · rintro ⟨before, h⟩
        exact List.append_inj_right' h (by simp)
      · intro h
        rw [h]
        exact List.suffix_append front _
    rw [hsame, concat_eq_cons_iff]
    simp [or_imp]
  · have hkept := (suffix_tail_of_ne hlast).trans (tail_keptTail_suffix front rest)
    exact iff_of_true hkept (.inl hlast)

/-- Without the separator before them they survive unless the last one is a `--`. -/
theorem suffix_tail_keptTail_iff (rest : List String) :
    rest <:+ (keptTail rest).tail ↔ rest.getLast? ≠ some "--" := by
  by_cases hlast : rest.getLast? = some "--"
  · rw [keptTail_of_eq hlast]
    obtain ⟨init, rfl⟩ := List.getLast?_eq_some_iff.mp hlast
    rw [List.dropLast_concat, List.tail_cons]
    have hlong : ¬ init ++ ["--"] <:+ init := by
      intro h
      have hlength := h.length_le
      rw [List.length_append, List.length_singleton] at hlength
      omega
    exact iff_of_false hlong (not_not_intro hlast)
  · exact iff_of_true (suffix_tail_of_ne hlast) hlast

/-- No more than the last one is lost. -/
theorem dropLast_suffix (hlast : rest.getLast? = some "--") :
    rest.dropLast <:+ (keptTail rest).tail := by
  rw [keptTail_of_eq hlast]
  exact List.suffix_refl rest.dropLast

/-! ## Whole command lines -/

/-- A positional argument is no separator. -/
theorem head?_positional_ne (hproper : ∀ piece ∈ pieces, piece.Proper) :
    (pieces.filterMap Piece.positional?).head? ≠ some "--" := by
  intro hhead
  obtain ⟨piece, hpiece, harg⟩ := List.mem_filterMap.mp (List.mem_of_head? hhead)
  cases hproper piece hpiece with
  | positional plain =>
    cases harg
    exact plain (by decide)
  | option other unlisted => cases harg
  | suboption some plain => cases harg

/-- There are positional arguments to hand back if some piece is one. -/
theorem filterMap_positional_eq_nil_iff :
    pieces.filterMap Piece.positional? = [] ↔ ¬ ∃ arg, Piece.positional arg ∈ pieces := by
  rw [List.filterMap_eq_nil_iff]
  constructor
  · rintro h ⟨arg, harg⟩
    cases h _ harg
  · intro h piece hpiece
    cases piece with
    | positional arg => exact absurd ⟨arg, hpiece⟩ h
    | option arg => rfl
    | suboption text => rfl

/-- The separator goes from the front of the arguments behind it if nothing is before it. -/
theorem dropLeadingSeparator_keptTail (rest : List String) :
    dropLeadingSeparator (keptTail rest) = (keptTail rest).tail := by
  by_cases hne : rest = []
  · rw [hne]
    rfl
  by_cases hlast : rest.getLast? = some "--"
  · rw [keptTail_of_eq hlast]
    rfl
  · rw [keptTail_of_ne hne hlast]
    rfl

/-- It stays where a positional argument is before it. -/
theorem dropLeadingSeparator_append (hhead : front.head? ≠ some "--") (hne : front ≠ []) :
    dropLeadingSeparator (front ++ rest) = front ++ rest := by
  refine if_neg ?_
  rw [List.head?_append_of_ne_nil front hne]
  exact hhead

/-- Positional arguments alone are wanted, and none stands before the separator. -/
def Unheaded (format : String) (pieces : List Piece) : Prop :=
  Text.wordsOf format = [] ∧ ¬ ∃ arg, Piece.positional arg ∈ pieces

/-- What is handed back ends in what is kept behind the separator. -/
theorem rest_of_separated {format : String} {slots : List Slot} {parsed : Parsed}
    (cut : Cut front pieces) (h : parse format slots (front ++ "--" :: rest) = .ok parsed) :
    (Unheaded format pieces → parsed.rest = (keptTail rest).tail) ∧
    (¬ Unheaded format pieces → ∃ before, parsed.rest = before ++ keptTail rest) := by
  obtain ⟨templates, htemplates, hlength, hparsed⟩ := parse_eq_ok_iff.mp h
  rw [ofArgs_append cut (.separated rest)] at hparsed
  obtain ⟨readings, hreadings, -, rfl⟩ := parseScan_eq_ok_iff.mp hparsed
  have hplain := plain_rulesOf htemplates slots
  rw [isEmpty_rulesOf htemplates hlength]
  unfold leftover
  simp only [Ending.tail, dropFinalSeparator_separated]
  by_cases hworded : Text.wordsOf format = []
  · simp only [hworded, List.isEmpty_nil, if_true, leftArguments_positional hplain hreadings]
    by_cases hnone : pieces.filterMap Piece.positional? = []
    · rw [hnone, List.nil_append, dropLeadingSeparator_keptTail]
      exact ⟨fun _ => rfl, fun h => absurd ⟨hworded, filterMap_positional_eq_nil_iff.mp hnone⟩ h⟩
    · rw [dropLeadingSeparator_append (head?_positional_ne cut.proper) hnone]
      exact ⟨fun h => absurd (filterMap_positional_eq_nil_iff.mpr h.2) hnone, fun _ => ⟨_, rfl⟩⟩
  · have hformat : (Text.wordsOf format).isEmpty = false := by simpa using hworded
    simp only [hformat, Bool.false_eq_true, if_false, ← List.append_assoc]
    exact ⟨fun h => absurd h.1 hworded, fun _ => ⟨_, rfl⟩⟩

/-- The arguments after the first separator that the scan meets are handed back last, as they
    are, if and only if the last one is no `--`, or all of them are `--` and the separator is not
    dropped from their front, because the format has a word or a piece is `positional`. If they
    are not, just the last `--` of them is lost. -/
theorem tail_kept_iff {format : String} {slots : List Slot} {parsed : Parsed}
    (cut : Cut front pieces) (h : parse format slots (front ++ "--" :: rest) = .ok parsed) :
    (rest <:+ parsed.rest ↔ rest.getLast? ≠ some "--" ∨ (∀ arg ∈ rest, arg = "--") ∧
      (Text.wordsOf format ≠ [] ∨ ∃ arg, Piece.positional arg ∈ pieces)) ∧
    (rest <:+ parsed.rest ∨ rest.getLast? = some "--" ∧ rest.dropLast <:+ parsed.rest) := by
  -- `Unheaded`: nothing stands ahead of the separator, and so it is dropped itself.
  obtain ⟨hbare, hheaded⟩ := rest_of_separated cut h
  have hunheaded : Unheaded format pieces ↔
      ¬ (Text.wordsOf format ≠ [] ∨ ∃ arg, Piece.positional arg ∈ pieces) := by
    simp [Unheaded]
  by_cases hcase : Unheaded format pieces
  · rw [hbare hcase, suffix_tail_keptTail_iff]
    refine ⟨?_, ?_⟩
    · simp [hunheaded.mp hcase]
    · by_cases hlast : rest.getLast? = some "--"
      · exact .inr ⟨hlast, dropLast_suffix hlast⟩
      · exact .inl hlast
  · obtain ⟨before, hrest⟩ := hheaded hcase
    rw [hrest, suffix_keptTail_iff]
    refine ⟨?_, ?_⟩
    · simp [not_not.mp (mt hunheaded.mpr hcase)]
    · by_cases hlast : rest.getLast? = some "--"
      · exact .inr ⟨hlast, (dropLast_suffix hlast).trans (tail_keptTail_suffix before rest)⟩
      · exact .inl (.inl hlast)

/-- A `--` that is a list of suboptions separates nothing, and one among the arguments
    after the separator is like any other. -/
theorem tail_kept_around_separators :
    (Cut ["-o", "--", "-d"] [.suboption "--", .option "-d"] ∧
      parse "-d" [.flag false] (["-o", "--", "-d"] ++ "--" :: ["x", "--", "y"]) =
        .ok ⟨["-o", "--", "--", "x", "--", "y"], [.flag true]⟩) ∧
    ["x", "--", "y"] <:+ ["-o", "--", "--", "x", "--", "y"] := by
  have hlist : Parts "--" ["--"] := ⟨by decide, by decide, by decide⟩
  have cut : Cut ["-o", "--", "-d"] [.suboption "--", .option "-d"] :=
    .announced hlist (@Cut.option "d" [] [] (by decide) (by decide) .nil)
  have hparsed : parse "-d" [.flag false] (["-o", "--", "-d"] ++ "--" :: ["x", "--", "y"]) =
      .ok ⟨["-o", "--", "--", "x", "--", "y"], [.flag true]⟩ := by
    decide +kernel
  exact ⟨⟨cut, hparsed⟩, (tail_kept_iff cut hparsed).1.mpr (.inl (by decide))⟩

/-- The last argument is lost where it is another separator. -/
theorem tail_lost :
    Cut ["-d"] [.option "-d"] ∧
    parse "-d" [.flag false] (["-d"] ++ "--" :: ["x", "--"]) = .ok ⟨["--", "x"], [.flag true]⟩ ∧
    ¬ ["x", "--"] <:+ ["--", "x"] :=
  ⟨@Cut.option "d" [] [] (by decide) (by decide) .nil, by decide +kernel, by decide⟩

end HostedFs.Options
