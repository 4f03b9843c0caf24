import HostedFs.Proofs.Options.Candidates

/-! # Where the scan of a command line stops

    The scan cuts arguments into pieces until it meets a separator, or an option
    whose list is missing, or the end.

    * `Cut`: the arguments before that place, and their pieces.
    * `Stops`: what is found at that place.
    * `ofArgs_cut`: the scan of a command line is that of its parts.
    * `exists_cut`, `ofArgs_append`: every command line is made of the two, and they
      are what the scan finds.
    * `Piece.Proper`: what pieces look like.
-/

namespace HostedFs.Options

/-! ## Pieces -/

/-- Arguments among which the scan meets no separator, and the pieces that it cuts
    them into. -/
inductive Cut : List String → List Piece → Prop
  | nil : Cut [] []
  /-- A list in the next argument, even if that looks like a separator. -/
  | announced {list : String} {parts rest : List String} {pieces : List Piece}
      (cut : Parts list parts) (next : Cut rest pieces) :
      Cut ("-o" :: list :: rest) ((suboptionTexts parts).map Piece.suboption ++ pieces)
  /-- A list in the same argument. -/
  | attached {list : String} {parts rest : List String} {pieces : List Piece}
      (some : list ≠ "") (cut : Parts list parts) (next : Cut rest pieces) :
      Cut (("-o" ++ list) :: rest) ((suboptionTexts parts).map Piece.suboption ++ pieces)
  /-- Another argument that starts with a dash. -/
  | option {text : String} {rest : List String} {pieces : List Piece}
      (other : "-" ++ text ≠ "--") (unlisted : text.toList.head? ≠ some 'o')
      (next : Cut rest pieces) : Cut (("-" ++ text) :: rest) (.option ("-" ++ text) :: pieces)
  /-- An argument that does not. -/
  | positional {arg : String} {rest : List String} {pieces : List Piece}
      (plain : arg.toList.head? ≠ some '-') (next : Cut rest pieces) :
      Cut (arg :: rest) (.positional arg :: pieces)

/-- What a piece looks like. -/
inductive Piece.Proper : Piece → Prop
  | positional {arg : String} (plain : arg.toList.head? ≠ some '-') : Proper (.positional arg)
  | option {text : String} (other : "-" ++ text ≠ "--")
      (unlisted : text.toList.head? ≠ some 'o') : Proper (.option ("-" ++ text))
  | suboption {text : String} (some : text ≠ "") (plain : ',' ∉ text.toList) :
      Proper (.suboption text)

/-- The parts of a list that are not empty are proper. -/
theorem proper_suboptions {list : String} {parts : List String} (cut : Parts list parts) :
    ∀ piece ∈ (suboptionTexts parts).map Piece.suboption, piece.Proper := by
  intro piece hpiece
  obtain ⟨text, htext, rfl⟩ := List.mem_map.mp hpiece
  obtain ⟨hmem, hsome⟩ := List.mem_filter.mp htext
  exact .suboption (of_decide_eq_true hsome) (cut.plain text hmem)

/-- So are all pieces of a command line. -/
theorem Cut.proper {args : List String} {pieces : List Piece} (h : Cut args pieces) :
    ∀ piece ∈ pieces, piece.Proper := by
  induction h with
  | nil => simp
  | announced cut next ih =>
    exact List.forall_mem_append.mpr ⟨proper_suboptions cut, ih⟩
  | attached some cut next ih =>
    exact List.forall_mem_append.mpr ⟨proper_suboptions cut, ih⟩
  | option other unlisted next ih => exact List.forall_mem_cons.mpr ⟨.option other unlisted, ih⟩
  | positional plain next ih => exact List.forall_mem_cons.mpr ⟨.positional plain, ih⟩

/-! ## The place where the scan stops -/

/-- The scan goes no further than these arguments. -/
inductive Stops : List String → Ending → Prop
  | exhausted : Stops [] .exhausted
  | separated (rest : List String) : Stops ("--" :: rest) (.separated rest)
  | dangling : Stops ["-o"] .dangling

/-- Every command line is scanned up to such a place. -/
theorem exists_cut (args : List String) :
    ∃ front pieces back ending, args = front ++ back ∧ Cut front pieces ∧ Stops back ending := by
  have hscanned := scanned_ofArgs args
  generalize (Scan.ofArgs args).candidates = candidates at hscanned
  generalize decide ((Scan.ofArgs args).ending = .dangling) = dangling at hscanned
  induction hscanned with
  | nil => exact ⟨[], [], [], _, rfl, .nil, .exhausted⟩
  | separator rest => exact ⟨[], [], _, _, rfl, .nil, .separated rest⟩
  | dangling => exact ⟨[], [], _, _, rfl, .nil, .dangling⟩
  | announced cut next ih =>
    obtain ⟨front, pieces, back, ending, rfl, hfront, hback⟩ := ih
    exact ⟨_, _, back, ending, rfl, .announced cut hfront, hback⟩
  | attached some cut next ih =>
    obtain ⟨front, pieces, back, ending, rfl, hfront, hback⟩ := ih
    exact ⟨_, _, back, ending, rfl, .attached some cut hfront, hback⟩
  | option other unlisted next ih =>
    obtain ⟨front, pieces, back, ending, rfl, hfront, hback⟩ := ih
    exact ⟨_, _, back, ending, rfl, .option other unlisted hfront, hback⟩
  | positional plain next ih =>
    obtain ⟨front, pieces, back, ending, rfl, hfront, hback⟩ := ih
    exact ⟨_, _, back, ending, rfl, .positional plain hfront, hback⟩

variable {args front back : List String} {pieces : List Piece} {ending : Ending}

/-- Behind arguments that are cut into pieces the scan goes on as from the start. -/
theorem ofArgs_cut (cut : Cut front pieces) (back : List String) :
    Scan.ofArgs (front ++ back) = (Scan.ofArgs back).after pieces := by
  induction cut with
  | nil => rfl
  | announced cut next ih =>
    rw [List.cons_append, List.cons_append, ofArgs_announced, ih, suboptions_of_parts cut,
      after_after]
  | attached some cut next ih =>
    rw [List.cons_append, ofArgs_attached some, ih, suboptions_of_parts cut, after_after]
  | option other unlisted next ih =>
    rw [List.cons_append, ofArgs_option other unlisted, ih, after_after]
    rfl
  | positional plain next ih =>
    rw [List.cons_append, ofArgs_positional plain, ih, after_after]
    rfl

/-- Where it stops it finds nothing more. -/
theorem ofArgs_of_stops (stop : Stops back ending) : Scan.ofArgs back = ⟨[], ending⟩ := by
  cases stop with
  | exhausted => rfl
  | separated rest =>
    rw [Scan.ofArgs.eq_def]
    rfl
  | dangling => decide

/-- What the scan finds. -/
theorem ofArgs_append (cut : Cut front pieces) (stop : Stops back ending) :
    Scan.ofArgs (front ++ back) = ⟨pieces, ending⟩ := by
  rw [ofArgs_cut cut, ofArgs_of_stops stop, Scan.after, List.append_nil]

/-- So these pieces have its candidates. -/
theorem Cut.scanned (cut : Cut front pieces) (stop : Stops back ending) :
    Scanned (front ++ back) (pieces.filterMap Piece.candidate?)
      (decide (ending = .dangling)) := by
  rw [scanned_iff, ofArgs_append cut stop]
  exact ⟨rfl, rfl⟩

/-- The scan of a command line is that of its two parts. -/
theorem cut_ofArgs (args : List String) :
    ∃ front back, args = front ++ back ∧ Cut front (Scan.ofArgs args).pieces ∧
      Stops back (Scan.ofArgs args).ending := by
  obtain ⟨front, pieces, back, ending, rfl, hfront, hback⟩ := exists_cut args
  refine ⟨front, back, rfl, ?_, ?_⟩
  · rw [ofArgs_append hfront hback]
    exact hfront
  · rw [ofArgs_append hfront hback]
    exact hback

/-- There is only one way to cut arguments. -/
theorem Cut.unique {others : List Piece} (h : Cut args pieces) (h' : Cut args others) :
    pieces = others := by
  have hfirst := ofArgs_append h .exhausted
  have hsecond := ofArgs_append h' .exhausted
  exact congrArg Scan.pieces (hfirst.symm.trans hsecond)

/-- The scan meets a separator. -/
def MeetsSeparator (args : List String) : Prop :=
  ∃ front pieces rest, Cut front pieces ∧ args = front ++ "--" :: rest

theorem meetsSeparator_iff :
    MeetsSeparator args ↔ ∃ rest, (Scan.ofArgs args).ending = .separated rest := by
  constructor
  · rintro ⟨front, pieces, rest, hcut, rfl⟩
    exact ⟨rest, by rw [ofArgs_append hcut (.separated rest)]⟩
  · rintro ⟨rest, hending⟩
    obtain ⟨front, back, hargs, hcut, hstop⟩ := cut_ofArgs args
    rw [hending] at hstop
    cases hstop
    exact ⟨front, _, rest, hcut, hargs⟩

/-- It meets none where it goes to the end. -/
theorem not_meetsSeparator (h : (Scan.ofArgs args).ending = .exhausted) :
    ¬ MeetsSeparator args := by
  rw [meetsSeparator_iff]
  rintro ⟨rest, hrest⟩
  cases h.symm.trans hrest

/-- Where it meets none and misses no list, the whole command line is cut. -/
theorem cut_of_unseparated (unseparated : ¬ MeetsSeparator args)
    (complete : (Scan.ofArgs args).ending ≠ .dangling) :
    Cut args (Scan.ofArgs args).pieces ∧ (Scan.ofArgs args).ending = .exhausted := by
  obtain ⟨front, back, hargs, hcut, hstop⟩ := cut_ofArgs args
  generalize hending : (Scan.ofArgs args).ending = ending at complete hstop ⊢
  cases hstop with
  | exhausted =>
    rw [List.append_nil] at hargs
    exact ⟨hargs ▸ hcut, rfl⟩
  | separated rest => exact absurd (meetsSeparator_iff.mpr ⟨rest, hending⟩) unseparated
  | dangling => exact absurd rfl complete

end HostedFs.Options
