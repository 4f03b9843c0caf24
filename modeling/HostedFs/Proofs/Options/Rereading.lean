import HostedFs.Proofs.Options.Positionals

/-! # Reading again what was handed back

    What a command line hands back is a command line, too: its suboptions are in one list
    in front, and no rule takes any of its candidates. Reading it again gives it back, and
    leaves the slots as they are. Without a template this is so only if the arguments are
    scanned up to the same place again.

    * `Rule.Alike`: rules that take the same candidates.
    * `Settled`: the command lines that rules hand back as they are.
    * `parse_of_settled`, `settled_rest`: they do, and all that they hand back is such.
    * `Leading`: positional arguments in front.
    * `parse_self_iff`: without a template such command lines are handed back as they are.
    * `parse_rest_iff`: when the second reading gives what the first one gave.
-/

namespace HostedFs.Options

/-! ## Rules for slots with other values -/

namespace Rule

/-- Two rules have one template, and both of their slots are flags or neither is one. -/
def Alike (q r : Rule) : Prop :=
  q.template = r.template ∧ q.slot.isFlag = r.slot.isFlag

/-- Such rules take the same candidates. -/
theorem Alike.matches_iff {q r : Rule} (h : q.Alike r) (candidate : String) :
    q.Matches candidate ↔ r.Matches candidate := by
  obtain ⟨htemplate, hflag⟩ := h
  rw [Rule.matches_iff, Rule.matches_iff, htemplate, hflag]

/-- A slot is a flag at the end if it was one before. -/
theorem EndsWith.isFlag_eq {r : Rule} {candidates : List String} {slot : Slot}
    (h : r.EndsWith candidates slot) : slot.isFlag = r.slot.isFlag := by
  cases h with
  | kept untaken => rfl
  | written split takes decoded last written =>
    generalize r.slot = old at written
    cases written with
    | flag | text | number => rfl

/-- A slot keeps its value if its rule takes no candidate. -/
theorem EndsWith.eq_slot {r : Rule} {candidates : List String} {slot : Slot}
    (h : r.EndsWith candidates slot) (untaken : ∀ candidate ∈ candidates, ¬ r.Matches candidate) :
    slot = r.slot := by
  cases h with
  | kept => rfl
  | @written before after candidate value? value slot split takes =>
    have hmem : candidate ∈ candidates := by
      rw [split]
      simp
    exact absurd ⟨value?, takes⟩ (untaken candidate hmem)

end Rule

variable {templates : List Template} {slots after : List Slot} {rules others : List Rule}

/-- Rules that are alike one by one take the same candidates. -/
theorem consumed_congr (h : List.Forall₂ Rule.Alike rules others) (candidate : String) :
    Consumed rules candidate ↔ Consumed others candidate := by
  unfold Consumed
  induction h with
  | nil => simp
  | @cons q r rules others halike hrest ih =>
    rw [List.exists_mem_cons_iff, List.exists_mem_cons_iff, halike.matches_iff, ih]

/-- The rules of a format are alike for the slots before a command line and after it. -/
theorem alike_rulesOf (hlength : templates.length = slots.length)
    (h : List.Forall₂ (fun r slot => slot.isFlag = r.slot.isFlag) (rulesOf templates slots) after) :
    templates.length = after.length ∧
      List.Forall₂ Rule.Alike (rulesOf templates after) (rulesOf templates slots) := by
  induction templates generalizing slots after with
  | nil =>
    obtain rfl := List.forall₂_nil_left_iff.mp h
    exact ⟨rfl, .nil⟩
  | cons t templates ih =>
    cases slots with
    | nil => cases hlength
    | cons slot slots =>
      obtain ⟨new, more, hnew, hmore, rfl⟩ := List.forall₂_cons_left_iff.mp h
      obtain ⟨hcount, halike⟩ := ih (Nat.succ.inj hlength) hmore
      exact ⟨congrArg Nat.succ hcount, .cons ⟨rfl, hnew⟩ halike⟩

/-- If no rule takes a candidate, then the slots are the same at the end. -/
theorem eq_slots_of_untaken (hlength : templates.length = slots.length) {candidates : List String}
    (untaken : ∀ candidate ∈ candidates, ¬ Consumed (rulesOf templates slots) candidate)
    (h : List.Forall₂ (fun r slot => r.EndsWith candidates slot) (rulesOf templates slots) after) :
    after = slots := by
  induction templates generalizing slots after with
  | nil =>
    obtain rfl := List.forall₂_nil_left_iff.mp h
    exact (List.length_eq_zero_iff.mp hlength.symm).symm
  | cons t templates ih =>
    cases slots with
    | nil => cases hlength
    | cons slot slots =>
      obtain ⟨new, more, hnew, hmore, rfl⟩ := List.forall₂_cons_left_iff.mp h
      have hfirst : new = slot := by
        refine hnew.eq_slot fun candidate hcandidate hmatches => ?_
        exact untaken candidate hcandidate ⟨_, List.mem_cons_self, hmatches⟩
      have hothers : more = slots := by
        refine ih (Nat.succ.inj hlength) (fun candidate hcandidate hconsumed => ?_) hmore
        obtain ⟨r, hr, hmatches⟩ := hconsumed
        exact untaken candidate hcandidate ⟨r, List.mem_cons_of_mem _ hr, hmatches⟩
      rw [hfirst, hothers]

/-! ## Command lines that are handed back -/

/-- A separator stays where arguments are behind it, and the last of them is no other. -/
inductive Ending.Lasting : Ending → Prop
  | exhausted : Lasting .exhausted
  | separated {rest : List String} (nonempty : rest ≠ []) (last : rest.getLast? ≠ some "--") :
      Lasting (.separated rest)

namespace Ending.Lasting

variable {ending : Ending}

/-- A command line stops there again. -/
theorem stops (h : ending.Lasting) : Stops ending.tail ending := by
  cases h with
  | exhausted => exact .exhausted
  | @separated rest nonempty last => exact .separated rest

theorem complete (h : ending.Lasting) : ending ≠ .dangling := by
  cases h with
  | exhausted => simp
  | separated nonempty last => simp

/-- Nothing is dropped from it. -/
theorem dropFinalSeparator_eq (h : ending.Lasting) {args : List String} (hargs : "--" ∉ args) :
    dropFinalSeparator (args ++ ending.tail) = args ++ ending.tail := by
  cases h with
  | exhausted =>
    show dropFinalSeparator (args ++ []) = args ++ []
    rw [List.append_nil]
    exact dropFinalSeparator_of_notMem hargs
  | @separated rest nonempty last =>
    show dropFinalSeparator (args ++ "--" :: rest) = args ++ "--" :: rest
    rw [dropFinalSeparator_separated, keptTail_of_ne nonempty last]

end Ending.Lasting

/-- What is kept of a command line ends in such a place. -/
theorem exists_lasting {ending : Ending} (complete : ending ≠ .dangling)
    (hlast : ending.unscanned.getLast? ≠ some "--") {args : List String} (hargs : "--" ∉ args) :
    ∃ kept : Ending, kept.Lasting ∧
      dropFinalSeparator (args ++ ending.tail) = args ++ kept.tail := by
  by_cases hnone : ending = .separated []
  · refine ⟨.exhausted, .exhausted, ?_⟩
    have hkept : keptTail [] = [] := rfl
    rw [hnone]
    exact (dropFinalSeparator_separated args []).trans (congrArg (args ++ ·) hkept)
  · have hlasting : ending.Lasting := by
      cases ending with
      | exhausted => exact .exhausted
      | dangling => exact absurd rfl complete
      | separated rest =>
        refine .separated ?_ hlast
        rintro rfl
        exact hnone rfl
    exact ⟨ending, hlasting, hlasting.dropFinalSeparator_eq hargs⟩

/-- Command lines without anything that a rule takes: suboptions in one list, then
    single arguments, and perhaps a separator with others behind it. -/
inductive Settled (rules : List Rule) : List String → Prop
  | intro {pieces : List Piece} {front : List String} {ending : Ending}
      (folded : Folded (pieces.filterMap Piece.suboption?) front)
      (proper : ∀ piece ∈ pieces, piece.Proper) (spare : ∀ piece ∈ pieces, piece.Unmatched rules)
      (lasting : ending.Lasting) :
      Settled rules (front ++ pieces.filterMap Piece.argument? ++ ending.tail)

/-- They are the same for rules that are alike. -/
theorem Settled.congr (h : List.Forall₂ Rule.Alike rules others) {args : List String}
    (hsettled : Settled others args) : Settled rules args := by
  cases hsettled with
  | intro folded proper spare lasting =>
    refine .intro folded proper (fun piece hpiece candidate hcandidate => ?_) lasting
    rw [consumed_congr h]
    exact spare piece hpiece candidate hcandidate

/-! ## Formats with templates -/

/-- The suboptions among pieces, and then the arguments of their own. -/
def gathered (pieces : List Piece) : List Piece :=
  (pieces.filterMap Piece.suboption?).map Piece.suboption ++ argumentPieces pieces

variable {piece : Piece} {pieces : List Piece}

theorem mem_of_gathered (h : piece ∈ gathered pieces) : piece ∈ pieces := by
  rcases List.mem_append.mp h with h | h
  · obtain ⟨text, htext, rfl⟩ := List.mem_map.mp h
    exact suboption_mem htext
  · exact List.mem_of_mem_filter h

/-- No suboption is lost, and none is added. -/
theorem suboptions_gathered (pieces : List Piece) :
    (gathered pieces).filterMap Piece.suboption? = pieces.filterMap Piece.suboption? := by
  have hnone : (argumentPieces pieces).filterMap Piece.suboption? = [] := by
    rw [filterMap_argumentPieces Piece.suboption? (fun _ => none) (fun _ => rfl) (fun _ => rfl)
      (fun _ => rfl)]
    exact List.filterMap_eq_nil_iff.mpr fun piece _ => rfl
  rw [gathered, List.filterMap_append, hnone, List.append_nil, List.filterMap_map]
  exact List.filterMap_some

/-- Nor is any other argument. -/
theorem arguments_gathered (pieces : List Piece) :
    (gathered pieces).filterMap Piece.argument? = pieces.filterMap Piece.argument? := by
  have hnone := filterMap_suboption_none Piece.argument? fun _ => rfl
  have hsame := filterMap_argumentPieces Piece.argument? Piece.argument? (fun _ => rfl)
    (fun _ => rfl) (fun _ => rfl) pieces
  rw [gathered, List.filterMap_append, hnone, hsame, List.nil_append]

/-- There is only one way to fold suboptions. -/
theorem Folded.eq_foldSuboptions {texts front : List String} (h : Folded texts front) :
    foldSuboptions texts = front := by
  cases h with
  | none => rfl
  | list nonempty =>
    obtain ⟨text, texts, rfl⟩ := List.exists_cons_of_ne_nil nonempty
    rfl

section Worded

variable {format : String} {front back : List String} {ending : Ending} {parsed : Parsed}
  (htemplates : List.Forall₂ Template.Spells (Text.wordsOf format) templates)
  (hlength : templates.length = slots.length)
include htemplates hlength

/-- If no rule takes anything, then nothing fails but the scan, and no slot is written. -/
theorem exists_rest_of_spare (cut : Cut front pieces) (stop : Stops back ending)
    (complete : ending ≠ .dangling)
    (spare : ∀ piece ∈ pieces, piece.Unmatched (rulesOf templates slots)) :
    ∃ rest, parse format slots (front ++ back) = .ok ⟨rest, slots⟩ := by
  have huntaken : ∀ candidate ∈ pieces.filterMap Piece.candidate?,
      ¬ Consumed (rulesOf templates slots) candidate := by
    intro candidate hcandidate
    obtain ⟨piece, hpiece, hsome⟩ := List.mem_filterMap.mp hcandidate
    exact spare piece hpiece candidate hsome
  have hread := parse_read htemplates hlength (cut.scanned stop)
  cases hresult : parse format slots (front ++ back) with
  | error e =>
    -- A rule that fails on a candidate takes it.
    rcases hread.fails_iff.mp ⟨e, hresult⟩ with hdangling | hfails
    · exact absurd (of_decide_eq_true hdangling) complete
    · obtain ⟨candidate, hcandidate, r, hr, e', value, hcut, -⟩ := hfails
      exact absurd ⟨r, hr, some value, .valued hcut⟩ (huntaken candidate hcandidate)
  | ok parsed =>
    have hslots : parsed.slots = slots :=
      eq_slots_of_untaken hlength huntaken (hread.filled parsed hresult)
    exact ⟨parsed.rest, by rw [← hslots]⟩

variable (worded : Text.wordsOf format ≠ [])
include worded

/-- The unmatched pieces are handed back, with what follows the separator. -/
theorem rest_of_worded (cut : Cut front pieces) (stop : Stops back ending)
    (h : parse format slots (front ++ back) = .ok parsed) :
    ending ≠ .dangling ∧ parsed.rest =
      foldSuboptions ((unmatched (rulesOf templates slots) pieces).filterMap Piece.suboption?) ++
        dropFinalSeparator ((unmatched (rulesOf templates slots) pieces).filterMap
          Piece.argument? ++ ending.tail) := by
  have hplain := plain_rulesOf htemplates slots
  have hrules : (rulesOf templates slots).isEmpty = false := by
    rw [isEmpty_rulesOf htemplates hlength]
    simpa using worded
  rw [parse_eq_parseScan htemplates hlength, ofArgs_append cut stop] at h
  obtain ⟨readings, hreadings, complete, rfl⟩ := parseScan_eq_ok_iff.mp h
  refine ⟨complete, ?_⟩
  simp only [leftover, hrules, Bool.false_eq_true, if_false, leftArguments_eq hplain hreadings,
    leftSuboptions_eq hplain hreadings]

/-- No rule takes anything of that. -/
theorem settled_rest (cut : Cut front pieces) (stop : Stops back ending)
    (hlast : ending.unscanned.getLast? ≠ some "--")
    (h : parse format slots (front ++ back) = .ok parsed) :
    Settled (rulesOf templates slots) parsed.rest := by
  obtain ⟨complete, hrest⟩ := rest_of_worded htemplates hlength worded cut stop h
  have hproper : ∀ piece ∈ unmatched (rulesOf templates slots) pieces, piece.Proper := by
    intro piece hpiece
    exact cut.proper piece (mem_of_unmatched hpiece)
  obtain ⟨kept, hlasting, hkept⟩ := exists_lasting complete hlast (separator_notMem hproper)
  rw [hrest, hkept, ← List.append_assoc]
  exact .intro (folded_foldSuboptions _) hproper (fun piece => spare_of_unmatched) hlasting

/-- A command line of which no rule takes anything is handed back as it is. -/
theorem parse_of_settled {args : List String} (h : Settled (rulesOf templates slots) args) :
    parse format slots args = .ok ⟨args, slots⟩ := by
  cases h with
  | @intro pieces front ending folded proper spare lasting =>
    have cut : Cut (front ++ pieces.filterMap Piece.argument?) (gathered pieces) :=
      folded.cut (proper_suboption proper) (cut_arguments proper)
    have hspare : ∀ piece ∈ gathered pieces, piece.Unmatched (rulesOf templates slots) := by
      intro piece hpiece
      exact spare piece (mem_of_gathered hpiece)
    have hunmatched : unmatched (rulesOf templates slots) (gathered pieces) = gathered pieces := by
      refine List.filter_eq_self.mpr fun piece hpiece => ?_
      exact decide_eq_true (hspare piece hpiece)
    obtain ⟨rest, hparse⟩ :=
      exists_rest_of_spare htemplates hlength cut lasting.stops lasting.complete hspare
    obtain ⟨-, hrest⟩ := rest_of_worded htemplates hlength worded cut lasting.stops hparse
    rw [hunmatched, suboptions_gathered, arguments_gathered, folded.eq_foldSuboptions,
      lasting.dropFinalSeparator_eq (separator_notMem proper), ← List.append_assoc] at hrest
    dsimp only at hrest
    rw [hparse, hrest]

end Worded

/-- With a template, what is handed back is handed back again, and changes no slot. -/
theorem parse_rest_of_worded {format : String} {front back : List String} {ending : Ending}
    {parsed : Parsed} (worded : Text.wordsOf format ≠ []) (cut : Cut front pieces)
    (stop : Stops back ending) (hlast : ending.unscanned.getLast? ≠ some "--")
    (h : parse format slots (front ++ back) = .ok parsed) :
    parse format parsed.slots parsed.rest = .ok parsed := by
  obtain ⟨templates, htemplates, hlength, -⟩ := parse_eq_ok_iff.mp h
  have hread := parse_read htemplates hlength (cut.scanned stop)
  have hflags : List.Forall₂ (fun r slot => slot.isFlag = r.slot.isFlag)
      (rulesOf templates slots) parsed.slots :=
    (hread.filled parsed h).imp fun r slot hends => hends.isFlag_eq
  obtain ⟨hlength', halike⟩ := alike_rulesOf hlength hflags
  have hsettled := settled_rest htemplates hlength worded cut stop hlast h
  exact parse_of_settled htemplates hlength' worded (hsettled.congr halike)

/-! ## Formats without templates -/

/-- Positional arguments are in front, alone or parted from the others. -/
def Leading (args : List String) : Prop :=
  ∃ front back, front ≠ [] ∧ (∀ arg ∈ front, arg.toList.head? ≠ some '-') ∧
    args = parted front back

/-- What is behind a separator ends as the whole does. -/
theorem last_of_separated {front rest : List String}
    (h : (front ++ "--" :: rest).getLast? ≠ some "--") : rest.getLast? ≠ some "--" := by
  intro hrest
  refine h ?_
  rw [List.getLast?_append_of_ne_nil _ (List.cons_ne_nil _ _), List.getLast?_cons, hrest]
  rfl

/-- Positional arguments are scanned as such. -/
theorem cut_of_plain {args : List String} (plain : ∀ arg ∈ args, arg.toList.head? ≠ some '-') :
    Cut args (args.map Piece.positional) := by
  induction args with
  | nil => exact .nil
  | cons arg args ih =>
    obtain ⟨hfirst, hothers⟩ := List.forall_mem_cons.mp plain
    exact .positional hfirst (ih hothers)

/-- They are all that is found among them. -/
theorem positionals_of_plain {args : List String}
    (plain : ∀ arg ∈ args, arg.toList.head? ≠ some '-') : positionals args = args := by
  induction args with
  | nil => rfl
  | cons arg args ih =>
    obtain ⟨hfirst, hothers⟩ := List.forall_mem_cons.mp plain
    rw [positionals_cons_of_plain hfirst, ih hothers]

section Wordless

variable {format : String} (blank : Text.wordsOf format = []) {front back : List String}
include blank

/-- Positional arguments in front are handed back, and what they are parted from. -/
theorem parse_parted (nonempty : front ≠ [])
    (plain : ∀ arg ∈ front, arg.toList.head? ≠ some '-') (hlast : back.getLast? ≠ some "--") :
    parse format [] (parted front back) = .ok ⟨parted front back, []⟩ := by
  have cut := cut_of_plain plain
  have hfront := positionals_of_plain plain
  by_cases hback : back = []
  · have hparse := parse_wordless_parted blank cut .exhausted (by simp) (by simp)
    rw [List.append_nil, hfront, Ending.unscanned_exhausted, parted_nil_right] at hparse
    rw [hback, parted_nil_right, hparse]
  · have hparse := parse_wordless_parted blank cut (.separated back) (by simp) hlast
    rw [hfront, ← parted_of_ne_nil nonempty hback] at hparse
    exact hparse

/-- What is handed back are positional arguments, and those after the separator. -/
theorem eq_of_wordless {slots : List Slot} {ending : Ending} {parsed : Parsed}
    (cut : Cut front pieces) (stop : Stops back ending)
    (hlast : ending.unscanned.getLast? ≠ some "--")
    (h : parse format slots (front ++ back) = .ok parsed) :
    parsed = ⟨parted (positionals front) ending.unscanned, []⟩ := by
  obtain ⟨templates, htemplates, hlength, -⟩ := parse_eq_ok_iff.mp h
  have hslots : slots = [] := by
    rw [blank] at htemplates
    cases htemplates
    exact List.length_eq_zero_iff.mp hlength.symm
  rw [hslots] at h
  have complete : ending ≠ .dangling := by
    rintro rfl
    cases stop
    rw [parse_wordless_dangling blank cut] at h
    cases h
  rw [parse_wordless_parted blank cut stop complete hlast] at h
  exact (Except.ok.inj h).symm

/-- Others are handed back only if positional arguments are in front of them, too. -/
theorem leading_of_parse {args : List String} (nonempty : args ≠ [])
    (hlast : args.getLast? ≠ some "--") (h : parse format [] args = .ok ⟨args, []⟩) :
    Leading args := by
  obtain ⟨front, pieces, back, ending, rfl, cut, stop⟩ := exists_cut args
  have hunscanned : ending.unscanned.getLast? ≠ some "--" := by
    cases stop with
    | exhausted => simp
    | dangling => simp
    | separated rest => exact last_of_separated hlast
  have hargs : front ++ back = parted (positionals front) ending.unscanned :=
    congrArg Parsed.rest (eq_of_wordless blank cut stop hunscanned h)
  -- Without positional arguments ahead of it, the separator would have been dropped, and
  -- the rest would be shorter than the command line.
  have hfront : positionals front ≠ [] := by
    intro hnone
    rw [hnone, parted_nil_left] at hargs
    have hlength := congrArg List.length hargs
    rw [List.length_append] at hlength
    cases stop with
    | exhausted => exact nonempty hargs
    | dangling => simp at hlength
    | separated rest =>
      rw [Ending.unscanned_separated, List.length_cons] at hlength
      omega
  exact ⟨positionals front, ending.unscanned, hfront, fun arg => plain_of_mem_positionals, hargs⟩

/-- So that is what such a format hands back again. -/
theorem parse_self_iff {args : List String} (nonempty : args ≠ [])
    (hlast : args.getLast? ≠ some "--") :
    parse format [] args = .ok ⟨args, []⟩ ↔ Leading args := by
  constructor
  · exact leading_of_parse blank nonempty hlast
  · rintro ⟨front, back, hfront, plain, rfl⟩
    refine parse_parted blank hfront plain ?_
    by_cases hback : back = []
    · simp [hback]
    · rw [parted_of_ne_nil hfront hback] at hlast
      exact last_of_separated hlast

end Wordless

/-- What a command line hands back as its `rest` is handed back again, and changes no slot, where
    the format has a template. Where it has none, an argument that was `unscanned` may be scanned
    the next time, unless positional arguments are in front. -/
theorem parse_rest_iff {format : String} {front back : List String} {ending : Ending}
    {parsed : Parsed} (cut : Cut front pieces) (stop : Stops back ending)
    (hlast : ending.unscanned.getLast? ≠ some "--")
    (h : parse format slots (front ++ back) = .ok parsed) :
    parse format parsed.slots parsed.rest = .ok parsed ↔
      Text.wordsOf format ≠ [] ∨ positionals front ≠ [] ∨ ending.unscanned = [] ∨
        Leading ending.unscanned := by
  by_cases blank : Text.wordsOf format = []
  · obtain rfl := eq_of_wordless blank cut stop hlast h
    by_cases hfront : positionals front = []
    · by_cases hnone : ending.unscanned = []
      · have hempty := parse_wordless_parted blank .nil .exhausted (by simp) (by simp)
        rw [hfront, hnone]
        exact iff_of_true hempty (.inr (.inr (.inl rfl)))
      · simpa [blank, hfront, hnone] using parse_self_iff blank hnone hlast
    · refine iff_of_true ?_ (.inr (.inl hfront))
      exact parse_parted blank hfront (fun arg => plain_of_mem_positionals) hlast
  · exact iff_of_true (parse_rest_of_worded blank cut stop hlast h) (.inl blank)

/-- A suboption that looks like a separator stays in its list, and an option behind the
    separator is not scanned. -/
theorem parse_rest_dashes :
    (Cut ["-x", "-o", "--,n1=v1,-b", "pos"]
        [.option "-x", .suboption "--", .suboption "n1=v1", .suboption "-b", .positional "pos"] ∧
      Stops ["--", "-odebug"] (.separated ["-odebug"]) ∧
      (Ending.separated ["-odebug"]).unscanned.getLast? ≠ some "--" ∧
      parse "n1=%s debug" [.text "", .flag false]
          (["-x", "-o", "--,n1=v1,-b", "pos"] ++ ["--", "-odebug"]) =
        .ok ⟨["-o", "--,-b", "-x", "pos", "--", "-odebug"], [.text "v1", .flag false]⟩) ∧
    parse "n1=%s debug" [.text "v1", .flag false]
        ["-o", "--,-b", "-x", "pos", "--", "-odebug"] =
      .ok ⟨["-o", "--,-b", "-x", "pos", "--", "-odebug"], [.text "v1", .flag false]⟩ := by
  have hlist : Parts "--,n1=v1,-b" ["--", "n1=v1", "-b"] := ⟨by decide, by decide, by decide⟩
  have cut : Cut ["-x", "-o", "--,n1=v1,-b", "pos"]
      [.option "-x", .suboption "--", .suboption "n1=v1", .suboption "-b", .positional "pos"] :=
    @Cut.option "x" _ _ (by decide) (by decide)
      (.announced hlist (.positional (by decide) .nil))
  have hparsed : parse "n1=%s debug" [.text "", .flag false]
      (["-x", "-o", "--,n1=v1,-b", "pos"] ++ ["--", "-odebug"]) =
        .ok ⟨["-o", "--,-b", "-x", "pos", "--", "-odebug"], [.text "v1", .flag false]⟩ := by
    decide +kernel
  have stop : Stops ["--", "-odebug"] (.separated ["-odebug"]) := .separated _
  have hlast : (Ending.separated ["-odebug"]).unscanned.getLast? ≠ some "--" := by decide
  have worded : Text.wordsOf "n1=%s debug" ≠ [] := by decide
  exact ⟨⟨cut, stop, hlast, hparsed⟩, (parse_rest_iff cut stop hlast hparsed).mpr (.inl worded)⟩

/-- A format of blanks is no empty text, but it has no template either. An option behind
    the separator is handed back without it, and is no positional argument the next time. -/
theorem blank_format_not_idempotent :
    " " ≠ "" ∧ ["-d", "x"].getLast? ≠ some "--" ∧
      parse " " [] ([] ++ "--" :: ["-d", "x"]) = .ok ⟨["-d", "x"], []⟩ ∧
      parse " " [] ["-d", "x"] = .ok ⟨["x"], []⟩ ∧ ["x"] ≠ ["-d", "x"] := by
  decide +kernel

end HostedFs.Options
