import HostedFs.Proofs.Options.Pieces
import HostedFs.Proofs.Options.Reference

/-! # What is left of a command line

    The arguments that are handed back are those that no template took: first the
    suboptions, folded into one list, and then the rest in its own order.

    * `Consumed`: the candidates that some rule takes.
    * `parse_eq_ok_iff`: what a parse that succeeds is made of.
    * `unmatched`: the pieces that no rule takes.
    * `Conserved`, `rest_conserved`: these are handed back, and nothing else.
-/

namespace HostedFs.Options

/-! ## Candidates that are taken -/

/-- The rule takes the candidate. -/
def Rule.Matches (r : Rule) (candidate : String) : Prop :=
  ∃ value?, r.template.Takes r.slot candidate value?

/-- A rule takes the candidates with its key. If they have no value, it is for a
    flag, and its template demands none. -/
theorem Rule.matches_iff {r : Rule} {candidate : String} :
    r.Matches candidate ↔ (keyValue candidate).1 = r.template.name ∧
      ((keyValue candidate).2 = none → r.slot.isFlag = true ∧ r.template.needsValue = false) := by
  constructor
  · rintro ⟨value?, htakes⟩
    cases htakes with
    | valued cut => simp [keyValue_of_splits cut]
    | bare cut flag optional => simp [keyValue_of_splits cut, flag, optional]
  · rintro ⟨hkey, hbare⟩
    have hcut := splits_keyValue candidate
    rw [hkey] at hcut
    cases hvalue : (keyValue candidate).2 with
    | none =>
      rw [hvalue] at hcut
      obtain ⟨flag, optional⟩ := hbare hvalue
      exact ⟨none, .bare hcut flag optional⟩
    | some value =>
      rw [hvalue] at hcut
      exact ⟨some value, .valued hcut⟩

instance (r : Rule) (candidate : String) : Decidable (r.Matches candidate) :=
  decidable_of_iff _ Rule.matches_iff.symm

/-- Some rule takes the candidate. -/
def Consumed (rules : List Rule) (candidate : String) : Prop :=
  ∃ r ∈ rules, r.Matches candidate

instance (rules : List Rule) (candidate : String) : Decidable (Consumed rules candidate) :=
  inferInstanceAs (Decidable (∃ r ∈ rules, _))

variable {rules : List Rule} {candidate : String} {piece : Piece} {pieces : List Piece}
  {reading : Reading} {readings : List Reading}

/-- A rule has a new value for the candidates that it takes. -/
theorem isSome_value_iff {r : Rule} (hr : r.Plain) {new? : Option Slot}
    (h : Reading.value candidate r = .ok new?) : new?.isSome = true ↔ r.Matches candidate := by
  by_cases hmatches : r.Matches candidate
  · obtain ⟨value?, htakes⟩ := hmatches
    rw [Rule.value_of_takes hr htakes, map_eq_ok_iff] at h
    obtain ⟨value, -, rfl⟩ := h
    simp only [Option.isSome_some, true_iff]
    exact ⟨value?, htakes⟩
  · have huntaken := not_exists.mp hmatches
    rw [Rule.value_of_untaken hr huntaken] at h
    cases h
    simp [hmatches]

/-- A candidate is taken if one of the rules has a new value. -/
theorem any_isSome_iff (hplain : ∀ r ∈ rules, r.Plain) {values : List (Option Slot)}
    (hvalues : rules.mapM (Reading.value candidate) = .ok values) :
    values.any Option.isSome = true ↔ Consumed rules candidate := by
  rw [mapM_eq_ok_iff] at hvalues
  induction hvalues with
  | nil => simp [Consumed]
  | @cons r new? rules values hnew _ ih =>
    obtain ⟨hr, hothers⟩ := List.forall_mem_cons.mp hplain
    rw [List.any_cons, Bool.or_eq_true, isSome_value_iff hr hnew, ih hothers]
    simp [Consumed]

/-! ## Pieces that are not taken -/

/-- No rule takes the candidate of the piece. -/
def Piece.Unmatched (rules : List Rule) (piece : Piece) : Prop :=
  ∀ candidate ∈ piece.candidate?, ¬ Consumed rules candidate

instance (rules : List Rule) (piece : Piece) : Decidable (piece.Unmatched rules) :=
  inferInstanceAs (Decidable (∀ candidate ∈ piece.candidate?, _))

/-- The pieces that no rule takes. -/
def unmatched (rules : List Rule) (pieces : List Piece) : List Piece :=
  pieces.filter (·.Unmatched rules)

theorem mem_of_unmatched (h : piece ∈ unmatched rules pieces) : piece ∈ pieces :=
  List.mem_of_mem_filter h

theorem spare_of_unmatched (h : piece ∈ unmatched rules pieces) : piece.Unmatched rules :=
  of_decide_eq_true (List.mem_filter.mp h).2

/-- The text of a suboption. -/
def Piece.suboption? : Piece → Option String
  | .suboption text => some text
  | _ => none

/-- The argument that is a piece of its own. -/
def Piece.argument? : Piece → Option String
  | .positional arg => some arg
  | .option arg => some arg
  | .suboption _ => none

/-- An argument that is no option. -/
def Piece.positional? : Piece → Option String
  | .positional arg => some arg
  | _ => none

/-- A reading is about its piece, and tells whether some rule took it. -/
theorem ofPiece_eq_ok (hplain : ∀ r ∈ rules, r.Plain)
    (h : Reading.ofPiece rules piece = .ok reading) :
    reading.piece = piece ∧ (reading.isConsumed = true ↔ ¬ piece.Unmatched rules) := by
  cases hcandidate : piece.candidate? with
  | none =>
    rw [ofPiece_of_none hcandidate] at h
    cases h
    simp [Reading.isConsumed, Piece.Unmatched, hcandidate]
  | some candidate =>
    rw [ofPiece_of_some hcandidate, map_eq_ok_iff] at h
    obtain ⟨values, hvalues, rfl⟩ := h
    refine ⟨rfl, ?_⟩
    show values.any Option.isSome = true ↔ _
    rw [any_isSome_iff hplain hvalues]
    simp [Piece.Unmatched, hcandidate]

/-- What is picked from each reading is picked from each piece. -/
theorem filterMap_readings {f : Reading → Option String} {g : Piece → Option String}
    (hreadings : pieces.mapM (Reading.ofPiece rules) = .ok readings)
    (hsame : ∀ piece reading, Reading.ofPiece rules piece = .ok reading → f reading = g piece) :
    readings.filterMap f = pieces.filterMap g := by
  rw [mapM_eq_ok_iff] at hreadings
  induction hreadings with
  | nil => rfl
  | cons hreading _ ih =>
    rw [List.filterMap_cons, List.filterMap_cons, hsame _ _ hreading, ih]

/-- The suboptions that are left are those of the unmatched pieces. -/
theorem leftSuboptions_eq (hplain : ∀ r ∈ rules, r.Plain)
    (hreadings : pieces.mapM (Reading.ofPiece rules) = .ok readings) :
    leftSuboptions readings = (unmatched rules pieces).filterMap Piece.suboption? := by
  rw [unmatched, List.filterMap_filter]
  refine filterMap_readings hreadings fun piece reading hreading => ?_
  obtain ⟨rfl, hconsumed⟩ := ofPiece_eq_ok hplain hreading
  cases hpiece : reading.piece with
  | positional arg => simp [Piece.suboption?]
  | option arg => simp [Piece.suboption?]
  | suboption text => simp [Piece.suboption?, ← hpiece, hconsumed]

/-- So are the arguments that are left. -/
theorem leftArguments_eq (hplain : ∀ r ∈ rules, r.Plain)
    (hreadings : pieces.mapM (Reading.ofPiece rules) = .ok readings) :
    leftArguments false readings = (unmatched rules pieces).filterMap Piece.argument? := by
  rw [unmatched, List.filterMap_filter]
  refine filterMap_readings hreadings fun piece reading hreading => ?_
  obtain ⟨rfl, hconsumed⟩ := ofPiece_eq_ok hplain hreading
  cases hpiece : reading.piece with
  | positional arg => simp [Piece.argument?, Piece.Unmatched, Piece.candidate?]
  | option arg => simp [Piece.argument?, ← hpiece, hconsumed]
  | suboption text => simp [Piece.argument?]

/-- Where only positional arguments are wanted, they are all that is left. -/
theorem leftArguments_positional (hplain : ∀ r ∈ rules, r.Plain)
    (hreadings : pieces.mapM (Reading.ofPiece rules) = .ok readings) :
    leftArguments true readings = pieces.filterMap Piece.positional? := by
  refine filterMap_readings hreadings fun piece reading hreading => ?_
  obtain ⟨rfl, -⟩ := ofPiece_eq_ok hplain hreading
  cases reading.piece with
  | positional arg => rfl
  | option arg => simp [Piece.positional?]
  | suboption text => rfl

/-! ## Parses that succeed -/

/-- A format without words makes no rules. -/
theorem isEmpty_rulesOf {words : List String} {templates : List Template} {slots : List Slot}
    (htemplates : List.Forall₂ Template.Spells words templates)
    (hlength : templates.length = slots.length) :
    (rulesOf templates slots).isEmpty = words.isEmpty := by
  cases htemplates with
  | nil => rfl
  | cons hword hrest =>
    cases slots with
    | nil => cases hlength
    | cons slot slots => rfl

/-- A scan is read if all candidates can be decoded and no list is missing. -/
theorem parseScan_eq_ok_iff {scan : Scan} {parsed : Parsed} :
    parseScan rules scan = .ok parsed ↔ ∃ readings,
      scan.pieces.mapM (Reading.ofPiece rules) = .ok readings ∧ scan.ending ≠ .dangling ∧
      parsed = ⟨leftover rules.isEmpty readings scan.ending,
        readings.foldl Reading.commit (rules.map Rule.slot)⟩ := by
  cases hreadings : scan.pieces.mapM (Reading.ofPiece rules) with
  | error e => simp [parseScan, readScan, hreadings, bind, Except.bind]
  | ok readings =>
    by_cases hending : scan.ending = .dangling
    · simp [parseScan, readScan, hreadings, hending, throw, throwThe, MonadExceptOf.throw, bind,
        Except.bind]
    · simp [parseScan, readScan, hreadings, hending, bind, Except.bind, pure, Except.pure,
        eq_comm]

/-- A command line is parsed if moreover the format can be read and fits the slots. -/
theorem parse_eq_ok_iff {format : String} {slots : List Slot} {args : List String}
    {parsed : Parsed} :
    parse format slots args = .ok parsed ↔ ∃ templates,
      List.Forall₂ Template.Spells (Text.wordsOf format) templates ∧
      templates.length = slots.length ∧
      parseScan (rulesOf templates slots) (Scan.ofArgs args) = .ok parsed := by
  rw [parse_eq]
  unfold parseSteps
  rw [bind_eq_ok_iff]
  refine exists_congr fun templates => and_congr parseFormat_eq_ok_iff ?_
  by_cases hlength : templates.length = slots.length
  · simp [hlength, rulesOf]
  · simp [hlength, throw, throwThe, MonadExceptOf.throw, bind, Except.bind]

/-! ## What is handed back -/

/-- Suboptions as one list behind an announcement. Nothing announces an empty one. -/
inductive Folded : List String → List String → Prop
  | none : Folded [] []
  | list {texts : List String} (some : texts ≠ []) : Folded texts ["-o", ",".intercalate texts]

theorem folded_foldSuboptions (texts : List String) : Folded texts (foldSuboptions texts) := by
  cases texts with
  | nil => exact .none
  | cons text texts => exact .list (List.cons_ne_nil text texts)

/-- An option of its own. -/
def Piece.option? : Piece → Option String
  | .option arg => some arg
  | _ => none

/-- No argument that is a piece looks like a separator. -/
theorem separator_notMem (hproper : ∀ piece ∈ pieces, piece.Proper) :
    "--" ∉ pieces.filterMap Piece.argument? := by
  intro hmem
  obtain ⟨piece, hpiece, harg⟩ := List.mem_filterMap.mp hmem
  cases hproper piece hpiece with
  | positional plain =>
    cases harg
    exact plain (by decide)
  | option other unlisted =>
    have hsame := Option.some.inj harg
    exact other hsame
  | suboption some plain => cases harg

/-- A list without separators is kept as it is. -/
theorem dropFinalSeparator_of_notMem {args : List String} (h : "--" ∉ args) :
    dropFinalSeparator args = args := by
  refine if_neg fun hlast => ?_
  exact h (List.mem_of_getLast? hlast)

/-- The pieces that are arguments of their own. -/
def argumentPieces (pieces : List Piece) : List Piece :=
  pieces.filter fun piece => piece.argument?.isSome

/-- Arguments that are pieces are cut into them again. -/
theorem cut_arguments (hproper : ∀ piece ∈ pieces, piece.Proper) :
    Cut (pieces.filterMap Piece.argument?) (argumentPieces pieces) := by
  induction pieces with
  | nil => exact .nil
  | cons piece pieces ih =>
    obtain ⟨hpiece, hpieces⟩ := List.forall_mem_cons.mp hproper
    cases hpiece with
    | positional plain => exact .positional plain (ih hpieces)
    | option other unlisted => exact .option other unlisted (ih hpieces)
    | suboption some plain => exact ih hpieces

/-- Suboptions in front of other arguments are cut out of their list again. -/
theorem Folded.cut {texts front rest : List String} (h : Folded texts front)
    (hproper : ∀ text ∈ texts, (Piece.suboption text).Proper) (next : Cut rest pieces) :
    Cut (front ++ rest) (texts.map Piece.suboption ++ pieces) := by
  cases h with
  | none => exact next
  | list some =>
    have hall : suboptionTexts texts = texts := by
      refine List.filter_eq_self.mpr fun text htext => ?_
      cases hproper text htext with
      | suboption some plain => exact decide_eq_true some
    have hparts : Parts (",".intercalate texts) texts := by
      refine ⟨some, fun text htext => ?_, rfl⟩
      cases hproper text htext with
      | suboption some plain => exact plain
    have hcut := Cut.announced hparts next
    rw [hall] at hcut
    exact hcut

/-- What is found among arguments of their own is what is found among the pieces that are
    no suboptions. -/
theorem filterMap_argumentPieces (f g : Piece → Option String)
    (positional : ∀ arg, f (.positional arg) = g (.positional arg))
    (option : ∀ arg, f (.option arg) = g (.option arg))
    (suboption : ∀ text, g (.suboption text) = none) (pieces : List Piece) :
    (argumentPieces pieces).filterMap f = pieces.filterMap g := by
  rw [argumentPieces, List.filterMap_filter]
  refine List.filterMap_congr fun piece _ => ?_
  cases piece with
  | positional arg => exact positional arg
  | option arg => exact option arg
  | suboption text => exact (suboption text).symm

/-- So the candidates among them are the options. -/
theorem candidates_argumentPieces (pieces : List Piece) :
    (argumentPieces pieces).filterMap Piece.candidate? = pieces.filterMap Piece.option? :=
  filterMap_argumentPieces Piece.candidate? Piece.option? (fun _ => rfl) (fun _ => rfl)
    (fun _ => rfl) pieces

theorem suboption_mem {text : String} (h : text ∈ pieces.filterMap Piece.suboption?) :
    .suboption text ∈ pieces := by
  obtain ⟨piece, hpiece, hsome⟩ := List.mem_filterMap.mp h
  cases piece with
  | suboption other =>
    cases hsome
    exact hpiece
  | positional arg => cases hsome
  | option arg => cases hsome

/-- The suboptions of pieces are proper as the pieces are. -/
theorem proper_suboption (hproper : ∀ piece ∈ pieces, piece.Proper) :
    ∀ text ∈ pieces.filterMap Piece.suboption?, (Piece.suboption text).Proper := by
  intro text htext
  exact hproper _ (suboption_mem htext)

/-- Every candidate is a suboption or an option of its own. -/
theorem candidates_perm (pieces : List Piece) :
    (pieces.filterMap Piece.suboption? ++ pieces.filterMap Piece.option?).Perm
      (pieces.filterMap Piece.candidate?) := by
  induction pieces with
  | nil => exact .nil
  | cons piece pieces ih =>
    cases piece with
    | positional arg => exact ih
    | suboption text => exact ih.cons text
    | option arg => exact List.perm_middle.trans (ih.cons arg)

/-- What no rule takes of a command line, and nothing else, is handed back. -/
structure Conserved (rules : List Rule) (pieces : List Piece) (rest : List String) : Prop where
  /-- In front the unmatched suboptions as one list, then the positional arguments and
      the unmatched options among one another, both in the order of the command line. -/
  shape : ∃ front, Folded ((unmatched rules pieces).filterMap Piece.suboption?) front ∧
    rest = front ++ (unmatched rules pieces).filterMap Piece.argument?
  /-- The candidates are shared out: some rule takes those of one part, and none takes
      those of the other, which are what is found in the arguments handed back. -/
  shared : ∃ consumed returned,
    (consumed ++ returned).Perm (pieces.filterMap Piece.candidate?) ∧
    (∀ candidate ∈ consumed, Consumed rules candidate) ∧
    (∀ candidate ∈ returned, ¬ Consumed rules candidate) ∧
    Scanned rest returned false

/-- The unmatched pieces in that shape are all that no rule takes. -/
theorem conserved_unmatched (hproper : ∀ piece ∈ pieces, piece.Proper) {front : List String}
    (hfront : Folded ((unmatched rules pieces).filterMap Piece.suboption?) front) :
    Conserved rules pieces (front ++ (unmatched rules pieces).filterMap Piece.argument?) where
  shape := ⟨front, hfront, rfl⟩
  shared := by
    have hleft : ∀ piece ∈ unmatched rules pieces, piece.Proper := by
      intro piece hpiece
      exact hproper piece (mem_of_unmatched hpiece)
    -- The candidates part into those of the pieces that a rule takes and those that are left.
    refine ⟨(pieces.filter fun piece => !decide (piece.Unmatched rules)).filterMap Piece.candidate?,
      (unmatched rules pieces).filterMap Piece.suboption? ++
        (unmatched rules pieces).filterMap Piece.option?, ?_, ?_, ?_, ?_⟩
    · have hparts := List.filter_append_perm (fun piece => decide (piece.Unmatched rules)) pieces
      have hcandidates := (List.perm_append_comm.trans hparts).filterMap Piece.candidate?
      rw [List.filterMap_append] at hcandidates
      exact ((candidates_perm _).append_left _).trans hcandidates
    · intro candidate hcandidate
      obtain ⟨piece, hpiece, hsome⟩ := List.mem_filterMap.mp hcandidate
      have htaken := List.of_mem_filter hpiece
      simpa [Piece.Unmatched, hsome] using htaken
    · intro candidate hcandidate
      have hcandidate := (candidates_perm _).subset hcandidate
      obtain ⟨piece, hpiece, hsome⟩ := List.mem_filterMap.mp hcandidate
      exact spare_of_unmatched hpiece candidate hsome
    · -- What is left is cut again, into the same suboptions and options.
      have hcut := hfront.cut (proper_suboption hleft) (cut_arguments hleft)
      have hscanned := hcut.scanned .exhausted
      rw [List.append_nil, List.filterMap_append, filterMap_suboption,
        candidates_argumentPieces] at hscanned
      exact hscanned

/-- Where the scan meets no separator and the format has a template, each candidate is taken by
    one or handed back, and positional arguments all are: `Cut` names the pieces of the command
    line, and `Conserved` says how the rest shares them with the rules. -/
theorem rest_conserved {format : String} {slots : List Slot} {args : List String}
    {parsed : Parsed} (worded : Text.wordsOf format ≠ []) (unseparated : ¬ MeetsSeparator args)
    (h : parse format slots args = .ok parsed) :
    ∃ templates pieces, List.Forall₂ Template.Spells (Text.wordsOf format) templates ∧
      Cut args pieces ∧ Conserved (rulesOf templates slots) pieces parsed.rest := by
  obtain ⟨templates, htemplates, hlength, hparsed⟩ := parse_eq_ok_iff.mp h
  obtain ⟨readings, hreadings, hcomplete, rfl⟩ := parseScan_eq_ok_iff.mp hparsed
  obtain ⟨hcut, hending⟩ := cut_of_unseparated unseparated hcomplete
  have hplain := plain_rulesOf htemplates slots
  have hrules : (rulesOf templates slots).isEmpty = false := by
    rw [isEmpty_rulesOf htemplates hlength]
    simpa using worded
  refine ⟨templates, _, htemplates, hcut, ?_⟩
  have hproper : ∀ piece ∈ unmatched (rulesOf templates slots) (Scan.ofArgs args).pieces,
      piece.Proper := by
    intro piece hpiece
    exact hcut.proper piece (mem_of_unmatched hpiece)
  rw [hrules, hending]
  simp only [leftover, Ending.tail, List.append_nil, Bool.false_eq_true, if_false,
    leftArguments_eq hplain hreadings, leftSuboptions_eq hplain hreadings]
  -- Nothing is dropped from the end, since no piece looks like a separator.
  rw [dropFinalSeparator_of_notMem (separator_notMem hproper)]
  exact conserved_unmatched hcut.proper (folded_foldSuboptions _)

/-- Suboptions of several lists are handed back as one. -/
theorem rest_conserved_recombined :
    (Text.wordsOf "n1=%s debug" ≠ [] ∧
      ¬ MeetsSeparator ["-x", "-o", "a,n1=v1,b", "pos", "-obig_writes"] ∧
      parse "n1=%s debug" [.text "", .flag false] ["-x", "-o", "a,n1=v1,b", "pos", "-obig_writes"] =
        .ok ⟨["-o", "a,b,big_writes", "-x", "pos"], [.text "v1", .flag false]⟩) ∧
    ∃ templates pieces, List.Forall₂ Template.Spells (Text.wordsOf "n1=%s debug") templates ∧
      Cut ["-x", "-o", "a,n1=v1,b", "pos", "-obig_writes"] pieces ∧
      Conserved (rulesOf templates [.text "", .flag false]) pieces
        ["-o", "a,b,big_writes", "-x", "pos"] := by
  have worded : Text.wordsOf "n1=%s debug" ≠ [] := by decide
  have unseparated : ¬ MeetsSeparator ["-x", "-o", "a,n1=v1,b", "pos", "-obig_writes"] :=
    not_meetsSeparator (by decide)
  have hparsed : parse "n1=%s debug" [.text "", .flag false]
      ["-x", "-o", "a,n1=v1,b", "pos", "-obig_writes"] =
        .ok ⟨["-o", "a,b,big_writes", "-x", "pos"], [.text "v1", .flag false]⟩ := by
    decide +kernel
  exact ⟨⟨worded, unseparated, hparsed⟩, rest_conserved worded unseparated hparsed⟩

/-- A format of blanks is no empty text, but it has no template either, and unmatched
    options are not handed back. -/
theorem blank_format_not_conserved :
    " " ≠ "" ∧ ¬ MeetsSeparator ["-x"] ∧ parse " " [] ["-x"] = .ok ⟨[], []⟩ ∧
    ¬ ∃ templates pieces, List.Forall₂ Template.Spells (Text.wordsOf " ") templates ∧
      Cut ["-x"] pieces ∧ Conserved (rulesOf templates []) pieces [] := by
  refine ⟨by decide, not_meetsSeparator (by decide), by decide +kernel, ?_⟩
  rintro ⟨templates, pieces, htemplates, hcut, ⟨⟨front, -, hrest⟩, -⟩⟩
  have hoption : Cut ["-" ++ "x"] [.option ("-" ++ "x")] :=
    .option (by decide) (by decide) .nil
  obtain rfl := hcut.unique hoption
  cases htemplates
  have hargs : (unmatched [] [.option "-x"]).filterMap Piece.argument? = ["-x"] := by decide
  have hnone := List.append_eq_nil_iff.mp hrest.symm
  cases hargs.symm.trans hnone.2

end HostedFs.Options
