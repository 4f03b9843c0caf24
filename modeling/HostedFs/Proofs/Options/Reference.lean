import HostedFs.Proofs.Options.Filling
import HostedFs.Proofs.Options.Rules

/-! # What a command line means

    The outcome of parsing, said by the words of the format and the candidates of
    the command line alone.

    * `Read`: the first error in the order of the scan, or for each slot the last
      candidate that its rule takes.
    * `Explained`, `parse_explained`: so is every command line parsed, once the
      format is known to be good.
-/

namespace HostedFs.Options

variable {rules : List Rule}

/-! ## Whole command lines -/

/-- A command line's candidates are read by rules. -/
structure Read (rules : List Rule) (candidates : List String) (dangling : Bool)
    (result : Except Error Parsed) : Prop where
  /-- There is an error if a list is missing, or if an option is given a value that
      cannot be decoded. -/
  fails_iff : (∃ e, result = .error e) ↔ dangling = true ∨
    ∃ candidate ∈ candidates, ∃ r ∈ rules, ∃ e, r.FailsOn candidate e
  /-- The first one is reported. -/
  first : ∀ e, result = .error e → FirstFailure rules candidates e ∨
    Decodes rules candidates ∧ dangling = true ∧ e = .missingValue "-o"
  /-- Otherwise each has the value of the last candidate that its rule takes. -/
  filled : ∀ parsed, result = .ok parsed →
    List.Forall₂ (fun r slot => r.EndsWith candidates slot) rules parsed.slots

/-- Rules read what the scan has found. -/
theorem parseScan_read (hplain : ∀ r ∈ rules, r.Plain) (scan : Scan) :
    Read rules scan.candidates (decide (scan.ending = .dangling)) (parseScan rules scan) := by
  -- The scan fails first where a rule fails, then where `-o` dangles.
  have hdecodes : Decodes rules scan.candidates ↔
      ¬ ∃ candidate ∈ scan.candidates, ∃ r ∈ rules, ∃ e, r.FailsOn candidate e := by
    simp [Decodes]
  cases hreadings : scan.pieces.mapM (Reading.ofPiece rules) with
  | error e =>
    -- Some piece cannot be read: the failure is the first one.
    have hresult : parseScan rules scan = .error e := by
      simp [parseScan, readScan, hreadings, bind, Except.bind]
    have hfirst : FirstFailure rules scan.candidates e :=
      (readings_eq_error_iff hplain).mp hreadings
    rw [hresult]
    refine ⟨⟨fun _ => .inr ?_, fun _ => ⟨e, rfl⟩⟩, ?_, ?_⟩
    · by_contra hnone
      obtain ⟨readings, hok⟩ := (readings_isOk_iff hplain).mpr (hdecodes.mpr hnone)
      cases hreadings.symm.trans hok
    · intro other hother
      cases hother
      exact .inl hfirst
    · intro parsed hparsed
      cases hparsed
  | ok readings =>
    -- All pieces can be read, and the slots are filled unless `-o` dangles.
    have hdecoded : Decodes rules scan.candidates :=
      (readings_isOk_iff hplain).mp ⟨readings, hreadings⟩
    by_cases hending : scan.ending = .dangling
    · have hresult : parseScan rules scan = .error (.missingValue "-o") := by
        simp [parseScan, readScan, hreadings, hending, bind, Except.bind, throw, throwThe,
          MonadExceptOf.throw]
      rw [hresult]
      refine ⟨⟨fun _ => .inl (decide_eq_true hending), fun _ => ⟨_, rfl⟩⟩, ?_, ?_⟩
      · intro e he
        cases he
        exact .inr ⟨hdecoded, decide_eq_true hending, rfl⟩
      · intro parsed hparsed
        cases hparsed
    · have hresult : parseScan rules scan =
          .ok ⟨leftover rules.isEmpty readings scan.ending,
            readings.foldl Reading.commit (rules.map Rule.slot)⟩ := by
        simp [parseScan, readScan, hreadings, hending, bind, Except.bind, pure, Except.pure]
      rw [hresult]
      refine ⟨?_, ?_, ?_⟩
      · constructor
        · rintro ⟨e, he⟩
          cases he
        · rintro (hdangling | hfails)
          · exact absurd (of_decide_eq_true hdangling) hending
          · exact absurd hfails (hdecodes.mp hdecoded)
      · intro e he
        cases he
      · intro parsed hparsed
        cases hparsed
        have hslots : List.Forall₂ (fun r slot => r.EndsWith [] slot) rules
            (rules.map Rule.slot) := by
          rw [List.forall₂_map_right_iff, List.forall₂_same]
          intro r _
          exact .kept (by simp)
        exact endsWith_readings hplain hslots hreadings

/-! ## Formats -/

/-- A format is read as the templates that its words spell. -/
theorem parseFormat_eq_ok_iff {format : String} {templates : List Template} :
    Template.parseFormat format = .ok templates ↔
      List.Forall₂ Template.Spells (Text.wordsOf format) templates := by
  unfold Template.parseFormat
  rw [mapM_eq_ok_iff]
  refine iff_of_eq (congrArg (List.Forall₂ · (Text.wordsOf format) templates) ?_)
  funext word t
  rw [← Template.parse?_eq_some_iff, eq_iff_iff]
  cases Template.parse? word with
  | none => simp
  | some other => simp

/-- A format is not read from the first word on that spells none. -/
theorem parseFormat_of_malformed {format word : String} {before after : List String}
    (split : Text.wordsOf format = before ++ word :: after)
    (wellFormed : ∀ other ∈ before, ∃ t, Template.Spells other t)
    (malformed : ∀ t, ¬ Template.Spells word t) :
    Template.parseFormat format = .error (.badTemplate word) := by
  unfold Template.parseFormat
  refine mapM_eq_error_iff.mpr ⟨before, word, after, split, fun other hother => ?_, ?_⟩
  · obtain ⟨t, ht⟩ := wellFormed other hother
    simp [Template.parse?_eq_some_iff.mpr ht]
  · simp [Template.parse?_eq_none_iff.mpr malformed]

/-- Each template is a rule for the slot at its own position. -/
def rulesOf (templates : List Template) (slots : List Slot) : List Rule :=
  templates.zipWith Rule.mk slots

theorem plain_rulesOf {words : List String} {templates : List Template}
    (h : List.Forall₂ Template.Spells words templates) (slots : List Slot) :
    ∀ r ∈ rulesOf templates slots, r.Plain := by
  induction h generalizing slots with
  | nil => simp [rulesOf]
  | @cons word t words templates hword hrest ih =>
    cases slots with
    | nil => simp [rulesOf]
    | cons slot slots =>
      intro r hr
      rcases List.mem_cons.mp hr with rfl | hr
      · exact hword.plain
      · exact ih slots r hr

/-- A good format reads a command line by its rules. -/
theorem parse_eq_parseScan {format : String} {templates : List Template} {slots : List Slot}
    (htemplates : List.Forall₂ Template.Spells (Text.wordsOf format) templates)
    (hlength : templates.length = slots.length) (args : List String) :
    parse format slots args = parseScan (rulesOf templates slots) (Scan.ofArgs args) := by
  rw [parse_eq, parseSteps_of_eq (parseFormat_eq_ok_iff.mpr htemplates) hlength]
  rfl

/-- So its candidates are read by them in turn. -/
theorem parse_read {format : String} {templates : List Template} {slots : List Slot}
    {args candidates : List String} {dangling : Bool}
    (htemplates : List.Forall₂ Template.Spells (Text.wordsOf format) templates)
    (hlength : templates.length = slots.length) (hscanned : Scanned args candidates dangling) :
    Read (rulesOf templates slots) candidates dangling (parse format slots args) := by
  obtain ⟨rfl, rfl⟩ := scanned_iff.mp hscanned
  rw [parse_eq_parseScan htemplates hlength]
  exact parseScan_read (plain_rulesOf htemplates slots) (Scan.ofArgs args)

/-- The first error of its candidates is what comes of it. -/
theorem parse_of_firstFailure {format : String} {templates : List Template} {slots : List Slot}
    {args candidates : List String} {dangling : Bool}
    (htemplates : List.Forall₂ Template.Spells (Text.wordsOf format) templates)
    (hlength : templates.length = slots.length) (hscanned : Scanned args candidates dangling)
    {e : Error} (hfirst : FirstFailure (rulesOf templates slots) candidates e) :
    parse format slots args = .error e := by
  obtain ⟨rfl, rfl⟩ := scanned_iff.mp hscanned
  have hplain := plain_rulesOf htemplates slots
  have hreadings := (readings_eq_error_iff hplain).mpr hfirst
  rw [parse_eq_parseScan htemplates hlength]
  simp [parseScan, readScan, hreadings, bind, Except.bind]

/-- What comes of a command line, as a format says. -/
structure Explained (format : String) (slots : List Slot) (args : List String)
    (result : Except Error Parsed) : Prop where
  /-- A word that is no template is reported before anything else. -/
  malformed : ∀ before word after, Text.wordsOf format = before ++ word :: after →
    (∀ other ∈ before, ∃ t, Template.Spells other t) → (∀ t, ¬ Template.Spells word t) →
    result = .error (.badTemplate word)
  /-- Next come templates that are not as many as the slots. -/
  mismatched : ∀ templates, List.Forall₂ Template.Spells (Text.wordsOf format) templates →
    templates.length ≠ slots.length → result = .error (.arity templates.length slots.length)
  /-- A command line has candidates, and there is but one way to scan it. -/
  scanned : ∃ candidates dangling, Scanned args candidates dangling ∧
    ∀ others otherwise, Scanned args others otherwise → others = candidates ∧ otherwise = dangling
  /-- They are read by the templates in turn. -/
  read : ∀ templates candidates dangling,
    List.Forall₂ Template.Spells (Text.wordsOf format) templates →
    templates.length = slots.length → Scanned args candidates dangling →
    Read (rulesOf templates slots) candidates dangling result
  /-- When `fill` has failed, all slots are what they were, -/
  unchanged : ∀ e after, (fill format args).run.run slots = (.error e, after) →
    result = .error e ∧ after = slots
  /-- and otherwise they are those of the result. -/
  written : ∀ rest after, (fill format args).run.run slots = (.ok rest, after) →
    result = .ok ⟨rest, after⟩

/-- Every command line is parsed as `Explained` says: malformed words and a mismatch of slots first,
    then what the candidates of `Scanned` come to by `Read`. The slots that `fill` leaves are the
    ones it was given if it fails, and the ones of the result if it does not. -/
theorem parse_explained (format : String) (slots : List Slot) (args : List String) :
    Explained format slots args (parse format slots args) where
  malformed before word after split wellFormed malformed := by
    rw [parse_eq, parseSteps_of_error (parseFormat_of_malformed split wellFormed malformed)]
  mismatched templates htemplates hlength := by
    rw [parse_eq, parseSteps_of_ne (parseFormat_eq_ok_iff.mpr htemplates) hlength]
  scanned := by
    refine ⟨_, _, scanned_ofArgs args, ?_⟩
    intro others otherwise h
    obtain ⟨rfl, rfl⟩ := scanned_iff.mp h
    exact ⟨rfl, rfl⟩
  read templates candidates dangling htemplates hlength hscanned := by
    exact parse_read htemplates hlength hscanned
  unchanged e after hfill := by
    rw [run_fill] at hfill
    exact outcome_eq_error_iff.mp hfill
  written rest after hfill := by
    rw [run_fill] at hfill
    exact outcome_eq_ok_iff.mp hfill

/-- Names that begin alike are told apart, and of repeated options the last one
    counts. -/
example : parse "n=%v ro root" [.int ⟨false, .w8⟩ 0, .flag false, .text ""]
    ["-oroot=/a=b,ro,n=7", "-o", "n=-1"] =
      .ok ⟨[], [.int ⟨false, .w8⟩ 255, .flag true, .text "/a=b"]⟩ := by
  decide +kernel

end HostedFs.Options
