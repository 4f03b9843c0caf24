import HostedFs.Proofs.Options.Decoding

/-! # What rules make of candidates

    Each rule is tried on each candidate in the order of the scan. The first value
    that cannot be decoded ends the reading; otherwise each slot has the value of
    the last candidate that its rule takes.

    * `Rule.FailsOn`, `FirstFailure`: which error comes first.
    * `Rule.EndsWith`: what a slot holds at the end.
    * `readings_eq_error_iff`, `readings_isOk_iff`: when the reading of a scan fails.
    * `endsWith_readings`: what the slots hold after it.
-/

namespace HostedFs.Options

/-! ## Rules -/

namespace Rule

/-- The rule's option is given a value that cannot be decoded. -/
def FailsOn (r : Rule) (candidate : String) (e : Error) : Prop :=
  ∃ value, Splits candidate r.template.name (some value) ∧
    r.template.decode r.slot candidate (some value) = .error e

/-- What a rule's slot holds after some candidates. -/
inductive EndsWith (r : Rule) (candidates : List String) : Slot → Prop
  /-- The rule takes none of them. -/
  | kept (untaken : ∀ candidate ∈ candidates, ∀ value?,
      ¬ r.template.Takes r.slot candidate value?) : EndsWith r candidates r.slot
  /-- This is the last one that it takes. -/
  | written {before after : List String} {candidate : String} {value? : Option String}
      {value : Value} {slot : Slot} (split : candidates = before ++ candidate :: after)
      (takes : r.template.Takes r.slot candidate value?)
      (decoded : r.template.decode r.slot candidate value? = .ok value)
      (last : ∀ other ∈ after, ∀ value?, ¬ r.template.Takes r.slot other value?)
      (written : r.slot.Written value slot) : EndsWith r candidates slot

/-- The rule's name has no equals sign. -/
def Plain (r : Rule) : Prop :=
  '=' ∉ r.template.name.toList

variable {r : Rule} {candidate : String} {candidates : List String} {slot : Slot}

/-- A candidate that the rule takes is decoded and written, or fails. -/
theorem value_of_takes (hr : r.Plain) {value? : Option String}
    (h : r.template.Takes r.slot candidate value?) :
    Reading.value candidate r =
      (r.template.decode r.slot candidate value?).map fun value => some (r.slot.commit value) := by
  unfold Reading.value
  rw [Template.assign?_of_takes hr h]
  cases r.template.decode r.slot candidate value? with
  | error e => rfl
  | ok value => rfl

/-- Another one is passed over. -/
theorem value_of_untaken (hr : r.Plain)
    (h : ∀ value?, ¬ r.template.Takes r.slot candidate value?) :
    Reading.value candidate r = .ok none := by
  unfold Reading.value
  rw [Template.assign?_eq_none hr h]

/-- A rule fails on a candidate exactly when its value cannot be decoded. -/
theorem value_eq_error_iff (hr : r.Plain) {e : Error} :
    Reading.value candidate r = .error e ↔ r.FailsOn candidate e := by
  by_cases htaken : ∃ value?, r.template.Takes r.slot candidate value?
  · obtain ⟨value?, htakes⟩ := htaken
    rw [value_of_takes hr htakes, map_eq_error_iff]
    constructor
    · intro h
      cases htakes with
      | valued cut => exact ⟨_, cut, h⟩
      | bare cut flag optional =>
        -- A flag without a value is set.
        cases hslot : r.slot with
        | flag old =>
          rw [hslot] at h
          cases h
        | text old =>
          rw [hslot] at flag
          cases flag
        | int kind old =>
          rw [hslot] at flag
          cases flag
    · rintro ⟨value, cut, h⟩
      obtain rfl := htakes.unique (.valued cut)
      exact h
  · have huntaken := not_exists.mp htaken
    rw [value_of_untaken hr huntaken]
    constructor
    · intro h
      cases h
    · rintro ⟨value, cut, -⟩
      exact absurd (.valued cut) (huntaken (some value))

/-- It makes something of any other. -/
theorem value_isOk_iff (hr : r.Plain) :
    (∃ new?, Reading.value candidate r = .ok new?) ↔ ∀ e, ¬ r.FailsOn candidate e := by
  simp only [← value_eq_error_iff hr]
  cases Reading.value candidate r with
  | error e => simp
  | ok new? => simp

/-- One more candidate, and what the rule makes of it. -/
theorem EndsWith.concat (hr : r.Plain) (h : r.EndsWith candidates slot) {new? : Option Slot}
    (hnew : Reading.value candidate r = .ok new?) :
    r.EndsWith (candidates ++ [candidate]) (new?.getD slot) := by
  by_cases htaken : ∃ value?, r.template.Takes r.slot candidate value?
  · obtain ⟨value?, htakes⟩ := htaken
    -- The rule takes the new candidate, which is the last one that it takes.
    rw [value_of_takes hr htakes, map_eq_ok_iff] at hnew
    obtain ⟨value, hdecoded, rfl⟩ := hnew
    exact .written rfl htakes hdecoded (by simp) (Template.written_commit hdecoded)
  · -- It does not: the slot ends as it did before.
    have huntaken := not_exists.mp htaken
    rw [value_of_untaken hr huntaken] at hnew
    cases hnew
    cases h with
    | kept untaken =>
      refine .kept fun other hother => ?_
      rcases List.mem_append.mp hother with hother | hother
      · exact untaken other hother
      · exact List.mem_singleton.mp hother ▸ huntaken
    | written split takes decoded last written =>
      refine .written (by rw [split, List.append_assoc]; rfl) takes decoded ?_ written
      intro other hother
      rcases List.mem_append.mp hother with hother | hother
      · exact last other hother
      · exact List.mem_singleton.mp hother ▸ huntaken

end Rule

/-! ## Candidates in order -/

/-- All that the rules take of some candidates can be decoded. -/
def Decodes (rules : List Rule) (candidates : List String) : Prop :=
  ∀ candidate ∈ candidates, ∀ r ∈ rules, ∀ e, ¬ r.FailsOn candidate e

/-- The first error of rules on candidates: candidates in order, and for each of
    them the rules in order. -/
inductive FirstFailure : List Rule → List String → Error → Prop
  | intro {front back : List Rule} {r : Rule} {before after : List String} {candidate : String}
      {e : Error} (earlier : Decodes (front ++ r :: back) before)
      (ahead : Decodes front [candidate]) (fails : r.FailsOn candidate e) :
      FirstFailure (front ++ r :: back) (before ++ candidate :: after) e

variable {rules : List Rule} {candidate : String} {candidates : List String}

theorem decodes_cons :
    Decodes rules (candidate :: candidates) ↔
      Decodes rules [candidate] ∧ Decodes rules candidates := by
  simp [Decodes]

/-- The first error on one candidate is that of the first rule that fails. -/
theorem firstFailure_singleton {e : Error} :
    FirstFailure rules [candidate] e ↔ ∃ front r back, rules = front ++ r :: back ∧
      (∀ q ∈ front, ∀ e, ¬ q.FailsOn candidate e) ∧ r.FailsOn candidate e := by
  constructor
  · intro h
    generalize hcandidates : [candidate] = all at h
    cases h with
    | @intro front back r before after other e earlier ahead fails =>
      obtain rfl : other = candidate := by
        have hmem : other ∈ before ++ other :: after := by simp
        rw [← hcandidates] at hmem
        exact List.mem_singleton.mp hmem
      exact ⟨front, r, back, rfl, ahead other List.mem_cons_self, fails⟩
  · rintro ⟨front, r, back, rfl, ahead, fails⟩
    show FirstFailure _ ([] ++ [candidate]) e
    exact .intro (by simp [Decodes]) (by simpa [Decodes] using ahead) fails

/-- The first error is that of the first candidate, or of the others. -/
theorem firstFailure_cons {e : Error} :
    FirstFailure rules (candidate :: candidates) e ↔
      FirstFailure rules [candidate] e ∨
        Decodes rules [candidate] ∧ FirstFailure rules candidates e := by
  constructor
  · intro h
    -- The failure is at the head, or the head is one of those that came out before.
    generalize hcandidates : candidate :: candidates = all at h
    cases h with
    | @intro front back r before after other e earlier ahead fails =>
      cases before with
      | nil =>
        obtain ⟨rfl, rfl⟩ := List.cons.inj hcandidates
        exact .inl (firstFailure_singleton.mpr
          ⟨front, r, back, rfl, ahead candidate List.mem_cons_self, fails⟩)
      | cons first before =>
        obtain ⟨rfl, rfl⟩ := List.cons.inj hcandidates
        obtain ⟨hfirst, hbefore⟩ := decodes_cons.mp earlier
        exact .inr ⟨hfirst, .intro hbefore ahead fails⟩
  · rintro (h | ⟨hfirst, h⟩)
    · obtain ⟨front, r, back, rfl, ahead, fails⟩ := firstFailure_singleton.mp h
      show FirstFailure _ ([] ++ candidate :: candidates) e
      exact .intro (by simp [Decodes]) (by simpa [Decodes] using ahead) fails
    · cases h with
      | @intro front back r before after other e earlier ahead fails =>
        show FirstFailure _ ((candidate :: before) ++ other :: after) e
        exact .intro (decodes_cons.mpr ⟨hfirst, earlier⟩) ahead fails

/-- Rules are tried on a candidate in order, up to the first error. -/
theorem values_eq_error_iff (hplain : ∀ r ∈ rules, r.Plain) {e : Error} :
    rules.mapM (Reading.value candidate) = .error e ↔ FirstFailure rules [candidate] e := by
  rw [mapM_eq_error_iff, firstFailure_singleton]
  constructor
  · rintro ⟨front, r, back, rfl, hfront, hr⟩
    refine ⟨front, r, back, rfl, fun q hq => ?_, ?_⟩
    · exact (Rule.value_isOk_iff (hplain q (by simp [hq]))).mp (hfront q hq)
    · exact (Rule.value_eq_error_iff (hplain r (by simp))).mp hr
  · rintro ⟨front, r, back, rfl, hfront, hr⟩
    refine ⟨front, r, back, rfl, fun q hq => ?_, ?_⟩
    · exact (Rule.value_isOk_iff (hplain q (by simp [hq]))).mpr (hfront q hq)
    · exact (Rule.value_eq_error_iff (hplain r (by simp))).mpr hr

/-- Without an error each of them makes something of it. -/
theorem values_isOk_iff (hplain : ∀ r ∈ rules, r.Plain) :
    (∃ values, rules.mapM (Reading.value candidate) = .ok values) ↔
      Decodes rules [candidate] := by
  rw [mapM_isOk_iff]
  constructor
  · intro h other hother r hr
    obtain rfl := List.mem_singleton.mp hother
    exact (Rule.value_isOk_iff (hplain r hr)).mp (h r hr)
  · intro h r hr
    exact (Rule.value_isOk_iff (hplain r hr)).mpr (h candidate List.mem_cons_self r hr)

/-! ## Pieces in order -/

theorem ofPiece_of_none {piece : Piece} (h : piece.candidate? = none) :
    Reading.ofPiece rules piece = .ok ⟨piece, []⟩ := by
  simp [Reading.ofPiece, h]

theorem ofPiece_of_some {piece : Piece} (h : piece.candidate? = some candidate) :
    Reading.ofPiece rules piece =
      (rules.mapM (Reading.value candidate)).map (⟨piece, ·⟩) := by
  simp [Reading.ofPiece, h]

/-- A piece is read without an error if its candidate is. -/
theorem ofPiece_isOk_iff (hplain : ∀ r ∈ rules, r.Plain) {piece : Piece} :
    (∃ reading, Reading.ofPiece rules piece = .ok reading) ↔
      ∀ candidate ∈ piece.candidate?, Decodes rules [candidate] := by
  cases hcandidate : piece.candidate? with
  | none => simp [ofPiece_of_none hcandidate]
  | some candidate =>
    rw [ofPiece_of_some hcandidate]
    simp [map_eq_ok_iff, ← values_isOk_iff hplain]

/-- All pieces are read without an error if all candidates are. -/
theorem readings_isOk_iff (hplain : ∀ r ∈ rules, r.Plain) {pieces : List Piece} :
    (∃ readings, pieces.mapM (Reading.ofPiece rules) = .ok readings) ↔
      Decodes rules (pieces.filterMap Piece.candidate?) := by
  rw [mapM_isOk_iff]
  simp only [ofPiece_isOk_iff hplain]
  constructor
  · intro h candidate hcandidate
    obtain ⟨piece, hpiece, hsome⟩ := List.mem_filterMap.mp hcandidate
    exact h piece hpiece candidate hsome candidate List.mem_cons_self
  · intro h piece hpiece candidate hsome other hother
    obtain rfl := List.mem_singleton.mp hother
    exact h other (List.mem_filterMap.mpr ⟨piece, hpiece, hsome⟩)

/-- Otherwise the first error of the candidates is reported. -/
theorem readings_eq_error_iff (hplain : ∀ r ∈ rules, r.Plain) {pieces : List Piece} {e : Error} :
    pieces.mapM (Reading.ofPiece rules) = .error e ↔
      FirstFailure rules (pieces.filterMap Piece.candidate?) e := by
  induction pieces with
  | nil =>
    rw [List.mapM_nil]
    constructor
    · intro h
      cases h
    · intro h
      generalize hnone : [].filterMap Piece.candidate? = candidates at h
      cases h with
      | intro earlier ahead fails => simp at hnone
  | cons piece pieces ih =>
    -- The head fails, or it is read and a later piece fails.
    have hsteps : (piece :: pieces).mapM (Reading.ofPiece rules) = .error e ↔
        Reading.ofPiece rules piece = .error e ∨
          (∃ reading, Reading.ofPiece rules piece = .ok reading) ∧
            FirstFailure rules (pieces.filterMap Piece.candidate?) e := by
      rw [List.mapM_cons, bind_eq_error_iff]
      simp [bind_eq_error_iff, ih, pure, Except.pure]
    rw [hsteps, ofPiece_isOk_iff hplain]
    cases hcandidate : piece.candidate? with
    | none => simp [ofPiece_of_none hcandidate, hcandidate]
    | some candidate =>
      rw [List.filterMap_cons_some hcandidate, firstFailure_cons, ofPiece_of_some hcandidate,
        map_eq_error_iff, values_eq_error_iff hplain]
      simp

/-! ## Slots -/

/-- The values of one more candidate are written to the slots. -/
theorem endsWith_commit (hplain : ∀ r ∈ rules, r.Plain) {slots : List Slot}
    (hslots : List.Forall₂ (fun r slot => r.EndsWith candidates slot) rules slots) {piece : Piece}
    {values : List (Option Slot)}
    (hvalues : rules.mapM (Reading.value candidate) = .ok values) :
    List.Forall₂ (fun r slot => r.EndsWith (candidates ++ [candidate]) slot) rules
      (Reading.commit slots ⟨piece, values⟩) := by
  rw [mapM_eq_ok_iff] at hvalues
  induction hslots generalizing values with
  | nil =>
    cases hvalues
    exact .nil
  | @cons r slot rules slots hr hrest ih =>
    obtain ⟨new?, more, hnew, hmore, rfl⟩ := List.forall₂_cons_left_iff.mp hvalues
    obtain ⟨hfirst, hothers⟩ := List.forall_mem_cons.mp hplain
    exact .cons (hr.concat hfirst hnew) (ih hothers hmore)

/-- The values of more pieces are written to the slots. -/
theorem endsWith_readings (hplain : ∀ r ∈ rules, r.Plain) {slots : List Slot}
    (hslots : List.Forall₂ (fun r slot => r.EndsWith candidates slot) rules slots)
    {pieces : List Piece} {readings : List Reading}
    (hreadings : pieces.mapM (Reading.ofPiece rules) = .ok readings) :
    List.Forall₂
      (fun r slot => r.EndsWith (candidates ++ pieces.filterMap Piece.candidate?) slot) rules
      (readings.foldl Reading.commit slots) := by
  rw [mapM_eq_ok_iff] at hreadings
  induction hreadings generalizing candidates slots with
  -- Induction over the pieces, with the slots as the pieces before have left them.
  | nil => simpa using hslots
  | @cons piece reading pieces readings hreading hrest ih =>
    rw [List.foldl_cons]
    cases hcandidate : piece.candidate? with
    | none =>
      rw [ofPiece_of_none hcandidate] at hreading
      cases hreading
      rw [List.filterMap_cons_none hcandidate]
      have hsame : Reading.commit slots ⟨piece, []⟩ = slots := by simp [Reading.commit]
      rw [hsame]
      exact ih hslots
    | some candidate =>
      rw [ofPiece_of_some hcandidate, map_eq_ok_iff] at hreading
      obtain ⟨values, hvalues, rfl⟩ := hreading
      rw [List.filterMap_cons_some hcandidate, List.append_cons]
      exact ih (endsWith_commit hplain hslots hvalues)

end HostedFs.Options
