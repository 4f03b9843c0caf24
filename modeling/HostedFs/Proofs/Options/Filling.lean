import HostedFs.Options.Parse

/-! # Slots that are filled

    The slots are the state of `fill`, and it writes them last. So they are untouched if
    it fails, and what it comes to can be said without a state.

    * `parseScan`, `parse_eq`: the steps of `parse`.
    * `run_fill`: the result and the slots that `fill` leaves, by what `parse` gives.
-/

namespace HostedFs.Options

variable {format : String} {slots : List Slot} {args : List String}

/-- A scanned command line, read by rules. -/
def parseScan (rules : List Rule) (scan : Scan) : Except Error Parsed := do
  let readings ← readScan rules scan
  return ⟨leftover rules.isEmpty readings scan.ending,
    readings.foldl Reading.commit (rules.map Rule.slot)⟩

/-- A command line, read by the templates of a format. -/
def parseSteps (format : String) (slots : List Slot) (args : List String) :
    Except Error Parsed := do
  let templates ← Template.parseFormat format
  if templates.length ≠ slots.length then
    throw (.arity templates.length slots.length)
  parseScan (templates.zipWith Rule.mk slots) (Scan.ofArgs args)

/-- The result and the slots that belong to an outcome: a failure leaves them as they are. -/
def outcome (slots : List Slot) : Except Error Parsed → Except Error (List String) × List Slot
  | .ok parsed => (.ok parsed.rest, parsed.slots)
  | .error e => (.error e, slots)

theorem outcome_eq_error_iff {result : Except Error Parsed} {e : Error} {after : List Slot} :
    outcome slots result = (.error e, after) ↔ result = .error e ∧ after = slots := by
  cases result with
  | error e' => simp [outcome, eq_comm]
  | ok parsed => simp [outcome]

theorem outcome_eq_ok_iff {result : Except Error Parsed} {rest : List String}
    {after : List Slot} :
    outcome slots result = (.ok rest, after) ↔ result = .ok ⟨rest, after⟩ := by
  cases result with
  | error e => simp [outcome]
  | ok parsed =>
    obtain ⟨left, filled⟩ := parsed
    simp [outcome]

/-- An attempt that does not touch the slots either goes on or fails with them as they are. -/
theorem run_liftM_bind {α β : Type} (x : Except Error α) (next : α → Filling β)
    (slots : List Slot) :
    ((liftM x : Filling α) >>= next).run.run slots =
      match x with
      | .ok a => (next a).run.run slots
      | .error e => (.error e, slots) := by
  cases x with
  | error e => rfl
  | ok a => rfl

/-- Writing the slots does not fail. -/
theorem run_forM_commit {α : Type} (readings : List Reading) (a : α) (slots : List Slot) :
    (do
      readings.forM fun reading => (modify (Reading.commit · reading) : Filling Unit)
      return a : Filling α).run.run slots = (.ok a, readings.foldl Reading.commit slots) := by
  induction readings generalizing slots with
  | nil => rfl
  | cons reading readings ih => exact ih (Reading.commit slots reading)

/-- Each slot belongs to one rule. -/
theorem map_slot_zipWith {templates : List Template} (h : templates.length = slots.length) :
    (templates.zipWith Rule.mk slots).map Rule.slot = slots := by
  apply List.ext_getElem
  · simp [h]
  · intro i hi hi'
    simp

section Steps

variable {templates : List Template} {e : Error}

theorem parseSteps_of_error (h : Template.parseFormat format = .error e) :
    parseSteps format slots args = .error e := by
  simp [parseSteps, h, bind, Except.bind]

theorem parseSteps_of_ne (h : Template.parseFormat format = .ok templates)
    (hlength : templates.length ≠ slots.length) :
    parseSteps format slots args = .error (.arity templates.length slots.length) := by
  simp [parseSteps, h, hlength, bind, Except.bind, throw, throwThe, MonadExceptOf.throw]

theorem parseSteps_of_eq (h : Template.parseFormat format = .ok templates)
    (hlength : templates.length = slots.length) :
    parseSteps format slots args =
      parseScan (templates.zipWith Rule.mk slots) (Scan.ofArgs args) := by
  simp [parseSteps, h, hlength, bind, Except.bind]

end Steps

/-- What `fill` comes to, in the steps that it takes. -/
theorem run_fill_eq (format : String) (slots : List Slot) (args : List String) :
    (fill format args).run.run slots = outcome slots (parseSteps format slots args) := by
  show ((liftM (Template.parseFormat format) : Filling (List Template)) >>= _).run.run slots = _
  rw [run_liftM_bind]
  -- The slots are written last: whatever fails before, `fill` hands back the ones it was given.
  cases hformat : Template.parseFormat format with
  | error e =>
    rw [parseSteps_of_error hformat]
    rfl
  | ok templates =>
    dsimp only
    by_cases hlength : templates.length = slots.length
    · have hslots := map_slot_zipWith hlength
      rw [parseSteps_of_eq hformat hlength, if_neg (fun h => h hlength), run_liftM_bind]
      unfold parseScan
      cases readScan (templates.zipWith Rule.mk slots) (Scan.ofArgs args) with
      | error e => rfl
      | ok readings =>
        dsimp only
        rw [run_forM_commit]
        show _ = outcome slots (.ok ⟨_, _⟩)
        rw [hslots]
        rfl
    · rw [parseSteps_of_ne hformat hlength, if_pos hlength]
      rfl

/-- The steps of `parse`. -/
theorem parse_eq (format : String) (slots : List Slot) (args : List String) :
    parse format slots args = parseSteps format slots args := by
  unfold parse
  rw [run_fill_eq]
  cases parseSteps format slots args with
  | error e => rfl
  | ok parsed => rfl

/-- The result and the slots that `fill` leaves are those of `parse`, and if it fails the
    slots are what they were. -/
theorem run_fill (format : String) (slots : List Slot) (args : List String) :
    (fill format args).run.run slots = outcome slots (parse format slots args) := by
  rw [run_fill_eq, parse_eq]

end HostedFs.Options
