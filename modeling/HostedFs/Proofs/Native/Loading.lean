import HostedFs.Native.Library
import Mathlib.Data.List.Basic

/-! # The library is looked for once

    Calls that need the library and calls that only ask for what is there follow one
    another in any order, and what is installed may be different at each of them. The
    first call that needs the library decides for all of them.

    * `Looked`: what comes of trying candidates in order.
    * `Use`, `Reply`, `history`: calls one after another, with what was installed when
      they were made.
    * `Settled`: what the first call that needed the library has found.
    * `history_decided_once`: every history goes by that.
-/

namespace HostedFs.Native

/-! ## Candidates -/

/-- What comes of trying candidates in order: those that were to be opened, and the
    answer. -/
inductive Looked (i : Installation) :
    List String → List String → Except HostError Library → Prop
  /-- None of them opens. All were tried, and all are listed. -/
  | missing {names : List String} (closed : ∀ name ∈ names, i.symbols name = none) :
      Looked i names names (.error (.libraryNotFound names))
  /-- The first that opens has all entry points. -/
  | complete {before after symbols : List String} {name : String}
      (closed : ∀ other ∈ before, i.symbols other = none) (opens : i.symbols name = some symbols)
      (all : ∀ symbol ∈ requiredSymbols, symbol ∈ symbols) :
      Looked i (before ++ name :: after) (before ++ [name]) (.ok ⟨name⟩)
  /-- The first that opens lacks one. Those after it are not tried for that. -/
  | incomplete {before after symbols present others : List String} {name symbol : String}
      (closed : ∀ other ∈ before, i.symbols other = none) (opens : i.symbols name = some symbols)
      (split : requiredSymbols = present ++ symbol :: others)
      (has : ∀ earlier ∈ present, earlier ∈ symbols) (lacks : symbol ∉ symbols) :
      Looked i (before ++ name :: after) (before ++ [name]) (.error (.missingSymbol name symbol))

/-- A candidate that opens is taken into use, or the first entry point that it lacks
    is named. -/
theorem looked_bind {i : Installation} {before after symbols : List String} {name : String}
    (closed : ∀ other ∈ before, i.symbols other = none) (opens : i.symbols name = some symbols) :
    Looked i (before ++ name :: after) (before ++ [name]) (bind name symbols) := by
  unfold bind
  cases hfind : requiredSymbols.find? fun symbol => symbol ∉ symbols with
  | none =>
    refine .complete closed opens ?_
    intro symbol hsymbol
    simpa using List.find?_eq_none.mp hfind symbol hsymbol
  | some symbol =>
    obtain ⟨hlacks, present, others, hsplit, hpresent⟩ := List.find?_eq_some_iff_append.mp hfind
    have hhas : ∀ earlier ∈ present, earlier ∈ symbols := by
      intro earlier hearlier
      simpa using hpresent earlier hearlier
    exact .incomplete closed opens hsplit hhas (by simpa using hlacks)

/-- One that opens ends the search. -/
theorem lookThrough_cons_of_some {i : Installation} {name : String} {symbols : List String}
    (h : i.symbols name = some symbols) (all names : List String) (d : Doings) :
    (lookThrough i all (name :: names)).run d =
      (bind name symbols,
        { opened := d.opened ++ [name], events := d.events ++ [.libraryLoaded name] }) := by
  simp only [lookThrough, tryOpen, report, h]
  rfl

/-- One that does not is left behind. -/
theorem lookThrough_cons_of_none {i : Installation} {name : String} (h : i.symbols name = none)
    (all names : List String) (d : Doings) :
    (lookThrough i all (name :: names)).run d =
      (lookThrough i all names).run
        { opened := d.opened ++ [name]
          events := d.events ++ [.candidateRejected name (notThere name)] } := by
  simp only [lookThrough, tryOpen, report, h]
  rfl

/-- The rest of all candidates, when those ahead of it did not open. -/
theorem lookThrough_looked {i : Installation} {tried : List String} (names : List String)
    {d : Doings} (closed : ∀ name ∈ tried, i.symbols name = none) (h : d.opened = tried) :
    Looked i (tried ++ names) ((lookThrough i (tried ++ names) names).run d).2.opened
      ((lookThrough i (tried ++ names) names).run d).1 := by
  -- What was tried already is both what was opened so far and the front of all.
  induction names generalizing tried d with
  | nil =>
    show Looked i (tried ++ []) d.opened (.error (.libraryNotFound (tried ++ [])))
    rw [h, List.append_nil]
    exact .missing closed
  | cons name names ih =>
    cases hname : i.symbols name with
    | some symbols =>
      rw [lookThrough_cons_of_some hname, h]
      exact looked_bind closed hname
    | none =>
      have hclosed : ∀ other ∈ tried ++ [name], i.symbols other = none := by
        intro other hother
        rcases List.mem_append.mp hother with hother | hother
        · exact closed other hother
        · rw [List.mem_singleton.mp hother, hname]
      rw [lookThrough_cons_of_none hname, List.append_cons]
      apply ih hclosed
      rw [h]

/-- The candidates are those of the installation. -/
theorem find_looked (i : Installation) : Looked i (candidates i) (find i).2.opened (find i).1 := by
  have hnone : ∀ name ∈ ([] : List String), i.symbols name = none := by simp
  exact lookThrough_looked (candidates i) hnone rfl

/-- The first candidate that opens decides alone. -/
theorem Looked.answer {i : Installation} {names opened : List String}
    {result : Except HostError Library} (h : Looked i names opened result) :
    result =
      match names.find? fun name => (i.symbols name).isSome with
      | none => .error (.libraryNotFound names)
      | some name => bind name ((i.symbols name).getD []) := by
  -- `find?` stops at the first candidate that opens, which `Looked` names.
  have hfirst {before after symbols : List String} {name : String}
      (closed : ∀ other ∈ before, i.symbols other = none)
      (opens : i.symbols name = some symbols) :
      (before ++ name :: after).find? (fun name => (i.symbols name).isSome) = some name := by
    refine List.find?_eq_some_iff_append.mpr ⟨by rw [opens]; rfl, before, after, rfl, ?_⟩
    intro other hother
    rw [closed other hother]
    rfl
  cases h with
  | missing closed =>
    have hnone : names.find? (fun name => (i.symbols name).isSome) = none := by
      rw [List.find?_eq_none]
      intro name hname
      rw [closed name hname]
      exact Bool.false_ne_true
    rw [hnone]
  | @complete before after symbols name closed opens all =>
    have hlacking : requiredSymbols.find? (fun symbol => symbol ∉ symbols) = none := by
      rw [List.find?_eq_none]
      intro symbol hsymbol
      simpa using all symbol hsymbol
    simp only [hfirst closed opens, opens, Option.getD_some, bind, hlacking]
  | @incomplete before after symbols present others name symbol closed opens split has lacks =>
    have hlacking : requiredSymbols.find? (fun symbol => symbol ∉ symbols) = some symbol := by
      refine List.find?_eq_some_iff_append.mpr ⟨by simpa using lacks, present, others, split, ?_⟩
      intro earlier hearlier
      simpa using has earlier hearlier
    simp only [hfirst closed opens, opens, Option.getD_some, bind, hlacking]

/-- Candidates come to one answer. -/
theorem Looked.unique {i : Installation} {names opened opened' : List String}
    {result result' : Except HostError Library} (h : Looked i names opened result)
    (h' : Looked i names opened' result') : result = result' :=
  h.answer.trans h'.answer.symm

/-! ## Calls -/

/-- A call that has to do with the library. What the library itself then does is up to
    the call. -/
inductive Use
  | load
  /-- Asks for the library only if it is in use. -/
  | loaded
  | prepare
  | run (main : Library → Int32)
  | unmount (primitive : Library → Bool)
  | notify

/-- The call needs the library, so that it is looked for if nobody has done so. -/
def Use.needsLibrary : Use → Bool
  | .load | .prepare | .run _ => true
  | .loaded | .unmount _ | .notify => false

/-- What a call answers. -/
inductive Reply
  | library (result : Except HostError Library)
  | inUse (library : Option Library)
  | prepared (failure : Option HostError)
  | ended (status : Int32)
  | unmounted (done : Bool)
  | notified (done : Bool)
  deriving DecidableEq

/-- What comes of a call by what is known of the library and what is installed. -/
def Use.answer (i : Installation) (c : Cell) : Use → Reply × Cell × Doings
  | .load => (.library (c.load i).1, (c.load i).2)
  | .loaded => (.inUse c.loaded, c, {})
  | .prepare => (.prepared (c.prepare i).1, (c.prepare i).2)
  | .run main => (.ended (c.run i main).1, (c.run i main).2)
  | .unmount primitive => (.unmounted (c.unmount primitive), c, {})
  | .notify => (.notified c.notify, c, {})

/-- A call that was made. -/
structure Made where
  /-- What was installed then. -/
  installation : Installation
  use : Use
  reply : Reply
  /-- The candidates that were to be opened, in order. -/
  opened : List String

/-- The call that is made by a use. -/
def Use.made (i : Installation) (c : Cell) (use : Use) : Made :=
  ⟨i, use, (use.answer i c).1, (use.answer i c).2.2.opened⟩

/-- Calls one after another. Anything may be installed at each of them. -/
def history : Cell → List (Installation × Use) → List Made
  | _, [] => []
  | c, (i, use) :: later => use.made i c :: history (use.answer i c).2.1 later

/-! ## What was found -/

/-- A call that needs the library answers by what was found. -/
inductive Made.Finds : Made → Except HostError Library → Prop
  | load {i : Installation} {opened : List String} {result : Except HostError Library} :
      Finds ⟨i, .load, .library result, opened⟩ result
  | prepared {i : Installation} {opened : List String} {library : Library} :
      Finds ⟨i, .prepare, .prepared none, opened⟩ (.ok library)
  | unprepared {i : Installation} {opened : List String} {e : HostError} :
      Finds ⟨i, .prepare, .prepared (some e), opened⟩ (.error e)
  /-- The event loop of the library has run. -/
  | ran {i : Installation} {opened : List String} {main : Library → Int32} {library : Library} :
      Finds ⟨i, .run main, .ended (main library), opened⟩ (.ok library)
  /-- There was none to run. -/
  | idle {i : Installation} {opened : List String} {main : Library → Int32} {e : HostError} :
      Finds ⟨i, .run main, .ended Cell.cannotRun, opened⟩ (.error e)

/-- The first of some calls that needed the library has found this. -/
inductive Settled : List Made → Except HostError Library → Prop
  | intro {before between : List Made} {first : Made} {result : Except HostError Library}
      (unneeded : ∀ earlier ∈ before, earlier.use.needsLibrary = false)
      (needs : first.use.needsLibrary = true)
      (looked : Looked first.installation
        (first.installation.preferred.toList ++ ["libfuse.so.2", "libfuse.so"]) first.opened
        result) :
      Settled (before ++ first :: between) result

/-- Only one thing was found. -/
theorem Settled.unique {calls : List Made} {result result' : Except HostError Library}
    (h : Settled calls result) (h' : Settled calls result') : result = result' := by
  have hfirst {calls : List Made} {result : Except HostError Library} (h : Settled calls result) :
      ∃ first, calls.find? (fun call => call.use.needsLibrary) = some first ∧
        Looked first.installation (candidates first.installation) first.opened result := by
    cases h with
    | @intro before between first _ unneeded needs looked =>
      refine ⟨first, List.find?_eq_some_iff_append.mpr ⟨needs, before, between, rfl, ?_⟩, looked⟩
      intro earlier hearlier
      rw [unneeded earlier hearlier]
      rfl
  obtain ⟨first, hfind, hlooked⟩ := hfirst h
  obtain ⟨first', hfind', hlooked'⟩ := hfirst h'
  obtain rfl : first = first' := Option.some.inj (hfind.symm.trans hfind')
  exact hlooked.unique hlooked'

/-- Later calls change nothing about it. -/
theorem Settled.append {calls : List Made} {result : Except HostError Library}
    (h : Settled calls result) (later : List Made) : Settled (calls ++ later) result := by
  cases h with
  | @intro before between first _ unneeded needs looked =>
    rw [List.append_assoc, List.cons_append]
    exact .intro unneeded needs looked

/-- A `Settled` history holds a call that `needsLibrary`: the first one of them looked. -/
theorem Settled.exists_needs {calls : List Made} {result : Except HostError Library}
    (h : Settled calls result) : ∃ call ∈ calls, call.use.needsLibrary = true := by
  cases h with
  | @intro before between first _ unneeded needs looked => exact ⟨first, by simp, needs⟩

/-! ## One call -/

variable {i : Installation} {c : Cell} {use : Use} {past : List Made}

theorem load_of_found {result : Except HostError Library} (h : c.found = some result) :
    c.load i = (result, c, {}) := by
  simp [Cell.load, h]

theorem load_of_unknown (h : c.found = none) :
    c.load i = ((find i).1, ⟨some (find i).1⟩, (find i).2) := by
  simp [Cell.load, h]

/-- The answer is kept. -/
theorem found_load (i : Installation) (c : Cell) : (c.load i).2.1.found = some (c.load i).1 := by
  cases h : c.found with
  | none => rw [load_of_unknown h]
  | some result => rw [load_of_found h, h]

theorem loaded_eq_some_iff {library : Library} :
    c.loaded = some library ↔ c.found = some (.ok library) := by
  unfold Cell.loaded
  split
  next other h => simp [h]
  next h =>
    constructor
    · intro hnone
      cases hnone
    · intro hfound
      exact absurd hfound (h library)

/-- A call that needs the library does with it what loading it does. -/
theorem finds_of_needs (h : use.needsLibrary = true) :
    (use.made i c).Finds (c.load i).1 ∧ (use.answer i c).2 = (c.load i).2 := by
  cases use with
  | load => exact ⟨.load, rfl⟩
  | prepare =>
    unfold Use.made Use.answer Cell.prepare
    obtain ⟨result, c', doings⟩ := c.load i
    cases result with
    | ok library => exact ⟨.prepared, rfl⟩
    | error e => exact ⟨.unprepared, rfl⟩
  | run main =>
    unfold Use.made Use.answer Cell.run
    obtain ⟨result, c', doings⟩ := c.load i
    cases result with
    | ok library => exact ⟨.ran, rfl⟩
    | error e => exact ⟨.idle, rfl⟩
  | loaded | unmount | notify => cases h

/-- Any other call leaves all as it is. -/
theorem answer_of_spare (h : use.needsLibrary = false) : (use.answer i c).2 = (c, {}) := by
  cases use with
  | load | prepare | run => cases h
  | loaded | unmount | notify => rfl

/-- What is known of the library is what past calls have found. -/
def Knows (past : List Made) (c : Cell) : Prop :=
  match c.found with
  | none => ∀ earlier ∈ past, earlier.use.needsLibrary = false
  | some result => Settled past result

theorem Knows.settled_iff (h : Knows past c) {result : Except HostError Library} :
    Settled past result ↔ c.found = some result := by
  unfold Knows at h
  cases hfound : c.found with
  | none =>
    rw [hfound] at h
    constructor
    · intro hsettled
      obtain ⟨call, hcall, hneeds⟩ := hsettled.exists_needs
      cases hneeds.symm.trans (h call hcall)
    · intro hsome
      cases hsome
  | some known =>
    rw [hfound] at h
    constructor
    · intro hsettled
      rw [h.unique hsettled]
    · intro hsome
      exact Option.some.inj hsome ▸ h

/-- Only the first call that needs the library opens candidates. -/
theorem Knows.opened (h : Knows past c) (hopened : (use.made i c).opened ≠ []) :
    use.needsLibrary = true ∧ ∀ earlier ∈ past, earlier.use.needsLibrary = false := by
  have hmade : (use.made i c).opened = (use.answer i c).2.2.opened := rfl
  cases hneeds : use.needsLibrary with
  | false =>
    rw [hmade, answer_of_spare hneeds] at hopened
    exact absurd rfl hopened
  | true =>
    rw [hmade, (finds_of_needs hneeds).2] at hopened
    unfold Knows at h
    cases hfound : c.found with
    | none =>
      rw [hfound] at h
      exact ⟨rfl, h⟩
    | some result =>
      rw [load_of_found hfound] at hopened
      exact absurd rfl hopened

/-- What is known after a call is what was found up to it. -/
theorem knows_made (h : Knows past c) (i : Installation) (use : Use) :
    Knows (past ++ [use.made i c]) (use.answer i c).2.1 := by
  cases hneeds : use.needsLibrary with
  | false =>
    -- The call leaves the cell alone, and joins those that needed nothing.
    rw [answer_of_spare hneeds]
    unfold Knows at h ⊢
    cases hfound : c.found with
    | none =>
      rw [hfound] at h
      intro earlier hearlier
      rcases List.mem_append.mp hearlier with hearlier | hearlier
      · exact h earlier hearlier
      · rw [List.mem_singleton.mp hearlier]
        exact hneeds
    | some result =>
      rw [hfound] at h
      exact h.append _
  | true =>
    unfold Knows at h ⊢
    have hmade : (use.made i c).opened = (c.load i).2.2.opened :=
      congrArg (fun out : Cell × Doings => out.2.opened) (finds_of_needs hneeds).2
    -- The call looks into the cell, and fills it if it is empty.
    rw [(finds_of_needs hneeds).2, found_load]
    cases hfound : c.found with
    | none =>
      rw [hfound] at h
      refine .intro h hneeds ?_
      rw [hmade, load_of_unknown hfound]
      exact find_looked i
    | some result =>
      rw [hfound] at h
      rw [load_of_found hfound]
      exact h.append _

/-! ## Calls one after another -/

/-- A call of a history was made with what was known by then. -/
theorem history_split {uses : List (Installation × Use)} {before after : List Made} {call : Made}
    (h : Knows past c) (hsplit : history c uses = before ++ call :: after) :
    ∃ (c' : Cell) (i : Installation) (use : Use) (later : List (Installation × Use)),
      Knows (past ++ before) c' ∧ call = use.made i c' ∧
        after = history (use.answer i c').2.1 later := by
  induction before generalizing past c uses with
  | nil =>
    cases uses with
    | nil => cases hsplit
    | cons first later =>
      obtain ⟨hcall, hafter⟩ := List.cons.inj hsplit
      exact ⟨c, first.1, first.2, later, by simpa using h, hcall.symm, hafter.symm⟩
  | cons earlier before ih =>
    cases uses with
    | nil => cases hsplit
    | cons first later =>
      obtain ⟨rfl, hrest⟩ := List.cons.inj hsplit
      rw [List.append_cons]
      exact ih (knows_made h first.1 first.2) hrest

/-- Once something is known of the library, it is what every call finds. -/
theorem finds_of_found {result : Except HostError Library} (h : c.found = some result)
    (uses : List (Installation × Use)) :
    ∀ call ∈ history c uses, call.use.needsLibrary = true → call.Finds result := by
  induction uses generalizing c with
  | nil => simp [history]
  | cons first later ih =>
    obtain ⟨i, use⟩ := first
    intro call hcall hneeds
    rcases List.mem_cons.mp hcall with rfl | hcall
    · have hfinds := (finds_of_needs (i := i) (c := c) hneeds).1
      rw [load_of_found h] at hfinds
      exact hfinds
    · have hkept : (use.answer i c).2.1.found = some result := by
        cases hspare : use.needsLibrary with
        | false => rw [answer_of_spare hspare, h]
        | true => rw [(finds_of_needs hspare).2, load_of_found h, h]
      exact ih hkept call hcall hneeds

/-- The library is looked for once, and that decides. -/
structure DecidedOnce (calls : List Made) : Prop where
  /-- No call opens candidates but the first that needs the library. -/
  opened : ∀ before call after, calls = before ++ call :: after → call.opened ≠ [] →
    call.use.needsLibrary = true ∧ ∀ earlier ∈ before, earlier.use.needsLibrary = false
  /-- What that one finds is found by every call that needs the library. -/
  found : ∀ before call after, calls = before ++ call :: after →
    call.use.needsLibrary = true → ∃ result, Settled (before ++ [call]) result ∧
      call.Finds result ∧ ∀ later ∈ after, later.use.needsLibrary = true → later.Finds result
  /-- The library is in use from then on if it was found. -/
  inUse : ∀ before call after library, calls = before ++ call :: after → call.use = .loaded →
    (call.reply = .inUse (some library) ↔ Settled before (.ok library))
  /-- Only then is it asked to unmount. -/
  unmounted : ∀ before call after primitive, calls = before ++ call :: after →
    call.use = .unmount primitive →
    (call.reply = .unmounted true ↔
      ∃ library, Settled before (.ok library) ∧ primitive library = true)
  /-- Once prepared for, every event loop is that of the library. -/
  runs : ∀ before call after, calls = before ++ call :: after → call.use = .prepare →
    call.reply = .prepared none → ∃ library, Settled (before ++ [call]) (.ok library) ∧
      ∀ later ∈ after, ∀ main, later.use = .run main → later.reply = .ended (main library)

/-- What every call that needs the library finds. -/
theorem exists_found {uses : List (Installation × Use)} {before after : List Made} {call : Made}
    (hsplit : history {} uses = before ++ call :: after) (hneeds : call.use.needsLibrary = true) :
    ∃ result, Settled (before ++ [call]) result ∧ call.Finds result ∧
      ∀ later ∈ after, later.use.needsLibrary = true → later.Finds result := by
  have hstart : Knows [] {} := by simp [Knows]
  obtain ⟨c, i, use, later, hknows, rfl, rfl⟩ := history_split hstart hsplit
  have hneeds : use.needsLibrary = true := hneeds
  have hfound : (use.answer i c).2.1.found = some (c.load i).1 := by
    rw [(finds_of_needs hneeds).2, found_load]
  have hsettled := (knows_made hknows i use).settled_iff.mpr hfound
  exact ⟨(c.load i).1, hsettled, (finds_of_needs hneeds).1, finds_of_found hfound later⟩

/-- The history of any calls, under whatever installations, begins with the empty `Cell` and is
    `DecidedOnce`: the candidates are opened in one call at most, and what is found there answers
    `loaded`, `unmount`, `prepare` and `run` in all later calls. -/
theorem history_decided_once (uses : List (Installation × Use)) :
    DecidedOnce (history {} uses) := by
  -- `Knows` says what the cell holds after each call; every part reads it off there.
  have hstart : Knows [] {} := by simp [Knows]
  refine ⟨?_, fun before call after hsplit hneeds => exists_found hsplit hneeds, ?_, ?_, ?_⟩
  · intro before call after hsplit hopened
    obtain ⟨c, i, use, later, hknows, rfl, -⟩ := history_split hstart hsplit
    exact hknows.opened hopened
  · intro before call after library hsplit huse
    obtain ⟨c, i, use, later, hknows, rfl, -⟩ := history_split hstart hsplit
    obtain rfl : use = .loaded := huse
    have hreply : (Use.loaded.made i c).reply = .inUse c.loaded := rfl
    rw [hreply, Reply.inUse.injEq, loaded_eq_some_iff]
    exact hknows.settled_iff.symm
  · intro before call after primitive hsplit huse
    obtain ⟨c, i, use, later, hknows, rfl, -⟩ := history_split hstart hsplit
    obtain rfl : use = .unmount primitive := huse
    have hreply : ((Use.unmount primitive).made i c).reply = .unmounted (c.unmount primitive) := rfl
    rw [hreply, Reply.unmounted.injEq]
    -- The primitive is called on the library that was settled, if one was.
    simp only [List.nil_append] at hknows
    simp only [hknows.settled_iff, ← loaded_eq_some_iff, Cell.unmount]
    cases c.loaded with
    | none => simp
    | some library => simp
  · intro before call after hsplit huse hprepared
    have hneeds : call.use.needsLibrary = true := by rw [huse]; rfl
    obtain ⟨result, hsettled, hfinds, hlater⟩ := exists_found hsplit hneeds
    cases hfinds with
    | load | ran | idle => cases huse
    | unprepared => cases hprepared
    | @prepared i opened library =>
      -- A call that is prepared has its library, and the loop of a later one runs on the same.
      refine ⟨library, hsettled, ?_⟩
      intro later hmem main hrun
      have hran := hlater later hmem (by rw [hrun]; rfl)
      obtain ⟨i', use', reply', opened'⟩ := later
      obtain rfl : use' = .run main := hrun
      cases hran with
      | ran => rfl

/-- A library without its entry points stays the answer, whatever is installed later. -/
example :
    (history {}
        [(⟨none, fun name => if name = "libfuse.so.2" then some [] else some requiredSymbols⟩,
            .load),
          (⟨some "/opt/libfuse.so.2", fun _ => some requiredSymbols⟩, .prepare),
          (⟨some "/opt/libfuse.so.2", fun _ => some requiredSymbols⟩, .loaded)]).map
        (fun call => (call.reply, call.opened)) =
      [(.library (.error (.missingSymbol "libfuse.so.2" "fuse_main_real")), ["libfuse.so.2"]),
        (.prepared (some (.missingSymbol "libfuse.so.2" "fuse_main_real")), []),
        (.inUse none, [])] := by
  decide

end HostedFs.Native
