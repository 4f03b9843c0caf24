import HostedFs.Proofs.Attempts
import HostedFs.Proofs.Request.Outcomes

/-! # Filling a directory listing

    While a directory is listed the implementation offers entries one by one, and may
    go on after it was told that there is no room. The native side is given those
    whose name can be passed on, up to the first that it refuses.

    * `Records`: what a request for metadata stores of a file.
    * `Offered.Passes`: an offer and the entry that the native side is given for it.
    * `Filled`: offers with their answers, and the entries that were given; `offer` is
      the step that keeps it.
    * `Lists`, `serve_lists`: so is every request for a listing served.
-/

namespace HostedFs

variable {σ : Type} {granted : Capabilities} {sink : DirSink}

/-! ## Entries -/

/-- The record is what a request for the metadata of a file stores of them, whatever
    was there before. -/
def Records (granted : Capabilities) (s : Stat) (record : PosixStat) : Prop :=
  ∀ {σ : Type} (srv : Server σ) (path : NativeText) (old : PosixStat) (state : σ) (p : String)
    (asked : List (Call.getattr p none).Prompt), srv.granted = granted →
    (Request.getattr path (some old)).log srv state = [⟨.getattr p none, asked, .ok s⟩] →
    ((Request.getattr path (some old)).serve srv state).memory = .stat (some record)

/-- The record of an entry is such a record. -/
theorem records_record (granted : Capabilities) (s : Stat) :
    Records granted s (Listing.record granted s) := by
  rintro σ srv path old state p asked rfl hlog
  cases hdecode : (Request.getattr path (some old)).decode with
  | error e =>
    rw [Request.log, serve_of_undecoded srv.recorded hdecode] at hlog
    cases hlog
  | ok job =>
    obtain ⟨record, q, hrecord, -, rfl⟩ := job_of_required hdecode
    cases hrecord
    -- A `getattr` of the same path stores the record that the listing passes on.
    have hjob : Ensures (fun log out => log = [⟨.getattr p none, asked, .ok s⟩] →
        out.2 = .stat (some (Listing.record srv.granted s)))
        (Job.run srv.recorded (.getattr q none old)) { state := (state, []) } := by
      refine .call fun asked' result next => ?_
      cases result with
      | ok s' =>
        refine .pure fun hlog => ?_
        cases hlog
        rfl
      | error f =>
        refine .pure fun hlog => ?_
        cases hlog
    obtain ⟨result, hmemory, -⟩ := serve_ensures srv hdecode state hjob
    exact hmemory hlog

/-- The name can be passed on. -/
def Offered.Nameable (o : Offered) : Prop :=
  0 ∉ Text.bytes o.name

instance (o : Offered) : Decidable o.Nameable :=
  inferInstanceAs (Decidable (_ ∉ _))

/-- What the native side is given for an offer: the name, the position as it is, and a
    record of the metadata or null. -/
structure Offered.Passes (granted : Capabilities) (o : Offered) (e : DirEntry) : Prop where
  name : e.name = Text.bytes o.name
  next : e.next = o.next
  bare : o.stat = none → e.stat = none
  recorded : ∀ s, o.stat = some s → ∃ record, e.stat = some record ∧ Records granted s record

/-- The entry that is made of an offer. -/
def Offered.entry (granted : Capabilities) (o : Offered) : DirEntry :=
  ⟨Text.bytes o.name, o.stat.map (Listing.record granted), o.next⟩

theorem passes_entry (granted : Capabilities) (o : Offered) :
    o.Passes granted (o.entry granted) where
  name := rfl
  next := rfl
  bare h := by rw [Offered.entry, h]; rfl
  recorded s h :=
    ⟨Listing.record granted s, by rw [Offered.entry, h]; rfl, records_record granted s⟩

/-! ## Offers -/

/-- All offers so far were accepted, and the native side took what it was given. -/
structure Accepting (granted : Capabilities) (sink : DirSink) (told : List (Offered × Bool))
    (entries : List DirEntry) : Prop where
  accepted : ∀ v ∈ told, v.2 = true
  /-- It was given those whose name can be passed on, in order. -/
  passed : List.Forall₂ (Offered.Passes granted)
    ((told.map Prod.fst).filter (·.Nameable)) entries
  /-- It took each of them as it came. -/
  taken : ∀ front, front ≠ [] → front <+: entries → sink front = 0

/-- A listing so far: the offers with their answers, the entries that the native side was
    given, and whether it has refused the last of them. -/
inductive Filled (granted : Capabilities) (sink : DirSink) :
    List (Offered × Bool) → List DirEntry → Bool → Prop
  | accepting {told : List (Offered × Bool)} {entries : List DirEntry}
      (h : Accepting granted sink told entries) : Filled granted sink told entries false
  /-- Once it has refused an entry it is given no more, and nothing is accepted. -/
  | refused {before after : List (Offered × Bool)} {o : Offered} {entries : List DirEntry}
      {last : DirEntry} (h : Accepting granted sink before entries) (nameable : o.Nameable)
      (passes : o.Passes granted last) (refuses : sink (entries ++ [last]) ≠ 0)
      (unasked : ∀ v ∈ after, v.2 = false) :
      Filled granted sink (before ++ (o, false) :: after) (entries ++ [last]) true

namespace Accepting

variable {told : List (Offered × Bool)} {entries : List DirEntry} {o : Offered} {e : DirEntry}

theorem nil : Accepting granted sink [] [] where
  accepted := by simp
  passed := .nil
  taken := by
    intro front hne hprefix
    exact absurd (List.prefix_nil.mp hprefix) hne

/-- A name that cannot be passed on is passed over. -/
theorem skip (h : Accepting granted sink told entries) (unnameable : ¬ o.Nameable) :
    Accepting granted sink (told ++ [(o, true)]) entries where
  accepted := List.forall_mem_append.mpr ⟨h.accepted, by simp⟩
  passed := by
    have hsame : ((told ++ [(o, true)]).map Prod.fst).filter (·.Nameable) =
        (told.map Prod.fst).filter (·.Nameable) := by
      simp [unnameable]
    rw [hsame]
    exact h.passed
  taken := h.taken

/-- Another entry is taken. -/
theorem take (h : Accepting granted sink told entries) (nameable : o.Nameable)
    (passes : o.Passes granted e) (takes : sink (entries ++ [e]) = 0) :
    Accepting granted sink (told ++ [(o, true)]) (entries ++ [e]) where
  accepted := List.forall_mem_append.mpr ⟨h.accepted, by simp⟩
  passed := by
    have hmore : ((told ++ [(o, true)]).map Prod.fst).filter (·.Nameable) =
        (told.map Prod.fst).filter (·.Nameable) ++ [o] := by
      simp [nameable]
    rw [hmore]
    exact List.rel_append h.passed (.cons passes .nil)
  taken := by
    intro front hne hprefix
    rcases List.prefix_concat_iff.mp hprefix with rfl | hprefix
    · exact takes
    · exact h.taken front hne hprefix

end Accepting

/-- One more offer: it is refused if one was refused before; a name that cannot be passed
    on is accepted; otherwise the native side decides. -/
theorem Filled.offer {told : List (Offered × Bool)} {l : Listing}
    (h : Filled granted sink told l.entries l.full) (o : Offered) :
    Filled granted sink (told ++ [(o, (Listing.offer granted sink o l).1)])
      (Listing.offer granted sink o l).2.entries (Listing.offer granted sink o l).2.full := by
  obtain ⟨full, entries, skipped⟩ := l
  dsimp only at h
  cases h with
  | @refused before after o' entries last h nameable passes refuses unasked =>
    -- Once a name was refused, the native side is not asked again.
    have hoffer : Listing.offer granted sink o ⟨true, entries ++ [last], skipped⟩ =
        (false, ⟨true, entries ++ [last], skipped⟩) := rfl
    rw [hoffer, List.append_assoc]
    exact .refused h nameable passes refuses (List.forall_mem_append.mpr ⟨unasked, by simp⟩)
  | accepting h =>
    by_cases hname : o.Nameable
    · have hoffer : Listing.offer granted sink o ⟨false, entries, skipped⟩ =
          (!(sink (entries ++ [o.entry granted]) != 0),
            ⟨sink (entries ++ [o.entry granted]) != 0, entries ++ [o.entry granted], skipped⟩) :=
        if_neg hname
      rw [hoffer]
      -- The native side decides, by the status that it gives for the entry.
      by_cases htakes : sink (entries ++ [o.entry granted]) = 0
      · rw [bne_eq_false_iff_eq.mpr htakes]
        exact .accepting (h.take hname (passes_entry granted o) htakes)
      · rw [bne_iff_ne.mpr htakes]
        exact .refused h hname (passes_entry granted o) htakes (by simp)
    · have hoffer : Listing.offer granted sink o ⟨false, entries, skipped⟩ =
          (true, ⟨false, entries, skipped + 1⟩) := if_pos (not_not.mp hname)
      rw [hoffer]
      exact .accepting (h.skip hname)

/-! ## Requests -/

/-- What a request for a listing comes to. -/
inductive Lists (srv : Server σ) (state : σ) : Request → Completion σ → Prop
  /-- Without a place for entries, or without a path, nothing is asked of the
      implementation. -/
  | undecoded {path : NativeText} {sink : Option DirSink} {offset : Int64}
      {info : Option FileInfo} {out : Completion σ}
      (bad : sink = none ∨ ∃ e, path.read = .error e) (uncalled : out.calls = [])
      (unlisted : out.memory = .entries []) (negative : out.status < 0) :
      Lists srv state (.readdir path sink offset info) out
  /-- Otherwise it is asked for a listing once. What it offers is answered, and the entries
      are given, as the native side decides, and the status is zero if it succeeds. -/
  | listed {path : NativeText} {p : String} {sink : DirSink} {offset : Int64}
      {info : Option FileInfo} {out : Completion σ} {told : List (Offered × Bool)}
      {result : (Call.readdir p offset (FileInfo.handleOf info)).Result}
      {entries : List DirEntry} {full : Bool}
      (read : path.read = .ok p) (once : out.calls = [.readdir p offset (FileInfo.handleOf info)])
      (plays : (srv.fileSystem.respond srv.caller (.readdir p offset (FileInfo.handleOf info))
        state).Plays told result out.state)
      (filled : Filled srv.granted sink told entries full) (given : out.memory = .entries entries)
      (status : out.status = 0 ↔ result = .ok ()) :
      Lists srv state (.readdir path (some sink) offset info) out

/-- A listing is done in one call, and whatever is offered meanwhile is filled in. -/
theorem run_readdir (srv : Server σ) (p : String) (sink : DirSink) (offset : Int64)
    (handle : UInt64) (state : σ) :
    ∃ told result entries full next events,
      (srv.fileSystem.respond srv.caller (.readdir p offset handle) state).Plays told result next ∧
      Filled srv.granted sink told entries full ∧
      Job.run srv (.readdir p sink offset handle) { state } =
        ((Job.done result, .entries entries),
          { state := next, calls := [.readdir p offset handle], events }) := by
  have hstep : ∀ told (l : Listing) o, Filled srv.granted sink told l.entries l.full →
      Filled srv.granted sink (told ++ [(o, (Listing.offer srv.granted sink o l).1)])
        (Listing.offer srv.granted sink o l).2.entries
        (Listing.offer srv.granted sink o l).2.full :=
    fun told l o h => h.offer o
  have hstart : Filled srv.granted sink [] ({} : Listing).entries ({} : Listing).full :=
    .accepting .nil
  obtain ⟨told, hplays, hfilled⟩ := Exchange.plays_run hstep
    (srv.fileSystem.respond srv.caller (.readdir p offset handle) state) hstart
  exact ⟨told, _, _, _, _, _, hplays, hfilled, rfl⟩

/-- Every `readdir` request is served as `Lists` says, whatever the native side takes and whatever
    the implementation offers, even if it does not care for the answers. -/
theorem serve_lists (srv : Server σ) (path : NativeText) (sink : Option DirSink) (offset : Int64)
    (info : Option FileInfo) (state : σ) :
    Lists srv state (.readdir path sink offset info)
      ((Request.readdir path sink offset info).serve srv state) := by
  cases hdecode : (Request.readdir path sink offset info).decode with
  | error e =>
    rw [serve_of_undecoded srv hdecode]
    refine .undecoded ?_ rfl rfl (Failure.returned e).status_neg
    cases sink with
    | none => exact .inl rfl
    | some fill =>
      -- The filler is looked at first, and the path after it.
      rcases bind_eq_error_iff.mp hdecode with hsink | ⟨_, _, h⟩
      · cases hsink
      · rcases bind_eq_error_iff.mp h with hpath | ⟨p, _, h⟩
        · exact .inr ⟨e, hpath⟩
        · cases h
  | ok job =>
    obtain ⟨fill, p, rfl, hpath, rfl⟩ := job_of_required hdecode
    obtain ⟨told, result, entries, full, next, events, hplays, hfilled, hrun⟩ :=
      run_readdir srv p fill offset (FileInfo.handleOf info) state
    unfold Request.serve
    rw [hdecode]
    dsimp only
    rw [hrun]
    cases result with
    -- The status says only whether `readdir` came out, not whether a name was refused.
    | ok done => exact .listed hpath rfl hplays hfilled rfl (iff_of_true rfl rfl)
    | error f =>
      have hstatus : f.status ≠ 0 := Int32.ne_of_lt f.status_neg
      exact .listed hpath rfl hplays hfilled rfl (iff_of_false hstatus nofun)

/-- An implementation goes on after its third offer was refused. The second could not be
    passed on, and the fourth is not. -/
example :
    let listing : Server (List Bool) := {
      fileSystem.respond
        | _, .readdir .., answers =>
          .ask ⟨"a", none, 1⟩ answers fun yes answers =>
          .ask ⟨"\x00", none, 2⟩ (answers ++ [yes]) fun yes answers =>
          .ask ⟨"b", none, 3⟩ (answers ++ [yes]) fun yes answers =>
          .ask ⟨"c", none, 4⟩ (answers ++ [yes]) fun yes answers =>
          .done (.ok ()) (answers ++ [yes])
        | _, c, answers => .done c.unimplemented answers
      directIo := false
      caller := none
      clock := fun _ => ⟨0, 0⟩ }
    let out := (Request.readdir (some [47]) (some fun given => if given.length < 2 then 0 else 1)
      0 none).serve listing []
    out.memory = .entries [⟨[97], none, 1⟩, ⟨[98], none, 3⟩] ∧
      out.state = [true, true, false, false] ∧ out.status = 0 := by
  decide

end HostedFs
