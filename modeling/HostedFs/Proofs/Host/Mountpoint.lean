import HostedFs.Host.Arguments
import HostedFs.Proofs.Options.Positionals

/-! # The mountpoint on a command line

    The native library mounts on the first argument of its command line that is no
    option, and this is what a host records. Where the host is given a mountpoint of its
    own, no option that comes after it matters.

    * `firstArgument?`: that argument, by the look of the arguments alone.
    * `firstArgument?_append`: it is found before a separator, or else right after it.
    * `mountpointOf_eq`: the mountpoint that is read off a command line.
    * `mountpointOf_arguments`: the one that is read off the command line of a host.
-/

namespace HostedFs

open Options

/-! ## The first argument that is no option -/

/-- The first argument that is no option. The list that `-o` announces is none, and after
    a separator every argument is one. -/
def firstArgument? : List String → Option String
  | [] => none
  | "--" :: rest => rest.head?
  | "-o" :: _ :: rest => firstArgument? rest
  | arg :: rest => if arg.toList.head? = some '-' then firstArgument? rest else some arg

variable {arg : String} {args front back : List String} {pieces : List Piece} {ending : Ending}

theorem firstArgument?_cons_of_plain (plain : arg.toList.head? ≠ some '-') (rest : List String) :
    firstArgument? (arg :: rest) = some arg := by
  have hseparator : arg ≠ "--" := by
    rintro rfl
    exact plain (by decide)
  have hlist : arg ≠ "-o" := by
    rintro rfl
    exact plain (by decide)
  rw [firstArgument?, if_neg plain]
  · exact hseparator
  · intro _ _ h
    exact absurd h hlist

theorem firstArgument?_cons_of_dash (dash : arg.toList.head? = some '-') (other : arg ≠ "--")
    (unlisted : arg ≠ "-o") (rest : List String) :
    firstArgument? (arg :: rest) = firstArgument? rest := by
  rw [firstArgument?, if_pos dash]
  · exact other
  · intro _ _ h
    exact absurd h unlisted

/-- An option with a list attached is no separator. -/
theorem attached_ne_separator (list : String) : "-o" ++ list ≠ "--" := by
  intro h
  have hcs := congrArg String.toList h
  simp at hcs

/-- It is found among the arguments before a separator, or else right after it. -/
theorem firstArgument?_append (cut : Cut front pieces) (stop : Stops back ending) :
    firstArgument? (front ++ back) = (positionals front).head?.or ending.unscanned.head? := by
  -- Each part of the cut is an option to both sides, or the argument that both find.
  induction cut with
  | nil =>
    -- Nothing was found before the place where the scan stops.
    cases stop with
    | exhausted => rfl
    | separated rest => rfl
    | dangling => rfl
  | announced cut next ih => exact ih
  | @attached list parts rest pieces some cut next ih =>
    have hother : "-o" ++ list ≠ "-o" := by simpa using some
    rw [List.cons_append, positionals_cons_of_dash (by simp) hother,
      firstArgument?_cons_of_dash (by simp) (attached_ne_separator list) hother, ih]
  | @option text rest pieces other unlisted next ih =>
    have hother := ne_announcing_of_unlisted unlisted
    rw [List.cons_append, positionals_cons_of_dash (by simp) hother,
      firstArgument?_cons_of_dash (by simp) other hother, ih]
  | positional plain next ih =>
    rw [List.cons_append, positionals_cons_of_plain plain, firstArgument?_cons_of_plain plain]
    rfl

/-- Without separators in the second part, parted arguments begin as their parts do. -/
theorem head?_parted (front back : List String) :
    (parted front back).head? = front.head?.or back.head? := by
  cases front with
  | nil => rw [parted_nil_left, List.head?_nil, Option.none_or]
  | cons first rest => rfl

/-! ## Command lines -/

/-- The mountpoint is read off a command line whose last option has its list and where no
    argument after the separator is another one. -/
theorem mountpointOf_eq (canonical : String → Option String)
    (complete : (Scan.ofArgs args).ending ≠ .dangling)
    (unseparated : ∀ rest, (Scan.ofArgs args).ending = .separated rest → "--" ∉ rest) :
    mountpointOf canonical args =
      .ok ((firstArgument? args).map fun path => (canonical path).getD path) := by
  obtain ⟨front, back, hargs, cut, stop⟩ := cut_ofArgs args
  -- A `--` at the very end of the rest would be taken for the separator.
  have hlast : (Scan.ofArgs args).ending.unscanned.getLast? ≠ some "--" := by
    intro hlast
    have hmem := List.mem_of_getLast? hlast
    generalize hending : (Scan.ofArgs args).ending = ending at unseparated hmem
    cases ending with
    | separated rest => exact unseparated rest rfl hmem
    | exhausted => cases hmem
    | dangling => cases hmem
  have blank : Text.wordsOf "" = [] := by decide
  -- Without a template every argument is left, and the mountpoint is the first of them.
  have hparsed := parse_wordless_parted blank cut stop complete hlast
  rw [← hargs] at hparsed
  have hfirst := firstArgument?_append cut stop
  rw [← hargs, ← head?_parted] at hfirst
  unfold mountpointOf
  rw [hparsed, hfirst]
  rfl

/-- The `mountpointOf` the command line of a host, if the last option there has its list and no
    argument after the separator is another one.

    A mountpoint that the host is given is the one, `canonical` if it resolves, unless it looks like
    an option; the options of the mount and of the settings do not matter. If it is given none, the
    `firstArgument?` among the options is it: one that is neither an option nor a list, or the first
    after the separator. If there is none either, there is no mountpoint. -/
theorem mountpointOf_arguments (canonical : String → Option String) (s : HostSettings)
    (mountpoint : String) (options : List String)
    (complete : (Scan.ofArgs (s.arguments mountpoint options).tail).ending ≠ .dangling)
    (unseparated : ∀ rest, (Scan.ofArgs (s.arguments mountpoint options).tail).ending =
      .separated rest → "--" ∉ rest) :
    (mountpoint ≠ "" → mountpoint.toList.head? ≠ some '-' →
      mountpointOf canonical (s.arguments mountpoint options).tail =
        .ok (some ((canonical mountpoint).getD mountpoint))) ∧
    (mountpoint = "" →
      mountpointOf canonical (s.arguments mountpoint options).tail =
        .ok ((firstArgument? (options ++ s.options)).map fun path =>
          (canonical path).getD path)) := by
  rw [mountpointOf_eq canonical complete unseparated]
  constructor
  · intro given plain
    -- The mountpoint stands first, ahead of `-f` and of all options.
    have hargs : (s.arguments mountpoint options).tail =
        mountpoint :: "-f" :: (options ++ s.options) := by
      simp [HostSettings.arguments, HostSettings.argumentsAfterName, given]
    rw [hargs, firstArgument?_cons_of_plain plain]
    rfl
  · rintro rfl
    -- `-f` is an option, and the options of the mount come next.
    have hargs : (s.arguments "" options).tail = "-f" :: (options ++ s.options) := by
      simp [HostSettings.arguments, HostSettings.argumentsAfterName]
    rw [hargs, firstArgument?_cons_of_dash (by decide) (by decide) (by decide)]

/-- Settings whose options end in a directory. -/
def directed : HostSettings where
  programName := "prog"
  options := ["--", "/b"]

/-- Of all paths one resolves. -/
def linked (path : String) : Option String :=
  if path = "/b" then some "/c" else none

/-- A list that looks like a path is none, so the argument after the separator is taken.
    A mountpoint of its own comes before that. -/
theorem mountpointOf_arguments_directed :
    (Scan.ofArgs (directed.arguments "" ["-o", "/a", "-d"]).tail).ending = .separated ["/b"] ∧
      mountpointOf linked (directed.arguments "" ["-o", "/a", "-d"]).tail = .ok (some "/c") ∧
      mountpointOf linked (directed.arguments "/m" ["-o", "/a", "-d"]).tail =
        .ok (some "/m") := by
  have hbare : (Scan.ofArgs (directed.arguments "" ["-o", "/a", "-d"]).tail).ending =
      .separated ["/b"] := by decide
  have hgiven : (Scan.ofArgs (directed.arguments "/m" ["-o", "/a", "-d"]).tail).ending =
      .separated ["/b"] := by decide
  have hsingle : ∀ rest, Ending.separated ["/b"] = .separated rest → "--" ∉ rest := by
    intro rest h
    cases h
    decide
  have hfound := (mountpointOf_arguments linked directed "" ["-o", "/a", "-d"]
    (by simp [hbare]) (hbare ▸ hsingle)).2 rfl
  have hown := (mountpointOf_arguments linked directed "/m" ["-o", "/a", "-d"]
    (by simp [hgiven]) (hgiven ▸ hsingle)).1 (by decide) (by decide)
  exact ⟨hbare, hfound, hown⟩

end HostedFs
