import HostedFs.Options.Parse
import Mathlib.Data.List.TakeWhile

/-! # Candidates of a command line

    What an argument means to the scan, said by the shape of the argument, and
    that the scan cuts every command line accordingly.

    * `Splits`: the key of a candidate, and its value if there is one.
    * `Parts`: the parts of a list between commas.
    * `Scanned`: the candidates of a command line in order, and whether it ends
      in an option whose list is missing.
    * `scanned_iff`: the scan finds these, and nothing else.
-/

namespace HostedFs.Options

/-! ## Keys and values -/

/-- A candidate is cut at its first equals sign. -/
inductive Splits : String → String → Option String → Prop
  /-- Without one the whole candidate is the key. -/
  | bare {key : String} (plain : '=' ∉ key.toList) : Splits key key none
  /-- Otherwise the value follows it, with any more of them. -/
  | valued {key : String} (value : String) (plain : '=' ∉ key.toList) :
      Splits (key ++ "=" ++ value) key (some value)

namespace Splits

theorem plain {text key : String} {value? : Option String} (h : Splits text key value?) :
    '=' ∉ key.toList := by
  cases h with
  | bare plain => exact plain
  | valued value plain => exact plain

end Splits

/-- What is before the first equals sign has none. -/
theorem notMem_takeWhile (cs : List Char) : '=' ∉ cs.takeWhile (· ≠ '=') := by
  intro hmem
  have hne := List.mem_takeWhile_imp hmem
  simp at hne

/-- A text is cut into its key and its value. -/
theorem splits_keyValue (text : String) : Splits text (keyValue text).1 (keyValue text).2 := by
  have hjoin := List.takeWhile_append_dropWhile (p := (· ≠ '=')) (l := text.toList)
  have hplain := notMem_takeWhile text.toList
  unfold keyValue
  cases hrest : text.toList.dropWhile (· ≠ '=') with
  | nil =>
    rw [hrest, List.append_nil] at hjoin
    exact .bare (hjoin ▸ hplain)
  | cons c value =>
    obtain rfl : c = '=' := by
      have hhead := List.head?_dropWhile_not (· ≠ '=') text.toList
      rw [hrest] at hhead
      simpa using hhead
    have htext : text = String.ofList (text.toList.takeWhile (· ≠ '=')) ++ "=" ++
        String.ofList value := by
      rw [hrest] at hjoin
      apply String.toList_inj.mp
      simpa using hjoin.symm
    conv => enter [1]; rw [htext]
    exact .valued _ (by simpa using hplain)

/-- A key without an equals sign is skipped as a whole. -/
theorem ne_of_notMem {cs : List Char} (h : '=' ∉ cs) : ∀ c ∈ cs, decide (c ≠ '=') = true := by
  intro c hc
  exact decide_eq_true fun heq => h (heq ▸ hc)

/-- There is only one way to cut it. -/
theorem keyValue_of_splits {text key : String} {value? : Option String}
    (h : Splits text key value?) : keyValue text = (key, value?) := by
  have hall := ne_of_notMem h.plain
  cases h with
  | bare plain =>
    unfold keyValue
    rw [List.dropWhile_eq_nil_iff.mpr hall]
  | valued value plain =>
    have hcs : (key ++ "=" ++ value).toList = key.toList ++ '=' :: value.toList := by simp
    have hrest : (key ++ "=" ++ value).toList.dropWhile (· ≠ '=') = '=' :: value.toList := by
      rw [hcs, List.dropWhile_append_of_pos hall]
      simp
    have hkey : (key ++ "=" ++ value).toList.takeWhile (· ≠ '=') = key.toList := by
      rw [hcs, List.takeWhile_append_of_pos hall]
      simp
    unfold keyValue
    rw [hrest, hkey]
    simp

/-! ## Lists of suboptions -/

/-- The parts of a list between commas. -/
structure Parts (list : String) (parts : List String) : Prop where
  some : parts ≠ []
  plain : ∀ part ∈ parts, ',' ∉ part.toList
  joined : ",".intercalate parts = list

/-- The parts of a list that are not empty. -/
def suboptionTexts (parts : List String) : List String :=
  parts.filter (· ≠ "")

/-- What is between two commas has none. -/
theorem notMem_of_mem_splitOn {c : Char} {cs part : List Char} (h : part ∈ cs.splitOn c) :
    c ∉ part := by
  rw [List.splitOn_eq_splitOnP] at h
  induction cs generalizing part with
  | nil =>
    rw [List.splitOnP_nil, List.mem_singleton] at h
    simp [h]
  | cons d cs ih =>
    rw [List.splitOnP_cons_eq_if_modifyHead] at h
    by_cases hd : d = c
    · rw [if_pos (beq_iff_eq.mpr hd)] at h
      -- Behind the separator a new part begins, and it is empty so far.
      rcases List.mem_cons.mp h with rfl | h
      · exact List.not_mem_nil
      · exact ih h
    · rw [if_neg (by simpa using hd)] at h
      cases hparts : cs.splitOnP (· == c) with
      | nil =>
        rw [hparts] at h
        cases h
      | cons first others =>
        rw [hparts] at h ih
        rcases List.mem_cons.mp h with rfl | h
        · have hfirst := ih List.mem_cons_self
          simp [Ne.symm hd, hfirst]
        · exact ih (List.mem_cons_of_mem _ h)

/-- A list is cut at its commas. -/
theorem parts_splitOn (list : List Char) :
    Parts (String.ofList list) ((list.splitOn ',').map String.ofList) where
  some := by simp [List.splitOn_ne_nil]
  plain := by
    intro part hpart
    obtain ⟨cs, hcs, rfl⟩ := List.mem_map.mp hpart
    simpa using notMem_of_mem_splitOn hcs
  joined := by
    apply String.toList_inj.mp
    rw [String.toList_intercalate]
    simp [List.intercalate_splitOn]

/-- There is only one way to cut it. -/
theorem splitOn_of_parts {list : String} {parts : List String} (h : Parts list parts) :
    (list.toList.splitOn ',').map String.ofList = parts := by
  have hcs : list.toList = [','].intercalate (parts.map String.toList) := by
    rw [← h.joined, String.toList_intercalate]
    rfl
  rw [hcs, List.splitOn_intercalate _ (by simpa using h.plain) (by simpa using h.some)]
  simp

/-! ## The scan -/

/-- The candidates of a command line in order. The flag says that it ends in an
    option whose list is missing. -/
inductive Scanned : List String → List String → Bool → Prop
  | nil : Scanned [] [] false
  /-- What follows the separator is not looked at. -/
  | separator (rest : List String) : Scanned ("--" :: rest) [] false
  /-- A list was announced, and there is none. -/
  | dangling : Scanned ["-o"] [] true
  /-- A list in the next argument, whatever that is. -/
  | announced {list : String} {parts rest candidates : List String} {dangling : Bool}
      (cut : Parts list parts) (next : Scanned rest candidates dangling) :
      Scanned ("-o" :: list :: rest) (suboptionTexts parts ++ candidates) dangling
  /-- A list in the same argument. -/
  | attached {list : String} {parts rest candidates : List String} {dangling : Bool}
      (some : list ≠ "") (cut : Parts list parts) (next : Scanned rest candidates dangling) :
      Scanned (("-o" ++ list) :: rest) (suboptionTexts parts ++ candidates) dangling
  /-- An argument that starts with a dash, and with nothing of the above. -/
  | option {text : String} {rest candidates : List String} {dangling : Bool}
      (other : "-" ++ text ≠ "--") (unlisted : text.toList.head? ≠ some 'o')
      (next : Scanned rest candidates dangling) :
      Scanned (("-" ++ text) :: rest) (("-" ++ text) :: candidates) dangling
  /-- Any other argument. -/
  | positional {arg : String} {rest candidates : List String} {dangling : Bool}
      (plain : arg.toList.head? ≠ some '-') (next : Scanned rest candidates dangling) :
      Scanned (arg :: rest) candidates dangling

/-- The candidates that a scan hands to the templates. -/
def Scan.candidates (s : Scan) : List String :=
  s.pieces.filterMap Piece.candidate?

@[simp] theorem candidates_after (front : List Piece) (s : Scan) :
    (s.after front).candidates = front.filterMap Piece.candidate? ++ s.candidates := by
  simp [Scan.candidates, Scan.after]

@[simp] theorem after_after (front middle : List Piece) (s : Scan) :
    (s.after middle).after front = s.after (front ++ middle) := by
  simp [Scan.after]

@[simp] theorem ending_after (front : List Piece) (s : Scan) : (s.after front).ending = s.ending :=
  rfl

/-- The pieces of a list are its parts that are not empty. -/
theorem suboptions_of_parts {list : String} {parts : List String} (h : Parts list parts) :
    Scan.suboptions list.toList = (suboptionTexts parts).map Piece.suboption := by
  rw [← splitOn_of_parts h, Scan.suboptions, suboptionTexts, List.filter_map, List.map_map]
  have hempty : (fun text => decide (text ≠ "")) ∘ String.ofList =
      fun text : List Char => decide (text ≠ []) := by
    funext text
    simp
  rw [hempty]
  rfl

@[simp] theorem filterMap_suboption (texts : List String) :
    (texts.map Piece.suboption).filterMap Piece.candidate? = texts := by
  rw [List.filterMap_map]
  exact List.filterMap_some

/-- What no suboption has is not found among them. -/
theorem filterMap_suboption_none (f : Piece → Option String)
    (lacking : ∀ text, f (.suboption text) = none) (texts : List String) :
    (texts.map Piece.suboption).filterMap f = [] := by
  rw [List.filterMap_map]
  exact List.filterMap_eq_nil_iff.mpr fun text _ => lacking text

/-- Its candidates are their texts. -/
theorem candidates_suboptions {list : String} {parts : List String} (h : Parts list parts) :
    (Scan.suboptions list.toList).filterMap Piece.candidate? = suboptionTexts parts := by
  rw [suboptions_of_parts h, filterMap_suboption]

theorem ofArgs_announced (list : String) (rest : List String) :
    Scan.ofArgs ("-o" :: list :: rest) =
      (Scan.ofArgs rest).after (Scan.suboptions list.toList) := by
  rw [Scan.ofArgs, if_neg (by decide)]
  decide

theorem ofArgs_attached {list : String} (some : list ≠ "") (rest : List String) :
    Scan.ofArgs (("-o" ++ list) :: rest) =
      (Scan.ofArgs rest).after (Scan.suboptions list.toList) := by
  have hcs : ("-o" ++ list).toList = '-' :: 'o' :: list.toList := by simp
  have hlist : list.toList ≠ [] := by simpa using some
  have hne : "-o" ++ list ≠ "--" := by
    intro h
    have htext := congrArg String.toList h
    rw [hcs] at htext
    simp at htext
  rw [Scan.ofArgs.eq_def]
  simp only [if_neg hne, hcs]
  split
  · simp_all
  · simp_all
  · simp_all
  next unlisted heq _ _ =>
    rw [List.cons_inj_right] at heq
    exact absurd heq.symm (unlisted _)
  · simp_all

theorem ofArgs_option {text : String} (other : "-" ++ text ≠ "--")
    (unlisted : text.toList.head? ≠ some 'o') (rest : List String) :
    Scan.ofArgs (("-" ++ text) :: rest) = (Scan.ofArgs rest).after [.option ("-" ++ text)] := by
  have hcs : ("-" ++ text).toList = '-' :: text.toList := by simp
  rw [Scan.ofArgs.eq_def]
  simp only [if_neg other, hcs]
  split <;> simp_all

theorem ofArgs_positional {arg : String} (plain : arg.toList.head? ≠ some '-')
    (rest : List String) :
    Scan.ofArgs (arg :: rest) = (Scan.ofArgs rest).after [.positional arg] := by
  have hne : arg ≠ "--" := by
    rintro rfl
    exact plain (by decide)
  rw [Scan.ofArgs.eq_def]
  simp only [if_neg hne]
  split <;> simp_all

/-- A text is its front and what follows it. -/
theorem eq_append_of_toList {text front : String} {cs : List Char}
    (h : text.toList = front.toList ++ cs) : text = front ++ String.ofList cs := by
  apply String.toList_inj.mp
  simpa using h

/-- The scan finds the candidates of a command line. -/
theorem scanned_ofArgs (args : List String) :
    Scanned args (Scan.ofArgs args).candidates
      (decide ((Scan.ofArgs args).ending = .dangling)) := by
  fun_induction Scan.ofArgs args with
  -- One rule of `Scanned` for each case of the scan, in the same order.
  | case1 => exact .nil
  | case2 rest => exact .separator rest
  | case3 arg hne harg =>
    obtain rfl : arg = "-o" := String.toList_inj.mp harg
    exact .dangling
  | case4 arg hne list rest harg ih =>
    obtain rfl : arg = "-o" := String.toList_inj.mp harg
    have hparts := parts_splitOn list.toList
    rw [String.ofList_toList] at hparts
    rw [candidates_after, ending_after, candidates_suboptions hparts]
    exact .announced hparts ih
  | case5 arg hne list rest hlast hlisted harg ih =>
    obtain rfl : arg = "-o" ++ String.ofList list := eq_append_of_toList harg
    -- The list of `-o` alone would be the next argument, which the cases before have taken.
    have hsome : String.ofList list ≠ "" := by
      intro hempty
      obtain rfl : list = [] := by simpa using hempty
      cases rest with
      | nil => exact hlast rfl rfl
      | cons list rest => exact hlisted list rest rfl rfl
    have hparts := parts_splitOn list
    have hcandidates := candidates_suboptions hparts
    rw [String.toList_ofList] at hcandidates
    rw [candidates_after, ending_after, hcandidates]
    exact .attached hsome hparts ih
  | case6 arg hne text rest hlast hlisted hattached harg ih =>
    obtain rfl : arg = "-" ++ String.ofList text := eq_append_of_toList harg
    rw [candidates_after, ending_after]
    refine .option hne ?_ ih
    intro hhead
    rw [String.toList_ofList] at hhead
    obtain ⟨list, rfl⟩ := List.head?_eq_some_iff.mp hhead
    exact hattached list rfl
  | case7 arg hne rest hlast hlisted hattached hdash ih =>
    rw [candidates_after, ending_after]
    refine .positional ?_ ih
    intro hhead
    obtain ⟨text, htext⟩ := List.head?_eq_some_iff.mp hhead
    exact hdash text htext

/-- It finds nothing else. -/
theorem ofArgs_of_scanned {args candidates : List String} {dangling : Bool}
    (h : Scanned args candidates dangling) :
    (Scan.ofArgs args).candidates = candidates ∧
      decide ((Scan.ofArgs args).ending = .dangling) = dangling := by
  induction h with
  -- The other way round: induction on `Scanned`, each rule by the equation of its case.
  | nil => exact ⟨rfl, rfl⟩
  | separator rest =>
    rw [Scan.ofArgs.eq_def]
    exact ⟨rfl, rfl⟩
  | dangling => decide
  | announced cut next ih =>
    rw [ofArgs_announced, candidates_after, ending_after, candidates_suboptions cut, ih.1]
    exact ⟨rfl, ih.2⟩
  | attached some cut next ih =>
    rw [ofArgs_attached some, candidates_after, ending_after, candidates_suboptions cut, ih.1]
    exact ⟨rfl, ih.2⟩
  | option other unlisted next ih =>
    rw [ofArgs_option other unlisted, candidates_after, ending_after, ih.1]
    exact ⟨rfl, ih.2⟩
  | positional plain next ih =>
    rw [ofArgs_positional plain, candidates_after, ending_after, ih.1]
    exact ⟨rfl, ih.2⟩

theorem scanned_iff {args candidates : List String} {dangling : Bool} :
    Scanned args candidates dangling ↔
      (Scan.ofArgs args).candidates = candidates ∧
        decide ((Scan.ofArgs args).ending = .dangling) = dangling := by
  constructor
  · exact ofArgs_of_scanned
  · rintro ⟨rfl, rfl⟩
    exact scanned_ofArgs args

end HostedFs.Options
