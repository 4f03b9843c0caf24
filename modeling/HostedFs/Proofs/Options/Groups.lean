import HostedFs.Proofs.Options.Filling
import HostedFs.Proofs.Options.Pieces

/-! # The spelling of suboption lists

    Suboptions can be given in one list or in several, and a list can stand behind its
    announcement or in the same argument. What is scanned is the same, wherever on the
    command line that is, and so is what comes of it.

    * `suboptions_joined`: the suboptions of two lists that a comma joins.
    * `ofArgs_joined`, `ofArgs_attached_eq`: the scans of the two spellings.
    * `parse_regrouped`: the outcomes of whole command lines.
-/

namespace HostedFs.Options

variable {front : List String} {pieces : List Piece}

/-! ## Scans -/

/-- A comma between two lists ends a suboption of the first, and begins one of the
    second. -/
theorem suboptions_joined (first second : List Char) :
    Scan.suboptions (first ++ ',' :: second) =
      Scan.suboptions first ++ Scan.suboptions second := by
  unfold Scan.suboptions
  rw [List.splitOn_append_cons_self, List.filter_append, List.map_append]

/-- Two lists in a row are scanned like one. -/
theorem ofArgs_joined (first second : String) (rest : List String) :
    Scan.ofArgs ("-o" :: (first ++ "," ++ second) :: rest) =
      Scan.ofArgs ("-o" :: first :: "-o" :: second :: rest) := by
  have hjoined : (first ++ "," ++ second).toList = first.toList ++ ',' :: second.toList := by
    simp
  calc Scan.ofArgs ("-o" :: (first ++ "," ++ second) :: rest)
      = (Scan.ofArgs rest).after
          (Scan.suboptions first.toList ++ Scan.suboptions second.toList) := by
        rw [ofArgs_announced, hjoined, suboptions_joined]
    _ = Scan.ofArgs ("-o" :: first :: "-o" :: second :: rest) := by
        rw [ofArgs_announced, ofArgs_announced, after_after]

/-- A list in the argument that announces it is scanned like one in the next. -/
theorem ofArgs_attached_eq {list : String} (some : list ≠ "") (rest : List String) :
    Scan.ofArgs (("-o" ++ list) :: rest) = Scan.ofArgs ("-o" :: list :: rest) := by
  rw [ofArgs_attached some, ofArgs_announced]

/-! ## Outcomes -/

/-- All that counts of a command line is its scan, before other arguments and behind
    them. -/
theorem parse_congr (cut : Cut front pieces) {args others : List String}
    (h : Scan.ofArgs args = Scan.ofArgs others) (format : String) (slots : List Slot) :
    parse format slots (front ++ args) = parse format slots (front ++ others) := by
  rw [parse_eq, parse_eq]
  unfold parseSteps
  rw [ofArgs_cut cut, ofArgs_cut cut, h]

/-- Behind arguments that are `Cut`, so that the scan meets no separator there and misses no list,
    it makes no difference to `parse` whether suboptions are given in one list or in two, nor
    whether a list is attached to `-o`: the arguments handed back, the slots and the error are the
    same. -/
theorem parse_regrouped (cut : Cut front pieces) (format : String) (slots : List Slot)
    (first second : String) (back : List String) :
    parse format slots (front ++ ["-o", first ++ "," ++ second] ++ back) =
        parse format slots (front ++ ["-o", first, "-o", second] ++ back) ∧
      ∀ list, list ≠ "" →
        parse format slots (front ++ ["-o", list] ++ back) =
          parse format slots (front ++ ["-o" ++ list] ++ back) := by
  constructor
  · have hscan := ofArgs_joined first second back
    rw [List.append_assoc, List.append_assoc]
    exact parse_congr cut hscan format slots
  · intro list some
    have hscan := ofArgs_attached_eq some back
    rw [List.append_assoc, List.append_assoc]
    exact parse_congr cut hscan.symm format slots

/-- A list that begins like a separator is one all the same, and an error in one part of
    a list comes before an error behind it. -/
theorem parse_regrouped_dashes :
    Cut ["p", "-x"] [.positional "p", .option "-x"] ∧
      parse "n=%d" [.int ⟨false, .w8⟩ 0]
          (["p", "-x"] ++ ["-o", "--,n=7" ++ "," ++ ",n=z"] ++ ["-on=300"]) =
        parse "n=%d" [.int ⟨false, .w8⟩ 0]
          (["p", "-x"] ++ ["-o", "--,n=7", "-o", ",n=z"] ++ ["-on=300"]) ∧
      parse "n=%d" [.int ⟨false, .w8⟩ 0] (["p", "-x"] ++ ["-o", "--,n=7"] ++ ["--", "y"]) =
        .ok ⟨["-o", "--", "p", "-x", "--", "y"], [.int ⟨false, .w8⟩ 7]⟩ := by
  have cut : Cut ["p", "-x"] [.positional "p", .option "-x"] :=
    .positional (by decide) (@Cut.option "x" [] [] (by decide) (by decide) .nil)
  have hjoined := (parse_regrouped cut "n=%d" [.int ⟨false, .w8⟩ 0] "--,n=7" ",n=z" ["-on=300"]).1
  have hattached := (parse_regrouped cut "n=%d" [.int ⟨false, .w8⟩ 0] "" "" ["--", "y"]).2
  exact ⟨cut, hjoined, (hattached "--,n=7" (by decide)).trans (by decide +kernel)⟩

end HostedFs.Options
