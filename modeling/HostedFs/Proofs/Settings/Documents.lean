import HostedFs.Proofs.Data.Codecs
import HostedFs.Proofs.Data.Fields
import HostedFs.Settings.Document

/-! # Settings in documents

    A document that was written from settings can be edited: keys and whole tables can be
    deleted, and keys that no field has can be added. What is deleted has its default
    then, and the rest is as it was. This holds in every format with
    `Codec.KeepsSettings`, whatever the order is that it has the keys in.

    * `Edited`: entries after such an edit.
    * `HostSettings.reset`, `LogSettings.reset`, `ProbeSettings.reset`: the settings where
      fields have their defaults.
    * `ReadFrom`: settings are read from every document of entries.
    * `edited_settings`: the settings of every edited document.
-/

namespace HostedFs

open HostedFs.Tree (lookupAll valueAt? orDefault)

/-! ## Edits -/

/-- Entries after some of the fields were deleted. All that counts is which values the
    fields are given, so entries with other names may have been added. -/
def Edited (fields deleted : List String) (before after : List (String × Tree)) : Prop :=
  ∀ name ∈ fields,
    lookupAll after name = if name ∈ deleted then [] else lookupAll before name

/-- Settings are read from every document that has these entries, and from the one that
    is written for them. -/
def ReadFrom {α : Type} (toml : Codec (List (String × Tree))) (entries : List (String × Tree))
    (parse? : String → Option α) (settings : α) : Prop :=
  (∀ text, toml.parse? text = some (.table entries) → parse? text = some settings) ∧
    (SettingsDocument entries → parse? (toml.render entries) = some settings)

variable {fields deleted : List String} {before after : List (String × Tree)}

theorem Edited.refl (fields : List String) (entries : List (String × Tree)) :
    Edited fields [] entries entries := by
  intro name _
  simp

/-- Keys are deleted, and keys that no field has are added. -/
theorem edited_filter_append (deleted : List String) (before added : List (String × Tree))
    (h : ∀ p ∈ added, p.1 ∉ fields) :
    Edited fields deleted before ((before.filter fun p => p.1 ∉ deleted) ++ added) := by
  intro name hname
  have hadded : lookupAll added name = [] := by
    apply List.filterMap_eq_nil_iff.mpr
    intro p hp
    have hne : p.1 ≠ name := fun heq => h p hp (heq ▸ hname)
    exact if_neg hne
  -- A key that is not deleted stands there as often as before.
  have hkept : lookupAll (before.filter fun p => p.1 ∉ deleted) name =
      if name ∈ deleted then [] else lookupAll before name := by
    unfold lookupAll
    rw [List.filterMap_filter]
    split
    next hdeleted =>
      apply List.filterMap_eq_nil_iff.mpr
      intro p _
      by_cases hp : p.1 = name
      · simp [hp, hdeleted]
      · simp [hp]
    next hdeleted =>
      apply List.filterMap_congr
      intro p _
      by_cases hp : p.1 = name
      · simp [hp, hdeleted]
      · simp [hp]
  calc lookupAll ((before.filter fun p => p.1 ∉ deleted) ++ added) name
    _ = lookupAll (before.filter fun p => p.1 ∉ deleted) name ++ lookupAll added name :=
      List.filterMap_append
    _ = if name ∈ deleted then [] else lookupAll before name := by
      rw [hkept, hadded, List.append_nil]

/-- The value that an edit leaves a field. -/
theorem Edited.valueAt?_eq (h : Edited fields deleted before after) {name : String}
    (hname : name ∈ fields) {value : Option Tree} (hvalue : lookupAll before name = value.toList) :
    valueAt? after name = some (if name ∈ deleted then none else value) := by
  unfold valueAt?
  rw [h name hname, hvalue]
  by_cases hdeleted : name ∈ deleted
  · simp [hdeleted]
  · cases value with
    | none => simp
    | some tree => simp [hdeleted]

/-! ## Values of fields -/

section Values

variable {entries : List (String × Tree)} {values : List (String × Option Tree)} {name : String}

/-- The entries of fields that have values. -/
def present (values : List (String × Option Tree)) : List (String × Tree) :=
  values.filterMap fun (name, value) => value.map fun tree => (name, tree)

theorem mem_present_iff {tree : Tree} :
    (name, tree) ∈ present values ↔ (name, some tree) ∈ values := by
  simp only [present, List.mem_filterMap, Option.map_eq_some_iff]
  constructor
  · rintro ⟨⟨_, _⟩, hmem, _, rfl, heq⟩
    cases heq
    exact hmem
  · intro hmem
    exact ⟨_, hmem, tree, rfl, rfl⟩

theorem present_distinct (distinct : (values.map Prod.fst).Nodup) :
    ((present values).map Prod.fst).Nodup := by
  have hsub : ((present values).map Prod.fst).Sublist (values.map Prod.fst) := by
    induction values with
    | nil => exact List.Sublist.slnil
    | cons p values ih =>
      rw [List.map_cons, List.nodup_cons] at distinct
      obtain ⟨name, value⟩ := p
      cases value with
      | none => exact (ih distinct.2).cons _
      | some tree => exact (ih distinct.2).cons_cons _
  exact distinct.sublist hsub

theorem lookupAll_present (distinct : (values.map Prod.fst).Nodup) {value : Option Tree}
    (h : (name, value) ∈ values) : lookupAll (present values) name = value.toList := by
  cases value with
  | some tree => exact lookupAll_of_mem (present_distinct distinct) (mem_present_iff.mpr h)
  | none =>
    apply lookupAll_eq_nil
    intro tree htree
    have hpair := List.inj_on_of_nodup_map distinct h (mem_present_iff.mp htree) rfl
    cases hpair

/-- The values that an edit leaves the fields of a record. -/
theorem Edited.fields?_eq (distinct : (values.map Prod.fst).Nodup)
    (h : Edited (values.map Prod.fst) deleted (present values) after)
    (strictness : Tree.Strictness) :
    Tree.fields? strictness (values.map Prod.fst) (.table after) =
      some (values.map fun p => if p.1 ∈ deleted then none else p.2) := by
  have hvalue : ∀ p ∈ values, valueAt? after p.1 = some (if p.1 ∈ deleted then none else p.2) := by
    intro p hp
    exact h.valueAt?_eq (List.mem_map_of_mem hp) (lookupAll_present distinct hp)
  change (values.map Prod.fst).mapM (valueAt? after) = _
  rw [List.mapM_map]
  exact mapM_eq_map hvalue

end Values

/-! ## Documents in another order -/

section Order

variable {name : String} {entries : List (String × Tree)}

/-- The order of entries with different names does not count. -/
theorem lookupAll_perm (distinct : (entries.map Prod.fst).Nodup) (h : after.Perm entries) :
    lookupAll after name = lookupAll entries name := by
  have hvalues : (lookupAll after name).Perm (lookupAll entries name) := h.filterMap _
  by_cases hmem : ∃ tree, (name, tree) ∈ entries
  · obtain ⟨tree, htree⟩ := hmem
    rw [lookupAll_of_mem distinct htree] at hvalues ⊢
    exact List.perm_singleton.mp hvalues
  · rw [lookupAll_eq_nil (not_exists.mp hmem)] at hvalues ⊢
    exact hvalues.eq_nil

/-- Each value is the one that it was, but for the order of its own entries. -/
theorem lookupAll_map {part : String × Tree → Tree}
    (parts : ∀ p ∈ entries, Reordered p.2 (part p)) :
    List.Forall₂ Reordered (lookupAll entries name)
      (lookupAll (entries.map fun p => (p.1, part p)) name) := by
  induction entries with
  | nil => exact .nil
  | cons p entries ih =>
    obtain ⟨hpart, parts⟩ := List.forall_mem_cons.mp parts
    unfold lookupAll at ih ⊢
    by_cases hname : p.1 = name
    · simpa [hname] using And.intro hpart (ih parts)
    · simpa [hname] using ih parts

theorem lookupAll_rearranged (distinct : (entries.map Prod.fst).Nodup)
    (h : Rearranged entries after) :
    List.Forall₂ Reordered (lookupAll entries name) (lookupAll after name) := by
  obtain ⟨part, parts, hperm⟩ := h
  have hnames : (entries.map fun p => (p.1, part p)).map Prod.fst = entries.map Prod.fst := by
    rw [List.map_map]
    rfl
  rw [lookupAll_perm (hnames ▸ distinct) hperm]
  exact lookupAll_map parts

/-- Only tables have an order. -/
theorem eq_of_reordered {values values' : List Tree} (h : List.Forall₂ Reordered values values')
    (flat : ∀ inner, .table inner ∉ values) : values' = values := by
  induction h with
  | nil => rfl
  | cons hvalue _ ih =>
    obtain ⟨hhead, htail⟩ :=
      forall_and.mp fun inner => not_or.mp (List.mem_cons.not.mp (flat inner))
    cases hvalue with
    | same => rw [ih htail]
    | table => exact absurd rfl (hhead _)

variable {after' : List (String × Tree)}

theorem Edited.of_perm (h : Edited fields deleted before after)
    (distinct : (after.map Prod.fst).Nodup) (hperm : after'.Perm after) :
    Edited fields deleted before after' := by
  intro name hname
  rw [lookupAll_perm distinct hperm, h name hname]

/-- An edit of settings is the same in another order. -/
theorem Edited.rearranged (h : Edited fields deleted before after) (hbefore : SettingsTable before)
    (hdoc : SettingsDocument after) (horder : Rearranged after after') :
    Edited fields deleted before after' := by
  intro name hname
  have hvalues : List.Forall₂ Reordered (lookupAll after name) (lookupAll after' name) :=
    lookupAll_rearranged hdoc.distinct horder
  rw [← h name hname]
  apply eq_of_reordered hvalues
  intro inner hinner
  rw [h name hname] at hinner
  split at hinner
  next => cases hinner
  next => cases hbefore.settings _ (Tree.mem_lookupAll_iff.mp hinner)

/-- A table that was not deleted may have another order itself, and the edits of its own
    entries are the same in it. -/
theorem exists_table_rearranged {inner : List (String × Tree)}
    (hvalue : lookupAll after name = if name ∈ deleted then [] else [.table inner])
    (hdoc : SettingsDocument after) (horder : Rearranged after after') :
    ∃ inner', (lookupAll after' name = if name ∈ deleted then [] else [.table inner']) ∧
      ∀ {fields deleted before}, Edited fields deleted before inner →
        Edited fields deleted before inner' := by
  -- The keys of the document are distinct, so its values change by `Reordered` only.
  have hvalues : List.Forall₂ Reordered (lookupAll after name) (lookupAll after' name) :=
    lookupAll_rearranged hdoc.distinct horder
  rw [hvalue] at hvalues
  by_cases hdeleted : name ∈ deleted
  · rw [if_pos hdeleted] at hvalues
    refine ⟨inner, ?_, id⟩
    rw [if_pos hdeleted]
    exact List.forall₂_nil_left_iff.mp hvalues
  · rw [if_neg hdeleted] at hvalue hvalues
    obtain ⟨tree, rest, htree, hrest, hafter⟩ := List.forall₂_cons_left_iff.mp hvalues
    obtain rfl := List.forall₂_nil_left_iff.mp hrest
    have hmem : (name, .table inner) ∈ after :=
      Tree.mem_lookupAll_iff.mp (hvalue ▸ List.mem_singleton_self _)
    have hinner : SettingsTable inner := by
      obtain hsetting | ⟨_, heq, hinner⟩ := hdoc.settings _ hmem
      · cases hsetting
      · cases heq
        exact hinner
    cases htree with
    | same => exact ⟨inner, by rw [if_neg hdeleted, hafter], id⟩
    | @table _ inner' perm =>
      refine ⟨inner', by rw [if_neg hdeleted, hafter], ?_⟩
      intro fields deleted before hedit
      exact hedit.of_perm hinner.distinct perm

end Order

/-- What is spelled by entries in every order is read from every document of them. -/
theorem readFrom {α : Type} {toml : Codec (List (String × Tree))} (hkeeps : toml.KeepsSettings)
    {ofTree? : Tree → Option α} {s : α} (hself : ofTree? (.table after) = some s)
    (horder : SettingsDocument after → ∀ after', Rearranged after after' →
      ofTree? (.table after') = some s) :
    ReadFrom toml after (fun text => do ofTree? (← toml.parse? text)) s := by
  constructor
  · intro text htext
    simp [htext, hself]
  · intro hdoc
    obtain ⟨after', hafter, hread⟩ := hkeeps.read_back after hdoc
    simp [hread, horder hdoc after' hafter]

/-! ## Fields with defaults -/

/-- A field that is read has its default where it was deleted. -/
theorem orDefault_ite {α : Type} {read : Tree → Option α} {tree : Tree} {value : α}
    (h : read tree = some value) (default : α) (c : Prop) [Decidable c] :
    orDefault read default (if c then none else some tree) =
      some (if c then default else value) := by
  split
  next => rfl
  next => exact h

theorem orDefault_text (text default : String) (c : Prop) [Decidable c] :
    orDefault Tree.text? default (if c then none else some (.text text)) =
      some (if c then default else text) :=
  orDefault_ite (show Tree.text? (.text text) = some text from rfl) default c

theorem orDefault_flag (b default : Bool) (c : Prop) [Decidable c] :
    orDefault Tree.flag? default (if c then none else some (.flag b)) =
      some (if c then default else b) :=
  orDefault_ite (show Tree.flag? (.flag b) = some b from rfl) default c

theorem orDefault_texts (texts default : List String) (c : Prop) [Decidable c] :
    orDefault Tree.texts? default (if c then none else some (.list (texts.map .text))) =
      some (if c then default else texts) := by
  have hread : Tree.texts? (.list (texts.map .text)) = some texts := by
    change (texts.map Tree.text).mapM Tree.text? = some texts
    have hall : ∀ text ∈ texts, (Tree.text? ∘ Tree.text) text = some (id text) :=
      fun _ _ => rfl
    rw [List.mapM_map, mapM_eq_map hall, List.map_id]
  exact orDefault_ite hread default c

/-! ## Settings of a host -/

namespace HostSettings

/-- The settings where the fields of these names have their defaults. -/
def reset (programName : String) (names : List String) (s : HostSettings) : HostSettings :=
  let standard : HostSettings := { programName }
  { programName := if "program_name" ∈ names then standard.programName else s.programName
    caseInsensitive :=
      if "case_insensitive" ∈ names then standard.caseInsensitive else s.caseInsensitive
    readdirPlus := if "readdir_plus" ∈ names then standard.readdirPlus else s.readdirPlus
    deleteAccess := if "delete_access" ∈ names then standard.deleteAccess else s.deleteAccess
    openTrunc := if "open_trunc" ∈ names then standard.openTrunc else s.openTrunc
    directIo := if "direct_io" ∈ names then standard.directIo else s.directIo
    signalUnmount := if "signal_unmount" ∈ names then standard.signalUnmount else s.signalUnmount
    options := if "options" ∈ names then standard.options else s.options }

/-- The values of the fields. -/
def values (s : HostSettings) : List (String × Option Tree) :=
  s.entries.map fun (name, tree) => (name, some tree)

theorem values_distinct (s : HostSettings) : (s.values.map Prod.fst).Nodup := by
  change fieldNames.Nodup
  decide

/-- The settings after an edit of their entries. -/
theorem ofTree?_edited (programName : String) {s : HostSettings}
    (h : Edited fieldNames deleted s.entries after) :
    ofTree? programName (.table after) = some (s.reset programName deleted) := by
  have hfields : Tree.fields? Tree.lenient fieldNames (.table after) =
      some (s.values.map fun p => if p.1 ∈ deleted then none else p.2) :=
    Edited.fields?_eq s.values_distinct h Tree.lenient
  unfold ofTree?
  rw [hfields]
  simp only [values, entries, List.map_cons, List.map_nil, orDefault_text, orDefault_flag,
    orDefault_texts]
  rfl

theorem settingsTable (s : HostSettings) : SettingsTable s.entries where
  distinct := show fieldNames.Nodup by decide
  bare p hp := by
    have hnames : ∀ name ∈ fieldNames, Toml.IsBare name := by decide
    exact hnames p.1 (show p.1 ∈ s.entries.map Prod.fst from List.mem_map_of_mem hp)
  settings := by
    simp only [entries, List.forall_mem_cons]
    exact ⟨.text _, .flag _, .flag _, .flag _, .flag _, .flag _, .flag _, .texts _, by simp⟩

end HostSettings

/-! ## Settings of the log -/

namespace LogSettings

/-- The settings where the fields of these names have their defaults. -/
def reset (names : List String) (s : LogSettings) : LogSettings :=
  let standard : LogSettings := {}
  { level := if "level" ∈ names then standard.level else s.level
    logDir := if "log_dir" ∈ names then standard.logDir else s.logDir
    filePrefix := if "file_prefix" ∈ names then standard.filePrefix else s.filePrefix
    rotation := if "rotation" ∈ names then standard.rotation else s.rotation
    jsonFormat := if "json_format" ∈ names then standard.jsonFormat else s.jsonFormat
    consoleOutput := if "console_output" ∈ names then standard.consoleOutput else s.consoleOutput }

/-- The values of the fields. -/
def values (s : LogSettings) : List (String × Option Tree) :=
  [("level", some (.text s.level)), ("log_dir", s.logDir.map .text),
    ("file_prefix", some (.text s.filePrefix)), ("rotation", some (.text s.rotation)),
    ("json_format", some (.flag s.jsonFormat)), ("console_output", some (.flag s.consoleOutput))]

theorem values_distinct (s : LogSettings) : (s.values.map Prod.fst).Nodup := by
  change fieldNames.Nodup
  decide

theorem present_values (s : LogSettings) : present s.values = s.entries := by
  unfold present values entries
  cases s.logDir with
  | none => rfl
  | some dir => rfl

/-- The directory, too, is none where it was deleted. -/
theorem orDefault_logDir (logDir : Option String) (c : Prop) [Decidable c] :
    orDefault (fun tree => tree.text?.map some) none
      (if c then none else logDir.map Tree.text) = some (if c then none else logDir) := by
  split
  next => rfl
  next => cases logDir with
    | none => rfl
    | some dir => rfl

/-- The settings after an edit of their entries. -/
theorem ofTree?_edited {s : LogSettings} (h : Edited fieldNames deleted s.entries after) :
    ofTree? (.table after) = some (s.reset deleted) := by
  have hfields : Tree.fields? Tree.lenient fieldNames (.table after) =
      some (s.values.map fun p => if p.1 ∈ deleted then none else p.2) := by
    rw [← s.present_values] at h
    exact Edited.fields?_eq s.values_distinct h Tree.lenient
  unfold ofTree?
  rw [hfields]
  simp only [values, List.map_cons, List.map_nil, orDefault_text, orDefault_flag,
    orDefault_logDir]
  rfl

theorem settingsTable (s : LogSettings) : SettingsTable s.entries where
  distinct := by
    rw [← s.present_values]
    exact present_distinct s.values_distinct
  bare p hp := by
    have hnames : ∀ name ∈ fieldNames, Toml.IsBare name := by decide
    rw [← s.present_values] at hp
    exact hnames p.1 (show p.1 ∈ s.values.map Prod.fst from mem_names (mem_present_iff.mp hp))
  settings := by
    unfold entries
    cases s.logDir <;> simp [Setting.text, Setting.flag]

end LogSettings

/-! ## Settings of the probe -/

namespace ProbeSettings

/-- The settings where the tables and the fields of these names have their defaults. -/
def reset (programName : String) (tables logNames hostNames : List String) (s : ProbeSettings) :
    ProbeSettings where
  log := if "log" ∈ tables then (standard programName).log else s.log.reset logNames
  host := if "host" ∈ tables then (standard programName).host
    else s.host.reset programName hostNames

/-- The settings after an edit of their entries and of the entries of each table. -/
theorem ofTree?_edited (programName : String) {s : ProbeSettings}
    {tables logNames hostNames : List String} {log host : List (String × Tree)}
    (hlog : Edited LogSettings.fieldNames logNames s.log.entries log)
    (hhost : Edited HostSettings.fieldNames hostNames s.host.entries host)
    (h : Edited fieldNames tables [("log", .table log), ("host", .table host)] after) :
    ofTree? programName (.table after) =
      some (s.reset programName tables logNames hostNames) := by
  let values : List (String × Option Tree) :=
    [("log", some (.table log)), ("host", some (.table host))]
  have distinct : (values.map Prod.fst).Nodup := by
    change fieldNames.Nodup
    decide
  have hfields : Tree.fields? Tree.lenient fieldNames (.table after) =
      some (values.map fun p => if p.1 ∈ tables then none else p.2) :=
    Edited.fields?_eq distinct h Tree.lenient
  unfold ofTree?
  rw [hfields]
  simp only [values, List.map_cons, List.map_nil, orDefault_ite (LogSettings.ofTree?_edited hlog),
    orDefault_ite (HostSettings.ofTree?_edited programName hhost)]
  rfl

theorem settingsDocument (s : ProbeSettings) : SettingsDocument s.entries where
  distinct := show fieldNames.Nodup by decide
  bare p hp := by
    have hnames : ∀ name ∈ fieldNames, Toml.IsBare name := by decide
    exact hnames p.1 (show p.1 ∈ s.entries.map Prod.fst from List.mem_map_of_mem hp)
  settings := by
    simp only [entries, List.forall_mem_cons]
    exact ⟨.inr ⟨_, rfl, s.log.settingsTable⟩, .inr ⟨_, rfl, s.host.settingsTable⟩, by simp⟩

/-- The tables of the log and of the host may have other orders, too. -/
theorem ofTree?_rearranged (programName : String) {s : ProbeSettings}
    {tables logNames hostNames : List String} {log host after' : List (String × Tree)}
    (hlog : Edited LogSettings.fieldNames logNames s.log.entries log)
    (hhost : Edited HostSettings.fieldNames hostNames s.host.entries host)
    (h : Edited fieldNames tables [("log", .table log), ("host", .table host)] after)
    (hdoc : SettingsDocument after) (horder : Rearranged after after') :
    ofTree? programName (.table after') =
      some (s.reset programName tables logNames hostNames) := by
  obtain ⟨log', hlogValue, hlogEdit⟩ :=
    exists_table_rearranged (h "log" (by decide)) hdoc horder
  obtain ⟨host', hhostValue, hhostEdit⟩ :=
    exists_table_rearranged (h "host" (by decide)) hdoc horder
  have hafter : Edited fieldNames tables [("log", .table log'), ("host", .table host')] after' := by
    intro name hname
    obtain rfl | rfl : name = "log" ∨ name = "host" := by simpa [fieldNames] using hname
    · exact hlogValue
    · exact hhostValue
  exact ofTree?_edited programName (hlogEdit hlog) (hhostEdit hhost) hafter

end ProbeSettings

/-! ## Documents -/

/-- In every format that `KeepsSettings`, the settings of a host, of the log and of the probe are
    read back from the document that is rendered for them, and from every `Edited` document: a
    field that was deleted, or whose table was, has its default (`reset`), and every other one is
    as it was. -/
theorem edited_settings (toml : Codec (List (String × Tree))) (hkeeps : toml.KeepsSettings)
    (programName : String) :
    (∀ s : HostSettings, HostSettings.parse? toml programName (s.render toml) = some s) ∧
    (∀ s : LogSettings, LogSettings.parse? toml (s.render toml) = some s) ∧
    (∀ s : ProbeSettings, ProbeSettings.parse? toml programName (s.render toml) = some s) ∧
    (∀ (s : HostSettings) (deleted : List String) (after : List (String × Tree)),
      Edited HostSettings.fieldNames deleted s.entries after →
      ReadFrom toml after (HostSettings.parse? toml programName)
        (s.reset programName deleted)) ∧
    (∀ (s : LogSettings) (deleted : List String) (after : List (String × Tree)),
      Edited LogSettings.fieldNames deleted s.entries after →
      ReadFrom toml after (LogSettings.parse? toml) (s.reset deleted)) ∧
    (∀ (s : ProbeSettings) (tables logNames hostNames : List String)
      (log host after : List (String × Tree)),
      Edited LogSettings.fieldNames logNames s.log.entries log →
      Edited HostSettings.fieldNames hostNames s.host.entries host →
      Edited ProbeSettings.fieldNames tables [("log", .table log), ("host", .table host)] after →
      ReadFrom toml after (ProbeSettings.parse? toml programName)
        (s.reset programName tables logNames hostNames)) := by
  -- Each kind of settings: first the entries as they were edited, then in any other order.
  have hhost (s : HostSettings) {deleted : List String} {after : List (String × Tree)}
      (h : Edited HostSettings.fieldNames deleted s.entries after) :
      ReadFrom toml after (HostSettings.parse? toml programName)
        (s.reset programName deleted) := by
    apply readFrom hkeeps (HostSettings.ofTree?_edited programName h)
    intro hdoc after' horder
    exact HostSettings.ofTree?_edited programName (h.rearranged s.settingsTable hdoc horder)
  have hlog (s : LogSettings) {deleted : List String} {after : List (String × Tree)}
      (h : Edited LogSettings.fieldNames deleted s.entries after) :
      ReadFrom toml after (LogSettings.parse? toml) (s.reset deleted) := by
    apply readFrom hkeeps (LogSettings.ofTree?_edited h)
    intro hdoc after' horder
    exact LogSettings.ofTree?_edited (h.rearranged s.settingsTable hdoc horder)
  have hprobe (s : ProbeSettings) {tables logNames hostNames : List String}
      {log host after : List (String × Tree)}
      (hlog : Edited LogSettings.fieldNames logNames s.log.entries log)
      (hhost : Edited HostSettings.fieldNames hostNames s.host.entries host)
      (h : Edited ProbeSettings.fieldNames tables [("log", .table log), ("host", .table host)]
        after) :
      ReadFrom toml after (ProbeSettings.parse? toml programName)
        (s.reset programName tables logNames hostNames) := by
    apply readFrom hkeeps (ProbeSettings.ofTree?_edited programName hlog hhost h)
    intro hdoc after' horder
    exact ProbeSettings.ofTree?_rearranged programName hlog hhost h hdoc horder
  -- A document that was not edited is one where nothing was deleted.
  refine ⟨?_, ?_, ?_, ?_, ?_, ?_⟩
  · intro s
    exact (hhost s (.refl _ _)).2 s.settingsTable.document
  · intro s
    exact (hlog s (.refl _ _)).2 s.settingsTable.document
  · intro s
    exact (hprobe s (.refl _ _) (.refl _ _) (.refl _ _)).2 s.settingsDocument
  · intro s deleted after
    exact hhost s
  · intro s deleted after
    exact hlog s
  · intro s tables logNames hostNames log host after
    exact hprobe s

/-- The table of the log is deleted, and all of the host's but for two fields; three keys
    are added, one of them beside the tables. -/
theorem edited_settings_options :
    ProbeSettings.parse? Toml.codec "probe" (Toml.codec.render
      [("host", .table [("direct_io", .flag true),
        ("options", .list [.text "-o", .text "fsname=\"\"\"it's\"\"\"\n"]),
        ("weight", .flag true), ("sizes", .list [])]), ("colour", .text "red")]) =
      some { host := {
        programName := "probe"
        directIo := true
        options := ["-o", "fsname=\"\"\"it's\"\"\"\n"] } } := by
  let s : ProbeSettings := {
    log := { level := "debug", logDir := some "/var/log" }
    host := {
      programName := "memfs"
      caseInsensitive := true
      directIo := true
      signalUnmount := false
      options := ["-o", "fsname=\"\"\"it's\"\"\"\n"] } }
  let host : List (String × Tree) := [("direct_io", .flag true),
    ("options", .list [.text "-o", .text "fsname=\"\"\"it's\"\"\"\n"]),
    ("weight", .flag true), ("sizes", .list [])]
  let after : List (String × Tree) := [("host", .table host), ("colour", .text "red")]
  -- The table of the log goes as a whole, and that of the host loses six of its keys.
  have hlog : Edited LogSettings.fieldNames [] s.log.entries s.log.entries := .refl _ _
  have hhost : Edited HostSettings.fieldNames ["program_name", "case_insensitive", "readdir_plus",
      "delete_access", "open_trunc", "signal_unmount"] s.host.entries host :=
    edited_filter_append _ _ [("weight", .flag true), ("sizes", .list [])] (by decide)
  have hafter : Edited ProbeSettings.fieldNames ["log"]
      [("log", .table s.log.entries), ("host", .table host)] after :=
    edited_filter_append _ _ [("colour", .text "red")] (by decide)
  have htable : SettingsTable host := by
    refine ⟨by decide, by decide, ?_⟩
    simp only [host, List.forall_mem_cons]
    exact ⟨.flag _, .texts ["-o", _], .flag _, .texts [], by simp⟩
  have hdoc : SettingsDocument after := by
    refine ⟨by decide, by decide, ?_⟩
    simp only [after, List.forall_mem_cons]
    exact ⟨.inr ⟨host, rfl, htable⟩, .inl (.text _), by simp⟩
  exact ((edited_settings Toml.codec Toml.keepsSettings "probe").2.2.2.2.2 s ["log"] [] _ _ host
    after hlog hhost hafter).2 hdoc

end HostedFs
