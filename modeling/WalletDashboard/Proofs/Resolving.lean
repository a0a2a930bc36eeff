import WalletDashboard.Proofs.Layering

/-!
# Where every setting comes from

Each of the seven settings (`SettingField`) comes from its variable in the environment, if there is
one, otherwise from its entry in the file, and otherwise it has its default (`resolve?`). It does
not matter where the others come from.

* `Sources`: what a file and the environment say. `Sources.WellFormed`: the keys of the file differ in
  more than case, its two sections are tables, and the variables for settings are each for a setting
  of a section.
* `exists_overlayAll?`: what the layers leave, setting by setting.
* `SettingField.ofSetting?_eq_some_iff`: the sections are read setting by setting.
* `Settings.validate_eq`: the checks, and their order.

`loadFound_resolves` puts them together.
-/

namespace WalletDashboard

/-! ### The settings -/

/-- One of the settings: its section and name, how its value is read, and its default. -/
structure SettingField (α : Type) where
  part : String
  name : String
  read : Setting → Option α
  default : α
  /-- The setting in the record of them all. -/
  get : Settings → α
  /-- A table is not the value of a setting. -/
  read_table : ∀ es, read (.table es) = none

namespace SettingField

/-- Whether the service in memory is used. -/
def useMemory : SettingField Bool where
  part := "service"
  name := "memory_service"
  read := Setting.flag?
  default := false
  get s := s.service.useMemory
  read_table _ := rfl

/-- The address of the node. -/
def apiUrl : SettingField String where
  part := "service"
  name := "api_url"
  read := Setting.text?
  default := "http://127.0.0.1:3001/rpc"
  get s := s.service.apiUrl
  read_table _ := rfl

/-- How long the node may take to answer. -/
def timeoutSeconds : SettingField UInt64 where
  part := "service"
  name := "timeout_secs"
  read := Setting.word?
  default := 10
  get s := s.service.timeoutSeconds
  read_table _ := rfl

/-- The length of a page. -/
def pageSize : SettingField UInt64 where
  part := "dashboard"
  name := "page_size"
  read := Setting.word?
  default := 6
  get s := s.dashboard.pageSize
  read_table _ := rfl

/-- The time between two refreshes. -/
def refreshSeconds : SettingField UInt64 where
  part := "dashboard"
  name := "refresh_interval_secs"
  read := Setting.word?
  default := 15
  get s := s.dashboard.refreshSeconds
  read_table _ := rfl

/-- How many blocks are asked for. -/
def recentBlocks : SettingField UInt64 where
  part := "dashboard"
  name := "recent_blocks"
  read := Setting.word?
  default := 50
  get s := s.dashboard.recentBlocks
  read_table _ := rfl

/-- The key or phrase that is imported at the start. -/
def importKey : SettingField (Option String) where
  part := "dashboard"
  name := "import_key"
  read := Setting.optionalText?
  default := none
  get s := s.dashboard.importKey
  read_table _ := rfl

/-- All seven settings. -/
def all : List (Σ α : Type, SettingField α) :=
  [⟨_, useMemory⟩, ⟨_, apiUrl⟩, ⟨_, timeoutSeconds⟩, ⟨_, pageSize⟩, ⟨_, refreshSeconds⟩,
    ⟨_, recentBlocks⟩, ⟨_, importKey⟩]

variable {α : Type} (f : SettingField α)

/-- The setting as it is read from a value, or its default. -/
def readOr (v : Option Setting) : Option α :=
  match v with
  | some v => f.read v
  | none => some f.default

/-- The setting as it is found in a table of sections. -/
def find (root : Setting) : Option α := f.readOr (root.field? f.part f.name)

/-- It makes no difference to put a value over an empty table. -/
theorem read_mergeInto (v : Setting) : f.read (Setting.mergeInto (.table []) v) = f.read v := by
  cases v with
  | table es =>
    obtain ⟨merged, h⟩ := Setting.exists_mergeEntries_eq [] es
    rw [Setting.mergeInto, h, f.read_table, f.read_table]
  | _ => rw [Setting.mergeInto]; simp

theorem readOr_or (above below : Option Setting) :
    f.readOr (above.or (below.map (Setting.mergeInto (.table [])))) = f.readOr (above.or below) := by
  cases above with
  | some v => rfl
  | none =>
    cases below with
    | some v => exact f.read_mergeInto v
    | none => rfl

theorem isPart_of_mem :
    ∀ f ∈ all, IsPart f.2.part ∧ f.2.part ∈ Setting.partNames ∧ IsName f.2.name := by
  simp only [all, List.forall_mem_cons]
  decide

end SettingField

/-! ### Reading the sections -/

namespace SettingField

section Finding

variable {α : Type} {f : SettingField α} {es inner : List (String × Setting)}

theorem find_of_lookup_eq_none (h : es.lookup f.part = none) :
    f.find (.table es) = some f.default := by
  rw [find, Setting.field?, Setting.entries_table, h]
  rfl

theorem find_of_lookup_eq_some (h : es.lookup f.part = some (.table inner)) (position : Nat) :
    f.find (.table es) = (Setting.table inner).partOr position f.name f.read f.default := by
  rw [find, Setting.field?, Setting.entries_table, h]
  rfl

end Finding

variable {root : Setting}

/-- The section of the service is read setting by setting, also if there is none. -/
theorem service_eq (h : root.Sectioned) :
    root.partOr 0 "service" ServiceSettings.ofSection? {} = (do
      let useMemory ← useMemory.find root
      let apiUrl ← apiUrl.find root
      let timeoutSeconds ← timeoutSeconds.find root
      return { useMemory, apiUrl, timeoutSeconds }) := by
  obtain ⟨es, rfl⟩ := h.isTable
  cases hpart : es.lookup "service" with
  | none =>
    rw [find_of_lookup_eq_none hpart, find_of_lookup_eq_none hpart, find_of_lookup_eq_none hpart]
    simp only [Setting.partOr, Setting.part?, hpart]
    rfl
  | some v =>
    obtain ⟨inner, rfl⟩ := h.parts "service" (by decide) v hpart
    rw [find_of_lookup_eq_some hpart 0, find_of_lookup_eq_some hpart 1,
      find_of_lookup_eq_some hpart 2, Setting.partOr, Setting.part?, hpart]
    rfl

/-- The section of the dashboard is read setting by setting, also if there is none. -/
theorem dashboard_eq (h : root.Sectioned) :
    root.partOr 1 "dashboard" DashboardSettings.ofSection? {} = (do
      let pageSize ← pageSize.find root
      let refreshSeconds ← refreshSeconds.find root
      let recentBlocks ← recentBlocks.find root
      let importKey ← importKey.find root
      return { pageSize, refreshSeconds, recentBlocks, importKey }) := by
  obtain ⟨es, rfl⟩ := h.isTable
  cases hpart : es.lookup "dashboard" with
  | none =>
    rw [find_of_lookup_eq_none hpart, find_of_lookup_eq_none hpart, find_of_lookup_eq_none hpart,
      find_of_lookup_eq_none hpart]
    simp only [Setting.partOr, Setting.part?, hpart]
    rfl
  | some v =>
    obtain ⟨inner, rfl⟩ := h.parts "dashboard" (by decide) v hpart
    rw [find_of_lookup_eq_some hpart 0, find_of_lookup_eq_some hpart 1,
      find_of_lookup_eq_some hpart 2, find_of_lookup_eq_some hpart 3]
    simp only [Setting.partOr, Setting.part?, hpart]
    rfl

/-- There are settings if every single one is found, and then they are what is found. -/
theorem ofSetting?_eq_some_iff (h : root.Sectioned) (settings : Settings) :
    Settings.ofSetting? root = some settings ↔
      ∀ f ∈ all, f.2.find root = some (f.2.get settings) := by
  rw [Settings.ofSetting?, service_eq h, dashboard_eq h]
  simp only [all, List.forall_mem_cons]
  constructor
  · intro hread
    obtain ⟨service, hservice, hread⟩ := Option.bind_eq_some_iff.mp hread
    obtain ⟨dashboard, hdashboard, hread⟩ := Option.bind_eq_some_iff.mp hread
    obtain ⟨useMemory, h₁, hservice⟩ := Option.bind_eq_some_iff.mp hservice
    obtain ⟨apiUrl, h₂, hservice⟩ := Option.bind_eq_some_iff.mp hservice
    obtain ⟨timeoutSeconds, h₃, hservice⟩ := Option.bind_eq_some_iff.mp hservice
    obtain ⟨pageSize, h₄, hdashboard⟩ := Option.bind_eq_some_iff.mp hdashboard
    obtain ⟨refreshSeconds, h₅, hdashboard⟩ := Option.bind_eq_some_iff.mp hdashboard
    obtain ⟨recentBlocks, h₆, hdashboard⟩ := Option.bind_eq_some_iff.mp hdashboard
    obtain ⟨importKey, h₇, hdashboard⟩ := Option.bind_eq_some_iff.mp hdashboard
    obtain rfl := Option.some.inj hservice
    obtain rfl := Option.some.inj hdashboard
    obtain rfl := Option.some.inj hread
    exact ⟨h₁, h₂, h₃, h₄, h₅, h₆, h₇, fun f hf => by cases hf⟩
  · rintro ⟨h₁, h₂, h₃, h₄, h₅, h₆, h₇, -⟩
    rw [h₁, h₂, h₃, h₄, h₅, h₆, h₇]
    rfl

/-- There are no settings if one of them is not found. -/
theorem ofSetting?_eq_none_iff (h : root.Sectioned) :
    Settings.ofSetting? root = none ↔ ∃ f ∈ all, f.2.find root = none := by
  constructor
  · intro hnone
    by_contra hall
    simp only [not_exists, not_and, ← ne_eq, Option.ne_none_iff_exists', all,
      List.forall_mem_cons] at hall
    obtain ⟨⟨useMemory, h₁⟩, ⟨apiUrl, h₂⟩, ⟨timeoutSeconds, h₃⟩, ⟨pageSize, h₄⟩,
      ⟨refreshSeconds, h₅⟩, ⟨recentBlocks, h₆⟩, ⟨importKey, h₇⟩, -⟩ := hall
    have hsome := (ofSetting?_eq_some_iff h
      ⟨⟨useMemory, apiUrl, timeoutSeconds⟩, ⟨pageSize, refreshSeconds, recentBlocks, importKey⟩⟩).mpr
      (by
        simp only [all, List.forall_mem_cons]
        exact ⟨h₁, h₂, h₃, h₄, h₅, h₆, h₇, fun f hf => by cases hf⟩)
    rw [hnone] at hsome
    cases hsome
  · rintro ⟨f, hf, hnone⟩
    refine Option.eq_none_iff_forall_ne_some.mpr fun settings hsome => ?_
    rw [(ofSetting?_eq_some_iff h settings).mp hsome f hf] at hnone
    cases hnone

end SettingField

/-! ### What a file and the environment say -/

/-- The entries of the file that is found at a path, given its extension and its content. There are
none if there is no file, or if it does not count. -/
def entriesFound? (readers : FileReaders) (found : Option (String × String)) :
    Option (List (String × Setting)) :=
  match found with
  | none => some []
  | some (extension, content) =>
    match SettingsFile.ofExtension? extension content with
    | none => some []
    | some file => file.entries? readers

/-- What a file and the environment say. -/
structure Sources where
  entries : List (String × Setting)
  environment : List (String × String)

namespace Sources

/-- No two keys of the file differ in case only. What counts in it are its two sections, which are
tables: the only keys that lead there are their names. All other keys may lead anywhere, but not to
an item that no list can have. A variable with the mark of the settings is for one setting of a
section. -/
structure WellFormed (s : Sources) : Prop where
  keysDiffer : Setting.KeysDiffer s.entries
  plain : ∀ e ∈ s.entries, Setting.rootName e.1 ∈ Setting.partNames →
    Setting.parsePath e.1 = [.key e.1]
  placed : ∃ root, Setting.overlay? (.table []) s.entries = some root
  sections : ∀ e ∈ s.entries, Text.lower e.1 ∈ Setting.partNames →
    ∃ inner, e.2 = .table inner ∧ Setting.KeysDiffer inner
  named : WellNamed s.environment

variable (s : Sources) (part name : String)

/-- The value of a setting in the environment, of the last variable for it in any case. -/
def environmentValue? : Option String :=
  (Setting.lowered s.environment).reverse.lookup (variableName part name)

/-- The value of a setting in the file, whatever the case of its keys. -/
def fileValue? : Option Setting :=
  ((Setting.lowered s.entries).lookup part).bind fun v => (Setting.lowered v.entries).lookup name

/-- The value of a setting: of its variable if there is one, otherwise of its entry in the file. -/
def source? : Option Setting :=
  ((s.environmentValue? part name).map Setting.text).or (s.fileValue? part name)

end Sources

/-- The setting as its own source gives it, or its default. -/
def SettingField.resolve? {α : Type} (f : SettingField α) (s : Sources) : Option α :=
  f.readOr (s.source? f.part f.name)

/-- Every setting is what its own source gives. -/
def Sources.Resolve (s : Sources) (settings : Settings) : Prop :=
  ∀ f ∈ SettingField.all, f.2.resolve? s = some (f.2.get settings)

/-! ### The layers -/

section Layers

variable {s : Sources} (h : s.WellFormed)
include h

section File

variable {root : Setting} (hroot : Setting.overlay? (.table []) s.entries = some root) {part : String}
include hroot

theorem lookup_file (hpart : part ∈ Setting.partNames) :
    root.entries.lookup part =
      ((Setting.lowered s.entries).lookup part).map (Setting.mergeInto (.table [])) := by
  rw [(Setting.lookup_overlay? h.keysDiffer h.plain ⟨[], rfl⟩ hroot).2 part hpart]
  simp

theorem sectioned_file : root.Sectioned where
  isTable := (Setting.lookup_overlay? h.keysDiffer h.plain ⟨[], rfl⟩ hroot).1
  parts part hpart v hv := by
    rw [lookup_file h hroot hpart] at hv
    obtain ⟨value, hvalue, rfl⟩ := Option.map_eq_some_iff.mp hv
    obtain ⟨e, he, rfl, rfl⟩ := Setting.mem_lowered_of_lookup hvalue
    obtain ⟨inner, htable, -⟩ := h.sections e he hpart
    rw [htable, Setting.mergeInto]
    exact Setting.exists_mergeEntries_eq [] inner

theorem field?_file (hpart : part ∈ Setting.partNames) (name : String) :
    root.field? part name = (s.fileValue? part name).map (Setting.mergeInto (.table [])) := by
  rw [Setting.field?, lookup_file h hroot hpart, Sources.fileValue?]
  cases hlookup : (Setting.lowered s.entries).lookup part with
  | none => rfl
  | some v =>
    obtain ⟨e, he, rfl, rfl⟩ := Setting.mem_lowered_of_lookup hlookup
    obtain ⟨inner, htable, hinner⟩ := h.sections e he hpart
    rw [htable, Option.map_some, Option.bind_some, Option.bind_some, Setting.mergeInto,
      Setting.lookup_mergeEntries hinner]
    simp

end File

/-- What the layers leave: of every setting its own source. -/
theorem exists_overlayAll? :
    ∃ root, Setting.overlayAll? [s.entries, environmentLayer s.environment] = some root ∧
      root.Sectioned ∧ ∀ f ∈ SettingField.all, f.2.find root = f.2.resolve? s := by
  obtain ⟨below, hbelow⟩ := h.placed
  obtain ⟨root, hroot, hsections, hfields⟩ :=
    Setting.exists_overlay? (fun e => isFieldEntry_of_mem h.named)
      (sorted_environmentLayer s.environment).nodup (sectioned_file h hbelow)
  refine ⟨root, ?_, hsections, fun f hf => ?_⟩
  · rw [Setting.overlayAll?, List.foldlM_cons, hbelow]
    simpa using hroot
  · obtain ⟨hpart, hmem, hname⟩ := SettingField.isPart_of_mem f hf
    rw [SettingField.find, SettingField.resolve?, hfields _ _ hpart.toIsName hname,
      lookup_environmentLayer h.named hpart hname, field?_file h hbelow hmem, f.2.readOr_or]
    rfl

end Layers

/-! ### The checks -/

theorem DashboardSettings.pages_of_eq_zero {s : DashboardSettings} (h : s.pageSize = 0) :
    s.pages = .error (.config "dashboard.page_size must be at least 1") := by
  rw [DashboardSettings.pages, h]
  rfl

theorem DashboardSettings.pages_of_ne_zero {s : DashboardSettings} (h : s.pageSize ≠ 0) :
    ∃ size, s.pages = .ok size ∧ size.size = s.pageSize.toNat := by
  have hpos : 0 < s.pageSize.toNat := by
    refine Nat.pos_of_ne_zero fun hzero => h (UInt64.toNat_inj.mp ?_)
    rw [hzero]
    rfl
  refine ⟨⟨s.pageSize.toNat, hpos⟩, ?_, rfl⟩
  rw [DashboardSettings.pages, PageSize.ofNat?, dif_pos hpos]

namespace Settings

/-- Why the settings cannot be used, if they cannot: the first of three reasons. -/
def objection? (settings : Settings) : Option String :=
  if settings.dashboard.pageSize = 0 then some "dashboard.page_size must be at least 1"
  else if settings.dashboard.refreshSeconds = 0 then
    some "dashboard.refresh_interval_secs must be at least 1"
  else if settings.service.useMemory = false ∧ Text.trim settings.service.apiUrl = "" then
    some "service.api_url is required for the remote service"
  else none

/-- The settings can be used if nothing is said against them. -/
theorem validate_eq (settings : Settings) :
    settings.validate =
      match settings.objection? with
      | some message => .error (.config message)
      | none => .ok () := by
  rw [validate, objection?]
  by_cases hpages : settings.dashboard.pageSize = 0
  · rw [DashboardSettings.pages_of_eq_zero hpages, if_pos hpages]
    rfl
  · obtain ⟨size, hsize, -⟩ := DashboardSettings.pages_of_ne_zero hpages
    rw [hsize, if_neg hpages]
    by_cases hrefresh : settings.dashboard.refreshSeconds = 0
    · simp only [if_pos hrefresh]
      rfl
    · simp only [if_neg hrefresh]
      by_cases hurl : settings.service.useMemory = false ∧ Text.trim settings.service.apiUrl = ""
      · simp only [hurl.1, hurl.2]
        rfl
      · have hcode : ¬ (!settings.service.useMemory &&
            decide (Text.trim settings.service.apiUrl = "")) = true := by simpa using hurl
        simp only [if_neg hurl, if_neg hcode]
        rfl

theorem one_le_iff_ne_zero {n : UInt64} : 1 ≤ n ↔ n ≠ 0 := by
  rw [UInt64.le_iff_toNat_le, ne_eq, ← UInt64.toNat_inj]
  change 1 ≤ n.toNat ↔ ¬ n.toNat = 0
  omega

theorem objection?_eq_none_iff (settings : Settings) :
    settings.objection? = none ↔
      1 ≤ settings.dashboard.pageSize ∧ 1 ≤ settings.dashboard.refreshSeconds ∧
        (settings.service.useMemory = true ∨ Text.trim settings.service.apiUrl ≠ "") := by
  rw [one_le_iff_ne_zero, one_le_iff_ne_zero, objection?]
  split_ifs with hpages hrefresh hurl
  · simp [hpages]
  · simp [hrefresh]
  · simp [hurl]
  · simpa [hpages, hrefresh, imp_iff_not_or] using hurl

end Settings

/-! ### Loading -/

/-- What is loaded if these settings were read, or none. -/
def settled (resolved : Option Settings) : Except LoadError Settings :=
  match resolved with
  | none => .error .unreadable
  | some settings =>
    match settings.objection? with
    | some message => .error (.refused (.config message))
    | none => .ok settings

theorem settled_eq (resolved : Option Settings) :
    settled resolved =
      match resolved with
      | none => Except.error LoadError.unreadable
      | some settings =>
        match settings.validate with
        | .ok () => .ok settings
        | .error failure => .error (.refused failure) := by
  cases resolved with
  | none => rfl
  | some settings =>
    simp only [settled, Settings.validate_eq]
    cases settings.objection? <;> rfl

theorem settled_eq_ok_iff {resolved : Option Settings} {settings : Settings} :
    settled resolved = .ok settings ↔ resolved = some settings ∧ settings.objection? = none := by
  cases resolved with
  | none => simp [settled]
  | some read =>
    cases hobjection : read.objection? with
    | none =>
      simp only [settled, hobjection, Except.ok.injEq, Option.some.injEq]
      exact ⟨fun heq => ⟨heq, heq ▸ hobjection⟩, And.left⟩
    | some message =>
      simp only [settled, hobjection, reduceCtorEq, Option.some.injEq, false_iff, not_and]
      rintro rfl hnone
      rw [hobjection] at hnone
      cases hnone

theorem load_of_overlayAll? {readers : FileReaders} {file : Option SettingsFile}
    {entries : List (String × Setting)}
    (hfile : file.elim (some []) (SettingsFile.entries? readers) = some entries)
    {environment : List (String × String)} {root : Setting}
    (hroot : Setting.overlayAll? [entries, environmentLayer environment] = some root) :
    Settings.load file environment readers = settled (Settings.ofSetting? root) := by
  unfold Settings.load
  cases file with
  | none =>
    obtain rfl := Option.some.inj hfile
    simp only [bind, Except.bind, hroot]
    exact (settled_eq _).symm
  | some file =>
    have hentries : file.entries? readers = some entries := hfile
    simp only [hentries, Option.map_some, Option.getD_some, bind, Except.bind, hroot]
    exact (settled_eq _).symm

theorem elim_entries? (readers : FileReaders) (found : Option (String × String)) :
    (found.bind fun (extension, content) => SettingsFile.ofExtension? extension content).elim
      (some []) (SettingsFile.entries? readers) = entriesFound? readers found := by
  cases found with
  | none => rfl
  | some f =>
    obtain ⟨extension, content⟩ := f
    simp only [entriesFound?, Option.bind_some]
    cases SettingsFile.ofExtension? extension content <;> rfl

section Loading

variable {readers : FileReaders} {found : Option (String × String)} {s : Sources}
variable (hread : entriesFound? readers found = some s.entries) (h : s.WellFormed)
include hread h

/-- What is loaded, in terms of what the sources give. -/
theorem exists_loadFound_eq :
    ∃ resolved : Option Settings,
      (∀ settings, resolved = some settings ↔ s.Resolve settings) ∧
      (resolved = none ↔ ∃ f ∈ SettingField.all, f.2.resolve? s = none) ∧
      Settings.loadFound found s.environment readers = settled resolved := by
  obtain ⟨root, hroot, hsections, hfind⟩ := exists_overlayAll? h
  refine ⟨Settings.ofSetting? root, fun settings => ?_, ?_, ?_⟩
  · rw [SettingField.ofSetting?_eq_some_iff hsections]
    exact forall₂_congr fun f hf => by rw [hfind f hf]
  · rw [SettingField.ofSetting?_eq_none_iff hsections]
    exact exists_congr fun f => and_congr_right fun hf => by rw [hfind f hf]
  · exact load_of_overlayAll? ((elim_entries? readers found).trans hread) hroot

theorem loadFound_eq_ok_iff (settings : Settings) :
    Settings.loadFound found s.environment readers = .ok settings ↔
      s.Resolve settings ∧ settings.objection? = none := by
  obtain ⟨resolved, hsome, -, hload⟩ := exists_loadFound_eq hread h
  rw [hload, settled_eq_ok_iff, hsome]

end Loading

/-- Two sources that agree on a setting give the same. -/
theorem SettingField.resolve?_congr {α : Type} (f : SettingField α) {s s' : Sources}
    (h : s'.source? f.part f.name = s.source? f.part f.name) : f.resolve? s' = f.resolve? s := by
  rw [resolve?, resolve?, h]

end WalletDashboard
