import WalletDashboard.Json.Read
import WalletDashboard.Settings
import WalletDashboard.Settings.Layers
import WalletDashboard.Toml.Read

/-!
# Loading the settings

The settings come from a file, over which the environment is laid (`Settings.load`). Its extension
says which of the formats of `FileFormat` a file is in; a file with another extension does not count.
TOML and JSON are read here. The readers of the other formats are given from outside (`FileReaders`).

A variable of the environment is a setting if its name begins with `APP__`. Further pairs of
underscores in the name lead into sections: `APP__SERVICE__API_URL` is `service.api_url`. Case does
not matter.

A section is a table. It may also be a list of its settings in their order; what is missing at its
end has its default.
-/

namespace WalletDashboard

/-- The formats of settings files. -/
inductive FileFormat
  | toml
  | json
  | yaml
  | ini
  | ron
  | json5
  deriving DecidableEq, Repr, Inhabited

/-- The format of a file with the given extension. -/
def FileFormat.ofExtension? : String → Option FileFormat
  | "toml" => some toml
  | "json" => some json
  | "yaml" | "yml" => some yaml
  | "ini" => some ini
  | "ron" => some ron
  | "json5" => some json5
  | _ => none

/-- A settings file. -/
structure SettingsFile where
  format : FileFormat
  content : String
  deriving DecidableEq, Repr, Inhabited

/-- The file with the given extension and content. With another extension it does not count. -/
def SettingsFile.ofExtension? (extension content : String) : Option SettingsFile :=
  (FileFormat.ofExtension? extension).map fun format => { format, content }

/-- Readers of the formats that are not read here: the settings in a content, unless it cannot be
read. Without its reader a file cannot be read. -/
structure FileReaders where
  yaml : String → Option (List (String × Setting)) := fun _ => none
  ini : String → Option (List (String × Setting)) := fun _ => none
  ron : String → Option (List (String × Setting)) := fun _ => none
  json5 : String → Option (List (String × Setting)) := fun _ => none

/-- Why there are no settings. -/
inductive LoadError
  /-- The file cannot be read, or a setting does not make sense. -/
  | unreadable
  /-- A key leads to an item that no list can have. -/
  | lost
  /-- The settings cannot be used. -/
  | refused (failure : Failure)
  deriving DecidableEq, Repr

namespace Setting

mutual

/-- The setting that a JSON value gives. Whole numbers from `2 ^ 63` on are taken as floating-point
numbers. -/
def ofJson : Json → Setting
  | .null => null
  | .bool b => flag b
  | .number (.natural n) =>
    if n.toNat < 2 ^ 63 then whole n.toNat
    else real (.finite false ((Magnitude.ofNat? n.toNat).getD .zero))
  | .number (.negative n) => whole n
  | .number (.real negative x) => real (.finite negative x)
  | .string s => text s
  | .array xs => list (ofJsonItems xs)
  | .object es => table (ofJsonEntries es)

/-- The settings that the items of an array give. -/
def ofJsonItems : List Json → List Setting
  | [] => []
  | j :: rest => ofJson j :: ofJsonItems rest

/-- The settings that the entries of an object give. -/
def ofJsonEntries : List (String × Json) → List (String × Setting)
  | [] => []
  | (key, j) :: rest => (key, ofJson j) :: ofJsonEntries rest

end

end Setting

/-- The settings in a file. -/
def SettingsFile.entries? (readers : FileReaders) (file : SettingsFile) :
    Option (List (String × Setting)) :=
  match file.format with
  | .toml => Toml.read? file.content
  | .json =>
    match Json.read? file.content with
    | some (.object es) => some (Setting.ofJsonEntries es)
    | _ => none
  | .yaml => readers.yaml file.content
  | .ini => readers.ini file.content
  | .ron => readers.ron file.content
  | .json5 => readers.json5 file.content

/-! ### The environment -/

/-- What the name of a variable begins with, in lower case. -/
def variableMark : List Char := ['a', 'p', 'p', '_', '_']

/-- A name with a dot for every pair of underscores, from left to right. -/
def dotted : List Char → List Char
  | '_' :: '_' :: cs => '.' :: dotted cs
  | c :: cs => c :: dotted cs
  | [] => []

/-- The key of the setting that a variable gives, if it gives one. -/
def settingKey? (name : String) : Option String :=
  let cs := (Text.lower name).toList
  if variableMark.isPrefixOf cs then some (String.ofList (dotted (cs.drop variableMark.length)))
  else none

/-- The settings that variables give, in the order of their keys. -/
def environmentLayer (environment : List (String × String)) : List (String × Setting) :=
  environment.foldl (fun layer (name, value) =>
    match settingKey? name with
    | some key => Json.insertEntry key (Setting.text value) layer
    | none => layer) []

/-! ### The sections -/

namespace Setting

/-- Whether settings can be looked up in the value. -/
def isSection : Setting → Bool
  | table _ => true
  | list _ => true
  | _ => false

/-- The value of a setting in a section. -/
def part? (v : Setting) (position : Nat) (name : String) : Option Setting :=
  match v with
  | table es => es.lookup name
  | list xs => xs[position]?
  | _ => none

/-- A setting in a section, or its default. It has to make sense if it is there. -/
def partOr {α : Type} (v : Setting) (position : Nat) (name : String) (read : Setting → Option α)
    (default : α) : Option α :=
  match v.part? position name with
  | some part => read part
  | none => some default

end Setting

/-- The settings of the service in a section. -/
def ServiceSettings.ofSection? (v : Setting) : Option ServiceSettings := do
  guard v.isSection
  let useMemory ← v.partOr 0 "memory_service" Setting.flag? ({} : ServiceSettings).useMemory
  let apiUrl ← v.partOr 1 "api_url" Setting.text? ({} : ServiceSettings).apiUrl
  let timeoutSeconds ← v.partOr 2 "timeout_secs" Setting.word? ({} : ServiceSettings).timeoutSeconds
  return { useMemory, apiUrl, timeoutSeconds }

/-- The settings of the dashboard in a section. -/
def DashboardSettings.ofSection? (v : Setting) : Option DashboardSettings := do
  guard v.isSection
  let pageSize ← v.partOr 0 "page_size" Setting.word? ({} : DashboardSettings).pageSize
  let refreshSeconds ←
    v.partOr 1 "refresh_interval_secs" Setting.word? ({} : DashboardSettings).refreshSeconds
  let recentBlocks ← v.partOr 2 "recent_blocks" Setting.word? ({} : DashboardSettings).recentBlocks
  let importKey ← v.partOr 3 "import_key" Setting.optionalText? ({} : DashboardSettings).importKey
  return { pageSize, refreshSeconds, recentBlocks, importKey }

namespace Settings

/-- The settings in both sections. -/
def ofSetting? (v : Setting) : Option Settings := do
  let service ← v.partOr 0 "service" ServiceSettings.ofSection? {}
  let dashboard ← v.partOr 1 "dashboard" DashboardSettings.ofSection? {}
  return { service, dashboard }

/-- The settings from a file, if there is one, and the environment, which comes over the file. -/
def load (file : Option SettingsFile) (environment : List (String × String))
    (readers : FileReaders := {}) : Except LoadError Settings := do
  let fileLayer ←
    match file with
    | none => .ok []
    | some file => ((file.entries? readers).map .ok).getD (.error .unreadable)
  let root ←
    match Setting.overlayAll? [fileLayer, environmentLayer environment] with
    | some root => .ok root
    | none => .error .lost
  match ofSetting? root with
  | none => .error .unreadable
  | some settings =>
    match settings.validate with
    | .ok () => .ok settings
    | .error failure => .error (.refused failure)

/-- The settings from what was found at a path, a file with its extension and its content, and the
environment. -/
def loadFound (found : Option (String × String)) (environment : List (String × String))
    (readers : FileReaders := {}) : Except LoadError Settings :=
  load (found.bind fun (extension, content) => SettingsFile.ofExtension? extension content)
    environment readers

end Settings

end WalletDashboard
