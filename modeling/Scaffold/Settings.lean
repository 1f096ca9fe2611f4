import Scaffold.Config
import Scaffold.Data.Json
import Scaffold.Data.Yaml
import Scaffold.Emission.File

/-!
Settings files. Where settings come from is decided by the name of the file, or by trial when the
name does not say it; explicit settings go before those of the file, and null settings count as not
given.
-/
namespace Scaffold.Settings

open Data Files

/-- The word for the sort of a value. -/
def sortName : Value → String
  | .null => "NoneType"
  | .bool _ => "bool"
  | .int _ => "int"
  | .float _ => "float"
  | .text _ => "str"
  | .date _ => "date"
  | .dateTime _ => "datetime"
  | .list _ => "list"
  | .map _ => "dict"

/-- The entries that a text in JSON holds. -/
def ofJson (path : Path) (text : String) : Except SettingsFault Entries :=
  match Json.read? text with
  | none => .error (.malformed "JSON" path)
  | some (.map entries) => .ok entries
  | some other => .error (.notMap "JSON object" (sortName other))

/-- The entries that a text in YAML holds. An empty text holds none. -/
def ofYaml (path : Path) (text : String) : Except SettingsFault Entries :=
  match Yaml.read text with
  | .error .malformed => .error (.malformed "YAML" path)
  | .error (.meaningless reason) => .error (.meaningless reason)
  | .ok .null => .ok []
  | .ok (.map entries) => .ok entries
  | .ok other => .error (.notMap "YAML mapping" (sortName other))

/-- The formats that a file may be written in. -/
inductive Format where
  | json
  | yaml
  | either
  deriving DecidableEq, Repr

/-- The format that an ending stands for. -/
def formatOf (ending : String) : Format :=
  if ending == ".yaml" || ending == ".yml" then .yaml
  else if ending == ".json" then .json
  else .either

/-- The entries that a text in a format holds. -/
def Format.read (format : Format) (path : Path) (text : String) : Except SettingsFault Entries :=
  match format with
  | .json => ofJson path text
  | .yaml => ofYaml path text
  | .either =>
    match ofJson path text with
    | .ok entries => .ok entries
    | .error _ => ofYaml path text

/-- The name of the part of a settings file that is for this program, when the file has parts. -/
def partName : String :=
  "crudgen"

/-- The entries for this program among those of a file. -/
def part (path : Path) (entries : Entries) : Except SettingsFault Entries :=
  match entries.get? partName with
  | none => .ok entries
  | some (.map own) => .ok own
  | some _ => .error (.sectionNotMap path)

/-- The entries of a settings file. -/
def load (path : Path) : Action Entries := do
  let w ← Action.workspace
  if !w.isThere path then throw (.settings (.missing path))
  if !w.isFile path then throw (.settings (.notFile path))
  let ending := Text.lower path.ending
  let format := formatOf ending
  if format = .either then
    Action.say .info .generator
      ("Unknown extension '" ++ ending ++ "' — trying JSON then YAML.")
  let text ← Emission.readText path
  match format.read path text >>= part path with
  | .ok entries => return entries
  | .error fault => throw (.settings fault)

/-- The names of the files that are looked for when none is given, in order. -/
def defaultNames : List String :=
  ["crudgen.yaml", "crudgen.yml", "crudgen.json"]

/-- The settings file of a project, if it has one. -/
def find? (w : Workspace) (root : Path) : Option Path :=
  (defaultNames.map root.child).find? (w.isFile ·)

/-- The explicit settings that are given. -/
def givenOf (explicit : Entries) : Entries :=
  explicit.filter fun
    | (_, .null) => false
    | _ => true

/-- The project root among explicit settings. -/
def rootOf (given : Entries) : Path :=
  match given.get? Setting.projectRoot.name with
  | some (.text root) => Path.ofString root
  | _ => .current

/-- Entries with others laid over them. -/
def overlay (entries above : Entries) : Entries :=
  above.foldl
    (fun all entry =>
      match entry with
      | (.text key, value) => all.put key value
      | other => all ++ [other]) entries

/-- The settings of a file, if there is one to use. -/
def fileEntries (path : Option Path) : Action Entries := do
  match path with
  | none => return []
  | some file =>
    let entries ← load file
    Action.say .info .generator ("Loaded configuration from " ++ file.text)
    return entries

/-- The configuration that follows from a settings file and explicit settings. Without a file the
one of the project is used, if it has one. -/
def configure (path : Option Path) (explicit : Entries) : Action Config := do
  let given := givenOf explicit
  let w ← Action.workspace
  let entries ← fileEntries (path <|> find? w (rootOf given))
  match Config.ofEntries (overlay entries given) with
  | .ok config => return config
  | .error issues => throw (.settings (.invalid issues))

end Scaffold.Settings
