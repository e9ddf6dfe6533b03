import TupleClient.Settings.Reading
import TupleClient.Yaml.Node

/-!
# Loading settings

Settings are loaded from three layers: the defaults, a file, and the environment. In the
environment they are named in capital or small letters, after a common beginning, with two
underscores between the names of a path.

## Main definitions

* `SettingsFile` — what is found where the file should be
* `Settings.load` — the settings of a file and an environment, or a `LoadError`
-/

namespace TupleClient

/-- What is found where the file should be. -/
inductive SettingsFile where
  | missing (path : String)
  | unreadable
  | text (name content : String)

/-- Why settings cannot be loaded. -/
inductive LoadError where
  | missingFile (path : String)
  | unreadableFile
  | malformedFile
  | mismatch (m : Mismatch)
  | invalid (e : SettingsError)

/-- The text of an error, apart from those that only say that the file is no good. -/
def LoadError.message? : LoadError → Option String
  | missingFile path => some ("configuration file not found: " ++ path)
  | unreadableFile | malformedFile => none
  | mismatch m => some ("failed to load configuration: " ++ m.message)
  | invalid e => some e.fullMessage

namespace Setting

mutual

/-- The value of data. -/
def ofJson : Json → Setting
  | .null => leaf none .null
  | .bool b => leaf none (.bool b)
  | .int n => leaf none (.int n)
  | .float x => leaf none (.real (.finite x))
  | .str s => leaf none (.text s)
  | .arr items => list none (ofItems items)
  | .obj fields => table none (ofFields fields)

/-- The values of items. -/
def ofItems : List Json → List Setting
  | [] => []
  | v :: rest => ofJson v :: ofItems rest

/-- The values of fields. -/
def ofFields : List (String × Json) → List (String × Setting)
  | [] => []
  | (name, v) :: rest => (name, ofJson v) :: ofFields rest

end

/-- The value of a scalar in a file, unless it is the spelling of a real number that cannot be
read. -/
def leafOf? : Yaml.Scalar → Option Leaf
  | .null => some .null
  | .bool b => some (.bool b)
  | .int n => some (.int n)
  | .real spelling => (Yaml.readReal? spelling).map .real
  | .text s => some (.text s)

/-- The name that a key in a file stands for. A null, a list or a mapping is no key. -/
def nameOf? : Yaml.Node → Option String
  | .scalar (.bool b) => some (toString b)
  | .scalar (.int n) => some (toString n)
  | .scalar (.real spelling) => some spelling
  | .scalar (.text s) => some s
  | _ => none

mutual

/-- The value of a node in a file. -/
def ofNode? (source : String) : Yaml.Node → Option Setting
  | .unusable => some (leaf (some source) .null)
  | .scalar value => (leafOf? value).map (leaf (some source))
  | .list items => (ofNodes? source items).map (list (some source))
  | .mapping entries =>
    (ofEntries? source entries).map fun fields => table (some source) (Fields.ofList fields)

/-- The values of nodes in a file. -/
def ofNodes? (source : String) : List Yaml.Node → Option (List Setting)
  | [] => some []
  | node :: rest =>
    (ofNode? source node).bind fun v => (ofNodes? source rest).map (v :: ·)

/-- The values of the entries of a mapping in a file. -/
def ofEntries? (source : String) : List (Yaml.Node × Yaml.Node) → Option (List (String × Setting))
  | [] => some []
  | (key, node) :: rest =>
    (nameOf? key).bind fun name =>
      (ofNode? source node).bind fun v => (ofEntries? source rest).map ((name, v) :: ·)

end

end Setting

/-- The layer of a file's text: one mapping, or nothing at all, which sets nothing. -/
def fileLayer? (name content : String) : Option (List (String × Setting)) :=
  match Yaml.documents? content with
  | some [] => some []
  | some [.mapping entries] =>
    (Setting.ofNode? name (.mapping entries)).map Setting.fields
  | _ => none

/-- The beginning of the names that settings have in the environment. -/
def environmentMark : String := "rsfga_client_"

/-- How values from the environment are referred to. -/
def environmentName : String := "the environment"

/-- A name in the environment as a path: two underscores separate its parts. -/
def pathOfName : List Char → List Char
  | '_' :: '_' :: rest => '.' :: pathOfName rest
  | c :: rest => c :: pathOfName rest
  | [] => []

/-- The layer of an environment. -/
def environmentLayer (environment : List (String × String)) : List (String × Setting) :=
  environment.filterMap fun (name, value) =>
    let mark := environmentMark.toList
    let cs := (Text.lowerCase name).toList
    if mark.isPrefixOf cs then
      some (String.ofList (pathOfName (cs.drop mark.length)),
        .leaf (some environmentName) (.text value))
    else none

/-- The layer of settings. -/
def Settings.layer (s : Settings) : List (String × Setting) := (Setting.ofJson s.encode).fields

/-- The layer of a file. -/
def SettingsFile.layer : SettingsFile → Except LoadError (List (String × Setting))
  | missing path => .error (.missingFile path)
  | unreadable => .error .unreadableFile
  | text name content =>
    match fileLayer? name content with
    | some layer => .ok layer
    | none => .error .malformedFile

/-- The table of all layers. -/
def gather (file environment : List (String × Setting)) : Setting :=
  ((Setting.empty.apply (Settings.layer {})).apply file).apply environment

/-- The settings of gathered values, if they are valid. -/
def Settings.ofGathered (root : Setting) : Except LoadError Settings :=
  match Settings.ofSetting root with
  | .error m => .error (.mismatch m)
  | .ok s =>
    match s.defect? with
    | some e => .error (.invalid e)
    | none => .ok s

/-- The settings of a file, if there should be one, and an environment. -/
def Settings.load (file : Option SettingsFile) (environment : List (String × String)) :
    Except LoadError Settings :=
  match (file.map SettingsFile.layer).getD (.ok []) with
  | .error e => .error e
  | .ok layer => Settings.ofGathered (gather layer (environmentLayer environment))

end TupleClient
