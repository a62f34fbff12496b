import Dialects.Config.Loader

/-!
# Loading the settings

The level of the log comes from the environment and the other settings from a configuration file,
if one is named. The environment is looked at first: a fault in it is reported whatever the file
holds. At last all settings are checked once more together.
-/

namespace Dialects

def Yaml.Value.typeName : Yaml.Value → Text
  | .null => "NoneType".toList
  | .bool => "bool".toList
  | .int => "int".toList
  | .float => "float".toList
  | .date => "date".toList
  | .datetime => "datetime".toList
  | .text _ => "str".toList
  | .bytes _ => "bytes".toList
  | .list => "list".toList
  | .mapping => "dict".toList
  | .set => "set".toList

/-- The name that a key gives a value for, which must be a text. -/
def keywordName : Yaml.Value → Except ConfigError RawText
  | .text name => .ok name
  | _ => .error .keyNotText

def Keywords.addEntry (kws : Keywords) (entry : Yaml.Value × Yaml.Value) :
    Except ConfigError Keywords := do
  return kws.set (← keywordName entry.1) entry.2

/-- The keywords that a document gives: those of a mapping, or none. -/
def Yaml.Root.keywords (root : Yaml.Root) : Except ConfigError Keywords :=
  match root.value with
  | .null => .ok .empty
  | .mapping => root.entries.foldlM Keywords.addEntry .empty
  | v => .error (.notMapping v.typeName)

def FileSettings.ofBytes (l : Loader) (bytes : List UInt8) : Except ConfigError FileSettings := do
  let root ← (l.readYaml bytes).mapError .yaml
  let settings ← (l.validate .file (← root.keywords)).mapError .invalid
  return settings.fileSettings

def FileSettings.load (l : Loader) (files : Files) (path : Path) :
    Except ConfigError FileSettings := do
  if ← (files.has path).mapError .unreadable then
    FileSettings.ofBytes l (← (files.read path).mapError .unreadable)
  else throw (.notFound path)

/-- The settings of a configuration file that gives none. -/
def FileSettings.usual (l : Loader) : Except ConfigError FileSettings := do
  let settings ← (l.validate .file .empty).mapError .refused
  return settings.fileSettings

def Settings.keywords (s : Settings) : Keywords :=
  ((Keywords.empty.give .logLevel s.logLevel.name).give .direction s.direction.name).give
    .codeLanguage s.codeLanguage

/-- All settings: from the variables, the file of variables, and the configuration file. -/
def Settings.load (l : Loader) (env : Variables) (file : Option (List UInt8)) (files : Files)
    (path : Option Path) : Except ConfigError Settings := do
  let env ← l.loadVariables env file
  let fromEnvironment ← (env.settings l.validate).mapError .environment
  let fromFile ←
    match path with
    | some path => FileSettings.load l files path
    | none => FileSettings.usual l
  let settings : Settings :=
    ⟨fromEnvironment.logLevel, fromFile.direction, fromFile.codeLanguage⟩
  (l.validate .whole settings.keywords).mapError .refused

end Dialects
