import Dialects.Config.Environment
import Dialects.Files.Basic
import Dialects.Yaml.Root

/-!
# What loading relies on

Settings are loaded with the help of a reader of YAML, a reader of files of variables, and a
validator (`Loader`). A loader may bring its own; what it logs of its work, such as the lines of a
file of variables that it skips, is not the program's to tell. The standard one reads YAML nested to
any depth, and the file of variables sets only what is not set yet.
-/

namespace Dialects

inductive ConfigError
  | variablesUndecodable (e : Utf8.Fault)
  /-- The file of variables sets what cannot be set. -/
  | unsettable (e : VariableFault)
  | environment (e : ValidationError)
  | notFound (path : Path)
  | unreadable (e : PathError)
  | yaml (e : Yaml.Fault)
  /-- The file holds a value of this type in place of a mapping. -/
  | notMapping (type : Text)
  | keyNotText
  | invalid (e : ValidationError)
  /-- Settings that have been accepted before are refused. -/
  | refused (e : ValidationError)
  deriving DecidableEq, Repr

def ConfigError.message : ConfigError → Text
  | .variablesUndecodable e => e.message
  | .unsettable e => e.message
  | .environment e =>
    "Invalid environment variable ".toList ++ levelVariable ++ ": ".toList ++ e.message
  | .notFound path => "Config file not found: ".toList ++ path.toText
  | .unreadable e => e.message
  | .yaml e => e.message
  | .notMapping type => "Invalid configuration: expected a mapping, got ".toList ++ type
  | .keyNotText => "keywords must be strings".toList
  | .invalid e => "Invalid configuration: ".toList ++ e.message
  | .refused e => e.message

namespace Yaml

/-- Is the fault in a scalar one that the program reports? It foresees texts that write no number
and no date, and not those that break the conversion itself. -/
def ScalarFault.foreseen : ScalarFault → Bool
  | .wideCodePoint | .emptyNumber | .endlessNumber | .noTruth _ | .noTimestamp
  | .timestampMapping => false
  | _ => true

def Fault.foreseen : Fault → Bool
  | .scalar e => e.foreseen
  | .endless => false
  | _ => true

end Yaml

/-- Is the error one that the program reports? A directory in the place of the file and a key that
is no text are not foreseen. -/
def ConfigError.foreseen : ConfigError → Bool
  | .unreadable _ | .keyNotText => false
  | .yaml e => e.foreseen
  | _ => true

/-- The variables with those of the file of variables, if there is one. -/
def Variables.load (env : Variables) (file : Option (List UInt8)) :
    Except ConfigError Variables :=
  match file with
  | none => .ok env
  | some bytes => do
    let s ← (decodeFile bytes).mapError .variablesUndecodable
    (env.setFrom s).mapError .unsettable

/-- The help that settings are loaded with. -/
structure Loader where
  /-- Reads the value in the bytes of a file. -/
  readYaml : List UInt8 → Except Yaml.Fault Yaml.Root
  /-- Adds the variables of the file of variables, if there is one. What this logs is left out. -/
  loadVariables : Variables → Option (List UInt8) → Except ConfigError Variables
  validate : Validator

namespace Loader

def standard : Loader := ⟨Yaml.Root.ofBytes, Variables.load, .standard⟩

/-- The file of variables changes no variable that is set. -/
def SetsOnlyUnset (l : Loader) : Prop :=
  ∀ {env env' : Variables} {file : Option (List UInt8)}, l.loadVariables env file = .ok env' →
    ∀ name value : Text, env.lookup name = some value → env'.lookup name = some value

end Loader

end Dialects
