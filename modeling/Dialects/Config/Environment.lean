import Dialects.Config.Validation
import Dialects.Config.VariableFile
import Dialects.Text.Upper

/-!
# The environment

The variables a run starts with. A file of variables sets those that are not set yet. One variable
holds the level of the log, in upper or lower case.
-/

namespace Dialects

/-- The variables that are set, with their values. -/
abbrev Variables := List (Text × Text)

inductive VariableFault
  | nullCharacter
  | equalsSign
  deriving DecidableEq, Repr

def VariableFault.message : VariableFault → Text
  | .nullCharacter => "embedded null byte".toList
  | .equalsSign => "illegal environment variable name".toList

def levelVariable : Text := "MD_SCRAPBOX_LOG_LEVEL".toList

namespace Variables

/-- Sets a variable unless it is set already. A binding without a value sets nothing. -/
def setNew (env : Variables) (b : VariableFile.Binding) : Except VariableFault Variables :=
  match b.2 with
  | none => .ok env
  | some value =>
    if (env.lookup b.1).isSome then .ok env
    else if b.1.contains '\x00' || value.contains '\x00' then .error .nullCharacter
    else if b.1.contains '=' then .error .equalsSign
    else .ok (env ++ [(b.1, value)])

def setFrom (env : Variables) (file : Text) : Except VariableFault Variables :=
  (VariableFile.resolved env file).foldlM setNew env

/-- The name of the level in these variables, in upper case. -/
def levelName (env : Variables) : Text :=
  ((env.lookup levelVariable).getD LogLevel.info.name).upper

def settings (validate : Validator) (env : Variables) :
    Except ValidationError EnvironmentSettings :=
  (validate .environment (Keywords.empty.give .logLevel env.levelName)).map
    Settings.environmentSettings

end Variables

end Dialects
