import Dialects.CodeBlock
import Dialects.Direction
import Dialects.Log

/-!
# Settings

The settings of the program, and the models that they are given by: one for a configuration file,
one for the environment, and one for all settings together. Each model declares its own fields, with
the texts that they take and what is usual (`Model.declarations`). So whatever the first two let
through passes the third only as long as their declarations agree.
-/

namespace Dialects

inductive Field
  | logLevel
  | direction
  | codeLanguage
  deriving DecidableEq, Repr

def Field.name : Field → Text
  | .logLevel => "log_level".toList
  | .direction => "default_direction".toList
  | .codeLanguage => "default_code_language".toList

/-- What a model says of one of its fields: the texts that it takes, and the usual setting. -/
inductive Declaration
  | logLevel (usual : LogLevel)
  | direction (usual : Direction)
  /-- A language of at least so many characters. -/
  | codeLanguage (least : Nat) (usual : Text)
  deriving DecidableEq, Repr

namespace Declaration

def field : Declaration → Field
  | .logLevel _ => .logLevel
  | .direction _ => .direction
  | .codeLanguage _ _ => .codeLanguage

def admits : Declaration → Text → Bool
  | .logLevel _, t => (LogLevel.ofName? t).isSome
  | .direction _, t => (Direction.ofName? t).isSome
  | .codeLanguage least _, t => least ≤ t.length

def usualText : Declaration → Text
  | .logLevel usual => usual.name
  | .direction usual => usual.name
  | .codeLanguage _ usual => usual

end Declaration

/-- A group of settings that are given together. -/
inductive Model
  | file
  | environment
  | whole
  deriving DecidableEq, Repr

namespace Model

def name : Model → Text
  | .file => "AppConfig".toList
  | .environment => "EnvConfig".toList
  | .whole => "Config".toList

def declarations : Model → List Declaration
  | .file => [.direction .markdownToScrapbox, .codeLanguage 1 CodeBlock.usualLanguage]
  | .environment => [.logLevel .info]
  | .whole =>
    [.logLevel .info, .direction .markdownToScrapbox, .codeLanguage 1 CodeBlock.usualLanguage]

end Model

inductive FieldFault
  | noDirection
  | noLevel
  | noText
  /-- The value is meant as a text, but no characters can be read from it. -/
  | unreadableText
  /-- The text has fewer characters than this. -/
  | shortText (least : Nat)
  | unknownField
  deriving DecidableEq, Repr

namespace FieldFault

def code : FieldFault → Text
  | .noDirection => "enum".toList
  | .noLevel => "literal_error".toList
  | .noText => "string_type".toList
  | .unreadableText => "string_unicode".toList
  | .shortText _ => "string_too_short".toList
  | .unknownField => "extra_forbidden".toList

def message : FieldFault → Text
  | .noDirection => "Input should be 'md2sb' or 'sb2md'".toList
  | .noLevel => "Input should be 'DEBUG', 'INFO', 'WARNING' or 'ERROR'".toList
  | .noText => "Input should be a valid string".toList
  | .unreadableText =>
    "Input should be a valid string, unable to parse raw data as a unicode string".toList
  | .shortText least =>
    "String should have at least ".toList ++ (toString least).toList
      ++ (if least = 1 then " character" else " characters").toList
  | .unknownField => "Extra inputs are not permitted".toList

end FieldFault

/-- Everything that is wrong with values given for a model: each fault with the field's name, or
without one where the name itself is at fault. -/
structure ValidationError where
  model : Model
  faults : List (Option Text × FieldFault)
  deriving DecidableEq, Repr

/-- The number of faults and what they are about. -/
def ValidationError.message (e : ValidationError) : Text :=
  (toString e.faults.length).toList
    ++ (if e.faults.length = 1 then " validation error for " else " validation errors for ").toList
    ++ e.model.name

structure FileSettings where
  direction : Direction := .markdownToScrapbox
  codeLanguage : Text := CodeBlock.usualLanguage
  deriving DecidableEq, Repr

structure EnvironmentSettings where
  logLevel : LogLevel := .info
  deriving DecidableEq, Repr

structure Settings where
  logLevel : LogLevel := .info
  direction : Direction := .markdownToScrapbox
  codeLanguage : Text := CodeBlock.usualLanguage
  deriving DecidableEq, Repr

namespace Settings

def text (s : Settings) : Field → Text
  | .logLevel => s.logLevel.name
  | .direction => s.direction.name
  | .codeLanguage => s.codeLanguage

def fileSettings (s : Settings) : FileSettings := ⟨s.direction, s.codeLanguage⟩

def environmentSettings (s : Settings) : EnvironmentSettings := ⟨s.logLevel⟩

end Settings

end Dialects
