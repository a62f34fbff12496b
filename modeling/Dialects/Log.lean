import Dialects.Text.Basic

/-!
# Log records

What the program has to tell about its work besides the result. Each record has a level, and a run
shows the records at its own level and above.
-/

namespace Dialects

inductive LogLevel
  | debug
  | info
  | warning
  | error
  deriving DecidableEq, Repr

namespace LogLevel

def all : List LogLevel := [.debug, .info, .warning, .error]

def name : LogLevel → Text
  | .debug => ['D', 'E', 'B', 'U', 'G']
  | .info => ['I', 'N', 'F', 'O']
  | .warning => ['W', 'A', 'R', 'N', 'I', 'N', 'G']
  | .error => ['E', 'R', 'R', 'O', 'R']

def ofName? (s : Text) : Option LogLevel := all.find? (·.name = s)

def rank : LogLevel → Nat
  | .debug => 0
  | .info => 1
  | .warning => 2
  | .error => 3

@[simp] theorem ofName?_name (l : LogLevel) : ofName? l.name = some l := by
  cases l <;> rfl

end LogLevel

inductive Logger
  | engine
  | commandLine
  deriving DecidableEq, Repr

def Logger.name : Logger → Text
  | .engine => "md_scrapbox.converter.engine".toList
  | .commandLine => "md_scrapbox.cli".toList

structure LogRecord where
  level : LogLevel
  logger : Logger
  message : Text
  deriving DecidableEq, Repr

namespace LogRecord

def line (r : LogRecord) : Text :=
  r.level.name ++ [':'] ++ r.logger.name ++ [':'] ++ r.message ++ ['\n']

/-- The log that a run at this level shows. -/
def shown (threshold : LogLevel) (records : List LogRecord) : Text :=
  (records.filter fun r => threshold.rank ≤ r.level.rank).flatMap line

end LogRecord

end Dialects
