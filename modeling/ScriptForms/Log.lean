/-!
# Log records

A log record has a level, a message, and a mark that says whether the message holds markup. A logger
with a threshold keeps the records whose level is positive and reaches it.
-/

namespace ScriptForms

/-- How severe a record is. -/
structure Level where
  severity : Int
  deriving DecidableEq, Repr

namespace Level

def debug : Level := ⟨10⟩
def info : Level := ⟨20⟩
def success : Level := ⟨25⟩
def warning : Level := ⟨30⟩
def error : Level := ⟨40⟩
def critical : Level := ⟨50⟩

/-- The name of a level; a level without one is called by its number. -/
def name (level : Level) : String :=
  if level = debug then "DEBUG"
  else if level = info then "INFO"
  else if level = success then "SUCCESS"
  else if level = warning then "WARNING"
  else if level = error then "ERROR"
  else if level = critical then "CRITICAL"
  else if level.severity = 0 then "NOTSET"
  else "Level " ++ toString level.severity

/-- Whether a record of this level is kept at the given threshold. Only positive levels ever are. -/
def reaches (level threshold : Level) : Bool :=
  0 < level.severity && threshold.severity ≤ level.severity

end Level

/-- One record of a log. -/
structure LogRecord where
  level : Level
  message : String
  /-- Whether the message holds markup. -/
  markup : Bool
  deriving DecidableEq, Repr

namespace LogRecord

/-- A plain record, as a component of the program writes it. -/
def plain (level : Level) (message : String) : LogRecord :=
  ⟨level, message, false⟩

/-- A record addressed to the user, whose message holds markup. -/
def styled (level : Level) (message : String) : LogRecord :=
  ⟨level, message, true⟩

/-- The records that reach a threshold. -/
def visible (threshold : Level) (records : List LogRecord) : List LogRecord :=
  records.filter (·.level.reaches threshold)

end LogRecord

end ScriptForms
