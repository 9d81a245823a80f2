/-!
# Log lines

What the program notes about its work while it goes on.
-/

namespace XoLedger.Log

/-- How much a line matters. -/
inductive Level where
  /-- For those who look for an error. -/
  | debug
  /-- For those who want to follow the work. -/
  | info
  /-- For everyone. -/
  | warn
deriving DecidableEq, Repr

/-- The word for a level. -/
def Level.word : Level → String
  | debug => "DEBUG"
  | info => "INFO"
  | warn => "WARN"

/-- A line of the log. -/
structure Line where
  /-- How much it matters. -/
  level : Level
  /-- What it says. -/
  message : String
deriving DecidableEq, Repr

/-- A line as it is shown. -/
def Line.text (line : Line) : String :=
  line.level.word ++ " " ++ line.message

end XoLedger.Log
