/-!
# Log lines

What the program writes to its log, without the time of writing.
-/

namespace FleetControl

/-- How much a log line matters. -/
inductive LogLevel where
  | info
  | warning
  | error
deriving DecidableEq, Repr

/-- A line of the log. -/
structure LogLine where
  level : LogLevel
  text : String
deriving DecidableEq, Repr

/-- The mark of a level, as wide as the longest one. -/
def LogLevel.mark : LogLevel → String
  | .info => " INFO"
  | .warning => " WARN"
  | .error => "ERROR"

/-- A line as it is written. -/
def LogLine.written (line : LogLine) : String := line.level.mark ++ " " ++ line.text ++ "\n"

/-- Lines as they are written. -/
def LogLine.writtenAll (lines : List LogLine) : String := "".intercalate (lines.map written)

end FleetControl
