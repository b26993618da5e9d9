/-!
Lines of the log.

A line has a level, the name of what writes it, and a text.
-/

namespace QuerySchema

/-- How important a line is. -/
inductive LogLevel where
  | debug
  | warning
  | error
  deriving DecidableEq, Repr

/-- The spelling of a level. -/
def LogLevel.text : LogLevel → String
  | .debug => "DEBUG"
  | .warning => "WARNING"
  | .error => "ERROR"

/-- A line of the log. -/
structure LogLine where
  level : LogLevel
  /-- The part of the program that writes it. -/
  writer : String
  message : String
  deriving DecidableEq, Repr

/-- A line as it is shown. -/
def LogLine.text (line : LogLine) : String :=
  line.level.text ++ " gql_jsonschema.core." ++ line.writer ++ ": " ++ line.message

end QuerySchema
