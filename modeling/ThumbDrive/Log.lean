/-! Log lines. -/
namespace ThumbDrive

/-- How much a log line matters. -/
inductive Log.Level where
  | debug
  | info
  | warn
  deriving DecidableEq, Repr

/-- One line of a log. -/
structure Log.Line where
  level : Log.Level
  text : String
  deriving DecidableEq, Repr

namespace Log

/-- The name of a level. -/
def Level.name : Level → String
  | .debug => "DEBUG"
  | .info => "INFO"
  | .warn => "WARN"

/-- The line as printed. -/
def Line.render (l : Line) : String := l.level.name ++ " " ++ l.text

end Log
end ThumbDrive
