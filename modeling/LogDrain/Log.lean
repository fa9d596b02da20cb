/-
  LOG LINES: what is noted while a procedure runs, and which of it is shown.

  A line has a level and a message.  Lines below a threshold are not shown.  A log has a layout for
  each of its outlets; setting the log up gives every outlet the labelled layout, and makes one
  where there was none.
-/

namespace LogDrain

/-- How grave a line is. -/
inductive LogLevel where
  | debug
  | info
  | warning
  | error
  deriving DecidableEq, Repr

namespace LogLevel

/-- The place of a level among the levels. -/
def rank : LogLevel → Nat
  | .debug => 0
  | .info => 1
  | .warning => 2
  | .error => 3

/-- The word that labels a line of this level. -/
def label : LogLevel → String
  | .debug => "DEBUG"
  | .info => "INFO"
  | .warning => "WARNING"
  | .error => "ERROR"

end LogLevel

/-- A noted line. -/
structure LogLine where
  level : LogLevel
  message : String
  deriving DecidableEq, Repr

namespace LogLine

/-- The line with its label. -/
def text (line : LogLine) : String := line.level.label ++ ": " ++ line.message

/-- Is the line shown at this threshold? -/
def isShown (threshold : LogLevel) (line : LogLine) : Bool := threshold.rank ≤ line.level.rank

end LogLine

/-- How an outlet lays a line out: its message after some lead, or the line with its label. -/
inductive LogLayout where
  | led (lead : String)
  | labelled
  deriving DecidableEq, Repr

/-- The line as the outlet prints it. -/
def LogLayout.render : LogLayout → LogLine → String
  | .led lead, line => lead ++ line.message
  | .labelled, line => line.text

/-- A log: its threshold and the layouts of its outlets. -/
structure Log where
  threshold : LogLevel
  outlets : List LogLayout
  deriving DecidableEq, Repr

/-- The log with the given threshold, every outlet labelled, and at least one outlet. -/
def Log.setUp (log : Log) (threshold : LogLevel) : Log :=
  { threshold
    outlets := if log.outlets = [] then [.labelled] else log.outlets.map fun _ => .labelled }

end LogDrain
