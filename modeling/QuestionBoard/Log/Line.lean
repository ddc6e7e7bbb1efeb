import QuestionBoard.Text.Basic

/-!
Log lines and the journal that collects them. A journal lets through the lines whose severity reaches
its threshold.
-/

namespace QuestionBoard

namespace Log

/-- How grave an event is. -/
inductive Level
  | debug
  | info
  | warning
  | error
  | critical
  deriving DecidableEq, Repr

def Level.severity : Level → Int
  | .debug => 10
  | .info => 20
  | .warning => 30
  | .error => 40
  | .critical => 50

def Level.name : Level → String
  | .debug => "DEBUG"
  | .info => "INFO"
  | .warning => "WARNING"
  | .error => "ERROR"
  | .critical => "CRITICAL"

/-- What a part of the board reports. -/
structure Line where
  level : Level
  logger : String
  message : Text
  deriving DecidableEq, Repr

end Log

/-- The lines written so far and the least severity that is written. -/
structure Journal where
  threshold : Int
  lines : List Log.Line := []

namespace Journal

/-- Writes a line, if it is severe enough. -/
def write (line : Log.Line) (journal : Journal) : Journal :=
  if journal.threshold ≤ line.level.severity then { journal with lines := journal.lines ++ [line] }
  else journal

/-- A journal that lets every level through. -/
def verbose : Journal := ⟨Log.Level.debug.severity, []⟩

/-- The journal that the program starts with. -/
def ordinary : Journal := ⟨Log.Level.info.severity, []⟩

end Journal

end QuestionBoard
