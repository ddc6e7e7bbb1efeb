import QuestionBoard.Settings.Loader

/-!
What running a program from the command line comes to.
-/

namespace QuestionBoard

structure ServerStart where
  host : Text
  port : Int
  logLevel : String

/-- How a program ended: its exit code, unless it ended by itself, what it printed, and with what it
started a server if it did. -/
structure ProgramOutcome where
  exitCode : Option Nat := none
  output : String := ""
  started : Option ServerStart := none

namespace ProgramOutcome

/-- The end of a program that does not understand its command line. -/
def misused : ProgramOutcome := { exitCode := some 2 }

/-- The end of a program that was only asked to say something. -/
def said (text : String) : ProgramOutcome := { exitCode := some 0, output := text }

end ProgramOutcome

def SettingsSources.loadBeside {σ : Type} (given : Option (List String)) (s : SettingsSources) :
    Action σ Settings :=
  (s.load given).onPart (fun _ => ()) fun _ state => state

end QuestionBoard
