import QuestionBoard.Answer.Scripted
import QuestionBoard.Cache.Scripted
import QuestionBoard.Json.Rewrite
import QuestionBoard.Lock.Command
import QuestionBoard.Main
import QuestionBoard.Question.Handles
import QuestionBoard.Proofs.Lock.Safety
import QuestionBoard.Proofs.Question.Simulation
import QuestionBoard.Proofs.Board.InMemory
import QuestionBoard.Proofs.Board.Relational
import QuestionBoard.Proofs.Lock.Waking
import QuestionBoard.Proofs.Question.Handles
import QuestionBoard.Proofs.Action.Keeps
import QuestionBoard.Proofs.Answer.Documented
import QuestionBoard.Proofs.Board.Mapped
import QuestionBoard.Proofs.Lock.Passage
import QuestionBoard.Proofs.Question.Sequence
import QuestionBoard.Proofs.Shared.Invariant
import QuestionBoard.Proofs.Shared.Linearization
import QuestionBoard.Proofs.Lock.Precedence
import QuestionBoard.Proofs.Question.Faults
import QuestionBoard.Proofs.Cache.Agreement
import QuestionBoard.Proofs.Settings.Layers
import QuestionBoard.Answer.Task
import QuestionBoard.Proofs.Answer.Task
import QuestionBoard.Proofs.Answer.Overtaking
import QuestionBoard.Proofs.Answer.Calls
import QuestionBoard.Proofs.Answer.Generations
import QuestionBoard.Proofs.Action.Lines
import QuestionBoard.Proofs.Answer.Unreliable
import QuestionBoard.Proofs.Question.Spelling
import QuestionBoard.Proofs.Question.Paging
import QuestionBoard.Proofs.CommandLine.Address
import QuestionBoard.Proofs.Json.Reader
import QuestionBoard.Proofs.Settings.Files
import QuestionBoard.Proofs.Settings.Loading
import QuestionBoard.Proofs.Question.Parameters
import QuestionBoard.Proofs.Cache.Counts
import QuestionBoard.Proofs.Answer.Exchange
import QuestionBoard.Proofs.Answer.Sessions
import QuestionBoard.Proofs.Database.Slot
import QuestionBoard.Proofs.Cache.Encoding
import QuestionBoard.Proofs.Cache.Milliseconds
import QuestionBoard.Proofs.Json.Numbers
import QuestionBoard.Proofs.Json.RoundTrip
import QuestionBoard.Proofs.Log.Record
import QuestionBoard.Proofs.Lock.Release
import QuestionBoard.Proofs.Log.Handlers
import QuestionBoard.Proofs.Settings.Validity
import QuestionBoard.Proofs.Board.Start
import QuestionBoard.Proofs.Settings.Saved
import QuestionBoard.Proofs.CommandLine.Printed
import QuestionBoard.Proofs.Yaml.Keys
import QuestionBoard.Proofs.Settings.Repeats
import QuestionBoard.Proofs.Migration.Address
