import QuestionBoard.Question.Store

/-!
The operations of the store in memory as data, with what each of them gives.
-/

namespace QuestionBoard

namespace QuestionStore

inductive Operation
  | add (q : Question)
  | update (q : Question)
  | delete (id : QuestionId)
  | find (id : QuestionId)
  | list (selection : Selection)
  | count
  | clear

/-- What an operation gives. -/
inductive Reply
  | question (q : Question)
  | questions (qs : List Question)
  | number (n : Nat)
  | done

def Operation.run : Operation → Action QuestionStore Reply
  | .add q => do return .question (← QuestionRepository.add q)
  | .update q => do return .question (← QuestionRepository.update q)
  | .delete id => do
    QuestionRepository.delete id
    return .done
  | .find id => do return .question (← QuestionRepository.get id)
  | .list selection => do return .questions (← QuestionRepository.list selection)
  | .count => do return .number (← QuestionStore.count)
  | .clear => do
    QuestionStore.clear
    return .done

end QuestionStore

end QuestionBoard
