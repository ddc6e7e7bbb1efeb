import QuestionBoard.Question.Operation

/-!
Named handles on stores in memory. A clone of a handle opens the same store, so a change through one
is seen through the other; a new handle opens a store of its own.
-/

namespace QuestionBoard

/-- Stores, and the place of the store that each handle opens. -/
structure Handles where
  stores : List QuestionStore
  opened : OrderedMap String Nat

namespace Handles

/-- No store. -/
def empty : Handles := ⟨[], .empty⟩

def single (name : String) (store : QuestionStore) : Handles :=
  ⟨[store], OrderedMap.empty.insert name 0⟩

def place (name : String) (h : Handles) : Nat := (h.opened.get? name).getD 0

def storeOf (name : String) (h : Handles) : QuestionStore := (h.stores[h.place name]?).getD .empty

/-- Opens the store of a handle under another name. -/
def clone (name newName : String) (h : Handles) : Handles :=
  { h with opened := h.opened.insert newName (h.place name) }

def openList (newName : String) (questions : List Question) (h : Handles) : Handles :=
  { stores := h.stores ++ [.ofList questions], opened := h.opened.insert newName h.stores.length }

def openNew (newName : String) (h : Handles) : Handles := h.openList newName []

/-- Whether two handles open the same store. -/
def share (name other : String) (h : Handles) : Bool := h.place name == h.place other

def on {α : Type} (name : String) (step : Action QuestionStore α) : Action Handles α :=
  step.onPart (storeOf name) fun store h => { h with stores := h.stores.set (h.place name) store }

/-- The identifiers that each handle sees. -/
def idsByHandle (h : Handles) : List (String × List QuestionId) :=
  h.opened.keys.map fun name => (name, (h.storeOf name).ids)

inductive Command
  | create (name : String) (questions : List Question)
  | clone (name newName : String)
  | perform (name : String) (operation : QuestionStore.Operation)

def Command.run : Command → Action Handles QuestionStore.Reply
  | .create name questions => do
    modify (openList name questions)
    return .done
  | .clone name newName => do
    modify (Handles.clone name newName)
    return .done
  | .perform name operation => on name operation.run

end Handles

end QuestionBoard
