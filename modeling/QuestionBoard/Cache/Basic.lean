import QuestionBoard.Action
import QuestionBoard.Time.Duration

/-!
What every cache does: it keeps texts under keys for a while. A key that is absent is a failure of
its own, which no fault of a cache is.
-/

namespace QuestionBoard

/-- Caches. -/
class Cache (κ : Type) where
  get : Text → Action κ Text
  set : Text → Text → Option Duration → Action κ Unit
  delete : Text → Action κ Unit
  /-- Finds out whether the cache can be reached, for the log alone. -/
  probe : Action κ Unit := return ()
  close : Action κ Unit := return ()

def Failure.noCacheKey (key : Text) : Failure := .notFound "Cache key" key

end QuestionBoard
