import QuestionBoard.Cache.Backend

/-!
Caches and cache servers whose behaviour is set beforehand: a server that gives every call the same
reply and remembers the calls, and a cache that fails where it is told to.
-/

namespace QuestionBoard

/-- A server that gives every call the same reply. -/
structure ScriptedServer where
  reply : Except Failure ServerReply := .ok (.data .null)
  /-- The calls so far, in order. -/
  calls : List ServerCall := []
  /-- What the server was connected to with. -/
  settings : RedisSettings := {}

instance : CacheNetwork ScriptedServer where
  call request s := (s.reply, { s with calls := s.calls ++ [request] })
  connect settings := { settings }

/-- A cache with the failures of its operations. -/
structure FaultyCache (κ : Type) where
  inner : κ
  onGet : Option Failure := none
  onSet : Option Failure := none
  onDelete : Option Failure := none

namespace FaultyCache

variable {κ α : Type}

/-- A step on the cache inside. -/
def onInner (a : Action κ α) : Action (FaultyCache κ) α :=
  a.onPart FaultyCache.inner fun inner c => { c with inner }

/-- A step on the cache inside, unless there is a failure for it. -/
def guarded (fault : FaultyCache κ → Option Failure) (a : Action κ α) : Action (FaultyCache κ) α := do
  if let some f := fault (← get) then throw f
  onInner a

instance [Cache κ] : Cache (FaultyCache κ) where
  get key := guarded onGet (Cache.get key)
  set key value expiration := guarded onSet (Cache.set key value expiration)
  delete key := guarded onDelete (Cache.delete key)

end FaultyCache

end QuestionBoard
