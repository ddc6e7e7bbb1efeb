import QuestionBoard.Cache.Expiring
import QuestionBoard.Cache.Remote
import QuestionBoard.Settings.Basic

/-!
The cache that a board works on: in its own process or on a server, as the settings say.
-/

namespace QuestionBoard

class CacheNetwork (ρ : Type) extends CacheServer ρ where
  connect : RedisSettings → ρ

/-- A cache of either kind. -/
inductive CacheBackend (ρ : Type)
  | inProcess (cache : ClockedCache)
  | remote (cache : RemoteCache ρ)

namespace CacheBackend

variable {ρ : Type}

/-- The name under which the choice is logged. -/
def logger : String := "qna.common.cache"

/-- The cache that settings ask for, by a clock with a reading. -/
def create [CacheNetwork ρ] {σ : Type} (settings : CacheSettings) (now : Binary64) :
    Action σ (CacheBackend ρ) := do
  match settings with
  | .inProcess =>
    Action.log .info logger "Using in-process cache"
    return .inProcess { now }
  | .redis s =>
    Action.log .info logger ("Using Redis cache at " ++ s.host ++ ":" ++ decimalText s.port ++ "/" ++
      decimalText s.db)
    return .remote { server := CacheNetwork.connect s, keyStart := s.keyStart }

/-- Runs the step that fits the kind of the cache. -/
def step {α : Type} (onLocal : Action ClockedCache α) (onRemote : Action (RemoteCache ρ) α) :
    Action (CacheBackend ρ) α :=
  Action.ofOutcome fun backend journal =>
    match backend with
    | .inProcess cache =>
      let o := onLocal.outcome cache journal
      ⟨o.result, .inProcess o.state, o.journal⟩
    | .remote cache =>
      let o := onRemote.outcome cache journal
      ⟨o.result, .remote o.state, o.journal⟩

instance [CacheServer ρ] : Cache (CacheBackend ρ) where
  get key := step (Cache.get key) (Cache.get key)
  set key value expiration := step (Cache.set key value expiration) (Cache.set key value expiration)
  delete key := step (Cache.delete key) (Cache.delete key)
  probe := step Cache.probe Cache.probe
  close := step Cache.close Cache.close

end CacheBackend

end QuestionBoard
