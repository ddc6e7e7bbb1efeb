import QuestionBoard.Collection.OrderedMap
import QuestionBoard.Cache.Basic

/-!
The cache of one process. An entry may have an instant at which it expires; from then on it counts
as absent for reading. Expired entries stay until the next entry is set, which sweeps them out, and
a deletion finds them until then. Instants are of any type with an order.
-/

namespace QuestionBoard

/-- A cached text and when it expires. -/
structure CacheEntry (τ : Type) where
  value : Text
  expiresAt : Option τ

namespace CacheEntry

variable {τ : Type} [LE τ] [DecidableLE τ]

def isExpired (now : τ) (e : CacheEntry τ) : Bool :=
  match e.expiresAt with
  | none => false
  | some expiry => decide (expiry ≤ now)

/-- The entry that is set at an instant and kept for a duration. -/
def create (value : Text) (now : Binary64) (expiration : Option Duration) : CacheEntry Binary64 :=
  ⟨value, expiration.map fun d => now + d.totalSeconds⟩

end CacheEntry

/-- Entries in the order of their keys, and counts of what was read and swept. -/
structure ExpiringCache (τ : Type) where
  entries : OrderedMap Text (CacheEntry τ) := .empty
  hits : Nat := 0
  misses : Nat := 0
  expirations : Nat := 0

namespace ExpiringCache

variable {τ : Type} [LE τ] [DecidableLE τ]

/-- The name under which the cache writes log lines. -/
def logger : String := "qna.common.cache.memory"

/-- The number of entries, expired ones included. -/
def size (c : ExpiringCache τ) : Nat := c.entries.size

def lookup (now : τ) (key : Text) (c : ExpiringCache τ) : Option Text :=
  (c.entries.get? key).bind fun entry => if entry.isExpired now then none else some entry.value

/-- Reads a key at an instant. -/
def get (now : τ) (key : Text) : Action (ExpiringCache τ) Text := do
  match (← MonadState.get).lookup now key with
  | some value =>
    modify fun c => { c with hits := c.hits + 1 }
    return value
  | none =>
    modify fun c => { c with misses := c.misses + 1 }
    throw (.noCacheKey key)

/-- Takes the expired entries out. -/
def sweep (now : τ) : Action (ExpiringCache τ) Unit := do
  let c ← MonadState.get
  let left := c.entries.filter fun entry => !entry.2.isExpired now
  let swept := c.entries.size - left.size
  MonadState.set { c with entries := left, expirations := c.expirations + swept }
  if swept ≠ 0 then
    Action.log .debug logger ("Swept " ++ decimalDigits swept ++ " expired cache entries")

def set (now : τ) (key : Text) (entry : CacheEntry τ) : Action (ExpiringCache τ) Unit := do
  sweep now
  modify fun c => { c with entries := c.entries.insert key entry }

/-- Deletes a key, whether its entry has expired or not. -/
def delete (key : Text) : Action (ExpiringCache τ) Unit := do
  unless (← MonadState.get).entries.contains key do throw (.noCacheKey key)
  modify fun c => { c with entries := c.entries.erase key }

/-- The part of the reads that found a text, 0 before the first read. -/
def hitRatio (c : ExpiringCache τ) : Binary64 :=
  if c.hits + c.misses = 0 then .zero false else .ofRatio false c.hits (c.hits + c.misses)

end ExpiringCache

/-- A cache and the reading of its clock, in seconds. -/
structure ClockedCache where
  cache : ExpiringCache Binary64 := {}
  now : Binary64
  name : Text := "memory"

namespace ClockedCache

def onCache {α : Type} (step : Binary64 → Action (ExpiringCache Binary64) α) :
    Action ClockedCache α := do
  let now := (← get).now
  (step now).onPart ClockedCache.cache fun cache c => { c with cache }

/-- Lets the clock run on. -/
def advance (seconds : Binary64) (c : ClockedCache) : ClockedCache := { c with now := c.now + seconds }

instance : Cache ClockedCache where
  get key := onCache fun now => ExpiringCache.get now key
  set key value expiration := onCache fun now =>
    ExpiringCache.set now key (CacheEntry.create value now expiration)
  delete key := onCache fun _ => ExpiringCache.delete key

/-- The counts of the cache under their names. -/
def statistics (c : ClockedCache) : Json :=
  .object [("name", .text c.name), ("size", .int c.cache.size), ("hits", .int c.cache.hits),
    ("misses", .int c.cache.misses), ("expirations", .int c.cache.expirations),
    ("hit_ratio", .float c.cache.hitRatio)]

end ClockedCache

end QuestionBoard
