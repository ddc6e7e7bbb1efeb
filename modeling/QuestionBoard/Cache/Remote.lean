import QuestionBoard.Cache.Basic
import QuestionBoard.Text.Utf8

/-!
The cache on a cache server. Keys get a common start, texts travel as UTF-8, and a duration is sent
in whole milliseconds, at least one. Faults of the server and of the system become internal failures
with one error line. The server is any type that answers calls.
-/

namespace QuestionBoard

inductive ServerCall
  | get (key : Text)
  | set (key : Text) (value : List UInt8) (milliseconds : Option Int)
  | delete (key : Text)
  | ping
  | close

/-- What a cache server answers. -/
inductive ServerReply
  | bytes (value : List UInt8)
  | data (value : Json)

namespace ServerReply

/-- Whether a reply counts as present. -/
def isTruthy : ServerReply → Bool
  | .bytes value => !value.isEmpty
  | .data value => value.isTruthy

def isZero : ServerReply → Bool
  | .bytes _ => false
  | .data value => value.equals (.int 0)

def text? : ServerReply → Option Text
  | .bytes value => some (decodeUtf8Lossy value)
  | .data .null => none
  | .data value => some value.display

end ServerReply

/-- Cache servers: what a call is answered, or the failure that it raises. -/
class CacheServer (ρ : Type) where
  call : ServerCall → ρ → Except Failure ServerReply × ρ

structure RemoteCache (ρ : Type) where
  server : ρ
  /-- The common start of all keys. -/
  keyStart : Text := "qna:"
  name : Text := "redis"

namespace RemoteCache

variable {ρ : Type} [CacheServer ρ]

/-- The name under which the cache writes log lines. -/
def logger : String := "qna.common.cache.redis"

def serverKey (key : Text) (c : RemoteCache ρ) : Text := c.keyStart ++ key

/-- The whole milliseconds that are sent for a duration, at least one. -/
def milliseconds (d : Duration) : Int := max 1 ((d.totalSeconds * .ofInt 1000).truncate?.getD 0)

def call (request : ServerCall) : Action (RemoteCache ρ) ServerReply := do
  let c ← get
  let (reply, server) := CacheServer.call request c.server
  set { c with server }
  Action.ofExcept reply

def isTranslated (f : Failure) : Bool :=
  f.isFault FaultKind.isCacheServer || f.isFault FaultKind.isSystem

def request (operation : String) (c : ServerCall) : Action (RemoteCache ρ) ServerReply := do
  match ← (call c).attempt with
  | .ok reply => return reply
  | .error f =>
    if isTranslated f then
      Action.log .error logger ("Redis error in " ++ operation ++ ": " ++ f.message)
      throw (.internal ("redis " ++ operation ++ " failed: " ++ f.message) (some f.kind))
    else throw f

def find (key : Text) : Action (RemoteCache ρ) Text := do
  let reply ← request "get" (.get ((← get).serverKey key))
  match reply.text? with
  | some value => return value
  | none => throw (.noCacheKey key)

def store (key value : Text) (expiration : Option Duration) : Action (RemoteCache ρ) Unit := do
  let value ← Action.ofExcept value.written
  let _ ← request "set"
    (.set ((← get).serverKey key) (encodeUtf8 value) (expiration.map milliseconds))

def delete (key : Text) : Action (RemoteCache ρ) Unit := do
  let reply ← request "delete" (.delete ((← get).serverKey key))
  if reply.isZero then throw (.noCacheKey key)

def ping : Action (RemoteCache ρ) Bool := do
  match ← (call .ping : Action (RemoteCache ρ) ServerReply).attempt with
  | .ok reply => return reply.isTruthy
  | .error f =>
    if isTranslated f then
      Action.log .warning logger ("Redis connection test failed: " ++ f.message)
      return false
    else throw f

/-- Closes the connection. -/
def close : Action (RemoteCache ρ) Unit := do
  let _ ← (call .close : Action (RemoteCache ρ) ServerReply)

instance : Cache (RemoteCache ρ) where
  get := find
  set := store
  delete := delete
  probe := do let _ ← (ping : Action (RemoteCache ρ) Bool)
  close := close

end RemoteCache

end QuestionBoard
