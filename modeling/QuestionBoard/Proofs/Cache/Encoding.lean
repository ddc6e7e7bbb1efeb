import QuestionBoard.Cache.Scripted
import QuestionBoard.Proofs.Action
import QuestionBoard.Proofs.Text.Damage
import QuestionBoard.Proofs.Text.Written

/-!
Texts on their way to a cache server and back. What is set goes out as its UTF-8 bytes, in one call, and
any bytes that the server gives are read as text: those that were sent as the text that was set, and those
that something happened to as the text that is still in them, with replacement characters for the rest.
-/

namespace QuestionBoard

open QuestionBoard.Action

namespace RemoteCache

variable {ρ : Type} [CacheServer ρ] (c : RemoteCache ρ) (j : Journal)

def afterCall (call : ServerCall) : RemoteCache ρ :=
  { c with server := (CacheServer.call call c.server).2 }

/-- Whether the server gives bytes to a reader of a key. -/
def Gives (key : Text) (bytes : List UInt8) : Prop :=
  (CacheServer.call (.get (c.serverKey key)) c.server).1 = .ok (.bytes bytes)

theorem outcome_call (request : ServerCall) : (call request).outcome c j =
    ⟨(CacheServer.call request c.server).1, c.afterCall request, j⟩ := rfl

theorem state_request (operation : String) (sent : ServerCall) :
    ((request operation sent).outcome c j).state = c.afterCall sent := by
  rw [request, outcome_bind, outcome_attempt, outcome_call, andThen_ok]
  cases (CacheServer.call sent c.server).1 with
  | ok reply => rfl
  | error f =>
      simp only
      split <;> rfl

theorem outcome_request_of_ok (operation : String) {sent : ServerCall} {reply : ServerReply}
    (h : (CacheServer.call sent c.server).1 = .ok reply) :
    (request operation sent).outcome c j = ⟨.ok reply, c.afterCall sent, j⟩ := by
  rw [request, outcome_bind, outcome_attempt, outcome_call, andThen_ok, h, outcome_pure]

theorem outcome_store (key : Text) (value : String) (expiration : Option Duration) :
    (store key value expiration).outcome c j =
      ((request "set" (.set (c.serverKey key) (encodeUtf8 value) (expiration.map milliseconds))).outcome c
        j).andThen fun _ => pure () := by
  rw [store, outcome_bind, outcome_ofExcept, Text.written_plain, andThen_ok, outcome_bind, outcome_get,
    andThen_ok, outcome_bind]

theorem state_store (key : Text) (value : String) (expiration : Option Duration) :
    ((store key value expiration).outcome c j).state =
      c.afterCall (.set (c.serverKey key) (encodeUtf8 value) (expiration.map milliseconds)) := by
  rw [outcome_store, ← state_request c j "set"]
  obtain ⟨result, state, journal⟩ := (request "set" _).outcome c j
  cases result <;> rfl

variable {c} in
theorem outcome_find_of_gives {key : Text} {bytes : List UInt8} (h : c.Gives key bytes) :
    (find key).outcome c j = ⟨.ok (decodeUtf8Lossy bytes), c.afterCall (.get (c.serverKey key)), j⟩ := by
  rw [find, outcome_bind, outcome_get, andThen_ok, outcome_bind, outcome_request_of_ok c j "get" h, andThen_ok]
  rfl

/-- What a set sends is read as the text that was set, by any reader that the server gives it to. Any bytes
are read as text, every character that is spelled in them and one replacement character for each damaged
piece, so that text which is not empty keeps its meaning among any others. -/
theorem text_survives :
    (∀ (key : Text) (value : String) expiration,
      ((store key value expiration).outcome c j).state =
        c.afterCall (.set (c.serverKey key) (encodeUtf8 value) (expiration.map milliseconds)) ∧
      ∀ (reader : RemoteCache ρ) (key' : Text) (j' : Journal), reader.Gives key' (encodeUtf8 value) →
        ((find key').outcome reader j').result = .ok value) ∧
    (∀ key bytes, c.Gives key bytes → ((find key).outcome c j).result = .ok (decodeUtf8Lossy bytes)) ∧
    (∀ bytes, ReadsLossy bytes (decodeUtf8Lossy bytes).toList) ∧
    ∀ before s after, s ≠ "" → decodeUtf8Lossy (before ++ encodeUtf8 s ++ after) =
      decodeUtf8Lossy before ++ s ++ decodeUtf8Lossy after := by
  refine ⟨fun key value expiration => ⟨state_store c j key value expiration, fun reader key' j' h => ?_⟩,
    fun key bytes h => ?_, fun bytes => ?_, fun before s after hs => ?_⟩
  · rw [outcome_find_of_gives j' h, decodeUtf8Lossy_encodeUtf8]
  · rw [outcome_find_of_gives j h]
  · rw [decodeUtf8Lossy, String.toList_ofList]
    exact readsLossy_decodeCharsLossy bytes
  · exact decodeUtf8Lossy_append_encodeUtf8_append hs before after

/-- A first byte that nothing goes on with and a stray one, with text between them. -/
theorem text_survives_between_strays :
    let bytes := [0xC3] ++ encodeUtf8 "é" ++ [0x80]
    let damaged : RemoteCache ScriptedServer := { server := { reply := .ok (.bytes bytes) } }
    damaged.Gives "k" bytes ∧
      ((find "k").outcome damaged .ordinary).result = .ok "\uFFFDé\uFFFD" := by
  intro bytes damaged
  obtain ⟨-, hfind, -, hdamage⟩ := text_survives damaged .ordinary
  have hstray : decodeUtf8Lossy [0xC3] = "\uFFFD" ∧ decodeUtf8Lossy [0x80] = "\uFFFD" := by
    simp [decodeUtf8Lossy, decodeCharsLossy, leadByte?, followSequence, replacementCharacter]
  refine ⟨rfl, ?_⟩
  rw [hfind "k" bytes rfl, hdamage [0xC3] "é" [0x80] (by decide), hstray.1, hstray.2]
  rfl

end RemoteCache

end QuestionBoard
