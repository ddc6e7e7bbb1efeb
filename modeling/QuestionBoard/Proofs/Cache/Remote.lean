import Mathlib.Tactic.NormNum
import QuestionBoard.Cache.Remote
import QuestionBoard.Proofs.Cache.Calls
import QuestionBoard.Proofs.Number.Exact
import QuestionBoard.Proofs.Text.Utf8
import QuestionBoard.Proofs.Text.Written

/-!
The cache on a server that keeps time exactly. `IdealServer` holds bytes until the reading at which the
milliseconds that came with them are over, and says of a deletion whether there was something to delete.
A cache on it gives back the texts that it was given, if they and their keys can be encoded, and the
milliseconds that it sends for a whole number of seconds are those of the duration, as long as the binary64
numbers that it computes with hold them.
-/

namespace QuestionBoard

open QuestionBoard.Action

/-! ### Milliseconds -/

theorem Duration.exists_totalSeconds_eq {n : Nat} (hn : 0 < n) (h : n < 2 ^ 53) : ∃ m e admissible,
    (⟨1000000 * n⟩ : Duration).totalSeconds = .finite false m e admissible ∧ (m : ℚ) * 2 ^ e = n := by
  have hratio : ((1000000 * n : Nat) : ℚ) / (1000000 : Nat) = n := by
    push_cast
    field_simp
  obtain ⟨m, e, admissible, hround, hvalue⟩ := Binary64.exists_ofRatio_eq false (n := 1000000 * n)
    (d := 1000000) (s := 0) (by omega) (by omega) h (by omega) (by omega)
    (by rw [hratio, zpow_zero, mul_one])
  refine ⟨m, e, admissible, ?_, hvalue.trans hratio⟩
  have hsign : decide ((1000000 * n : Int) < 0) = false := decide_eq_false (by omega)
  have habs : (1000000 * n : Int).natAbs = 1000000 * n := by omega
  rw [totalSeconds, hsign, habs, hround]

namespace RemoteCache

/-- The most seconds up to which the milliseconds of every number of seconds are held by a binary64
number. -/
def maxExactSeconds : Nat := 72057594037927

/-- Whether the milliseconds that are sent for a duration make up all of it. -/
def SentWhole (d : Duration) : Prop := 1000 * milliseconds d = d.microseconds

theorem sentWhole_seconds {n : Nat} (hn : 0 < n) (hmax : n ≤ maxExactSeconds) :
    SentWhole ⟨1000000 * n⟩ := by
  -- A thousand is eight times 125, and 125 times the seconds have at most 53 binary digits.
  have hbound : 125 * n < 2 ^ 53 := by
    rw [maxExactSeconds] at hmax
    omega
  obtain ⟨m, e, hm, hseconds, hvalue⟩ := Duration.exists_totalSeconds_eq hn (by omega)
  obtain ⟨k, f, hk, hthousand, hvalue'⟩ := Binary64.exists_ofInt_eq (n := 1000) (by omega) (by omega)
  have hproduct : (m : ℚ) * 2 ^ e * (k * 2 ^ f) = (125 * n : Nat) * 2 ^ (3 : Int) := by
    rw [hvalue, hvalue']
    push_cast
    ring
  obtain ⟨p, g, hp, hmul, hvalue''⟩ := Binary64.exists_mul_eq hm hk (v := 125 * n)
    (by omega) hbound (by omega) (by omega) hproduct
  have hwhole : (p : ℚ) * 2 ^ g = (1000 * n : Nat) := by
    rw [hvalue'', ← hproduct, hvalue, hvalue']
    push_cast
    ring
  have hthousand' : Binary64.ofInt 1000 = .finite false k f hk := hthousand
  rw [SentWhole, milliseconds, hseconds, hthousand', hmul, Binary64.truncate?_eq hwhole,
    Option.getD_some, max_eq_right (by omega)]
  push_cast
  ring

/-- The next odd number of seconds is sent eight milliseconds short. -/
example : RemoteCache.milliseconds ⟨1000000 * 72057594037929⟩ = 72057594037928992 := by decide +kernel

end RemoteCache

/-! ### A server that keeps time -/

def ServerCall.key? : ServerCall → Option Text
  | .get key | .set key _ _ | .delete key => some key
  | .ping | .close => none

/-- What comes of sending a call, whose key is written in UTF-8. -/
def ServerCall.sent (c : ServerCall) : Except Failure Unit :=
  c.key?.elim (.ok ()) fun key => key.written.map fun _ => ()

/-- A server that keeps time: its clock and, under each key, bytes and the reading from which on they are
absent, if there is one. -/
structure IdealServer (τ : Type) where
  now : τ
  held : Text → Option (List UInt8 × Option τ) := fun _ => none

namespace IdealServer

variable {τ : Type} [LE τ] [DecidableLE τ]

/-- The bytes that are present under a key at a reading. -/
def present (now : τ) (key : Text) (s : IdealServer τ) : Option (List UInt8) :=
  (s.held key).bind fun (bytes, expiry) =>
    if expiry.any fun expiry => decide (expiry ≤ now) then none else some bytes

/-- Answers a call that is sent: bytes are kept until their milliseconds are over, and a deletion is answered
by how many keys it took away. -/
def answer [Clock τ] (call : ServerCall) (s : IdealServer τ) : ServerReply × IdealServer τ :=
  match call with
  | .get key => ((s.present s.now key).elim (.data .null) .bytes, s)
  | .set key value milliseconds =>
    let expiry := milliseconds.map fun p => Clock.after s.now ⟨1000 * p⟩
    (.data (.bool true), { s with held := Function.update s.held key (some (value, expiry)) })
  | .delete key =>
    if (s.present s.now key).isSome then
      (.data (.int 1), { s with held := Function.update s.held key none })
    else (.data (.int 0), s)
  | .ping => (.data (.bool true), s)
  | .close => (.data .null, s)

instance [Clock τ] : CacheServer (IdealServer τ) where
  call request s :=
    match request.sent with
    | .ok () => (.ok (s.answer request).1, (s.answer request).2)
    | .error f => (.error f, s)

end IdealServer

/-- Whether the key that the server would know, and the text if there is one, can be encoded. -/
def CacheCall.Encodable (keyStart : Text) : CacheCall → Prop
  | .get key | .delete key => (keyStart ++ key).Whole
  | .set key value _ => (keyStart ++ key).Whole ∧ value.Whole

namespace RemoteCache

section Keys

variable {ρ : Type} (r : RemoteCache ρ)

theorem serverKey_injective {key other : Text} (h : r.serverKey key = r.serverKey other) : key = other :=
  (Text.append_right_inj r.keyStart).mp h

end Keys

variable {τ : Type} [LE τ] [DecidableLE τ] [Clock τ] (r : RemoteCache (IdealServer τ)) (j : Journal)

omit [LE τ] [DecidableLE τ] [Clock τ] in
/-- A cache on a server whose clock has a reading and that holds nothing. -/
def onServer (now : τ) : RemoteCache (IdealServer τ) := { server := { now } }

def atReading (now : τ) (r : RemoteCache (IdealServer τ)) : RemoteCache (IdealServer τ) :=
  { r with server := { r.server with now } }

/-- Serves a call at its reading of the server's clock. -/
def serve (c : TimedCall τ) : Action (RemoteCache (IdealServer τ)) (Option Text) := do
  modify (atReading c.now)
  c.call.run

/-- The text of the bytes that are present under a key at a reading. -/
def lookup (now : τ) (key : Text) (r : RemoteCache (IdealServer τ)) : Option Text :=
  (r.server.present now (r.serverKey key)).map fun bytes => .plain (decodeUtf8Lossy bytes)

/-- The cache at a reading of its server's clock, with what is held under a key. -/
def holding (now : τ) (key : Text) (held : Option (List UInt8 × Option τ))
    (r : RemoteCache (IdealServer τ)) : RemoteCache (IdealServer τ) :=
  { r with server := ⟨now, Function.update r.server.held (r.serverKey key) held⟩ }

variable {r j}

theorem outcome_request (operation : String) {c : ServerCall} (h : c.sent = .ok ()) :
    (request operation c).outcome r j =
      ⟨.ok (r.server.answer c).1, { r with server := (r.server.answer c).2 }, j⟩ := by
  have hcall : (call c).outcome r j =
      ⟨.ok (r.server.answer c).1, { r with server := (r.server.answer c).2 }, j⟩ := by
    rw [call, outcome_bind, outcome_get, andThen_ok]
    simp only [CacheServer.call, h]
    rfl
  rw [request, outcome_bind, outcome_attempt, hcall]
  rfl

/-- A call whose key cannot be encoded is not sent. -/
theorem exists_outcome_request (operation : String) {c : ServerCall} {key : Text} (hkey : c.key? = some key)
    (hwhole : ¬key.Whole) :
    ∃ f, f.SaysUnencodable ∧ ∀ (r : RemoteCache (IdealServer τ)) (j : Journal),
      (request operation c).outcome r j = ⟨.error f, r, j⟩ := by
  obtain ⟨f, hf, hsays⟩ := Text.exists_written_of_not_whole hwhole
  have hsent : c.sent = .error f := by simp [ServerCall.sent, hkey, hf, Except.map]
  refine ⟨f, hsays, fun r j => ?_⟩
  have hcall : (call c).outcome r j = ⟨.error f, r, j⟩ := by
    rw [call, outcome_bind, outcome_get, andThen_ok]
    simp only [CacheServer.call, hsent]
    rfl
  obtain ⟨position, first, count, rfl⟩ := hsays
  rw [request, outcome_bind, outcome_attempt, hcall]
  rfl

section Encodable

variable {key : Text}

theorem sent_of_whole (hkey : key.Whole) {c : ServerCall} (h : c.key? = some key) : c.sent = .ok () := by
  obtain ⟨s, rfl⟩ := hkey
  simp [ServerCall.sent, h, Except.map]

theorem outcome_find (hkey : (r.serverKey key).Whole) : (find key).outcome r j =
    ⟨(r.lookup r.server.now key).elim (.error (.noCacheKey key)) .ok, r, j⟩ := by
  rw [find, outcome_bind, outcome_get, andThen_ok, outcome_bind,
    outcome_request _ (sent_of_whole hkey rfl), andThen_ok, lookup]
  simp only [IdealServer.answer]
  cases r.server.present r.server.now (r.serverKey key) <;> rfl

theorem outcome_store_plain (hkey : (r.serverKey key).Whole) (value : String) (expiration : Option Duration) :
    (store key value expiration).outcome r j =
      let expiry := (expiration.map milliseconds).map fun p => Clock.after r.server.now ⟨1000 * p⟩
      ⟨.ok (), r.holding r.server.now key (some (encodeUtf8 value, expiry)), j⟩ := by
  rw [store, Text.written_plain, outcome_bind, outcome_ofExcept, andThen_ok, outcome_bind, outcome_get,
    andThen_ok, outcome_bind, outcome_request _ (sent_of_whole hkey rfl)]
  rfl

theorem outcome_delete (hkey : (r.serverKey key).Whole) : (delete key).outcome r j =
    if (r.lookup r.server.now key).isSome then ⟨.ok (), r.holding r.server.now key none, j⟩
    else ⟨.error (.noCacheKey key), r, j⟩ := by
  rw [delete, outcome_bind, outcome_get, andThen_ok, outcome_bind,
    outcome_request _ (sent_of_whole hkey rfl), andThen_ok, lookup]
  by_cases hpresent : (r.server.present r.server.now (r.serverKey key)).isSome = true
  · simp [IdealServer.answer, hpresent, holding, ServerReply.isZero, Json.equals, Json.asInt?]
  · simp [IdealServer.answer, hpresent, ServerReply.isZero, Json.equals, Json.asInt?]

theorem outcome_serve_get (now : τ) (hkey : (r.serverKey key).Whole) : (serve ⟨now, .get key⟩).outcome r j =
    ⟨(r.lookup now key).elim (.error (.noCacheKey key)) fun value => .ok (some value), r.atReading now, j⟩ := by
  have hkey' : ((r.atReading now).serverKey key).Whole := hkey
  rw [serve, outcome_bind, outcome_modify, andThen_ok, CacheCall.run, outcome_bind]
  change Outcome.andThen ((find key).outcome (r.atReading now) j) _ = _
  rw [outcome_find hkey']
  change Outcome.andThen ⟨(r.lookup now key).elim _ _, _, _⟩ _ = _
  cases r.lookup now key <;> rfl

theorem outcome_serve_set (now : τ) (hkey : (r.serverKey key).Whole) (value : String)
    (expiration : Option Duration) : (serve ⟨now, .set key value expiration⟩).outcome r j =
      let expiry := (expiration.map milliseconds).map fun p => Clock.after now ⟨1000 * p⟩
      ⟨.ok none, r.holding now key (some (encodeUtf8 value, expiry)), j⟩ := by
  have hkey' : ((r.atReading now).serverKey key).Whole := hkey
  rw [serve, outcome_bind, outcome_modify, andThen_ok, CacheCall.run, outcome_bind]
  change Outcome.andThen ((store key value expiration).outcome (r.atReading now) j) _ = _
  rw [outcome_store_plain hkey']
  rfl

theorem outcome_serve_delete (now : τ) (hkey : (r.serverKey key).Whole) :
    (serve ⟨now, .delete key⟩).outcome r j =
      if (r.lookup now key).isSome then ⟨.ok none, r.holding now key none, j⟩
      else ⟨.error (.noCacheKey key), r.atReading now, j⟩ := by
  have hkey' : ((r.atReading now).serverKey key).Whole := hkey
  rw [serve, outcome_bind, outcome_modify, andThen_ok, CacheCall.run, outcome_bind]
  change Outcome.andThen ((delete key).outcome (r.atReading now) j) _ = _
  rw [outcome_delete hkey']
  change Outcome.andThen (if (r.lookup now key).isSome then _ else _) _ = _
  split <;> rfl

end Encodable

/-- A call whose key or text cannot be encoded fails, and nothing comes of it. -/
theorem exists_outcome_serve_of_not_encodable {c : TimedCall τ} (h : ¬c.call.Encodable r.keyStart) :
    ∃ f, f.SaysUnencodable ∧ (serve c).outcome r j = ⟨.error f, r.atReading c.now, j⟩ := by
  obtain ⟨now, call⟩ := c
  cases call with
  | get key =>
      obtain ⟨f, hsays, hrequest⟩ := exists_outcome_request (τ := τ) "get" (c := .get _) rfl h
      refine ⟨f, hsays, ?_⟩
      rw [serve, outcome_bind, outcome_modify, andThen_ok, CacheCall.run, outcome_bind]
      change Outcome.andThen ((find key).outcome (r.atReading now) j) _ = _
      rw [find, outcome_bind, outcome_get, andThen_ok, outcome_bind]
      exact congrArg (fun o => Outcome.andThen (Outcome.andThen o _) _) (hrequest ..)
  | set key value expiration =>
      -- The text is encoded before the server is called.
      by_cases hvalue : value.Whole
      · obtain ⟨s, rfl⟩ := hvalue
        obtain ⟨f, hsays, hrequest⟩ := exists_outcome_request (τ := τ) "set"
          (c := .set _ (encodeUtf8 s) (expiration.map milliseconds)) rfl fun hkey => h ⟨hkey, s, rfl⟩
        refine ⟨f, hsays, ?_⟩
        rw [serve, outcome_bind, outcome_modify, andThen_ok, CacheCall.run, outcome_bind]
        change Outcome.andThen ((store key s expiration).outcome (r.atReading now) j) _ = _
        rw [store, Text.written_plain, outcome_bind, outcome_ofExcept, andThen_ok, outcome_bind, outcome_get,
          andThen_ok, outcome_bind]
        exact congrArg (fun o => Outcome.andThen (Outcome.andThen o _) _) (hrequest ..)
      · obtain ⟨f, hf, hsays⟩ := Text.exists_written_of_not_whole hvalue
        refine ⟨f, hsays, ?_⟩
        rw [serve, outcome_bind, outcome_modify, andThen_ok, CacheCall.run, outcome_bind]
        change Outcome.andThen ((store key value expiration).outcome (r.atReading now) j) _ = _
        rw [store, outcome_bind, hf]
        rfl
  | delete key =>
      obtain ⟨f, hsays, hrequest⟩ := exists_outcome_request (τ := τ) "delete" (c := .delete _) rfl h
      refine ⟨f, hsays, ?_⟩
      rw [serve, outcome_bind, outcome_modify, andThen_ok, CacheCall.run, outcome_bind]
      change Outcome.andThen ((delete key).outcome (r.atReading now) j) _ = _
      rw [delete, outcome_bind, outcome_get, andThen_ok, outcome_bind]
      exact congrArg (fun o => Outcome.andThen (Outcome.andThen o _) _) (hrequest ..)

end RemoteCache

end QuestionBoard
