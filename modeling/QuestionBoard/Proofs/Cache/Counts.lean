import QuestionBoard.Proofs.Cache.Expiry

/-!
What the counts of the cache in the process add up to. Each call adds to one side what it adds to the
other: a read is a hit or a miss, and the text that a set puts in is later found among the entries, or was
swept out, deleted, or replaced by a set that found it unexpired.
-/

namespace QuestionBoard

open QuestionBoard.Action

/-! ### Calls by kind -/

namespace CacheCall

def isGet : CacheCall → Bool
  | .get _ => true
  | _ => false

def isSet : CacheCall → Bool
  | .set _ _ _ => true
  | _ => false

def isDelete : CacheCall → Bool
  | .delete _ => true
  | _ => false

end CacheCall

/-- Whether a call read a text. -/
def CacheEvent.isHit {τ : Type} (e : CacheEvent τ) : Bool := e.call.isGet && e.result.isOk

def CacheEvent.isRemoval {τ : Type} (e : CacheEvent τ) : Bool := e.call.isDelete && e.result.isOk

namespace CacheRun

variable {τ σ : Type} (serve : TimedCall τ → Action σ (Option Text)) (r : CacheRun τ σ)

/-- Calls that are made one after another, each with the state that it finds. -/
def found (r : CacheRun τ σ) : List (TimedCall τ) → List (σ × TimedCall τ)
  | [] => []
  | c :: calls => (r.state, c) :: found (r.call serve c) calls

theorem found_concat (calls : List (TimedCall τ)) (c : TimedCall τ) :
    r.found serve (calls ++ [c]) = r.found serve calls ++ [((r.calls serve calls).state, c)] := by
  induction calls generalizing r with
  | nil => rfl
  | cons first calls ih => exact congrArg ((r.state, first) :: ·) (ih (r.call serve first))

end CacheRun

namespace ExpiringCache

variable {τ : Type} [LE τ] [DecidableLE τ]

def expired (now : τ) (c : ExpiringCache τ) : Nat := c.entries.values.countP (CacheEntry.isExpired now)

/-- Whether a call is a set at a key under which it finds an entry that has not expired. -/
def overwrites (c : ExpiringCache τ) (call : TimedCall τ) : Bool :=
  match call.call with
  | .set key _ _ => (c.entries.get? key).any fun entry => !entry.isExpired call.now
  | _ => false

/-- The number of entries that a call sweeps out: those that a set finds expired. -/
def sweeps (c : ExpiringCache τ) (call : TimedCall τ) : Nat :=
  if call.call.isSet then c.expired call.now else 0

/-! ### What one call adds -/

variable [Clock τ] (c : ExpiringCache τ) (now : τ) (j : Journal)

theorem state_serve_get (key : Text) : ((serve ⟨now, .get key⟩).outcome c j).state =
    if (c.lookup now key).isSome then { c with hits := c.hits + 1 }
    else { c with misses := c.misses + 1 } := by
  rw [serve, outcome_bind, get, outcome_bind, outcome_get, andThen_ok]
  cases c.lookup now key <;> rfl

theorem state_serve_set (key value : Text) (expiration : Option Duration) :
    ((serve ⟨now, .set key value expiration⟩).outcome c j).state = { c with
      entries := (c.entries.filter fun e => !e.2.isExpired now).insert key (.made now value expiration)
      expirations := c.expirations + c.expired now } := by
  have hswept : c.entries.size - (c.entries.filter fun e => !e.2.isExpired now).size = c.expired now := by
    have hall := c.entries.size_filter_values (CacheEntry.isExpired now)
    rw [expired]
    omega
  rw [serve, outcome_bind, set, outcome_bind, sweep, outcome_bind, outcome_get, andThen_ok, outcome_bind]
  rw [hswept]
  split <;> rfl

theorem state_serve_delete (key : Text) : ((serve ⟨now, .delete key⟩).outcome c j).state =
    if c.entries.contains key then { c with entries := c.entries.erase key } else c := by
  rw [serve, outcome_bind, delete, outcome_bind, outcome_get, andThen_ok]
  cases c.entries.contains key <;> rfl

/-- A read is a hit or a miss, and a hit if it gives a text. -/
theorem reads_serve (call : TimedCall τ) :
    let o := (serve call).outcome c j
    o.state.hits + o.state.misses = c.hits + c.misses + (if call.call.isGet then 1 else 0) ∧
      o.state.hits = c.hits + if CacheEvent.isHit ⟨call, o.result⟩ then 1 else 0 := by
  intro o
  obtain ⟨now, call⟩ := call
  cases call with
  | get key =>
      have hstate : o.state = _ := state_serve_get c now j key
      have hresult : o.result = _ := result_serve_get c now j key
      rw [hstate, hresult]
      cases c.lookup now key with
      | none => exact ⟨(Nat.add_assoc _ _ _).symm, rfl⟩
      | some value => exact ⟨Nat.add_right_comm _ _ _, rfl⟩
  | set key value expiration =>
      have hstate : o.state = _ := state_serve_set c now j key value expiration
      rw [hstate]
      exact ⟨rfl, rfl⟩
  | delete key =>
      have hstate : o.state = _ := state_serve_delete c now j key
      rw [hstate]
      split <;> exact ⟨rfl, rfl⟩

theorem expirations_serve (call : TimedCall τ) :
    ((serve call).outcome c j).state.expirations = c.expirations + c.sweeps call := by
  obtain ⟨now, call⟩ := call
  cases call with
  | get key =>
      rw [state_serve_get]
      split <;> rfl
  | set key value expiration =>
      rw [state_serve_set]
      rfl
  | delete key =>
      rw [state_serve_delete]
      split <;> rfl

omit [Clock τ] in
/-- The key that a set overwrites is that of an entry that it does not sweep out. -/
theorem overwrites_set (key value : Text) (expiration : Option Duration) :
    c.overwrites ⟨now, .set key value expiration⟩ =
      (c.entries.filter fun e => !e.2.isExpired now).contains key := by
  change (c.entries.get? key).any (fun entry => !entry.isExpired now) = _
  rw [OrderedMap.contains, OrderedMap.get?_filter]
  cases c.entries.get? key with
  | none => rfl
  | some entry => cases hexpired : entry.isExpired now <;> simp [Option.filter, hexpired]

/-- A set puts in one entry, for which a place is made by a removal, a sweep or an overwriting set. -/
theorem entries_serve (call : TimedCall τ) :
    let o := (serve call).outcome c j
    o.state.size + o.state.expirations + (if CacheEvent.isRemoval ⟨call, o.result⟩ then 1 else 0) +
        (if c.overwrites call then 1 else 0) =
      c.size + c.expirations + if call.call.isSet then 1 else 0 := by
  intro o
  obtain ⟨now, call⟩ := call
  cases call with
  | get key =>
      have hstate : o.state = _ := state_serve_get c now j key
      rw [hstate]
      split <;> rfl
  | set key value expiration =>
      have hstate : o.state = _ := state_serve_set c now j key value expiration
      have hkept := c.entries.size_filter_values (CacheEntry.isExpired now)
      have hsize := OrderedMap.size_insert key (CacheEntry.made now value expiration)
        (c.entries.filter fun e => !e.2.isExpired now)
      rw [hstate, overwrites_set]
      change (OrderedMap.insert _ _ _).size + (c.expirations + c.expired now) + 0 + _ =
        c.entries.size + c.expirations + 1
      rw [hsize, expired]
      split <;> omega
  | delete key =>
      have hstate : o.state = _ := state_serve_delete c now j key
      have hresult : o.result = _ := result_serve_delete c now j key
      rw [hstate, hresult]
      cases hcontains : c.entries.contains key with
      | false => rfl
      | true =>
          have hsize := OrderedMap.size_erase hcontains
          change (c.entries.erase key).size + c.expirations + 1 + 0 = c.entries.size + c.expirations + 0
          omega

/-! ### What a run adds up to -/

/-- Calls on a cache that was empty, each with the cache that it finds. -/
def findings (calls : List (TimedCall τ)) (j : Journal) : List (ExpiringCache τ × TimedCall τ) :=
  CacheRun.found serve ⟨[], {}, j⟩ calls

theorem findings_concat (calls : List (TimedCall τ)) (call : TimedCall τ) :
    findings (calls ++ [call]) j = findings calls j ++ [((afterCalls calls j).state, call)] :=
  CacheRun.found_concat ..

/-- The counts of a cache account for all calls that were ever made on it. The hits and misses are the
reads, and the hits are those that gave a text. The entries, the expirations, the deletions that succeeded
and the sets that replaced an entry that had not expired are the sets, and the expirations are the entries
that the sets found expired, each counted once. -/
theorem counts_afterCalls (calls : List (TimedCall τ)) (j : Journal) :
    let r := afterCalls calls j
    r.state.hits + r.state.misses = calls.countP (·.call.isGet) ∧
    r.state.hits = r.made.countP CacheEvent.isHit ∧
    r.state.size + r.state.expirations + r.made.countP CacheEvent.isRemoval +
        (findings calls j).countP (fun x => x.1.overwrites x.2) = calls.countP (·.call.isSet) ∧
    r.state.expirations = ((findings calls j).map fun x => x.1.sweeps x.2).sum := by
  induction calls using List.reverseRecOn with
  | nil => exact ⟨rfl, rfl, rfl, rfl⟩
  | append_singleton calls c ih =>
      obtain ⟨hreads, hhits, hentries, hexpirations⟩ := ih
      obtain ⟨hreads', hhits'⟩ := reads_serve (afterCalls calls j).state (afterCalls calls j).journal c
      have hentries' := entries_serve (afterCalls calls j).state (afterCalls calls j).journal c
      have hexpirations' := expirations_serve (afterCalls calls j).state (afterCalls calls j).journal c
      simp only [afterCalls_concat, CacheRun.call_made, CacheRun.call_state, findings_concat,
        List.countP_append, List.countP_singleton, List.map_append, List.sum_append, List.map_cons,
        List.map_nil, List.sum_cons, List.sum_nil]
      refine ⟨?_, ?_, ?_, ?_⟩
      · rw [hreads', hreads]
      · rw [hhits', hhits]
      · rw [← hentries]
        dsimp only at hentries'
        omega
      · rw [hexpirations', hexpirations]
        rfl

end ExpiringCache

end QuestionBoard
