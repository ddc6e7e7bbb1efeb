import QuestionBoard.Proofs.Cache.Working

/-!
Runs of calls on a cache, each made at a reading of a clock. `CacheRun.calls` makes calls one after
another and keeps what came of each. The cache in the process serves calls by readings of any clock;
`ClockedCache` serves them so by the binary64 numbers. What is under a key after a call depends on the
call alone, but for the sweep that a set begins with.
-/

namespace QuestionBoard

open QuestionBoard.Action

/-! ### Calls -/

inductive CacheCall
  | get (key : Text)
  | set (key value : Text) (expiration : Option Duration)
  | delete (key : Text)
  deriving DecidableEq

namespace CacheCall

def key : CacheCall → Text
  | .get key | .set key _ _ | .delete key => key

def run {κ : Type} [Cache κ] : CacheCall → Action κ (Option Text)
  | .get key => do return some (← Cache.get key)
  | .set key value expiration => do
    Cache.set key value expiration
    return none
  | .delete key => do
    Cache.delete key
    return none

end CacheCall

/-- A call and the reading of the clock at which it is made. -/
structure TimedCall (τ : Type) where
  now : τ
  call : CacheCall
  deriving DecidableEq

/-- What came of a call: the text of a read, nothing of another call, or the failure. -/
structure CacheEvent (τ : Type) extends TimedCall τ where
  result : Except Failure (Option Text)

/-- A cache, the journal, and what came of the calls that led there. -/
structure CacheRun (τ σ : Type) where
  made : List (CacheEvent τ) := []
  state : σ
  journal : Journal

namespace CacheRun

variable {τ σ : Type} (serve : TimedCall τ → Action σ (Option Text)) (r : CacheRun τ σ)

def call (c : TimedCall τ) : CacheRun τ σ :=
  let o := (serve c).outcome r.state r.journal
  ⟨r.made ++ [⟨c, o.result⟩], o.state, o.journal⟩

/-- Makes calls one after another. -/
def calls (calls : List (TimedCall τ)) : CacheRun τ σ := calls.foldl (call serve) r

@[simp] theorem calls_nil : r.calls serve [] = r := rfl

@[simp] theorem calls_concat (calls : List (TimedCall τ)) (c : TimedCall τ) :
    r.calls serve (calls ++ [c]) = (r.calls serve calls).call serve c := by
  simp only [CacheRun.calls, List.foldl_append, List.foldl_cons, List.foldl_nil]

@[simp] theorem call_made (c : TimedCall τ) : (r.call serve c).made =
    r.made ++ [⟨c, ((serve c).outcome r.state r.journal).result⟩] := rfl

@[simp] theorem call_state (c : TimedCall τ) :
    (r.call serve c).state = ((serve c).outcome r.state r.journal).state := rfl

end CacheRun

/-! ### The cache in the process -/

/-- The entry that a set at a reading makes. -/
def CacheEntry.made {τ : Type} [LE τ] [Clock τ] (now : τ) (value : Text)
    (expiration : Option Duration) : CacheEntry τ := ⟨value, expiration.map (Clock.after now)⟩

namespace ExpiringCache

variable {τ : Type} [LE τ] [DecidableLE τ] [Clock τ]

/-- Serves a call at its reading of the clock. -/
def serve (c : TimedCall τ) : Action (ExpiringCache τ) (Option Text) :=
  match c.call with
  | .get key => do return some (← get c.now key)
  | .set key value expiration => do
    set c.now key (.made c.now value expiration)
    return none
  | .delete key => do
    delete key
    return none

variable (c : ExpiringCache τ) (now : τ) (j : Journal)

theorem result_serve_get (key : Text) : ((serve ⟨now, .get key⟩).outcome c j).result =
    (c.lookup now key).elim (.error (.noCacheKey key)) fun value => .ok (some value) := by
  obtain ⟨c', houtcome, -⟩ := exists_outcome_get c now key j
  rw [serve, outcome_bind, houtcome]
  cases c.lookup now key <;> rfl

theorem result_serve_set (key value : Text) (expiration : Option Duration) :
    ((serve ⟨now, .set key value expiration⟩).outcome c j).result = .ok none := by
  obtain ⟨c', j', houtcome, -⟩ := exists_outcome_set c now key j (.made now value expiration)
  rw [serve, outcome_bind, houtcome]
  rfl

theorem result_serve_delete (key : Text) : ((serve ⟨now, .delete key⟩).outcome c j).result =
    if c.entries.contains key then .ok none else .error (.noCacheKey key) := by
  rw [serve, outcome_bind, delete, outcome_bind, outcome_get, andThen_ok]
  cases c.entries.contains key <;> rfl

/-- What is under a key after a call. -/
theorem get?_serve (call : TimedCall τ) (key : Text) :
    ((serve call).outcome c j).state.entries.get? key = match call.call with
      | .get _ => c.entries.get? key
      | .set other value expiration =>
        if key = other then some (.made call.now value expiration)
        else (c.entries.get? key).filter fun entry => !entry.isExpired call.now
      | .delete other => if key = other then none else c.entries.get? key := by
  obtain ⟨now, call⟩ := call
  cases call with
  | get other =>
      obtain ⟨c', houtcome, hentries⟩ := exists_outcome_get c now other j
      rw [serve, outcome_bind, houtcome, ← hentries]
      cases c.lookup now other <;> rfl
  | set other value expiration =>
      obtain ⟨c', j', houtcome, hentries⟩ :=
        exists_outcome_set c now other j (.made now value expiration)
      rw [serve, outcome_bind, houtcome]
      change c'.entries.get? key = _
      rw [hentries, OrderedMap.get?_insert, OrderedMap.get?_filter]
  | delete other =>
      obtain ⟨result, c', houtcome, hentries, hresult⟩ := exists_outcome_delete c other j
      rw [serve, outcome_bind, houtcome]
      rcases hresult with rfl | rfl
      · exact hentries key
      · exact hentries key

end ExpiringCache

/-- The cache with a clock of binary64 numbers serves calls by its clock. -/
theorem ClockedCache.outcome_run (call : CacheCall) (c : ClockedCache) (j : Journal) :
    (call.run).outcome c j =
      let o := (ExpiringCache.serve ⟨c.now, call⟩).outcome c.cache j
      ⟨o.result, { c with cache := o.state }, o.journal⟩ := by
  have hlift : ∀ {α : Type} (step : Binary64 → Action (ExpiringCache Binary64) α)
      (f : α → Option Text), (do return f (← onCache step) : Action ClockedCache _).outcome c j =
        let o := (do return f (← step c.now) : Action (ExpiringCache Binary64) _).outcome c.cache j
        ⟨o.result, { c with cache := o.state }, o.journal⟩ := by
    intro α step f
    rw [outcome_bind, outcome_onCache, outcome_bind]
    rcases (step c.now).outcome c.cache j with ⟨_ | _, _, _⟩ <;> rfl
  cases call with
  | get key => exact hlift (fun now => ExpiringCache.get now key) some
  | set key value expiration =>
      exact hlift (fun now => ExpiringCache.set now key (.create value now expiration)) fun _ => none
  | delete key => exact hlift (fun _ => ExpiringCache.delete key) fun _ => none

end QuestionBoard
