import Mathlib.Data.List.Induction
import QuestionBoard.Proofs.Cache.Calls

/-!
What a read finds in the cache of the process. `left` is the entry that calls leave under a key if
nothing is ever swept, `decided` the one that a set left there which no deletion has taken away since.
The three differ only by entries that had expired when a later call was made (`Fades`), and as the clock
does not run back, a read does not see these. So a read finds the text of the last set or successful
deletion at its key, unless it has expired, whatever was set and swept at other keys.
-/

namespace QuestionBoard

variable {τ : Type} [LE τ] [DecidableLE τ] [Clock τ]

/-! ### What calls leave under a key -/

/-- The entry under a key after a call, if nothing is swept. -/
def TimedCall.leaves (key : Text) (old : Option (CacheEntry τ)) (c : TimedCall τ) :
    Option (CacheEntry τ) :=
  match c.call with
  | .get _ => old
  | .set other value expiration => if other = key then some (.made c.now value expiration) else old
  | .delete other => if other = key then none else old

/-- The entry that calls leave under a key, if nothing is swept. -/
def CacheEntry.left (key : Text) (calls : List (TimedCall τ)) : Option (CacheEntry τ) :=
  calls.foldl (TimedCall.leaves key) none

/-- Whether a call decided what is under a key: a set there, or a deletion that succeeded. -/
def CacheEvent.decides (key : Text) (e : CacheEvent τ) : Bool :=
  match e.call with
  | .get _ => false
  | .set other _ _ => other = key
  | .delete other => decide (other = key) && e.result.isOk

/-- Whether the last set or successful deletion at a key was a set of a text that lasts until after a
reading, or without end. -/
def CacheEvent.Keeps (key value : Text) (now : τ) (made : List (CacheEvent τ)) : Prop :=
  ∃ time expiration result,
    (made.filter (decides key)).getLast? = some ⟨⟨time, .set key value expiration⟩, result⟩ ∧
      ∀ d, expiration = some d → ¬Clock.after time d ≤ now

/-- The entry that the last set or successful deletion at a key left there. -/
def CacheEvent.decided (key : Text) (made : List (CacheEvent τ)) : Option (CacheEntry τ) :=
  match (made.filter (decides key)).getLast? with
  | some ⟨⟨time, .set _ value expiration⟩, _⟩ => some (.made time value expiration)
  | _ => none

namespace CacheEvent

variable {key value : Text} {now : τ} {made : List (CacheEvent τ)}

omit [DecidableLE τ] in
theorem decided_concat (e : CacheEvent τ) : decided key (made ++ [e]) =
    if e.decides key then
      match e.call with
      | .set _ value expiration => some (.made e.now value expiration)
      | _ => none
    else decided key made := by
  rw [decided, List.filter_append, List.filter_singleton]
  cases e.decides key with
  | true =>
      rw [cond_true, List.getLast?_concat, if_pos rfl]
      rcases e with ⟨⟨time, _ | _ | _⟩, _⟩ <;> rfl
  | false =>
      rw [cond_false, List.append_nil, if_neg Bool.false_ne_true]
      rfl

end CacheEvent

namespace CacheEntry

variable {key : Text} {calls : List (TimedCall τ)} {now : τ} {a b : Option (CacheEntry τ)}

omit [DecidableLE τ] in
@[simp] theorem left_concat (c : TimedCall τ) : left key (calls ++ [c]) = c.leaves key (left key calls) := by
  simp only [left, List.foldl_append, List.foldl_cons, List.foldl_nil]

omit [DecidableLE τ] in
/-- Calls at other keys leave nothing under a key. -/
theorem left_filter (key : Text) (calls : List (TimedCall τ)) :
    left key (calls.filter fun c => c.call.key = key) = left key calls := by
  induction calls using List.reverseRecOn with
  | nil => rfl
  | append_singleton calls c ih =>
      rw [List.filter_append, List.filter_singleton, left_concat]
      by_cases hkey : c.call.key = key
      · rw [decide_eq_true hkey, cond_true, left_concat, ih]
      · rw [decide_eq_false hkey, cond_false, List.append_nil, ih]
        obtain ⟨time, call⟩ := c
        cases call with
        | get other => rfl
        | set other value expiration => exact (if_neg hkey).symm
        | delete other => exact (if_neg hkey).symm

def live (now : τ) (entry : Option (CacheEntry τ)) : Option Text :=
  entry.bind fun entry => if entry.isExpired now then none else some entry.value

/-- Whether two entries are the same, but that the first is missing where the second had expired when
one of the calls was made. -/
def Fades (calls : List (TimedCall τ)) (a b : Option (CacheEntry τ)) : Prop :=
  a = b ∨ a = none ∧ ∃ entry, b = some entry ∧ ∃ c ∈ calls, entry.isExpired c.now = true

omit [Clock τ] in
theorem Fades.concat (h : Fades calls a b) (c : TimedCall τ) : Fades (calls ++ [c]) a b := by
  rcases h with rfl | ⟨ha, entry, hb, c', hmem, hexpired⟩
  · exact Or.inl rfl
  · exact Or.inr ⟨ha, entry, hb, c', List.mem_append_left _ hmem, hexpired⟩

omit [Clock τ] in
theorem Fades.trans {c : Option (CacheEntry τ)} (h : Fades calls a b) (h' : Fades calls b c) :
    Fades calls a c := by
  rcases h with rfl | ⟨rfl, hfaded⟩
  · exact h'
  · rcases h' with rfl | ⟨rfl, hfaded'⟩
    · exact Or.inr ⟨rfl, hfaded⟩
    · exact Or.inr ⟨rfl, hfaded'⟩

omit [Clock τ] in
/-- A sweep at a call takes out what has expired. -/
theorem Fades.swept (h : Fades calls a b) (c : TimedCall τ) :
    Fades (calls ++ [c]) (a.filter fun entry => !entry.isExpired c.now) b := by
  rcases h.concat c with rfl | ⟨rfl, hfaded⟩
  · cases a with
    | none => exact Or.inl rfl
    | some entry =>
        cases hexpired : entry.isExpired c.now with
        | false => exact Or.inl (by simp [Option.filter, hexpired])
        | true => exact Or.inr ⟨by simp [Option.filter, hexpired], entry, rfl, c, by simp, hexpired⟩
  · exact Or.inr ⟨rfl, hfaded⟩

theorem Fades.live_eq (h : Fades calls a b) (hnow : ∀ c ∈ calls, c.now ≤ now) :
    live now a = live now b := by
  rcases h with rfl | ⟨rfl, entry, rfl, c, hmem, hexpired⟩
  · rfl
  · have hlater := isExpired_of_le (hnow c hmem) hexpired
    simp [live, hlater]

end CacheEntry

theorem CacheEvent.keeps_iff_live {key value : Text} {now : τ} {made : List (CacheEvent τ)} :
    Keeps key value now made ↔ CacheEntry.live now (decided key made) = some value := by
  unfold Keeps decided
  cases hlast : (made.filter (decides key)).getLast? with
  | none => simp [CacheEntry.live]
  | some e =>
      have hdecides : e.decides key = true := (List.mem_filter.mp (List.mem_of_getLast? hlast)).2
      obtain ⟨⟨time, call⟩, result⟩ := e
      cases call with
      | get other => simp [CacheEntry.live]
      | delete other => simp [CacheEntry.live]
      | set other text expiration =>
          obtain rfl : other = key := by simpa [decides] using hdecides
          cases expiration with
          | none => simp [CacheEntry.live, CacheEntry.made, CacheEntry.isExpired]
          | some d => simp [CacheEntry.live, CacheEntry.made, CacheEntry.isExpired, and_comm]

/-! ### Runs -/

namespace ExpiringCache

open CacheEntry

variable {key : Text} {calls : List (TimedCall τ)} {now : τ} {j : Journal}

def afterCalls (calls : List (TimedCall τ)) (j : Journal) : CacheRun τ (ExpiringCache τ) :=
  CacheRun.calls serve ⟨[], {}, j⟩ calls

@[simp] theorem afterCalls_concat (c : TimedCall τ) :
    afterCalls (calls ++ [c]) j = (afterCalls calls j).call serve c := CacheRun.calls_concat ..

theorem fades_afterCalls (key : Text) (calls : List (TimedCall τ)) (j : Journal) :
    Fades calls ((afterCalls calls j).state.entries.get? key) (left key calls) := by
  induction calls using List.reverseRecOn with
  | nil => exact Or.inl rfl
  | append_singleton calls c ih =>
      rw [afterCalls_concat, CacheRun.call_state, get?_serve, left_concat]
      obtain ⟨time, call⟩ := c
      cases call with
      | get other => exact ih.concat _
      | set other value expiration =>
          by_cases hkey : key = other
          · exact Or.inl (by simp [TimedCall.leaves, hkey])
          · simpa [TimedCall.leaves, hkey, Ne.symm hkey] using ih.swept ⟨time, .set other value expiration⟩
      | delete other =>
          by_cases hkey : key = other
          · exact Or.inl (by simp [TimedCall.leaves, hkey])
          · simpa [TimedCall.leaves, hkey, Ne.symm hkey] using ih.concat ⟨time, .delete other⟩

/-- A deletion that fails decides nothing, but there is nothing to delete except what has expired. -/
theorem fades_decided (key : Text) (calls : List (TimedCall τ)) (j : Journal) :
    Fades calls (left key calls) (CacheEvent.decided key (afterCalls calls j).made) := by
  induction calls using List.reverseRecOn with
  | nil => exact Or.inl rfl
  | append_singleton calls c ih =>
      rw [afterCalls_concat, CacheRun.call_made, left_concat, CacheEvent.decided_concat]
      obtain ⟨time, call⟩ := c
      cases call with
      | get other => exact ih.concat _
      | set other value expiration =>
          by_cases hkey : other = key
          · exact Or.inl (by simp [TimedCall.leaves, CacheEvent.decides, hkey])
          · simpa [TimedCall.leaves, CacheEvent.decides, hkey] using
              ih.concat ⟨time, .set other value expiration⟩
      | delete other =>
          by_cases hkey : other = key
          · subst hkey
            simp only [result_serve_delete, TimedCall.leaves, CacheEvent.decides, if_true, decide_true,
              Bool.true_and]
            cases hcontains : (afterCalls calls j).state.entries.contains other with
            | true => exact Or.inl (by simp [Except.isOk, Except.toBool])
            | false =>
                -- Nothing is there, so what calls leave there had expired, or is nothing as well.
                have hnone : (afterCalls calls j).state.entries.get? other = none := by
                  simpa [OrderedMap.contains] using hcontains
                have hfades := fades_afterCalls other calls j
                rw [hnone] at hfades
                simpa [Except.isOk, Except.toBool] using (hfades.trans ih).concat ⟨time, .delete other⟩
          · simpa [TimedCall.leaves, CacheEvent.decides, hkey] using ih.concat ⟨time, .delete other⟩

theorem lookup_afterCalls (key : Text) (j : Journal) (hnow : ∀ c ∈ calls, c.now ≤ now) :
    (afterCalls calls j).state.lookup now key = live now (left key calls) :=
  (fades_afterCalls key calls j).live_eq hnow

theorem keeps_iff_lookup (key value : Text) (j : Journal) (hnow : ∀ c ∈ calls, c.now ≤ now) :
    CacheEvent.Keeps key value now (afterCalls calls j).made ↔
      (afterCalls calls j).state.lookup now key = some value := by
  have hdecided := (fades_decided key calls j).live_eq hnow
  rw [lookup_afterCalls key j hnow, hdecided, CacheEvent.keeps_iff_live]

/-- What a read comes to after any calls on an empty cache at readings that are not later: it finds the
text of the last set or successful deletion at its key if that was a set of a text that has not expired,
and otherwise fails for want of the key; this depends on the calls at its key alone; and once a set has
been made at the reading, nothing that has expired is left at other keys. -/
theorem outcome_get_afterCalls (calls : List (TimedCall τ)) (j : Journal) (now : τ)
    (hnow : ∀ c ∈ calls, c.now ≤ now) (key : Text) :
    let r := afterCalls calls j
    (∀ value, ((get now key).outcome r.state r.journal).result = .ok value ↔
      CacheEvent.Keeps key value now r.made) ∧
    ((∀ value, ¬CacheEvent.Keeps key value now r.made) →
      ((get now key).outcome r.state r.journal).result = .error (.noCacheKey key)) ∧
    (∀ calls' j', (∀ c ∈ calls', c.now ≤ now) →
      (calls'.filter fun c => c.call.key = key) = calls.filter (fun c => c.call.key = key) →
        let r' := afterCalls calls' j'
        ((get now key).outcome r'.state r'.journal).result =
          ((get now key).outcome r.state r.journal).result) ∧
    ∀ value expiration other entry, other ≠ key →
      ((set now key (.made now value expiration)).outcome r.state r.journal).state.entries.get? other =
        some entry → entry.isExpired now = false := by
  intro r
  have hget : ∀ (calls : List (TimedCall τ)) (j : Journal),
      ((get now key).outcome (afterCalls calls j).state (afterCalls calls j).journal).result =
        ((afterCalls calls j).state.lookup now key).elim (.error (.noCacheKey key)) .ok := by
    intro calls j
    obtain ⟨c', houtcome, -⟩ :=
      exists_outcome_get (afterCalls calls j).state now key (afterCalls calls j).journal
    rw [houtcome]
  refine ⟨fun value => ?_, fun hnone => ?_, fun calls' j' hnow' hsame => ?_, ?_⟩
  · rw [hget, keeps_iff_lookup key value j hnow]
    cases r.state.lookup now key <;> simp
  · rw [hget]
    cases hlookup : (afterCalls calls j).state.lookup now key with
    | none => rfl
    | some value => exact absurd ((keeps_iff_lookup key value j hnow).mpr hlookup) (hnone value)
  · change Action.Outcome.result _ = _
    rw [hget, hget, lookup_afterCalls key j' hnow', lookup_afterCalls key j hnow, ← left_filter key calls',
      hsame, left_filter]
  · intro value expiration other entry hother hentry
    obtain ⟨c', j₁, houtcome, hentries⟩ :=
      exists_outcome_set r.state now key r.journal (.made now value expiration)
    rw [houtcome] at hentry
    change c'.entries.get? other = some entry at hentry
    rw [hentries, OrderedMap.get?_insert, if_neg hother, OrderedMap.get?_filter,
      Option.filter_eq_some_iff] at hentry
    simpa using hentry.2

/-- A text is set for ten seconds and another for one; two seconds later a set elsewhere sweeps the second
out, so that it cannot be deleted any more. -/
def sweptOut : List (TimedCall Int) :=
  [⟨0, .set "kept" "first" (some ⟨10000000⟩)⟩, ⟨0, .set "swept" "second" (some ⟨1000000⟩)⟩,
    ⟨2000000, .set "other" "third" none⟩, ⟨2000000, .delete "swept"⟩]

/-- A second later the first text is found and the second is not. -/
theorem outcome_get_sweptOut :
    (∀ c ∈ sweptOut, c.now ≤ 3000000) ∧
    ((get (3000000 : Int) "kept").outcome (afterCalls sweptOut .verbose).state
      (afterCalls sweptOut .verbose).journal).result = .ok "first" ∧
    ((get (3000000 : Int) "swept").outcome (afterCalls sweptOut .verbose).state
      (afterCalls sweptOut .verbose).journal).result = .error (.noCacheKey "swept") := by
  have hnow : ∀ c ∈ sweptOut, c.now ≤ 3000000 := by decide +kernel
  obtain ⟨hkept, -⟩ := outcome_get_afterCalls sweptOut .verbose (3000000 : Int) hnow "kept"
  obtain ⟨-, hswept, -⟩ := outcome_get_afterCalls sweptOut .verbose (3000000 : Int) hnow "swept"
  refine ⟨hnow, (hkept "first").mpr ⟨0, some ⟨10000000⟩, .ok none, rfl, ?_⟩, hswept ?_⟩
  · rintro d ⟨⟩
    decide +kernel
  · rintro value ⟨time, expiration, result, hlast, hlasts⟩
    have hset : ((afterCalls sweptOut .verbose).made.filter (CacheEvent.decides "swept")).getLast? =
        some ⟨⟨0, .set "swept" "second" (some ⟨1000000⟩)⟩, .ok none⟩ := rfl
    rw [hset] at hlast
    cases hlast
    exact hlasts _ rfl (by decide +kernel)

end ExpiringCache

end QuestionBoard
