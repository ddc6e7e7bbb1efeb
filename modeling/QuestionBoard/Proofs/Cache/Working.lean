import Mathlib.Logic.Function.Basic
import QuestionBoard.Cache.Expiring
import QuestionBoard.Proofs.Action
import QuestionBoard.Proofs.Number.Order
import QuestionBoard.Proofs.OrderedMap

/-!
Caches that work: they can be reached, and a text that is read under a key is the one that was last
set there. A text may be forgotten, at once or as time passes, but it does not come back. The cache
in the process works by any clock that does not run back.
-/

namespace QuestionBoard

open QuestionBoard.Action

/-- Caches that work. `lookup` is what a reader would find at each key. -/
class WorkingCache (κ : Type) [Cache κ] where
  lookup : κ → Text → Option Text
  /-- Whether one cache is what the other comes to as time passes. -/
  Later : κ → κ → Prop
  exists_outcome_get (c : κ) (key : Text) (j : Journal) : ∃ c' j',
    outcome (Cache.get key) c j = ⟨(lookup c key).elim (.error (.noCacheKey key)) .ok, c', j'⟩ ∧
      lookup c' = lookup c
  exists_outcome_set (c : κ) (key value : Text) (expiration : Option Duration) (j : Journal) :
    ∃ c' j' kept, outcome (Cache.set key value expiration) c j = ⟨.ok (), c', j'⟩ ∧
      lookup c' = Function.update (lookup c) key kept ∧ (kept = some value ∨ kept = none)
  exists_outcome_delete (c : κ) (key : Text) (j : Journal) : ∃ result c' j',
    outcome (Cache.delete key) c j = ⟨result, c', j'⟩ ∧
      lookup c' = Function.update (lookup c) key none ∧
      (result = .ok () ∨ result = .error (.noCacheKey key))
  lookup_of_later {c c' : κ} {key value : Text} (h : Later c c') (hvalue : lookup c' key = some value) :
    lookup c key = some value

/-- Caches that work and forget nothing that is set without an expiration. -/
class LastingCache (κ : Type) [Cache κ] extends WorkingCache κ where
  lookup_set (c : κ) (key value : Text) (j : Journal) :
    lookup (outcome (Cache.set key value none) c j).state = Function.update (lookup c) key (some value)

/-! ### Clocks -/

/-- Clocks, whose readings are compared by an order that is transitive. -/
class Clock (τ : Type) [LE τ] where
  le_trans {a b c : τ} : a ≤ b → b ≤ c → a ≤ c
  /-- The reading at which a duration that begins at a reading is over. -/
  after : τ → Duration → τ

instance : Clock Binary64 where
  le_trans := Binary64.le_trans
  after now d := now + d.totalSeconds

/-- A clock that counts microseconds. -/
instance : Clock Int where
  le_trans := Int.le_trans
  after now d := now + d.microseconds

/-- An entry that has expired stays expired. -/
theorem CacheEntry.isExpired_of_le {τ : Type} [LE τ] [DecidableLE τ] [Clock τ] {entry : CacheEntry τ}
    {now later : τ} (h : now ≤ later) (hexpired : entry.isExpired now = true) :
    entry.isExpired later = true := by
  cases hexpiry : entry.expiresAt with
  | none => simp [isExpired, hexpiry] at hexpired
  | some expiry =>
      simp only [isExpired, hexpiry, decide_eq_true_eq] at hexpired ⊢
      exact Clock.le_trans hexpired h

/-! ### The cache in the process -/

namespace ExpiringCache

variable {τ : Type} [LE τ] [DecidableLE τ] (c : ExpiringCache τ) (now : τ) (key : Text) (j : Journal)

theorem exists_outcome_get : ∃ c', (get now key).outcome c j =
      ⟨(c.lookup now key).elim (.error (.noCacheKey key)) .ok, c', j⟩ ∧ c'.entries = c.entries := by
  rw [get, outcome_bind, outcome_get, andThen_ok]
  cases c.lookup now key with
  | none => exact ⟨_, rfl, rfl⟩
  | some value => exact ⟨_, rfl, rfl⟩

theorem exists_outcome_set (entry : CacheEntry τ) : ∃ c' j',
    (set now key entry).outcome c j = ⟨.ok (), c', j'⟩ ∧
      c'.entries = (c.entries.filter fun e => !e.2.isExpired now).insert key entry := by
  have hsweep : ∃ c' j', (sweep now).outcome c j = ⟨.ok (), c', j'⟩ ∧
      c'.entries = c.entries.filter fun e => !e.2.isExpired now := by
    rw [sweep, outcome_bind, outcome_get, andThen_ok, outcome_bind]
    split <;> exact ⟨_, _, rfl, rfl⟩
  obtain ⟨c', j', houtcome, hentries⟩ := hsweep
  rw [set, outcome_bind, houtcome]
  exact ⟨_, _, rfl, congrArg (OrderedMap.insert key entry) hentries⟩

omit [LE τ] [DecidableLE τ] in
theorem exists_outcome_delete : ∃ result c', (delete key).outcome c j = ⟨result, c', j⟩ ∧
    (∀ other, c'.entries.get? other = if other = key then none else c.entries.get? other) ∧
    (result = .ok () ∨ result = .error (.noCacheKey key)) := by
  rw [delete, outcome_bind, outcome_get, andThen_ok]
  by_cases hkey : c.entries.contains key = true
  · rw [if_pos hkey]
    exact ⟨_, _, rfl, fun other => OrderedMap.get?_erase key other c.entries, Or.inl rfl⟩
  · rw [if_neg hkey]
    refine ⟨_, _, rfl, fun other => ?_, Or.inr rfl⟩
    by_cases hother : other = key
    · rw [if_pos hother, hother]
      simpa [OrderedMap.contains] using hkey
    · rw [if_neg hother]

/-- Sweeping takes nothing away that a reader would find. -/
theorem lookup_sweep (c' : ExpiringCache τ) (other : Text) (entry : CacheEntry τ)
    (h : c'.entries = (c.entries.filter fun e => !e.2.isExpired now).insert key entry)
    (hother : other ≠ key) : c'.lookup now other = c.lookup now other := by
  rw [lookup, h, OrderedMap.get?_insert, if_neg hother, OrderedMap.get?_filter, lookup]
  cases c.entries.get? other with
  | none => rfl
  | some old => cases hexpired : old.isExpired now <;> simp [Option.filter, hexpired]

end ExpiringCache

namespace ClockedCache

theorem outcome_onCache {α : Type} (step : Binary64 → Action (ExpiringCache Binary64) α)
    (c : ClockedCache) (j : Journal) :
    (onCache step).outcome c j = ⟨((step c.now).outcome c.cache j).result,
      { c with cache := ((step c.now).outcome c.cache j).state },
      ((step c.now).outcome c.cache j).journal⟩ := rfl

instance : WorkingCache ClockedCache where
  lookup c key := c.cache.lookup c.now key
  Later c c' := ∃ now, c.now ≤ now ∧ c' = { c with now }
  exists_outcome_get c key j := by
    obtain ⟨c', houtcome, hentries⟩ := ExpiringCache.exists_outcome_get c.cache c.now key j
    refine ⟨{ c with cache := c' }, j, ?_, ?_⟩
    · change (onCache _).outcome c j = _
      rw [outcome_onCache, houtcome]
    · funext other
      simp only [ExpiringCache.lookup, hentries]
  exists_outcome_set c key value expiration j := by
    obtain ⟨c', j', houtcome, hentries⟩ := ExpiringCache.exists_outcome_set c.cache c.now key j
      (CacheEntry.create value c.now expiration)
    refine ⟨{ c with cache := c' }, j', c'.lookup c.now key, ?_, ?_, ?_⟩
    · change (onCache _).outcome c j = _
      rw [outcome_onCache, houtcome]
    · funext other
      by_cases hother : other = key
      · rw [hother, Function.update_self]
      · rw [Function.update_of_ne hother]
        exact ExpiringCache.lookup_sweep _ _ _ _ _ _ hentries hother
    · rw [ExpiringCache.lookup, hentries, OrderedMap.get?_insert, if_pos rfl, Option.bind_some]
      split
      · exact Or.inr rfl
      · exact Or.inl rfl
  exists_outcome_delete c key j := by
    obtain ⟨result, c', houtcome, hentries, hresult⟩ :=
      ExpiringCache.exists_outcome_delete c.cache key j
    refine ⟨result, { c with cache := c' }, j, ?_, ?_, hresult⟩
    · change (onCache _).outcome c j = _
      rw [outcome_onCache, houtcome]
    · funext other
      by_cases hother : other = key
      · rw [hother, Function.update_self]
        simp only [ExpiringCache.lookup, hentries, if_true, Option.bind_none]
      · rw [Function.update_of_ne hother]
        simp only [ExpiringCache.lookup, hentries, if_neg hother]
  lookup_of_later := by
    rintro c c' key value ⟨now, hle, rfl⟩ hvalue
    simp only [ExpiringCache.lookup, Option.bind_eq_some_iff] at hvalue ⊢
    obtain ⟨entry, hentry, hlive⟩ := hvalue
    refine ⟨entry, hentry, ?_⟩
    by_cases hexpired : entry.isExpired c.now = true
    · rw [if_pos (CacheEntry.isExpired_of_le hle hexpired)] at hlive
      cases hlive
    · rw [if_neg hexpired]
      by_cases hlater : entry.isExpired now = true
      · rw [if_pos hlater] at hlive
        cases hlive
      · rw [if_neg hlater] at hlive
        exact hlive

instance : LastingCache ClockedCache where
  lookup_set c key value j := by
    obtain ⟨c', j', houtcome, hentries⟩ := ExpiringCache.exists_outcome_set c.cache c.now key j
      (CacheEntry.create value c.now none)
    change (fun other => ((onCache _).outcome c j).state.cache.lookup c.now other) = _
    funext other
    rw [outcome_onCache, houtcome]
    by_cases hother : other = key
    · rw [hother, Function.update_self]
      show c'.lookup c.now key = some value
      rw [ExpiringCache.lookup, hentries, OrderedMap.get?_insert, if_pos rfl]
      rfl
    · rw [Function.update_of_ne hother]
      exact ExpiringCache.lookup_sweep _ _ _ _ _ _ hentries hother

end ClockedCache

end QuestionBoard
