import Mathlib.Data.List.Forall2
import QuestionBoard.Proofs.Cache.Expiry
import QuestionBoard.Proofs.Cache.Remote

/-!
The cache of the process beside the cache on a server that keeps time, with the same calls made on both.
As long as keys and texts can be encoded, what a reader finds is the same in both at every reading, since
both come to what the calls leave under the key, but for what has expired. They differ in what they do with
an entry that has expired and that no set has swept out yet: the server has nothing to delete, and the cache
of the process deletes it. Such a deletion is the only call that the two answer differently, and it makes
them the same again. A call that cannot be encoded fails on the server, and never in the process.
-/

namespace QuestionBoard

open CacheEntry

variable {τ : Type} [LE τ] [DecidableLE τ] [Clock τ]

/-- A text that the server holds, as an entry. -/
def CacheEntry.ofHeld (held : String × Option τ) : CacheEntry τ := ⟨.plain held.1, held.2⟩

namespace CacheCall

/-- Whether the milliseconds that a call sends, if any, make up all of its duration. -/
def SentWhole : CacheCall → Prop
  | .set _ _ (some d) => RemoteCache.SentWhole d
  | _ => True

/-- Whether the duration of a call, if it has one, is a positive number of seconds, and none of those, all
of them beyond the most exact seconds, whose milliseconds are rounded. -/
def WholeSeconds : CacheCall → Prop
  | .set _ _ (some d) => ∃ n : Nat, 0 < n ∧ d = ⟨1000000 * n⟩ ∧
      (n ≤ RemoteCache.maxExactSeconds ∨ RemoteCache.SentWhole d)
  | _ => True

theorem WholeSeconds.sentWhole {call : CacheCall} (h : call.WholeSeconds) : call.SentWhole := by
  rcases call with _ | ⟨_, _, _ | d⟩ | _
  · trivial
  · trivial
  · obtain ⟨n, hn, rfl, hmax | hsent⟩ := h
    · exact RemoteCache.sentWhole_seconds hn hmax
    · exact hsent
  · trivial

end CacheCall

/-! ### What the server holds -/

namespace RemoteCache

variable {calls : List (TimedCall τ)} {r : RemoteCache (IdealServer τ)} {j : Journal}

def afterCalls (r : RemoteCache (IdealServer τ)) (calls : List (TimedCall τ)) (j : Journal) :
    CacheRun τ (RemoteCache (IdealServer τ)) := CacheRun.calls serve ⟨[], r, j⟩ calls

@[simp] theorem afterCalls_concat (c : TimedCall τ) :
    afterCalls r (calls ++ [c]) j = (afterCalls r calls j).call serve c := CacheRun.calls_concat ..

omit [Clock τ] in
theorem lookup_eq_live {key : Text} {held : Option (String × Option τ)}
    (h : r.server.held (r.serverKey key) = held.map fun (s, expiry) => (encodeUtf8 s, expiry)) (now : τ) :
    r.lookup now key = live now (held.map ofHeld) := by
  rw [lookup, IdealServer.present, h]
  cases held with
  | none => rfl
  | some held =>
      obtain ⟨value, _ | expiry⟩ := held
      · simp [live, ofHeld, isExpired, decodeUtf8Lossy_encodeUtf8]
      · by_cases hexpired : expiry ≤ now
        · simp [live, ofHeld, isExpired, hexpired]
        · simp [live, ofHeld, isExpired, hexpired, decodeUtf8Lossy_encodeUtf8]

/-- The server holds what calls leave, and maybe what expired before it was deleted. -/
def Holds (calls : List (TimedCall τ)) (r : RemoteCache (IdealServer τ)) : Prop :=
  ∀ key, ∃ held : Option (String × Option τ),
    r.server.held (r.serverKey key) = held.map (fun (s, expiry) => (encodeUtf8 s, expiry)) ∧
      Fades calls (left key calls) (held.map ofHeld)

/-- What is held at one key changes. -/
theorem Holds.holding (h : Holds calls r) (c : TimedCall τ) {key : Text} (held : Option (String × Option τ))
    (hkey : c.leaves key (left key calls) = held.map ofHeld)
    (hother : ∀ other, other ≠ key → c.leaves other (left other calls) = left other calls) :
    Holds (calls ++ [c]) (r.holding c.now key (held.map fun (s, expiry) => (encodeUtf8 s, expiry))) := by
  intro other
  change ∃ held', Function.update r.server.held (r.serverKey key) _ (r.serverKey other) = _ ∧ _
  rw [left_concat]
  by_cases heq : other = key
  · subst heq
    exact ⟨held, Function.update_self .., Or.inl hkey⟩
  · obtain ⟨held', hheld, hfades⟩ := h other
    refine ⟨held', ?_, ?_⟩
    · rw [Function.update_of_ne fun e => heq (r.serverKey_injective e), hheld]
    · rw [hother other heq]
      exact hfades.concat c

theorem Holds.serve (h : Holds calls r) {c : TimedCall τ} (hsent : c.call.SentWhole)
    (hencodable : c.call.Encodable r.keyStart) (j : Journal) :
    Holds (calls ++ [c]) ((serve c).outcome r j).state := by
  obtain ⟨now, call⟩ := c
  cases call with
  | get key =>
      rw [outcome_serve_get now hencodable]
      intro other
      obtain ⟨held, hheld, hfades⟩ := h other
      exact ⟨held, hheld, by rw [left_concat]; exact hfades.concat _⟩
  | set key value expiration =>
      obtain ⟨hkey, s, rfl⟩ := hencodable
      rw [outcome_serve_set now hkey]
      have hexpiry : (expiration.map milliseconds).map (fun p => Clock.after now ⟨1000 * p⟩) =
          expiration.map (Clock.after now) := by
        cases expiration with
        | none => rfl
        | some d =>
            have hwhole : 1000 * milliseconds d = d.microseconds := hsent
            simp only [Option.map_some, hwhole]
      simp only [hexpiry]
      refine h.holding ⟨now, .set key s expiration⟩ (some (s, expiration.map (Clock.after now))) ?_ ?_
      · exact if_pos rfl
      · exact fun other hne => if_neg (Ne.symm hne)
  | delete key =>
      have hleaves : ∀ other, other ≠ key →
          (⟨now, .delete key⟩ : TimedCall τ).leaves other (left other calls) = left other calls :=
        fun other hne => if_neg (Ne.symm hne)
      rw [outcome_serve_delete now hencodable]
      by_cases hpresent : (r.lookup now key).isSome = true
      · rw [if_pos hpresent]
        exact h.holding ⟨now, .delete key⟩ none (if_pos rfl) hleaves
      · rw [if_neg hpresent]
        intro other
        obtain ⟨held, hheld, hfades⟩ := h other
        refine ⟨held, hheld, ?_⟩
        rw [left_concat]
        by_cases heq : other = key
        · subst heq
          -- Nothing is present, so what is held had expired, or is nothing as well.
          rw [lookup_eq_live hheld] at hpresent
          cases held with
          | none => exact Or.inl (if_pos rfl)
          | some held =>
              refine Or.inr ⟨if_pos rfl, ofHeld held, rfl, _,
                List.mem_append_right _ (List.mem_singleton_self _), ?_⟩
              cases hexpired : (ofHeld held).isExpired now with
              | true => rfl
              | false => simp [live, hexpired] at hpresent
        · rw [hleaves other heq]
          exact hfades.concat _

theorem keyStart_serve (c : TimedCall τ) : ((serve c).outcome r j).state.keyStart = r.keyStart := by
  by_cases h : c.call.Encodable r.keyStart
  · obtain ⟨now, call⟩ := c
    cases call with
    | get key =>
        rw [outcome_serve_get now h]
        rfl
    | set key value expiration =>
        obtain ⟨hkey, s, rfl⟩ := h
        rw [outcome_serve_set now hkey]
        rfl
    | delete key =>
        rw [outcome_serve_delete now h]
        split <;> rfl
  · obtain ⟨f, -, hfails⟩ := exists_outcome_serve_of_not_encodable (j := j) h
    rw [hfails]
    rfl

theorem keyStart_afterCalls (calls : List (TimedCall τ)) (j : Journal) :
    (r.afterCalls calls j).state.keyStart = r.keyStart := by
  induction calls using List.reverseRecOn with
  | nil => rfl
  | append_singleton calls c ih => rw [afterCalls_concat, CacheRun.call_state, keyStart_serve, ih]

/-- A call that cannot be encoded fails for that reason, whatever came before. -/
theorem exists_result_of_not_encodable (calls : List (TimedCall τ)) (j : Journal) {c : TimedCall τ}
    (h : ¬c.call.Encodable r.keyStart) : ∃ f, f.SaysUnencodable ∧
      ((serve c).outcome (r.afterCalls calls j).state (r.afterCalls calls j).journal).result = .error f := by
  rw [← keyStart_afterCalls (r := r) calls j] at h
  obtain ⟨f, hsays, houtcome⟩ := exists_outcome_serve_of_not_encodable h
  exact ⟨f, hsays, congrArg Action.Outcome.result houtcome⟩

theorem holds_afterCalls (calls : List (TimedCall τ)) (j : Journal) (hempty : ∀ key, r.server.held key = none)
    (hsent : ∀ c ∈ calls, c.call.SentWhole) (hencodable : ∀ c ∈ calls, c.call.Encodable r.keyStart) :
    Holds calls (afterCalls r calls j).state := by
  induction calls using List.reverseRecOn with
  | nil => exact fun key => ⟨none, hempty _, Or.inl rfl⟩
  | append_singleton calls c ih =>
      have hmem : c ∈ calls ++ [c] := List.mem_append_right _ (List.mem_singleton_self c)
      have hcalls := ih (fun c' h => hsent c' (List.mem_append_left _ h)) fun c' h =>
        hencodable c' (List.mem_append_left _ h)
      have hlast : c.call.Encodable (afterCalls r calls j).state.keyStart := by
        rw [keyStart_afterCalls]
        exact hencodable c hmem
      rw [afterCalls_concat, CacheRun.call_state]
      exact hcalls.serve (hsent c hmem) hlast _

/-- A reader finds the same on the server as in the process. -/
theorem lookup_afterCalls {now : τ} (key : Text) (j j' : Journal)
    (hempty : ∀ key, r.server.held key = none) (hsent : ∀ c ∈ calls, c.call.SentWhole)
    (hencodable : ∀ c ∈ calls, c.call.Encodable r.keyStart)
    (hnow : ∀ c ∈ calls, c.now ≤ now) : (afterCalls r calls j).state.lookup now key =
      (ExpiringCache.afterCalls calls j').state.lookup now key := by
  obtain ⟨held, hheld, hfades⟩ := holds_afterCalls calls j hempty hsent hencodable key
  rw [lookup_eq_live hheld, ExpiringCache.lookup_afterCalls key j' hnow, hfades.live_eq hnow]

end RemoteCache

/-! ### Side by side -/

namespace ExpiringCache

/-- Whether a call is a deletion that finds an entry which has expired. -/
def FindsExpired (c : TimedCall τ) (cache : ExpiringCache τ) : Prop :=
  ∃ key entry, c.call = .delete key ∧ cache.entries.get? key = some entry ∧ entry.isExpired c.now = true

/-- Whether one of the calls is a deletion that finds an entry which has expired. -/
def DeletesExpired (calls : List (TimedCall τ)) (j : Journal) : Prop :=
  ∃ earlier c later, calls = earlier ++ c :: later ∧ FindsExpired c (afterCalls earlier j).state

theorem deletesExpired_concat (calls : List (TimedCall τ)) (c : TimedCall τ) (j : Journal) :
    DeletesExpired (calls ++ [c]) j ↔
      DeletesExpired calls j ∨ FindsExpired c (afterCalls calls j).state := by
  constructor
  · rintro ⟨earlier, c', later, hsplit, hfinds⟩
    rcases List.eq_nil_or_concat later with rfl | ⟨later', last, rfl⟩
    · obtain ⟨rfl, hlast⟩ := List.append_inj' hsplit rfl
      cases hlast
      exact Or.inr hfinds
    · rw [List.concat_eq_append, ← List.cons_append, ← List.append_assoc] at hsplit
      exact Or.inl ⟨earlier, c', later', (List.append_inj' hsplit rfl).1, hfinds⟩
  · rintro (⟨earlier, c', later, rfl, hfinds⟩ | hfinds)
    · exact ⟨earlier, c', later ++ [c], by simp, hfinds⟩
    · exact ⟨calls, c, [], rfl, hfinds⟩

end ExpiringCache

section

open ExpiringCache

variable {r : RemoteCache (IdealServer τ)}

/-- The two caches answer a call alike, unless it is a deletion that finds an entry which has expired. -/
theorem result_serve_cases (calls : List (TimedCall τ)) (c : TimedCall τ) (j j' : Journal)
    (hempty : ∀ key, r.server.held key = none) (hsent : ∀ c ∈ calls, c.call.SentWhole)
    (hencodable : ∀ c' ∈ calls ++ [c], c'.call.Encodable r.keyStart) (hnow : ∀ c' ∈ calls, c'.now ≤ c.now) :
    let run := afterCalls calls j
    let run' := r.afterCalls calls j'
    let result := ((ExpiringCache.serve c).outcome run.state run.journal).result
    let result' := ((RemoteCache.serve c).outcome run'.state run'.journal).result
    ¬FindsExpired c run.state ∧ result = result' ∨
      FindsExpired c run.state ∧ ∃ key, c.call = .delete key ∧ result = .ok none ∧
        result' = .error (.noCacheKey key) := by
  intro run run' result result'
  obtain ⟨hcalls, hlast⟩ := List.forall_mem_append.mp hencodable
  have hlookup : ∀ key, run'.state.lookup c.now key = run.state.lookup c.now key :=
    fun key => RemoteCache.lookup_afterCalls key j' j hempty hsent hcalls hnow
  have hlast' : c.call.Encodable run'.state.keyStart := by
    rw [RemoteCache.keyStart_afterCalls]
    exact hlast c (List.mem_singleton_self c)
  obtain ⟨now, call⟩ := c
  cases call with
  | get key =>
      refine Or.inl ⟨by simp [FindsExpired], ?_⟩
      simp only [result, result']
      rw [result_serve_get, RemoteCache.outcome_serve_get now hlast', hlookup]
  | set key value expiration =>
      obtain ⟨hkey, s, rfl⟩ := hlast'
      refine Or.inl ⟨by simp [FindsExpired], ?_⟩
      simp only [result, result']
      rw [result_serve_set, RemoteCache.outcome_serve_set now hkey]
  | delete key =>
      have hkept : run.state.lookup now key = live now (run.state.entries.get? key) := rfl
      simp only [result, result']
      rw [result_serve_delete, RemoteCache.outcome_serve_delete now hlast', hlookup, hkept,
        OrderedMap.contains]
      cases hentry : run.state.entries.get? key with
      | none =>
          left
          simp [FindsExpired, hentry, live]
      | some entry =>
          cases hexpired : entry.isExpired now with
          | true =>
              right
              simp [FindsExpired, hentry, hexpired, live]
          | false =>
              left
              simp [FindsExpired, hentry, hexpired, live]

/-- The cache of the process never fails for want of an encoding. -/
theorem not_saysUnencodable_of_result_serve {c : TimedCall τ} {cache : ExpiringCache τ} {j : Journal}
    {f : Failure} (h : ((ExpiringCache.serve c).outcome cache j).result = .error f) : ¬f.SaysUnencodable := by
  rintro ⟨position, first, count, rfl⟩
  obtain ⟨now, call⟩ := c
  cases call with
  | get key =>
      rw [result_serve_get] at h
      cases hlookup : cache.lookup now key <;> simp [hlookup, Failure.noCacheKey, Failure.unencodable] at h
  | set key value expiration => simp [result_serve_set] at h
  | delete key =>
      rw [result_serve_delete] at h
      split at h <;> simp [Failure.noCacheKey, Failure.unencodable] at h

/-- After calls that can be encoded, the two caches answer a call alike if and only if it can be encoded as
well and is no deletion that finds an entry which has expired. -/
theorem result_serve_eq_iff (calls : List (TimedCall τ)) (c : TimedCall τ) (j j' : Journal)
    (hempty : ∀ key, r.server.held key = none) (hsent : ∀ c ∈ calls, c.call.SentWhole)
    (hencodable : ∀ c' ∈ calls, c'.call.Encodable r.keyStart) (hnow : ∀ c' ∈ calls, c'.now ≤ c.now) :
    let run := afterCalls calls j
    let run' := r.afterCalls calls j'
    ((ExpiringCache.serve c).outcome run.state run.journal).result =
        ((RemoteCache.serve c).outcome run'.state run'.journal).result ↔
      ¬FindsExpired c run.state ∧ c.call.Encodable r.keyStart := by
  intro run run'
  by_cases hc : c.call.Encodable r.keyStart
  · rw [and_iff_left hc]
    have hall : ∀ c' ∈ calls ++ [c], c'.call.Encodable r.keyStart :=
      List.forall_mem_append.mpr ⟨hencodable, List.forall_mem_singleton.mpr hc⟩
    rcases result_serve_cases calls c j j' hempty hsent hall hnow with
      ⟨hfinds, hresult⟩ | ⟨hfinds, key, -, hok, herror⟩
    · exact iff_of_true hresult hfinds
    · refine iff_of_false (fun h => ?_) (not_not_intro hfinds)
      cases hok.symm.trans (h.trans herror)
  · obtain ⟨f, hsays, herror⟩ := RemoteCache.exists_result_of_not_encodable calls j' hc
    refine iff_of_false (fun h => ?_) fun h => hc h.2
    exact not_saysUnencodable_of_result_serve (h.trans herror) hsays

/-- The same calls on both caches, empty at first, come to the same if and only if none of them is a
deletion that finds an entry which has expired, and all of them can be encoded. A call that cannot be
encoded fails on the server for that reason. If all can be, then wherever they come to something else, the
cache of the process has deleted such an entry and the server had none. -/
theorem made_eq_iff_not_deletesExpired (calls : List (TimedCall τ)) (j j' : Journal)
    (hempty : ∀ key, r.server.held key = none)
    (hordered : calls.Pairwise fun c c' => c.now ≤ c'.now)
    (hwhole : ∀ c ∈ calls, c.call.WholeSeconds) :
    ((afterCalls calls j).made = (r.afterCalls calls j').made ↔
      ¬DeletesExpired calls j ∧ ∀ c ∈ calls, c.call.Encodable r.keyStart) ∧
    (∀ e ∈ (r.afterCalls calls j').made, ¬e.call.Encodable r.keyStart →
      ∃ f, f.SaysUnencodable ∧ e.result = .error f) ∧
    ((∀ c ∈ calls, c.call.Encodable r.keyStart) →
      List.Forall₂ (fun e e' => e.toTimedCall = e'.toTimedCall ∧ (e.result = e'.result ∨
        ∃ key, e.call = .delete key ∧ e.result = .ok none ∧ e'.result = .error (.noCacheKey key)))
        (afterCalls calls j).made (r.afterCalls calls j').made) := by
  induction calls using List.reverseRecOn with
  | nil =>
      refine ⟨by simp [afterCalls, RemoteCache.afterCalls, DeletesExpired], fun _ h => ?_, fun _ => .nil⟩
      cases h
  | append_singleton calls c ih =>
      obtain ⟨hcalls, -, hlast⟩ := List.pairwise_append.mp hordered
      obtain ⟨hequal, hfails, hevents⟩ := ih hcalls fun c' hmem => hwhole c' (List.mem_append_left _ hmem)
      have hnow : ∀ c' ∈ calls, c'.now ≤ c.now :=
        fun c' hmem => hlast c' hmem c (List.mem_singleton_self c)
      have hsent : ∀ c' ∈ calls, c'.call.SentWhole :=
        fun c' hmem => (hwhole c' (List.mem_append_left _ hmem)).sentWhole
      rw [afterCalls_concat, RemoteCache.afterCalls_concat, CacheRun.call_made, CacheRun.call_made,
        deletesExpired_concat]
      refine ⟨?_, ?_, fun hencodable => ?_⟩
      · rw [List.append_singleton_inj, hequal, not_or, List.forall_mem_append, List.forall_mem_singleton,
          and_and_and_comm]
        refine and_congr_right fun ⟨_, hencodable⟩ => ?_
        have hresult := result_serve_eq_iff calls c j j' hempty hsent hencodable hnow
        exact ⟨fun h => hresult.mp (congrArg CacheEvent.result h),
          fun h => congrArg (CacheEvent.mk c) (hresult.mpr h)⟩
      · intro e hmem
        rcases List.mem_append.mp hmem with hmem | hmem
        · exact hfails e hmem
        · obtain rfl := List.mem_singleton.mp hmem
          exact RemoteCache.exists_result_of_not_encodable calls j'
      · refine List.rel_append (hevents fun c' h => hencodable c' (List.mem_append_left _ h))
          (.cons ⟨rfl, ?_⟩ .nil)
        rcases result_serve_cases calls c j j' hempty hsent hencodable hnow with ⟨_, hresult⟩ | ⟨_, hdiffer⟩
        · exact Or.inl hresult
        · exact Or.inr hdiffer

/-- A text expires, and a set elsewhere sweeps it out before it is deleted. -/
def sweptFirst : List (TimedCall Int) :=
  [⟨0, .set "key" "text" (some ⟨1000000⟩)⟩, ⟨1000000, .get "key"⟩, ⟨1000000, .set "other" "text" none⟩,
    ⟨1000000, .delete "key"⟩]

/-- Neither the process nor the server has anything to delete. -/
theorem made_eq_sweptFirst : sweptFirst.Pairwise (fun c c' => c.now ≤ c'.now) ∧
    (∀ c ∈ sweptFirst, c.call.WholeSeconds) ∧ ¬DeletesExpired sweptFirst .verbose ∧
    (∀ c ∈ sweptFirst, c.call.Encodable "qna:") ∧ (afterCalls sweptFirst .verbose).made =
      ((RemoteCache.onServer 0).afterCalls sweptFirst .verbose).made := by
  have hordered : sweptFirst.Pairwise (fun c c' => c.now ≤ c'.now) := by decide
  have hwhole : ∀ c ∈ sweptFirst, c.call.WholeSeconds := by
    simp only [sweptFirst, List.forall_mem_cons, CacheCall.WholeSeconds]
    exact ⟨⟨1, by decide, rfl, Or.inl (by decide)⟩, trivial, trivial, trivial, by simp⟩
  have hfinds : ¬DeletesExpired sweptFirst .verbose := by
    change ¬DeletesExpired ([] ++ [_] ++ [_] ++ [_] ++ [_]) _
    simp only [deletesExpired_concat, not_or]
    refine ⟨⟨⟨⟨?_, ?_⟩, ?_⟩, ?_⟩, ?_⟩
    · rintro ⟨earlier, c, later, hsplit, -⟩
      simp at hsplit
    · rintro ⟨key, entry, ⟨⟩, -⟩
    · rintro ⟨key, entry, ⟨⟩, -⟩
    · rintro ⟨key, entry, ⟨⟩, -⟩
    · rintro ⟨key, entry, ⟨⟩, ⟨⟩, -⟩
  have hencodable : ∀ c ∈ sweptFirst, c.call.Encodable "qna:" := by
    simp only [sweptFirst, List.forall_mem_cons, CacheCall.Encodable]
    exact ⟨⟨⟨_, rfl⟩, _, rfl⟩, ⟨_, rfl⟩, ⟨⟨_, rfl⟩, _, rfl⟩, ⟨_, rfl⟩, by simp⟩
  obtain ⟨hequal, -⟩ := made_eq_iff_not_deletesExpired (r := RemoteCache.onServer 0) sweptFirst .verbose
    .verbose (fun _ => rfl) hordered hwhole
  exact ⟨hordered, hwhole, hfinds, hencodable, hequal.mpr ⟨hfinds, hencodable⟩⟩

/-- A text expires, is not found any more, and is deleted. -/
def lapsed : List (TimedCall Binary64) :=
  [⟨.ofInt 1000, .set "key" "text" (some ⟨1000000⟩)⟩, ⟨.ofInt 1001, .get "key"⟩,
    ⟨.ofInt 1001, .delete "key"⟩]

/-- The process has something to delete and the server has not. -/
theorem made_ne_lapsed : lapsed.Pairwise (fun c c' => c.now ≤ c'.now) ∧
    (∀ c ∈ lapsed, c.call.WholeSeconds) ∧ (afterCalls lapsed .verbose).made ≠
      ((RemoteCache.onServer (.ofInt 1000)).afterCalls lapsed .verbose).made := by
  refine ⟨by decide +kernel, ?_, fun h => ?_⟩
  · simp only [lapsed, List.forall_mem_cons, CacheCall.WholeSeconds]
    exact ⟨⟨1, by decide, rfl, Or.inl (by decide)⟩, trivial, trivial, by simp⟩
  · have hprocess : (afterCalls lapsed .verbose).made.map (fun e => e.result.isOk) =
        [true, false, true] := by decide +kernel
    have hserver : ((RemoteCache.onServer (.ofInt 1000)).afterCalls lapsed .verbose).made.map
        (fun e => e.result.isOk) = [true, false, false] := by decide +kernel
    rw [h, hserver] at hprocess
    cases hprocess

end

end QuestionBoard
