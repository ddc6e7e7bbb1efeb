import QuestionBoard.Proofs.Answer.Calls

/-!
When the source is asked, over the cache in the process. An answer that was made for a question stands
until it is invalidated, and is used again while its time has not run out: what the cache keeps under an
identifier comes from an answer that stands, and each answer that stands is kept there, unless it has
expired. So the source is asked exactly when no answer that stands is in time.
-/

namespace QuestionBoard

open QuestionBoard.Action

/-! ### Operations on the cache -/

namespace ClockedCache

variable {c c' : ClockedCache} {key : Text} {j j' : Journal}

theorem of_outcome_get {result : Except Failure Text}
    (h : outcome (Cache.get key) c j = ⟨result, c', j'⟩) :
    result = (c.cache.lookup c.now key).elim (.error (.noCacheKey key)) .ok ∧
      c'.cache.entries = c.cache.entries ∧ c'.now = c.now := by
  obtain ⟨cache, hget, hentries⟩ := ExpiringCache.exists_outcome_get c.cache c.now key j
  change (onCache _).outcome c j = _ at h
  rw [outcome_onCache, hget] at h
  obtain ⟨rfl, rfl, rfl⟩ := Outcome.mk.inj h
  exact ⟨rfl, hentries, rfl⟩

theorem of_outcome_set {value : Text} {expiration : Option Duration} {result : Except Failure Unit}
    (h : outcome (Cache.set key value expiration) c j = ⟨result, c', j'⟩) :
    c'.now = c.now ∧ ∀ other, c'.cache.entries.get? other =
      if other = key then some (.create value c.now expiration)
      else (c.cache.entries.get? other).filter fun entry => !entry.isExpired c.now := by
  obtain ⟨cache, j₁, hset, hentries⟩ := ExpiringCache.exists_outcome_set c.cache c.now key j
    (CacheEntry.create value c.now expiration)
  change (onCache _).outcome c j = _ at h
  rw [outcome_onCache, hset] at h
  obtain ⟨-, rfl, -⟩ := Outcome.mk.inj h
  refine ⟨rfl, fun other => ?_⟩
  change cache.entries.get? other = _
  rw [hentries, OrderedMap.get?_insert, OrderedMap.get?_filter]

theorem of_outcome_delete {result : Except Failure Unit}
    (h : outcome (Cache.delete key) c j = ⟨result, c', j'⟩) :
    c'.now = c.now ∧ ∀ other, c'.cache.entries.get? other =
      if other = key then none else c.cache.entries.get? other := by
  obtain ⟨result, cache, hdelete, hentries, -⟩ := ExpiringCache.exists_outcome_delete c.cache key j
  change (onCache _).outcome c j = _ at h
  rw [outcome_onCache, hdelete] at h
  obtain ⟨-, rfl, -⟩ := Outcome.mk.inj h
  exact ⟨rfl, hentries⟩

end ClockedCache

/-! ### What a call does to the entries -/

namespace Moment

variable {σ γ : Type}

/-- The entry under an identifier, expired or not. -/
def entry (m : Moment σ ClockedCache γ) (id : QuestionId) : Option (CacheEntry Binary64) :=
  m.service.cache.cache.entries.get? (AnswerService.cacheKey id)

def now (m : Moment σ ClockedCache γ) : Binary64 := m.service.cache.now

/-- The answer under an identifier, unless it has expired. -/
def inTime (m : Moment σ ClockedCache γ) (id : QuestionId) : Option Text :=
  (m.entry id).bind fun entry => if entry.isExpired m.now then none else some entry.value

end Moment

theorem AnswerService.cacheKey_inj {id id' : QuestionId} : cacheKey id = cacheKey id' ↔ id = id' :=
  ⟨cacheKey_injective, congrArg cacheKey⟩

theorem Moment.entry_eq_of_entries {σ γ : Type} {m m' : Moment σ ClockedCache γ}
    (h : m'.service.cache.cache.entries = m.service.cache.cache.entries) : m'.entry = m.entry := by
  funext id
  rw [Moment.entry, h, Moment.entry]

/-- A read of the cache finds the answer in time. -/
theorem Moment.inTime_of_get {σ γ : Type} (m : Moment σ ClockedCache γ) {id : QuestionId} {j j' : Journal}
    {result : Except Failure Text} {c : ClockedCache}
    (h : outcome (Cache.get (AnswerService.cacheKey id)) m.service.cache j = ⟨result, c, j'⟩) :
    m.inTime id = result.toOption := by
  obtain ⟨rfl, -, -⟩ := ClockedCache.of_outcome_get h
  show m.service.cache.cache.lookup m.service.cache.now (AnswerService.cacheKey id) = _
  cases m.service.cache.cache.lookup m.service.cache.now (AnswerService.cacheKey id) <;> rfl

/-- The entries that a call leaves, and the answer that it makes, if it makes one. -/
inductive ServiceCall.Leaves {σ γ : Type} (m : Moment σ ClockedCache γ) : ServiceCall →
    Option (QuestionId × Text) → (QuestionId → Option (CacheEntry Binary64)) → Prop
  | asBefore (target : QuestionId) : Leaves m (.answer target) none m.entry
  | made (target id : QuestionId) (text : Text) : m.inTime id = none →
      Leaves m (.answer target) (some (id, text)) fun other =>
        if other = id then some (.create text m.now m.service.lifetime)
        else (m.entry other).filter fun entry => !entry.isExpired m.now
  | dropped (id : QuestionId) : Leaves m (.invalidate id) none fun other =>
      if other = id then none else m.entry other

namespace ServiceCall.Leaves

variable {σ γ : Type} {m : Moment σ ClockedCache γ} {call : ServiceCall} {made : Option (QuestionId × Text)}
  {entries : QuestionId → Option (CacheEntry Binary64)} {id : QuestionId} {text : Text}
  {entry : CacheEntry Binary64}

theorem entry_made (h : Leaves m call (some (id, text)) entries) :
    entries id = some (.create text m.now m.service.lifetime) := by
  cases h with
  | made target _ _ hnone => exact if_pos rfl

/-- An entry stays, unless it has expired or its identifier is invalidated. -/
theorem lasts (h : Leaves m call made entries) (hcall : call ≠ .invalidate id)
    (hentry : m.entry id = some entry ∨ entry.isExpired m.now = true) :
    entries id = some entry ∨ entry.isExpired m.now = true := by
  refine hentry.elim (fun hentry => ?_) Or.inr
  cases h with
  | asBefore target => exact Or.inl hentry
  | dropped other =>
      have hne : id ≠ other := fun heq => hcall (by rw [heq])
      exact Or.inl ((if_neg hne).trans hentry)
  | made target other text hnone =>
      by_cases hexpired : entry.isExpired m.now = true
      · exact Or.inr hexpired
      · have hother : id ≠ other := by
          -- the source was asked, so nothing was in time
          rintro rfl
          rw [Moment.inTime, hentry, Option.bind_some, if_neg hexpired] at hnone
          cases hnone
        refine Or.inl ((if_neg hother).trans ?_)
        rw [hentry]
        simp [Option.filter, hexpired]

/-- An entry was there before, or is the answer that was made. -/
theorem stems (h : Leaves m call made entries) (hentry : entries id = some entry) :
    (m.entry id = some entry ∧ call ≠ .invalidate id) ∨
      ∃ text, made = some (id, text) ∧ entry = .create text m.now m.service.lifetime := by
  cases h with
  | asBefore target => exact Or.inl ⟨hentry, nofun⟩
  | dropped other =>
      by_cases hother : id = other
      · cases (if_pos hother).symm.trans hentry
      · refine Or.inl ⟨(if_neg hother).symm.trans hentry, fun heq => ?_⟩
        exact hother (ServiceCall.invalidate.inj heq).symm
  | made target other text hnone =>
      by_cases hother : id = other
      · subst hother
        exact Or.inr ⟨text, rfl, (Option.some.inj ((if_pos rfl).symm.trans hentry)).symm⟩
      · have hold := (if_neg hother).symm.trans hentry
        exact Or.inl ⟨(Option.filter_eq_some_iff.mp hold).1, nofun⟩

end ServiceCall.Leaves

variable {σ γ : Type} [QuestionRepository σ] [AnswerSource γ]
  {start m m' : Moment σ ClockedCache (WatchedSource γ)}
  {served : List (Moment σ ClockedCache (WatchedSource γ) × ServiceCall)}

/-- A call makes an answer only when there is none in time. -/
theorem ServiceCall.exists_leaves (call : ServiceCall) (m : Moment σ ClockedCache (WatchedSource γ)) :
    ∃ made, Leaves m call made (call.after m).entry ∧
      (∀ id text, ServiceCall.Makes id text (m, call) ↔ made = some (id, text)) ∧
      (call.after m).now = m.now ∧ (call.after m).service.lifetime = m.service.lifetime := by
  have hcourse := call.course m
  have hnone : ∀ {id text}, (∀ content answer, call.asks m ≠ [(content, .ok answer)]) →
      (ServiceCall.Makes id text (m, call) ↔ none = some (id, text)) := by
    intro id text hasks
    refine ⟨?_, nofun⟩
    rintro ⟨target, q, -, -, -, hmade⟩
    exact absurd hmade (hasks _ _)
  generalize hasks : call.asks m = asked at hcourse hnone
  generalize call.reply m = result at hcourse
  generalize call.after m = m' at hcourse ⊢
  cases hcourse with
  | unread hget => exact ⟨none, .asBefore _, fun _ _ => hnone nofun, rfl, rfl⟩
  | @reused target q questions j answer cache j' hget hkept =>
      obtain ⟨-, hentries, hnow⟩ := ClockedCache.of_outcome_get hkept
      refine ⟨none, ?_, fun _ _ => hnone nofun, hnow, rfl⟩
      rw [Moment.entry_eq_of_entries (m := m) hentries]
      exact .asBefore target
  | @failed target q questions j missing cache j₁ f source j₂ hget hkept hmade =>
      obtain ⟨-, hentries, hnow⟩ := ClockedCache.of_outcome_get hkept
      refine ⟨none, ?_, fun _ _ => hnone (by simp), hnow, rfl⟩
      rw [Moment.entry_eq_of_entries (m := m) hentries]
      exact .asBefore target
  | @made target q questions j missing cache₁ j₁ answer source j₂ written cache₂ j₃ hget hkept hmade hset =>
      obtain ⟨-, hentries, hnow⟩ := ClockedCache.of_outcome_get hkept
      obtain ⟨hnow', hentries'⟩ := ClockedCache.of_outcome_set hset
      refine ⟨some (q.id, answer), ?_, fun id text => ⟨?_, ?_⟩, hnow'.trans hnow, rfl⟩
      · have hnone : m.inTime q.id = none := m.inTime_of_get hkept
        convert ServiceCall.Leaves.made target q.id answer hnone using 1
        funext other
        show cache₂.cache.entries.get? (AnswerService.cacheKey other) = _
        simp only [hentries', hentries, hnow, AnswerService.cacheKey_inj]
        rfl
      · rintro ⟨target', q', htarget, hget', rfl, hmade'⟩
        obtain rfl := ServiceCall.answer.inj htarget
        obtain rfl : q = q' := Except.ok.inj ((congrArg Outcome.result hget).symm.trans hget')
        obtain ⟨-, hanswer⟩ := Prod.mk.inj (List.singleton_injective (hasks.symm.trans hmade'))
        rw [Except.ok.inj hanswer]
      · intro hmade
        obtain ⟨rfl, rfl⟩ := Prod.mk.inj (Option.some.inj hmade)
        exact ⟨target, q, rfl, congrArg Outcome.result hget, rfl, hasks⟩
  | @invalidated id result cache j hdelete =>
      obtain ⟨hnow, hentries⟩ := ClockedCache.of_outcome_delete hdelete
      refine ⟨none, ?_, fun _ _ => hnone nofun, hnow, rfl⟩
      convert ServiceCall.Leaves.dropped id using 1
      funext other
      show cache.cache.entries.get? (AnswerService.cacheKey other) = _
      simp only [hentries, AnswerService.cacheKey_inj]
      rfl

/-! ### Answers that stand -/

/-- Whether an answer was made for a question at a reading of the clock, and not invalidated since. -/
def CallRun.Stands (served : List (Moment σ ClockedCache (WatchedSource γ) × ServiceCall)) (id : QuestionId)
    (text : Text) (reading : Binary64) : Prop :=
  ∃ before p later, served = before ++ p :: later ∧ ServiceCall.Makes id text p ∧ p.1.now = reading ∧
    ∀ other ∈ later, other.2 ≠ .invalidate id

/-- Whether an answer that stands is in time. -/
def CallRun.Usable (served : List (Moment σ ClockedCache (WatchedSource γ) × ServiceCall))
    (m : Moment σ ClockedCache (WatchedSource γ)) (id : QuestionId) (text : Text) : Prop :=
  ∃ reading, Stands served id text reading ∧
    ∀ ttl, m.service.lifetime = some ttl → ¬Clock.after reading ttl ≤ m.now

variable {id : QuestionId} {text : Text} {reading now : Binary64}

theorem CallRun.stands_concat {p : Moment σ ClockedCache (WatchedSource γ) × ServiceCall} :
    Stands (served ++ [p]) id text reading ↔
      (ServiceCall.Makes id text p ∧ p.1.now = reading) ∨
        (Stands served id text reading ∧ p.2 ≠ .invalidate id) := by
  constructor
  · rintro ⟨before, p', later, hserved, hmakes, hreading, hlater⟩
    rcases List.eq_nil_or_concat later with rfl | ⟨later, last, rfl⟩
    · obtain ⟨-, rfl⟩ := List.append_singleton_inj.mp hserved
      exact Or.inl ⟨hmakes, hreading⟩
    · rw [List.concat_eq_append, ← List.cons_append, ← List.append_assoc] at hserved
      obtain ⟨rfl, rfl⟩ := List.append_singleton_inj.mp hserved
      refine Or.inr ⟨⟨before, p', later, rfl, hmakes, hreading, fun other hother => ?_⟩, ?_⟩
      · exact hlater other (by simp [hother])
      · exact hlater p (by simp)
  · rintro (⟨hmakes, hreading⟩ | ⟨⟨before, p', later, rfl, hmakes, hreading, hlater⟩, hp⟩)
    · exact ⟨served, p, [], rfl, hmakes, hreading, by simp⟩
    · refine ⟨before, p', later ++ [p], by simp, hmakes, hreading, fun other hother => ?_⟩
      rcases List.mem_append.mp hother with hother | hother
      · exact hlater other hother
      · rw [List.mem_singleton.mp hother]
        exact hp

theorem CacheEntry.isExpired_create {lifetime : Option Duration} :
    (CacheEntry.create text reading lifetime).isExpired now = true ↔
      ∃ ttl, lifetime = some ttl ∧ Clock.after reading ttl ≤ now := by
  cases lifetime with
  | none => simp [CacheEntry.create, CacheEntry.isExpired]
  | some ttl => simp [CacheEntry.create, CacheEntry.isExpired, Clock.after]

/-- The entries are the answers that stand, but for those that have expired. -/
structure CallRun.Remembers (served : List (Moment σ ClockedCache (WatchedSource γ) × ServiceCall))
    (m : Moment σ ClockedCache (WatchedSource γ)) : Prop where
  lasts : ∀ id text reading, Stands served id text reading →
    m.entry id = some (.create text reading m.service.lifetime) ∨
      (CacheEntry.create text reading m.service.lifetime).isExpired m.now = true
  stems : ∀ id entry, m.entry id = some entry →
    ∃ text reading, Stands served id text reading ∧ entry = .create text reading m.service.lifetime

namespace CallRun.Remembers

theorem usable_iff (h : Remembers served m) : Usable served m id text ↔ m.inTime id = some text := by
  constructor
  · rintro ⟨reading, hstands, htime⟩
    have hlive : ¬(CacheEntry.create text reading m.service.lifetime).isExpired m.now = true := by
      rintro hexpired
      obtain ⟨ttl, httl, hle⟩ := CacheEntry.isExpired_create.mp hexpired
      exact htime ttl httl hle
    rcases h.lasts _ _ _ hstands with hentry | hexpired
    · rw [Moment.inTime, hentry, Option.bind_some, if_neg hlive]
      rfl
    · exact absurd hexpired hlive
  · intro htime
    obtain ⟨entry, hentry, hlive⟩ := Option.bind_eq_some_iff.mp htime
    obtain ⟨text', reading, hstands, rfl⟩ := h.stems _ _ hentry
    split at hlive
    · cases hlive
    · rename_i hexpired
      obtain rfl : text' = text := Option.some.inj hlive
      refine ⟨reading, hstands, fun ttl httl hle => hexpired ?_⟩
      exact CacheEntry.isExpired_create.mpr ⟨ttl, httl, hle⟩

theorem after (h : Remembers served m) (call : ServiceCall) :
    Remembers (served ++ [(m, call)]) (call.after m) := by
  obtain ⟨made, hleaves, hmakes, hnow, hlifetime⟩ := ServiceCall.exists_leaves call m
  refine ⟨fun id text reading hstands => ?_, fun id entry hentry => ?_⟩
  · rw [hnow, hlifetime]
    rcases stands_concat.mp hstands with ⟨hnew, rfl⟩ | ⟨hold, hcall⟩
    · obtain rfl := (hmakes id text).mp hnew
      exact Or.inl hleaves.entry_made
    · exact hleaves.lasts hcall (h.lasts id text reading hold)
  · rw [hlifetime]
    rcases hleaves.stems hentry with ⟨hold, hcall⟩ | ⟨text, hmade, rfl⟩
    · obtain ⟨text, reading, hstands, rfl⟩ := h.stems id entry hold
      exact ⟨text, reading, stands_concat.mpr (Or.inr ⟨hstands, hcall⟩), rfl⟩
    · exact ⟨text, m.now, stands_concat.mpr (Or.inl ⟨(hmakes id text).mpr hmade, rfl⟩), rfl⟩

end CallRun.Remembers

theorem CallRun.remembers (hrun : CallRun WorkingCache.Later start served m)
    (hempty : ∀ id, start.entry id = none) : Remembers served m := by
  induction hrun with
  | start =>
      refine ⟨?_, fun id entry hentry => ?_⟩
      · rintro id text reading ⟨before, p, later, hserved, -⟩
        simp at hserved
      · rw [hempty] at hentry
        cases hentry
  | serve call _ ih => exact ih.after call
  | change questions _ ih => exact ⟨ih.lasts, ih.stems⟩
  | pass _ hlater ih =>
      obtain ⟨now, hle, rfl⟩ := hlater
      refine ⟨fun id text reading hstands => ?_, ih.stems⟩
      exact (ih.lasts id text reading hstands).imp_right (CacheEntry.isExpired_of_le hle)

/-! ### When the source is asked -/

/-- The answer to a stored question is the one in time, or the source is asked for it once. -/
theorem ServiceCall.reply_of_get {target : QuestionId} {q : Question}
    (hget : (outcome (QuestionRepository.get target) m.service.questions m.journal).result = .ok q) :
    (∃ text, m.inTime q.id = some text ∧ ServiceCall.asks (.answer target) m = [] ∧
        ServiceCall.reply (.answer target) m = .ok (.answer text)) ∨
      (m.inTime q.id = none ∧ ∃ result, ServiceCall.asks (.answer target) m = [(q.content, result)] ∧
        ServiceCall.reply (.answer target) m = result.map .answer ∧
        ∀ f, result = .error f → (ServiceCall.after (.answer target) m).service.cache.cache.entries =
          m.service.cache.cache.entries) := by
  have hcourse := ServiceCall.course (.answer target) m
  generalize ServiceCall.asks (.answer target) m = asked at hcourse ⊢
  generalize ServiceCall.reply (.answer target) m = result at hcourse ⊢
  generalize ServiceCall.after (.answer target) m = m' at hcourse ⊢
  have hfound : ∀ {q' questions j}, outcome (QuestionRepository.get target) m.service.questions m.journal =
      ⟨.ok q', questions, j⟩ → q' = q := by
    intro q' questions j hget'
    exact Except.ok.inj ((congrArg Outcome.result hget').symm.trans hget)
  cases hcourse with
  | unread hget' => cases (congrArg Outcome.result hget').symm.trans hget
  | reused hget' hkept =>
      obtain rfl := hfound hget'
      exact Or.inl ⟨_, m.inTime_of_get hkept, rfl, rfl⟩
  | failed hget' hkept hmade =>
      obtain rfl := hfound hget'
      obtain ⟨-, hentries, -⟩ := ClockedCache.of_outcome_get hkept
      exact Or.inr ⟨m.inTime_of_get hkept, _, rfl, rfl, fun _ _ => hentries⟩
  | made hget' hkept hmade hset =>
      obtain rfl := hfound hget'
      exact Or.inr ⟨m.inTime_of_get hkept, _, rfl, rfl, nofun⟩

/-- A question that cannot be read has no answer, and nothing else is done. -/
theorem ServiceCall.reply_of_get_error {target : QuestionId} {f : Failure}
    (hget : (outcome (QuestionRepository.get target) m.service.questions m.journal).result = .error f) :
    ServiceCall.reply (.answer target) m = .error f ∧ ServiceCall.asks (.answer target) m = [] ∧
      (ServiceCall.after (.answer target) m).service.cache = m.service.cache := by
  have hcourse := ServiceCall.course (.answer target) m
  generalize ServiceCall.asks (.answer target) m = asked at hcourse ⊢
  generalize ServiceCall.reply (.answer target) m = result at hcourse ⊢
  generalize ServiceCall.after (.answer target) m = m' at hcourse ⊢
  cases hcourse with
  | unread hget' =>
      obtain rfl := Except.error.inj ((congrArg Outcome.result hget').symm.trans hget)
      exact ⟨rfl, rfl, rfl⟩
  | reused hget' | failed hget' | made hget' => cases (congrArg Outcome.result hget').symm.trans hget

/-- In a run that starts without kept answers, the source is asked for the answer to a stored question
exactly when no answer that was made for it, and not invalidated since, is in time. It is asked once, and
what it gives is the answer; if it fails, the entries stay as they are. When it is not asked, the answer is
the one that is in time. For a question that is not stored it is not asked, whatever is kept. -/
theorem CallRun.asks_answer_iff [FindingRepository σ] (hrun : CallRun WorkingCache.Later start served m)
    (hempty : ∀ id, start.entry id = none) (hsound : KeyedRepository.Sound m.service.questions)
    {target : QuestionId} (hname : KeyedRepository.named σ target = some id) :
    (∀ q, m.stored id = some q →
      (ServiceCall.asks (.answer target) m ≠ [] ↔ ¬∃ text, Usable served m id text) ∧
      (∀ text, Usable served m id text → ServiceCall.reply (.answer target) m = .ok (.answer text)) ∧
      (ServiceCall.asks (.answer target) m ≠ [] →
        ∃ result, ServiceCall.asks (.answer target) m = [(q.content, result)] ∧
          ServiceCall.reply (.answer target) m = result.map .answer ∧
          ∀ f, result = .error f → (ServiceCall.after (.answer target) m).service.cache.cache.entries =
            m.service.cache.cache.entries)) ∧
    (m.stored id = none → ServiceCall.reply (.answer target) m = .error (.noQuestion target) ∧
      ServiceCall.asks (.answer target) m = [] ∧
      (ServiceCall.after (.answer target) m).service.cache = m.service.cache) := by
  have husable : ∀ text, Usable served m id text ↔ m.inTime id = some text :=
    fun text => (hrun.remembers hempty).usable_iff
  refine ⟨fun q hq => ?_, fun hmissing => ?_⟩
  · obtain ⟨questions, hget, -⟩ := KeyedRepository.exists_outcome_get hsound hname hq m.journal
    obtain rfl : q.id = id := KeyedRepository.id_of_stored hsound hq
    simp only [husable]
    rcases ServiceCall.reply_of_get (congrArg Outcome.result hget) with
      ⟨text, htime, hasks, hreply⟩ | ⟨hnone, result, hasks, hreply, hentries⟩
    · refine ⟨by simp [hasks, htime], fun text' htime' => ?_, fun hne => absurd hasks hne⟩
      rw [hreply, Option.some.inj (htime.symm.trans htime')]
    · refine ⟨by simp [hasks, hnone], fun text htime => ?_, fun _ => ⟨result, hasks, hreply, hentries⟩⟩
      rw [hnone] at htime
      cases htime
  · have hget := FindingRepository.result_get_of_missing hsound hname hmissing m.journal
    exact ServiceCall.reply_of_get_error hget

section Example

def eighth (content : Text) : Question :=
  { id := ⟨"8", by decide⟩, title := .text "Title", content := .text content, tags := none }

/-- A service over question 8, at the reading 0, that uses answers again for an hour. -/
def unasked : Moment QuestionStore ClockedCache (WatchedSource EchoSource) :=
  ⟨{ questions := .ofList [eighth "first"], cache := { now := .zero false }, source := { source := {} } },
    .verbose⟩

/-- The service when it was asked for the answer, the question was replaced and some seconds passed. -/
def askedBefore (seconds : Int) : Moment QuestionStore ClockedCache (WatchedSource EchoSource) :=
  let asked := ServiceCall.after (.answer (eighth "first").id) unasked
  let questions := QuestionStore.ofList [eighth "second"]
  let changed := { asked with service := { asked.service with questions } }
  changed.withCache { changed.service.cache with now := .ofInt seconds }

/-- The answer to the first content is used again until an hour has passed, and not any more then. -/
theorem asks_answer_askedBefore :
    ServiceCall.reply (.answer (eighth "first").id) (askedBefore 3599) = .ok (.answer "Answer to first") ∧
    ServiceCall.asks (.answer (eighth "first").id) (askedBefore 3600) ≠ [] := by
  have hrun : ∀ seconds, Binary64.zero false ≤ .ofInt seconds →
      CallRun WorkingCache.Later unasked [(unasked, .answer (eighth "first").id)] (askedBefore seconds) :=
    fun seconds hle => .pass (.change _ (.serve _ .start)) ⟨_, hle, rfl⟩
  have hempty : ∀ id, unasked.entry id = none := fun _ => rfl
  have hsound : ∀ seconds, KeyedRepository.Sound (askedBefore seconds).service.questions :=
    fun _ => QuestionStore.sound_ofList _
  have hname : KeyedRepository.named QuestionStore (eighth "first").id = some (eighth "first").id := rfl
  obtain ⟨hsoon, -⟩ := (hrun 3599 (by decide +kernel)).asks_answer_iff hempty (hsound _) hname
  obtain ⟨hlater, -⟩ := (hrun 3600 (by decide +kernel)).asks_answer_iff hempty (hsound _) hname
  obtain ⟨-, hreply, -⟩ := hsoon (eighth "second") rfl
  obtain ⟨hasks, -⟩ := hlater (eighth "second") rfl
  refine ⟨hreply _ ⟨.zero false, ⟨[], _, [], rfl, ⟨_, eighth "first", rfl, rfl, rfl, rfl⟩, rfl, by simp⟩, ?_⟩,
    hasks.mpr ?_⟩
  · rintro ttl ⟨⟩
    decide +kernel
  · rintro ⟨text, reading, ⟨before, p, later, hserved, -, rfl, -⟩, htime⟩
    have hp : p ∈ [(unasked, ServiceCall.answer (eighth "first").id)] := by simp [hserved]
    rw [List.mem_singleton.mp hp] at htime
    exact htime .hour rfl (by decide +kernel)

end Example

end QuestionBoard
