import Mathlib.Logic.Basic
import QuestionBoard.Answer.Scripted
import QuestionBoard.Board.Lifecycle
import QuestionBoard.Cache.Scripted
import QuestionBoard.Database.Local
import QuestionBoard.Proofs.Log.Handlers
import QuestionBoard.Proofs.Settings.Validity

/-!
Starting a board that keeps its questions and its answers in its own process. Nothing but its log file and
the time for which answers are kept can stop the start: the settings bound that time only from below, and a
duration has a greatest number of seconds.
-/

namespace QuestionBoard

namespace Duration

/-- The greatest number of whole seconds that a duration has. -/
def maxSeconds : Int := 86399999999999

/-- A number of seconds is a duration if it is within both bounds. -/
theorem ofSeconds?_eq_ok_iff {seconds : Int} {d : Duration} :
    ofSeconds? seconds = .ok d ↔
      (-maxDays * 86400 ≤ seconds ∧ seconds ≤ maxSeconds) ∧ d = ⟨seconds * 1000000⟩ := by
  have hdays : Int.fdiv seconds 86400 = seconds / 86400 := Int.fdiv_eq_ediv_of_nonneg seconds (by decide)
  have hbounds : (-maxDays ≤ Int.fdiv seconds 86400 ∧ Int.fdiv seconds 86400 ≤ maxDays) ↔
      (-maxDays * 86400 ≤ seconds ∧ seconds ≤ maxSeconds) := by
    rw [hdays]
    simp only [maxDays, maxSeconds]
    omega
  unfold ofSeconds?
  by_cases hword : Int.fdiv seconds 86400 < -maxWordDays - 1 ∨ maxWordDays < Int.fdiv seconds 86400
  · rw [if_pos hword, ← hbounds]
    simp only [maxWordDays] at hword
    refine iff_of_false nofun ?_
    simp only [maxDays]
    omega
  · rw [if_neg hword, ← hbounds]
    by_cases hdays : Int.fdiv seconds 86400 < -maxDays ∨ maxDays < Int.fdiv seconds 86400
    · rw [if_pos hdays]
      exact iff_of_false nofun (by omega)
    · rw [if_neg hdays]
      exact ⟨fun h => ⟨by omega, (Except.ok.inj h).symm⟩, fun h => congrArg Except.ok h.2.symm⟩

end Duration

namespace LogSettings

variable {φ : Type} [FileSystem φ]

/-- Settings ask for a layout that there is. -/
theorem exists_layoutOf_options (s : LogSettings) : ∃ layout, Log.Logger.layoutOf s.options = .ok layout := by
  have hfield : Log.TextLayout.hasField Log.TextLayout.standard.template = true := by decide +kernel
  have hne : (Log.TextLayout.standard.template == "") = false := by decide
  show ∃ layout, (if s.useJson then .ok Log.Layout.json else Except.map _ (Log.TextLayout.ofTemplate
    Log.TextLayout.standard.template _)) = Except.ok layout
  split
  · exact ⟨_, rfl⟩
  · simp only [Log.TextLayout.ofTemplate, hne, Bool.false_eq_true, if_false, hfield, if_true]
    exact ⟨_, rfl⟩

/-- Whether the log file that settings ask for, if any, can be opened or is only warned of. -/
def Opens (s : LogSettings) (files : φ) : Prop :=
  ∀ path f, s.options.path? = some path → (Log.Logger.opening path files).1 = .error f →
    Log.Logger.isTolerated f = true

/-- The log file alone can stop the logger from being configured. -/
theorem result_apply_eq_ok_iff (s : LogSettings) (l : Log.Logger φ) (j : Journal) :
    (s.apply.outcome l j).result = .ok () ↔ s.Opens l.files := by
  have hcall := Log.Logger.configures s.options l { j with threshold := s.level.severity }
  show ((Log.Logger.configure s.options).outcome l _).result = .ok () ↔ _
  rw [← not_not (a := _ = Except.ok ()), ← ne_eq, ← hcall.stumbles_iff rfl]
  obtain ⟨layout, hlayout⟩ := s.exists_layoutOf_options
  refine ⟨fun hstands path f hpath hopening => ?_, fun hopens hstumbles => ?_⟩
  · cases htolerated : Log.Logger.isTolerated f with
    | true => rfl
    | false => exact absurd ⟨⟨_, rfl⟩, Or.inr ⟨path, f, hpath, hopening, htolerated⟩⟩ hstands
  · obtain ⟨-, ⟨f, hrefused⟩ | ⟨path, f, hpath, hopening, htolerated⟩⟩ := hstumbles
    · cases hlayout.symm.trans hrefused
    · cases (hopens path f hpath hopening).symm.trans htolerated

end LogSettings

namespace Board

variable {δ φ ρ ψ : Type} [DatabaseHost δ] [FileSystem φ] [CacheNetwork ρ] [AnswerServer ψ]

/-- What the time for which answers are kept is as a duration, if it is not too long for one. -/
theorem lifetime_eq_ok_iff {s : Settings} (h : s.Valid) {kept : Option Duration} :
    lifetime s = .ok kept ↔ (∀ seconds, s.answer.cacheSeconds = some seconds → seconds ≤ Duration.maxSeconds) ∧
      kept = s.answer.cacheSeconds.map fun seconds => ⟨seconds * 1000000⟩ := by
  unfold lifetime
  cases hseconds : s.answer.cacheSeconds with
  | none => exact ⟨fun h => ⟨nofun, (Except.ok.inj h).symm⟩, fun h => congrArg Except.ok h.2.symm⟩
  | some seconds =>
      have hpositive := h.answer.cacheSeconds seconds hseconds
      have hfirst : -Duration.maxDays * 86400 ≤ seconds := by
        simp only [Duration.maxDays]
        omega
      show (Duration.ofSeconds? seconds).map some = .ok kept ↔ _
      cases hduration : Duration.ofSeconds? seconds with
      | ok d =>
          obtain ⟨⟨-, hle⟩, rfl⟩ := Duration.ofSeconds?_eq_ok_iff.mp hduration
          refine ⟨fun h => ⟨fun other hother => ?_, (Except.ok.inj h).symm⟩, fun h => congrArg Except.ok h.2.symm⟩
          rw [← Option.some.inj hother]
          exact hle
      | error f =>
          refine iff_of_false nofun fun hkept => ?_
          cases hduration.symm.trans (Duration.ofSeconds?_eq_ok_iff.mpr ⟨⟨hfirst, hkept.1 seconds rfl⟩, rfl⟩)

omit [DatabaseHost δ] [FileSystem φ] in
/-- A failure that closes what was made stays a failure. -/
theorem exists_result_closed {α κ γ : Type} [Cache κ] [AnswerSource γ] (s : Settings) (cache : Option κ)
    (source : Option γ) (f : Failure) (b : Surroundings δ φ) (j : Journal) :
    ∃ f', ((orClose s cache source (.error f : Except Failure α)).outcome b j).result = .error f' := by
  simp only [orClose, Action.outcome_bind]
  generalize (closeParts s cache source).outcome b j = closed
  obtain ⟨f' | _, _, _⟩ := closed
  · exact ⟨f', rfl⟩
  · exact ⟨f, rfl⟩

/-- A start whose logger is configured, of settings that keep all in the board's own process, comes to a
service if the time for which answers are kept is a duration. -/
theorem result_start {s : Settings} (hdb : s.db = .inMemory) (hcache : s.cache = .inProcess)
    (now : Binary64) (network : HttpNetwork ψ) (b : Surroundings δ φ) (j : Journal)
    (service : AnswerService QuestionBackend (CacheBackend ρ) (AnswerClient ψ)) :
    ((start (partsOfSettings now network) s).outcome b j).result = .ok service ↔
      (s.log.apply.outcome b.log j).result = .ok () ∧ ∃ kept, lifetime s = .ok kept ∧
        service = { questions := .memory .empty, cache := .inProcess { now },
                    source := makeClient network s, lifetime := kept } := by
  have hstore : ∀ (b : Surroundings δ φ) j, (makeStore s).outcome b j =
      ⟨.ok (.memory .empty), b, j.write ⟨.info, lifecycleLogger, "Using in-memory question repository"⟩⟩ := by
    intro b j
    rw [makeStore, hdb]
    rfl
  have hmade : ∀ (b : Surroundings δ φ) j, (CacheBackend.create s.cache now : Action _ (CacheBackend ρ)).outcome b j =
      ⟨.ok (.inProcess { now }), b, j.write ⟨.info, CacheBackend.logger, "Using in-process cache"⟩⟩ := by
    intro b j
    rw [hcache]
    rfl
  unfold start partsOfSettings
  simp only [Action.outcome_bind, Surroundings.onLog, Action.outcome_onPart]
  generalize s.log.apply.outcome b.log j = logged
  obtain ⟨_ | _, log, j⟩ := logged
  · simp
  · simp only [Action.andThen_ok, Action.outcome_bind, hstore, Action.outcome_attempt, hmade, true_and, orClose]
    cases hlifetime : lifetime s with
    | ok kept =>
        show Except.ok _ = Except.ok service ↔ _
        refine ⟨fun h => ⟨kept, rfl, (Except.ok.inj h).symm⟩, ?_⟩
        rintro ⟨kept', hkept, rfl⟩
        rw [Except.ok.inj hkept]
        rfl
    | error f =>
        refine iff_of_false (fun h => ?_) nofun
        obtain ⟨f', hfails⟩ := exists_result_closed (α := Option Duration) s
          (some (CacheBackend.inProcess { now } : CacheBackend ρ)) (some (makeClient network s)) f
          { databases := b.databases, log } _
        cases (Action.result_bind_of_error _ _ hfails).symm.trans h

/-- Whether a start comes to a service that keeps answers for exactly as many seconds as settings say, and
for ever if they say none. -/
def StartsExactly (now : Binary64) (network : HttpNetwork ψ) (s : Settings) (b : Surroundings δ φ)
    (j : Journal) : Prop :=
  ∃ service : AnswerService QuestionBackend (CacheBackend ρ) (AnswerClient ψ),
    ((start (partsOfSettings now network) s).outcome b j).result = .ok service ∧
      service.lifetime = s.answer.cacheSeconds.map fun seconds => ⟨seconds * 1000000⟩

/-- Settings that were read and that keep all in the board's own process are started with, exactly, if and
only if the time for which answers are kept is not too long and the log file does not stop the start; a
service that a start comes to keeps answers for exactly that time. -/
theorem startsExactly_iff {data : Json} {s : Settings} (hread : Settings.ofData data = .valid s)
    (hdb : s.db = .inMemory) (hcache : s.cache = .inProcess) (now : Binary64) (network : HttpNetwork ψ)
    (b : Surroundings δ φ) (j : Journal) :
    (StartsExactly (ρ := ρ) now network s b j ↔
      (∀ seconds, s.answer.cacheSeconds = some seconds → seconds ≤ Duration.maxSeconds) ∧
        s.log.Opens b.log.files) ∧
      ∀ service : AnswerService QuestionBackend (CacheBackend ρ) (AnswerClient ψ),
        ((start (partsOfSettings now network) s).outcome b j).result = .ok service →
          service.lifetime = s.answer.cacheSeconds.map fun seconds => ⟨seconds * 1000000⟩ := by
  have hvalid := Settings.valid_of_ofData hread
  have hexact : ∀ service : AnswerService QuestionBackend (CacheBackend ρ) (AnswerClient ψ),
      ((start (partsOfSettings now network) s).outcome b j).result = .ok service →
        service.lifetime = s.answer.cacheSeconds.map fun seconds => ⟨seconds * 1000000⟩ := by
    intro service hservice
    obtain ⟨-, kept, hkept, rfl⟩ := (result_start hdb hcache now network b j service).mp hservice
    exact ((lifetime_eq_ok_iff hvalid).mp hkept).2
  refine ⟨⟨?_, ?_⟩, hexact⟩
  · rintro ⟨service, hservice, -⟩
    obtain ⟨hlog, kept, hkept, -⟩ := (result_start hdb hcache now network b j service).mp hservice
    exact ⟨((lifetime_eq_ok_iff hvalid).mp hkept).1, (s.log.result_apply_eq_ok_iff b.log j).mp hlog⟩
  · rintro ⟨hseconds, hopens⟩
    have hkept := (lifetime_eq_ok_iff hvalid).mpr ⟨hseconds, rfl⟩
    have hlog := (s.log.result_apply_eq_ok_iff b.log j).mpr hopens
    have hservice := (result_start (ρ := ρ) hdb hcache now network b j _).mpr ⟨hlog, _, hkept, rfl⟩
    exact ⟨_, hservice, rfl⟩

/-- Settings that say only for how many seconds answers are kept. -/
def keeping (seconds : Int) : Settings := { answer := { cacheSeconds := some seconds } }

def keepingData (seconds : Int) : Json :=
  .object [("answer", .object [("cache_ttl_seconds", .int seconds)])]

theorem ofData_keepingData (seconds : Int) (h : 1 ≤ seconds) :
    Settings.ofData (keepingData seconds) = .valid (keeping seconds) := by
  have hseconds : Field.optional (Field.intFrom 1) (.int seconds) = .valid (some seconds) :=
    Checked.map_eq_valid_iff.mpr ⟨seconds, Field.intFrom_eq_valid_iff.mpr ⟨rfl, h⟩, rfl⟩
  have hanswer : AnswerSettings.ofData (.object [("cache_ttl_seconds", .int seconds)]) =
      .valid { cacheSeconds := some seconds } := by
    show AnswerSettings.mk <$> _ <*> _ <*> Field.ofKey "cache_ttl_seconds" _ _ _ = _
    rw [Field.ofKey_of_get? "cache_ttl_seconds" rfl hseconds]
    rfl
  show Settings.mk <$> _ <*> _ <*> _ <*> _ <*> _ <*> Field.ofKey "answer" _ _ _ = _
  rw [Field.ofKey_of_get? "answer" rfl hanswer]
  rfl

/-- Surroundings in which there is nothing yet. -/
def bare : Surroundings LocalDatabases FileTree := ⟨{ host := {} }, { name := "qna", files := {} }⟩

def peers : HttpNetwork ScriptedPeer := { server := { reply := .error (ScriptedPeer.noHost "") } }

/-- The longest time of all is a duration. -/
theorem startsExactly_longest : Settings.ofData (keepingData 86399999999999) = .valid (keeping 86399999999999) ∧
    (keeping 86399999999999).db = .inMemory ∧ (keeping 86399999999999).cache = .inProcess ∧
      StartsExactly (ρ := ScriptedServer) (.zero false) peers (keeping 86399999999999) bare .verbose := by
  have hread := ofData_keepingData 86399999999999 (by decide)
  refine ⟨hread, rfl, rfl, (startsExactly_iff hread rfl rfl (.zero false) peers bare .verbose).1.mpr ⟨?_, ?_⟩⟩
  · intro seconds hseconds
    rw [← Option.some.inj hseconds]
    exact Int.le_refl _
  · intro path f hpath
    cases hpath

/-- One second more is read, and the start fails. -/
theorem not_startsExactly_overlong :
    Settings.ofData (keepingData 86400000000000) = .valid (keeping 86400000000000) ∧
      ¬StartsExactly (ρ := ScriptedServer) (.zero false) peers (keeping 86400000000000) bare .verbose := by
  have hread := ofData_keepingData 86400000000000 (by decide)
  refine ⟨hread, ?_⟩
  rintro ⟨service, hservice, -⟩
  obtain ⟨-, kept, hkept, -⟩ := (result_start rfl rfl (.zero false) peers bare .verbose service).mp hservice
  have hle := ((lifetime_eq_ok_iff (Settings.valid_of_ofData hread)).mp hkept).1 86400000000000 rfl
  exact absurd hle (by decide)

end Board

end QuestionBoard
