import Mathlib.Data.List.Induction
import Mathlib.Data.List.Nodup
import QuestionBoard.Database.Local
import QuestionBoard.Database.Slot
import QuestionBoard.Proofs.Action

/-!
What becomes of the engines of a slot after any starts and closes, whatever the host of the databases does.
A start right after one that succeeded either puts its engine in the place of one that nothing disposes of
any more, or fails before it has an engine and disposes of the one in use. Nothing else goes amiss: as long
as no start directly follows one that succeeded, all engines but the one in use are disposed of.
-/

namespace QuestionBoard

open QuestionBoard.Action

inductive SlotCall
  | start (settings : PostgresSettings)
  | close

namespace EngineSlot

variable {δ : Type}

/-- The slot without the engine in use, which is disposed of. -/
def emptied (s : EngineSlot δ) : EngineSlot δ :=
  match s.current with
  | some engine => { s with current := none, disposed := s.disposed ++ [engine.number] }
  | none => s

theorem outcome_dispose (s : EngineSlot δ) (j : Journal) : dispose.outcome s j = ⟨.ok (), s.emptied, j⟩ := rfl

/-- The slot on a changed host with a new engine in use. -/
def renewed (host : δ) (engine : Engine) (s : EngineSlot δ) : EngineSlot δ :=
  { s with host, current := some engine, created := s.created + 1 }

theorem emptied_current (s : EngineSlot δ) : s.emptied.current = none := by
  rw [emptied]
  split
  · rfl
  · assumption

variable [DatabaseHost δ]

/-! ### Calls -/

def engineOf (m : EngineSlot δ × Journal) : Except Failure Engine := (engine.outcome m.1 m.2).result

/-- The slot and the journal after a call, whether it fails or not. -/
def afterCall (m : EngineSlot δ × Journal) : SlotCall → EngineSlot δ × Journal
  | .start settings => (((start settings).outcome m.1 m.2).state, ((start settings).outcome m.1 m.2).journal)
  | .close => ((close.outcome m.1 m.2).state, (close.outcome m.1 m.2).journal)

def given? (m : EngineSlot δ × Journal) : SlotCall → Option Engine
  | .start settings => ((start settings).outcome m.1 m.2).result.toOption
  | .close => none

/-- How opening an engine ends: before there is a new engine, with one that cannot be connected from, or
with one in use. -/
inductive Opening (s : EngineSlot δ) : Except Failure Engine → EngineSlot δ → Prop
  | unmade {f : Failure} {host : δ} : Opening s (.error f) { s with host }
  | unconnected {f : Failure} {engine : Engine} {host : δ} (hnumber : engine.number = s.created) :
      Opening s (.error f) (s.renewed host engine)
  | opened {engine : Engine} {host : δ} (hnumber : engine.number = s.created) :
      Opening s (.ok engine) (s.renewed host engine)

omit [DatabaseHost δ] in
/-- Of the host it is only told what comes of it. -/
theorem Opening.of_host {s s' : EngineSlot δ} {result : Except Failure Engine} {host : δ}
    (h : Opening { s with host } result s') : Opening s result s' := by
  cases h with
  | unmade => exact .unmade
  | unconnected hnumber => exact .unconnected hnumber
  | opened hnumber => exact .opened hnumber

variable (s : EngineSlot δ) (j : Journal)

omit [DatabaseHost δ] in
/-- A step on the host leaves the rest of the slot as it was. -/
theorem exists_outcome_onHost {α : Type} (a : Action δ α) : ∃ result host j',
    (onHost a).outcome s j = ⟨result, { s with host }, j'⟩ := ⟨_, _, _, rfl⟩

theorem exists_outcome_connect (engine : Engine) : ∃ result host j',
    (connect engine).outcome s j = ⟨result, { s with host }, j'⟩ := exists_outcome_onHost s j _

omit [DatabaseHost δ] in
/-- An engine that is created has the number that it is created under. -/
theorem outcome_create (settings : PostgresSettings) (number : Nat) :
    (∃ f j', (Engine.create settings number : Action (EngineSlot δ) Engine).outcome s j =
      ⟨.error f, s, j'⟩) ∨
    ∃ engine j', (Engine.create settings number : Action (EngineSlot δ) Engine).outcome s j =
      ⟨.ok engine, s, j'⟩ ∧ engine.number = number := by
  rw [Engine.create, outcome_bind, outcome_log, andThen_ok, outcome_bind, outcome_ofExcept]
  cases Engine.address (DatabaseUrl.withDriver settings.url) with
  | error f => exact Or.inl ⟨f, _, rfl⟩
  | ok url => exact Or.inr ⟨_, _, rfl, rfl⟩

/-- What is left of opening an engine once the schema is migrated. -/
def renew (settings : PostgresSettings) : Action (EngineSlot δ) Engine := do
  let engine ← Engine.create settings (← get).created
  modify fun s => { s with current := some engine, created := s.created + 1 }
  let _ ← connect engine
  return engine

theorem exists_opening_renew (settings : PostgresSettings) : ∃ result s' j', Opening s result s' ∧
    (renew settings).outcome s j = ⟨result, s', j'⟩ := by
  rw [renew, outcome_bind, outcome_get, andThen_ok, outcome_bind]
  rcases outcome_create s j settings s.created with ⟨f, j', hcreate⟩ | ⟨engine, j', hcreate, hnumber⟩
  · rw [hcreate, andThen_error]
    exact ⟨_, s, _, .unmade, rfl⟩
  · rw [hcreate, andThen_ok, outcome_bind, outcome_modify, andThen_ok, outcome_bind]
    obtain ⟨result, host, j'', hconnect⟩ := exists_outcome_connect
      ({ s with current := some engine, created := s.created + 1 } : EngineSlot δ) j' engine
    rw [hconnect]
    cases result with
    | error f => exact ⟨_, _, _, .unconnected hnumber, rfl⟩
    | ok => exact ⟨_, _, _, .opened hnumber, rfl⟩

theorem exists_opening (settings : PostgresSettings) : ∃ result s' j', Opening s result s' ∧
    (openEngine settings).outcome s j = ⟨result, s', j'⟩ := by
  have hopen : openEngine settings = if settings.runMigrations then (do
        onHost ((Migration.upgrade "head").run settings.url)
        renew settings : Action (EngineSlot δ) Engine)
      else renew settings := rfl
  rw [hopen]
  split
  · obtain ⟨result, host, j', hmigrate⟩ :=
      exists_outcome_onHost s j ((Migration.upgrade "head").run settings.url : Action δ Unit)
    rw [outcome_bind, hmigrate]
    cases result with
    | error f => exact ⟨_, _, _, .unmade, rfl⟩
    | ok =>
        obtain ⟨result, s', j'', hopening, hrenew⟩ := exists_opening_renew { s with host } j' settings
        exact ⟨result, s', j'', hopening.of_host, hrenew⟩
  · exact exists_opening_renew s j settings

/-- What a call does to the engines, with the engine that it gives. -/
inductive Steps (s : EngineSlot δ) : SlotCall → Option Engine → EngineSlot δ → Prop
  | opens {settings : PostgresSettings} {engine : Engine} {host : δ} (hnumber : engine.number = s.created) :
      Steps s (.start settings) (some engine) (s.renewed host engine)
  | withdraws {settings : PostgresSettings} {host : δ} :
      Steps s (.start settings) none (emptied { s with host })
  | drops {settings : PostgresSettings} {engine : Engine} {host : δ} (hnumber : engine.number = s.created) :
      Steps s (.start settings) none (s.renewed host engine).emptied
  | closes : Steps s .close none s.emptied

/-- A start ends as opening an engine does, and leaves no engine in use if that fails. -/
theorem exists_outcome_start (settings : PostgresSettings) : ∃ result s' j', Opening s result s' ∧
    (start settings).outcome s j = ⟨result, match result with
      | .ok _ => s'
      | .error _ => s'.emptied, j'⟩ := by
  obtain ⟨result, s', j', hopening, hopen⟩ := exists_opening s j settings
  rw [start, outcome_bind, outcome_attempt, hopen, andThen_ok]
  cases result with
  | ok engine => exact ⟨_, _, _, hopening, rfl⟩
  | error f => exact ⟨_, _, _, hopening, rfl⟩

omit [DatabaseHost δ] in
theorem exists_outcome_close : ∃ j', close.outcome s j = ⟨.ok (), s.emptied, j'⟩ := by
  rw [close, outcome_bind, outcome_get, andThen_ok]
  by_cases hcurrent : s.current.isSome = true
  · rw [if_pos hcurrent, outcome_bind, outcome_dispose, andThen_ok, outcome_log]
    exact ⟨_, rfl⟩
  · have hnone : s.current = none := by simpa using hcurrent
    have hsame : s.emptied = s := by rw [emptied, hnone]
    rw [if_neg hcurrent, outcome_pure, hsame]
    exact ⟨_, rfl⟩

theorem steps_afterCall (m : EngineSlot δ × Journal) (call : SlotCall) :
    Steps m.1 call (given? m call) (afterCall m call).1 := by
  obtain ⟨s, j⟩ := m
  cases call with
  | start settings =>
      obtain ⟨result, s', j', hopening, hstart⟩ := exists_outcome_start s j settings
      rw [given?, afterCall, hstart]
      cases hopening with
      | unmade => exact .withdraws
      | unconnected hnumber => exact .drops hnumber
      | opened hnumber => exact .opens hnumber
  | close =>
      obtain ⟨j', hclose⟩ := exists_outcome_close s j
      rw [given?, afterCall, hclose]
      exact .closes

/-! ### Books -/

/-- The slot and the journal after calls that are made one after another, starting without an engine. -/
def afterCalls (host : δ) (j : Journal) (calls : List SlotCall) : EngineSlot δ × Journal :=
  calls.foldl afterCall ({ host }, j)

theorem steps_afterCalls (host : δ) (j : Journal) (calls : List SlotCall) (call : SlotCall) :
    Steps (afterCalls host j calls).1 call (given? (afterCalls host j calls) call)
      (afterCalls host j (calls ++ [call])).1 := by
  rw [afterCalls, afterCalls, List.foldl_concat]
  exact steps_afterCall _ call

omit [DatabaseHost δ] in
theorem engineOf_eq_ok_iff {m : EngineSlot δ × Journal} {engine : Engine} :
    engineOf m = .ok engine ↔ m.1.current = some engine := by
  rw [engineOf, EngineSlot.engine, outcome_bind, outcome_get, andThen_ok]
  cases m.1.current with
  | none => exact ⟨nofun, nofun⟩
  | some engine' => exact ⟨fun h => congrArg some (Except.ok.inj h), fun h => congrArg _ (Option.some.inj h)⟩

section Books

omit [DatabaseHost δ]

variable {s s' : EngineSlot δ} {call : SlotCall} {given : Option Engine}

/-- The engine in use after a call is the one that the call gives. -/
theorem Steps.current_eq (h : Steps s call given s') : s'.current = given := by
  cases h with
  | opens | drops => rfl
  | withdraws | closes => exact emptied_current _

/-- Engines are disposed of once, and not while they are in use. -/
structure Numbered (s : EngineSlot δ) : Prop where
  nodup : s.disposed.Nodup
  below : ∀ number ∈ s.disposed, number < s.created
  current : ∀ engine, s.current = some engine → engine.number < s.created ∧ engine.number ∉ s.disposed

theorem Numbered.onHost (h : Numbered s) (host : δ) : Numbered { s with host } :=
  ⟨h.nodup, h.below, h.current⟩

/-- A new engine has a number that no other has. -/
theorem Numbered.renewed (h : Numbered s) {engine : Engine} (hnumber : engine.number = s.created) (host : δ) :
    Numbered (s.renewed host engine) := by
  refine ⟨h.nodup, fun number hmem => Nat.lt_succ_of_lt (h.below number hmem), fun engine' hcurrent => ?_⟩
  obtain rfl := Option.some.inj hcurrent
  rw [hnumber]
  exact ⟨Nat.lt_succ_self _, fun hmem => absurd (h.below _ hmem) (Nat.lt_irrefl _)⟩

theorem Numbered.emptied (h : Numbered s) : Numbered s.emptied := by
  rw [EngineSlot.emptied]
  split
  · next engine hcurrent =>
      obtain ⟨hbelow, hnotin⟩ := h.current engine hcurrent
      refine ⟨?_, ?_, fun _ => nofun⟩
      · rw [List.nodup_append]
        refine ⟨h.nodup, List.nodup_singleton _, fun number hmem last hlast heq => ?_⟩
        rw [List.mem_singleton.mp hlast] at heq
        exact hnotin (heq ▸ hmem)
      · intro number hmem
        rcases List.mem_append.mp hmem with hold | hlast
        · exact h.below number hold
        · rw [List.mem_singleton.mp hlast]
          exact hbelow
  · exact h

theorem Numbered.step (h : Numbered s) (hstep : Steps s call given s') : Numbered s' := by
  cases hstep with
  | opens hnumber => exact h.renewed hnumber _
  | withdraws => exact (h.onHost _).emptied
  | drops hnumber => exact (h.renewed hnumber _).emptied
  | closes => exact h.emptied

/-- Whether every engine that was created is in use or disposed of. -/
def Accounted (s : EngineSlot δ) : Prop :=
  ∀ number < s.created, (∃ engine, s.current = some engine ∧ engine.number = number) ∨ number ∈ s.disposed

theorem Accounted.emptied (h : Accounted s) : Accounted s.emptied := by
  rw [EngineSlot.emptied]
  split
  · next engine hcurrent =>
      intro number hlt
      rcases h number hlt with ⟨engine', hcurrent', rfl⟩ | hmem
      · obtain rfl := Option.some.inj (hcurrent.symm.trans hcurrent')
        exact Or.inr (List.mem_append_right _ (List.mem_singleton_self _))
      · exact Or.inr (List.mem_append_left _ hmem)
  · exact h

theorem Accounted.renewed (h : Accounted s) (hnone : s.current = none) {engine : Engine}
    (hnumber : engine.number = s.created) (host : δ) : Accounted (s.renewed host engine) := by
  intro number hlt
  rcases Nat.lt_succ_iff_lt_or_eq.mp hlt with hold | rfl
  · rcases h number hold with ⟨engine', hcurrent, -⟩ | hmem
    · cases hnone.symm.trans hcurrent
    · exact Or.inr hmem
  · exact Or.inl ⟨engine, rfl, hnumber⟩

/-- No engine is lost by a close, nor by a start when there is none in use. -/
theorem Accounted.step (h : Accounted s) (hstep : Steps s call given s')
    (hnone : call = .close ∨ s.current = none) : Accounted s' := by
  cases hstep with
  | opens hnumber => exact h.renewed (hnone.resolve_left nofun) hnumber _
  | withdraws => exact Accounted.emptied (s := { s with host := _ }) h
  | drops hnumber => exact (h.renewed (hnone.resolve_left nofun) hnumber _).emptied
  | closes => exact h.emptied

/-- A start when there is an engine in use loses it, or takes it out of use without a new one. -/
theorem Numbered.lost_or_withdrawn (h : Numbered s) {settings : PostgresSettings} {engine : Engine}
    (hstep : Steps s (.start settings) given s') (hcurrent : s.current = some engine) :
    ¬Accounted s' ∨ s'.created = s.created ∧ s'.current = none := by
  obtain ⟨hlt, hnotin⟩ := h.current engine hcurrent
  cases hstep with
  | @opens _ engine' host hnumber =>
      refine Or.inl fun haccounted => ?_
      rcases haccounted engine.number (Nat.lt_succ_of_lt hlt) with ⟨engine'', hcurrent', heq⟩ | hmem
      · obtain rfl := Option.some.inj hcurrent'
        exact absurd (heq.symm.trans hnumber) (Nat.ne_of_lt hlt)
      · exact hnotin hmem
  | withdraws =>
      refine Or.inr ⟨?_, emptied_current _⟩
      rw [EngineSlot.emptied, hcurrent]
  | @drops _ engine' host hnumber =>
      refine Or.inl fun haccounted => ?_
      rcases haccounted engine.number (Nat.lt_succ_of_lt hlt) with ⟨engine'', hcurrent', -⟩ | hmem
      · cases hcurrent'
      · rcases List.mem_append.mp hmem with hold | hlast
        · exact hnotin hold
        · exact absurd ((List.mem_singleton.mp hlast).trans hnumber) (Nat.ne_of_lt hlt)

end Books

/-! ### Runs -/

/-- The engine of the last start that succeeded, with no close after it. -/
inductive LastGiven (host : δ) (j : Journal) : List SlotCall → Engine → Prop
  | now {calls : List SlotCall} {settings : PostgresSettings} {engine : Engine}
      (h : given? (afterCalls host j calls) (.start settings) = some engine) :
      LastGiven host j (calls ++ [.start settings]) engine
  | still {calls : List SlotCall} {settings : PostgresSettings} {engine : Engine}
      (h : LastGiven host j calls engine)
      (hfailed : given? (afterCalls host j calls) (.start settings) = none) :
      LastGiven host j (calls ++ [.start settings]) engine

/-- Whether no more than one engine is alive after any of the calls: every engine that was created is the
one in use or disposed of, the one in use is that of the last start that succeeded, unless there was a close
after it, and a start that fails before it has an engine leaves the one in use where it is. -/
structure KeepsOne (host : δ) (j : Journal) (calls : List SlotCall) : Prop where
  accounted : ∀ before, before <+: calls → ∀ number < (afterCalls host j before).1.created,
    (∃ engine, engineOf (afterCalls host j before) = .ok engine ∧ engine.number = number) ∨
      number ∈ (afterCalls host j before).1.disposed
  given : ∀ before, before <+: calls → ∀ engine,
    engineOf (afterCalls host j before) = .ok engine ↔ LastGiven host j before engine
  kept : ∀ before settings, before ++ [.start settings] <+: calls →
    (afterCalls host j (before ++ [.start settings])).1.created = (afterCalls host j before).1.created →
    ∀ engine, engineOf (afterCalls host j before) = .ok engine →
      engineOf (afterCalls host j (before ++ [.start settings])) = .ok engine

variable (host : δ) (calls : List SlotCall)

/-- The engine in use is the one that the last call gave. -/
theorem current_afterCalls (call : SlotCall) :
    (afterCalls host j (calls ++ [call])).1.current = given? (afterCalls host j calls) call :=
  (steps_afterCalls host j calls call).current_eq

theorem numbered_afterCalls : Numbered (afterCalls host j calls).1 := by
  induction calls using List.reverseRecOn with
  | nil => exact ⟨List.nodup_nil, fun _ => nofun, fun _ => nofun⟩
  | append_singleton calls call ih => exact ih.step (steps_afterCalls host j calls call)

theorem lastGiven_concat_iff {call : SlotCall} {engine : Engine} :
    LastGiven host j (calls ++ [call]) engine ↔ given? (afterCalls host j calls) call = some engine ∨
      call ≠ .close ∧ given? (afterCalls host j calls) call = none ∧ LastGiven host j calls engine := by
  constructor
  · intro h
    generalize hall : calls ++ [call] = all at h
    cases h with
    | now hgiven =>
        obtain ⟨rfl, hcall⟩ := List.append_inj' hall rfl
        cases hcall
        exact Or.inl hgiven
    | still hlast hfailed =>
        obtain ⟨rfl, hcall⟩ := List.append_inj' hall rfl
        cases hcall
        exact Or.inr ⟨nofun, hfailed, hlast⟩
  · cases call with
    | start settings =>
        rintro (hgiven | ⟨-, hfailed, hlast⟩)
        · exact .now hgiven
        · exact .still hlast hfailed
    | close =>
        rintro (hgiven | ⟨hclose, -⟩)
        · cases hgiven
        · exact absurd rfl hclose

/-- Whether a start directly follows one that succeeded. -/
def Restarts : Prop :=
  ∃ before settings settings', before ++ [.start settings, .start settings'] <+: calls ∧
    (given? (afterCalls host j before) (.start settings)).isSome = true

variable {host calls} {j}

theorem Restarts.of_prefix {calls' : List SlotCall} (h : Restarts j host calls') (hcalls : calls' <+: calls) :
    Restarts j host calls := by
  obtain ⟨before, settings, settings', hbefore, hgiven⟩ := h
  exact ⟨before, settings, settings', hbefore.trans hcalls, hgiven⟩

/-- An engine in use when a start is made was given by a start right before it. -/
theorem restarts_of_current {before : List SlotCall} {settings : PostgresSettings} {engine : Engine}
    (hcurrent : (afterCalls host j before).1.current = some engine)
    (hcalls : before ++ [.start settings] <+: calls) : Restarts j host calls := by
  induction before using List.reverseRecOn with
  | nil => cases hcurrent
  | append_singleton before call =>
      rw [current_afterCalls] at hcurrent
      cases call with
      | close => cases hcurrent
      | start settings' =>
          refine ⟨before, settings', settings, ?_, Option.isSome_of_eq_some hcurrent⟩
          rwa [List.append_assoc] at hcalls

theorem accounted_of_not_restarts (h : ¬Restarts j host calls) : Accounted (afterCalls host j calls).1 := by
  induction calls using List.reverseRecOn with
  | nil => exact fun number hlt => absurd hlt (Nat.not_lt_zero _)
  | append_singleton calls call ih =>
      refine (ih fun hearlier => h (hearlier.of_prefix (List.prefix_append _ _))).step
        (steps_afterCalls host j calls call) ?_
      cases call with
      | close => exact Or.inl rfl
      | start settings =>
          refine Or.inr (Option.eq_none_iff_forall_ne_some.mpr fun engine hcurrent => h ?_)
          exact restarts_of_current hcurrent (List.prefix_refl _)

theorem current_iff_of_not_restarts (h : ¬Restarts j host calls) {engine : Engine} :
    (afterCalls host j calls).1.current = some engine ↔ LastGiven host j calls engine := by
  induction calls using List.reverseRecOn with
  | nil =>
      refine iff_of_false nofun fun hlast => ?_
      generalize hempty : [] = calls at hlast
      cases hlast <;> exact List.append_ne_nil_of_right_ne_nil _ (List.cons_ne_nil _ _) hempty.symm
  | append_singleton calls call ih =>
      rw [current_afterCalls, lastGiven_concat_iff]
      refine (or_iff_left ?_).symm
      rintro ⟨hcall, -, hlast⟩
      have hcurrent := (ih fun hearlier => h (hearlier.of_prefix (List.prefix_append _ _))).mpr hlast
      cases call with
      | close => exact hcall rfl
      | start settings => exact h (restarts_of_current hcurrent (List.prefix_refl _))

theorem keepsOne_of_not_restarts (h : ¬Restarts j host calls) : KeepsOne host j calls where
  accounted before hbefore number hlt := by
    simp only [engineOf_eq_ok_iff]
    exact accounted_of_not_restarts (fun hearlier => h (hearlier.of_prefix hbefore)) number hlt
  given before hbefore engine := by
    rw [engineOf_eq_ok_iff]
    exact current_iff_of_not_restarts fun hearlier => h (hearlier.of_prefix hbefore)
  kept before settings hbefore _ engine hengine :=
    absurd (restarts_of_current (engineOf_eq_ok_iff.mp hengine) hbefore) h

theorem KeepsOne.not_restarts (h : KeepsOne host j calls) : ¬Restarts j host calls := by
  rintro ⟨before, settings, settings', hprefix, hgiven⟩
  obtain ⟨engine, hgiven⟩ := Option.isSome_iff_exists.mp hgiven
  have hsplit : before ++ [.start settings, .start settings'] =
      before ++ [.start settings] ++ [.start settings'] := by simp
  rw [hsplit] at hprefix
  have hcurrent := (current_afterCalls j host before (.start settings)).trans hgiven
  rcases (numbered_afterCalls j host (before ++ [.start settings])).lost_or_withdrawn
    (steps_afterCalls host j _ (.start settings')) hcurrent with hlost | ⟨hcreated, hnone⟩
  · have haccounted := h.accounted _ hprefix
    simp only [engineOf_eq_ok_iff] at haccounted
    exact hlost haccounted
  · have hkept := h.kept _ settings' hprefix hcreated engine (engineOf_eq_ok_iff.mpr hcurrent)
    cases hnone.symm.trans (engineOf_eq_ok_iff.mp hkept)

variable (host calls) (j) in
/-- No more than one engine is alive after any of the calls exactly unless a start directly follows one that
succeeded. In every run an engine is disposed of at most once, and never while it is in use. -/
theorem keepsOne_iff : (KeepsOne host j calls ↔ ¬∃ before settings settings',
      before ++ [.start settings, .start settings'] <+: calls ∧
        (given? (afterCalls host j before) (.start settings)).isSome = true) ∧
    (afterCalls host j calls).1.disposed.Nodup ∧
    (∀ number ∈ (afterCalls host j calls).1.disposed, number < (afterCalls host j calls).1.created) ∧
    ∀ engine, engineOf (afterCalls host j calls) = .ok engine →
      engine.number < (afterCalls host j calls).1.created ∧
        engine.number ∉ (afterCalls host j calls).1.disposed := by
  obtain ⟨hnodup, hbelow, hcurrent⟩ := numbered_afterCalls j host calls
  refine ⟨⟨KeepsOne.not_restarts, keepsOne_of_not_restarts⟩, hnodup, hbelow, fun engine hengine => ?_⟩
  exact hcurrent engine (engineOf_eq_ok_iff.mp hengine)

section Example

/-- The settings of a database at an address whose schema is left as it is. -/
def atUrl (url : String) : PostgresSettings := { url, runMigrations := false }

/-- A second start leaves the engine of the first neither in use nor disposed of. One that fails before it
has an engine, as there is no driver for its address, disposes of the engine of the first. -/
theorem not_keepsOne_startedTwice :
    let again := [.start (atUrl "sqlite:///a.db"), .start (atUrl "sqlite:///b.db")]
    let failing := [.start (atUrl "sqlite:///a.db"), .start (atUrl "oracle://b")]
    let twice := (afterCalls ({} : LocalDatabases) .ordinary again).1
    let failed := (afterCalls ({} : LocalDatabases) .ordinary failing).1
    (twice.current.map Engine.number = some 1 ∧ twice.created = 2 ∧ twice.disposed = []) ∧
      ¬KeepsOne ({} : LocalDatabases) .ordinary again ∧
      (failed.current.map Engine.number = none ∧ failed.created = 1 ∧ failed.disposed = [0]) ∧
      ¬KeepsOne ({} : LocalDatabases) .ordinary failing := by
  intro again failing twice failed
  have hgiven : (given? (afterCalls ({} : LocalDatabases) .ordinary [])
      (.start (atUrl "sqlite:///a.db"))).isSome = true := rfl
  refine ⟨⟨rfl, rfl, rfl⟩, fun h => ?_, ⟨rfl, rfl, rfl⟩, fun h => ?_⟩
  · exact h.not_restarts ⟨[], _, _, List.prefix_refl _, hgiven⟩
  · exact h.not_restarts ⟨[], _, _, List.prefix_refl _, hgiven⟩

end Example

end EngineSlot

end QuestionBoard
