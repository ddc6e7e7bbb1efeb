import Mathlib.Data.List.Induction
import QuestionBoard.Proofs.Answer.Exchange

/-!
Which sessions a client of an answer server has opened and closed after any calls. A client that opens its
sessions itself has closed all of them but the one in use. A client that was lent a session closes none,
and opens one of its own only if it is asked something after it was closed: nothing closes that one.
-/

namespace QuestionBoard

open QuestionBoard.Action

inductive ClientCall
  | answer (question : Json)
  | close

namespace AnswerClient

variable {ρ : Type} [AnswerServer ρ]

/-! ### Calls -/

/-- The client and the journal after a call, whether it fails or not. -/
def afterCall (m : AnswerClient ρ × Journal) : ClientCall → AnswerClient ρ × Journal
  | .answer question =>
    (((answer question).outcome m.1 m.2).state, ((answer question).outcome m.1 m.2).journal)
  | .close => ((close.outcome m.1 m.2).state, (close.outcome m.1 m.2).journal)

/-- The client and the journal after calls that are made one after another. -/
def afterCalls (start : AnswerClient ρ) (j : Journal) (calls : List ClientCall) : AnswerClient ρ × Journal :=
  calls.foldl afterCall (start, j)

inductive Steps (c : AnswerClient ρ) : ClientCall → AnswerClient ρ → Prop
  | goesOver {question : Json} {session : HttpSession} {server : ρ} (h : c.session = some session) :
      Steps c (.answer question) (c.withServer server)
  | opens {question : Json} {server : ρ} (h : c.session = none) :
      Steps c (.answer question) { c with
        session := some ⟨c.network.opened.length, c.timeout⟩
        network := { c.network with
          server
          opened := c.network.opened ++ [⟨c.network.opened.length, c.timeout⟩] } }
  | closes {session : HttpSession} (h : c.session = some session) (howns : c.ownsSession = true) :
      Steps c .close { c with session := none, network := c.network.closeSession session }
  | givesUp {session : HttpSession} (h : c.session = some session) (howns : c.ownsSession = false) :
      Steps c .close { c with session := none }
  | rests (h : c.session = none) : Steps c .close c

theorem steps_afterCall (m : AnswerClient ρ × Journal) (call : ClientCall) :
    Steps m.1 call (afterCall m call).1 := by
  obtain ⟨c, j⟩ := m
  cases call with
  | answer question =>
      obtain ⟨result, line, server, elapsed, -, hanswer⟩ := c.exists_course question j
      have hstate : (afterCall (c, j) (.answer question)).1 = c.inUse.withServer server :=
        congrArg Outcome.state hanswer
      rw [hstate, inUse]
      cases hsession : c.session with
      | some session => exact .goesOver hsession
      | none =>
          rw [nextSession, hsession]
          exact .opens hsession
  | close =>
      rw [afterCall, close, outcome_modify]
      split
      · next session hsession =>
          by_cases howns : c.ownsSession = true
          · simp only [if_pos howns]
            exact .closes hsession howns
          · simp only [if_neg howns]
            exact .givesUp hsession (Bool.eq_false_of_not_eq_true howns)
      · next hsession => exact .rests hsession

theorem steps_afterCalls (start : AnswerClient ρ) (j : Journal) (calls : List ClientCall) (call : ClientCall) :
    Steps (afterCalls start j calls).1 call (afterCalls start j (calls ++ [call])).1 := by
  rw [afterCalls, afterCalls, List.foldl_concat]
  exact steps_afterCall _ call

/-- The sessions that were opened since the client was made. -/
def openedSince (start c : AnswerClient ρ) : List HttpSession :=
  c.network.opened.drop start.network.opened.length

/-- Whether after each close among the calls all sessions that the client has opened are closed. -/
def ClosesOwn (start : AnswerClient ρ) (j : Journal) (calls : List ClientCall) : Prop :=
  ∀ before, before ++ [.close] <+: calls →
    ∀ session ∈ openedSince start (afterCalls start j (before ++ [.close])).1,
      session.number ∈ (afterCalls start j (before ++ [.close])).1.network.closed

section Books

omit [AnswerServer ρ]

variable {start c c' : AnswerClient ρ} {calls : List ClientCall} {call : ClientCall}

theorem Steps.session_of_close (h : Steps c .close c') : c'.session = none := by
  cases h with
  | closes | givesUp => rfl
  | rests h => exact h

theorem openedSince_eq {own : List HttpSession} (h : c.network.opened = start.network.opened ++ own) :
    openedSince start c = own := by
  rw [openedSince, h, List.drop_left]

/-! ### Sessions of the client's own -/

/-- A client that opens its sessions itself has closed them all but the one in use. -/
structure Owns (start c : AnswerClient ρ) (given : List HttpSession) : Prop where
  owns : c.ownsSession = true
  opened : c.network.opened = start.network.opened ++ (given ++ c.session.toList)
  closed : c.network.closed = start.network.closed ++ given.map HttpSession.number

theorem Owns.step {given : List HttpSession} (h : Owns start c given) (hstep : Steps c call c') :
    ∃ given', Owns start c' given' := by
  obtain ⟨howns, hopened, hclosed⟩ := h
  cases hstep with
  | goesOver hsession => exact ⟨given, howns, hopened, hclosed⟩
  | opens hsession =>
      refine ⟨given, howns, ?_, hclosed⟩
      rw [hsession, Option.toList_none, List.append_nil] at hopened
      simp [hopened]
  | @closes session hsession =>
      refine ⟨given ++ [session], howns, ?_, ?_⟩
      · rw [hsession] at hopened
        simpa [HttpNetwork.closeSession] using hopened
      · simp [HttpNetwork.closeSession, hclosed]
  | givesUp _ hlent => cases howns.symm.trans hlent
  | rests => exact ⟨given, howns, hopened, hclosed⟩

/-! ### Sessions that are lent -/

def AskedAfterClose (calls : List ClientCall) : Prop :=
  ∃ question, [.close, .answer question].Sublist calls

theorem AskedAfterClose.close_mem (h : AskedAfterClose calls) : .close ∈ calls := by
  obtain ⟨question, h⟩ := h
  exact h.subset (List.mem_cons_self ..)

theorem askedAfterClose_answer (question : Json) :
    AskedAfterClose (calls ++ [.answer question]) ↔ .close ∈ calls := by
  constructor
  · intro h
    simpa using h.close_mem
  · exact fun h => ⟨question, (List.singleton_sublist.mpr h).append (List.Sublist.refl _)⟩

theorem askedAfterClose_close : AskedAfterClose (calls ++ [.close]) ↔ AskedAfterClose calls := by
  constructor
  · rintro ⟨question, h⟩
    obtain ⟨kept, last, heq, hkept, hlast⟩ := List.sublist_append_iff.mp h
    rcases List.sublist_singleton.mp hlast with rfl | rfl
    · rw [List.append_nil] at heq
      exact ⟨question, heq ▸ hkept⟩
    · have hend := congrArg List.getLast? heq
      simp at hend
  · exact fun ⟨question, h⟩ => ⟨question, h.trans (List.sublist_append_left _ _)⟩

/-- A close comes after a question that came after a close exactly if the calls have these three in order. -/
theorem exists_prefix_askedAfterClose : (∃ before, before ++ [.close] <+: calls ∧ AskedAfterClose before) ↔
    ∃ question, [.close, .answer question, .close].Sublist calls := by
  constructor
  · rintro ⟨before, hprefix, question, h⟩
    have hsublist : ([ClientCall.close, .answer question] ++ [ClientCall.close]).Sublist
        (before ++ [.close]) :=
      h.append (List.Sublist.refl _)
    exact ⟨question, hsublist.trans hprefix.sublist⟩
  · rintro ⟨question, h⟩
    have hsublist : ([ClientCall.close, .answer question] ++ [ClientCall.close]).Sublist calls := h
    obtain ⟨first, second, rfl, hfirst, hsecond⟩ := List.append_sublist_iff.mp hsublist
    obtain ⟨between, after, rfl⟩ := List.append_of_mem (List.singleton_sublist.mp hsecond)
    refine ⟨first ++ between, ⟨after, ?_⟩, question, hfirst.trans (List.sublist_append_left _ _)⟩
    simp

/-- A client that was lent a session closes none. It opens one of its own if it is asked something after a
close, and only then. -/
structure Lent (start c : AnswerClient ρ) (calls : List ClientCall) (own : List HttpSession) : Prop where
  lent : c.ownsSession = false
  opened : c.network.opened = start.network.opened ++ own
  closed : c.network.closed = start.network.closed
  reopened : own = [] ↔ ¬AskedAfterClose calls
  givenUp : own = [] → (c.session = none ↔ .close ∈ calls)
  later : ∀ session ∈ own, start.network.opened.length ≤ session.number

theorem Lent.step {own : List HttpSession} (h : Lent start c calls own) (hstep : Steps c call c') :
    ∃ own', Lent start c' (calls ++ [call]) own' := by
  obtain ⟨hlent, hopened, hclosed, hreopened, hgivenUp, hlater⟩ := h
  cases hstep with
  | @goesOver question session server hsession =>
      -- Until one of its own was opened, a session in use is the lent one.
      have hlentYet : own = [] → .close ∉ calls := by
        intro hempty hmem
        cases hsession.symm.trans ((hgivenUp hempty).mpr hmem)
      refine ⟨own, hlent, hopened, hclosed, ?_, fun hempty => ?_, hlater⟩
      · rw [askedAfterClose_answer]
        exact ⟨hlentYet, fun hnot => hreopened.mpr fun hasked => hnot hasked.close_mem⟩
      · simpa [withServer] using hgivenUp hempty
  | @opens question server hsession =>
      have hmem : .close ∈ calls := by
        by_cases hempty : own = []
        · exact (hgivenUp hempty).mp hsession
        · exact (not_not.mp (mt hreopened.mpr hempty)).close_mem
      refine ⟨own ++ [⟨c.network.opened.length, c.timeout⟩], hlent, ?_, hclosed, ?_, ?_, ?_⟩
      · simp [hopened]
      · simpa [askedAfterClose_answer] using hmem
      · simp
      · intro session hsession
        rcases List.mem_append.mp hsession with hold | hnew
        · exact hlater session hold
        · rw [List.mem_singleton.mp hnew, hopened, List.length_append]
          exact Nat.le_add_right _ _
  | closes _ howns => cases hlent.symm.trans howns
  | givesUp hsession =>
      refine ⟨own, hlent, hopened, hclosed, ?_, by simp, hlater⟩
      rw [askedAfterClose_close]
      exact hreopened
  | rests hsession =>
      refine ⟨own, hlent, hopened, hclosed, ?_, by simp [hsession], hlater⟩
      rw [askedAfterClose_close]
      exact hreopened

end Books

/-! ### Runs -/

/-- A client that was lent a session, or else opens its own. -/
def lentOrOwning (base : Text) (timeout : Binary64) (network : HttpNetwork ρ) :
    Option HttpSession → AnswerClient ρ
  | none => .owning base timeout network
  | some session => .borrowing base timeout session network

variable (base : Text) (timeout : Binary64) (network : HttpNetwork ρ) (session : HttpSession)
  (j : Journal) (calls : List ClientCall)

theorem owns_afterCalls : ∃ given,
    Owns (.owning base timeout network) (afterCalls (.owning base timeout network) j calls).1 given := by
  induction calls using List.reverseRecOn with
  | nil => exact ⟨[], rfl, (List.append_nil _).symm, (List.append_nil _).symm⟩
  | append_singleton calls call ih =>
      obtain ⟨given, h⟩ := ih
      exact h.step (steps_afterCalls _ j calls call)

theorem lent_afterCalls : ∃ own, Lent (.borrowing base timeout session network)
    (afterCalls (.borrowing base timeout session network) j calls).1 calls own := by
  induction calls using List.reverseRecOn with
  | nil =>
      refine ⟨[], rfl, (List.append_nil _).symm, rfl, ?_, ?_, by simp⟩
      · exact iff_of_true rfl fun ⟨question, h⟩ => by cases h
      · exact fun _ => iff_of_false (Option.some_ne_none session) List.not_mem_nil
  | append_singleton calls call ih =>
      obtain ⟨own, h⟩ := ih
      exact h.step (steps_afterCalls _ j calls call)

theorem closesOwn_owning : ClosesOwn (.owning base timeout network) j calls := by
  intro before _ session hsession
  obtain ⟨given, -, hopened, hclosed⟩ := owns_afterCalls base timeout network j (before ++ [.close])
  rw [(steps_afterCalls _ j before .close).session_of_close, Option.toList_none, List.append_nil] at hopened
  rw [openedSince_eq hopened] at hsession
  rw [hclosed]
  exact List.mem_append_right _ (List.mem_map_of_mem hsession)

theorem closesOwn_borrowing_iff (hclosed : ∀ number ∈ network.closed, number < network.opened.length) :
    ClosesOwn (.borrowing base timeout session network) j calls ↔
      ¬∃ question, [.close, .answer question, .close].Sublist calls := by
  rw [← exists_prefix_askedAfterClose, not_exists]
  refine forall_congr' fun before => ?_
  rw [not_and]
  refine imp_congr_right fun _ => ?_
  obtain ⟨own, -, hopened, hsame, hreopened, -, hlater⟩ :=
    lent_afterCalls base timeout network session j (before ++ [.close])
  rw [openedSince_eq hopened, hsame, ← askedAfterClose_close, ← hreopened]
  constructor
  · intro h
    -- What is closed was closed before, so its numbers lie below those of the client's own sessions.
    refine List.eq_nil_iff_forall_not_mem.mpr fun session hsession => ?_
    exact absurd (hclosed _ (h session hsession)) (Nat.not_lt.mpr (hlater session hsession))
  · rintro rfl session hsession
    cases hsession

/-- After each close a client has closed all sessions that it has opened, exactly unless it was lent a
session and is asked something between two closes. It closes no sessions but its own, none more than once,
and none at all if it was lent one. -/
theorem closesOwn_iff (lent : Option HttpSession)
    (hclosed : ∀ number ∈ network.closed, number < network.opened.length) :
    let start := lentOrOwning base timeout network lent
    let later := (afterCalls start j calls).1
    (ClosesOwn start j calls ↔
      ¬(lent.isSome = true ∧ ∃ question, [.close, .answer question, .close].Sublist calls)) ∧
    (∃ given : List HttpSession, later.network.closed = network.closed ++ given.map HttpSession.number ∧
      given.Sublist (openedSince start later)) ∧
    (lent.isSome = true → later.network.closed = network.closed) := by
  cases lent with
  | none =>
      obtain ⟨given, -, hopened, hgiven⟩ := owns_afterCalls base timeout network j calls
      refine ⟨iff_of_true (closesOwn_owning base timeout network j calls) (by simp), ⟨given, hgiven, ?_⟩,
        by simp⟩
      rw [lentOrOwning, openedSince_eq hopened]
      exact List.sublist_append_left _ _
  | some session =>
      obtain ⟨own, -, hopened, hsame, -⟩ := lent_afterCalls base timeout network session j calls
      refine ⟨?_, ⟨[], ?_, List.nil_sublist _⟩, fun _ => hsame⟩
      · rw [lentOrOwning, closesOwn_borrowing_iff base timeout network session j calls hclosed]
        simp
      · rw [List.map_nil, List.append_nil]
        exact hsame

section Example

def oneOpened : HttpNetwork ScriptedPeer :=
  ⟨{ reply := .ok ⟨200, .ok "", .ok (.object [("answer", .text "So.")])⟩ }, [⟨0, .zero false⟩], []⟩

def onOneOpened : Option HttpSession → AnswerClient ScriptedPeer :=
  lentOrOwning "http://answers" (.zero false) oneOpened

/-- A client of its own closes each of the two sessions that it opens; a lent session stays open. -/
theorem closesOwn_oneOpened :
    (∀ number ∈ oneOpened.closed, number < oneOpened.opened.length) ∧
      ClosesOwn (onOneOpened none) .ordinary
        [.answer (.text "Why?"), .close, .answer (.text "How?"), .close] ∧
      (afterCalls (onOneOpened none) .ordinary
        [.answer (.text "Why?"), .close, .answer (.text "How?"), .close]).1.network.closed = [1, 2] ∧
      ClosesOwn (onOneOpened (some ⟨0, .zero false⟩)) .ordinary [.answer (.text "Why?"), .close, .close] ∧
      (afterCalls (onOneOpened (some ⟨0, .zero false⟩)) .ordinary
        [.answer (.text "Why?"), .close, .close]).1.network.closed = [] := by
  have hclosed : ∀ number ∈ oneOpened.closed, number < oneOpened.opened.length := by simp [oneOpened]
  obtain ⟨howning, -, -⟩ := closesOwn_iff "http://answers" (.zero false) oneOpened .ordinary
    [.answer (.text "Why?"), .close, .answer (.text "How?"), .close] none hclosed
  obtain ⟨hborrowing, -, hnone⟩ := closesOwn_iff "http://answers" (.zero false) oneOpened .ordinary
    [.answer (.text "Why?"), .close, .close] (some ⟨0, .zero false⟩) hclosed
  refine ⟨hclosed, howning.mpr (by simp), rfl, hborrowing.mpr ?_, hnone rfl⟩
  rintro ⟨-, question, hsublist⟩
  cases hsublist.eq_of_length rfl

/-- A client that was lent a session, and is closed, asked and closed again, leaves its own session open. -/
theorem not_closesOwn_reopened :
    let start := onOneOpened (some ⟨0, .zero false⟩)
    let later := (afterCalls start .ordinary [.close, .answer (.text "Why?"), .close]).1
    openedSince start later = [⟨1, .zero false⟩] ∧ later.network.closed = [] ∧
      ¬ClosesOwn start .ordinary [.close, .answer (.text "Why?"), .close] := by
  intro start later
  have hopened : openedSince start later = [⟨1, .zero false⟩] := rfl
  have hclosed : later.network.closed = [] := rfl
  refine ⟨hopened, hclosed, fun h => ?_⟩
  have hmem := h [.close, .answer (.text "Why?")] (List.prefix_refl _) ⟨1, .zero false⟩
    (hopened ▸ List.mem_singleton_self _)
  exact absurd (hclosed ▸ hmem) List.not_mem_nil

end Example

end AnswerClient

end QuestionBoard
