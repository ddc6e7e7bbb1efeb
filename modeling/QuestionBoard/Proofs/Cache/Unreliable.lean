import QuestionBoard.Proofs.Answer.Documented

/-!
A cache that cannot be relied on. Before each operation it may forget any of its entries, and then the
operation may fail, without effect, or do its work. What befalls the operations is any sequence of
mishaps, and the cache keeps a record of the failures that it raised.
-/

namespace QuestionBoard

open QuestionBoard.Action

/-- What befalls an operation of a cache. -/
structure Mishap where
  /-- The keys of the entries that are forgotten before it. -/
  forgotten : Text → Bool := fun _ => false
  /-- The reason and the cause of its failure, if it fails. -/
  fault : Option (Text × Option FailureKind) := none

/-- A cache that may forget and fail. -/
structure UnreliableCache where
  entries : Text → Option Text := fun _ => none
  /-- What befalls each operation, the first one first. -/
  mishaps : Nat → Mishap
  /-- How many operations were begun. -/
  operations : Nat := 0
  /-- The failures that were raised, in order. -/
  raised : List Failure := []

namespace UnreliableCache

variable {α : Type}

def forget (forgotten : Text → Bool) (c : UnreliableCache) : UnreliableCache :=
  { c with entries := fun key => if forgotten key then none else c.entries key }

def Forgets (c c' : UnreliableCache) : Prop := ∃ forgotten, c' = c.forget forgotten

/-- The cache when an operation begins its work. -/
def begun (c : UnreliableCache) : UnreliableCache :=
  { c.forget (c.mishaps c.operations).forgotten with operations := c.operations + 1 }

/-- An operation, unless a mishap prevents it. -/
def guarded (a : Action UnreliableCache α) : Action UnreliableCache α := do
  let c ← get
  set c.begun
  match (c.mishaps c.operations).fault with
  | some (reason, cause) =>
    modify fun c => { c with raised := c.raised ++ [.internal reason cause] }
    throw (.internal reason cause)
  | none => a

def read (key : Text) : Action UnreliableCache Text := do
  match (← MonadState.get).entries key with
  | some text => return text
  | none => throw (.noCacheKey key)

def write (key text : Text) : Action UnreliableCache Unit :=
  modify fun c => { c with entries := Function.update c.entries key (some text) }

def erase (key : Text) : Action UnreliableCache Unit := do
  if ((← MonadState.get).entries key).isNone then throw (.noCacheKey key)
  modify fun c => { c with entries := Function.update c.entries key none }

instance : Cache UnreliableCache where
  get key := guarded (read key)
  set key text _ := guarded (write key text)
  delete key := guarded (erase key)

/-- The failure of the cache itself in a result, if it is one. -/
def faults : Except Failure α → List Failure
  | .error (.internal reason cause) => [.internal reason cause]
  | _ => []

variable {c : UnreliableCache} {key text : Text} {j : Journal} {a : Action UnreliableCache α}

theorem entries_of_forget {forgotten : Text → Bool}
    (h : (c.forget forgotten).entries key = some text) : c.entries key = some text := by
  simp only [forget] at h
  split at h
  · cases h
  · exact h

theorem entries_of_begun (h : c.begun.entries key = some text) : c.entries key = some text :=
  entries_of_forget h

/-- An operation fails without effect, or does its work. -/
theorem outcome_guarded (a : Action UnreliableCache α) (c : UnreliableCache) (j : Journal) :
    (guarded a).outcome c j = match (c.mishaps c.operations).fault with
      | some (reason, cause) =>
        ⟨.error (.internal reason cause), { c.begun with raised := c.raised ++ [.internal reason cause] }, j⟩
      | none => a.outcome c.begun j := by
  rw [guarded, outcome_bind, outcome_get, andThen_ok, outcome_bind, outcome_set, andThen_ok]
  cases (c.mishaps c.operations).fault with
  | none => rfl
  | some fault => rfl

/-- What an operation does, whether it fails or not: it writes no line, it keeps a record of its failure,
and no entry appears but those of a relation. -/
structure Does (R : Text → Text → Prop) (c : UnreliableCache) (j : Journal)
    (o : Outcome UnreliableCache α) : Prop where
  journal : o.journal = j
  raised : o.state.raised = c.raised ++ faults o.result
  entries : ∀ key text, o.state.entries key = some text → c.entries key = some text ∨ R key text

theorem does_guarded {R : Text → Text → Prop} (ha : ∀ c, Does R c j (a.outcome c j)) :
    Does R c j ((guarded a).outcome c j) := by
  rw [outcome_guarded]
  cases (c.mishaps c.operations).fault with
  | some fault => exact ⟨rfl, rfl, fun key text h => Or.inl (entries_of_begun h)⟩
  | none =>
      obtain ⟨hjournal, hraised, hentries⟩ := ha c.begun
      exact ⟨hjournal, hraised, fun key text h => (hentries key text h).imp_left entries_of_begun⟩

theorem kind_of_guarded {P : FailureKind → Prop} (hinternal : P .internal)
    (ha : ∀ c f, (a.outcome c j).result = .error f → P f.kind) {f : Failure}
    (h : ((guarded a).outcome c j).result = .error f) : P f.kind := by
  rw [outcome_guarded] at h
  cases hfault : (c.mishaps c.operations).fault with
  | some fault =>
      rw [hfault] at h
      cases h
      exact hinternal
  | none =>
      rw [hfault] at h
      exact ha _ f h

/-! ### The operations -/

theorem outcome_read (key : Text) (c : UnreliableCache) (j : Journal) :
    (read key).outcome c j = ⟨(c.entries key).elim (.error (.noCacheKey key)) .ok, c, j⟩ := by
  rw [read, outcome_bind, outcome_get, andThen_ok]
  cases c.entries key <;> rfl

theorem outcome_erase (key : Text) (c : UnreliableCache) (j : Journal) :
    (erase key).outcome c j = if (c.entries key).isNone then ⟨.error (.noCacheKey key), c, j⟩ else
      ⟨.ok (), { c with entries := Function.update c.entries key none }, j⟩ := by
  rw [erase, outcome_bind, outcome_get, andThen_ok]
  cases c.entries key <;> rfl

theorem does_get {o : Outcome UnreliableCache Text} (h : outcome (Cache.get key) c j = o) :
    Does (fun _ _ => False) c j o := by
  subst h
  refine does_guarded fun c => ?_
  rw [outcome_read]
  refine ⟨rfl, ?_, fun _ _ => Or.inl⟩
  cases c.entries key <;> exact (List.append_nil _).symm

theorem does_set {expiration : Option Duration} {o : Outcome UnreliableCache Unit}
    (h : outcome (Cache.set key text expiration) c j = o) :
    Does (fun other text' => other = key ∧ text' = text) c j o := by
  subst h
  refine does_guarded fun c => ⟨rfl, (List.append_nil _).symm, fun other text' h => ?_⟩
  change Function.update c.entries key (some text) other = some text' at h
  rw [Function.update_apply] at h
  split at h
  · exact Or.inr ⟨‹_›, (Option.some.inj h).symm⟩
  · exact Or.inl h

theorem does_delete {o : Outcome UnreliableCache Unit} (h : outcome (Cache.delete key) c j = o) :
    Does (fun _ _ => False) c j o := by
  subst h
  refine does_guarded fun c => ?_
  rw [outcome_erase]
  split
  · exact ⟨rfl, (List.append_nil _).symm, fun _ _ => Or.inl⟩
  · refine ⟨rfl, (List.append_nil _).symm, fun other text h => Or.inl ?_⟩
    change Function.update c.entries key none other = some text at h
    rw [Function.update_apply] at h
    split at h
    · cases h
    · exact h

/-- A text that is read was there. -/
theorem entries_of_get {c' : UnreliableCache} {j' : Journal}
    (h : outcome (Cache.get key) c j = ⟨.ok text, c', j'⟩) : c.entries key = some text := by
  change (guarded (read key)).outcome c j = _ at h
  rw [outcome_guarded] at h
  cases hfault : (c.mishaps c.operations).fault with
  | some fault =>
      rw [hfault] at h
      cases congrArg Outcome.result h
  | none =>
      rw [hfault] at h
      refine entries_of_begun ?_
      have hresult := congrArg Outcome.result h
      simp only [outcome_read] at hresult
      cases hentry : c.begun.entries key with
      | none =>
          rw [hentry] at hresult
          cases hresult
      | some old =>
          rw [hentry] at hresult
          rw [Except.ok.inj hresult]

instance : DocumentedCache UnreliableCache where
  kind_of_get c key j f h := by
    refine kind_of_guarded (P := fun kind => kind = .notFound ∨ kind = .internal) (Or.inr rfl) ?_ h
    intro c f hf
    rw [outcome_read] at hf
    cases hentry : c.entries key with
    | none =>
        rw [hentry] at hf
        cases hf
        exact Or.inl rfl
    | some text =>
        rw [hentry] at hf
        cases hf
  kind_of_set c key text expiration j f h := by
    exact kind_of_guarded (P := fun kind => kind = .internal) rfl (fun c f hf => by cases hf) h
  kind_of_delete c key j f h := by
    refine kind_of_guarded (P := fun kind => kind = .notFound ∨ kind = .internal) (Or.inr rfl) ?_ h
    intro c f hf
    rw [outcome_erase] at hf
    split at hf
    · cases hf
      exact Or.inl rfl
    · cases hf

end UnreliableCache

end QuestionBoard
