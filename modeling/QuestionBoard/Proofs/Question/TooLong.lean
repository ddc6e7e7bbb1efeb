import QuestionBoard.Proofs.OrderedMap
import QuestionBoard.Proofs.Question.Key
import QuestionBoard.Question.Selection

/-!
Numbers with too many digits. Where a number is read, a text that is none is refused as malformed, and so
is a key out of range; but digits beyond the number of digits that are read make a failure of another
kind, `Failure.integerTooLong`, before anything is asked of their value.
-/

namespace QuestionBoard

/-- Whether a failure says that data are malformed, and says so in characters. -/
def Failure.SaysMalformed (f : Failure) : Prop := ∃ (reason : String) (value : Json), f = .parse reason value

/-- Whether a text is digits, more of them than are read. -/
def TooManyDigits (cs : List Char) : Prop :=
  (∀ c ∈ cs, (asciiDigit? c).isSome) ∧ maxIntegerDigits < cs.length

variable {cs : List Char}

theorem readDigits?_of_tooManyDigits (h : TooManyDigits cs) :
    readDigits? cs = some (.error (.integerTooLong cs.length)) := by
  have hlength : (cs.filterMap asciiDigit?).length = cs.length :=
    List.filterMap_length_eq_length.mpr h.1
  have hne : cs.isEmpty = false := by
    cases cs with
    | nil => exact absurd h.2 (by decide)
    | cons c cs => rfl
  unfold readDigits?
  simp [hlength, hne, h.2]

theorem exists_readDigits? (h : ¬TooManyDigits cs) :
    readDigits? cs = none ∨ ∃ n, readDigits? cs = some (.ok n) := by
  unfold readDigits?
  by_cases hdigits : (cs.isEmpty || decide ((cs.filterMap asciiDigit?).length ≠ cs.length)) = true
  · exact Or.inl (if_pos hdigits)
  · right
    have hlength : (cs.filterMap asciiDigit?).length = cs.length := by
      simp only [Bool.or_eq_true, not_or, decide_eq_true_eq, ne_eq, Decidable.not_not] at hdigits
      exact hdigits.2
    have hle : ¬maxIntegerDigits < (cs.filterMap asciiDigit?).length := by
      rw [hlength]
      exact fun hlt => h ⟨List.filterMap_length_eq_length.mp hlength, hlt⟩
    exact ⟨_, (if_neg hdigits).trans (if_neg hle)⟩

/-! ### Keys -/

/-- Whether an identifier has more digits, after its sign, than are read. -/
def QuestionId.TooLong (id : QuestionId) : Prop := TooManyDigits (signed id.text.chars).2

variable {id : QuestionId} {f : Failure}

theorem QuestionId.toKey_of_tooLong (h : id.TooLong) :
    id.toKey = .error (.integerTooLong (signed id.text.chars).2.length) := by
  unfold toKey
  simp only [readDigits?_of_tooManyDigits h]
  rfl

/-- An identifier that does not read as a key is malformed, or too long. -/
theorem QuestionId.malformed_of_toKey (h : ¬id.TooLong) (hkey : id.toKey = .error f) : f.SaysMalformed := by
  unfold toKey at hkey
  rcases exists_readDigits? h with hread | ⟨n, hread⟩
  · simp only [hread] at hkey
    cases hkey
    exact ⟨_, _, rfl⟩
  · simp only [hread] at hkey
    change (if InBounds (if (signed id.text.chars).1 then -(n : Int) else n) then _ else _) = _ at hkey
    by_cases hbounds : InBounds (if (signed id.text.chars).1 then -(n : Int) else n)
    · rw [if_pos hbounds] at hkey
      cases hkey
    · rw [if_neg hbounds] at hkey
      cases hkey
      exact ⟨_, _, rfl⟩

theorem QuestionId.malformed_of_ofText {text : Text} (h : ofText text = .error f) : f.SaysMalformed := by
  unfold ofText at h
  split at h
  · cases h
    exact ⟨_, _, rfl⟩
  · cases h

theorem QuestionId.malformed_of_of {data : Json} (h : of data = .error f) : f.SaysMalformed := by
  cases data with
  | text s | int n | bool b => exact malformed_of_ofText h
  | null | float x | array items | object entries =>
      cases h
      exact ⟨_, _, rfl⟩

/-! ### Windows -/

namespace Window

/-- The text without a plus sign at its start. -/
def unsigned : List Char → List Char
  | '+' :: rest => rest
  | cs => cs

/-- Whether parameters give a bound that has more digits than are read. -/
def BoundTooLong (name : String) (parameters : Json) : Prop :=
  ∃ t, present name parameters = some (.text t) ∧ TooManyDigits (unsigned t.chars)

/-- Whether parameters give a bound that can be read, or none. -/
def BoundReads (name : String) (parameters : Json) : Prop :=
  ∀ raw, present name parameters = some raw → ∃ n, readBound name raw = .ok n

/-- Whether the first bound that cannot be read has more digits than are read. -/
def TooLong (parameters : Json) : Prop :=
  BoundTooLong "start" parameters ∨ BoundReads "start" parameters ∧ BoundTooLong "end" parameters

variable {name : String} {parameters : Json}

theorem readBound_text (name : String) (t : Text) : readBound name (.text t) =
    match readDigits? (unsigned t.chars) with
    | none => .error (.parse (name ++ " must be an unsigned integer, got " ++
        (Json.text t).quotedDisplay) (.text t))
    | some read => read := rfl

def bound (name : String) (usual : Nat) (parameters : Json) : Except Failure Nat :=
  match present name parameters with
  | none => pure usual
  | some raw => readBound name raw

theorem ofParameters_eq (parameters : Json) : ofParameters parameters = (do
    return { start := ← bound "start" 0 parameters, stop := ← bound "end" 10 parameters }) := rfl

variable {usual : Nat}

theorem bound_of_tooLong (usual : Nat) (h : BoundTooLong name parameters) :
    ∃ n, bound name usual parameters = .error (.integerTooLong n) := by
  obtain ⟨t, hraw, hlong⟩ := h
  refine ⟨(unsigned t.chars).length, ?_⟩
  rw [bound, hraw]
  simp only
  rw [readBound_text, readDigits?_of_tooManyDigits hlong]

theorem bound_of_reads (usual : Nat) (h : BoundReads name parameters) :
    ∃ n, bound name usual parameters = .ok n := by
  unfold bound
  cases hraw : present name parameters with
  | none => exact ⟨usual, rfl⟩
  | some raw => exact h raw hraw

theorem boundReads_of_eq_ok {n : Nat} (h : bound name usual parameters = .ok n) :
    BoundReads name parameters := by
  intro raw hraw
  rw [bound, hraw] at h
  exact ⟨n, h⟩

/-- A bound that is given as a text and cannot be read is malformed, or too long. -/
theorem malformed_of_bound (htexts : ∀ raw, present name parameters = some raw → ∃ t, raw = .text t)
    (hnot : ¬BoundTooLong name parameters) (h : bound name usual parameters = .error f) :
    f.SaysMalformed := by
  unfold bound at h
  cases hraw : present name parameters with
  | none =>
      rw [hraw] at h
      cases h
  | some raw =>
      obtain ⟨t, rfl⟩ := htexts raw hraw
      have hdigits : ¬TooManyDigits (unsigned t.chars) := fun hlong => hnot ⟨t, hraw, hlong⟩
      rw [hraw] at h
      simp only at h
      rw [readBound_text] at h
      rcases exists_readDigits? hdigits with hread | ⟨n, hread⟩
      · rw [hread] at h
        cases h
        exact ⟨_, _, rfl⟩
      · rw [hread] at h
        cases h

theorem ofParameters_of_tooLong (h : TooLong parameters) :
    ∃ n, ofParameters parameters = .error (.integerTooLong n) := by
  rw [ofParameters_eq]
  rcases h with hstart | ⟨hstart, hend⟩
  · obtain ⟨n, herror⟩ := bound_of_tooLong 0 hstart
    exact ⟨n, by rw [herror]; rfl⟩
  · obtain ⟨start, hok⟩ := bound_of_reads 0 hstart
    obtain ⟨n, herror⟩ := bound_of_tooLong 10 hend
    exact ⟨n, by rw [hok, herror]; rfl⟩

theorem malformed_of_ofParameters
    (htexts : ∀ name raw, present name parameters = some raw → ∃ t, raw = .text t)
    (hnot : ¬TooLong parameters) (h : ofParameters parameters = .error f) : f.SaysMalformed := by
  rw [ofParameters_eq] at h
  cases hstart : bound "start" 0 parameters with
  | error f' =>
      rw [hstart] at h
      cases h
      exact malformed_of_bound (htexts "start") (fun hlong => hnot (Or.inl hlong)) hstart
  | ok start =>
      have hreads := boundReads_of_eq_ok hstart
      cases hend : bound "end" 10 parameters with
      | error f' =>
          rw [hstart, hend] at h
          cases h
          exact malformed_of_bound (htexts "end") (fun hlong => hnot (Or.inr ⟨hreads, hlong⟩)) hend
      | ok stop =>
          rw [hstart, hend] at h
          cases h

end Window

/-! ### Selections -/

namespace Selection

variable {parameters : Json}

def Texts (parameters : Json) : Prop :=
  ∀ name : String, ∀ raw, parameters.get? name = some raw → ∃ t, raw = .text t

theorem texts_ofEntries {entries : List (Text × Json)} (h : ∀ entry ∈ entries, ∃ t, entry.2 = .text t) :
    Texts (Json.ofEntries entries) := by
  intro name raw hraw
  obtain ⟨before, after, hobject, -⟩ := List.lookup_eq_some_iff.mp hraw
  have hmem : (Text.plain name, raw) ∈ entries.foldl (fun object entry => insertEntry entry.1 entry.2 object) [] := by
    rw [hobject]
    simp
  exact h (name, raw) ((mem_foldl_insertEntry hmem).resolve_right List.not_mem_nil)

theorem Texts.present (h : Texts parameters) :
    ∀ name raw, Window.present name parameters = some raw → ∃ t, raw = .text t := by
  intro name raw hraw
  unfold Window.present at hraw
  split at hraw
  · cases hraw
  · exact h name raw hraw

/-- The wish for an order is always understood. -/
theorem Texts.exists_sortOfData (h : Texts parameters) :
    ∃ sort, sortOfData ((parameters.get? "sort").getD .null) = .ok sort := by
  unfold sortOfData
  cases hraw : parameters.get? "sort" with
  | none => exact ⟨.null, rfl⟩
  | some raw =>
      obtain ⟨t, rfl⟩ := h "sort" raw hraw
      rw [Option.getD_some]
      split
      · exact ⟨.null, rfl⟩
      · exact ⟨_, rfl⟩

theorem ofParameters_of_tooLong (h : Window.TooLong parameters) :
    ∃ n, ofParameters parameters = .error (.integerTooLong n) := by
  obtain ⟨n, herror⟩ := Window.ofParameters_of_tooLong h
  refine ⟨n, ?_⟩
  unfold ofParameters
  rw [herror]
  rfl

theorem malformed_of_ofParameters {f : Failure} (htexts : Texts parameters)
    (hnot : ¬Window.TooLong parameters) (h : ofParameters parameters = .error f) : f.SaysMalformed := by
  obtain ⟨sort, hsort⟩ := htexts.exists_sortOfData
  unfold ofParameters at h
  cases hwindow : Window.ofParameters parameters with
  | error f' =>
      rw [hwindow] at h
      cases h
      exact Window.malformed_of_ofParameters htexts.present hnot hwindow
  | ok window =>
      rw [hwindow, hsort] at h
      cases h

end Selection

end QuestionBoard
