import QuestionBoard.Field.Reader

/-!
Readers that find a value. What is read from parts is valid exactly if each part is, and so is a field of
an object.
-/

namespace QuestionBoard

variable {α β : Type}

namespace Checked

theorem map_eq_valid_iff {f : α → β} {x : Checked α} {b : β} :
    f <$> x = .valid b ↔ ∃ a, x = .valid a ∧ f a = b := by
  cases x with
  | valid a =>
      refine ⟨fun h => ⟨a, rfl, valid.inj h⟩, fun ⟨a', ha, hb⟩ => ?_⟩
      rw [← hb, ← valid.inj ha]
      rfl
  | broken vs => exact ⟨fun h => (nomatch h), fun ⟨_, h, _⟩ => (nomatch h)⟩

theorem seq_eq_valid_iff {f : Checked (α → β)} {x : Checked α} {b : β} :
    f <*> x = .valid b ↔ ∃ g a, f = .valid g ∧ x = .valid a ∧ g a = b := by
  cases f with
  | broken vs => exact ⟨fun h => (by cases x <;> cases h), fun ⟨_, _, h, _⟩ => (nomatch h)⟩
  | valid g =>
      cases x with
      | broken vs => exact ⟨fun h => (nomatch h), fun ⟨_, _, _, h, _⟩ => (nomatch h)⟩
      | valid a =>
          refine ⟨fun h => ⟨g, a, rfl, rfl, valid.inj h⟩, fun ⟨g', a', hg, ha, hb⟩ => ?_⟩
          rw [← hb, ← valid.inj hg, ← valid.inj ha]
          rfl

theorem within_eq_valid_iff {step : Place} {x : Checked α} {a : α} :
    x.within step = .valid a ↔ x = .valid a := by
  cases x with
  | valid a' => exact Iff.rfl
  | broken vs => exact ⟨fun h => (nomatch h), fun h => (nomatch h)⟩

theorem andThen_eq_valid_iff {x : Checked α} {check : α → Checked β} {b : β} :
    x.andThen check = .valid b ↔ ∃ a, x = .valid a ∧ check a = .valid b := by
  cases x with
  | valid a =>
      refine ⟨fun h => ⟨a, rfl, h⟩, fun ⟨a', ha, hb⟩ => ?_⟩
      rwa [← valid.inj ha] at hb
  | broken vs => exact ⟨fun h => (nomatch h), fun ⟨_, h, _⟩ => (nomatch h)⟩

theorem toExcept_eq_ok_iff {x : Checked α} {failure : List Violation → Failure} {a : α} :
    x.toExcept failure = .ok a ↔ x = .valid a := by
  cases x with
  | valid a' => exact ⟨fun h => congrArg valid (Except.ok.inj h), fun h => congrArg Except.ok (valid.inj h)⟩
  | broken vs => exact ⟨fun h => (nomatch h), fun h => (nomatch h)⟩

end Checked

namespace Field

theorem intFrom_eq_valid_iff {bound n : Int} {data : Json} :
    intFrom bound data = .valid n ↔ int data = .valid n ∧ bound ≤ n := by
  rw [intFrom, Checked.andThen_eq_valid_iff]
  refine ⟨fun ⟨m, hint, hcheck⟩ => ?_, fun ⟨hint, hle⟩ => ⟨n, hint, if_pos hle⟩⟩
  split at hcheck
  · next hle =>
      cases hcheck
      exact ⟨hint, hle⟩
  · cases hcheck

theorem positiveFloat_eq_valid_iff {x : Binary64} {data : Json} :
    positiveFloat data = .valid x ↔ float data = .valid x ∧ x.isPositive = true := by
  rw [positiveFloat, Checked.andThen_eq_valid_iff]
  refine ⟨fun ⟨y, hfloat, hcheck⟩ => ?_, fun ⟨hfloat, hpositive⟩ => ⟨x, hfloat, if_pos hpositive⟩⟩
  split at hcheck
  · next hpositive =>
      cases hcheck
      exact ⟨hfloat, hpositive⟩
  · cases hcheck

/-- What may be null is null or is read. -/
theorem read_of_optional {read : Reader α} {data : Json} {value : α}
    (h : optional read data = .valid (some value)) : read data = .valid value := by
  unfold optional at h
  split at h
  · cases h
  · obtain ⟨value', hread, hvalue⟩ := Checked.map_eq_valid_iff.mp h
    rw [hread, Option.some.inj hvalue]

theorem ofKey_eq_valid_iff {key : String} {read : Reader α} {usual value : α} {data : Json} :
    ofKey key read usual data = .valid value ↔
      match data.get? key with
      | none => value = usual
      | some inner => read inner = .valid value := by
  unfold ofKey
  cases data.get? key with
  | none => exact ⟨fun h => (Checked.valid.inj h).symm, fun h => congrArg Checked.valid h.symm⟩
  | some inner => exact Checked.within_eq_valid_iff

/-- A field of an object is as its reader yields it, or as it usually is. -/
theorem ofKey_yields {P : α → Prop} {key : String} {read : Reader α} {usual value : α} {data : Json}
    (h : ofKey key read usual data = .valid value)
    (hread : ∀ inner value, read inner = .valid value → P value) (husual : P usual) : P value := by
  rw [ofKey_eq_valid_iff] at h
  split at h
  · rw [h]
    exact husual
  · exact hread _ value h

/-- A field that is there is read. -/
theorem ofKey_of_get? (key : String) {read : Reader α} {usual value : α} {data inner : Json}
    (hinner : data.get? key = some inner) (hread : read inner = .valid value) :
    ofKey key read usual data = .valid value := by
  rw [ofKey_eq_valid_iff, hinner]
  exact hread

theorem exists_object_of_sectionOf {kind : String} {read : Reader α} {data : Json} {value : α}
    (h : sectionOf kind read data = .valid value) : ∃ entries, data = .object entries ∧ read data = .valid value := by
  cases data with
  | object entries => exact ⟨entries, rfl, h⟩
  | _ => cases h

/-- What is read by its kind is read by the reader of that kind. -/
theorem exists_read_of_byTag {key : String} {cases : List (String × Reader α)} {data : Json} {value : α}
    (h : byTag key cases data = .valid value) :
    ∃ name read, cases.lookup name = some read ∧ read data = .valid value := by
  unfold byTag at h
  split at h
  · split at h
    · cases h
    · dsimp only at h
      split at h
      · next name _ =>
          cases hlookup : cases.lookup name with
          | none =>
              rw [hlookup] at h
              cases h
          | some read =>
              rw [hlookup] at h
              exact ⟨name, read, hlookup, Checked.within_eq_valid_iff.mp h⟩
      · cases h
  · cases h

/-- An object whose kind is known is read by the reader of that kind. -/
theorem byTag_of_lookup {key name : String} {cases : List (String × Reader α)} {read : Reader α} {value : α}
    {entries : List (Text × Json)} (hkind : (Json.object entries).get? key = some (.text name))
    (hlookup : cases.lookup name = some read) (hread : read (.object entries) = .valid value) :
    byTag key cases (.object entries) = .valid value := by
  unfold byTag
  simp only [hkind, hlookup]
  exact Checked.within_eq_valid_iff.mpr hread

end Field

end QuestionBoard
