import QuestionBoard.Json.Writer
import QuestionBoard.Proofs.Text.Written

/-!
The texts in data: the data itself if it is text, and the keys and the texts of its parts. What goes over
the wire is characters if all texts in the data are.
-/

namespace QuestionBoard

namespace Json

variable {P : Text → Prop}

mutual

/-- Whether all texts in the data have a property, keys among them. -/
def AllTexts (P : Text → Prop) : Json → Prop
  | .text t => P t
  | .array items => AllItemTexts P items
  | .object entries => AllEntryTexts P entries
  | .null | .bool _ | .int _ | .float _ => True

def AllItemTexts (P : Text → Prop) : List Json → Prop
  | [] => True
  | item :: rest => item.AllTexts P ∧ AllItemTexts P rest

/-- Whether all texts in the entries have a property. -/
def AllEntryTexts (P : Text → Prop) : List (Text × Json) → Prop
  | [] => True
  | (key, value) :: rest => (P key ∧ value.AllTexts P) ∧ AllEntryTexts P rest

end

theorem allItemTexts_iff {items : List Json} : AllItemTexts P items ↔ ∀ item ∈ items, item.AllTexts P := by
  induction items with
  | nil => simp [AllItemTexts]
  | cons item rest ih => rw [AllItemTexts, ih, List.forall_mem_cons]

theorem allEntryTexts_iff {entries : List (Text × Json)} :
    AllEntryTexts P entries ↔ ∀ entry ∈ entries, P entry.1 ∧ entry.2.AllTexts P := by
  induction entries with
  | nil => simp [AllEntryTexts]
  | cons entry rest ih => rw [AllEntryTexts, ih, List.forall_mem_cons]

/-! ### Over the wire -/

theorem whole_openBody_iff {t : Text} : (openBody t).Whole ↔ t.Whole := by
  cases t <;> simp [openBody]

theorem whole_joined_iff {separator : String} {ts : List Text} :
    (Text.joined separator ts).Whole ↔ ∀ t ∈ ts, t.Whole := by
  induction ts with
  | nil => simp [Text.joined]
  | cons t rest ih =>
      cases rest with
      | nil => simp [Text.joined]
      | cons t' rest =>
          change (t ++ separator ++ Text.joined separator (t' :: rest)).Whole ↔ _
          rw [Text.whole_append, Text.whole_append, ih, List.forall_mem_cons]
          simp

mutual

theorem whole_openText_iff (data : Json) : data.openText.Whole ↔ data.AllTexts Text.Whole := by
  cases data with
  | text t => simp [openText, AllTexts, whole_openBody_iff]
  | array items => simp [openText, AllTexts, whole_joined_iff, whole_openItems_iff items]
  | object entries => simp [openText, AllTexts, whole_joined_iff, whole_openEntries_iff entries]
  | null | bool b | int n | float x => simp [openText, AllTexts]

theorem whole_openItems_iff (items : List Json) :
    (∀ t ∈ openItems items, t.Whole) ↔ AllItemTexts Text.Whole items := by
  cases items with
  | nil => simp [openItems, AllItemTexts]
  | cons item rest =>
      rw [openItems, AllItemTexts, List.forall_mem_cons, whole_openText_iff item, whole_openItems_iff rest]

theorem whole_openEntries_iff (entries : List (Text × Json)) :
    (∀ t ∈ openEntries entries, t.Whole) ↔ AllEntryTexts Text.Whole entries := by
  match entries with
  | [] => simp [openEntries, AllEntryTexts]
  | (key, value) :: rest =>
      rw [openEntries, AllEntryTexts, List.forall_mem_cons, whole_openEntries_iff rest]
      simp [whole_openBody_iff, whole_openText_iff value]

end

theorem anyUnboundedItem_eq_false {items : List Json} (h : ∀ item ∈ items, item.hasUnbounded = false) :
    anyUnboundedItem items = false := by
  induction items with
  | nil => rfl
  | cons item rest ih =>
      obtain ⟨hitem, hrest⟩ := List.forall_mem_cons.mp h
      rw [anyUnboundedItem, hitem, ih hrest, Bool.or_false]

/-- Data whose texts are all characters go over the wire, and no other data do. -/
theorem wire_cases {data : Json} (hnumbers : data.hasUnbounded = false) :
    (data.AllTexts Text.Whole ∧ ∃ s, data.wire = .ok s) ∨
      ¬data.AllTexts Text.Whole ∧ ∃ f, data.wire = .error f ∧ f.SaysUnencodable := by
  have hwire : data.wire = data.openText.written := by
    rw [wire, hnumbers]
    rfl
  rw [hwire, ← whole_openText_iff]
  by_cases hwhole : data.openText.Whole
  · obtain ⟨s, hs⟩ := hwhole
    exact Or.inl ⟨⟨s, hs⟩, s, Text.written_eq_ok_iff.mpr hs⟩
  · exact Or.inr ⟨hwhole, Text.exists_written_of_not_whole hwhole⟩

end Json

end QuestionBoard
