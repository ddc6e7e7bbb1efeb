import QuestionBoard.Proofs.Question.Database
import QuestionBoard.Proofs.Question.Store

/-!
The two stores of questions behave alike. They do the same operations side by side, the store in
memory being told the identifiers that the relational one chose; every operation then comes to the
same on both, as long as its texts come back from a row as they are. What carries this is that the rows
stand in the order of their keys: a new key is greater than those of all rows that are left, so the
order of insertion is the order of the keys also when the greatest key was freed and is given again.
-/

namespace QuestionBoard

open QuestionBoard.Action

/-! ### Operations -/

inductive Operation
  | add (id : QuestionId) (draft : QuestionDraft)
  | replace (key : Int) (draft : QuestionDraft)
  | remove (key : Int)
  | find (key : Int)
  | list (selection : Selection)

namespace Operation

inductive Reply
  | question (q : Question)
  | done
  | questions (qs : List Question)

/-- Does an operation; a key stands for the identifier that shows it. -/
def run {σ : Type} [QuestionRepository σ] : Operation → Action σ Reply
  | .add id draft => do return .question (← QuestionRepository.add (draft.question id))
  | .replace key draft => do
    return .question (← QuestionRepository.update (draft.question (.ofKey key)))
  | .remove key => do
    QuestionRepository.delete (.ofKey key)
    return .done
  | .find key => do return .question (← QuestionRepository.get (.ofKey key))
  | .list selection => do return .questions (← QuestionRepository.list selection)

/-- Whether the key that is asked for is one that identifiers are read as. -/
def InBounds : Operation → Prop
  | .replace key _ | .remove key | .find key => QuestionId.InBounds key
  | .add _ _ | .list _ => True

instance : DecidablePred InBounds
  | .replace key _ | .remove key | .find key => inferInstanceAs (Decidable (QuestionId.InBounds key))
  | .add _ _ | .list _ => inferInstanceAs (Decidable True)

/-- Whether the texts of an operation come back from a row as they are: the content is all characters, as
the title of a draft always is, and no two halves in a tag make a character. -/
def Storable : Operation → Prop
  | .add _ draft | .replace _ draft => draft.content.Whole ∧
      ∀ tags, draft.tags = some tags → ∀ tag ∈ tags, tag.Separated
  | .remove _ | .find _ | .list _ => True

def isAdd : Operation → Bool
  | .add _ _ => true
  | _ => false

/-- The operation that follows one that came to a result elsewhere: a question is added under the
identifier that it got there. -/
def following (op : Operation) (result : Except Failure Reply) : Operation :=
  match op, result with
  | .add _ draft, .ok (.question q) => .add q.id draft
  | op, _ => op

/-- What operations come to one after another on a database and on a store that follows it. -/
def sideBySide : List Operation → QuestionDatabase → QuestionStore → Journal → Journal →
    List (Outcome QuestionDatabase Reply × Outcome QuestionStore Reply)
  | [], _, _, _, _ => []
  | op :: rest, d, s, j, j' =>
      let o := op.run.outcome d j
      let o' := (op.following o.result).run.outcome s j'
      (o, o') :: sideBySide rest o.state o'.state o.journal o'.journal

end Operation

/-! ### What the stores have in common -/

/-- The store holds the questions of the table, in the order of their keys; `added` questions were
added so far. -/
structure Simulates (added : Nat) (t : QuestionTable) (s : QuestionStore) : Prop where
  ordered : t.records.Pairwise fun r r' => r.key < r'.key
  length_le : t.records.length ≤ added
  entries : s.questions.entries = t.records.map fun r => (QuestionId.ofKey r.key, r.toQuestion)

namespace Simulates

variable {added : Nat} {t : QuestionTable} {s : QuestionStore} {key : Int} {draft : QuestionDraft}

theorem empty : Simulates 0 {} {} := ⟨.nil, Nat.le_refl 0, rfl⟩

theorem values (h : Simulates added t s) :
    s.questions.values = t.records.map QuestionRecord.toQuestion := by
  rw [OrderedMap.values, h.entries, List.map_map]
  rfl

theorem keys (h : Simulates added t s) : s.questions.keys = t.keys.map QuestionId.ofKey := by
  rw [OrderedMap.keys, h.entries, QuestionTable.keys, List.map_map, List.map_map]
  rfl

theorem get?_ofKey (h : Simulates added t s) :
    s.questions.get? (.ofKey key) = (t.find? key).map QuestionRecord.toQuestion := by
  have hkey : (fun r : QuestionRecord => decide (QuestionId.ofKey r.key = QuestionId.ofKey key)) =
      fun r => r.key == key := by
    funext r
    simp [beq_eq_decide]
  rw [OrderedMap.get?, h.entries, List.find?_map, Option.map_map]
  simp only [Function.comp_def, hkey]
  rfl

theorem contains_ofKey (h : Simulates added t s) :
    s.questions.contains (.ofKey key) = (t.find? key).isSome := by
  rw [OrderedMap.contains, h.get?_ofKey, Option.isSome_map]

theorem insert (h : Simulates added t s) (hpaired : draft.paired = draft) :
    Simulates (added + 1) { records := t.records ++ [draft.row t.nextKey] }
      (s.put (draft.question (.ofKey t.nextKey))) where
  ordered := by
    rw [List.pairwise_append]
    refine ⟨h.ordered, List.pairwise_singleton _ _, ?_⟩
    intro r hr r' hr'
    rw [List.mem_singleton.mp hr']
    exact QuestionTable.lt_nextKey (QuestionTable.mem_keys hr)
  length_le := by
    rw [List.length_append]
    exact Nat.add_le_add_right h.length_le 1
  entries := by
    have hnew : QuestionId.ofKey t.nextKey ∉ s.questions.keys := by
      rw [h.keys, List.mem_map_of_injective fun _ _ => QuestionId.ofKey_injective]
      exact QuestionTable.nextKey_not_mem
    change insertEntry (QuestionId.ofKey t.nextKey) _ s.questions.entries = _
    rw [insertEntry_of_not_mem _ _ hnew, h.entries, List.map_append, List.map_singleton,
      draft.toQuestion_row, hpaired]
    rfl

theorem replace (h : Simulates added t s) (hpaired : draft.paired = draft) (hkey : (t.find? key).isSome) :
    Simulates added (t.replace (draft.row key)) (s.put (draft.question (.ofKey key))) where
  ordered := by
    have hkeys := QuestionTable.keys_replace (t := t) (draft.row key)
    have hordered : t.keys.Pairwise (· < ·) := List.pairwise_map.mpr h.ordered
    rw [← hkeys] at hordered
    exact List.pairwise_map.mp hordered
  length_le := by
    rw [QuestionTable.replace, List.length_map]
    exact h.length_le
  entries := by
    have hmem : QuestionId.ofKey key ∈ s.questions.keys := by
      rw [← OrderedMap.contains_iff_mem, h.contains_ofKey]
      exact hkey
    change insertEntry (QuestionId.ofKey key) _ s.questions.entries = _
    rw [insertEntry_of_mem _ _ s.questions.nodup hmem, h.entries, QuestionTable.replace, List.map_map,
      List.map_map]
    refine List.map_congr_left fun r _ => ?_
    have hrow : (draft.row key).key = key := rfl
    simp only [Function.comp_apply, QuestionId.ofKey_inj, hrow]
    by_cases hr : r.key = key
    · rw [if_pos hr, if_pos hr, draft.toQuestion_row, hpaired]
      rfl
    · rw [if_neg hr, if_neg hr]

theorem delete (h : Simulates added t s) (key : Int) :
    Simulates added (t.delete key) ⟨s.questions.erase (.ofKey key)⟩ where
  ordered := h.ordered.filter _
  length_le := Nat.le_trans (List.length_filter_le _ _) h.length_le
  entries := by
    change s.questions.entries.filter _ = _
    rw [h.entries, List.filter_map, QuestionTable.delete]
    simp only [Function.comp_def, ne_eq, QuestionId.ofKey_inj]

/-- The rows at the positions of a window are the questions there, whatever the bounds are. -/
theorem window (h : Simulates added t s) (hadded : added < Nat.pow 2 31) (w : Window) :
    (if w.isEmpty || QuestionTable.maxInteger.toNat < w.start then []
      else (t.slice w.start (min w.limit QuestionTable.maxInteger.toNat)).map QuestionRecord.toQuestion) =
      if w.isEmpty then [] else w.of s.questions.values := by
  have hlength : t.records.length ≤ QuestionTable.maxInteger.toNat :=
    Nat.le_trans (Nat.le_of_lt (Nat.lt_of_le_of_lt h.length_le hadded)) (by decide)
  have hslice := congrArg (List.map QuestionRecord.toQuestion) (QuestionTable.slice_clamped hlength w)
  rw [QuestionTable.sorted_eq h.ordered, Window.of, List.map_take, List.map_drop, ← h.values,
    apply_ite (List.map QuestionRecord.toQuestion), List.map_nil] at hslice
  rw [hslice, Window.of]
  by_cases hempty : w.isEmpty = true
  · have hlimit : w.limit = 0 := Nat.sub_eq_zero_of_le (by simpa [Window.isEmpty] using hempty)
    rw [if_pos hempty, hlimit, List.take_zero]
  · rw [if_neg hempty]

/-! ### Side by side -/

/-- One operation comes to the same on both stores, which go on holding the same questions. -/
theorem step {d : QuestionDatabase} (h : Simulates added t s) (hd : d.Serves t) (op : Operation)
    (hop : op.InBounds) (htexts : op.Storable) (hadded : added < Nat.pow 2 31) (j j' : Journal) :
    (op.run.outcome d j).result = ((op.following (op.run.outcome d j).result).run.outcome s j').result ∧
      ∃ t', (op.run.outcome d j).state.Serves t' ∧ Simulates (added + if op.isAdd then 1 else 0) t'
        ((op.following (op.run.outcome d j).result).run.outcome s j').state := by
  cases op with
  | add id draft =>
      obtain ⟨hwhole, hseparated⟩ := htexts
      have hpaired := QuestionDraft.paired_eq_self hseparated
      have hadd : (Operation.add id draft).run.outcome d j =
          ⟨.ok (.question (draft.question (.ofKey t.nextKey))),
            d.opened { records := t.records ++ [draft.row t.nextKey] }, j⟩ := by
        rw [Operation.run, outcome_bind, QuestionDatabase.outcome_add j hd hwhole, hpaired]
        rfl
      rw [hadd, Operation.following, Operation.run, outcome_bind, QuestionStore.outcome_add]
      exact ⟨rfl, _, hd.opened _, h.insert hpaired⟩
  | replace key draft =>
      obtain ⟨hwhole, hseparated⟩ := htexts
      have hpaired := QuestionDraft.paired_eq_self hseparated
      simp only [Operation.following, Operation.run, outcome_bind]
      rw [QuestionDatabase.outcome_update j hd hwhole (QuestionId.toKey_ofKey hop),
        QuestionStore.outcome_update, QuestionDraft.question_id, h.contains_ofKey]
      by_cases hkey : (t.find? key).isSome = true
      · rw [if_pos hkey, if_pos hkey, hpaired]
        exact ⟨rfl, _, hd.opened _, h.replace hpaired hkey⟩
      · rw [if_neg hkey, if_neg hkey]
        exact ⟨rfl, _, hd.opened _, h⟩
  | remove key =>
      simp only [Operation.following, Operation.run, outcome_bind]
      rw [QuestionDatabase.outcome_delete j hd (QuestionId.toKey_ofKey hop),
        QuestionStore.outcome_delete, h.contains_ofKey]
      by_cases hkey : (t.find? key).isSome = true
      · rw [if_pos hkey, if_pos hkey]
        exact ⟨rfl, _, hd.opened _, h.delete key⟩
      · rw [if_neg hkey, if_neg hkey, QuestionTable.delete_of_find?_eq_none (by simpa using hkey)]
        exact ⟨rfl, _, hd.opened _, h⟩
  | find key =>
      simp only [Operation.following, Operation.run, outcome_bind]
      rw [QuestionDatabase.outcome_find j hd (QuestionId.toKey_ofKey hop),
        QuestionStore.outcome_find, h.get?_ofKey]
      cases t.find? key <;> exact ⟨rfl, _, hd.opened _, h⟩
  | list selection =>
      simp only [Operation.following, Operation.run, outcome_bind]
      rw [QuestionDatabase.outcome_list j hd, QuestionStore.outcome_list,
        ← h.window hadded]
      by_cases hwindow : (selection.window.isEmpty ||
          QuestionTable.maxInteger.toNat < selection.window.start) = true
      · rw [if_pos hwindow, if_pos hwindow]
        exact ⟨rfl, _, hd, h⟩
      · rw [if_neg hwindow, if_neg hwindow]
        exact ⟨rfl, _, hd.opened _, h⟩

/-- Along a run the results agree, and the stores hold the same questions after every operation. -/
theorem sideBySide {d : QuestionDatabase} (h : Simulates added t s) (hd : d.Serves t)
    (ops : List Operation) (hops : ∀ op ∈ ops, op.InBounds) (htexts : ∀ op ∈ ops, op.Storable)
    (hadds : added + ops.countP Operation.isAdd < Nat.pow 2 31) (j j' : Journal) :
    ∀ o ∈ Operation.sideBySide ops d s j j', o.1.result = o.2.result ∧
      ∃ added' t', added' < Nat.pow 2 31 ∧ o.1.state.Serves t' ∧ Simulates added' t' o.2.state := by
  induction ops generalizing added t s d j j' with
  | nil =>
      intro o ho
      cases ho
  | cons op rest ih =>
      rw [List.countP_cons] at hadds
      obtain ⟨hresult, t', hserves, hsimulates⟩ :=
        h.step hd op (hops op List.mem_cons_self) (htexts op List.mem_cons_self) (by omega) j j'
      intro o ho
      rcases List.mem_cons.mp ho with rfl | hrest
      · exact ⟨hresult, added + if op.isAdd then 1 else 0, t', by omega, hserves, hsimulates⟩
      · exact ih hsimulates hserves (fun op hop => hops op (List.mem_cons_of_mem _ hop))
          (fun op hop => htexts op (List.mem_cons_of_mem _ hop)) (by omega) _ _ o hrest

/-- Every listing comes to the same on both stores. -/
theorem list_eq {d : QuestionDatabase} (h : Simulates added t s) (hd : d.Serves t)
    (hadded : added < Nat.pow 2 31) (selection : Selection) (j j' : Journal) :
    (outcome (QuestionRepository.list selection) d j).result =
      (outcome (QuestionRepository.list selection) s j').result := by
  rw [QuestionDatabase.outcome_list j hd, QuestionStore.outcome_list, ← h.window hadded]
  split <;> rfl

end Simulates

/-- Both stores start empty and do the same operations, whose texts come back from a row as they are. Then
each operation comes to the same on both, and after each of them they list the same questions, in the same
order. -/
theorem results_eq_sideBySide (ops : List Operation) (hops : ∀ op ∈ ops, op.InBounds)
    (htexts : ∀ op ∈ ops, op.Storable) (hadds : ops.countP Operation.isAdd < Nat.pow 2 31) (j j' : Journal) :
    ∀ o ∈ Operation.sideBySide ops {} {} j j', o.1.result = o.2.result ∧
      (o.1.state.table.getD {}).sorted.map QuestionRecord.toQuestion = o.2.state.questions.values ∧
      ∀ selection k k', (outcome (QuestionRepository.list selection) o.1.state k).result =
        (outcome (QuestionRepository.list selection) o.2.state k').result := by
  intro o ho
  have hserves : QuestionDatabase.Serves {} {} := ⟨rfl, rfl⟩
  obtain ⟨hresult, added, t, hadded, hd, h⟩ :=
    Simulates.empty.sideBySide hserves ops hops htexts (by omega) j j' o ho
  refine ⟨hresult, ?_, fun selection k k' => h.list_eq hd hadded selection k k'⟩
  rw [hd.table, Option.getD_some, QuestionTable.sorted_eq h.ordered, h.values]

def tagged (content tag : Text) : QuestionDraft :=
  { id := none, title := "Title", content, tags := some [tag] }

/-- The greatest key is freed and given again, and a question that is not there is asked for. -/
def keyReuse : List Operation :=
  [.add (.ofKey 7) (tagged "first" "tag"), .add (.ofKey 7) (tagged "second" "tag"), .remove 2,
    .add (.ofKey 1) (tagged "third" "tag"), .replace 1 (tagged "first again" "tag"), .find (-3),
    .list { window := { start := 1, stop := 9 } }]

theorem results_eq_keyReuse : (∀ op ∈ keyReuse, op.InBounds) ∧ (∀ op ∈ keyReuse, op.Storable) ∧
    keyReuse.countP Operation.isAdd < Nat.pow 2 31 ∧
    (Operation.sideBySide keyReuse {} {} .verbose .verbose).map
      (fun o => o.2.state.ids.map (·.text)) =
        ([["1"], ["1", "2"], ["1"], ["1", "2"], ["1", "2"], ["1", "2"], ["1", "2"]] : List (List Text)) ∧
    ∀ o ∈ Operation.sideBySide keyReuse {} {} .verbose .verbose, o.1.result = o.2.result := by
  have hops : ∀ op ∈ keyReuse, op.InBounds := by decide
  have hstorable : ∀ content tag : String, (tagged content tag).content.Whole ∧
      ∀ tags, (tagged content tag).tags = some tags → ∀ t ∈ tags, t.Separated := by
    refine fun content tag => ⟨Text.whole_plain content, ?_⟩
    rintro _ ⟨⟩ t ht
    rw [List.mem_singleton.mp ht]
    exact Text.separated_plain tag
  have htexts : ∀ op ∈ keyReuse, op.Storable := by
    simp only [keyReuse, List.forall_mem_cons, Operation.Storable]
    exact ⟨hstorable _ _, hstorable _ _, trivial, hstorable _ _, hstorable _ _, trivial, trivial, by simp⟩
  have hadds : keyReuse.countP Operation.isAdd < Nat.pow 2 31 := by decide
  refine ⟨hops, htexts, hadds, by decide +kernel, fun o ho => ?_⟩
  exact (results_eq_sideBySide keyReuse hops htexts hadds .verbose .verbose o ho).1

def loneHalf : Half := ⟨0⟩

/-- A question is added whose content is half of a pair. -/
def loneAddition : Operation := .add (.ofKey 1) (tagged (.broken "" loneHalf "") "tag")

/-- The store in memory has such a question, and the relational one fails without saying so in its own
terms. -/
theorem results_ne_loneAddition : loneAddition.InBounds ∧
    (∃ f, (loneAddition.run.outcome ({} : QuestionDatabase) .verbose).result = .error f ∧ f.SaysUnencodable) ∧
    ∃ o ∈ Operation.sideBySide [loneAddition] {} {} .verbose .verbose, o.1.result ≠ o.2.result := by
  have hwhole : ¬(tagged (.broken "" loneHalf "") "tag").content.Whole := Text.not_whole_broken _ _ _
  obtain ⟨f, hf, hadd⟩ :=
    QuestionDatabase.exists_outcome_add_of_not_whole (d := {}) (t := {}) .verbose ⟨rfl, rfl⟩ hwhole (.ofKey 1)
  refine ⟨trivial, ⟨f, ?_, hf⟩, _, List.mem_singleton_self _, fun h => ?_⟩
  · rw [loneAddition, Operation.run, outcome_bind, hadd]
    rfl
  · have hdiffer : (Operation.sideBySide [loneAddition] {} {} .verbose .verbose).map
        (fun o => (o.1.result.isOk, o.2.result.isOk)) = [(false, true)] := by decide +kernel
    have hok := congrArg Except.isOk h
    obtain ⟨hfails, hsucceeds⟩ := Prod.mk.inj (List.cons.inj hdiffer).1
    rw [hfails, hsucceeds] at hok
    cases hok

end QuestionBoard
