import Mathlib.Algebra.Order.Ring.Int
import QuestionBoard.Proofs.Question.Database

/-!
Pages of a table. A listing gives the rows at the positions of its window, in the order of their keys,
whatever the bounds of the window are: that a statement carries no number of more than 64 bits shows
nowhere. So windows that meet give pages that meet.
-/

namespace QuestionBoard

open QuestionBoard.Action

namespace Window

variable {α : Type} (w : Window) (items : List α)

/-- The items of a list whose positions are in the window. -/
def elements : List α := (items.zipIdx.filter fun p => w.start ≤ p.2 ∧ p.2 < w.stop).map Prod.fst

variable {items}

theorem filter_zipIdx (first last : Nat) (items : List α) (k : Nat) :
    ((items.zipIdx k).filter fun p => first ≤ p.2 ∧ p.2 < last).map Prod.fst =
      (items.drop (first - k)).take (last - max first k) := by
  induction items generalizing k with
  | nil => simp
  | cons x rest ih =>
      rw [List.zipIdx_cons, List.filter_cons]
      by_cases hfirst : first ≤ k
      · have hskip : first - k = 0 := by omega
        have hskip' : first - (k + 1) = 0 := by omega
        by_cases hlast : k < last
        · have htake : last - max first k = last - max first (k + 1) + 1 := by omega
          rw [if_pos (by simp [hfirst, hlast]), List.map_cons, ih, hskip, hskip', htake, List.drop_zero,
            List.drop_zero, List.take_succ_cons]
        · have htake : last - max first k = 0 := by omega
          have htake' : last - max first (k + 1) = 0 := by omega
          rw [if_neg (by simp [hlast]), ih, htake, htake', List.take_zero, List.take_zero]
      · have hskip : first - k = first - (k + 1) + 1 := by omega
        have htake : max first k = max first (k + 1) := by omega
        rw [if_neg (by simp [hfirst]), ih, hskip, htake, List.drop_succ_cons]

theorem elements_eq_of : w.elements items = w.of items := by
  rw [elements, filter_zipIdx, Window.of, Window.limit, Nat.max_zero, Nat.sub_zero]

/-- Windows that meet give what the window over both gives. -/
theorem elements_append {a b c : Nat} (hab : a ≤ b) (hbc : b ≤ c) (items : List α) :
    elements ⟨a, b⟩ items ++ elements ⟨b, c⟩ items = elements ⟨a, c⟩ items := by
  have hdrop : items.drop b = (items.drop a).drop (b - a) := by
    rw [List.drop_drop]
    congr 1
    omega
  have hwhole : c - a = (b - a) + (c - b) := by omega
  calc elements ⟨a, b⟩ items ++ elements ⟨b, c⟩ items
      = (items.drop a).take (b - a) ++ (items.drop b).take (c - b) := by
        rw [elements_eq_of, elements_eq_of]
        rfl
    _ = (items.drop a).take (b - a) ++ ((items.drop a).drop (b - a)).take (c - b) := by rw [hdrop]
    _ = (items.drop a).take (c - a) := by rw [hwhole, List.take_add]
    _ = elements ⟨a, c⟩ items := by
        rw [elements_eq_of]
        rfl

end Window

namespace QuestionTable

variable {t : QuestionTable}

theorem sorted_perm (t : QuestionTable) : t.sorted.Perm t.records := List.mergeSort_perm _ _

/-- The rows stand in the order of their keys once they are sorted, if no two have one key. -/
theorem pairwise_sorted (h : t.keys.Nodup) : t.sorted.Pairwise fun r r' => r.key < r'.key := by
  have hle : t.sorted.Pairwise fun r r' => decide (r.key ≤ r'.key) = true := by
    apply List.pairwise_mergeSort
    · intro r r' r'' hrr' hr'r''
      simp only [decide_eq_true_eq] at hrr' hr'r'' ⊢
      omega
    · intro r r'
      simp only [Bool.or_eq_true, decide_eq_true_eq]
      omega
  have hne : t.sorted.Pairwise fun r r' => r.key ≠ r'.key := by
    have hnodup : (t.sorted.map (·.key)).Nodup := ((t.sorted_perm.map _).nodup_iff).mpr h
    exact List.pairwise_map.mp hnodup
  refine (hle.and hne).imp ?_
  rintro r r' ⟨hle, hne⟩
  rw [decide_eq_true_eq] at hle
  omega

end QuestionTable

namespace QuestionDatabase

variable {d : QuestionDatabase} {t : QuestionTable}

theorem outcome_list_eq (h : d.Serves t) (hlength : t.records.length < 2 ^ 63) (selection : Selection)
    (j : Journal) : ∃ d', d'.Serves t ∧ outcome (QuestionRepository.list selection) d j =
      ⟨.ok ((selection.window.elements t.sorted).map QuestionRecord.toQuestion), d', j⟩ := by
  have hmax : QuestionTable.maxInteger.toNat = 2 ^ 63 - 1 := by decide
  have hslice := QuestionTable.slice_clamped (t := t) (by omega) selection.window
  rw [outcome_list j h, Window.elements_eq_of, ← hslice]
  split
  · exact ⟨d, h, rfl⟩
  · exact ⟨d.opened t, h.opened t, rfl⟩

/-- The rows of a table, sorted by key, are what its pages are cut from. A listing gives exactly the rows
at the positions from the start of its window up to its end, for any bounds, and leaves the table as it
was; and pages whose windows meet make up the page of both windows together, no row being lost or
repeated. -/
theorem list_eq_elements (t : QuestionTable) (hkeys : t.keys.Nodup)
    (hlength : t.records.length < 2 ^ 63) :
    ∃ rows : List QuestionRecord, rows.Perm t.records ∧ rows.Pairwise (fun r r' => r.key < r'.key) ∧
      ∀ (d : QuestionDatabase) (j : Journal), d.Serves t →
        (∀ selection : Selection, ∃ d', d'.Serves t ∧ outcome (QuestionRepository.list selection) d j =
          ⟨.ok ((selection.window.elements rows).map QuestionRecord.toQuestion), d', j⟩) ∧
        ∀ (a b c : Nat) (sort : Json), a ≤ b → b ≤ c → ∃ first second,
          (outcome (QuestionRepository.list ⟨⟨a, b⟩, sort⟩) d j).result = .ok first ∧
          (outcome (QuestionRepository.list ⟨⟨b, c⟩, sort⟩) d j).result = .ok second ∧
          (outcome (QuestionRepository.list ⟨⟨a, c⟩, sort⟩) d j).result = .ok (first ++ second) := by
  refine ⟨t.sorted, t.sorted_perm, QuestionTable.pairwise_sorted hkeys, fun d j hserves => ?_⟩
  have hlist : ∀ selection : Selection, ∃ d', d'.Serves t ∧
      outcome (QuestionRepository.list selection) d j =
        ⟨.ok ((selection.window.elements t.sorted).map QuestionRecord.toQuestion), d', j⟩ :=
    fun selection => outcome_list_eq hserves hlength selection j
  refine ⟨hlist, fun a b c sort hab hbc => ?_⟩
  obtain ⟨_, _, hfirst⟩ := hlist ⟨⟨a, b⟩, sort⟩
  obtain ⟨_, _, hsecond⟩ := hlist ⟨⟨b, c⟩, sort⟩
  obtain ⟨_, _, hwhole⟩ := hlist ⟨⟨a, c⟩, sort⟩
  refine ⟨_, _, congrArg Outcome.result hfirst, congrArg Outcome.result hsecond, ?_⟩
  rw [hwhole, ← List.map_append, Window.elements_append hab hbc]

/-- A table whose rows were not inserted in the order of their keys. -/
def scattered : QuestionTable :=
  { records := [⟨5, .text "Title", .text "third", none⟩, ⟨-2, .text "Title", .text "first", none⟩,
      ⟨1, .text "Title", .text "second", none⟩] }

/-- The window ends far beyond the numbers that a statement can carry. -/
theorem list_eq_elements_scattered : scattered.keys.Nodup ∧ scattered.records.length < 2 ^ 63 ∧
    ((outcome (QuestionRepository.list ⟨⟨1, 2 ^ 64⟩, .null⟩) ({ table := some scattered } : QuestionDatabase)
      .verbose).result.map fun questions => questions.map fun q => q.id.text) = .ok ["1", "5"] := by
  have hkeys : scattered.keys.Nodup := by decide
  have hlength : scattered.records.length < 2 ^ 63 := by decide
  obtain ⟨rows, hperm, hordered, hlist⟩ := list_eq_elements scattered hkeys hlength
  obtain ⟨_, _, hresult⟩ := (hlist { table := some scattered } .verbose ⟨rfl, rfl⟩).1
    ⟨⟨1, 2 ^ 64⟩, .null⟩
  have hrows : rows = [⟨-2, .text "Title", .text "first", none⟩, ⟨1, .text "Title", .text "second", none⟩,
      ⟨5, .text "Title", .text "third", none⟩] := by
    refine List.Perm.eq_of_pairwise ?_ hordered (by simp) (hperm.trans ?_)
    · intro r r' _ _ hlt hlt'
      omega
    · exact (List.Perm.swap _ _ _).trans (.cons _ (.swap _ _ _))
  refine ⟨hkeys, hlength, ?_⟩
  rw [hresult, hrows]
  refine congrArg Except.ok ?_
  decide

end QuestionDatabase

end QuestionBoard
