import Mathlib.Data.List.Basic

/-!
The pieces of a text between separators. A piece is a longest stretch without the separator that is not
empty; splitting a text at the separator and leaving out what is empty gives its pieces in their order.
-/

namespace QuestionBoard

variable {α : Type} {separator : α} {cs piece rest : List α} {position : Nat}

/-- Whether a piece stands at a position: a stretch without the separator that is not empty and cannot be
made longer on either side. -/
structure PieceAt (separator : α) (cs : List α) (position : Nat) (piece : List α) : Prop where
  nonempty : piece ≠ []
  plain : separator ∉ piece
  maximal : ∃ before after, cs = before ++ piece ++ after ∧ before.length = position ∧
    (∀ c, before.getLast? = some c → c = separator) ∧ ∀ c, after.head? = some c → c = separator

/-- Whether pieces are all that stand in a text, from left to right. -/
def ArePieces (separator : α) (cs : List α) (pieces : List (List α)) : Prop :=
  ∃ found : List (Nat × List α), found.map Prod.snd = pieces ∧
    (found.map Prod.fst).Pairwise (· < ·) ∧ ∀ x, x ∈ found ↔ PieceAt separator cs x.1 x.2

/-- A text without the separator is its own piece. -/
theorem pieceAt_of_not_mem (h : separator ∉ cs) :
    PieceAt separator cs position piece ↔ position = 0 ∧ piece = cs ∧ cs ≠ [] := by
  constructor
  · rintro ⟨hnonempty, -, before, after, rfl, rfl, hbefore, hafter⟩
    have hnil : before = [] := by
      by_contra hne
      have hlast := hbefore _ (List.getLast?_eq_some_getLast hne)
      exact h (List.mem_append_left _ (List.mem_append_left _ (hlast ▸ List.getLast_mem hne)))
    have hnil' : after = [] := by
      by_contra hne
      have hhead := hafter _ (List.head?_eq_some_head hne)
      exact h (List.mem_append_right _ (hhead ▸ List.head_mem hne))
    subst hnil hnil'
    simpa using hnonempty
  · rintro ⟨rfl, rfl, hne⟩
    exact ⟨hne, h, [], [], by simp, rfl, by simp, by simp⟩

/-- Before the first separator stands one piece, unless nothing does; the others stand after it. -/
theorem pieceAt_append_cons [BEq α] [LawfulBEq α] {before : List α} (h : separator ∉ before) :
    PieceAt separator (before ++ separator :: rest) position piece ↔
      position = 0 ∧ piece = before ∧ before ≠ [] ∨
        ∃ n, position = before.length + 1 + n ∧ PieceAt separator rest n piece := by
  constructor
  · rintro ⟨hnonempty, hplain, left, right, heq, rfl, hleft, hright⟩
    rcases List.eq_nil_or_concat left with rfl | ⟨left, c, rfl⟩
    · -- Both are what stands before the first separator of the text.
      left
      have htake : (before ++ separator :: rest).takeWhile (· != separator) = before := by
        rw [List.takeWhile_append_of_pos fun c hc => by simpa using fun hsep : c = separator => h (hsep ▸ hc)]
        simp
      have htake' : (piece ++ right).takeWhile (· != separator) = piece := by
        rw [List.takeWhile_append_of_pos fun c hc => by
          simpa using fun hsep : c = separator => hplain (hsep ▸ hc)]
        cases right with
        | nil => simp
        | cons c right => simp [hright c rfl]
      rw [List.nil_append] at heq
      rw [heq, htake'] at htake
      exact ⟨rfl, htake, htake ▸ hnonempty⟩
    · right
      obtain rfl : c = separator := hleft c (by simp)
      simp only [List.concat_eq_append, List.append_assoc, List.singleton_append] at heq
      rcases List.append_eq_append_iff.mp heq with ⟨middle, rfl, hmiddle⟩ | ⟨middle, rfl, hmiddle⟩
      · cases middle with
        | nil =>
            obtain rfl : rest = piece ++ right := (List.cons.inj hmiddle).2
            refine ⟨0, by simp, hnonempty, hplain, [], right, by simp, rfl, by simp, hright⟩
        | cons c middle =>
            obtain ⟨rfl, hrest⟩ := List.cons.inj hmiddle
            refine ⟨middle.length + 1, by simp; omega, hnonempty, hplain, middle ++ [c], right, ?_,
              by simp, by simp, hright⟩
            simpa using hrest
      · cases middle with
        | nil =>
            obtain rfl : piece ++ right = rest := (List.cons.inj hmiddle).2
            refine ⟨0, by simp, hnonempty, hplain, [], right, by simp, rfl, by simp, hright⟩
        | cons c middle =>
            obtain ⟨rfl, -⟩ := List.cons.inj hmiddle
            exact absurd (by simp) h
  · rintro (⟨rfl, rfl, hne⟩ | ⟨n, rfl, hnonempty, hplain, left, right, rfl, rfl, hleft, hright⟩)
    · exact ⟨hne, h, [], separator :: rest, by simp, rfl, by simp, by simp⟩
    · refine ⟨hnonempty, hplain, before ++ separator :: left, right, by simp, by simp; omega, ?_, hright⟩
      intro c hc
      cases left with
      | nil => simpa using hc.symm
      | cons first left =>
          refine hleft c ?_
          simpa [List.getLast?_append, List.getLast?_cons_cons] using hc

/-- The places of parts that a separator stands between. -/
def placed : List (List α) → List (Nat × List α)
  | [] => []
  | part :: rest => (0, part) :: (placed rest).map (Prod.map (part.length + 1 + ·) id)

theorem map_snd_placed (parts : List (List α)) : (placed parts).map Prod.snd = parts := by
  induction parts with
  | nil => rfl
  | cons part rest ih =>
      rw [placed, List.map_cons, List.map_map]
      exact congrArg (part :: ·) ih

theorem pairwise_placed (parts : List (List α)) :
    ((placed parts).map Prod.fst).Pairwise (· < ·) := by
  induction parts with
  | nil => exact .nil
  | cons part rest ih =>
      rw [placed, List.map_cons, List.map_map, List.pairwise_cons]
      constructor
      · intro position hposition
        obtain ⟨x, -, rfl⟩ := List.mem_map.mp hposition
        show 0 < part.length + 1 + x.1
        omega
      · rw [List.pairwise_map] at ih ⊢
        exact ih.imp fun h => Nat.add_lt_add_left h _

/-- The parts of a text that are not empty are its pieces. -/
theorem mem_placed_iff [BEq α] [LawfulBEq α] (cs : List α) (x : Nat × List α) :
    x ∈ placed (cs.splitOn separator) ∧ x.2 ≠ [] ↔ PieceAt separator cs x.1 x.2 := by
  obtain ⟨position, piece⟩ := x
  -- The induction is on the length: a text without the separator is one part, any other ends its
  -- first part at its first separator.
  induction hlength : cs.length using Nat.strongRecOn generalizing cs position piece with
  | ind n ih =>
      by_cases hmem : separator ∈ cs
      · obtain ⟨before, rest, rfl, hbefore⟩ := List.eq_append_cons_of_mem hmem
        have hrest := fun position piece =>
          ih rest.length (by simp at hlength; omega) rest position piece rfl
        rw [List.splitOn_append_cons_self_of_not_mem hbefore, pieceAt_append_cons hbefore, placed]
        simp only [← hrest, List.mem_cons, List.mem_map, Prod.mk.injEq]
        constructor
        · rintro ⟨⟨rfl, rfl⟩ | ⟨⟨n, part⟩, hpart, hplace⟩, hne⟩
          · exact Or.inl ⟨rfl, rfl, hne⟩
          · cases hplace
            exact Or.inr ⟨n, rfl, hpart, hne⟩
        · rintro (⟨rfl, rfl, hne⟩ | ⟨n, rfl, hpart, hne⟩)
          · exact ⟨Or.inl ⟨rfl, rfl⟩, hne⟩
          · exact ⟨Or.inr ⟨(n, piece), hpart, rfl⟩, hne⟩
      · rw [List.splitOn_eq_singleton hmem, pieceAt_of_not_mem hmem]
        simp only [placed, List.map_nil, List.mem_singleton, Prod.mk.injEq]
        constructor
        · rintro ⟨⟨rfl, rfl⟩, hne⟩
          exact ⟨rfl, rfl, hne⟩
        · rintro ⟨rfl, rfl, hne⟩
          exact ⟨⟨rfl, rfl⟩, hne⟩

/-- Splitting a text and leaving out what is empty gives its pieces. -/
theorem arePieces_splitOn [DecidableEq α] (separator : α) (cs : List α) :
    ArePieces separator cs ((cs.splitOn separator).filter (· ≠ [])) := by
  refine ⟨(placed (cs.splitOn separator)).filter (·.2 ≠ []), ?_, ?_, fun x => ?_⟩
  · have hcomp : (fun x : Nat × List α => decide (x.2 ≠ [])) = (fun p => decide (p ≠ [])) ∘ Prod.snd := rfl
    rw [hcomp, ← List.filter_map, map_snd_placed]
  · exact (pairwise_placed _).sublist (List.filter_sublist.map _)
  · rw [List.mem_filter, decide_eq_true_eq, mem_placed_iff]

end QuestionBoard
