import CallGraph.Text.Segment
import Mathlib.Data.List.TakeWhile

/-!
# First and last pieces of a text

A text that is cut at separators has a first piece, which ends before the first
separator, and a last piece, which begins after the last one.  Programs read
these two off without cutting: forwards up to a separator
(`head?_splitOnP`), or backwards (`getLast?_splitOnP`).
-/

namespace CallGraph

variable {α : Type}

/-- What holds no separator is the last piece after any separator. -/
theorem splitOnP_concat {isSep : α → Bool} (before : List α) {sep : α}
    (hsep : isSep sep = true) {piece : List α}
    (h : ∀ c ∈ piece, isSep c = false) :
    (before ++ sep :: piece).splitOnP isSep =
      before.splitOnP isSep ++ [piece] := by
  rw [List.splitOnP_append_cons before piece hsep,
    List.splitOnP_eq_singleton h]

/-- The first piece is what stands before the first separator. -/
theorem head?_splitOnP (isSep : α → Bool) (text : List α) :
    (text.splitOnP isSep).head? =
      some (text.takeWhile fun c => !isSep c) := by
  induction text with
  | nil => rfl
  | cons c text ih =>
      rw [List.splitOnP_cons_eq_if_modifyHead]
      cases hc : isSep c with
      | true => simp [hc]
      | false => simp [hc, ih]

/-- Every text is its last piece, or ends in a separator and its last piece. -/
theorem exists_lastPiece (isSep : α → Bool) (text : List α) :
    (∀ c ∈ text, isSep c = false) ∨
      ∃ before sep piece, text = before ++ sep :: piece ∧
        isSep sep = true ∧ ∀ c ∈ piece, isSep c = false := by
  induction text with
  | nil => exact Or.inl fun c hc => absurd hc List.not_mem_nil
  | cons c text ih =>
      rcases ih with hnone | ⟨before, sep, piece, rfl, hsep, hpiece⟩
      · cases hc : isSep c with
        | true => exact Or.inr ⟨[], c, text, rfl, hc, hnone⟩
        | false =>
            left
            intro d hd
            rcases List.mem_cons.mp hd with rfl | hd
            · exact hc
            · exact hnone d hd
      · exact Or.inr ⟨c :: before, sep, piece, rfl, hsep, hpiece⟩

/-- Without separators, reading backwards gives the whole text. -/
theorem reverse_takeWhile_reverse_of_none {isSep : α → Bool} {text : List α}
    (hnone : ∀ c ∈ text, isSep c = false) :
    (text.reverse.takeWhile fun c => !isSep c).reverse = text := by
  have hkept : ∀ c ∈ text.reverse, (!isSep c) = true := by
    intro c hc
    rw [hnone c (List.mem_reverse.mp hc)]
    rfl
  rw [List.takeWhile_eq_self_iff.mpr hkept, List.reverse_reverse]

/-- Reading backwards up to a separator gives the last piece. -/
theorem reverse_takeWhile_reverse_concat {isSep : α → Bool} (before : List α)
    {sep : α} (hsep : isSep sep = true) {piece : List α}
    (hpiece : ∀ c ∈ piece, isSep c = false) :
    ((before ++ sep :: piece).reverse.takeWhile fun c => !isSep c).reverse =
      piece := by
  have hkept : ∀ c ∈ piece.reverse, (!isSep c) = true := by
    intro c hc
    rw [hpiece c (List.mem_reverse.mp hc)]
    rfl
  rw [List.reverse_append, List.reverse_cons, List.append_assoc,
    List.takeWhile_append_of_pos hkept]
  simp [hsep]

/-- The last piece is what stands after the last separator. -/
theorem getLast?_splitOnP (isSep : α → Bool) (text : List α) :
    (text.splitOnP isSep).getLast? =
      some (text.reverse.takeWhile fun c => !isSep c).reverse := by
  rcases exists_lastPiece isSep text with
    hnone | ⟨before, sep, piece, rfl, hsep, hpiece⟩
  · rw [List.splitOnP_eq_singleton hnone,
      reverse_takeWhile_reverse_of_none hnone, List.getLast?_singleton]
  · rw [splitOnP_concat before hsep hpiece, List.getLast?_concat,
      reverse_takeWhile_reverse_concat before hsep hpiece]

/-- The segment of a dotted path that comes first. -/
def IsFirstPart (part path : String) : Prop :=
  (path.toList.splitOn '.').head? = some part.toList

/-- The segment of a dotted path that comes last. -/
def IsLastPart (part path : String) : Prop :=
  (path.toList.splitOn '.').getLast? = some part.toList

/-- The first segment of a path is its first part. -/
theorem isFirstPart_iff {part path : String} :
    IsFirstPart part path ↔ Text.firstSegment path = part := by
  unfold IsFirstPart Text.firstSegment
  rw [List.splitOn_eq_splitOnP, head?_splitOnP, Option.some_inj,
    ← String.toList_inj, String.toList_ofList]
  rfl

theorem isLastPart_iff {part path : String} :
    IsLastPart part path ↔ Text.lastSegment path = part := by
  unfold IsLastPart Text.lastSegment
  rw [List.splitOn_eq_splitOnP, getLast?_splitOnP, Option.some_inj,
    ← String.toList_inj, String.toList_ofList]
  rfl

end CallGraph
