import CallGraph.SyntaxTree
import Mathlib.Data.List.Pairwise

/-!
# Links between the nodes of a syntax tree

A syntax tree is kept as the listing of its nodes with their depths, and the
links between nodes are read off the depths.  This file says what these links
are.

A node lies above another one when it comes before it and everything from there
on, up to the other node, is deeper (`Above`).  The ancestors of a node are the
nodes above it (`mem_ancestors`), and its descendants are itself and the nodes
that it is above (`mem_descendants_iff`).  The parent is the last node before
it that is one level higher (`parent?_eq_some_iff`); here the law of listings
comes in, that depths go down by one step at a time.  Children are the nodes of
which it is the parent (`mem_children_iff`).

Two walks follow from that: the ancestors are the parent and its ancestors
(`ancestors_eq`), and the descendants are the node and, child by child, their
descendants (`descendants_eq`).
-/

namespace CallGraph

/-- In a list of depths each is at least one and at most one more than the
depth before it. -/
theorem getD_of_stepsFrom {d : Nat} {depths : List Nat}
    (h : stepsFrom d depths = true) {i : Nat} (hi : i < depths.length) :
    1 ≤ depths.getD i 0 ∧ depths.getD i 0 ≤ (d :: depths).getD i 0 + 1 := by
  induction depths generalizing d i with
  | nil => exact absurd hi (Nat.not_lt_zero i)
  | cons e depths ih =>
      simp only [stepsFrom, Bool.and_eq_true, decide_eq_true_eq] at h
      cases i with
      | zero => exact h.1
      | succ i => exact ih h.2 (Nat.lt_of_succ_lt_succ hi)

namespace SyntaxTree

variable (t : SyntaxTree)

theorem depth_eq_getD (i : Nat) :
    t.depth i = (t.nodes.toList.map (·.depth)).getD i 0 := by
  unfold depth node
  rw [List.getD_eq_getElem?_getD, List.getElem?_map, Array.getElem?_toList,
    Array.getD_eq_getD_getElem?]
  cases t.nodes[i]? with
  | none => rfl
  | some n => rfl

theorem depth_of_size_le {i : Nat} (h : t.size ≤ i) : t.depth i = 0 := by
  unfold depth node
  rw [Array.getD_eq_getD_getElem?, Array.getElem?_eq_none h]
  rfl

theorem depth_root : t.depth 0 = 0 := by
  have hlisting := t.preorder
  rw [depth_eq_getD]
  cases hdepths : t.nodes.toList.map (·.depth) with
  | nil => rfl
  | cons d depths =>
      rw [hdepths, isPreorder, Bool.and_eq_true, beq_iff_eq] at hlisting
      exact hlisting.1

/-- The law of listings. -/
theorem depth_succ {i : Nat} (h : i + 1 < t.size) :
    1 ≤ t.depth (i + 1) ∧ t.depth (i + 1) ≤ t.depth i + 1 := by
  have hlisting := t.preorder
  have hlength : i + 1 < (t.nodes.toList.map (·.depth)).length := by
    simpa [size] using h
  rw [depth_eq_getD, depth_eq_getD]
  cases hdepths : t.nodes.toList.map (·.depth) with
  | nil => simp [hdepths] at hlength
  | cons d depths =>
      rw [hdepths, isPreorder, Bool.and_eq_true] at hlisting
      rw [hdepths] at hlength
      exact getD_of_stepsFrom hlisting.2 (Nat.lt_of_succ_lt_succ hlength)

/-- Only the root is at depth zero. -/
theorem depth_pos {i : Nat} (hpos : 0 < i) (h : i < t.size) :
    0 < t.depth i := by
  obtain ⟨j, rfl⟩ : ∃ j, i = j + 1 := ⟨i - 1, by omega⟩
  exact (t.depth_succ h).1

theorem lt_size_of_depth_pos {i : Nat} (h : 0 < t.depth i) : i < t.size := by
  apply Nat.lt_of_not_le
  intro hle
  rw [t.depth_of_size_le hle] at h
  exact Nat.lt_irrefl 0 h

/-- The first node lies above the second: all that follows it, up to the
second, is deeper. -/
def Above (i j : Nat) : Prop :=
  i < j ∧ ∀ k, i < k → k ≤ j → t.depth i < t.depth k

variable {t}

/-- What stands below another node is listed. -/
theorem Above.lt_size {i j : Nat} (h : t.Above i j) : j < t.size := by
  apply t.lt_size_of_depth_pos
  exact Nat.lt_of_le_of_lt (Nat.zero_le _) (h.2 j h.1 (Nat.le_refl j))

/-- Above is transitive: between the outermost and the innermost nothing rises
to the outermost's depth. -/
theorem Above.trans {i j k : Nat} (hij : t.Above i j) (hjk : t.Above j k) :
    t.Above i k := by
  refine ⟨Nat.lt_trans hij.1 hjk.1, fun m him hmk => ?_⟩
  by_cases hmj : m ≤ j
  · exact hij.2 m him hmj
  · have hj := hij.2 j hij.1 (Nat.le_refl j)
    have hm := hjk.2 m (by omega) hmk
    omega

/-- A node of some kind is listed, since nodes past the end have none. -/
theorem lt_size_of_kind {i : Nat} {kind : String} (hne : kind ≠ "")
    (h : t.kind i = kind) : i < t.size := by
  apply Nat.lt_of_not_le
  intro hle
  apply hne
  rw [← h, SyntaxTree.kind, node, Array.getD_eq_getD_getElem?,
    Array.getElem?_eq_none hle]
  rfl

/-- The first node is above every other one. -/
theorem above_root {i : Nat} (hpos : 0 < i) (h : i < t.size) :
    t.Above 0 i := by
  refine ⟨hpos, fun k hk hki => ?_⟩
  rw [t.depth_root]
  exact t.depth_pos hk (Nat.lt_of_le_of_lt hki h)

/-- The walk back to ever shallower nodes meets those that are shallower than
everything between them and the start. -/
theorem mem_shallowerBefore {d j k : Nat} :
    k ∈ t.shallowerBefore d j ↔
      k < j ∧ t.depth k < d ∧ ∀ m, k < m → m < j → t.depth k < t.depth m := by
  induction j generalizing d with
  | zero => simp [shallowerBefore]
  | succ j ih =>
      rw [shallowerBefore]
      split
      · rename_i hj
        rw [List.mem_cons, ih]
        constructor
        · rintro (rfl | ⟨hkj, hdepth, hdeeper⟩)
          · exact ⟨by omega, hj, fun m hkm hmj => by omega⟩
          · refine ⟨by omega, by omega, fun m hkm hmj => ?_⟩
            by_cases hm : m = j
            · rwa [hm]
            · exact hdeeper m hkm (by omega)
        · rintro ⟨hkj, hdepth, hdeeper⟩
          by_cases hk : k = j
          · exact Or.inl hk
          · exact Or.inr ⟨by omega, hdeeper j (by omega) (by omega),
              fun m hkm hmj => hdeeper m hkm (by omega)⟩
      · rename_i hj
        rw [ih]
        constructor
        · rintro ⟨hkj, hdepth, hdeeper⟩
          refine ⟨by omega, hdepth, fun m hkm hmj => ?_⟩
          by_cases hm : m = j
          · rw [hm]
            omega
          · exact hdeeper m hkm (by omega)
        · rintro ⟨hkj, hdepth, hdeeper⟩
          have hk : k ≠ j := by
            rintro rfl
            exact hj hdepth
          exact ⟨by omega, hdepth, fun m hkm hmj => hdeeper m hkm (by omega)⟩

/-- **Ancestors** are the nodes above. -/
theorem mem_ancestors {i j : Nat} : i ∈ t.ancestors j ↔ t.Above i j := by
  rw [ancestors, mem_shallowerBefore]
  constructor
  · rintro ⟨hij, hdepth, hdeeper⟩
    refine ⟨hij, fun k hik hkj => ?_⟩
    by_cases hk : k = j
    · rwa [hk]
    · exact hdeeper k hik (by omega)
  · rintro ⟨hij, hdeeper⟩
    exact ⟨hij, hdeeper j hij (Nat.le_refl j),
      fun k hik hkj => hdeeper k hik (Nat.le_of_lt hkj)⟩

/-- The walk back goes back at every step. -/
theorem shallowerBefore_descending (d j : Nat) :
    (t.shallowerBefore d j).Pairwise (· > ·) := by
  induction j generalizing d with
  | zero => exact List.Pairwise.nil
  | succ j ih =>
      rw [shallowerBefore]
      split
      · refine List.pairwise_cons.mpr ⟨fun k hk => ?_, ih _⟩
        exact (mem_shallowerBefore.mp hk).1
      · exact ih d

/-- The ancestors come nearest first. -/
theorem ancestors_descending (i : Nat) :
    (t.ancestors i).Pairwise (· > ·) :=
  shallowerBefore_descending _ _

/-- The ancestors of a node, if there are any, end in the root.  The last
ancestor is the least, and the root is one of them. -/
theorem getLast?_ancestors {i : Nat} (h : t.ancestors i ≠ []) :
    (t.ancestors i).getLast? = some 0 := by
  obtain ⟨k, hk⟩ := List.exists_mem_of_ne_nil _ h
  have habove := mem_ancestors.mp hk
  have hroot : 0 ∈ t.ancestors i :=
    mem_ancestors.mpr (above_root (by have := habove.1; omega) habove.lt_size)
  obtain ⟨before, last, hsplit⟩ :=
    (List.eq_nil_or_concat (t.ancestors i)).resolve_left h
  rw [List.concat_eq_append] at hsplit
  have horder := t.ancestors_descending i
  rw [hsplit, List.pairwise_append] at horder
  rw [hsplit] at hroot ⊢
  rw [List.getLast?_concat]
  rcases List.mem_append.mp hroot with hbefore | hlast
  · have := horder.2.2 0 hbefore last (List.mem_singleton.mpr rfl)
    omega
  · rw [List.mem_singleton.mp hlast]

/-- The first node of the walk back is the last one before the start that is
shallow enough. -/
theorem head?_shallowerBefore {d j p : Nat} :
    (t.shallowerBefore d j).head? = some p ↔
      p < j ∧ t.depth p < d ∧ ∀ m, p < m → m < j → d ≤ t.depth m := by
  induction j with
  | zero => simp [shallowerBefore]
  | succ j ih =>
      rw [shallowerBefore]
      split
      · rename_i hj
        rw [List.head?_cons, Option.some.injEq]
        constructor
        · rintro rfl
          exact ⟨by omega, hj, fun m hjm hmj => by omega⟩
        · rintro ⟨hp, hdepth, hdeeper⟩
          by_cases hpj : p = j
          · exact hpj.symm
          · have := hdeeper j (by omega) (by omega)
            omega
      · rename_i hj
        rw [ih]
        constructor
        · rintro ⟨hp, hdepth, hdeeper⟩
          refine ⟨by omega, hdepth, fun m hpm hmj => ?_⟩
          by_cases hm : m = j
          · rw [hm]
            omega
          · exact hdeeper m hpm (by omega)
        · rintro ⟨hp, hdepth, hdeeper⟩
          have hpj : p ≠ j := by
            rintro rfl
            exact hj hdepth
          exact ⟨by omega, hdepth, fun m hpm hmj => hdeeper m hpm (by omega)⟩

/-- **Parents.**  The parent of a node is the last node before it that is one
level higher.  The node behind the parent is at most one level deeper than it.
-/
theorem parent?_eq_some_iff {c p : Nat} :
    t.parent? c = some p ↔
      p < c ∧ t.depth p + 1 = t.depth c ∧
        ∀ m, p < m → m < c → t.depth c ≤ t.depth m := by
  rw [parent?, ancestors, head?_shallowerBefore]
  constructor
  · rintro ⟨hpc, hdepth, hdeeper⟩
    have hc : c < t.size := t.lt_size_of_depth_pos (by omega)
    have hnext : t.depth c ≤ t.depth (p + 1) := by
      by_cases heq : p + 1 = c
      · exact Nat.le_of_eq (congrArg t.depth heq.symm)
      · exact hdeeper (p + 1) (by omega) (by omega)
    have hstep := (t.depth_succ (i := p) (by omega)).2
    exact ⟨hpc, by omega, hdeeper⟩
  · rintro ⟨hpc, hdepth, hdeeper⟩
    exact ⟨hpc, by omega, hdeeper⟩

/-- Of the listed nodes just the first has no parent. -/
theorem parent?_eq_none_iff {i : Nat} (h : i < t.size) :
    t.parent? i = none ↔ i = 0 := by
  rw [parent?, List.head?_eq_none_iff]
  constructor
  · intro hnone
    apply Nat.eq_zero_of_not_pos
    intro hpos
    have hroot : 0 ∈ t.ancestors i := mem_ancestors.mpr (above_root hpos h)
    rw [hnone] at hroot
    exact absurd hroot List.not_mem_nil
  · rintro rfl
    rfl

/-- The walk back goes on from its first node as from that node's own
ancestors. -/
theorem shallowerBefore_eq_cons {d j p : Nat}
    (h : (t.shallowerBefore d j).head? = some p) :
    t.shallowerBefore d j = p :: t.ancestors p := by
  induction j with
  | zero => cases h
  | succ j ih =>
      rw [shallowerBefore] at h ⊢
      split at h
      · rename_i hj
        cases h
        rw [if_pos hj, ancestors]
      · rename_i hj
        rw [if_neg hj, ih h]

/-- **The way up.**  The ancestors of a node are its parent and the ancestors
of its parent. -/
theorem ancestors_eq (i : Nat) :
    t.ancestors i =
      match t.parent? i with
      | none => []
      | some p => p :: t.ancestors p := by
  cases hparent : t.parent? i with
  | none => exact List.head?_eq_none_iff.mp hparent
  | some p => exact shallowerBefore_eq_cons hparent

/-- A parent is above its child. -/
theorem above_of_parent? {c p : Nat} (h : t.parent? c = some p) :
    t.Above p c := by
  rw [← mem_ancestors, ancestors_eq, h]
  exact List.mem_cons_self

/-- The run of deeper nodes is a stretch of the listing. -/
theorem runBelow_eq_range' (d first count : Nat) :
    ∃ k, t.runBelow d first count = List.range' first k := by
  induction count generalizing first with
  | zero => exact ⟨0, rfl⟩
  | succ count ih =>
      rw [runBelow]
      split
      · obtain ⟨k, hk⟩ := ih (first + 1)
        exact ⟨k + 1, by rw [hk, List.range'_succ]⟩
      · exact ⟨0, rfl⟩

/-- The descendants of a node have consecutive numbers. -/
theorem descendants_eq_range' {i : Nat} (h : i < t.size) :
    ∃ k, t.descendants i = List.range' i k := by
  obtain ⟨k, hk⟩ := t.runBelow_eq_range' (t.depth i) (i + 1)
    (t.size - (i + 1))
  refine ⟨k + 1, ?_⟩
  rw [descendants, if_pos h, hk, List.range'_succ]

/-- Pre-order is the order of the numbers. -/
theorem descendants_ascending (t : SyntaxTree) (i : Nat) :
    (t.descendants i).Pairwise (· < ·) := by
  by_cases h : i < t.size
  · obtain ⟨k, hk⟩ := t.descendants_eq_range' h
    rw [hk]
    exact List.pairwise_lt_range'
  · rw [descendants, if_neg h]
    exact List.Pairwise.nil

/-- A node is in the run if everything up to it is deeper. -/
theorem mem_runBelow_iff {d first count j : Nat} :
    j ∈ t.runBelow d first count ↔
      first ≤ j ∧ j < first + count ∧
        ∀ m, first ≤ m → m ≤ j → d < t.depth m := by
  induction count generalizing first with
  | zero =>
      rw [runBelow]
      refine iff_of_false List.not_mem_nil ?_
      rintro ⟨hfirst, hlast, _⟩
      omega
  | succ count ih =>
      rw [runBelow]
      split
      · rename_i hdepth
        rw [List.mem_cons, ih]
        constructor
        · rintro (rfl | ⟨hfirst, hlast, hdeeper⟩)
          · refine ⟨Nat.le_refl _, by omega, fun m hm hmj => ?_⟩
            rwa [Nat.le_antisymm hmj hm]
          · refine ⟨by omega, by omega, fun m hm hmj => ?_⟩
            by_cases heq : m = first
            · rwa [heq]
            · exact hdeeper m (by omega) hmj
        · rintro ⟨hfirst, hlast, hdeeper⟩
          by_cases heq : j = first
          · exact Or.inl heq
          · exact Or.inr ⟨by omega, by omega,
              fun m hm hmj => hdeeper m (by omega) hmj⟩
      · rename_i hdepth
        refine iff_of_false List.not_mem_nil ?_
        rintro ⟨hfirst, hlast, hdeeper⟩
        exact hdepth (hdeeper first (Nat.le_refl first) hfirst)

/-- **Descendants** of a node are the node and what it is above. -/
theorem mem_descendants_iff {i j : Nat} (h : i < t.size) :
    j ∈ t.descendants i ↔ j = i ∨ i ∈ t.ancestors j := by
  rw [descendants, if_pos h, List.mem_cons, mem_runBelow_iff, mem_ancestors]
  refine or_congr_right ?_
  constructor
  · rintro ⟨hij, hj, hdeeper⟩
    exact ⟨hij, fun k hik hkj => hdeeper k hik hkj⟩
  · intro habove
    have hj := habove.lt_size
    exact ⟨habove.1, by omega, fun m him hmj => habove.2 m him hmj⟩

theorem mem_descendants_self {i : Nat} (h : i < t.size) :
    i ∈ t.descendants i :=
  (mem_descendants_iff h).mpr (Or.inl rfl)

/-- The descendants of a descendant are descendants. -/
theorem mem_descendants_trans {i j k : Nat} (hj : j ∈ t.descendants i)
    (hk : k ∈ t.descendants j) : k ∈ t.descendants i := by
  have hi : i < t.size := by
    have := t.mem_descendants hj
    omega
  have hjsize := (t.mem_descendants hj).2
  rcases (mem_descendants_iff hi).mp hj with rfl | hij
  · exact hk
  · rcases (mem_descendants_iff hjsize).mp hk with rfl | hjk
    · exact hj
    · refine (mem_descendants_iff hi).mpr (Or.inr (mem_ancestors.mpr ?_))
      exact (mem_ancestors.mp hij).trans (mem_ancestors.mp hjk)

/-- Everything lies below the root. -/
theorem mem_descendants_root {i : Nat} :
    i ∈ t.descendants root ↔ i < t.size := by
  refine ⟨fun h => (t.mem_descendants h).2, fun h => ?_⟩
  refine (mem_descendants_iff (Nat.lt_of_le_of_lt (Nat.zero_le i) h)).mpr ?_
  rcases Nat.eq_zero_or_pos i with hzero | hpos
  · exact Or.inl hzero
  · exact Or.inr (mem_ancestors.mpr (above_root hpos h))

/-- Searching from the root finds all the nodes of a kind. -/
theorem mem_findKind_root {i : Nat} {kind : String} :
    i ∈ t.findKind root kind ↔ i < t.size ∧ t.kind i = kind := by
  rw [findKind, List.mem_filter, decide_eq_true_eq, mem_descendants_root]

/-- **Children** of a node are the nodes of which it is the parent. -/
theorem mem_children_iff {c p : Nat} :
    c ∈ t.children p ↔ t.parent? c = some p := by
  rw [parent?_eq_some_iff, children, List.mem_filter, decide_eq_true_eq]
  constructor
  · rintro ⟨hmem, hdepth⟩
    have hp : p < t.size := by
      have := t.mem_descendants hmem
      omega
    rcases (mem_descendants_iff hp).mp hmem with rfl | habove
    · omega
    · obtain ⟨hpc, hdeeper⟩ := mem_ancestors.mp habove
      refine ⟨hpc, by omega, fun m hpm hmc => ?_⟩
      have := hdeeper m hpm (Nat.le_of_lt hmc)
      omega
  · rintro ⟨hpc, hdepth, hdeeper⟩
    have habove : t.Above p c := by
      refine ⟨hpc, fun m hpm hmc => ?_⟩
      by_cases heq : m = c
      · rw [heq]
        omega
      · have := hdeeper m hpm (by omega)
        omega
    have hp : p < t.size := Nat.lt_trans hpc habove.lt_size
    exact ⟨(mem_descendants_iff hp).mpr
      (Or.inr (mem_ancestors.mpr habove)), hdepth.symm⟩

/-- The children of a node are below it. -/
theorem mem_descendants_of_mem_children {i c : Nat} (h : c ∈ t.children i) :
    c ∈ t.descendants i :=
  (List.mem_filter.mp h).1

/-- The children come in the order of the source. -/
theorem children_ascending (p : Nat) :
    (t.children p).Pairwise (· < ·) :=
  (t.descendants_ascending p).filter _

/-- A node below another one is one of its children or below one of them.  The
proof climbs from the lower node: its parent is the upper node or still below
it. -/
theorem exists_child_of_above {i j : Nat} (h : t.Above i j) :
    ∃ c, t.parent? c = some i ∧ (j = c ∨ t.Above c j) := by
  induction j using Nat.strongRecOn with
  | ind j ih =>
      have hmem := mem_ancestors.mpr h
      rw [ancestors_eq] at hmem
      cases hparent : t.parent? j with
      | none =>
          rw [hparent] at hmem
          exact absurd hmem List.not_mem_nil
      | some p =>
          rw [hparent] at hmem
          have hp := above_of_parent? hparent
          rcases List.mem_cons.mp hmem with rfl | hup
          · exact ⟨j, hparent, Or.inl rfl⟩
          · obtain ⟨c, hc, hcp⟩ := ih p hp.1 (mem_ancestors.mp hup)
            refine ⟨c, hc, Or.inr ?_⟩
            rcases hcp with rfl | hcp
            · exact hp
            · exact hcp.trans hp

/-- What lies below a child comes before every later child. -/
theorem lt_of_mem_descendants_children {p c c' x y : Nat}
    (hc : c ∈ t.children p) (hc' : c' ∈ t.children p) (hlt : c < c')
    (hx : x ∈ t.descendants c) (hy : y ∈ t.descendants c') : x < y := by
  have hsiblings : t.depth c = t.depth c' := by
    have h := (parent?_eq_some_iff.mp (mem_children_iff.mp hc)).2.1
    have h' := (parent?_eq_some_iff.mp (mem_children_iff.mp hc')).2.1
    omega
  have hcy := (t.mem_descendants hy).1
  have hxc : x < c' := by
    rcases (mem_descendants_iff (t.mem_children hc).2).mp hx with rfl | habove
    · exact hlt
    · apply Nat.lt_of_not_le
      intro hle
      have := (mem_ancestors.mp habove).2 c' hlt hle
      omega
  omega

/-- Two ascending lists with the same members are equal. -/
theorem eq_of_mem_iff_of_ascending {xs ys : List Nat}
    (hxs : xs.Pairwise (· < ·)) (hys : ys.Pairwise (· < ·))
    (h : ∀ i, i ∈ xs ↔ i ∈ ys) : xs = ys := by
  have hperm : xs.Perm ys :=
    (List.perm_ext_iff_of_nodup (hxs.imp Nat.ne_of_lt)
      (hys.imp Nat.ne_of_lt)).mpr h
  exact hperm.eq_of_pairwise
    (fun a b _ _ hab hba => absurd hab (Nat.lt_asymm hba)) hxs hys

/-- **The way down.**  The descendants of a node are the node and then, child
by child, the descendants of its children.  Both sides are ascending, so it is
enough that they have the same members. -/
theorem descendants_eq {i : Nat} (h : i < t.size) :
    t.descendants i = i :: (t.children i).flatMap t.descendants := by
  have hwalk :
      (i :: (t.children i).flatMap t.descendants).Pairwise (· < ·) := by
    refine List.pairwise_cons.mpr ⟨fun j hj => ?_, ?_⟩
    · obtain ⟨c, hc, hjc⟩ := List.mem_flatMap.mp hj
      exact Nat.lt_of_lt_of_le (t.mem_children hc).1 (t.mem_descendants hjc).1
    · rw [List.flatMap_def, List.pairwise_flatten]
      refine ⟨fun l hl => ?_, ?_⟩
      · obtain ⟨c, _, rfl⟩ := List.mem_map.mp hl
        exact t.descendants_ascending c
      · rw [List.pairwise_map]
        exact (t.children_ascending i).imp_of_mem fun hc hc' hlt x hx y hy =>
          lt_of_mem_descendants_children hc hc' hlt hx hy
  have hmem : ∀ j, j ∈ t.descendants i ↔
      j ∈ i :: (t.children i).flatMap t.descendants := by
    intro j
    rw [mem_descendants_iff h, List.mem_cons, List.mem_flatMap]
    refine or_congr_right ⟨fun hj => ?_, ?_⟩
    · obtain ⟨c, hc, hjc⟩ := exists_child_of_above (mem_ancestors.mp hj)
      have hsize : c < t.size := (above_of_parent? hc).lt_size
      exact ⟨c, mem_children_iff.mpr hc,
        (mem_descendants_iff hsize).mpr (hjc.imp_right mem_ancestors.mpr)⟩
    · rintro ⟨c, hc, hjc⟩
      have hic : t.Above i c := above_of_parent? (mem_children_iff.mp hc)
      rcases (mem_descendants_iff hic.lt_size).mp hjc with rfl | hcj
      · exact mem_ancestors.mpr hic
      · exact mem_ancestors.mpr (hic.trans (mem_ancestors.mp hcj))
  exact eq_of_mem_iff_of_ascending (t.descendants_ascending i) hwalk hmem

end SyntaxTree

end CallGraph
