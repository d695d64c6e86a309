import CallGraph.QualifiedName
import Mathlib.Data.List.Infix

/-!
# Template arguments

What stands between angle brackets is dropped from a segment of a name by
counting the brackets that are open.  Balanced brackets leave nothing behind
(`Balanced.dropTemplateArgs`): inside of the outermost pair nothing is kept as
long as the count does not fall to zero (`dropTemplateArgs_append`).  Since they
leave the count as it was, they can be taken out of a name anywhere
(`stripTemplateArgs_erases`).  A closing bracket for which none is open is kept
like any other character, so a text that closes more brackets than it opens
always shows it (`mem_dropTemplateArgs`).
-/

namespace CallGraph

namespace QualifiedName

open Text (isBlank)

/-- Angle brackets are balanced: no prefix closes more of them than it opens,
and as many are closed as are opened. -/
structure Balanced (cs : List Char) : Prop where
  closes_le : ∀ p, p <+: cs → p.count '>' ≤ p.count '<'
  closed : cs.count '>' = cs.count '<'

instance (cs : List Char) : Decidable (Balanced cs) :=
  decidable_of_iff
    ((∀ p ∈ cs.inits, p.count '>' ≤ p.count '<') ∧
      cs.count '>' = cs.count '<')
    ⟨fun h => ⟨fun p hp => h.1 p ((List.mem_inits p cs).mpr hp), h.2⟩,
      fun h => ⟨fun p hp => h.closes_le p ((List.mem_inits p cs).mp hp),
        h.closed⟩⟩

/-- Blanks do not matter for the balance of brackets. -/
theorem Balanced.filter {cs : List Char} (h : Balanced cs) :
    Balanced (cs.filter fun c => !isBlank c) := by
  have hopens : ∀ q : List Char,
      (q.filter fun c => !isBlank c).count '<' = q.count '<' := by
    intro q
    exact List.count_filter (by decide)
  have hcloses : ∀ q : List Char,
      (q.filter fun c => !isBlank c).count '>' = q.count '>' := by
    intro q
    exact List.count_filter (by decide)
  constructor
  · intro p hp
    obtain ⟨q, hq, rfl⟩ := List.prefix_filter_iff.mp hp
    rw [hcloses, hopens]
    exact h.closes_le q hq
  · rw [hcloses, hopens]
    exact h.closed

/-- What follows a prefix of balanced brackets closes at least as many as it
opens. -/
theorem Balanced.opens_le {u v : List Char} (h : Balanced (u ++ v)) :
    v.count '<' ≤ v.count '>' := by
  have hprefix := h.closes_le u (List.prefix_append u v)
  have htotal := h.closed
  rw [List.count_append, List.count_append] at htotal
  omega

/-- An opening bracket goes one level down and is dropped. -/
theorem dropTemplateArgs_open (depth : Nat) (rest : List Char) :
    dropTemplateArgs depth ('<' :: rest) =
      dropTemplateArgs (depth + 1) rest := by
  rw [dropTemplateArgs, if_pos rfl]

/-- A closing bracket inside goes one level up and is dropped. -/
theorem dropTemplateArgs_close (depth : Nat) (rest : List Char) :
    dropTemplateArgs (depth + 1) ('>' :: rest) =
      dropTemplateArgs depth rest := by
  rw [dropTemplateArgs, if_neg (by decide), if_pos ⟨rfl, Nat.succ_pos depth⟩,
    Nat.add_sub_cancel]

/-- Anything else inside brackets is dropped. -/
theorem dropTemplateArgs_inside {depth : Nat} {c : Char} {rest : List Char}
    (hopen : c ≠ '<') (hclose : c ≠ '>') :
    dropTemplateArgs (depth + 1) (c :: rest) =
      dropTemplateArgs (depth + 1) rest := by
  rw [dropTemplateArgs, if_neg hopen, if_neg (fun h => hclose h.1),
    if_neg (Nat.succ_ne_zero depth)]

/-- Outside of brackets even a closing one is kept. -/
theorem dropTemplateArgs_outside {c : Char} {rest : List Char}
    (hopen : c ≠ '<') :
    dropTemplateArgs 0 (c :: rest) = c :: dropTemplateArgs 0 rest := by
  rw [dropTemplateArgs, if_neg hopen,
    if_neg (fun h => Nat.lt_irrefl 0 h.2), if_pos rfl]

/-- Inside of brackets nothing is kept, and their number is counted, as long
as the text does not close the outermost one. -/
theorem dropTemplateArgs_append {a rest : List Char} {k : Nat}
    (h : ∀ p, p <+: a → p.count '>' ≤ k + p.count '<') :
    dropTemplateArgs (k + 1) (a ++ rest) =
      dropTemplateArgs (k + 1 + a.count '<' - a.count '>') rest := by
  induction a generalizing k with
  | nil => simp
  | cons c a ih =>
      have hprefix : ∀ p, p <+: a →
          (c :: p).count '>' ≤ k + (c :: p).count '<' := by
        intro p hp
        exact h (c :: p) ((List.prefix_cons_inj c).mpr hp)
      by_cases hopen : c = '<'
      · subst hopen
        have hne : '<' ≠ '>' := by decide
        simp only [List.count_cons_self, List.count_cons_of_ne hne]
          at hprefix ⊢
        have hinside : ∀ p, p <+: a → p.count '>' ≤ k + 1 + p.count '<' := by
          intro p hp
          have hp := hprefix p hp
          omega
        rw [List.cons_append, dropTemplateArgs_open, ih hinside]
        congr 1
        omega
      · by_cases hclose : c = '>'
        · subst hclose
          simp only [List.count_cons_self, List.count_cons_of_ne hopen]
            at hprefix ⊢
          have hdepth : 1 ≤ k := by
            have hfirst := hprefix [] List.nil_prefix
            simpa using hfirst
          obtain ⟨j, rfl⟩ := Nat.exists_eq_add_of_le' hdepth
          have hinside : ∀ p, p <+: a → p.count '>' ≤ j + p.count '<' := by
            intro p hp
            have hp := hprefix p hp
            omega
          rw [List.cons_append, dropTemplateArgs_close, ih hinside]
          congr 1
          omega
        · simp only [List.count_cons_of_ne hopen, List.count_cons_of_ne hclose]
            at hprefix ⊢
          rw [List.cons_append, dropTemplateArgs_inside hopen hclose,
            ih hprefix]

/-- Balanced template arguments leave nothing behind, however many brackets are
open around them. -/
theorem Balanced.dropTemplateArgs {a : List Char} (h : Balanced a)
    {depth : Nat} (rest : List Char) :
    dropTemplateArgs depth ('<' :: (a ++ '>' :: rest)) =
      dropTemplateArgs depth rest := by
  have hinside : ∀ p, p <+: a → p.count '>' ≤ depth + p.count '<' := by
    intro p hp
    have hp := h.closes_le p hp
    omega
  have hdepth : depth + 1 + a.count '<' - a.count '>' = depth + 1 := by
    have hclosed := h.closed
    omega
  rw [dropTemplateArgs_open, dropTemplateArgs_append hinside, hdepth,
    dropTemplateArgs_close]

/-- Balanced template arguments can be left out anywhere.  The text before them
leaves any number of brackets open. -/
theorem Balanced.dropTemplateArgs_amid {v : List Char} (h : Balanced v)
    (depth : Nat) (u w : List Char) :
    QualifiedName.dropTemplateArgs depth (u ++ '<' :: (v ++ '>' :: w)) =
      QualifiedName.dropTemplateArgs depth (u ++ w) := by
  induction u generalizing depth with
  | nil => exact h.dropTemplateArgs w
  | cons c u ih =>
      simp only [List.cons_append, QualifiedName.dropTemplateArgs, ih]

/-- What has no brackets stays. -/
theorem dropTemplateArgs_plain {s : List Char} (rest : List Char)
    (h : '<' ∉ s) :
    dropTemplateArgs 0 (s ++ rest) = s ++ dropTemplateArgs 0 rest := by
  induction s with
  | nil => rfl
  | cons c s ih =>
      obtain ⟨hopen, hs⟩ := not_or.mp (mt List.mem_cons.mpr h)
      rw [List.cons_append, dropTemplateArgs_outside (Ne.symm hopen), ih hs,
        List.cons_append]

/-- **Unmatched brackets.**  If a prefix closes more brackets than are open, a
closing bracket stays. -/
theorem mem_dropTemplateArgs {depth : Nat} {cs p : List Char}
    (hp : p <+: cs) (h : depth + p.count '<' < p.count '>') :
    '>' ∈ dropTemplateArgs depth cs := by
  induction cs generalizing depth p with
  | nil =>
      rw [List.prefix_nil.mp hp] at h
      simp at h
  | cons c cs ih =>
      rcases List.prefix_cons_iff.mp hp with rfl | ⟨q, rfl, hq⟩
      · simp at h
      · by_cases hopen : c = '<'
        · subst hopen
          rw [List.count_cons_self, List.count_cons_of_ne (by decide)] at h
          rw [dropTemplateArgs_open]
          exact ih hq (by omega)
        · rw [List.count_cons_of_ne hopen] at h
          by_cases hclose : c = '>'
          · subst hclose
            rw [List.count_cons_self] at h
            cases depth with
            | zero =>
                rw [dropTemplateArgs_outside hopen]
                exact List.mem_cons_self
            | succ depth =>
                rw [dropTemplateArgs_close]
                exact ih hq (by omega)
          · rw [List.count_cons_of_ne hclose] at h
            cases depth with
            | zero =>
                rw [dropTemplateArgs_outside hopen]
                exact List.mem_cons_of_mem c (ih hq h)
            | succ depth =>
                rw [dropTemplateArgs_inside hopen hclose]
                exact ih hq h

/-- A piece that starts by closing a bracket it did not open has a closing
bracket in its segment. -/
theorem mem_stripTemplateArgs {piece v : List Char}
    (hpiece : v ++ ['>'] <+: piece) (hv : v.count '<' ≤ v.count '>') :
    '>' ∈ stripTemplateArgs piece := by
  have hopens : (v ++ ['>']).count '<' = v.count '<' := by simp
  have hcloses : (v ++ ['>']).count '>' = v.count '>' + 1 := by simp
  unfold stripTemplateArgs
  split
  · apply hpiece.subset
    exact List.mem_append_right v List.mem_cons_self
  · apply mem_dropTemplateArgs hpiece
    omega

/-- No opening bracket is kept. -/
theorem open_not_mem_dropTemplateArgs (depth : Nat) (cs : List Char) :
    '<' ∉ dropTemplateArgs depth cs := by
  fun_induction dropTemplateArgs depth cs with
  | case1 depth => exact List.not_mem_nil
  | case2 depth rest ih => exact ih
  | case3 depth c rest hopen hclose ih => exact ih
  | case4 c rest hopen hclose ih =>
      rw [List.mem_cons, not_or]
      exact ⟨Ne.symm hopen, ih⟩
  | case5 depth c rest hopen hclose hdepth ih => exact ih

/-- Outside an operator's name every bracket is taken for one of arguments. -/
theorem stripTemplateArgs_of_not_operator {s : List Char}
    (h : ¬ "operator".toList <+: s) :
    stripTemplateArgs s = dropTemplateArgs 0 s :=
  if_neg (mt List.isPrefixOf_iff_prefix.mp h)

/-- A name without opening brackets stays as it is. -/
theorem stripTemplateArgs_of_not_mem {s : List Char} (h : '<' ∉ s) :
    stripTemplateArgs s = s := by
  have hplain := dropTemplateArgs_plain [] h
  rw [List.append_nil] at hplain
  unfold stripTemplateArgs
  split
  · rfl
  · exact hplain.trans (List.append_nil s)

/-- Stripping twice is stripping once. -/
theorem stripTemplateArgs_idempotent (s : List Char) :
    stripTemplateArgs (stripTemplateArgs s) = stripTemplateArgs s := by
  by_cases hoperator : "operator".toList <+: s
  · have hkept : stripTemplateArgs s = s :=
      if_pos (List.isPrefixOf_iff_prefix.mpr hoperator)
    rw [hkept, hkept]
  · apply stripTemplateArgs_of_not_mem
    rw [stripTemplateArgs_of_not_operator hoperator]
    exact open_not_mem_dropTemplateArgs 0 s

/-- **Template arguments are erased.**  A name that is no operator keeps no
opening bracket, and nothing more is dropped from what is left of a name.
Balanced arguments can be left out of a name at any place, also behind brackets
that are open and behind closing ones that match none. -/
theorem stripTemplateArgs_erases :
    (∀ s : List Char, ¬ "operator".toList <+: s →
        '<' ∉ stripTemplateArgs s) ∧
      (∀ s : List Char,
        stripTemplateArgs (stripTemplateArgs s) = stripTemplateArgs s) ∧
      ∀ u v w : List Char, Balanced v →
        ¬ "operator".toList <+: u ++ '<' :: (v ++ '>' :: w) →
        ¬ "operator".toList <+: u ++ w →
        stripTemplateArgs (u ++ '<' :: (v ++ '>' :: w)) =
          stripTemplateArgs (u ++ w) := by
  refine ⟨fun s hname => ?_, stripTemplateArgs_idempotent,
    fun u v w hv hwith hwithout => ?_⟩
  · rw [stripTemplateArgs_of_not_operator hname]
    exact open_not_mem_dropTemplateArgs 0 s
  · rw [stripTemplateArgs_of_not_operator hwith,
      stripTemplateArgs_of_not_operator hwithout]
    exact hv.dropTemplateArgs_amid 0 u w

/-- Nested arguments inside of a bracket that is open, and behind a closing one
that matches none. -/
theorem stripTemplateArgs_erases_nested :
    Balanced "k<v>".toList ∧
      stripTemplateArgs "a>b<c<k<v>>>d".toList = "a>bd".toList ∧
      '<' ∉ stripTemplateArgs "a>b<c<k<v>>>d".toList := by
  have hbalanced : Balanced "k<v>".toList := by decide
  obtain ⟨hclean, _, herase⟩ := stripTemplateArgs_erases
  have herased := herase "a>b<c".toList "k<v>".toList ">d".toList hbalanced
    (by decide) (by decide)
  exact ⟨hbalanced, herased.trans (by decide),
    hclean "a>b<c<k<v>>>d".toList (by decide)⟩

end QualifiedName

end CallGraph
