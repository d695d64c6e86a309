/-!
# Sets of names

A set of names is a strictly ascending list, names being compared character by
character (which is also the order of their UTF-8 bytes).  The order is part of
the type, so that a set has one representation: two sets with the same members
are equal (`NameSet.ext`).
-/

namespace CallGraph

/-- A finite set of names in ascending order. -/
structure NameSet where
  toList : List String
  ascending : toList.Pairwise (· < ·)
deriving DecidableEq

namespace NameSet

instance : Membership String NameSet := ⟨fun s x => x ∈ s.toList⟩

instance (x : String) (s : NameSet) : Decidable (x ∈ s) :=
  inferInstanceAs (Decidable (x ∈ s.toList))

/-- Puts a name into its place in an ascending list, unless it is there
already. -/
def place (x : String) : List String → List String
  | [] => [x]
  | y :: ys =>
    if x < y then x :: y :: ys
    else if x = y then y :: ys
    else y :: place x ys

/-- Placing a name adds that name and loses none. -/
theorem mem_place {x z : String} {ys : List String} :
    z ∈ place x ys ↔ z = x ∨ z ∈ ys := by
  induction ys with
  | nil => simp [place]
  | cons y ys ih =>
    rw [place]
    split
    · simp
    · split
      · rename_i h
        subst h
        simp
      · simp only [List.mem_cons, ih]
        grind

/-- Placing a name keeps a sorted list sorted, with no name twice. -/
theorem pairwise_place {x : String} {ys : List String}
    (h : ys.Pairwise (· < ·)) :
    (place x ys).Pairwise (· < ·) := by
  induction ys with
  | nil => simp [place]
  | cons y ys ih =>
    obtain ⟨hy, hys⟩ := List.pairwise_cons.1 h
    rw [place]
    split
    · rename_i hxy
      refine List.pairwise_cons.2 ⟨fun z hz => ?_, h⟩
      rcases List.mem_cons.1 hz with rfl | hz
      · exact hxy
      · exact String.lt_trans hxy (hy z hz)
    · split
      · exact h
      · rename_i hle hne
        refine List.pairwise_cons.2 ⟨fun z hz => ?_, ih hys⟩
        rcases mem_place.1 hz with rfl | hz
        · refine Decidable.byContradiction fun hyz => hne ?_
          exact String.le_antisymm (String.not_lt.1 hyz) (String.not_lt.1 hle)
        · exact hy z hz

/-- The set without members. -/
def empty : NameSet := ⟨[], List.Pairwise.nil⟩

instance : EmptyCollection NameSet := ⟨empty⟩

/-- The set with one more member. -/
def insert (x : String) (s : NameSet) : NameSet :=
  ⟨place x s.toList, pairwise_place s.ascending⟩

/-- The set of the members of a list. -/
def ofList (xs : List String) : NameSet := xs.foldr insert empty

/-- The members of either set. -/
def union (s t : NameSet) : NameSet := s.toList.foldr insert t

/-- The members of some set of a list. -/
def unions (ss : List NameSet) : NameSet := ofList (ss.flatMap toList)

/-- The members that satisfy `p`. -/
def filter (p : String → Bool) (s : NameSet) : NameSet :=
  ⟨s.toList.filter p, s.ascending.filter p⟩

/-- The `n` least members, or all if there are fewer. -/
def take (n : Nat) (s : NameSet) : NameSet :=
  ⟨s.toList.take n, s.ascending.sublist (List.take_sublist n s.toList)⟩

/-- The number of members. -/
def size (s : NameSet) : Nat := s.toList.length

/-- Whether there is no member. -/
def isEmpty (s : NameSet) : Bool := s.toList.isEmpty

@[simp] theorem mem_toList {x : String} {s : NameSet} :
    x ∈ s.toList ↔ x ∈ s :=
  Iff.rfl

@[simp] theorem mem_mk {x : String} {xs : List String}
    {h : xs.Pairwise (· < ·)} :
    x ∈ NameSet.mk xs h ↔ x ∈ xs := Iff.rfl

@[simp] theorem not_mem_empty (x : String) : ¬ x ∈ empty := List.not_mem_nil

@[simp] theorem mem_insert {x z : String} {s : NameSet} :
    z ∈ s.insert x ↔ z = x ∨ z ∈ s :=
  mem_place

/-- Inserting a list of names adds just these. -/
@[simp] theorem mem_foldr_insert {z : String} {xs : List String} {s : NameSet} :
    z ∈ xs.foldr insert s ↔ z ∈ xs ∨ z ∈ s := by
  induction xs with
  | nil => simp
  | cons x xs ih => simp [ih, or_assoc]

@[simp] theorem mem_ofList {z : String} {xs : List String} :
    z ∈ ofList xs ↔ z ∈ xs := by
  simp [ofList]

@[simp] theorem mem_union {z : String} {s t : NameSet} :
    z ∈ s.union t ↔ z ∈ s ∨ z ∈ t := by
  simp [union]

@[simp] theorem mem_unions {z : String} {ss : List NameSet} :
    z ∈ unions ss ↔ ∃ s ∈ ss, z ∈ s := by
  simp [unions]

@[simp] theorem mem_filter {z : String} {p : String → Bool} {s : NameSet} :
    z ∈ s.filter p ↔ z ∈ s ∧ p z := by
  simp only [filter, mem_mk, List.mem_filter, mem_toList]

/-- Ascending lists with the same members are equal. -/
theorem eq_of_mem_iff {xs ys : List String} (hx : xs.Pairwise (· < ·))
    (hy : ys.Pairwise (· < ·))
    (h : ∀ z, z ∈ xs ↔ z ∈ ys) : xs = ys := by
  induction xs generalizing ys with
  | nil =>
    cases ys with
    | nil => rfl
    | cons y ys => exact absurd ((h y).2 (by simp)) (by simp)
  | cons x xs ih =>
    cases ys with
    | nil => exact absurd ((h x).1 (by simp)) (by simp)
    | cons y ys =>
      obtain ⟨hxh, hxt⟩ := List.pairwise_cons.1 hx
      obtain ⟨hyh, hyt⟩ := List.pairwise_cons.1 hy
      have hxy : x = y := by
        rcases List.mem_cons.1 ((h x).1 (by simp)) with e | hx'
        · exact e
        · rcases List.mem_cons.1 ((h y).2 (by simp)) with e | hy'
          · exact e.symm
          · exact absurd (String.lt_trans (hxh y hy') (hyh x hx'))
              (String.lt_irrefl x)
      subst hxy
      congr 1
      refine ih hxt hyt fun z => ⟨fun hz => ?_, fun hz => ?_⟩
      · rcases List.mem_cons.1 ((h z).1 (List.mem_cons_of_mem x hz)) with
          e | hz'
        · exact absurd (e ▸ hxh z hz) (String.lt_irrefl x)
        · exact hz'
      · rcases List.mem_cons.1 ((h z).2 (List.mem_cons_of_mem x hz)) with
          e | hz'
        · exact absurd (e ▸ hyh z hz) (String.lt_irrefl x)
        · exact hz'

/-- Sets with the same members are equal. -/
theorem ext {s t : NameSet} (h : ∀ z, z ∈ s ↔ z ∈ t) : s = t := by
  obtain ⟨xs, hx⟩ := s
  obtain ⟨ys, hy⟩ := t
  simp only [mem_mk] at h
  simp only [mk.injEq]
  exact eq_of_mem_iff hx hy h

end NameSet

end CallGraph
