import CallGraph.Text.Blank
import CallGraph.Text.Fold
import CallGraph.Text.Word

/-!
# Sets of characters

The sets of characters that patterns name, with the usual operations and
closure under change of letter case.  A set is kept as ascending ranges of code
points that neither overlap nor touch, so that membership is a lookup and the
extent of a set can be measured.
-/

namespace CallGraph

/-- Whether ranges of code points begin at `start` or later, none of them empty
and each with a gap behind the one before. -/
def isSpreadFrom (start : Nat) : List (Nat × Nat) → Bool
  | [] => true
  | (first, last) :: rest =>
    start ≤ first && first ≤ last && isSpreadFrom (last + 2) rest

@[simp] theorem isSpreadFrom_nil (start : Nat) :
    isSpreadFrom start [] = true :=
  rfl

@[simp] theorem isSpreadFrom_cons {start : Nat} {r : Nat × Nat}
    {rest : List (Nat × Nat)} :
    isSpreadFrom start (r :: rest) = true ↔
      start ≤ r.1 ∧ r.1 ≤ r.2 ∧ isSpreadFrom (r.2 + 2) rest = true := by
  simp [isSpreadFrom, and_assoc]

/-- Ranges that begin late begin no earlier than an earlier start. -/
theorem isSpreadFrom_of_le {start start' : Nat} (hle : start' ≤ start)
    {ranges : List (Nat × Nat)} (h : isSpreadFrom start ranges = true) :
    isSpreadFrom start' ranges = true := by
  cases ranges with
  | nil => rfl
  | cons r rest =>
      rw [isSpreadFrom_cons] at h ⊢
      exact ⟨Nat.le_trans hle h.1, h.2⟩

/-- None of the ranges is empty. -/
theorem first_le_last_of_isSpreadFrom {start : Nat}
    {ranges : List (Nat × Nat)} (h : isSpreadFrom start ranges = true) :
    ∀ r ∈ ranges, r.1 ≤ r.2 := by
  induction ranges generalizing start with
  | nil => exact fun r hr => absurd hr List.not_mem_nil
  | cons first rest ih =>
      obtain ⟨-, hfirst, hrest⟩ := isSpreadFrom_cons.mp h
      intro r hr
      rcases List.mem_cons.mp hr with rfl | hr
      · exact hfirst
      · exact ih hrest r hr

/-- A set of characters: ascending ranges of code points that neither overlap
nor touch. -/
structure CharSet where
  ranges : List (Nat × Nat)
  spread : isSpreadFrom 0 ranges = true
deriving DecidableEq

namespace CharSet

/-- Whether a code point belongs to a set. -/
def has (s : CharSet) (n : Nat) : Bool := Text.inRanges s.ranges n

/-- Whether a character belongs to a set. -/
def contains (s : CharSet) (c : Char) : Bool := s.has c.toNat

/-- Puts a range in front of ranges that begin no earlier, and joins what
overlaps or touches. -/
def joinFrom (current : Nat × Nat) : List (Nat × Nat) → List (Nat × Nat)
  | [] => [current]
  | next :: rest =>
    if next.1 ≤ current.2 + 1 then
      joinFrom (current.1, max current.2 next.2) rest
    else current :: joinFrom next rest

/-- Joining leaves gaps, and begins where the first range does. -/
theorem isSpreadFrom_joinFrom {current : Nat × Nat}
    {rest : List (Nat × Nat)} (hcurrent : current.1 ≤ current.2)
    (hrest : ∀ r ∈ rest, r.1 ≤ r.2)
    (hsorted : (current :: rest).Pairwise fun a b => a.1 ≤ b.1) :
    isSpreadFrom current.1 (joinFrom current rest) = true := by
  induction rest generalizing current with
  | nil => simp [joinFrom, hcurrent]
  | cons next rest ih =>
      have hnext := hrest next List.mem_cons_self
      have htail : ∀ r ∈ rest, r.1 ≤ r.2 := fun r hr =>
        hrest r (List.mem_cons_of_mem _ hr)
      obtain ⟨hfirst, hlater⟩ := List.pairwise_cons.mp hsorted
      rw [joinFrom]
      by_cases htouch : next.1 ≤ current.2 + 1
      · rw [if_pos htouch]
        refine @ih (current.1, max current.2 next.2) ?_ htail ?_
        · exact Nat.le_trans hcurrent (Nat.le_max_left _ _)
        · refine List.pairwise_cons.mpr ⟨fun r hr => ?_, hlater.tail⟩
          exact hfirst r (List.mem_cons_of_mem _ hr)
      · rw [if_neg htouch, isSpreadFrom_cons]
        refine ⟨Nat.le_refl _, hcurrent, ?_⟩
        exact isSpreadFrom_of_le (by omega) (ih hnext htail hlater)

/-- Ranges in any order, sorted and joined; empty ones do not count. -/
def normalize (rs : List (Nat × Nat)) : List (Nat × Nat) :=
  match (rs.filter fun r => r.1 ≤ r.2).mergeSort fun a b => a.1 ≤ b.1 with
  | [] => []
  | first :: rest => joinFrom first rest

/-- Sorting ranges puts them in the order of their first code points. -/
theorem pairwise_mergeSort_first (rs : List (Nat × Nat)) :
    (rs.mergeSort fun a b => a.1 ≤ b.1).Pairwise fun a b => a.1 ≤ b.1 := by
  have hsorted := @List.pairwise_mergeSort _
    (fun a b : Nat × Nat => decide (a.1 ≤ b.1))
    (fun a b c hab hbc => decide_eq_true
      (Nat.le_trans (of_decide_eq_true hab) (of_decide_eq_true hbc)))
    (fun a b => by simpa using Nat.le_total a.1 b.1) rs
  exact hsorted.imp of_decide_eq_true

/-- Whatever the ranges were, their normal form is spread. -/
theorem isSpreadFrom_normalize (rs : List (Nat × Nat)) :
    isSpreadFrom 0 (normalize rs) = true := by
  have hsorted := pairwise_mergeSort_first (rs.filter fun r => r.1 ≤ r.2)
  have hfilled : ∀ r ∈ (rs.filter fun r => r.1 ≤ r.2).mergeSort
      fun a b => a.1 ≤ b.1, r.1 ≤ r.2 := by
    intro r hr
    simpa using (List.mem_filter.mp (List.mem_mergeSort.mp hr)).2
  rw [normalize]
  split
  · rfl
  · rename_i first rest heq
    rw [heq] at hsorted hfilled
    apply isSpreadFrom_of_le (Nat.zero_le first.1)
    apply isSpreadFrom_joinFrom (hfilled first List.mem_cons_self)
    · exact fun r hr => hfilled r (List.mem_cons_of_mem _ hr)
    · exact hsorted

/-- The set of the code points in any of the ranges. -/
def ofRanges (rs : List (Nat × Nat)) : CharSet :=
  ⟨normalize rs, isSpreadFrom_normalize rs⟩

/-- The set without characters. -/
def none : CharSet := ⟨[], rfl⟩

/-- The largest code point. -/
def lastPoint : Nat := 0x10FFFF

/-- The set of all characters. -/
def all : CharSet := ⟨[(0, lastPoint)], rfl⟩

/-- The characters from one to another that does not come before it. -/
def between (a b : Char) (h : a ≤ b) : CharSet :=
  ⟨[(a.toNat, b.toNat)],
    isSpreadFrom_cons.mpr ⟨Nat.zero_le _, h, isSpreadFrom_nil _⟩⟩

/-- The set of one character. -/
def single (c : Char) : CharSet := between c c (Char.le_refl c)

/-- The set of the characters of a list. -/
def ofChars (cs : List Char) : CharSet :=
  ofRanges (cs.map fun c => (c.toNat, c.toNat))

/-- The only character of a set, if it has just one. -/
def only? (s : CharSet) : Option Char :=
  match s.ranges with
  | [(first, last)] =>
    if first = last then some (Char.ofNat first) else Option.none
  | _ => Option.none

/-- The code point of the next character; those of surrogates stand for
none. -/
def pointAfter (n : Nat) : Nat := if n = 0xD7FF then 0xE000 else n + 1

/-- The code point of the character before. -/
def pointBefore (n : Nat) : Nat := if n = 0xE000 then 0xD7FF else n - 1

theorem lt_pointAfter (n : Nat) : n < pointAfter n := by
  rw [pointAfter]
  split <;> omega

theorem pointBefore_lt {n : Nat} (h : 0 < n) : pointBefore n < n := by
  rw [pointBefore]
  split <;> omega

/-- The gaps between ranges from a code point on. -/
def gapsFrom (start : Nat) : List (Nat × Nat) → List (Nat × Nat)
  | [] => if start ≤ lastPoint then [(start, lastPoint)] else []
  | (first, last) :: rest =>
    if start < first ∧ start ≤ pointBefore first then
      (start, pointBefore first) :: gapsFrom (pointAfter last) rest
    else gapsFrom (max start (pointAfter last)) rest

/-- The gaps between ranges have the ranges between them. -/
theorem isSpreadFrom_gapsFrom {ranges : List (Nat × Nat)}
    (h : ∀ r ∈ ranges, r.1 ≤ r.2) (start : Nat) :
    isSpreadFrom start (gapsFrom start ranges) = true := by
  induction ranges generalizing start with
  | nil =>
      rw [gapsFrom]
      split
      · rename_i hle
        simpa using hle
      · rfl
  | cons r rest ih =>
      have hr := h r List.mem_cons_self
      have hafter := lt_pointAfter r.2
      have hrest := ih fun r hr => h r (List.mem_cons_of_mem _ hr)
      rw [gapsFrom]
      by_cases hgap : start < r.1 ∧ start ≤ pointBefore r.1
      · have hbefore := pointBefore_lt (Nat.zero_lt_of_lt hgap.1)
        rw [if_pos hgap, isSpreadFrom_cons]
        refine ⟨Nat.le_refl _, hgap.2, ?_⟩
        exact isSpreadFrom_of_le (by simp only; omega) (hrest _)
      · rw [if_neg hgap]
        exact isSpreadFrom_of_le (Nat.le_max_left _ _) (hrest _)

/-- The characters that do not belong to a set. -/
def compl (s : CharSet) : CharSet :=
  ⟨gapsFrom 0 s.ranges,
    isSpreadFrom_gapsFrom (first_le_last_of_isSpreadFrom s.spread) 0⟩

/-- The characters of either set. -/
def union (a b : CharSet) : CharSet := ofRanges (a.ranges ++ b.ranges)

/-- The characters of both sets. -/
def inter (a b : CharSet) : CharSet := (a.compl.union b.compl).compl

/-- The characters of the first set that do not belong to the second. -/
def diff (a b : CharSet) : CharSet := (a.compl.union b).compl

/-- The characters of exactly one of two sets. -/
def symmDiff (a b : CharSet) : CharSet := (a.union b).diff (a.inter b)

/-- Adds both members of every pair whose second member is also the second
member of a pair that meets the set, or belongs to the set itself. -/
def closeUnder (pairs : List (Nat × Nat)) (s : CharSet) : CharSet :=
  let met := ofRanges ((pairs.filter fun (n, m) => s.has n || s.has m).map
    fun (_, m) => (m, m))
  ofRanges (s.ranges ++ (pairs.filter fun (_, m) => met.has m).flatMap
    fun (n, m) => [(n, n), (m, m)])

/-- The characters equal up to case to a character of the set. -/
def anyCase (s : CharSet) : CharSet := s.closeUnder Text.foldPairs

/-- The capital letters of ASCII, each with its small letter. -/
def asciiPairs : List (Nat × Nat) :=
  (List.range 26).map fun k => (0x41 + k, 0x61 + k)

/-- The characters equal to a character of the set up to the case of ASCII
letters. -/
def anyAsciiCase (s : CharSet) : CharSet := s.closeUnder asciiPairs

/-- Whether all the characters of a set are ASCII. -/
def isAscii (s : CharSet) : Bool := s.ranges.all fun (_, last) => last ≤ 0x7F

/-- Decimal digits of all scripts. -/
def digit : CharSet := ⟨Text.digitRanges, by decide +kernel⟩

/-- Blank characters. -/
def blank : CharSet := ⟨Text.blankRanges, by decide +kernel⟩

/-- Characters of words. -/
def word : CharSet := ⟨Text.wordRanges, by decide +kernel⟩

/-- The characters of ASCII. -/
def ascii : CharSet := ⟨[(0x00, 0x7F)], rfl⟩

/-- The decimal digits of ASCII. -/
def asciiDigit : CharSet := ⟨[(0x30, 0x39)], rfl⟩

/-- The blank characters of ASCII. -/
def asciiBlank : CharSet := ⟨[(0x09, 0x0D), (0x20, 0x20)], rfl⟩

/-- The letters and digits of ASCII, and the underscore. -/
def asciiWord : CharSet :=
  ⟨[(0x30, 0x39), (0x41, 0x5A), (0x5F, 0x5F), (0x61, 0x7A)], rfl⟩

/-- The sets of ASCII characters that are known by name inside brackets. -/
def named? : String → Option CharSet
  | "alnum" => some ⟨[(0x30, 0x39), (0x41, 0x5A), (0x61, 0x7A)], rfl⟩
  | "alpha" => some ⟨[(0x41, 0x5A), (0x61, 0x7A)], rfl⟩
  | "ascii" => some ascii
  | "blank" => some ⟨[(0x09, 0x09), (0x20, 0x20)], rfl⟩
  | "cntrl" => some ⟨[(0x00, 0x1F), (0x7F, 0x7F)], rfl⟩
  | "digit" => some asciiDigit
  | "graph" => some ⟨[(0x21, 0x7E)], rfl⟩
  | "lower" => some ⟨[(0x61, 0x7A)], rfl⟩
  | "print" => some ⟨[(0x20, 0x7E)], rfl⟩
  | "punct" =>
    some ⟨[(0x21, 0x2F), (0x3A, 0x40), (0x5B, 0x60), (0x7B, 0x7E)], rfl⟩
  | "space" => some asciiBlank
  | "upper" => some ⟨[(0x41, 0x5A)], rfl⟩
  | "word" => some asciiWord
  | "xdigit" => some ⟨[(0x30, 0x39), (0x41, 0x46), (0x61, 0x66)], rfl⟩
  | _ => Option.none

end CharSet

end CallGraph
