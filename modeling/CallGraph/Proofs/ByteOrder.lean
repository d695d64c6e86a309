import Mathlib.Algebra.Group.Nat.Defs

/-!
# The order of names is the order of their bytes

Names and paths are compared character by character.  This file shows that
the comparison agrees with the one of their UTF-8 encodings, byte by byte, so
that everything sorted here is sorted for a reader of bytes as well.

An encoding is a first byte followed by `k` continuation bytes, which hold the
last `k` base-64 digits of the code point.  The key fact is
`encode_append_lt`: the encoding of a lesser character is lesser whatever
follows either of them.  Between encodings of different lengths the first byte
decides, between encodings of one length the first digit that differs.
-/

namespace CallGraph.Text

/-- The UTF-8 bytes of a text. -/
def bytes (s : String) : List UInt8 := s.toByteArray.data.toList

/-- The bytes of a text are the encodings of its characters, one after another.
-/
theorem bytes_eq_flatMap (s : String) :
    bytes s = s.toList.flatMap String.utf8EncodeChar := by
  unfold bytes
  rw [← String.utf8Encode_toList]
  simp [List.utf8Encode]

/-- The number of continuation bytes of a code point. -/
def continuationCount (n : Nat) : Nat :=
  if n ≤ 0x7f then 0 else if n ≤ 0x7ff then 1 else if n ≤ 0xffff then 2 else 3

/-- What marks the first byte of an encoding with `k` continuation bytes. -/
def leadMark : Nat → Nat
  | 0 => 0
  | 1 => 0xc0
  | 2 => 0xe0
  | _ => 0xf0

/-- The first byte of the encoding of a code point, as a number. -/
def lead (n : Nat) : Nat :=
  n / 64 ^ continuationCount n + leadMark (continuationCount n)

/-- The last `k` base-64 digits of a code point, as continuation bytes. -/
def continuation : Nat → Nat → List UInt8
  | 0, _ => []
  | k + 1, n => UInt8.ofNat (n / 64 ^ k % 64 + 0x80) :: continuation k n

/-- Every character's code is below the limit of the scalar values. -/
theorem toNat_lt_scalarLimit (c : Char) : c.toNat < 0x110000 := by
  rcases c.valid with h | ⟨-, h⟩
  · have hlow : c.toNat < 0xd800 := h
    omega
  · exact h

/-- An encoding is its marked first byte and its continuation. -/
theorem utf8EncodeChar_eq_lead_cons (c : Char) :
    String.utf8EncodeChar c =
      UInt8.ofNat (lead c.toNat) ::
        continuation (continuationCount c.toNat) c.toNat := by
  have hlimit := toNat_lt_scalarLimit c
  have hval : c.val.toNat = c.toNat := rfl
  unfold String.utf8EncodeChar lead continuationCount
  rw [hval]
  generalize c.toNat = n at hlimit
  by_cases h1 : n ≤ 0x7f
  · simp [h1, leadMark, continuation]
  by_cases h2 : n ≤ 0x7ff
  · have htop : n / 64 % 32 = n / 64 := by omega
    simp [h1, h2, htop, leadMark, continuation]
  by_cases h3 : n ≤ 0xffff
  · have htop : n / 4096 % 16 = n / 4096 := by omega
    simp [h1, h2, h3, htop, leadMark, continuation]
  · have htop : n / 262144 % 8 = n / 262144 := by omega
    simp [h1, h2, h3, htop, leadMark, continuation]

/-- Byte strings that differ first in a smaller byte, or that go on in order
after an equal one, are in order. -/
theorem ofNat_cons_lt {x y : Nat} {s t : List UInt8} (hy : y < 256)
    (h : x < y ∨ x = y ∧ s < t) :
    UInt8.ofNat x :: s < UInt8.ofNat y :: t := by
  rw [List.cons_lt_cons_iff, UInt8.lt_iff_toNat_lt]
  rcases h with h | ⟨rfl, h⟩
  · left
    simp only [UInt8.toNat_ofNat', Nat.reducePow]
    omega
  · exact Or.inr ⟨rfl, h⟩

/-- Code points that agree above their last `k` digits compare as those
digits do. -/
theorem continuation_append_lt {m n k : Nat} (hlt : m < n)
    (htop : m / 64 ^ k = n / 64 ^ k) (s t : List UInt8) :
    continuation k m ++ s < continuation k n ++ t := by
  induction k with
  | zero =>
      rw [Nat.pow_zero, Nat.div_one, Nat.div_one] at htop
      omega
  | succ k ih =>
      rw [Nat.pow_succ, ← Nat.div_div_eq_div_mul,
        ← Nat.div_div_eq_div_mul] at htop
      have hle : m / 64 ^ k ≤ n / 64 ^ k := Nat.div_le_div_right (by omega)
      simp only [continuation, List.cons_append]
      apply ofNat_cons_lt (by omega)
      by_cases hdigit : m / 64 ^ k = n / 64 ^ k
      · exact Or.inr ⟨by omega, ih hdigit⟩
      · left
        omega

/-- The four lengths of an encoding. -/
theorem lead_cases (n : Nat) :
    n ≤ 0x7f ∧ continuationCount n = 0 ∧ lead n = n ∨
    0x7f < n ∧ n ≤ 0x7ff ∧ continuationCount n = 1 ∧ lead n = n / 64 + 0xc0 ∨
    0x7ff < n ∧ n ≤ 0xffff ∧ continuationCount n = 2 ∧
      lead n = n / 4096 + 0xe0 ∨
    0xffff < n ∧ continuationCount n = 3 ∧ lead n = n / 262144 + 0xf0 := by
  unfold lead continuationCount
  repeat' split
  all_goals simp [leadMark]
  all_goals omega

theorem lead_lt {n : Nat} (h : n < 0x110000) : lead n < 256 := by
  have hcases := lead_cases n
  omega

/-- Where the first bytes of two code points do not decide, they have the same
number of continuation bytes and agree above them. -/
theorem lead_lt_or_eq {m n : Nat} (hlt : m < n) :
    lead m < lead n ∨
      continuationCount m = continuationCount n ∧
        m / 64 ^ continuationCount m = n / 64 ^ continuationCount m := by
  have hn := lead_cases n
  rcases lead_cases m with ⟨hm, hcount, hlead⟩ | ⟨_, hm, hcount, hlead⟩ |
      ⟨_, hm, hcount, hlead⟩ | ⟨hm, hcount, hlead⟩
  all_goals
    rw [hcount, hlead]
    simp only [Nat.reducePow]
    omega

/-- **Separation of encodings.**  The encoding of a lesser character is
lesser, whatever follows the two. -/
theorem encode_append_lt {c d : Char} (h : c < d) (s t : List UInt8) :
    String.utf8EncodeChar c ++ s < String.utf8EncodeChar d ++ t := by
  have hlt : c.toNat < d.toNat := h
  rw [utf8EncodeChar_eq_lead_cons, utf8EncodeChar_eq_lead_cons]
  apply ofNat_cons_lt (lead_lt (toNat_lt_scalarLimit d))
  rcases lead_lt_or_eq hlt with hlead | ⟨hcount, htop⟩
  · exact Or.inl hlead
  · right
    refine ⟨by rw [lead, lead, ← hcount, htop], ?_⟩
    rw [← hcount]
    exact continuation_append_lt hlt htop s t

/-- The encodings of characters in order are in order. -/
theorem flatMap_encode_lt {xs ys : List Char} (h : xs < ys) :
    xs.flatMap String.utf8EncodeChar < ys.flatMap String.utf8EncodeChar := by
  induction h with
  | @nil d ys =>
      rw [List.flatMap_nil, List.flatMap_cons, utf8EncodeChar_eq_lead_cons]
      exact List.nil_lt_cons _ _
  | rel hlt => exact encode_append_lt hlt _ _
  | @cons c xs ys _ ih =>
      rw [List.flatMap_cons, List.flatMap_cons]
      exact List.append_left_lt ih

/-- A text before another has its bytes before the other's. -/
theorem bytes_lt_of_lt {a b : String} (h : a < b) : bytes a < bytes b := by
  rw [bytes_eq_flatMap, bytes_eq_flatMap]
  exact flatMap_encode_lt h

/-- **Byte order.**  A text comes before another exactly when its bytes do. -/
theorem bytes_lt_bytes {a b : String} : bytes a < bytes b ↔ a < b := by
  refine ⟨fun h => ?_, bytes_lt_of_lt⟩
  by_cases hba : b < a
  · exact absurd h (List.lt_asymm (bytes_lt_of_lt hba))
  by_cases hab : a < b
  · exact hab
  · have heq : a = b := String.le_antisymm hba hab
    rw [heq] at h
    exact absurd h (List.lt_irrefl _)

/-- The order of bytes and the order of texts agree, with equality allowed. -/
theorem bytes_le_bytes {a b : String} : bytes a ≤ bytes b ↔ a ≤ b :=
  not_congr bytes_lt_bytes

end CallGraph.Text
