/-!
# Maps in order of insertion

A finite map whose keys stay in the order in which they first came.  `adjust`
is the one way to add to it: it changes the value of a key in place, or puts
the key at the end.
-/

namespace CallGraph

/-- A finite map that keeps its keys in the order of their first insertion. -/
structure OrderedMap (κ ν : Type) where
  entries : List (κ × ν)
  nodup : (entries.map Prod.fst).Nodup

namespace OrderedMap

variable {κ ν : Type} [DecidableEq κ]

/-- Changes the value at `k`, which is `start` if `k` is new, in a list of
entries. -/
def adjustEntries (k : κ) (start : ν) (f : ν → ν) : List (κ × ν) → List (κ × ν)
  | [] => [(k, f start)]
  | (key, v) :: rest =>
    if key = k then (key, f v) :: rest
    else (key, v) :: adjustEntries k start f rest

/-- Adjusting an entry adds its key and loses none. -/
theorem mem_keys_adjustEntries {k z : κ} {start : ν} {f : ν → ν}
    {es : List (κ × ν)} :
    z ∈ (adjustEntries k start f es).map Prod.fst ↔
      z = k ∨ z ∈ es.map Prod.fst := by
  induction es with
  | nil => simp [adjustEntries]
  | cons e rest ih =>
    obtain ⟨key, v⟩ := e
    rw [adjustEntries]
    split
    · rename_i h
      subst h
      simp
    · simp only [List.map_cons, List.mem_cons, ih]
      grind

/-- Adjusting an entry keeps the keys apart. -/
theorem nodup_adjustEntries {k : κ} {start : ν} {f : ν → ν}
    {es : List (κ × ν)} (h : (es.map Prod.fst).Nodup) :
    ((adjustEntries k start f es).map Prod.fst).Nodup := by
  induction es with
  | nil => simp [adjustEntries]
  | cons e rest ih =>
    obtain ⟨key, v⟩ := e
    simp only [List.map_cons, List.nodup_cons] at h
    rw [adjustEntries]
    split
    · simpa using h
    · rename_i hne
      simp only [List.map_cons, List.nodup_cons]
      refine ⟨fun hmem => ?_, ih h.2⟩
      rcases mem_keys_adjustEntries.1 hmem with e | hmem
      · exact hne e
      · exact h.1 hmem

/-- The map without keys. -/
def empty : OrderedMap κ ν := ⟨[], List.nodup_nil⟩

/-- Changes the value at `k` by `f`; a new key is put at the end, with
`f start`. -/
def adjust (m : OrderedMap κ ν) (k : κ) (start : ν) (f : ν → ν) :
    OrderedMap κ ν :=
  ⟨adjustEntries k start f m.entries, nodup_adjustEntries m.nodup⟩

/-- The keys, in order of first insertion. -/
def keys (m : OrderedMap κ ν) : List κ := m.entries.map Prod.fst

/-- The values, in the order of their keys. -/
def values (m : OrderedMap κ ν) : List ν := m.entries.map Prod.snd

/-- The value at a key. -/
def get? (m : OrderedMap κ ν) (k : κ) : Option ν :=
  (m.entries.find? fun e => e.1 = k).map Prod.snd

/-- An adjusted map has the new value under the key, made from the old one or
from the start, and all else as before. -/
theorem get?_adjust (m : OrderedMap κ ν) (k z : κ) (start : ν) (f : ν → ν) :
    (m.adjust k start f).get? z =
      if z = k then some (f ((m.get? k).getD start)) else m.get? z := by
  obtain ⟨es, h⟩ := m
  simp only [get?, adjust]
  clear h
  induction es with
  | nil => by_cases hz : k = z <;> simp [adjustEntries, hz, eq_comm]
  | cons e rest ih =>
    obtain ⟨key, v⟩ := e
    by_cases hk : key = k
    · subst hk
      by_cases hz : key = z
      · subst hz
        simp [adjustEntries]
      · simp [adjustEntries, hz, Ne.symm hz]
    · by_cases hz : key = z
      · subst hz
        simp [adjustEntries, hk]
      · simp only [adjustEntries, hk, hz, if_false, decide_false,
          List.find?_cons]
        exact ih

end OrderedMap

end CallGraph
