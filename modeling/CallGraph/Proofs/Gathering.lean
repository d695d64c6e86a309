import CallGraph.OrderedMap
import Mathlib.Data.List.Induction

/-!
# Maps gathered from pairs

An index is built by adding pairs to an ordered map, one after the other.
`gather` is that loop.  Two facts describe its outcome completely: the keys are
those of the pairs in order of first occurrence (`keys_gather`), and the value
at a key is folded from the pairs with that key, in their order
(`getD_gather`).
-/

namespace CallGraph

/-- A repeated item adds nothing, a new one comes last. -/
theorem eraseDups_concat {α : Type} [DecidableEq α] (xs : List α) (x : α) :
    (xs ++ [x]).eraseDups =
      if x ∈ xs then xs.eraseDups else xs.eraseDups ++ [x] := by
  rw [List.eraseDups_append]
  by_cases hx : x ∈ xs
  · simp [List.removeAll, hx]
  · simp [List.removeAll, hx, List.eraseDups_cons]

/-- Dropping repetitions only drops. -/
theorem eraseDups_sublist {α : Type} [DecidableEq α] (xs : List α) :
    xs.eraseDups.Sublist xs := by
  induction xs using List.reverseRecOn with
  | nil => simp
  | append_singleton xs x ih =>
      rw [eraseDups_concat]
      split
      · exact ih.trans (List.sublist_append_left xs [x])
      · exact ih.append (List.Sublist.refl [x])

namespace OrderedMap

variable {κ ν α : Type} [DecidableEq κ]

/-- Adds pairs to a map: a pair with key `k` changes the value at `k`, which is
`start` when `k` is new. -/
def gather (start : ν) (f : ν → α → ν) (m : OrderedMap κ ν)
    (pairs : List (κ × α)) : OrderedMap κ ν :=
  pairs.foldl (fun m p => m.adjust p.1 start (f · p.2)) m

variable {start : ν} {f : ν → α → ν}

/-- Gathering two lists one after the other is gathering them joined. -/
theorem gather_append (m : OrderedMap κ ν) (xs ys : List (κ × α)) :
    gather start f m (xs ++ ys) = gather start f (gather start f m xs) ys :=
  List.foldl_append

/-- Adjusting the entry of a key keeps the keys and their order, with a new key
at the end. -/
theorem adjustEntries_keys (k : κ) (g : ν → ν) (es : List (κ × ν)) :
    (adjustEntries k start g es).map Prod.fst =
      if k ∈ es.map Prod.fst then es.map Prod.fst
      else es.map Prod.fst ++ [k] := by
  induction es with
  | nil => simp [adjustEntries]
  | cons e rest ih =>
      obtain ⟨key, v⟩ := e
      by_cases hkey : key = k
      · simp [adjustEntries, hkey]
      · simp only [adjustEntries, hkey, if_false, List.map_cons, ih]
        by_cases hk : k ∈ rest.map Prod.fst
        · simp [hk]
        · simp [hk, Ne.symm hkey]

/-- A changed key stays in its place, a new one comes last. -/
theorem keys_adjust (m : OrderedMap κ ν) (k : κ) (g : ν → ν) :
    (m.adjust k start g).keys =
      if k ∈ m.keys then m.keys else m.keys ++ [k] :=
  adjustEntries_keys k g m.entries

/-- **Order of the keys.**  The keys are those of the pairs, in order of first
occurrence. -/
theorem keys_gather (pairs : List (κ × α)) :
    (gather start f empty pairs).keys = (pairs.map Prod.fst).eraseDups := by
  induction pairs using List.reverseRecOn with
  | nil => rfl
  | append_singleton pairs p ih =>
      rw [gather_append, List.map_append, List.map_singleton, eraseDups_concat,
        ← ih]
      have hmem : p.1 ∈ pairs.map Prod.fst ↔
          p.1 ∈ (gather start f empty pairs).keys := by
        rw [ih, List.mem_eraseDups]
      simp only [hmem]
      exact keys_adjust _ p.1 (f · p.2)

/-- The keys of what is gathered are those of the pairs. -/
theorem mem_keys_gather {pairs : List (κ × α)} {k : κ} :
    k ∈ (gather start f empty pairs).keys ↔ ∃ p ∈ pairs, p.1 = k := by
  rw [keys_gather, List.mem_eraseDups, List.mem_map]

/-- **Values.**  The value at a key is folded from the pairs with that key, in
their order. -/
theorem getD_gather (m : OrderedMap κ ν) (pairs : List (κ × α)) (k : κ) :
    ((gather start f m pairs).get? k).getD start =
      ((pairs.filter fun p => p.1 = k).map Prod.snd).foldl f
        ((m.get? k).getD start) := by
  induction pairs generalizing m with
  | nil => rfl
  | cons p pairs ih =>
      have hstep : gather start f m (p :: pairs) =
          gather start f (m.adjust p.1 start (f · p.2)) pairs := rfl
      rw [hstep, ih, get?_adjust]
      by_cases hp : p.1 = k
      · subst hp
        simp
      · simp [hp, Ne.symm hp]

/-- A key has one value. -/
theorem mem_entries_iff {m : OrderedMap κ ν} {k : κ} {v : ν} :
    (k, v) ∈ m.entries ↔ m.get? k = some v := by
  obtain ⟨es, hnodup⟩ := m
  simp only [get?]
  induction es with
  | nil => simp
  | cons e rest ih =>
      obtain ⟨key, w⟩ := e
      simp only [List.map_cons, List.nodup_cons] at hnodup
      by_cases hkey : key = k
      · subst hkey
        have hrest : (key, v) ∉ rest := by
          intro hmem
          exact hnodup.1 (List.mem_map_of_mem hmem)
        simp [hrest, eq_comm]
      · simp [hkey, Ne.symm hkey, ih hnodup.2]

/-- The keys are where there are values. -/
theorem mem_keys_iff {m : OrderedMap κ ν} {k : κ} :
    k ∈ m.keys ↔ ∃ v, m.get? k = some v := by
  unfold keys
  rw [List.mem_map]
  constructor
  · intro h
    obtain ⟨⟨_, v⟩, he, rfl⟩ := h
    exact ⟨v, mem_entries_iff.mp he⟩
  · intro h
    obtain ⟨v, hv⟩ := h
    exact ⟨(k, v), mem_entries_iff.mpr hv, rfl⟩

/-- Adding to the list under a key adds just that to all the values. -/
theorem values_adjust_perm (m : OrderedMap κ (List α)) (k : κ)
    (xs : List α) :
    (m.adjust k [] (· ++ xs)).values.flatten.Perm
      (m.values.flatten ++ xs) := by
  obtain ⟨es, hnodup⟩ := m
  simp only [values, adjust]
  clear hnodup
  induction es with
  | nil => simp [adjustEntries]
  | cons e rest ih =>
      obtain ⟨key, v⟩ := e
      by_cases hkey : key = k
      · simp only [adjustEntries, hkey, if_true, List.map_cons,
          List.flatten_cons, List.append_assoc]
        exact List.perm_append_comm.append_left v
      · simp only [adjustEntries, hkey, if_false, List.map_cons,
          List.flatten_cons, List.append_assoc]
        exact ih.append_left v

/-- **Nothing is lost or doubled.**  Where the values are lists that are
lengthened, the map holds the items of all pairs. -/
theorem values_gather_perm (m : OrderedMap κ (List α))
    (pairs : List (κ × List α)) :
    (gather [] (· ++ ·) m pairs).values.flatten.Perm
      (m.values.flatten ++ (pairs.map Prod.snd).flatten) := by
  induction pairs generalizing m with
  | nil => simp [gather]
  | cons p pairs ih =>
      have hstep := ih (m.adjust p.1 [] (· ++ p.2))
      rw [List.map_cons, List.flatten_cons, ← List.append_assoc]
      exact hstep.trans ((m.values_adjust_perm p.1 p.2).append_right _)

end OrderedMap

end CallGraph
