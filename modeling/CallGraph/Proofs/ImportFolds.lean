import CallGraph.Imports
import CallGraph.Proofs.TextPieces
import Mathlib.Data.List.Induction

/-!
# Import maps folded from imports

An import map is folded over a list of imports, and there are two ways in which
an import binds a name: `import a.b` opens `a` if it is free, every other form
binds its name anew.  So a name stands for what its last new binding says; only
without one does it matter whether it was opened.

What one import changes is said by `origin?_add_of_rebinds` and the lemmas after
it for the names, by `modules_add_of_mentions` and `modules_add_of_known` for
the modules.  The folds follow by induction from the end of the list
(`originOutcome`, `modulesOf_ofImports`).
-/

namespace CallGraph

namespace Import

/-- The import binds a name to a target, in place of any earlier binding. -/
inductive Rebinds : Import → (name target : String) → Prop
  | aliased (path name : String) : Rebinds (.aliased path name) name path
  | member {target name : String} (h : IsLastPart name target) :
      Rebinds (.member target) name target
  | memberAs (target name : String) : Rebinds (.memberAs target name) name target

/-- The import binds a name to itself unless it is bound. -/
inductive Opens : Import → (name : String) → Prop
  | plain {path name : String} (h : IsFirstPart name path) :
      Opens (.plain path) name

/-- The import names a module. -/
inductive Mentions : Import → (path : String) → Prop
  | plain (path : String) : Mentions (.plain path) path
  | aliased (path name : String) : Mentions (.aliased path name) path
  | source (path : String) : Mentions (.source path) path

/-- An import mentions one module at most. -/
theorem Mentions.unique {i : Import} {path other : String}
    (h : i.Mentions path) (h' : i.Mentions other) : path = other := by
  cases h with
  | plain => cases h' with
      | plain => rfl
  | aliased => cases h' with
      | aliased => rfl
  | source => cases h' with
      | source => rfl

end Import

/-- The place of an import: its statement, and its entry in the statement.  The
module of a `from` statement stands at the statement itself. -/
structure ImportPlace where
  statement : Nat
  entry : Nat

/-- The order in which imports are taken: by statement, then by entry. -/
def ImportPlace.Before (p q : ImportPlace) : Prop :=
  p.statement < q.statement ∨ p.statement = q.statement ∧ p.entry < q.entry

namespace ImportMap

variable {m : ImportMap} {i : Import} {x : String}

/-- Mentioning a module binds nothing. -/
theorem origin?_mention (path : String) :
    (m.mention path).origin? x = m.origin? x := by
  unfold mention
  split
  · rfl
  · rfl

/-- Binding a name gives it its origin and leaves the other names alone. -/
theorem origin?_bind (name origin : String) :
    (m.bind name origin).origin? x =
      if x = name then some origin else m.origin? x :=
  OrderedMap.get?_adjust _ _ _ _ _

/-- Binding a name only if it is new keeps the origin that it has. -/
theorem origin?_bindIfNew (name origin : String) :
    (m.bindIfNew name origin).origin? x =
      if x = name then some ((m.origin? name).getD origin) else m.origin? x :=
  OrderedMap.get?_adjust _ _ _ _ _

/-- A new binding counts, whatever was there before. -/
theorem origin?_add_of_rebinds {target : String} (h : i.Rebinds x target) :
    (m.add i).origin? x = some (Text.lastSegment target) := by
  cases h with
  | aliased => rw [add, origin?_bind, if_pos rfl]
  | member hlast =>
      rw [add, origin?_bind, isLastPart_iff.mp hlast, if_pos rfl]
  | memberAs => rw [add, origin?_bind, if_pos rfl]

/-- Opening a name leaves a binding that is there alone. -/
theorem origin?_add_of_opens (h : i.Opens x) :
    (m.add i).origin? x = some ((m.origin? x).getD x) := by
  cases h with
  | plain hfirst =>
      rw [add, origin?_bindIfNew, isFirstPart_iff.mp hfirst, if_pos rfl,
        origin?_mention]

/-- An import that neither binds a name nor opens its module leaves it alone.
-/
theorem origin?_add_of_neither (hbinds : ∀ target, ¬ i.Rebinds x target)
    (hopens : ¬ i.Opens x) : (m.add i).origin? x = m.origin? x := by
  cases i with
  | plain path =>
      have hx : x ≠ Text.firstSegment path :=
        fun hx => hopens (.plain (isFirstPart_iff.mpr hx.symm))
      rw [add, origin?_bindIfNew, if_neg hx, origin?_mention]
  | aliased path name =>
      have hx : x ≠ name := by
        rintro rfl
        exact hbinds path (.aliased path x)
      rw [add, origin?_bind, if_neg hx, origin?_mention]
  | source path => rw [add, origin?_mention]
  | member target =>
      have hx : x ≠ Text.lastSegment target :=
        fun hx => hbinds target (.member (isLastPart_iff.mpr hx.symm))
      rw [add, origin?_bind, if_neg hx]
  | memberAs target name =>
      have hx : x ≠ name := by
        rintro rfl
        exact hbinds target (.memberAs target x)
      rw [add, origin?_bind, if_neg hx]

/-- A binding stays as long as there is no new one. -/
theorem origin?_add_of_bound {origin : String} (h : m.origin? x = some origin)
    (hbinds : ∀ target, ¬ i.Rebinds x target) :
    (m.add i).origin? x = some origin := by
  by_cases hopens : i.Opens x
  · rw [origin?_add_of_opens hopens, h, Option.getD_some]
  · rw [origin?_add_of_neither hbinds hopens, h]

/-- A mentioned module goes to the end of the list, unless it is empty or there
already. -/
theorem modules_add_of_mentions {path : String} (h : i.Mentions path) :
    (m.add i).modules =
      if path = "" ∨ path ∈ m.modules then m.modules
      else m.modules ++ [path] := by
  have hmention : (m.mention path).modules =
      if path = "" ∨ path ∈ m.modules then m.modules
      else m.modules ++ [path] := by
    unfold mention
    split
    · rfl
    · rfl
  cases h with
  | plain => exact hmention
  | aliased => exact hmention
  | source => exact hmention

/-- An import that mentions nothing new leaves the modules alone. -/
theorem modules_add_of_known
    (h : ∀ path, i.Mentions path → path = "" ∨ path ∈ m.modules) :
    (m.add i).modules = m.modules := by
  by_cases hmentions : ∃ path, i.Mentions path
  · obtain ⟨path, hpath⟩ := hmentions
    rw [modules_add_of_mentions hpath, if_pos (h path hpath)]
  · cases i with
    | plain path => exact absurd ⟨path, .plain path⟩ hmentions
    | aliased path name => exact absurd ⟨path, .aliased path name⟩ hmentions
    | source path => exact absurd ⟨path, .source path⟩ hmentions
    | member target => rfl
    | memberAs target name => rfl

/-- One more import is added to what the earlier ones made. -/
theorem ofImports_concat (places : List (ImportPlace × Import))
    (l : ImportPlace × Import) :
    ofImports ((places ++ [l]).map Prod.snd) =
      (ofImports (places.map Prod.snd)).add l.2 := by
  unfold ofImports
  rw [List.map_append, List.foldl_append]
  rfl

/-- What a list of imports makes of a name. -/
inductive OriginOutcome (places : List (ImportPlace × Import)) (x : String) :
    Option String → Prop
  | rebound {before after : List (ImportPlace × Import)}
      {l : ImportPlace × Import} {target : String}
      (hsplit : places = before ++ l :: after) (h : l.2.Rebinds x target)
      (hlast : ∀ k ∈ after, ∀ target, ¬ k.2.Rebinds x target) :
      OriginOutcome places x (some (Text.lastSegment target))
  | opened (hnone : ∀ k ∈ places, ∀ target, ¬ k.2.Rebinds x target)
      (h : ∃ l ∈ places, l.2.Opens x) : OriginOutcome places x (some x)
  | absent (hnone : ∀ k ∈ places, ∀ target, ¬ k.2.Rebinds x target)
      (h : ∀ l ∈ places, ¬ l.2.Opens x) : OriginOutcome places x none

/-- One more import that does not bind a name anew. -/
theorem OriginOutcome.concat {places : List (ImportPlace × Import)}
    {origin : Option String} (h : OriginOutcome places x origin)
    (horigin : m.origin? x = origin) {l : ImportPlace × Import}
    (hnot : ∀ target, ¬ l.2.Rebinds x target) :
    OriginOutcome (places ++ [l]) x ((m.add l.2).origin? x) := by
  have hnone : ∀ {ks : List (ImportPlace × Import)},
      (∀ k ∈ ks, ∀ target, ¬ k.2.Rebinds x target) →
        ∀ k ∈ ks ++ [l], ∀ target, ¬ k.2.Rebinds x target := by
    intro ks hks
    exact List.forall_mem_append.mpr
      ⟨hks, List.forall_mem_singleton.mpr hnot⟩
  cases h with
  | @rebound before after k target hsplit htarget hlast =>
      have hsplit' : places ++ [l] = before ++ k :: (after ++ [l]) := by
        rw [hsplit, List.append_assoc, List.cons_append]
      rw [origin?_add_of_bound horigin hnot]
      exact .rebound hsplit' htarget (hnone hlast)
  | opened hbefore hopened =>
      rw [origin?_add_of_bound horigin hnot]
      obtain ⟨k, hk, hopens⟩ := hopened
      exact .opened (hnone hbefore) ⟨k, List.mem_append_left [l] hk, hopens⟩
  | absent hbefore habsent =>
      by_cases hopens : l.2.Opens x
      · rw [origin?_add_of_opens hopens, horigin, Option.getD_none]
        exact .opened (hnone hbefore) ⟨l, List.mem_concat_self, hopens⟩
      · rw [origin?_add_of_neither hnot hopens, horigin]
        exact .absent (hnone hbefore) (List.forall_mem_append.mpr
          ⟨habsent, List.forall_mem_singleton.mpr hopens⟩)

/-- **Names.**  A name has its last new binding; without one it has itself if
it was opened.  The induction is from the end of the list: the last import
decides unless it does not bind the name. -/
theorem originOutcome (places : List (ImportPlace × Import)) (x : String) :
    OriginOutcome places x ((ofImports (places.map Prod.snd)).origin? x) := by
  induction places using List.reverseRecOn with
  | nil => exact .absent (by simp) (by simp)
  | append_singleton places l ih =>
      rw [ofImports_concat]
      by_cases hbinds : ∃ target, l.2.Rebinds x target
      · obtain ⟨target, htarget⟩ := hbinds
        rw [origin?_add_of_rebinds htarget]
        exact .rebound rfl htarget (by simp)
      · exact ih.concat rfl (not_exists.mp hbinds)

/-- Modules listed from imports: each that is mentioned, once, by the place of
its first mention. -/
structure ModulesOf (places : List (ImportPlace × Import))
    (modules : List String) : Prop where
  nodup : modules.Nodup
  exact : ∀ path, path ∈ modules ↔
    path ≠ "" ∧ ∃ l ∈ places, l.2.Mentions path
  ordered : modules.Pairwise fun a b =>
    ∃ l ∈ places, l.2.Mentions a ∧
      ∀ k ∈ places, k.2.Mentions b → l.1.Before k.1

section Concat

variable {places : List (ImportPlace × Import)} {modules : List String}
  {l : ImportPlace × Import}

/-- The modules that are listed keep their order when an import comes later. -/
theorem ModulesOf.ordered_concat (h : ModulesOf places modules)
    (hlater : ∀ k ∈ places, k.1.Before l.1) :
    modules.Pairwise fun a b =>
      ∃ k ∈ places ++ [l], k.2.Mentions a ∧
        ∀ j ∈ places ++ [l], j.2.Mentions b → k.1.Before j.1 := by
  refine h.ordered.imp ?_
  rintro a b ⟨k, hk, ha, hfirst⟩
  refine ⟨k, List.mem_append_left [l] hk, ha, ?_⟩
  exact List.forall_mem_append.mpr
    ⟨hfirst, List.forall_mem_singleton.mpr fun _ => hlater k hk⟩

/-- A place that mentions no new module leaves the list right. -/
theorem ModulesOf.concat_known (h : ModulesOf places modules)
    (hlater : ∀ k ∈ places, k.1.Before l.1)
    (hknown : ∀ path, l.2.Mentions path → path = "" ∨ path ∈ modules) :
    ModulesOf (places ++ [l]) modules := by
  refine ⟨h.nodup, fun path => ?_, h.ordered_concat hlater⟩
  constructor
  · intro hpath
    obtain ⟨hne, k, hk, hmentions⟩ := (h.exact path).mp hpath
    exact ⟨hne, k, List.mem_append_left [l] hk, hmentions⟩
  · rintro ⟨hne, k, hk, hmentions⟩
    rcases List.mem_append.mp hk with hk | hk
    · exact (h.exact path).mpr ⟨hne, k, hk, hmentions⟩
    · rw [List.mem_singleton.mp hk] at hmentions
      exact (hknown path hmentions).resolve_left hne

/-- A new module that the latest place mentions belongs at the end of the list.
-/
theorem ModulesOf.concat_new (h : ModulesOf places modules)
    (hlater : ∀ k ∈ places, k.1.Before l.1) {path : String}
    (hmentions : l.2.Mentions path) (hne : path ≠ "")
    (hnew : path ∉ modules) :
    ModulesOf (places ++ [l]) (modules ++ [path]) := by
  have hfirst : ∀ k ∈ places, ¬ k.2.Mentions path :=
    fun k hk hkpath => hnew ((h.exact path).mpr ⟨hne, k, hk, hkpath⟩)
  constructor
  case nodup =>
    refine List.pairwise_append.mpr
      ⟨h.nodup, List.pairwise_singleton _ _, ?_⟩
    intro a ha b hb
    rw [List.mem_singleton.mp hb]
    exact ne_of_mem_of_not_mem ha hnew
  case exact =>
    intro other
    rw [List.mem_append, List.mem_singleton, h.exact]
    constructor
    · rintro (⟨hother, k, hk, hkother⟩ | rfl)
      · exact ⟨hother, k, List.mem_append_left [l] hk, hkother⟩
      · exact ⟨hne, l, List.mem_concat_self, hmentions⟩
    · rintro ⟨hother, k, hk, hkother⟩
      rcases List.mem_append.mp hk with hk | hk
      · exact Or.inl ⟨hother, k, hk, hkother⟩
      · rw [List.mem_singleton.mp hk] at hkother
        exact Or.inr (hkother.unique hmentions)
  case ordered =>
    refine List.pairwise_append.mpr
      ⟨h.ordered_concat hlater, List.pairwise_singleton _ _, ?_⟩
    intro a ha b hb
    rw [List.mem_singleton.mp hb]
    obtain ⟨_, k, hk, hka⟩ := (h.exact a).mp ha
    refine ⟨k, List.mem_append_left [l] hk, hka, ?_⟩
    exact List.forall_mem_append.mpr
      ⟨fun j hj hjpath => absurd hjpath (hfirst j hj),
        List.forall_mem_singleton.mpr fun _ => hlater k hk⟩

/-- One more import, at a later place. -/
theorem ModulesOf.concat (h : ModulesOf places m.modules)
    (hlater : ∀ k ∈ places, k.1.Before l.1) :
    ModulesOf (places ++ [l]) (m.add l.2).modules := by
  by_cases hnew : ∃ path, l.2.Mentions path ∧ ¬ (path = "" ∨ path ∈ m.modules)
  · obtain ⟨path, hmentions, hpath⟩ := hnew
    rw [modules_add_of_mentions hmentions, if_neg hpath]
    obtain ⟨hne, hpath⟩ := not_or.mp hpath
    exact h.concat_new hlater hmentions hne hpath
  · have hknown : ∀ path, l.2.Mentions path →
        path = "" ∨ path ∈ m.modules := by
      intro path hmentions
      by_contra hpath
      exact hnew ⟨path, hmentions, hpath⟩
    rw [modules_add_of_known hknown]
    exact h.concat_known hlater hknown

end Concat

/-- **Modules.**  Every module that is mentioned is listed once, by its first
mention. -/
theorem modulesOf_ofImports {places : List (ImportPlace × Import)}
    (h : places.Pairwise fun k l => k.1.Before l.1) :
    ModulesOf places (ofImports (places.map Prod.snd)).modules := by
  induction places using List.reverseRecOn with
  | nil => exact ⟨List.nodup_nil, fun path => by simp [ofImports], .nil⟩
  | append_singleton places l ih =>
      obtain ⟨hplaces, _, hlater⟩ := List.pairwise_append.mp h
      rw [ofImports_concat]
      exact (ih hplaces).concat fun k hk => hlater k hk l List.mem_cons_self

end ImportMap

end CallGraph
