import CallGraph.Proofs.ImportFolds
import CallGraph.Proofs.TreeLinks

/-!
# What the imports of a file bind

The import statements of a file stand anywhere in its tree, and each has several
entries.  Imports are taken in the order of their places: statement by statement
in pre-order, and entry by entry within a statement (`importPlaces_ascending`).
Which imports there are is said of the nodes alone (`Brings`), and
`mem_importPlaces` says that the walk over the tree finds these.  With that,
`importMap_describes` tells from the tree what the map of a file holds.
-/

namespace CallGraph

namespace SyntaxTree

/-- What an entry of an import statement is: a dotted name, or one with a new
name for it. -/
inductive EntryBrings (t : SyntaxTree) (same : String → Import)
    (renamed : String → String → Import) (entry : Nat) : Import → Prop
  | same (hkind : t.kind entry = "dotted_name") :
      EntryBrings t same renamed entry (same (t.text entry))
  | renamed {target name : Nat} (hkind : t.kind entry = "aliased_import")
      (htarget : t.childByField? entry "name" = some target)
      (hname : t.childByField? entry "alias" = some name) :
      EntryBrings t same renamed entry (renamed (t.text target) (t.text name))

/-- A place is that of an entry of a statement of some kind. -/
structure IsEntry (t : SyntaxTree) (kind : String) (p : ImportPlace) :
    Prop where
  kind : t.kind p.statement = kind
  child : t.parent? p.entry = some p.statement
  field : (t.node p.entry).field = some "name"

/-- What the import statements of a tree bring in, and where. -/
inductive Brings (t : SyntaxTree) (p : ImportPlace) : Import → Prop
  | entry {i : Import} (hplace : t.IsEntry "import_statement" p)
      (h : t.EntryBrings .plain .aliased p.entry i) : Brings t p i
  | source {path : Nat} (hkind : t.kind p.statement = "import_from_statement")
      (hplace : p.entry = p.statement)
      (h : t.childByField? p.statement "module_name" = some path) :
      Brings t p (.source (t.text path))
  | member {i : Import} (hplace : t.IsEntry "import_from_statement" p)
      (h : t.EntryBrings .member .memberAs p.entry i) : Brings t p i

variable (t : SyntaxTree)

/-- What a node brings in, with the places. -/
def importPlacesAt (s : Nat) : List (ImportPlace × Import) :=
  if t.kind s = "import_statement" then
    (t.childrenByField s "name").filterMap fun e =>
      (t.plainImport? e).map fun i => (⟨s, e⟩, i)
  else if t.kind s = "import_from_statement" then
    ((t.childByField? s "module_name").map fun m =>
        (⟨s, s⟩, Import.source (t.text m))).toList ++
      (t.childrenByField s "name").filterMap fun e =>
        (t.memberImport? e).map fun i => (⟨s, e⟩, i)
  else []

/-- Everything that the import statements of a file bring in, with the
places. -/
def importPlaces : List (ImportPlace × Import) :=
  (t.descendants root).flatMap t.importPlacesAt

/-- Leaving out the places leaves the imports in the order of the source. -/
theorem map_snd_importPlaces :
    t.importPlaces.map Prod.snd = t.imports := by
  have hat : ∀ s, (t.importPlacesAt s).map Prod.snd = t.importsAt s := by
    intro s
    unfold importPlacesAt importsAt
    split
    · simp [List.map_filterMap, Function.comp_def]
    · split
      · simp [List.map_filterMap, Function.comp_def, Option.toList_map]
      · rfl
  unfold importPlaces imports
  rw [List.map_flatMap]
  simp only [hat]

variable {t}

/-- A renaming has two parts: the path in the role of the name and the new name
in the role of the alias. -/
theorem aliasParts?_eq_some_iff {e : Nat} {path name : String} :
    t.aliasParts? e = some (path, name) ↔
      ∃ target name', t.childByField? e "name" = some target ∧
        t.childByField? e "alias" = some name' ∧
        path = t.text target ∧ name = t.text name' := by
  unfold aliasParts?
  cases t.childByField? e "name" with
  | none => simp
  | some target =>
      cases t.childByField? e "alias" with
      | none => simp
      | some name' => simp [eq_comm]

/-- An entry is read as an import exactly when it brings one. -/
theorem entryBrings_iff {same : String → Import}
    {renamed : String → String → Import} {e : Nat} {i : Import} :
    (if t.kind e = "dotted_name" then some (same (t.text e))
      else if t.kind e = "aliased_import" then
        (t.aliasParts? e).map fun (p, n) => renamed p n
      else none) = some i ↔ t.EntryBrings same renamed e i := by
  constructor
  · intro h
    split at h
    · rename_i hkind
      obtain rfl := Option.some.inj h
      exact .same hkind
    · split at h
      · rename_i hkind
        obtain ⟨⟨path, name⟩, hparts, rfl⟩ := Option.map_eq_some_iff.mp h
        obtain ⟨target, name', htarget, hname, rfl, rfl⟩ :=
          aliasParts?_eq_some_iff.mp hparts
        exact .renamed hkind htarget hname
      · cases h
  · intro h
    cases h with
    | same hkind => rw [if_pos hkind]
    | renamed hkind htarget hname =>
        have hother : t.kind e ≠ "dotted_name" := by
          rw [hkind]
          decide
        rw [if_neg hother, if_pos hkind, aliasParts?_eq_some_iff.mpr
          ⟨_, _, htarget, hname, rfl, rfl⟩]
        rfl

/-- The children in a role are the nodes with that parent and that role. -/
theorem mem_childrenByField {s e : Nat} {field : String} :
    e ∈ t.childrenByField s field ↔
      t.parent? e = some s ∧ (t.node e).field = some field := by
  rw [childrenByField, List.mem_filter, mem_children_iff, decide_eq_true_eq]

/-- The entries of a statement, read by `read?`. -/
theorem mem_entryPlaces {s : Nat} {read? : Nat → Option Import}
    {p : ImportPlace} {i : Import} :
    (p, i) ∈ (t.childrenByField s "name").filterMap
        (fun e => (read? e).map fun i => (⟨s, e⟩, i)) ↔
      p.statement = s ∧ t.parent? p.entry = some p.statement ∧
        (t.node p.entry).field = some "name" ∧ read? p.entry = some i := by
  rw [List.mem_filterMap]
  constructor
  · rintro ⟨e, he, hread⟩
    obtain ⟨hchild, hfield⟩ := mem_childrenByField.mp he
    obtain ⟨i, hi, heq⟩ := Option.map_eq_some_iff.mp hread
    obtain ⟨rfl, rfl⟩ := Prod.mk.inj heq
    exact ⟨rfl, hchild, hfield, hi⟩
  · rintro ⟨rfl, hchild, hfield, hread⟩
    refine ⟨p.entry, mem_childrenByField.mpr ⟨hchild, hfield⟩, ?_⟩
    rw [hread]
    rfl

/-- The places read at a statement are those whose import it brings. -/
theorem mem_importPlacesAt {s : Nat} {p : ImportPlace} {i : Import} :
    (p, i) ∈ t.importPlacesAt s ↔ p.statement = s ∧ t.Brings p i := by
  unfold importPlacesAt
  constructor
  · intro h
    split at h
    · rename_i hkind
      obtain ⟨rfl, hchild, hfield, hi⟩ := mem_entryPlaces.mp h
      exact ⟨rfl, .entry ⟨hkind, hchild, hfield⟩ (entryBrings_iff.mp hi)⟩
    · split at h
      · rename_i hkind
        rcases List.mem_append.mp h with h | h
        · obtain ⟨path, hpath, heq⟩ :=
            Option.map_eq_some_iff.mp (Option.mem_toList.mp h)
          obtain ⟨rfl, rfl⟩ := Prod.mk.inj heq
          exact ⟨rfl, .source hkind rfl hpath⟩
        · obtain ⟨rfl, hchild, hfield, hi⟩ := mem_entryPlaces.mp h
          exact ⟨rfl, .member ⟨hkind, hchild, hfield⟩ (entryBrings_iff.mp hi)⟩
      · exact absurd h List.not_mem_nil
  · rintro ⟨rfl, h⟩
    have hfrom : t.kind p.statement = "import_from_statement" →
        t.kind p.statement ≠ "import_statement" := by
      intro hkind
      rw [hkind]
      decide
    cases h with
    | entry hplace h =>
        rw [if_pos hplace.kind]
        exact mem_entryPlaces.mpr
          ⟨rfl, hplace.child, hplace.field, entryBrings_iff.mpr h⟩
    | source hkind hplace h =>
        rw [if_neg (hfrom hkind), if_pos hkind, h]
        refine List.mem_append_left _ ?_
        obtain ⟨statement, entry⟩ := p
        obtain rfl : entry = statement := hplace
        exact List.mem_singleton.mpr rfl
    | member hplace h =>
        rw [if_neg (hfrom hplace.kind), if_pos hplace.kind]
        exact List.mem_append_right _ (mem_entryPlaces.mpr
          ⟨rfl, hplace.child, hplace.field, entryBrings_iff.mpr h⟩)

theorem Brings.statement_lt_size {p : ImportPlace} {i : Import}
    (h : t.Brings p i) : p.statement < t.size := by
  cases h with
  | entry hplace _ => exact lt_size_of_kind (by decide) hplace.kind
  | source hkind _ _ => exact lt_size_of_kind (by decide) hkind
  | member hplace _ => exact lt_size_of_kind (by decide) hplace.kind

/-- The places read from a tree are those that bring an import. -/
theorem mem_importPlaces {p : ImportPlace} {i : Import} :
    (p, i) ∈ t.importPlaces ↔ t.Brings p i := by
  rw [importPlaces, List.mem_flatMap]
  constructor
  · rintro ⟨s, _, h⟩
    exact (mem_importPlacesAt.mp h).2
  · intro h
    exact ⟨p.statement, mem_descendants_root.mpr h.statement_lt_size,
      mem_importPlacesAt.mpr ⟨rfl, h⟩⟩

/-- The entries of one statement are read in the order of the source. -/
theorem entryPlaces_ascending (s : Nat) (read? : Nat → Option Import) :
    ((t.childrenByField s "name").filterMap
        (fun e => (read? e).map fun i => ((⟨s, e⟩ : ImportPlace), i))).Pairwise
      fun k l => k.1.Before l.1 := by
  refine ((t.children_ascending s).filter _).filterMap _ ?_
  intro e e' hlt k hk l hl
  obtain ⟨_, _, rfl⟩ := Option.map_eq_some_iff.mp hk
  obtain ⟨_, _, rfl⟩ := Option.map_eq_some_iff.mp hl
  exact Or.inr ⟨rfl, hlt⟩

theorem importPlacesAt_ascending (s : Nat) :
    (t.importPlacesAt s).Pairwise fun k l => k.1.Before l.1 := by
  unfold importPlacesAt
  split
  · exact entryPlaces_ascending s _
  · split
    · refine List.pairwise_append.mpr ⟨?_, entryPlaces_ascending s _, ?_⟩
      · cases t.childByField? s "module_name" with
        | none => exact .nil
        | some path => exact List.pairwise_singleton _ _
      · intro k hk l hl
        obtain ⟨path, _, rfl⟩ :=
          Option.map_eq_some_iff.mp (Option.mem_toList.mp hk)
        obtain ⟨hstatement, hchild, _⟩ := mem_entryPlaces.mp hl
        refine Or.inr ⟨hstatement.symm, ?_⟩
        rw [← hstatement]
        exact (above_of_parent? hchild).1
    · exact .nil

/-- **Order.**  Imports are taken by statement in pre-order, then by entry. -/
theorem importPlaces_ascending (t : SyntaxTree) :
    t.importPlaces.Pairwise fun k l => k.1.Before l.1 := by
  refine List.pairwise_flatMap.mpr
    ⟨fun s _ => importPlacesAt_ascending s, ?_⟩
  refine (t.descendants_ascending root).imp ?_
  intro s s' hlt k hk l hl
  left
  rw [(mem_importPlacesAt.mp hk).1, (mem_importPlacesAt.mp hl).1]
  exact hlt

/-- An entry stands below its statement. -/
theorem Brings.entry_mem_descendants {p : ImportPlace} {i : Import}
    (h : t.Brings p i) : p.entry ∈ t.descendants p.statement := by
  cases h with
  | entry hplace _ =>
      exact mem_descendants_of_mem_children (mem_children_iff.mpr hplace.child)
  | source hkind hplace _ =>
      rw [hplace]
      exact mem_descendants_self (lt_size_of_kind (by decide) hkind)
  | member hplace _ =>
      exact mem_descendants_of_mem_children (mem_children_iff.mpr hplace.child)

/-- A node that comes after another one but not below it comes after everything
below it. -/
theorem lt_of_not_mem_descendants {s s' e : Nat} (hs : s < s')
    (hnot : s' ∉ t.descendants s) (he : e ∈ t.descendants s) : e < s' := by
  have hsize : s < t.size := by
    have := t.mem_descendants he
    omega
  obtain ⟨k, hk⟩ := t.descendants_eq_range' hsize
  rw [hk, List.mem_range'_1] at hnot he
  omega

variable (t)

/-- No import statement stands inside another one. -/
def ImportsApart : Prop :=
  ∀ p q i j, t.Brings p i → t.Brings q j →
    q.statement ∈ t.descendants p.statement → q.statement = p.statement

/-- At a place of the tree a name is bound to a target, in place of any earlier
binding. -/
def BindsAt (p : ImportPlace) (x target : String) : Prop :=
  ∃ i, t.Brings p i ∧ i.Rebinds x target

/-- At a place of the tree a name is bound to itself unless it is bound. -/
def OpensAt (p : ImportPlace) (x : String) : Prop :=
  ∃ i, t.Brings p i ∧ i.Opens x

/-- At a place of the tree a module is named. -/
def MentionsAt (p : ImportPlace) (path : String) : Prop :=
  ∃ i, t.Brings p i ∧ i.Mentions path

variable {t}

/-- Where import statements stand apart, places come in the order in which the
listing has their entries. -/
theorem ImportsApart.before_iff (h : t.ImportsApart) {p q : ImportPlace}
    {i j : Import} (hp : t.Brings p i) (hq : t.Brings q j) :
    p.Before q ↔ p.entry < q.entry := by
  have hlt : ∀ {a b : ImportPlace} {k l : Import}, t.Brings a k →
      t.Brings b l → a.statement < b.statement → a.entry < b.entry := by
    intro a b k l ha hb hab
    have hnot : b.statement ∉ t.descendants a.statement := by
      intro hmem
      have := h a b k l ha hb hmem
      omega
    have := lt_of_not_mem_descendants hab hnot ha.entry_mem_descendants
    have := (t.mem_descendants hb.entry_mem_descendants).1
    omega
  constructor
  · rintro (hs | ⟨_, he⟩)
    · exact hlt hp hq hs
    · exact he
  · intro he
    rcases Nat.lt_trichotomy p.statement q.statement with hs | hs | hs
    · exact Or.inl hs
    · exact Or.inr ⟨hs, he⟩
    · have := hlt hq hp hs
      omega

end SyntaxTree

/-- A map says what the imports of a tree bind.  A name that is bound anew
somewhere has the last segment of the target of its last such binding; any
other name has itself if it is opened somewhere, and nothing if it is not.  The
modules are those that are mentioned, each once, by the place of its first
mention.  Where import statements stand apart, the order of places is
pre-order. -/
structure ImportMap.Describes (m : ImportMap) (t : SyntaxTree) : Prop where
  rebound : ∀ x, (∃ p target, t.BindsAt p x target) →
    ∃ p target origin, t.BindsAt p x target ∧
      (∀ q other, t.BindsAt q x other → q = p ∨ q.Before p) ∧
      IsLastPart origin target ∧ m.origin? x = some origin
  opened : ∀ x, (∀ p target, ¬ t.BindsAt p x target) →
    (∃ p, t.OpensAt p x) → m.origin? x = some x
  absent : ∀ x, (∀ p target, ¬ t.BindsAt p x target) →
    (∀ p, ¬ t.OpensAt p x) → m.origin? x = none
  modules_nodup : m.modules.Nodup
  modules_exact : ∀ path, path ∈ m.modules ↔
    path ≠ "" ∧ ∃ p, t.MentionsAt p path
  modules_ordered : m.modules.Pairwise fun a b =>
    ∃ p, t.MentionsAt p a ∧ ∀ q, t.MentionsAt q b → p.Before q
  preorder : t.ImportsApart → ∀ p q i j, t.Brings p i → t.Brings q j →
    (p.Before q ↔ p.entry < q.entry)

namespace SyntaxTree

variable {t : SyntaxTree}

/-- To find a place in the list is to find one that brings its import. -/
theorem exists_place_iff {P : ImportPlace → Import → Prop} :
    (∃ l ∈ t.importPlaces, P l.1 l.2) ↔ ∃ p i, t.Brings p i ∧ P p i := by
  constructor
  · rintro ⟨⟨p, i⟩, hl, h⟩
    exact ⟨p, i, mem_importPlaces.mp hl, h⟩
  · rintro ⟨p, i, hi, h⟩
    exact ⟨(p, i), mem_importPlaces.mpr hi, h⟩

/-- The last new binding of a name comes after all others. -/
theorem before_of_last {before after : List (ImportPlace × Import)}
    {l : ImportPlace × Import} (h : t.importPlaces = before ++ l :: after)
    {x : String} (hlast : ∀ k ∈ after, ∀ target, ¬ k.2.Rebinds x target)
    {q : ImportPlace} {other : String} (hq : t.BindsAt q x other) :
    q = l.1 ∨ q.Before l.1 := by
  obtain ⟨j, hj, hother⟩ := hq
  have hmem := mem_importPlaces.mpr hj
  have hascending := t.importPlaces_ascending
  rw [h] at hmem hascending
  rcases List.mem_append.mp hmem with hmem | hmem
  · exact Or.inr ((List.pairwise_append.mp hascending).2.2
      (q, j) hmem l List.mem_cons_self)
  · rcases List.mem_cons.mp hmem with rfl | hmem
    · exact Or.inl rfl
    · exact absurd hother (hlast (q, j) hmem other)

/-- The import map of a tree is folded from the imports at its places, in
order. -/
theorem importMap_eq_ofImports (t : SyntaxTree) :
    t.importMap = ImportMap.ofImports (t.importPlaces.map Prod.snd) := by
  rw [map_snd_importPlaces]
  rfl

/-- What the map of a file makes of a name, told by places of the tree. -/
theorem origin?_importMap (x : String) :
    (∃ p target, t.BindsAt p x target ∧
      (∀ q other, t.BindsAt q x other → q = p ∨ q.Before p) ∧
      t.importMap.origin? x = some (Text.lastSegment target)) ∨
    (∀ p target, ¬ t.BindsAt p x target) ∧
      ((∃ p, t.OpensAt p x) ∧ t.importMap.origin? x = some x ∨
        (∀ p, ¬ t.OpensAt p x) ∧ t.importMap.origin? x = none) := by
  have hnone : (∀ k ∈ t.importPlaces, ∀ target, ¬ k.2.Rebinds x target) →
      ∀ p target, ¬ t.BindsAt p x target := by
    rintro h p target ⟨i, hi, htarget⟩
    exact h (p, i) (mem_importPlaces.mpr hi) target htarget
  have houtcome := ImportMap.originOutcome t.importPlaces x
  rw [importMap_eq_ofImports]
  generalize (ImportMap.ofImports _).origin? x = origin at houtcome ⊢
  cases houtcome with
  | @rebound before after l target hsplit htarget hlast =>
      have hl : l ∈ t.importPlaces := by
        rw [hsplit]
        exact List.mem_append_right before List.mem_cons_self
      exact Or.inl ⟨l.1, target, ⟨l.2, mem_importPlaces.mp hl, htarget⟩,
        fun q other hq => before_of_last hsplit hlast hq, rfl⟩
  | opened hbefore hopened =>
      exact Or.inr ⟨hnone hbefore,
        Or.inl ⟨(exists_place_iff (P := fun _ i => i.Opens x)).mp hopened,
          rfl⟩⟩
  | absent hbefore habsent =>
      refine Or.inr ⟨hnone hbefore, Or.inr ⟨?_, rfl⟩⟩
      rintro p ⟨i, hi, hopens⟩
      exact habsent (p, i) (mem_importPlaces.mpr hi) hopens

/-- **Imports.**  The map of a file says what its imports bind. -/
theorem importMap_describes (t : SyntaxTree) : t.importMap.Describes t := by
  have hmodules := ImportMap.modulesOf_ofImports t.importPlaces_ascending
  rw [← importMap_eq_ofImports] at hmodules
  constructor
  case rebound =>
    rintro x ⟨p, target, hx⟩
    rcases origin?_importMap (t := t) x with hlast | ⟨hnone, _⟩
    · obtain ⟨p, target, hbinds, hlast, horigin⟩ := hlast
      exact ⟨p, target, _, hbinds, hlast, isLastPart_iff.mpr rfl, horigin⟩
    · exact absurd hx (hnone p target)
  case opened =>
    rintro x hnone ⟨p, hopens⟩
    rcases origin?_importMap (t := t) x with hlast | ⟨_, hopened | habsent⟩
    · obtain ⟨p, target, hbinds, _⟩ := hlast
      exact absurd hbinds (hnone p target)
    · exact hopened.2
    · exact absurd hopens (habsent.1 p)
  case absent =>
    intro x hnone hclosed
    rcases origin?_importMap (t := t) x with hlast | ⟨_, hopened | habsent⟩
    · obtain ⟨p, target, hbinds, _⟩ := hlast
      exact absurd hbinds (hnone p target)
    · obtain ⟨⟨p, hopens⟩, _⟩ := hopened
      exact absurd hopens (hclosed p)
    · exact habsent.2
  case modules_nodup => exact hmodules.nodup
  case modules_exact =>
    intro path
    rw [hmodules.exact]
    exact and_congr_right fun _ =>
      exists_place_iff (P := fun _ i => i.Mentions path)
  case modules_ordered =>
    refine hmodules.ordered.imp ?_
    rintro a b ⟨l, hl, ha, hfirst⟩
    refine ⟨l.1, ⟨l.2, mem_importPlaces.mp hl, ha⟩, ?_⟩
    rintro q ⟨j, hj, hb⟩
    exact hfirst (q, j) (mem_importPlaces.mpr hj) hb
  case preorder =>
    intro h p q i j hp hq
    exact h.before_iff hp hq

end SyntaxTree

end CallGraph
