import CallGraph.Callee

/-!
# What the candidates of a callee are

A callee ends in a name, whatever stands in front of it, and a call may mean
every function of that name.  So this name is always a candidate
(`terminal_mem_candidates`).  The others put a scope in front of it, which is
the class around the call, the receiver, or the segments before the last one
(`Scope`), and a bare name may also go by the name that it has where it was
imported from.  There is nothing else (`spelling_of_mem_candidates`), and a
callee that ends in no name has no candidates.
-/

namespace CallGraph

namespace Callee

/-- The name in which a callee ends; of a qualified callee, the last segment
that is not empty. -/
def terminal? : Callee → Option String
  | name n => some n
  | member _ m => some m
  | qualified segments => (segments.filter (· ≠ "")).getLast?
  | subscript n => some n
  | unsupported => none

/-- The scopes that a candidate may put in front of the last name, each with
what joins it to the name. -/
inductive Scope (language : Language) (enclosing : Option String) :
    Callee → String → Prop
  /-- The class around the call of a bare name, which only C++ looks at. -/
  | ofClass {n cls : String} (hcpp : language = .cpp)
      (hcls : enclosing = some cls) :
      Scope language enclosing (.name n) (cls ++ "::")
  /-- The same class for a member of the object itself. -/
  | ofSelf {receiver m cls : String} (hself : isSelf receiver)
      (hcpp : language = .cpp) (hcls : enclosing = some cls) :
      Scope language enclosing (.member (some [receiver]) m) (cls ++ "::")
  /-- Any other receiver of a member. -/
  | ofReceiver {path : List String} {m : String} (hpath : path ≠ [])
      (hother : ∀ receiver, path = [receiver] → ¬ isSelf receiver) :
      Scope language enclosing (.member (some path) m)
        (String.intercalate language.qualifier path ++ language.qualifier)
  /-- Segments in front of the last one. -/
  | ofSegments {segments before : List String} {last : String}
      (hbefore : before ≠ [])
      (hsuffix : before ++ [last] <:+ segments.filter (· ≠ "")) :
      Scope language enclosing (.qualified segments)
        (Text.joinColons before ++ "::")

/-- A name written in the call is a candidate as it stands, unless it is empty.
-/
theorem mem_spelled {name candidate : String} :
    candidate ∈ spelled name ↔ candidate = name ∧ name ≠ "" := by
  unfold spelled
  split <;> simp_all

/-- Only C++ adds the name inside the enclosing class, and only if there is
one. -/
theorem mem_inClass {language : Language} {enclosing : Option String}
    {name candidate : String} :
    candidate ∈ inClass language enclosing name ↔
      language = .cpp ∧
        ∃ cls, enclosing = some cls ∧ candidate = cls ++ "::" ++ name := by
  unfold inClass
  split
  · rename_i hcpp
    simp only [Option.mem_toList, Option.map_eq_some_iff, hcpp, true_and,
      eq_comm (a := candidate)]
  · rename_i hcpp
    simp [hcpp]

/-- A receiver adds candidates that put a scope in front of the member. -/
theorem scope_of_mem_throughReceiver {language : Language}
    {enclosing : Option String} {receiver : Option (List String)}
    {m candidate : String}
    (h : candidate ∈ throughReceiver language enclosing m receiver) :
    ∃ scope, Scope language enclosing (.member receiver m) scope ∧
      candidate = scope ++ m := by
  unfold throughReceiver at h
  split at h
  · exact absurd h List.not_mem_nil
  · exact absurd h List.not_mem_nil
  · rename_i single
    split at h
    · rename_i hself
      obtain ⟨hcpp, cls, hcls, rfl⟩ := mem_inClass.mp h
      exact ⟨cls ++ "::", .ofSelf hself hcpp hcls, rfl⟩
    · rename_i hother
      refine ⟨_, .ofReceiver (List.cons_ne_nil single []) ?_, ?_⟩
      · intro receiver heq
        rwa [← (List.cons.inj heq).1]
      · rw [List.mem_singleton.mp h, String.intercalate_singleton]
  · rename_i path hnil hsingle
    exact ⟨_, .ofReceiver hnil fun receiver heq => absurd heq (hsingle receiver),
      List.mem_singleton.mp h⟩

/-- A qualified name is looked up by the end of its segments only. -/
theorem suffix_of_mem_qualifiedNames {segments : List String}
    {candidate : String} (h : candidate ∈ qualifiedNames segments) :
    ∃ suffix, suffix ≠ [] ∧ suffix <:+ segments ∧
      candidate = Text.joinColons suffix := by
  unfold qualifiedNames at h
  split at h
  · exact absurd h List.not_mem_nil
  · rename_i last hlast
    have hne : segments ≠ [] := by
      rintro rfl
      cases hlast
    rcases List.mem_append.mp h with hshort | hlong
    · rcases List.mem_cons.mp hshort with rfl | hwhole
      · exact ⟨[candidate], List.cons_ne_nil _ _,
          List.singleton_suffix_iff_getLast?_eq_some.mpr hlast,
          (Text.joinColons_singleton candidate).symm⟩
      · exact ⟨segments, hne, List.suffix_rfl, List.mem_singleton.mp hwhole⟩
    · split at hlong
      · refine ⟨segments.drop (segments.length - 2), ?_, List.drop_suffix _ _,
          List.mem_singleton.mp hlong⟩
        rw [Ne, List.drop_eq_nil_iff]
        omega
      · exact absurd hlong List.not_mem_nil

/-- The last segment of a qualified name is one of its candidates. -/
theorem last_mem_qualifiedNames {segments : List String} {last : String}
    (h : segments.getLast? = some last) : last ∈ qualifiedNames segments := by
  simp [qualifiedNames, h]

/-- All segments of a qualified name joined make a candidate. -/
theorem joinColons_mem_qualifiedNames {segments : List String}
    (h : segments ≠ []) :
    Text.joinColons segments ∈ qualifiedNames segments := by
  obtain ⟨last, hlast⟩ := Option.ne_none_iff_exists'.mp
    (mt List.getLast?_eq_none_iff.mp h)
  simp [qualifiedNames, hlast]

/-- The terminal name of a qualified callee is not empty: empty segments do not
count. -/
theorem segment_ne_empty {segments : List String} {last : String}
    (h : (qualified segments).terminal? = some last) : last ≠ "" := by
  simpa using (List.mem_filter.mp (List.mem_of_getLast? h)).2

/-- A suffix of segments spells their last one, with or without a scope. -/
theorem scope_of_suffix (language : Language) (enclosing : Option String)
    {segments suffix : List String} (hne : suffix ≠ [])
    (hsuffix : suffix <:+ segments.filter (· ≠ "")) :
    ∃ last, (qualified segments).terminal? = some last ∧
      (Text.joinColons suffix = last ∨
        ∃ scope, Scope language enclosing (.qualified segments) scope ∧
          Text.joinColons suffix = scope ++ last) := by
  obtain ⟨before, last, rfl⟩ : ∃ before last, suffix = before ++ [last] :=
    ⟨_, _, (List.dropLast_concat_getLast hne).symm⟩
  refine ⟨last, ?_, ?_⟩
  · obtain ⟨front, hfront⟩ := hsuffix
    rw [terminal?, ← hfront, ← List.append_assoc, List.getLast?_concat]
  · by_cases hbefore : before = []
    · left
      rw [hbefore]
      exact Text.joinColons_singleton last
    · right
      refine ⟨_, .ofSegments hbefore hsuffix, ?_⟩
      rw [Text.joinColons_append hbefore (List.cons_ne_nil _ _),
        Text.joinColons_singleton]

/-- A name under a scope is never the empty text, since a scope ends in a
separator. -/
theorem Scope.append_ne_empty {language : Language} {enclosing : Option String}
    {callee : Callee} {scope : String}
    (h : Scope language enclosing callee scope) (name : String) :
    scope ++ name ≠ "" := by
  cases h with
  | ofClass => simp
  | ofSelf => simp
  | ofReceiver => cases language <;> simp [Language.qualifier]
  | ofSegments => simp

section Candidates

variable {language : Language} {imports : ImportMap}
  {enclosing : Option String} {callee : Callee}

/-- Turning the list of candidates into a set loses none and adds none. -/
theorem mem_candidates {candidate : String} :
    candidate ∈ callee.candidates language imports enclosing ↔
      candidate ∈ callee.candidateNames language imports enclosing :=
  NameSet.mem_ofList

/-- **The last name** of a callee is a candidate, whatever its receiver and the
class around the call. -/
theorem terminal_mem_candidates {last : String}
    (h : callee.terminal? = some last) (hne : last ≠ "") :
    last ∈ callee.candidates language imports enclosing := by
  rw [mem_candidates]
  cases callee with
  | name n =>
      obtain rfl := Option.some.inj h
      apply List.mem_append_left
      exact List.mem_append_left _ (mem_spelled.mpr ⟨rfl, hne⟩)
  | member receiver m =>
      obtain rfl := Option.some.inj h
      exact List.mem_append_left _ (mem_spelled.mpr ⟨rfl, hne⟩)
  | qualified segments => exact last_mem_qualifiedNames h
  | subscript n =>
      obtain rfl := Option.some.inj h
      exact mem_spelled.mpr ⟨rfl, hne⟩
  | unsupported => cases h

/-- **Candidates** are the last name itself, the last name in a scope, or the
name that an imported bare name has where it comes from, and none is empty. -/
theorem spelling_of_mem_candidates {candidate : String}
    (h : candidate ∈ callee.candidates language imports enclosing) :
    candidate ≠ "" ∧ ∃ last, callee.terminal? = some last ∧
      (candidate = last ∨
        (∃ scope, Scope language enclosing callee scope ∧
          candidate = scope ++ last) ∨
        ∃ n, callee = .name n ∧ imports.origin? n = some candidate) := by
  rw [mem_candidates] at h
  cases callee with
  | name n =>
      rcases List.mem_append.mp h with hspelled | hclass
      · rcases List.mem_append.mp hspelled with hbare | horigin
        · obtain ⟨rfl, hne⟩ := mem_spelled.mp hbare
          exact ⟨hne, _, rfl, Or.inl rfl⟩
        · obtain ⟨origin, hfound, hcandidate⟩ := List.mem_flatMap.mp horigin
          obtain ⟨rfl, hne⟩ := mem_spelled.mp hcandidate
          exact ⟨hne, n, rfl,
            Or.inr (Or.inr ⟨n, rfl, Option.mem_toList.mp hfound⟩)⟩
      · obtain ⟨hcpp, cls, hcls, rfl⟩ := mem_inClass.mp hclass
        have hscope : Scope language enclosing (.name n) (cls ++ "::") :=
          .ofClass hcpp hcls
        exact ⟨hscope.append_ne_empty n, n, rfl,
          Or.inr (Or.inl ⟨_, hscope, rfl⟩)⟩
  | member receiver m =>
      rcases List.mem_append.mp h with hbare | hreceiver
      · obtain ⟨rfl, hne⟩ := mem_spelled.mp hbare
        exact ⟨hne, _, rfl, Or.inl rfl⟩
      · obtain ⟨scope, hscope, rfl⟩ := scope_of_mem_throughReceiver hreceiver
        exact ⟨hscope.append_ne_empty m, m, rfl,
          Or.inr (Or.inl ⟨scope, hscope, rfl⟩)⟩
  | qualified segments =>
      obtain ⟨suffix, hne, hsuffix, rfl⟩ := suffix_of_mem_qualifiedNames h
      obtain ⟨last, hlast, rfl | ⟨scope, hscope, hspelling⟩⟩ :=
        scope_of_suffix language enclosing hne hsuffix
      · exact ⟨segment_ne_empty hlast, _, hlast, Or.inl rfl⟩
      · rw [hspelling]
        exact ⟨hscope.append_ne_empty last, last, hlast,
          Or.inr (Or.inl ⟨scope, hscope, rfl⟩)⟩
  | subscript n =>
      obtain ⟨rfl, hne⟩ := mem_spelled.mp h
      exact ⟨hne, _, rfl, Or.inl rfl⟩
  | unsupported => exact absurd h List.not_mem_nil

/-- A callee with no terminal name has no candidates. -/
theorem candidates_eq_empty (h : callee.terminal? = none) :
    callee.candidates language imports enclosing = ∅ := by
  apply NameSet.ext
  intro candidate
  refine iff_of_false (fun hmem => ?_) (NameSet.not_mem_empty candidate)
  obtain ⟨_, last, hlast, _⟩ := spelling_of_mem_candidates hmem
  rw [h] at hlast
  cases hlast

end Candidates

/-- **Over-approximation.**  The name in which a callee ends is a candidate
unless it is empty.  No candidate is empty, and each is that name, that name in
a scope, or the name that an imported bare name has where it comes from.  The
candidates of a qualified callee are the ends of its path, the whole path among
them, and a callee that ends in no name has no candidates. -/
theorem candidates_overApproximate (language : Language) (imports : ImportMap)
    (enclosing : Option String) (callee : Callee) :
    (∀ last, callee.terminal? = some last → last ≠ "" →
        last ∈ callee.candidates language imports enclosing) ∧
      ¬ "" ∈ callee.candidates language imports enclosing ∧
      (∀ candidate ∈ callee.candidates language imports enclosing,
        ∃ last, callee.terminal? = some last ∧
          (candidate = last ∨
            (∃ scope, Scope language enclosing callee scope ∧
              candidate = scope ++ last) ∨
            ∃ n, callee = .name n ∧ imports.origin? n = some candidate)) ∧
      (∀ segments, callee = .qualified segments →
        (∀ candidate ∈ callee.candidates language imports enclosing,
          ∃ suffix, suffix ≠ [] ∧ suffix <:+ segments.filter (· ≠ "") ∧
            candidate = Text.joinColons suffix) ∧
        ((∃ segment ∈ segments, segment ≠ "") →
          Text.joinColons (segments.filter (· ≠ "")) ∈
            callee.candidates language imports enclosing)) ∧
      (callee = .unsupported ∨
          (∃ segments, callee = .qualified segments ∧
            ∀ segment ∈ segments, segment = "") →
        callee.candidates language imports enclosing = ∅) := by
  refine ⟨fun last => terminal_mem_candidates, fun h => ?_, fun _ h => ?_, ?_,
    ?_⟩
  · exact (spelling_of_mem_candidates h).1 rfl
  · exact (spelling_of_mem_candidates h).2
  · rintro segments rfl
    refine ⟨fun candidate h => ?_, fun ⟨segment, hmem, hne⟩ => ?_⟩
    · exact suffix_of_mem_qualifiedNames (mem_candidates.mp h)
    · refine mem_candidates.mpr (joinColons_mem_qualifiedNames ?_)
      apply List.ne_nil_of_mem
      exact List.mem_filter.mpr ⟨hmem, decide_eq_true hne⟩
  · rintro (rfl | ⟨segments, rfl, hempty⟩)
    · exact candidates_eq_empty rfl
    · apply candidates_eq_empty
      rw [terminal?, List.getLast?_eq_none_iff, List.filter_eq_nil_iff]
      intro segment hmem
      simpa using hempty segment hmem

/-- A qualified callee with empty segments, inside of a class: its last name and
its whole path are candidates, and the class is in none of them. -/
theorem candidates_overApproximate_path :
    (qualified ["", "a", "b", "", "c"]).terminal? = some "c" ∧
      "c" ∈ (qualified ["", "a", "b", "", "c"]).candidates .cpp {}
        (some "Box") ∧
      "a::b::c" ∈ (qualified ["", "a", "b", "", "c"]).candidates .cpp {}
        (some "Box") ∧
      ∀ candidate ∈ (qualified ["", "a", "b", "", "c"]).candidates .cpp {}
          (some "Box"),
        ∃ suffix, suffix ≠ [] ∧ suffix <:+ ["a", "b", "c"] ∧
          candidate = Text.joinColons suffix := by
  have hlast : (qualified ["", "a", "b", "", "c"]).terminal? = some "c" := by
    decide
  obtain ⟨hmem, _, _, hqualified, _⟩ := candidates_overApproximate .cpp {}
    (some "Box") (qualified ["", "a", "b", "", "c"])
  obtain ⟨hsuffix, hwhole⟩ := hqualified _ rfl
  exact ⟨hlast, hmem "c" hlast (by decide),
    hwhole ⟨"c", by decide, by decide⟩, hsuffix⟩

end Callee

end CallGraph
