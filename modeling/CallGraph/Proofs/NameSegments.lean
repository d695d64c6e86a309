import CallGraph.Proofs.TemplateArguments

/-!
# The segments of a written name

A qualified name is written as segments with pairs of colons between them,
each perhaps followed by template arguments in angle brackets, and with blanks
anywhere.  Its segments are found in three passes: the blanks go, the text is
cut at pairs of colons, and each piece loses what stands between brackets.

The cuts come before the brackets are read.  So a name falls into the segments
from which it was written exactly if no template arguments have a pair of
colons (`segments_written_iff`).  Where they have none, all cuts are between
segments (`splitColons_written`) and the arguments leave nothing behind.  Where
they have one, the piece after their last cut closes a bracket that it did not
open (`exists_closing_piece`), and such a bracket stays in its segment.
-/

namespace CallGraph

namespace Text

/-- A text without a pair of colons. -/
def PairFree (cs : List Char) : Prop := ¬ [':', ':'] <:+: cs

instance (cs : List Char) : Decidable (PairFree cs) :=
  inferInstanceAs (Decidable (¬ [':', ':'] <:+: cs))

/-- A text without a colon has no pair of them. -/
theorem pairFree_of_not_mem {cs : List Char} (h : ':' ∉ cs) :
    PairFree cs := by
  intro hpair
  exact h (hpair.subset List.mem_cons_self)

theorem PairFree.tail {c : Char} {cs : List Char} (h : PairFree (c :: cs)) :
    PairFree cs := by
  intro hpair
  exact h (hpair.trans (List.suffix_cons c cs).isInfix)

/-- There is always a part, if only an empty one. -/
theorem splitColons_ne_nil (cs : List Char) : splitColons cs ≠ [] := by
  fun_cases splitColons cs <;> exact List.cons_ne_nil _ _

/-- Where no pair starts, the first character belongs to the first piece. -/
theorem splitColons_cons {c : Char} {rest : List Char}
    (h : c = ':' → rest.head? ≠ some ':') :
    splitColons (c :: rest) = (splitColons rest).modifyHead (c :: ·) := by
  have hpair : ∀ more, c = ':' → rest = ':' :: more → False := by
    intro more hc hrest
    apply h hc
    rw [hrest, List.head?_cons]
  obtain ⟨segment, more, hsplit⟩ :=
    List.exists_cons_of_ne_nil (splitColons_ne_nil rest)
  rw [splitColons.eq_3 c rest hpair, hsplit, List.modifyHead_cons]

/-- A text without a pair of colons belongs to the first piece, unless it ends
with the first colon of a pair. -/
theorem splitColons_append {w rest : List Char} (hw : PairFree w)
    (hend : w.getLast? = some ':' → rest.head? ≠ some ':') :
    splitColons (w ++ rest) = (splitColons rest).modifyHead (w ++ ·) := by
  induction w with
  | nil =>
      obtain ⟨segment, more, hsplit⟩ :=
        List.exists_cons_of_ne_nil (splitColons_ne_nil rest)
      rw [List.nil_append, hsplit, List.modifyHead_cons, List.nil_append]
  | cons c w ih =>
      have hnext : c = ':' → (w ++ rest).head? ≠ some ':' := by
        intro hc
        subst hc
        cases w with
        | nil => exact hend rfl
        | cons d w =>
            intro hd
            obtain rfl := Option.some.inj hd
            exact hw (List.prefix_append [':', ':'] w).isInfix
      have hlast : w.getLast? = some ':' → rest.head? ≠ some ':' := by
        intro hcolon
        apply hend
        rw [List.getLast?_cons, hcolon, Option.getD_some]
      rw [List.cons_append, splitColons_cons hnext, ih hw.tail hlast,
        List.modifyHead_modifyHead]
      rfl

/-- A run without a colon in front joins the first part. -/
theorem splitColons_append_of_not_mem {w rest : List Char} (h : ':' ∉ w) :
    splitColons (w ++ rest) = (splitColons rest).modifyHead (w ++ ·) := by
  apply splitColons_append (pairFree_of_not_mem h)
  intro hlast
  exact absurd (List.mem_of_getLast? hlast) h

/-- The second text is the first one with blanks put in. -/
inductive Spaced : List Char → List Char → Prop
  | nil : Spaced [] []
  | keep (c : Char) {cs ts : List Char} :
      Spaced cs ts → Spaced (c :: cs) (c :: ts)
  | blank (b : Char) {cs ts : List Char} :
      isBlank b = true → Spaced cs ts → Spaced cs (b :: ts)

/-- Whether the second text is the first one with blanks put in. -/
def isSpaced : List Char → List Char → Bool
  | [], [] => true
  | _ :: _, [] => false
  | [], t :: ts => isBlank t && isSpaced [] ts
  | c :: cs, t :: ts =>
    (c == t && isSpaced cs ts) || (isBlank t && isSpaced (c :: cs) ts)

/-- The test for a spaced spelling decides the relation. -/
theorem isSpaced_iff {cs ts : List Char} :
    isSpaced cs ts = true ↔ Spaced cs ts := by
  constructor
  · intro h
    fun_induction isSpaced cs ts with
    | case1 => exact .nil
    | case2 => exact absurd h Bool.false_ne_true
    | case3 t ts ih =>
        obtain ⟨hblank, hrest⟩ := Bool.and_eq_true_iff.mp h
        exact .blank t hblank (ih hrest)
    | case4 c cs t ts ihkeep ihblank =>
        rcases Bool.or_eq_true_iff.mp h with h | h
        · obtain ⟨hsame, hrest⟩ := Bool.and_eq_true_iff.mp h
          obtain rfl := eq_of_beq hsame
          exact .keep c (ihkeep hrest)
        · obtain ⟨hblank, hrest⟩ := Bool.and_eq_true_iff.mp h
          exact .blank t hblank (ihblank hrest)
  · intro h
    induction h with
    | nil => rfl
    | keep c _ ih => simp [isSpaced, ih]
    | @blank b cs ts hblank _ ih =>
        cases cs with
        | nil => simp [isSpaced, hblank, ih]
        | cons c cs => simp [isSpaced, hblank, ih]

instance (cs ts : List Char) : Decidable (Spaced cs ts) :=
  decidable_of_iff (isSpaced cs ts = true) isSpaced_iff

/-- Blanks that were put in make no difference once all blanks are gone. -/
theorem Spaced.filter_eq {cs ts : List Char} (h : Spaced cs ts) :
    ts.filter (fun c => !isBlank c) = cs.filter fun c => !isBlank c := by
  induction h with
  | nil => rfl
  | keep c _ ih =>
      rw [List.filter_cons, List.filter_cons, ih]
  | blank b hblank _ ih =>
      rw [List.filter_cons_of_neg (by simp [hblank]), ih]

/-- **The last piece.**  Where a text with a pair of colons is followed by a
closing bracket, the bracket is in a later piece, after an end of the text. -/
theorem exists_closing_piece {a : List Char} (rest : List Char)
    (h : ¬ PairFree a) :
    ∃ piece ∈ (splitColons (a ++ '>' :: rest)).tail,
      ∃ u v, a = u ++ v ∧ v ++ ['>'] <+: piece := by
  have hbracket : ('>' :: rest).head? ≠ some ':' := by simp
  induction a using splitColons.induct with
  | case1 => exact absurd (pairFree_of_not_mem List.not_mem_nil) h
  | case2 a ih =>
      rw [List.cons_append, List.cons_append, splitColons.eq_2, List.tail_cons]
      by_cases ha : PairFree a
      · obtain ⟨segment, more, hsplit⟩ :=
          List.exists_cons_of_ne_nil (splitColons_ne_nil rest)
        rw [splitColons_append ha (fun _ => hbracket),
          splitColons_cons (fun hc => absurd hc (by decide)), hsplit]
        refine ⟨a ++ '>' :: segment, List.mem_cons_self, [':', ':'], a, rfl,
          ?_⟩
        exact ⟨segment, List.append_assoc a ['>'] segment⟩
      · obtain ⟨piece, hpiece, u, v, rfl, hv⟩ := ih ha
        exact ⟨piece, List.mem_of_mem_tail hpiece, ':' :: ':' :: u, v, rfl,
          hv⟩
  | case3 c a _ hnil => exact absurd hnil (splitColons_ne_nil a)
  | case4 c a hc segment more _ ih =>
      have ha : ¬ PairFree a := by
        intro ha
        apply h
        intro hpair
        rcases List.infix_cons_iff.mp hpair with hprefix | hinfix
        · obtain ⟨hcolon, rest, hrest⟩ := List.cons_prefix_cons.mp hprefix
          exact hc rest hcolon.symm hrest.symm
        · exact ha hinfix
      have hnext : c = ':' → (a ++ '>' :: rest).head? ≠ some ':' := by
        intro hcolon
        cases a with
        | nil => exact hbracket
        | cons d a =>
            intro hd
            obtain rfl := Option.some.inj hd
            exact hc a hcolon rfl
      obtain ⟨piece, hpiece, u, v, rfl, hv⟩ := ih ha
      rw [List.cons_append, splitColons_cons hnext, List.tail_modifyHead]
      exact ⟨piece, hpiece, c :: u, v, rfl, hv⟩

end Text

namespace QualifiedName

open Text (splitColons PairFree isBlank)

/-- A text without blanks, colons and angle brackets. -/
def IsPlain (cs : List Char) : Prop :=
  ∀ c ∈ cs, isBlank c = false ∧ c ≠ ':' ∧ c ≠ '<' ∧ c ≠ '>'

instance (cs : List Char) : Decidable (IsPlain cs) :=
  List.decidableBAll _ cs

/-- One segment of a qualified name as it is written: a plain word that does
not start with `operator`, perhaps with template arguments in which angle
brackets are balanced. -/
structure Part where
  segment : String
  arguments : Option String := none
  nonempty : segment ≠ ""
  plain : IsPlain segment.toList
  not_operator : ¬ "operator".toList <+: segment.toList
  balanced : ∀ a ∈ arguments, Balanced a.toList

namespace Part

/-- A segment with its template arguments. -/
def written (part : Part) : String :=
  match part.arguments with
  | none => part.segment
  | some arguments => part.segment ++ "<" ++ arguments ++ ">"

/-- Template arguments in their brackets. -/
def bracketed : Option String → List Char
  | none => []
  | some arguments => '<' :: (arguments.toList ++ ['>'])

/-- A part is written as its segment and its arguments in brackets. -/
theorem toList_written (part : Part) :
    part.written.toList = part.segment.toList ++ bracketed part.arguments := by
  unfold written bracketed
  split
  · rw [List.append_nil]
  · simp

/-- The template arguments have no pair of colons. -/
def Whole (part : Part) : Prop :=
  ∀ arguments ∈ part.arguments, PairFree arguments.toList

variable (part : Part)

theorem colon_not_mem : ':' ∉ part.segment.toList := by
  intro hmem
  exact (part.plain ':' hmem).2.1 rfl

theorem open_not_mem : '<' ∉ part.segment.toList := by
  intro hmem
  exact (part.plain '<' hmem).2.2.1 rfl

/-- Nothing is cut before the template arguments. -/
theorem splitColons_opened {arguments : String}
    (h : part.arguments = some arguments) (rest : List Char) :
    splitColons (part.written.toList ++ rest) =
      (splitColons (arguments.toList ++ '>' :: rest)).modifyHead
        (part.segment.toList ++ '<' :: ·) := by
  have hopened : ':' ∉ part.segment.toList ++ ['<'] := by
    simp [part.colon_not_mem]
  have htext : part.written.toList ++ rest =
      part.segment.toList ++ ['<'] ++ (arguments.toList ++ '>' :: rest) := by
    rw [toList_written, h]
    simp [bracketed]
  rw [htext, Text.splitColons_append_of_not_mem hopened]
  congr 1
  funext piece
  exact List.append_assoc _ _ _

/-- A segment whose template arguments have no pair of colons is not cut. -/
theorem splitColons_written (hwhole : part.Whole) (rest : List Char) :
    splitColons (part.written.toList ++ rest) =
      (splitColons rest).modifyHead (part.written.toList ++ ·) := by
  cases harguments : part.arguments with
  | none =>
      rw [toList_written, harguments, bracketed, List.append_nil]
      exact Text.splitColons_append_of_not_mem part.colon_not_mem
  | some arguments =>
      have hpairs : PairFree arguments.toList := hwhole arguments harguments
      have hclosed : ('>' :: rest).head? ≠ some ':' := by simp
      rw [part.splitColons_opened harguments,
        Text.splitColons_append hpairs (fun _ => hclosed),
        Text.splitColons_cons (fun hc => absurd hc (by decide)),
        List.modifyHead_modifyHead, List.modifyHead_modifyHead,
        toList_written, harguments]
      congr 1
      funext piece
      simp [bracketed]

/-- Where the template arguments have a pair of colons, some piece keeps a
closing bracket. -/
theorem exists_unmatched (hcut : ¬ part.Whole) (rest : List Char) :
    ∃ piece ∈ splitColons (part.written.toList ++ rest),
      '>' ∈ stripTemplateArgs piece := by
  unfold Whole at hcut
  push Not at hcut
  obtain ⟨arguments, harguments, hpairs⟩ := hcut
  obtain ⟨piece, hpiece, u, v, huv, hv⟩ :=
    Text.exists_closing_piece rest hpairs
  have hbalanced : Balanced (u ++ v) := huv ▸ part.balanced _ harguments
  refine ⟨piece, ?_, mem_stripTemplateArgs hv hbalanced.opens_le⟩
  apply List.mem_of_mem_tail
  rw [part.splitColons_opened harguments, List.tail_modifyHead]
  exact hpiece

/-- No part is written like an operator, whose signs would not be stripped. -/
theorem not_operator_written :
    ¬ "operator".toList <+: part.written.toList := by
  intro hoperator
  rw [toList_written] at hoperator
  rcases List.prefix_or_prefix_of_prefix hoperator
    (List.prefix_append _ (bracketed part.arguments)) with hword | hword
  · exact part.not_operator hword
  · obtain ⟨rest, hrest⟩ := hword
    rw [← hrest, List.prefix_append_right_inj] at hoperator
    cases rest with
    | nil =>
        rw [List.append_nil] at hrest
        exact part.not_operator (hrest ▸ List.prefix_refl _)
    | cons c rest =>
        have hmem : c ∈ "operator".toList := by
          rw [← hrest]
          exact List.mem_append_right _ List.mem_cons_self
        cases harguments : part.arguments with
        | none =>
            rw [harguments] at hoperator
            exact absurd (List.prefix_nil.mp hoperator) (List.cons_ne_nil _ _)
        | some arguments =>
            rw [harguments] at hoperator
            obtain ⟨rfl, _⟩ := List.cons_prefix_cons.mp hoperator
            exact absurd hmem (by decide)

/-- A segment loses its template arguments and nothing else. -/
theorem stripTemplateArgs_written :
    stripTemplateArgs part.written.toList = part.segment.toList := by
  have hoperator : "operator".toList.isPrefixOf part.written.toList = false :=
    Bool.eq_false_iff.mpr fun h =>
      part.not_operator_written (List.isPrefixOf_iff_prefix.mp h)
  have hbrackets : dropTemplateArgs 0 (bracketed part.arguments) = [] := by
    cases harguments : part.arguments with
    | none => rfl
    | some arguments =>
        exact (part.balanced arguments harguments).dropTemplateArgs []
  unfold stripTemplateArgs
  rw [hoperator, if_neg Bool.false_ne_true, toList_written,
    dropTemplateArgs_plain _ part.open_not_mem, hbrackets, List.append_nil]

/-- The segment with the blanks of its template arguments removed. -/
def compacted : Part :=
  { part with
    arguments := part.arguments.map Text.compact
    balanced := by
      intro arguments harguments
      obtain ⟨original, horiginal, rfl⟩ :=
        Option.map_eq_some_iff.mp (Option.mem_def.mp harguments)
      rw [Text.toList_compact]
      exact (part.balanced original horiginal).filter }

/-- Taking out the blanks of a written part gives the compact spelling. -/
theorem filter_written :
    part.written.toList.filter (fun c => !isBlank c) =
      part.compacted.written.toList := by
  have hsegment : part.segment.toList.filter (fun c => !isBlank c) =
      part.segment.toList := by
    rw [List.filter_eq_self]
    intro c hc
    rw [(part.plain c hc).1]
    rfl
  have hopen : (!isBlank '<') = true := by decide
  have hclose : (!isBlank '>') = true := by decide
  rw [toList_written, toList_written, List.filter_append, hsegment]
  congr 1
  cases harguments : part.arguments with
  | none => simp [compacted, harguments, bracketed]
  | some arguments => simp [compacted, harguments, bracketed, hopen, hclose]

end Part

/-- A qualified name as it is written, with a pair of colons in front if it is
looked up from the root. -/
def written (rooted : Bool) (parts : List Part) : String :=
  (if rooted then "::" else "") ++ Text.joinColons (parts.map Part.written)

/-- The segments that pieces of a name have without template arguments. -/
def bareSegments (pieces : List (List Char)) : List (List Char) :=
  (pieces.map stripTemplateArgs).filter fun s => !s.isEmpty

/-- The segments of a name are read in three steps: the blanks go, the pairs of
colons divide, the template arguments go. -/
theorem segments_eq (name : String) :
    segments name =
      (bareSegments (splitColons
        (name.toList.filter fun c => !isBlank c))).map String.ofList := by
  rw [← Text.toList_compact]
  rfl

/-- What follows a written segment starts a new piece. -/
theorem exists_after (part : Part) (parts : List Part) :
    ∃ after more,
      (Text.joinColons ((part :: parts).map Part.written)).toList =
          part.written.toList ++ after ∧
        splitColons after = [] :: more ∧
        bareSegments more = bareSegments
          (splitColons (Text.joinColons (parts.map Part.written)).toList) := by
  cases parts with
  | nil =>
      refine ⟨[], [], ?_, rfl, rfl⟩
      simp [Text.joinColons]
  | cons next parts =>
      refine ⟨':' :: ':' ::
        (Text.joinColons ((next :: parts).map Part.written)).toList, _, ?_,
        rfl, rfl⟩
      simp [Text.joinColons, String.intercalate_cons_cons]

/-- **Cutting a name.**  A name without blanks falls into the segments from
which it was written exactly if no template arguments have a pair of
colons. -/
theorem bareSegments_written_iff (parts : List Part) :
    bareSegments
        (splitColons (Text.joinColons (parts.map Part.written)).toList) =
        parts.map (·.segment.toList) ↔
      ∀ part ∈ parts, part.Whole := by
  induction parts with
  | nil => exact iff_of_true rfl (by simp)
  | cons part parts ih =>
      obtain ⟨after, more, htext, hafter, hmore⟩ := exists_after part parts
      rw [htext]
      by_cases hwhole : part.Whole
      · have hne : part.segment.toList ≠ [] := by
          intro hnil
          exact part.nonempty (String.toList_eq_nil_iff.mp hnil)
        have hpieces : bareSegments (splitColons
            (part.written.toList ++ after)) =
              part.segment.toList :: bareSegments more := by
          rw [part.splitColons_written hwhole, hafter, List.modifyHead_cons,
            List.append_nil, bareSegments, List.map_cons,
            part.stripTemplateArgs_written,
            List.filter_cons_of_pos (by simpa using hne)]
          rfl
        rw [hpieces, hmore, List.map_cons, List.cons_inj_right, ih,
          List.forall_mem_cons, and_iff_right hwhole]
      · apply iff_of_false
        · intro heq
          obtain ⟨piece, hpiece, hclose⟩ := part.exists_unmatched hwhole after
          have hsegment : stripTemplateArgs piece ∈
              (part :: parts).map (·.segment.toList) := by
            rw [← heq]
            refine List.mem_filter.mpr ⟨List.mem_map_of_mem hpiece, ?_⟩
            simpa using List.ne_nil_of_mem hclose
          obtain ⟨other, _, hother⟩ := List.mem_map.mp hsegment
          rw [← hother] at hclose
          exact (other.plain '>' hclose).2.2.2 rfl
        · intro hall
          exact hwhole (hall part List.mem_cons_self)

/-- The blanks of a whole name go part by part. -/
theorem filter_joinColons (parts : List Part) :
    (Text.joinColons (parts.map Part.written)).toList.filter
        (fun c => !isBlank c) =
      (Text.joinColons
        ((parts.map Part.compacted).map Part.written)).toList := by
  have hcolon : (!isBlank ':') = true := by decide
  induction parts with
  | nil => rfl
  | cons part parts ih =>
      cases parts with
      | nil => simpa [Text.joinColons] using part.filter_written
      | cons next parts =>
          have hfirst := part.filter_written
          simp only [Text.joinColons, List.map_cons,
            String.intercalate_cons_cons, String.toList_append,
            List.filter_append] at ih ⊢
          rw [hfirst, ih]
          simp [hcolon]

/-- A pair of colons in front adds no segment. -/
theorem bareSegments_rooted (rooted : Bool) (cs : List Char) :
    bareSegments (splitColons
        ((if rooted then "::" else "").toList ++ cs)) =
      bareSegments (splitColons cs) := by
  cases rooted with
  | false => rfl
  | true => rfl

/-- **Segments of a written name.**  A name that was written from segments and
template arguments, with blanks put in anywhere, falls into these segments
exactly if no template arguments have a pair of colons. -/
theorem segments_written_iff (rooted : Bool) (parts : List Part)
    (text : String)
    (h : Text.Spaced (written rooted parts).toList text.toList) :
    segments text = parts.map Part.segment ↔
      ∀ part ∈ parts, ∀ arguments ∈ part.arguments,
        PairFree (Text.compact arguments).toList := by
  have hroot : (if rooted then "::" else "").toList.filter
      (fun c => !isBlank c) = (if rooted then "::" else "").toList := by
    cases rooted with
    | false => rfl
    | true => decide
  have hchars : parts.map Part.segment =
      ((parts.map Part.compacted).map (·.segment.toList)).map
        String.ofList := by
    simp [Part.compacted, Function.comp_def]
  have hinjective : Function.Injective (List.map String.ofList) :=
    List.map_injective_iff.mpr fun _ _ => String.ofList_inj.mp
  have hwhole : ∀ part : Part, part.compacted.Whole ↔
      ∀ arguments ∈ part.arguments,
        PairFree (Text.compact arguments).toList := by
    intro part
    simp [Part.Whole, Part.compacted]
  rw [segments_eq, h.filter_eq, written, String.toList_append,
    List.filter_append, hroot, filter_joinColons, bareSegments_rooted, hchars,
    hinjective.eq_iff, bareSegments_written_iff, List.forall_mem_map]
  simp only [hwhole]

/-- A member of a class whose template arguments are nested and have a single
colon. -/
def nestedParts : List Part := [
  ⟨"ns", none, by decide, by decide, by decide, by decide⟩,
  ⟨"A", some "B<C>,d?e:f", by decide, by decide, by decide, by decide⟩,
  ⟨"g", none, by decide, by decide, by decide, by decide⟩]

/-- A member of a class whose template arguments have a pair of colons. -/
def scopedParts : List Part := [
  ⟨"A", some "x::y", by decide, by decide, by decide, by decide⟩,
  ⟨"g", none, by decide, by decide, by decide, by decide⟩]

/-- Nested template arguments, a single colon and blanks do no harm. -/
theorem segments_written_nested :
    Text.Spaced (written true nestedParts).toList
        ":: ns ::A< B<C>, d ? e : f >\n  ::g".toList ∧
      (∀ part ∈ nestedParts, ∀ arguments ∈ part.arguments,
        PairFree (Text.compact arguments).toList) ∧
      segments ":: ns ::A< B<C>, d ? e : f >\n  ::g" = ["ns", "A", "g"] := by
  have hspaced : Text.Spaced (written true nestedParts).toList
      ":: ns ::A< B<C>, d ? e : f >\n  ::g".toList := by decide
  have hpairs : ∀ part ∈ nestedParts, ∀ arguments ∈ part.arguments,
      PairFree (Text.compact arguments).toList := by decide
  have hsegments := segments_written_iff true nestedParts _ hspaced
  exact ⟨hspaced, hpairs, hsegments.mpr hpairs⟩

/-- **A cut inside of brackets.**  A pair of colons in template arguments cuts
them, and what follows it becomes a segment with a closing bracket. -/
theorem segments_cuts_arguments :
    Text.Spaced (written false scopedParts).toList "A<x::y>::g".toList ∧
      segments "A<x::y>::g" = ["A", "y>", "g"] ∧
      segments "A<x::y>::g" ≠ scopedParts.map Part.segment := by
  decide

end QualifiedName

end CallGraph
