import CallGraph.Json

/-!
# Texts of JSON values can be read in one way

Two JSON values with the same compact text are equal (`render_injective`).  The
statement that goes through by induction is stronger: where the text of a value
stands in front of something that cannot continue a number, both the value and
what follows are determined (`readable_chars`).

Strings are read one character at a time (`readChar?`): an escape sequence
starts with a backslash, which no other character is written with, and the
closing quote is the one quote that is not part of an escape sequence.  Numbers
end where the digits end.  For the rest, the first character of a text tells
which form of value it has (`mark`), and lists and objects are taken apart at
their commas.
-/

namespace CallGraph.Json

/-- Induction over values, where the items of a list and the values of an
object count as smaller. -/
@[elab_as_elim]
theorem valueInduction {motive : Json → Prop} (null : motive null)
    (bool : ∀ b, motive (bool b)) (num : ∀ n, motive (num n))
    (str : ∀ s, motive (str s))
    (arr : ∀ items, (∀ item ∈ items, motive item) → motive (arr items))
    (obj : ∀ fields, (∀ field ∈ fields, motive field.2) →
      motive (obj fields)) (a : Json) : motive a :=
  @Json.rec motive (fun items => ∀ item ∈ items, motive item)
    (fun fields => ∀ field ∈ fields, motive field.2)
    (fun field => motive field.2) null bool num str arr obj
    (fun _ h => absurd h List.not_mem_nil)
    (fun _ _ hfirst hrest => List.forall_mem_cons.mpr ⟨hfirst, hrest⟩)
    (fun _ h => absurd h List.not_mem_nil)
    (fun _ _ hfirst hrest => List.forall_mem_cons.mpr ⟨hfirst, hrest⟩)
    (fun _ _ h => h) a

/-- The value of a hexadecimal digit. -/
def hexValue (c : Char) : Nat :=
  if c.isDigit then c.toNat - 48 else c.toNat - 87

/-- Reads one character of a string; the closing quote is none. -/
def readChar? : List Char → Option (Char × List Char)
  | '\\' :: 'u' :: _ :: _ :: high :: low :: rest =>
    some (Char.ofNat (16 * hexValue high + hexValue low), rest)
  | '\\' :: 'b' :: rest => some ('\x08', rest)
  | '\\' :: 'f' :: rest => some ('\x0c', rest)
  | '\\' :: 'n' :: rest => some ('\n', rest)
  | '\\' :: 'r' :: rest => some ('\r', rest)
  | '\\' :: 't' :: rest => some ('\t', rest)
  | '\\' :: c :: rest => some (c, rest)
  | '"' :: _ => none
  | c :: rest => some (c, rest)
  | [] => none

/-- Reading a hexadecimal digit undoes writing it. -/
theorem hexValue_hexDigit (n : Nat) : hexValue (hexDigit n) = n % 16 := by
  have hdigits : ∀ d < 16, hexValue (Nat.digitChar d) = d := by decide
  exact hdigits (n % 16) (Nat.mod_lt n (by decide))

/-- Every character is read as it was written. -/
theorem readChar?_escapeChar (c : Char) (rest : List Char) :
    readChar? (escapeChar c ++ rest) = some (c, rest) := by
  unfold escapeChar
  split
  · subst c; rfl
  split
  · subst c; rfl
  split
  · subst c; rfl
  split
  · subst c; rfl
  split
  · subst c; rfl
  split
  · subst c; rfl
  split
  · subst c; rfl
  split
  case isTrue hcontrol =>
    have hvalue : 16 * hexValue (hexDigit (c.toNat / 16)) +
        hexValue (hexDigit c.toNat) = c.toNat := by
      rw [hexValue_hexDigit, hexValue_hexDigit]
      omega
    simp only [List.cons_append, List.nil_append, readChar?, hvalue,
      Char.ofNat_toNat]
  case isFalse hquote hslash _ _ _ _ _ _ =>
    simp only [List.cons_append, List.nil_append]
    unfold readChar?
    split <;> simp_all

/-- The closing quote ends an escaped text: what was escaped and what follows
can both be told.  Reading a character gives none at the closing quote and only
there. -/
theorem escaped_append_inj {cs ds r s : List Char}
    (h : cs.flatMap escapeChar ++ '"' :: r =
      ds.flatMap escapeChar ++ '"' :: s) : cs = ds ∧ r = s := by
  induction cs generalizing ds with
  | nil =>
      cases ds with
      | nil => exact ⟨rfl, (List.cons.inj h).2⟩
      | cons d ds =>
          have hread := congrArg readChar? h
          rw [List.flatMap_cons, List.append_assoc,
            readChar?_escapeChar] at hread
          cases hread
  | cons c cs ih =>
      have hread := congrArg readChar? h
      rw [List.flatMap_cons, List.append_assoc,
        readChar?_escapeChar] at hread
      cases ds with
      | nil => cases hread
      | cons d ds =>
          rw [List.flatMap_cons, List.append_assoc, readChar?_escapeChar,
            Option.some.injEq, Prod.mk.injEq] at hread
          obtain ⟨rfl, hrest⟩ := hread
          obtain ⟨rfl, hend⟩ := ih hrest
          exact ⟨rfl, hend⟩

/-- **Strings.**  A string and what follows its text are determined. -/
theorem stringChars_append_inj {a b : String} {r s : List Char}
    (h : stringChars a ++ r = stringChars b ++ s) : a = b ∧ r = s := by
  unfold stringChars at h
  simp only [List.cons_append, List.append_assoc, List.nil_append,
    List.cons.injEq, true_and] at h
  obtain ⟨hchars, hrest⟩ := escaped_append_inj h
  exact ⟨String.toList_inj.mp hchars, hrest⟩

/-- What does not start with a digit. -/
def Stops (r : List Char) : Prop := ∀ c ∈ r.head?, c.isDigit = false

theorem stops_cons {c : Char} {r : List Char} (h : c.isDigit = false) :
    Stops (c :: r) := by
  intro d hd
  cases hd
  exact h

/-- The digits of a number end where the text goes on with something else. -/
theorem takeWhile_digits (n : Nat) {r : List Char} (h : Stops r) :
    (Nat.toDigits 10 n ++ r).takeWhile Char.isDigit = Nat.toDigits 10 n := by
  have hdigits : ∀ c ∈ Nat.toDigits 10 n, c.isDigit = true := fun c hc =>
    Nat.isDigit_of_mem_toDigits (by decide) (by decide) hc
  rw [List.takeWhile_append_of_pos hdigits]
  cases r with
  | nil => rw [List.takeWhile_nil, List.append_nil]
  | cons c r =>
      have hc : ¬ c.isDigit = true := by simp [h c rfl]
      rw [List.takeWhile_cons_of_neg hc, List.append_nil]

/-- **Numbers.**  A number is determined, and so is what follows, as long as
that does not start with a digit. -/
theorem toDigits_append_inj {m n : Nat} {r s : List Char} (hr : Stops r)
    (hs : Stops s) (h : Nat.toDigits 10 m ++ r = Nat.toDigits 10 n ++ s) :
    m = n ∧ r = s := by
  have hdigits : Nat.toDigits 10 m = Nat.toDigits 10 n := by
    rw [← takeWhile_digits m hr, h, takeWhile_digits n hs]
  have hvalue : m = n := by
    calc m = Nat.ofDigitChars 10 (Nat.toDigits 10 m) 0 :=
          Nat.ofDigitChars_ten_toDigits.symm
      _ = Nat.ofDigitChars 10 (Nat.toDigits 10 n) 0 := by rw [hdigits]
      _ = n := Nat.ofDigitChars_ten_toDigits
  rw [hdigits] at h
  exact ⟨hvalue, List.append_cancel_left h⟩

/-- How the text of a value starts, where zero stands for every digit. -/
def mark : Json → Char
  | null => 'n'
  | bool true => 't'
  | bool false => 'f'
  | num _ => '0'
  | str _ => '"'
  | arr _ => '['
  | obj _ => '\x7b'

/-- Every value begins with its mark, any digit counting as the mark of a
number. -/
theorem chars_mark (a : Json) :
    ∃ c rest, a.chars = c :: rest ∧
      (if c.isDigit then '0' else c) = a.mark := by
  cases a with
  | null => exact ⟨_, _, rfl, rfl⟩
  | bool b =>
      cases b with
      | true => exact ⟨_, _, rfl, rfl⟩
      | false => exact ⟨_, _, rfl, rfl⟩
  | num n =>
      obtain ⟨c, rest, hdigits⟩ :=
        List.exists_cons_of_ne_nil (Nat.toDigits_ne_nil (n := n) (b := 10))
      have hc : c.isDigit = true :=
        Nat.isDigit_of_mem_toDigits (by decide) (by decide)
          (hdigits ▸ List.mem_cons_self)
      exact ⟨c, rest, hdigits, by rw [if_pos hc, mark]⟩
  | str s => exact ⟨_, _, rfl, rfl⟩
  | arr items => exact ⟨_, _, rfl, rfl⟩
  | obj fields => exact ⟨_, _, rfl, rfl⟩

/-- Values whose texts begin alike have one mark: they are of one kind. -/
theorem mark_eq_of_chars_append {a b : Json} {r s : List Char}
    (h : a.chars ++ r = b.chars ++ s) : a.mark = b.mark := by
  obtain ⟨c, _, hc, hmark⟩ := chars_mark a
  obtain ⟨d, _, hd, hmark'⟩ := chars_mark b
  rw [hc, hd, List.cons_append, List.cons_append, List.cons.injEq] at h
  rw [← hmark, ← hmark', h.1]

/-- Two values of one form. -/
inductive SameForm : Json → Json → Prop
  | null : SameForm null null
  | bool (b : Bool) : SameForm (bool b) (bool b)
  | num (m n : Nat) : SameForm (num m) (num n)
  | str (s t : String) : SameForm (str s) (str t)
  | arr (xs ys : List Json) : SameForm (arr xs) (arr ys)
  | obj (fs gs : List (String × Json)) : SameForm (obj fs) (obj gs)

/-- The first character tells the form, and which Boolean it is. -/
theorem sameForm_of_mark {a b : Json} (h : a.mark = b.mark) :
    SameForm a b := by
  rcases a with _ | (_ | _) | m | s | xs | fs <;>
    rcases b with _ | (_ | _) | n | t | ys | gs
  all_goals first | constructor | simp [mark] at h

theorem itemTexts_eq_map (items : List Json) :
    itemTexts items = items.map chars := by
  induction items with
  | nil => rfl
  | cons item rest ih => exact congrArg (item.chars :: ·) ih

/-- An array is written as its items between brackets. -/
theorem chars_arr (items : List Json) :
    (arr items).chars =
      '[' :: (commaSeparated (items.map chars) ++ [']']) := by
  rw [← itemTexts_eq_map]
  rfl

/-- The text of a field. -/
def fieldChars (field : String × Json) : List Char :=
  stringChars field.1 ++ ':' :: field.2.chars

theorem fieldTexts_eq_map (fields : List (String × Json)) :
    fieldTexts fields = fields.map fieldChars := by
  induction fields with
  | nil => rfl
  | cons field rest ih => exact congrArg (fieldChars field :: ·) ih

/-- An object is written as its fields between braces. -/
theorem chars_obj (fields : List (String × Json)) :
    (obj fields).chars =
      '\x7b' :: (commaSeparated (fields.map fieldChars) ++ ['\x7d']) := by
  rw [← fieldTexts_eq_map]
  rfl

/-- What follows the first of some texts. -/
def afterFirst : List (List Char) → List Char
  | [] => []
  | x :: rest => ',' :: commaSeparated (x :: rest)

theorem commaSeparated_cons (x : List Char) (rest : List (List Char)) :
    commaSeparated (x :: rest) = x ++ afterFirst rest := by
  cases rest with
  | nil => rw [commaSeparated, afterFirst, List.append_nil]
  | cons y rest => rfl

/-- What follows an item cannot lengthen a number. -/
theorem stops_afterFirst {close : Char} (h : close.isDigit = false)
    (rest : List (List Char)) (r : List Char) :
    Stops (afterFirst rest ++ close :: r) := by
  cases rest with
  | nil => exact stops_cons h
  | cons x rest => exact stops_cons rfl

/-- Items and what follows their texts are determined, for items of a kind. -/
def Readable {α : Type} (text : α → List Char) (x : α) : Prop :=
  ∀ y r s, Stops r → Stops s → text x ++ r = text y ++ s → x = y ∧ r = s

/-- **Lists.**  Items that can be read one by one can be read between commas,
up to a closing character with which no item starts. -/
theorem commaSeparated_append_inj {α : Type} {text : α → List Char}
    {close : Char} (hdigit : close.isDigit = false) (hcomma : close ≠ ',')
    (hstart : ∀ x, ∃ c rest, text x = c :: rest ∧ c ≠ close)
    {xs ys : List α} {r s : List Char}
    (hread : ∀ x ∈ xs, Readable text x)
    (h : commaSeparated (xs.map text) ++ close :: r =
      commaSeparated (ys.map text) ++ close :: s) : xs = ys ∧ r = s := by
  have hopen : ∀ (z : α) (zs : List α) (u v : List Char),
      close :: u ≠ commaSeparated ((z :: zs).map text) ++ close :: v := by
    intro z zs u v heq
    obtain ⟨c, rest, htext, hne⟩ := hstart z
    rw [List.map_cons, commaSeparated_cons, htext] at heq
    exact hne (List.cons.inj heq).1.symm
  induction xs generalizing ys with
  | nil =>
      cases ys with
      | nil => exact ⟨rfl, (List.cons.inj h).2⟩
      | cons y ys => exact absurd h (hopen y ys r s)
  | cons x xs ih =>
      cases ys with
      | nil => exact absurd h.symm (hopen x xs s r)
      | cons y ys =>
          rw [List.map_cons, List.map_cons, commaSeparated_cons,
            commaSeparated_cons, List.append_assoc, List.append_assoc] at h
          obtain ⟨rfl, hrest⟩ := hread x List.mem_cons_self y _ _
            (stops_afterFirst hdigit _ r) (stops_afterFirst hdigit _ s) h
          cases xs with
          | nil =>
              cases ys with
              | nil => exact ⟨rfl, (List.cons.inj hrest).2⟩
              | cons z zs => exact absurd (List.cons.inj hrest).1 hcomma
          | cons w ws =>
              cases ys with
              | nil => exact absurd (List.cons.inj hrest).1.symm hcomma
              | cons z zs =>
                  have hmore : commaSeparated ((w :: ws).map text) ++
                      close :: r =
                        commaSeparated ((z :: zs).map text) ++ close :: s :=
                    (List.cons.inj hrest).2
                  obtain ⟨htail, hend⟩ := ih
                    (fun v hv => hread v (List.mem_cons_of_mem x hv)) hmore
                  exact ⟨congrArg (x :: ·) htail, hend⟩

/-- No value starts like the end of a list. -/
theorem exists_chars_ne_bracket (a : Json) :
    ∃ c rest, a.chars = c :: rest ∧ c ≠ ']' := by
  obtain ⟨c, rest, hchars, hc⟩ := chars_mark a
  refine ⟨c, rest, hchars, fun heq => ?_⟩
  rw [heq] at hc
  rcases a with _ | (_ | _) | _ | _ | _ | _
  all_goals simp [mark] at hc

/-- A field can be read if its value can. -/
theorem readable_field {field : String × Json}
    (h : Readable chars field.2) : Readable fieldChars field := by
  intro other r s hr hs heq
  unfold fieldChars at heq
  rw [List.append_assoc, List.append_assoc] at heq
  obtain ⟨hname, hrest⟩ := stringChars_append_inj heq
  obtain ⟨hvalue, hend⟩ := h other.2 r s hr hs (List.cons.inj hrest).2
  exact ⟨Prod.ext hname hvalue, hend⟩

/-- **Values.**  A value and what follows its text are determined, as long as
that does not start with a digit. -/
theorem readable_chars (a : Json) : Readable chars a := by
  induction a using valueInduction with
  | null =>
      intro b r s hr hs h
      cases sameForm_of_mark (mark_eq_of_chars_append h)
      exact ⟨rfl, List.append_cancel_left h⟩
  | bool flag =>
      intro b r s hr hs h
      cases sameForm_of_mark (mark_eq_of_chars_append h)
      exact ⟨rfl, List.append_cancel_left h⟩
  | num m =>
      intro b r s hr hs h
      cases sameForm_of_mark (mark_eq_of_chars_append h) with
      | num _ n =>
          obtain ⟨rfl, hend⟩ := toDigits_append_inj hr hs h
          exact ⟨rfl, hend⟩
  | str text =>
      intro b r s hr hs h
      cases sameForm_of_mark (mark_eq_of_chars_append h) with
      | str _ t =>
          obtain ⟨rfl, hend⟩ := stringChars_append_inj h
          exact ⟨rfl, hend⟩
  | arr xs ih =>
      intro b r s hr hs h
      cases sameForm_of_mark (mark_eq_of_chars_append h) with
      | arr _ ys =>
          rw [chars_arr, chars_arr] at h
          simp only [List.cons_append, List.append_assoc,
            List.nil_append] at h
          obtain ⟨rfl, hend⟩ := commaSeparated_append_inj rfl (by decide)
            exists_chars_ne_bracket ih (List.cons.inj h).2
          exact ⟨rfl, hend⟩
  | obj fs ih =>
      intro b r s hr hs h
      cases sameForm_of_mark (mark_eq_of_chars_append h) with
      | obj _ gs =>
          rw [chars_obj, chars_obj] at h
          simp only [List.cons_append, List.append_assoc,
            List.nil_append] at h
          obtain ⟨rfl, hend⟩ := commaSeparated_append_inj rfl (by decide)
            (fun f => ⟨'"', _, rfl, by decide⟩)
            (fun f hf => readable_field (ih f hf)) (List.cons.inj h).2
          exact ⟨rfl, hend⟩

/-- Values with the same text are equal. -/
theorem render_injective {a b : Json} (h : a.render = b.render) : a = b := by
  have hchars : a.chars ++ [] = b.chars ++ [] :=
    congrArg (· ++ []) (String.ofList_injective h)
  have hend : Stops [] := by
    intro c hc
    cases hc
  exact (readable_chars a b [] [] hend hend hchars).1

end CallGraph.Json
