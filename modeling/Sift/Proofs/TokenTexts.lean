import Mathlib.Tactic.Lemma
import Sift.QueryText.Lexer

/-!
# Writing tokens and cutting them again

Tokens have a text each, and the texts of several tokens are written with blanks between them.
Cutting such a text gives the tokens back, if no part of a token holds the characters that end it or
make something else of it: a field starts with no sign of negation, a quoted text holds no quotation
mark, and a plain value that stands alone is no operator and has no colon.

## Main definitions

* `Sift.Token.text`: the text of a token.
* `Sift.Token.Readable`: tokens whose text says what they are.
* `Sift.QueryText.Spaced`: the texts of several tokens with blanks between them.

## Main results

* `Sift.QueryText.value?_text`: a value is read from its text.
* `Sift.QueryText.operator?_clause_text`: no clause starts with an operator.
* `Sift.QueryText.token?_text`: a token is read from its text.
* `Sift.Token.scan_spaced`: the tokens are read from their texts.
-/

set_option autoImplicit false

namespace Sift

/-! ## Texts of tokens -/

/-- A value as it is written. -/
def ClauseValue.text : ClauseValue → List Char
  | plain s => s.toList
  | quoted s => '"' :: (s.toList ++ ['"'])
  | regex s => '/' :: (s.toList ++ ['/'])
  | range lower upper includeLower includeUpper =>
    (if includeLower then '[' else '\x7b') ::
      (lower.toList ++ ' ' :: 'T' :: 'O' :: ' ' ::
        (upper.toList ++ [if includeUpper then ']' else '\x7d']))

/-- A clause as it is written, with a colon behind its field. -/
def Clause.text (c : Clause) : List Char :=
  match c.field with
  | some f => f.toList ++ ':' :: c.value.text
  | none => c.value.text

/-- A token as it is written. -/
def Token.text : Token → List Char
  | and => ['A', 'N', 'D']
  | or => ['O', 'R']
  | not => ['N', 'O', 'T']
  | opening => ['(']
  | closing => [')']
  | clause c => c.text

namespace QueryText

/-- The texts of several tokens in their order, with a run of blanks between each two of them. -/
inductive Spaced : List Token → List Char → Prop where
  /-- No token. -/
  | none : Spaced [] []
  /-- A single token. -/
  | one (t : Token) : Spaced [t] t.text
  /-- A token in front of others. -/
  | more {t u : Token} {ts : List Token} {gap cs : List Char} (hne : gap ≠ [])
      (hgap : ∀ c ∈ gap, isGap c = true) (hrest : Spaced (u :: ts) cs) :
      Spaced (t :: u :: ts) (t.text ++ (gap ++ cs))

/-- The texts of several tokens with the same run of blanks between each two of them. -/
def written (gap : List Char) : List Token → List Char
  | [] => []
  | [t] => t.text
  | t :: u :: ts => t.text ++ (gap ++ written gap (u :: ts))

/-- All tokens can be written. -/
lemma spaced_written {gap : List Char} (hne : gap ≠ []) (hgap : ∀ c ∈ gap, isGap c = true) :
    ∀ ts, Spaced ts (written gap ts)
  | [] => .none
  | [t] => .one t
  | _ :: u :: ts => .more hne hgap (spaced_written hne hgap (u :: ts))

/-! ## Tokens whose text says what they are -/

/-- Texts that name a field. -/
structure IsFieldName (f : String) : Prop where
  nonempty : f ≠ ""
  chars : ∀ c ∈ f.toList, isFieldChar c = true
  head : f.toList.head? ≠ some '-'

instance (f : String) : Decidable (IsFieldName f) :=
  decidable_of_iff (f ≠ "" ∧ f.toList.all isFieldChar = true ∧ f.toList.head? ≠ some '-')
    ⟨fun ⟨hne, hchars, hhead⟩ => ⟨hne, List.all_eq_true.1 hchars, hhead⟩,
      fun ⟨hne, hchars, hhead⟩ => ⟨hne, List.all_eq_true.2 hchars, hhead⟩⟩

/-- Texts that are plain values. -/
structure IsPlainText (s : String) : Prop where
  nonempty : s ≠ ""
  chars : ∀ c ∈ s.toList, isPlain c = true
  head : s.toList.head? ∉ [some '/', some '[', some '\x7b']

instance (s : String) : Decidable (IsPlainText s) :=
  decidable_of_iff (s ≠ "" ∧ s.toList.all isPlain = true ∧
      s.toList.head? ∉ [some '/', some '[', some '\x7b'])
    ⟨fun ⟨hne, hchars, hhead⟩ => ⟨hne, List.all_eq_true.1 hchars, hhead⟩,
      fun ⟨hne, hchars, hhead⟩ => ⟨hne, List.all_eq_true.2 hchars, hhead⟩⟩

/-- Texts that are bounds of ranges. -/
structure IsBoundText (s : String) : Prop where
  nonempty : s ≠ ""
  chars : ∀ c ∈ s.toList, isBoundChar c = true
  mark : '"' ∉ s.toList

instance (s : String) : Decidable (IsBoundText s) :=
  decidable_of_iff (s ≠ "" ∧ s.toList.all isBoundChar = true ∧ '"' ∉ s.toList)
    ⟨fun ⟨hne, hchars, hmark⟩ => ⟨hne, List.all_eq_true.1 hchars, hmark⟩,
      fun ⟨hne, hchars, hmark⟩ => ⟨hne, List.all_eq_true.2 hchars, hmark⟩⟩

/-- Plain values that are neither an operator nor a field with its value. -/
structure IsBareText (s : String) : Prop where
  colon : ':' ∉ s.toList
  head : s.toList.head? ∉ [some '-', some '!']
  word : s ∉ ["AND", "OR", "NOT", "&&", "||"]

instance (s : String) : Decidable (IsBareText s) :=
  decidable_of_iff (':' ∉ s.toList ∧ s.toList.head? ∉ [some '-', some '!'] ∧
      s ∉ ["AND", "OR", "NOT", "&&", "||"])
    ⟨fun ⟨hcolon, hhead, hword⟩ => ⟨hcolon, hhead, hword⟩,
      fun ⟨hcolon, hhead, hword⟩ => ⟨hcolon, hhead, hword⟩⟩

end QueryText

open QueryText

/-- Values whose text says what they are. -/
def ClauseValue.Readable : ClauseValue → Prop
  | plain s => IsPlainText s
  | quoted s => '"' ∉ s.toList
  | regex s => '/' ∉ s.toList
  | range lower upper _ _ => IsBoundText lower ∧ IsBoundText upper

instance : (v : ClauseValue) → Decidable v.Readable
  | .plain s => inferInstanceAs (Decidable (IsPlainText s))
  | .quoted s => inferInstanceAs (Decidable ('"' ∉ s.toList))
  | .regex s => inferInstanceAs (Decidable ('/' ∉ s.toList))
  | .range lower upper _ _ => inferInstanceAs (Decidable (IsBoundText lower ∧ IsBoundText upper))

/-- Values that may stand without a field. -/
def ClauseValue.Bare : ClauseValue → Prop
  | plain s => IsBareText s
  | _ => True

instance : (v : ClauseValue) → Decidable v.Bare
  | .plain s => inferInstanceAs (Decidable (IsBareText s))
  | .quoted _ | .regex _ | .range _ _ _ _ => .isTrue trivial

/-- Clauses whose text says what they are. -/
structure Clause.Readable (c : Clause) : Prop where
  field : ∀ f ∈ c.field, IsFieldName f
  value : c.value.Readable
  bare : c.field = none → c.value.Bare

instance (c : Clause) : Decidable c.Readable :=
  decidable_of_iff
    ((∀ f ∈ c.field, IsFieldName f) ∧ c.value.Readable ∧ (c.field = none → c.value.Bare))
    ⟨fun ⟨hfield, hvalue, hbare⟩ => ⟨hfield, hvalue, hbare⟩,
      fun ⟨hfield, hvalue, hbare⟩ => ⟨hfield, hvalue, hbare⟩⟩

/-- Tokens whose text says what they are. -/
def Token.Readable : Token → Prop
  | clause c => c.Readable
  | _ => True

instance : (t : Token) → Decidable t.Readable
  | .clause c => inferInstanceAs (Decidable c.Readable)
  | .and | .or | .not | .opening | .closing => .isTrue trivial

namespace QueryText

/-! ## Classes of characters -/

/-- The blanks between tokens are blanks. -/
lemma isBlank_of_isGap {c : Char} (h : isGap c = true) : isBlank c = true := by
  simp only [isGap, Bool.or_eq_true, decide_eq_true_eq] at h
  rcases h with ((rfl | rfl) | rfl) | rfl <;> decide

/-- The characters of a plain word. -/
lemma isPlain_iff {c : Char} :
    isPlain c = true ↔ isBlank c = false ∧ c ≠ '(' ∧ c ≠ ')' ∧ c ≠ '"' := by
  simp [isPlain, and_assoc]

/-- A gap ends a plain word. -/
lemma not_isPlain_of_isGap {c : Char} (h : isGap c = true) : isPlain c = false := by
  simp [isPlain, isBlank_of_isGap h]

/-- A plain word has no gaps. -/
lemma not_isGap_of_isPlain {c : Char} (h : isPlain c = true) : isGap c = false := by
  refine Bool.eq_false_iff.2 fun hgap => ?_
  rw [not_isPlain_of_isGap hgap] at h
  cases h

/-- The code points of blanks, one by one. -/
def blankPoints : List Nat := blankRanges.flatMap fun r => List.range' r.1 (r.2 + 1 - r.1)

/-- Blanks are among the points for blanks. -/
lemma mem_blankPoints {c : Char} (h : isBlank c = true) : c.toNat ∈ blankPoints := by
  obtain ⟨r, hr, hlo, hhi⟩ := Ranges.exists_of_contains h
  refine List.mem_flatMap.2 ⟨r, hr, List.mem_range'_1.2 ⟨hlo, ?_⟩⟩
  omega

/-- No blank is a letter or a number. -/
lemma not_isAlphanumeric_of_isBlank {c : Char} (h : isBlank c = true) :
    isAlphanumeric c = false := by
  have hall : ∀ n ∈ blankPoints, (Category.alphabetic.any fun r => r.contains n) = false ∧
      (Category.numbers.any fun r => r.contains n) = false := by
    decide +kernel
  obtain ⟨halphabetic, hnumbers⟩ := hall _ (mem_blankPoints h)
  rw [isAlphanumeric, isAlphabetic, halphabetic, hnumbers]
  rfl

/-- A blank is not in the name of a field. -/
lemma not_isFieldChar_of_isBlank {c : Char} (h : isBlank c = true) : isFieldChar c = false := by
  have hmarks : c ≠ '_' ∧ c ≠ '.' ∧ c ≠ '-' ∧ c ≠ '@' := by
    refine ⟨?_, ?_, ?_, ?_⟩ <;> rintro rfl <;> revert h <;> decide
  simp [isFieldChar, not_isAlphanumeric_of_isBlank h, hmarks]

/-- The characters of fields may stand in plain values. -/
lemma isPlain_of_isFieldChar {c : Char} (h : isFieldChar c = true) : isPlain c = true := by
  have hne : ∀ d, isFieldChar d = false → c ≠ d := by
    rintro d hd rfl
    rw [h] at hd
    cases hd
  have hblank : isBlank c = false := by
    refine Bool.eq_false_iff.2 fun hc => ?_
    rw [not_isFieldChar_of_isBlank hc] at h
    cases h
  exact isPlain_iff.2 ⟨hblank, hne '(' (by decide +kernel), hne ')' (by decide +kernel),
    hne '"' (by decide +kernel)⟩

/-! ## Runs of characters -/

/-- A text that is not empty has a first character. -/
lemma exists_cons_of_ne {s : String} (h : s ≠ "") : ∃ c cs, s.toList = c :: cs :=
  List.exists_cons_of_ne_nil fun hnil => h (String.toList_eq_nil_iff.1 hnil)

/-- No character of a class comes first. -/
def Stops (p : Char → Bool) (cs : List Char) : Prop := ∀ c ∈ cs.head?, p c = false

variable {p : Char → Bool} {cs rest : List Char}

/-- A run stops at the end of the text. -/
lemma Stops.nil (p : Char → Bool) : Stops p [] := fun _ h => by cases h

/-- A run stops at a character that is not in it. -/
lemma Stops.cons {c : Char} (h : p c = false) (cs : List Char) : Stops p (c :: cs) := by
  intro d hd
  obtain rfl := Option.some.inj hd
  exact h

/-- A run stops at a text none of whose characters is in it. -/
lemma Stops.append {xs : List Char} (hne : xs ≠ []) (h : ∀ c ∈ xs, p c = false) :
    Stops p (xs ++ rest) := by
  cases xs with
  | nil => exact absurd rfl hne
  | cons x xs => exact .cons (h x List.mem_cons_self) _

/-- Where a run stops, nothing is taken. -/
lemma Stops.takeWhile (h : Stops p cs) : cs.takeWhile p = [] := by
  cases cs with
  | nil => rfl
  | cons c cs => simp [h c rfl]

/-- Where a run stops, nothing is dropped. -/
lemma Stops.dropWhile (h : Stops p cs) : cs.dropWhile p = cs := by
  cases cs with
  | nil => rfl
  | cons c cs => simp [h c rfl]

/-- A run ends where the class does. -/
lemma takeWhile_append (hcs : ∀ c ∈ cs, p c = true) (hrest : Stops p rest) :
    (cs ++ rest).takeWhile p = cs := by
  rw [List.takeWhile_append_of_pos hcs, hrest.takeWhile, List.append_nil]

/-- A run is read up to where it stops. -/
lemma run?_append {s : String} (hne : s ≠ "") (hs : ∀ c ∈ s.toList, p c = true)
    (hrest : Stops p rest) : run? p (s.toList ++ rest) = some (s, rest) := by
  have htaken : (s.toList ++ rest).takeWhile p = s.toList := takeWhile_append hs hrest
  have hleft : (s.toList ++ rest).dropWhile p = rest := by
    rw [List.dropWhile_append_of_pos hs, hrest.dropWhile]
  have hs' : s.toList ≠ [] := fun h => hne (String.toList_eq_nil_iff.1 h)
  rw [run?, htaken, hleft]
  split
  · rename_i h
    exact absurd h hs'
  · rw [String.ofList_toList]

/-! ## Texts between marks -/

/-- What precedes the first mark is read. -/
lemma upTo?_append {mark : Char} (h : mark ∉ cs) :
    upTo? mark (cs ++ mark :: rest) = some (cs, rest) := by
  induction cs with
  | nil => simp [upTo?]
  | cons c cs ih =>
    have hc : c ≠ mark := fun hc => h (hc ▸ List.mem_cons_self)
    have hcs : mark ∉ cs := fun hcs => h (List.mem_cons_of_mem _ hcs)
    rw [List.cons_append, upTo?, if_neg hc, ih hcs]
    rfl

/-- What is between two marks is read. -/
lemma between?_append {mark : Char} {s : String} (h : mark ∉ s.toList) :
    between? mark (mark :: (s.toList ++ mark :: rest)) = some (s, rest) := by
  rw [between?, if_pos rfl, upTo?_append h]
  exact congrArg (fun s => some (s, rest)) (String.ofList_toList)

/-- Without a mark at the start, nothing is between marks. -/
lemma between?_eq_none {mark : Char} (h : ∀ c ∈ cs.head?, c ≠ mark) :
    between? mark cs = none := by
  cases cs with
  | nil => rfl
  | cons c cs => exact if_neg (h c rfl)

/-! ## Values -/

/-- The text of a bound is read up to where it stops. -/
lemma bound?_append {s : String} (hs : IsBoundText s) (hrest : Stops isBoundChar rest) :
    bound? (s.toList ++ rest) = some (s, rest) := by
  have hmark : between? '"' (s.toList ++ rest) = none := by
    refine between?_eq_none ?_
    obtain ⟨c, cs, hcs⟩ := exists_cons_of_ne hs.nonempty
    rw [hcs]
    intro d hd
    obtain rfl := Option.some.inj hd
    rintro rfl
    exact hs.mark (hcs ▸ List.mem_cons_self)
  rw [bound?, hmark]
  exact run?_append hs.nonempty hs.chars hrest

/-- Nothing is dropped in front of a bound. -/
lemma IsBoundText.stops_isGap {s : String} (hs : IsBoundText s) :
    Stops isGap (s.toList ++ rest) := by
  refine .append (fun h => hs.nonempty (String.toList_eq_nil_iff.1 h)) fun c hc => ?_
  refine Bool.eq_false_iff.2 fun hgap => ?_
  have hbound : isBoundChar c = true := hs.chars c hc
  simp [isBoundChar, isBlank_of_isGap hgap] at hbound

/-- A range is read from its text behind the opening mark. -/
lemma rangeAfter?_append {lower upper : String} (hlower : IsBoundText lower)
    (hupper : IsBoundText upper) (includeLower includeUpper : Bool) :
    rangeAfter? includeLower (lower.toList ++ ' ' :: 'T' :: 'O' :: ' ' ::
        (upper.toList ++ (if includeUpper then ']' else '\x7d') :: rest)) =
      some (.range lower upper includeLower includeUpper, rest) := by
  have hconnective : ∀ xs, Stops isGap xs →
      connective? (' ' :: 'T' :: 'O' :: ' ' :: xs) = some xs := by
    intro xs hxs
    exact congrArg some hxs.dropWhile
  have hclosing : isBoundChar (if includeUpper then ']' else '\x7d') = false := by
    cases includeUpper <;> rfl
  rw [rangeAfter?, hlower.stops_isGap.dropWhile, bound?_append hlower (.cons rfl _)]
  dsimp only
  rw [hconnective _ hupper.stops_isGap, Option.bind_some, bound?_append hupper (.cons hclosing _)]
  cases includeUpper <;> rfl

/-- **A value is read from its text**, if it does not run into what follows it. -/
theorem value?_text {v : ClauseValue} (hv : v.Readable) (hrest : Stops isPlain rest) :
    value? (v.text ++ rest) = some (v, rest) := by
  cases v with
  | plain s =>
    obtain ⟨c, cs, hcs⟩ := exists_cons_of_ne hv.nonempty
    have hplain : c ≠ '"' := (isPlain_iff.1 (hv.chars c (hcs ▸ List.mem_cons_self))).2.2.2
    have hhead : c ≠ '/' ∧ c ≠ '[' ∧ c ≠ '\x7b' := by
      have hfirst := hv.head
      rw [hcs] at hfirst
      simpa using hfirst
    have hquoted : between? '"' (s.toList ++ rest) = none := by
      rw [hcs]
      exact if_neg hplain
    have hregex : between? '/' (s.toList ++ rest) = none := by
      rw [hcs]
      exact if_neg hhead.1
    have hrange : range? (s.toList ++ rest) = none := by
      rw [hcs, List.cons_append]
      unfold range?
      split
      · rename_i h
        exact absurd (List.cons.inj h).1 hhead.2.1
      · rename_i h
        exact absurd (List.cons.inj h).1 hhead.2.2
      · rfl
    rw [ClauseValue.text, value?, hquoted, hregex, hrange]
    dsimp only
    rw [run?_append hv.nonempty hv.chars hrest]
    rfl
  | quoted s =>
    rw [ClauseValue.text, List.cons_append, List.append_assoc]
    rw [value?, List.singleton_append, between?_append hv]
  | regex s =>
    have hquoted : ∀ cs, between? '"' ('/' :: cs) = none := fun _ => rfl
    rw [ClauseValue.text, List.cons_append, List.append_assoc]
    rw [value?, hquoted, List.singleton_append, between?_append hv]
  | range lower upper il iu =>
    have hmarks : ∀ cs, between? '"' ((if il then '[' else '\x7b') :: cs) = none ∧
        between? '/' ((if il then '[' else '\x7b') :: cs) = none := by
      cases il <;> exact fun _ => ⟨rfl, rfl⟩
    have hrange : ∀ cs, range? ((if il then '[' else '\x7b') :: cs) = rangeAfter? il cs := by
      cases il <;> exact fun _ => rfl
    have htext : ClauseValue.text (.range lower upper il iu) ++ rest =
        (if il then '[' else '\x7b') :: (lower.toList ++ ' ' :: 'T' :: 'O' :: ' ' ::
          (upper.toList ++ (if iu then ']' else '\x7d') :: rest)) := by
      simp [ClauseValue.text]
    rw [htext, value?, (hmarks _).1, (hmarks _).2, hrange, rangeAfter?_append hv.1 hv.2]

/-! ## Clauses -/

/-- A text starts with no operator if neither its first run of plain characters is an operator nor
its first character a sign of negation. -/
lemma operator?_eq_none (hrun : ∀ e ∈ operatorWords, cs.takeWhile isPlain ≠ e.1)
    (hsign : ∀ c ∈ cs.head?, c ≠ '-' ∧ c ≠ '!') : operator? cs = none := by
  have hword : ∀ e ∈ operatorWords, word? e.1 cs = none := by
    intro e he
    have hwords : ∀ e ∈ operatorWords, e.1.all isPlain = true := by decide
    have hplain : ∀ c ∈ e.1, isPlain c = true := List.all_eq_true.1 (hwords e he)
    have hne : ∀ rest, Stops isPlain rest → cs ≠ e.1 ++ rest := by
      rintro rest hrest rfl
      exact hrun e he (takeWhile_append hplain hrest)
    unfold word?
    split
    · rename_i h
      exact absurd (Text.dropFront?_eq_some_iff.1 h) (hne [] (.nil _))
    · rename_i c rest h
      split
      · rfl
      · rename_i hc
        have hstops : Stops isPlain (c :: rest) := .cons (Bool.eq_false_iff.2 hc) _
        exact absurd (Text.dropFront?_eq_some_iff.1 h) (hne _ hstops)
    · rfl
  unfold operator?
  split
  · rename_i found hfound
    obtain ⟨⟨w, t⟩, he, hmap⟩ := List.exists_of_findSome?_eq_some hfound
    dsimp only at hmap
    rw [hword (w, t) he] at hmap
    cases hmap
  · unfold sign?
    split
    · exact if_neg fun h => not_or.2 (hsign _ rfl) h.1
    · rfl

/-- A field is read from its text. -/
lemma fieldName?_append {f : String} (hf : IsFieldName f) (cs : List Char) :
    fieldName? (f.toList ++ ':' :: cs) = some (f, cs) := by
  have hcolon : isFieldChar ':' = false := by decide +kernel
  rw [fieldName?, run?_append hf.nonempty hf.chars (.cons hcolon cs)]
  rfl

/-- A text starts with no field if its first run of field characters is followed by no colon. -/
lemma fieldName?_eq_none (h : ∀ c ∈ (cs.dropWhile isFieldChar).head?, c ≠ ':') :
    fieldName? cs = none := by
  unfold fieldName? run?
  split
  · rename_i name rest hrun
    split at hrun
    · cases hrun
    · have hleft : cs.dropWhile isFieldChar = ':' :: rest := (Prod.mk.inj (Option.some.inj hrun)).2
      exact absurd rfl (h ':' (hleft ▸ rfl))
  · rfl

/-- A text without a colon starts with no field, if it does not run into what follows it. -/
lemma fieldName?_append_eq_none (hcs : ':' ∉ cs) (hrest : Stops isPlain rest) :
    fieldName? (cs ++ rest) = none := by
  refine fieldName?_eq_none ?_
  induction cs with
  | nil =>
    cases rest with
    | nil =>
      intro c hc
      cases hc
    | cons d rest =>
      have hd : isFieldChar d = false := by
        refine Bool.eq_false_iff.2 fun hfield => ?_
        have hplain : isPlain d = false := hrest d rfl
        rw [isPlain_of_isFieldChar hfield] at hplain
        cases hplain
      rw [List.nil_append, List.dropWhile_cons_of_neg (Bool.eq_false_iff.1 hd)]
      rintro c hc rfl
      obtain rfl := Option.some.inj hc
      cases hrest _ rfl
  | cons d cs ih =>
    by_cases hd : isFieldChar d = true
    · rw [List.cons_append, List.dropWhile_cons_of_pos hd]
      exact ih fun h => hcs (List.mem_cons_of_mem _ h)
    · rw [List.cons_append, List.dropWhile_cons_of_neg hd]
      rintro c hc rfl
      exact hcs (Option.some.inj hc ▸ List.mem_cons_self)

/-- A text starts with no field if it starts with another character. -/
lemma fieldName?_cons_eq_none {d : Char} (hfield : isFieldChar d = false) (hcolon : d ≠ ':')
    (cs : List Char) : fieldName? (d :: cs) = none := by
  refine fieldName?_eq_none ?_
  rw [List.dropWhile_cons_of_neg (Bool.eq_false_iff.1 hfield)]
  rintro c hc
  exact Option.some.inj hc ▸ hcolon

/-- A value that stands alone starts with no field. -/
lemma fieldName?_value_text {v : ClauseValue} (hbare : v.Bare) (hrest : Stops isPlain rest) :
    fieldName? (v.text ++ rest) = none := by
  cases v with
  | plain s => exact fieldName?_append_eq_none hbare.colon hrest
  | quoted s => exact fieldName?_cons_eq_none (by decide +kernel) (by decide) _
  | regex s => exact fieldName?_cons_eq_none (by decide +kernel) (by decide) _
  | range lower upper il iu =>
    cases il <;> exact fieldName?_cons_eq_none (by decide +kernel) (by decide) _

/-- A value that stands alone starts with no operator. -/
lemma operator?_value_text {v : ClauseValue} (hv : v.Readable) (hbare : v.Bare)
    (hrest : Stops isPlain rest) : operator? (v.text ++ rest) = none := by
  have hmarks : ∀ d ∈ ['"', '/', '[', '\x7b'], ∀ cs, operator? (d :: cs) = none := by
    intro d hd cs
    simp only [List.mem_cons, List.not_mem_nil, or_false] at hd
    rcases hd with rfl | rfl | rfl | rfl <;> cases cs <;> rfl
  cases v with
  | plain s =>
    refine operator?_eq_none ?_ ?_
    · intro e he hword
      rw [ClauseValue.text, takeWhile_append hv.chars hrest] at hword
      have hwords : ∀ e ∈ operatorWords, String.ofList e.1 ∈ ["AND", "OR", "NOT", "&&", "||"] := by
        decide
      refine hbare.word ?_
      rw [← String.ofList_toList (s := s), hword]
      exact hwords e he
    · obtain ⟨c, cs, hcs⟩ := exists_cons_of_ne hv.nonempty
      have hfirst := hbare.head
      rw [hcs] at hfirst
      rw [ClauseValue.text, hcs]
      rintro d hd
      obtain rfl := Option.some.inj hd
      simpa using hfirst
  | quoted s => exact hmarks '"' (by simp) _
  | regex s => exact hmarks '/' (by simp) _
  | range lower upper il iu => cases il <;> exact hmarks _ (by simp) _

/-- A field with its colon starts with no operator. -/
lemma operator?_field {f : String} (hf : IsFieldName f) (cs : List Char) :
    operator? (f.toList ++ ':' :: cs) = none := by
  have hchars : ∀ c ∈ f.toList ++ [':'], isPlain c = true := by
    intro c hc
    rcases List.mem_append.1 hc with hc | hc
    · exact isPlain_of_isFieldChar (hf.chars c hc)
    · rw [List.mem_singleton.1 hc]
      decide
  refine operator?_eq_none ?_ ?_
  · intro e he hword
    have hcolon : ':' ∈ (f.toList ++ ':' :: cs).takeWhile isPlain := by
      rw [List.append_cons, List.takeWhile_append_of_pos hchars]
      simp
    have hwords : ∀ e ∈ operatorWords, ':' ∉ e.1 := by decide
    exact hwords e he (hword ▸ hcolon)
  · obtain ⟨c, xs, hxs⟩ := exists_cons_of_ne hf.nonempty
    have hsign : isFieldChar '!' = false := by decide +kernel
    intro d hd
    rw [hxs] at hd
    obtain rfl := Option.some.inj hd
    refine ⟨?_, ?_⟩
    · rintro rfl
      exact hf.head (hxs ▸ rfl)
    · rintro rfl
      have hfield : isFieldChar '!' = true := hf.chars _ (hxs ▸ List.mem_cons_self)
      rw [hsign] at hfield
      cases hfield

/-- **No clause starts with an operator.** -/
theorem operator?_clause_text {c : Clause} (hc : c.Readable) (hrest : Stops isPlain rest) :
    operator? (c.text ++ rest) = none := by
  obtain ⟨field, v⟩ := c
  cases field with
  | none => exact operator?_value_text hc.value (hc.bare rfl) hrest
  | some f =>
    rw [Clause.text, List.append_assoc]
    exact operator?_field (hc.field f rfl) _

/-- A clause is read from its text. -/
lemma clause?_text {c : Clause} (hc : c.Readable) (hrest : Stops isPlain rest) :
    clause? (c.text ++ rest) = some (.clause c, rest) := by
  obtain ⟨field, v⟩ := c
  cases field with
  | none =>
    rw [clause?, Clause.text, fieldName?_value_text (hc.bare rfl) hrest]
    dsimp only
    rw [value?_text hc.value hrest]
    rfl
  | some f =>
    rw [clause?, Clause.text, List.append_assoc, List.cons_append,
      fieldName?_append (hc.field f rfl)]
    dsimp only
    rw [value?_text hc.value hrest]
    rfl

/-! ## Tokens -/

/-- The text of a clause starts with a plain character or a quotation mark. -/
lemma exists_head_clause {c : Clause} (hc : c.Readable) :
    ∃ x xs, c.text = x :: xs ∧ (isPlain x = true ∨ x = '"') := by
  obtain ⟨field, v⟩ := c
  cases field with
  | some f =>
    obtain ⟨hne, hchars, -⟩ := hc.field f rfl
    obtain ⟨x, xs, hxs⟩ := exists_cons_of_ne hne
    refine ⟨x, xs ++ ':' :: v.text, ?_, .inl (isPlain_of_isFieldChar (hchars x ?_))⟩
    · exact congrArg (fun cs => cs ++ ':' :: v.text) hxs
    · exact hxs ▸ List.mem_cons_self
  | none =>
    cases v with
    | plain s =>
      obtain ⟨hne, hchars, -⟩ := hc.value
      obtain ⟨x, xs, hxs⟩ := exists_cons_of_ne hne
      exact ⟨x, xs, hxs, .inl (hchars x (hxs ▸ List.mem_cons_self))⟩
    | quoted s => exact ⟨_, _, rfl, .inr rfl⟩
    | regex s => exact ⟨_, _, rfl, .inl rfl⟩
    | range lower upper il iu => cases il <;> exact ⟨_, _, rfl, .inl rfl⟩

/-- The text of a token starts with a character that is no blank. -/
lemma exists_head {t : Token} (ht : t.Readable) :
    ∃ x xs, t.text = x :: xs ∧ isGap x = false := by
  cases t with
  | clause c =>
    obtain ⟨x, xs, hxs, hx⟩ := exists_head_clause ht
    refine ⟨x, xs, hxs, ?_⟩
    rcases hx with hx | rfl
    · exact not_isGap_of_isPlain hx
    · rfl
  | and | or | not | opening | closing => exact ⟨_, _, rfl, rfl⟩

/-- An operator is read from its word, if it does not run into what follows it. -/
lemma token?_word {e : List Char × Token} (he : e ∈ operatorWords)
    (hrest : Stops isPlain rest) : token? (e.1 ++ rest) = some (e.2, rest) := by
  have hparenthesis : parenthesis? (e.1 ++ rest) = none := by
    simp only [operatorWords, List.mem_cons, List.not_mem_nil, or_false] at he
    rcases he with rfl | rfl | rfl | rfl | rfl <;> rfl
  have hoperator : operator? (e.1 ++ rest) = some (e.2, rest) := by
    simp only [operatorWords, List.mem_cons, List.not_mem_nil, or_false] at he
    cases rest with
    | nil => rcases he with rfl | rfl | rfl | rfl | rfl <;> rfl
    | cons c rest =>
      have hc : isPlain c = false := hrest c rfl
      rcases he with rfl | rfl | rfl | rfl | rfl <;>
        simp [operator?, operatorWords, word?, Text.dropFront?, hc]
  rw [token?, hparenthesis, hoperator]

/-- **A token is read from its text**, if it does not run into what follows it. -/
theorem token?_text {t : Token} (ht : t.Readable) (hrest : Stops isPlain rest) :
    token? (t.text ++ rest) = some (t, rest) := by
  have hword : ∀ e ∈ operatorWords, token? (e.1 ++ rest) = some (e.2, rest) := fun _ he =>
    token?_word he hrest
  cases t with
  | opening => rfl
  | closing => rfl
  | and => exact hword (Token.and.text, .and) (by decide)
  | or => exact hword (Token.or.text, .or) (by decide)
  | not => exact hword (Token.not.text, .not) (by decide)
  | clause c =>
    obtain ⟨x, xs, hxs, hx⟩ := exists_head_clause ht
    have hne : x ≠ '(' ∧ x ≠ ')' := by
      rcases hx with hx | rfl
      · obtain ⟨-, hopening, hclosing, -⟩ := isPlain_iff.1 hx
        exact ⟨hopening, hclosing⟩
      · decide
    have hparenthesis : parenthesis? (c.text ++ rest) = none := by
      rw [hxs, List.cons_append]
      unfold parenthesis?
      split
      · rename_i h
        exact absurd (List.cons.inj h).1 hne.1
      · rename_i h
        exact absurd (List.cons.inj h).1 hne.2
      · rfl
    rw [token?, Token.text, hparenthesis, operator?_clause_text ht hrest]
    exact clause?_text ht hrest

/-! ## Texts of several tokens -/

/-- Blanks in front of the tokens make no difference. -/
lemma scanTokens_gap {gap : List Char} (hgap : ∀ c ∈ gap, isGap c = true) (fuel : Nat) :
    scanTokens fuel (gap ++ cs) = scanTokens fuel cs := by
  cases fuel with
  | zero => rw [scanTokens, scanTokens, List.dropWhile_append_of_pos hgap]
  | succ fuel => rw [scanTokens, scanTokens, List.dropWhile_append_of_pos hgap]

/-- One token is cut off at a time. -/
lemma scanTokens_text {t : Token} (ht : t.Readable) (hrest : Stops isPlain rest) (fuel : Nat) :
    scanTokens (fuel + 1) (t.text ++ rest) =
      (t :: (scanTokens fuel rest).1, (scanTokens fuel rest).2) := by
  obtain ⟨x, xs, hxs, hx⟩ := exists_head ht
  have hstay : (t.text ++ rest).dropWhile isGap = t.text ++ rest := by
    rw [hxs]
    exact (Stops.cons hx _).dropWhile
  rw [scanTokens, hstay, token?_text ht hrest]

/-- There are no more tokens than characters. -/
lemma Spaced.length_le {ts : List Token} (h : Spaced ts cs) (hts : ∀ t ∈ ts, t.Readable) :
    ts.length ≤ cs.length := by
  have hpos : ∀ t : Token, t.Readable → 0 < t.text.length := by
    intro t ht
    obtain ⟨x, xs, hxs, -⟩ := exists_head ht
    rw [hxs]
    exact Nat.succ_pos _
  induction h with
  | none => exact Nat.le_refl _
  | one t => exact hpos t (hts t List.mem_cons_self)
  | more hne hgap hrest ih =>
    have hhead := hpos _ (hts _ List.mem_cons_self)
    have htail := ih fun t ht => hts t (List.mem_cons_of_mem _ ht)
    simp only [List.length_cons, List.length_append] at htail ⊢
    omega

/-- As many tokens are cut off as there are. -/
lemma scanTokens_spaced {ts : List Token} (h : Spaced ts cs) (hts : ∀ t ∈ ts, t.Readable)
    {fuel : Nat} (hfuel : ts.length ≤ fuel) : scanTokens fuel cs = (ts, []) := by
  induction h generalizing fuel with
  | none => cases fuel <;> rfl
  | one t =>
    obtain ⟨n, rfl⟩ := Nat.exists_eq_add_of_le' hfuel
    have hnil : scanTokens n [] = ([], []) := by cases n <;> rfl
    rw [← List.append_nil t.text, List.length_singleton,
      scanTokens_text (hts t List.mem_cons_self) (.nil _), hnil]
  | @more t u ts gap cs hne hgap hrest ih =>
    obtain ⟨n, rfl⟩ := Nat.exists_eq_add_of_le' (Nat.le_trans (Nat.le_add_left 1 _) hfuel)
    have hstops : Stops isPlain (gap ++ cs) :=
      .append hne fun c hc => not_isPlain_of_isGap (hgap c hc)
    have htail : scanTokens n cs = (u :: ts, []) :=
      ih (fun t ht => hts t (List.mem_cons_of_mem _ ht)) (Nat.le_of_succ_le_succ hfuel)
    rw [scanTokens_text (hts t List.mem_cons_self) hstops, scanTokens_gap hgap, htail]

end QueryText

/-- **Cutting undoes writing.** Tokens whose texts say what they are, written with blanks between
them, are the tokens of that text, and nothing remains of it.

**Proof sketch.** Each token is read from its text: no clause starts with a parenthesis or an
operator, its field ends at the colon, and the alternatives that come before the form of its value
fail on the first character. What follows is a blank, which ends every token. -/
theorem Token.scan_spaced {ts : List Token} {text : String} (hts : ∀ t ∈ ts, t.Readable)
    (h : Spaced ts text.toList) : Token.scan text = (ts, []) :=
  scanTokens_spaced h hts (h.length_le hts)

/-- Tokens of every form, among them values that start like an operator or a field. -/
def Token.assorted : List Token :=
  [.not, .opening, .clause ⟨some "title", .quoted "a (small) bug"⟩, .or,
    .clause ⟨none, .plain "ANDROID"⟩, .closing, .and,
    .clause ⟨some "age", .range "18" "*" true false⟩, .clause ⟨some "AND", .plain "-b:c"⟩,
    .clause ⟨none, .regex "x y"⟩]

/-- Tokens of every form are read from their text. -/
theorem Token.scan_assorted :
    written [' ', '\n'] assorted = ("NOT \n( \ntitle:\"a (small) bug\" \nOR \nANDROID \n) \n" ++
      "AND \nage:[18 TO *\x7d \nAND:-b:c \n/x y/").toList ∧
    (∀ t ∈ assorted, t.Readable) ∧
    Token.scan (String.ofList (written [' ', '\n'] assorted)) = (assorted, []) := by
  have hreadable : ∀ t ∈ assorted, t.Readable := by decide +kernel
  refine ⟨by decide, hreadable, scan_spaced hreadable ?_⟩
  rw [String.toList_ofList]
  exact spaced_written (by decide) (List.all_eq_true.1 rfl) assorted

end Sift
