import Sift.Proofs.GlobSources
import Sift.Proofs.RegexEndings

/-!
# Readers of sequences and choices and the ends of texts

Two texts that go on alike up to a closing parenthesis, or up to the end of one of them, are read
alike as long as the reader of the first one does not get beyond that place. Escapes and classes are
dealt with elsewhere; here are the other parts of expressions, and the reader of expressions as a
whole.

## Main definitions

* `Sift.Regex.AgreeState`: two readings take the same sequence or choice, unless the first one gets
  beyond the place where the texts differ.

## Main results

* `Sift.Regex.bounds?_agree`, `Sift.Regex.groupStart?_agree`, `Sift.Regex.atom?_agree`: bounds of
  repetitions, starts of groups, and atoms.
* `Sift.Regex.partsAgree_succ`, `Sift.Regex.alternativesAgree_succ`: one step of the reader.
* `Sift.Regex.reads_agree`: any number of steps.
-/

set_option autoImplicit false

namespace Sift

namespace Regex

open RegexFlags

variable {f : RegexFlags} {whole t t' u u' : List Char}

/-! ## Repetitions -/

/-- The mark of a lazy repetition is dropped from both texts or from none. -/
lemma dropLazy_abreast (h : Abreast whole t t' u u') :
    Abreast whole t t' (dropLazy u) (dropLazy u') := by
  cases h with
  | ends h hsuffix hcomment => cases h <;> exact .ends (by constructor) hsuffix hcomment
  | @cons c w w' hsuffix h =>
    by_cases hc : c = '?'
    · subst hc
      exact h
    · simpa [dropLazy, hc] using .cons c hsuffix h

/-- Characters other than a parenthesis that closes are dropped from both texts. -/
lemma dropWhile_abreast {p : Char → Bool} (hp : p ')' = false) (h : Abreast whole t t' u u') :
    Abreast whole t t' (u.dropWhile p) (u'.dropWhile p) := by
  induction h with
  | ends h hsuffix hcomment =>
    have hclosing (rest : List Char) : (')' :: rest).dropWhile p = ')' :: rest := by simp [hp]
    cases h <;> simpa only [hclosing, List.dropWhile_nil] using
      .ends (by constructor) hsuffix hcomment
  | cons c hsuffix h ih =>
    simp only [List.dropWhile_cons]
    split
    · exact ih
    · exact .cons c hsuffix h

/-- Digits are taken alike. -/
lemma takeDigits_abreast (f : RegexFlags) {k k' : Nat} (hk : u.length ≤ k)
    (hk' : u'.length ≤ k') (h : Abreast whole t t' u u') :
    (takeDigits f k u).2.length < t.length ∨
      (takeDigits f k u).1 = (takeDigits f k' u').1 ∧
        Abreast whole t t' (takeDigits f k u).2 (takeDigits f k' u').2 := by
  have hnil (k : Nat) : takeDigits f k [] = ([], []) := by cases k <;> rfl
  have hclosing (k : Nat) (rest : List Char) :
      takeDigits f k (')' :: rest) = ([], ')' :: rest) := by cases k <;> rfl
  induction k generalizing k' u u' with
  | zero =>
    obtain rfl : u = [] := List.length_eq_zero_iff.1 (Nat.le_zero.1 hk)
    right
    cases h with
    | ends h hsuffix hcomment =>
      cases h <;> simpa [hnil, hclosing] using .ends (by constructor) hsuffix hcomment
  | succ k ih =>
    cases h with
    | ends h hsuffix hcomment =>
      right
      cases h <;> simpa [hnil, hclosing] using .ends (by constructor) hsuffix hcomment
    | @cons c w w' hsuffix h =>
      obtain ⟨k', rfl⟩ := Nat.exists_eq_succ_of_ne_zero (Nat.ne_zero_of_lt hk')
      simp only [takeDigits]
      split
      · rcases f.skip_abreast h with hlt | hs
        · exact .inl (Nat.lt_of_le_of_lt (takeDigits_length_le _ _) hlt)
        · have hle := Nat.le_trans (f.skip_length_le w) (Nat.le_of_succ_le_succ hk)
          have hle' := Nat.le_trans (f.skip_length_le w') (Nat.le_of_succ_le_succ hk')
          rcases ih hle hle' hs with hlt | ⟨hds, hr⟩
          · exact .inl hlt
          · exact .inr ⟨by rw [hds], hr⟩
      · exact .inr ⟨rfl, .cons c hsuffix h⟩

/-- Numbers are read alike. -/
lemma count?_agree (f : RegexFlags) (h : Abreast whole t t' u u') :
    Agree whole t t' (count? f u) (count? f u') := by
  have hblank : isBlank ')' = false := by decide
  have hle (u : List Char) : (u.dropWhile isBlank).length ≤ u.length :=
    (List.dropWhile_suffix _).length_le
  rcases takeDigits_abreast f (hle u) (hle u') (dropWhile_abreast hblank h) with
    hlt | ⟨hds, hr⟩
  · refine .of_lt fun n v hx => ?_
    unfold count? at hx
    grind [skip_length_le]
  · simp only [count?, ← hds]
    split
    · split
      · rcases f.skip_abreast (dropWhile_abreast hblank hr) with hlt | hs
        · refine .of_lt fun n v hx => ?_
          cases hx
          exact hlt
        · exact .some hs
      · exact .none _
    · exact .none _

/-- The upper bound of a repetition behind the comma, if there is one, and what follows the closing
brace. -/
def upperBound? (f : RegexFlags) (least : Nat) (cs : List Char) :
    Option (Option Nat × List Char) :=
  match cs with
  | '\x7d' :: rest => some (none, rest)
  | cs =>
    match count? f cs with
    | some (most, '\x7d' :: rest) => if least ≤ most then some (some most, rest) else none
    | _ => none

/-- Behind a comma stands the upper bound of a repetition. -/
lemma bounds?_comma {least : Nat} {rest : List Char}
    (h : count? f (f.skip u) = some (least, ',' :: rest)) :
    bounds? f u =
      (upperBound? f least (f.skip rest)).map fun (most, tail) => (least, most, tail) := by
  simp only [bounds?, h, upperBound?]
  grind

/-- An upper bound that is written is a number. -/
lemma upperBound?_of_ne {least : Nat} {c : Char} {w : List Char} (hc : c ≠ '\x7d') :
    upperBound? f least (c :: w) = match count? f (c :: w) with
      | some (most, '\x7d' :: rest) => if least ≤ most then some (some most, rest) else none
      | _ => none := by
  unfold upperBound?
  grind

/-- An upper bound reads the brace that closes. -/
lemma upperBound?_length_lt {least : Nat} {most : Option Nat} {v : List Char}
    (h : upperBound? f least u = some (most, v)) : v.length < u.length := by
  unfold upperBound? at h
  grind [→ count?_length_le]

/-- Upper bounds are read alike. -/
lemma upperBound?_agree (f : RegexFlags) (least : Nat) (h : Abreast whole t t' u u') :
    Agree whole t t' (upperBound? f least u) (upperBound? f least u') := by
  refine .of_cons h (fun _ _ => upperBound?_length_lt) fun c w w' hu hu' hsuffix hw => ?_
  subst hu hu'
  by_cases hbrace : c = '\x7d'
  · subst hbrace
    exact .some hw
  · intro most v hx
    rw [upperBound?_of_ne hbrace] at hx ⊢
    cases hcount : count? f (c :: w) with
    | none => simp [hcount] at hx
    | some p =>
      obtain ⟨n, r⟩ := p
      rcases count?_agree f h n r hcount with hlt | ⟨r', hcount', hr⟩
      · left
        grind
      · simp only [hcount, hcount'] at hx ⊢
        cases hr with
        | ends h => cases h <;> simp at hx
        | @cons d w w' _ h =>
          by_cases hd : d = '\x7d'
          · subst hd
            simp only at hx ⊢
            split at hx
            case isTrue hle =>
              cases hx
              exact .inr ⟨w', if_pos hle, h⟩
            case isFalse => cases hx
          · simp [hd] at hx

/-- The bounds of repetitions are read alike. -/
theorem bounds?_agree (h : Abreast whole t t' u u') (least : Nat) (most : Option Nat)
    (v : List Char) (hx : bounds? f u = some (least, most, v)) :
    v.length < t.length ∨
      ∃ v', bounds? f u' = some (least, most, v') ∧ Abreast whole t t' v v' := by
  by_cases hle : (f.skip u).length ≤ t.length
  · exact .inl (Nat.lt_of_lt_of_le (bounds?_length_lt_skip hx) hle)
  have hs := (f.skip_abreast h).resolve_left fun hlt => hle (Nat.le_of_lt hlt)
  cases hcount : count? f (f.skip u) with
  | none => simp [bounds?, hcount] at hx
  | some p =>
    obtain ⟨n, r⟩ := p
    rcases count?_agree f hs n r hcount with hlt | ⟨r', hcount', hr⟩
    · left
      simp only [bounds?, hcount] at hx
      grind [→ count?_length_le, skip_length_le, → skip_cons_length_lt]
    · cases hr with
      | ends h => cases h <;> simp [bounds?, hcount] at hx
      | @cons c w w' _ h =>
        by_cases hbrace : c = '\x7d'
        · subst hbrace
          simp only [bounds?, hcount, hcount'] at hx ⊢
          cases hx
          exact .inr ⟨w', rfl, h⟩
        by_cases hcomma : c = ','
        · subst hcomma
          rw [bounds?_comma hcount] at hx
          rw [bounds?_comma hcount']
          have hupper : Agree whole t t' (upperBound? f n (f.skip w))
              (upperBound? f n (f.skip w')) :=
            .of_skip f (fun hx => Nat.le_of_lt (upperBound?_length_lt hx))
              (upperBound?_agree f n) h
          obtain ⟨⟨m, r⟩, hr, heq⟩ := Option.map_eq_some_iff.1 hx
          cases heq
          rcases hupper most v hr with hlt | ⟨v', hv', h⟩
          · exact .inl hlt
          · exact .inr ⟨v', by rw [hv']; rfl, h⟩
        · simp [bounds?, hcount, hbrace, hcomma] at hx

/-! ## Starts of groups -/

/-- Names of groups are read alike. -/
lemma groupName?_agree (first : Bool) (h : Abreast whole t t' u u') :
    Agree whole t t' (groupName? first u) (groupName? first u') := by
  induction h generalizing first with
  | ends => exact .of_lt fun _ _ => groupName?_length_lt
  | @cons c w w' _ h ih =>
    by_cases hc : c = '>'
    · subst hc
      simp only [groupName?]
      split
      · exact .none _
      · exact .some h
    · rw [groupName?, groupName?]
      · cases first <;> simp only [Bool.false_eq_true, ↓reduceIte] <;> split <;>
          first | exact (ih false).map (c :: ·) | exact .none _
      all_goals exact hc

/-- Changes of flags are read alike. -/
lemma change?_agree {value : Bool} {seen : List Char} (h : Abreast whole t t' u u')
    (f' : RegexFlags) (c : Char) (v : List Char) (hx : f.change? value seen u = some (f', c, v)) :
    v.length < t.length ∨
      ∃ v', f.change? value seen u' = some (f', c, v') ∧ Abreast whole t t' v v' := by
  induction h generalizing f value seen with
  | ends => exact .inl (change?_length_lt hx)
  | cons d _ h ih =>
    simp only [RegexFlags.change?] at hx ⊢
    grind

/-- The start of a group with flags, behind the question mark. -/
def flagStart? (f : RegexFlags) (cs : List Char) : Option (GroupStart × List Char) :=
  match f.change? true [] cs with
  | some (flags, ':', tail) => some (.group flags false none, tail)
  | some (flags, _, tail) => some (.change flags, tail)
  | none => none

/-- Flags at the start of a group are read alike. -/
lemma flagStart?_agree (f : RegexFlags) (h : Abreast whole t t' u u') :
    Agree whole t t' (flagStart? f u) (flagStart? f u') := by
  intro g v hx
  unfold flagStart? at hx ⊢
  cases hchange : f.change? true [] u with
  | none => simp [hchange] at hx
  | some p =>
    obtain ⟨flags, c, r⟩ := p
    rw [hchange] at hx
    rcases change?_agree h flags c r hchange with hlt | ⟨r', hchange', h⟩
    · left
      grind
    · rw [hchange']
      right
      grind

/-- A group without a question mark is captured. -/
lemma groupStart?_of_ne {c : Char} {w : List Char} (hu : f.skip u = c :: w) (hc : c ≠ '?') :
    groupStart? f u = some (.group f true none, c :: w) := by
  simp [groupStart?, hu, hc]

/-- A question mark that no name follows stands before flags. -/
lemma groupStart?_flags {c : Char} {w : List Char} (hu : f.skip u = '?' :: c :: w)
    (hname : c ≠ '<') (hlong : c ≠ 'P') : groupStart? f u = flagStart? f (c :: w) := by
  simp only [groupStart?, hu, List.cons.injEq, hlong, false_and, imp_self, implies_true, hname]
  rfl

/-- The letter of a group with a name is no flag. -/
lemma groupStart?_eq_none {w : List Char} (hu : f.skip u = '?' :: 'P' :: w)
    (hw : w.head? ≠ some '<') : groupStart? f u = none := by
  have hchange : f.change? true [] ('P' :: w) = none := by simp [RegexFlags.change?, set?]
  unfold groupStart?
  grind

/-- The starts of groups are read alike. -/
theorem groupStart?_agree (f : RegexFlags) (h : Abreast whole t t' u u') :
    Agree whole t t' (groupStart? f u) (groupStart? f u') := by
  have hname {w w' : List Char} (h : Abreast whole t t' w w') :=
    (groupName?_agree true h).map fun name => GroupStart.group f true (some name)
  rcases f.skip_abreast h with hlt | hs
  · exact .of_lt fun _ _ hx => Nat.lt_of_le_of_lt (groupStart?_length_le_skip hx) hlt
  generalize hz : f.skip u = z, hz' : f.skip u' = z' at hs
  cases hs with
  | ends h hsuffix hcomment =>
    cases h <;>
      simpa [groupStart?, hz, hz'] using Agree.some (.ends (by constructor) hsuffix hcomment)
  | @cons c w w' houter h =>
    by_cases hc : c = '?'
    · subst hc
      cases h with
      | ends h => cases h <;> simp [groupStart?, hz, hz', RegexFlags.change?] <;> exact .none _
      | @cons d w w' hsuffix h =>
        by_cases hangle : d = '<'
        · subst hangle
          simp only [groupStart?, hz, hz']
          exact hname h
        by_cases hlong : d = 'P'
        · subst hlong
          cases h with
          | ends h =>
            rw [groupStart?_eq_none hz (by cases h <;> simp)]
            exact .none _
          | @cons e w w' _ h =>
            by_cases he : e = '<'
            · subst he
              simp only [groupStart?, hz, hz']
              exact hname h
            · rw [groupStart?_eq_none hz (by simpa using he)]
              exact .none _
        · rw [groupStart?_flags hz hangle hlong, groupStart?_flags hz' hangle hlong]
          exact flagStart?_agree f (.cons d hsuffix h)
    · rw [groupStart?_of_ne hz hc, groupStart?_of_ne hz' hc]
      exact .some (.cons c houter h)

/-! ## Atoms -/

/-- Atoms are read alike, or the first text stalls. -/
theorem atom?_agree (h : Abreast whole t t' u u') (p : Pattern) (v : List Char)
    (hx : atom? f u = some (p, v)) : v.length < t.length ∨
      (∃ v', atom? f u' = some (p, v') ∧ Abreast whole t t' v v') ∨ Stalls t f v := by
  cases h with
  | ends => exact .inl (atom?_length_lt hx)
  | @cons c w w' _ h =>
    by_cases hc : c = '\\'
    · subst hc
      simp only [atom?, Option.map_eq_some_iff] at hx ⊢
      obtain ⟨⟨atom, r⟩, hr, heq⟩ := hx
      obtain rfl : r = v := by grind
      rcases escape?_agree h atom r hr with hlt | ⟨v', hv', h⟩ | ⟨-, hstall⟩
      · exact .inl hlt
      · exact .inr (.inl ⟨v', ⟨(atom, v'), hv', by cases atom <;> cases heq <;> rfl⟩, h⟩)
      · exact .inr (.inr hstall)
    suffices hagree : Agree whole t t' (atom? f (c :: w)) (atom? f (c :: w')) from
      (hagree p v hx).imp_right .inl
    by_cases hdot : c = '.'
    · subst hdot
      exact .const _ _ (.inr h)
    by_cases hcaret : c = '^'
    · subst hcaret
      exact .some h
    by_cases hdollar : c = '$'
    · subst hdollar
      exact .some h
    simpa [atom?, hc, hdot, hcaret, hdollar] using .some h

/-- A brace that a boundary of words has left is read as the start of bounds, which gets beyond the
place where the texts differ. -/
lemma parts?_stalled {k : Nat} {before : List Part} {s s' : State} {n : Nested}
    (hstall : Stalls t s.flags s.rest) (hx : parts? k before s = some (n, s')) :
    s'.rest.length < t.length := by
  obtain ⟨w, hv, hw⟩ := hstall
  have hskip : s.flags.skip s.rest = '\x7b' :: w := by
    rw [hv]
    exact skip_cons (by decide) (by decide) w
  cases k with
  | zero => cases hx
  | succ k =>
    simp only [parts?, hskip] at hx
    grind [→ bounds?_length_lt_skip, → parts?_length_le, skip_length_le, dropLazy_length_le]

/-! ## Sequences and choices -/

/-- Readings of sequences and choices agree: so do the flags and names they leave. -/
def AgreeState (whole t t' : List Char) (x y : Option (Nested × State)) : Prop :=
  ∀ n s, x = some (n, s) →
    s.rest.length < t.length ∨
      ∃ v', y = some (n, { s with rest := v' }) ∧ Abreast whole t t' s.rest v'

/-- Sequences that are read in so many steps agree with those that are read in enough steps. -/
def PartsAgree (whole t t' : List Char) (k : Nat) : Prop :=
  ∀ {k' : Nat} {before : List Part} {flags : RegexFlags} {names : List (List Char)}
    {u u' : List Char}, 2 * u'.length + 1 ≤ k' → Abreast whole t t' u u' →
      AgreeState whole t t' (parts? k before ⟨flags, names, u⟩)
        (parts? k' before ⟨flags, names, u'⟩)

/-- Choices that are read in so many steps agree with those that are read in enough steps. -/
def AlternativesAgree (whole t t' : List Char) (k : Nat) : Prop :=
  ∀ {k' : Nat} {before : List Nested} {flags : RegexFlags} {names : List (List Char)}
    {u u' : List Char}, 2 * u'.length + 2 ≤ k' → Abreast whole t t' u u' →
      AgreeState whole t t' (alternatives? k before ⟨flags, names, u⟩)
        (alternatives? k' before ⟨flags, names, u'⟩)

/-- A character that is no mark starts an atom. -/
lemma parts?_of_not_mark {k : Nat} {before : List Part} {s : State} {c : Char} {w : List Char}
    (hs : s.flags.skip s.rest = c :: w) (hc : isMark c = false) :
    parts? (k + 1) before s = match atom? s.flags (c :: w) with
      | some (p, rest) => parts? k (⟨⟨p, 0⟩, true⟩ :: before) { s with rest := rest }
      | none => none := by
  rw [parts?]
  simp only [hs]
  split
  case h_10 => rfl
  case h_1 heq => cases heq
  all_goals
    rename_i heq
    exact absurd (List.cons.inj heq).1 (ne_of_apply_ne isMark (by rw [hc]; decide))

section Step

variable {k k' : Nat} {before : List Part} {flags : RegexFlags} {names : List (List Char)}
  {w w' : List Char}

/-- The last part is repeated. -/
lemma repeated_agree (before : List Part) (flags : RegexFlags) (names : List (List Char))
    (hparts : PartsAgree whole t t' k) (hk : 2 * w'.length + 1 ≤ k')
    (h : Abreast whole t t' w w') (least : Nat) (most : Option Nat) :
    AgreeState whole t t'
      (match repeatLast? least most before with
        | some ps => parts? k ps ⟨flags, names, dropLazy w⟩
        | none => none)
      (match repeatLast? least most before with
        | some ps => parts? k' ps ⟨flags, names, dropLazy w'⟩
        | none => none) := by
  have hlazy := dropLazy_length_le w'
  split
  · exact hparts (by omega) (dropLazy_abreast h)
  · intro n s hx
    cases hx

/-- Bounds repeat the last part. -/
lemma parts?_brace_agree (hparts : PartsAgree whole t t' k) (hk : 2 * w'.length + 1 ≤ k')
    (hu : flags.skip u = '\x7b' :: w) (hu' : flags.skip u' = '\x7b' :: w')
    (h : Abreast whole t t' w w') :
    AgreeState whole t t' (parts? (k + 1) before ⟨flags, names, u⟩)
      (parts? (k' + 1) before ⟨flags, names, u'⟩) := by
  intro n s hx
  simp only [parts?, hu, hu'] at hx ⊢
  cases hb : bounds? flags w with
  | none => simp [hb] at hx
  | some p =>
    obtain ⟨least, most, v⟩ := p
    rcases bounds?_agree h least most v hb with hlt | ⟨v', hb', h⟩
    · left
      grind [→ parts?_length_le, skip_length_le, dropLazy_length_le]
    · simp only [hb, hb'] at hx ⊢
      have hv := bounds?_length_lt hb'
      have hv' := flags.skip_length_le v'
      rcases flags.skip_abreast h with hlt | hs
      · left
        grind [→ parts?_length_le, skip_length_le, dropLazy_length_le]
      · exact repeated_agree before flags names hparts (by omega) hs least most n s hx

/-- A class is one more part. -/
lemma parts?_class_agree (hparts : PartsAgree whole t t' k) (hk : 2 * w'.length + 1 ≤ k')
    (hu : flags.skip u = '[' :: w) (hu' : flags.skip u' = '[' :: w')
    (h : Abreast whole t t' w w') :
    AgreeState whole t t' (parts? (k + 1) before ⟨flags, names, u⟩)
      (parts? (k' + 1) before ⟨flags, names, u'⟩) := by
  intro n s hx
  simp only [parts?, hu, hu'] at hx ⊢
  cases hm : flags.class? w with
  | none => simp [hm] at hx
  | some p =>
    obtain ⟨m, v⟩ := p
    simp only [hm] at hx
    rcases flags.class?_agree h m v hm with hlt | ⟨v', hm', h⟩
    · left
      grind [→ parts?_length_le, skip_length_le]
    · have hv := class?_length_lt hm'
      simp only [hm']
      exact hparts (by omega) h n s hx

/-- A group is one more part, and a change of flags is one. A group that is closed by the
parenthesis where the texts differ gets beyond that place. -/
lemma parts?_group_agree (hparts : PartsAgree whole t t' k)
    (halternatives : AlternativesAgree whole t t' k) (hk : 2 * w'.length + 2 ≤ k')
    (hu : flags.skip u = '(' :: w) (hu' : flags.skip u' = '(' :: w')
    (h : Abreast whole t t' w w') :
    AgreeState whole t t' (parts? (k + 1) before ⟨flags, names, u⟩)
      (parts? (k' + 1) before ⟨flags, names, u'⟩) := by
  have hskip := skip_length_le
  intro n s hx
  simp only [parts?, hu, hu'] at hx ⊢
  cases hg : groupStart? flags w with
  | none => simp [hg] at hx
  | some p =>
    obtain ⟨g, v⟩ := p
    rcases groupStart?_agree flags h g v hg with hlt | ⟨v', hg', h⟩
    · left
      cases g with
      | change => grind [→ parts?_length_le]
      | group => grind [→ parts?_length_le, → alternatives?_length_le]
    have hv := groupStart?_length_le hg'
    simp only [hg, hg'] at hx ⊢
    cases g with
    | change flags' => exact hparts (by omega) h n s hx
    | group flags' captures name =>
      simp only at hx ⊢
      split at hx
      case isTrue => cases hx
      case isFalse hfresh =>
        rw [if_neg hfresh]
        cases hin : alternatives? k [] ⟨flags', name.toList ++ names, v⟩ with
        | none => simp [hin] at hx
        | some p =>
          obtain ⟨inner, flags1, names1, r⟩ := p
          simp only [hin] at hx
          have hv' : 2 * v'.length + 2 ≤ k' := by omega
          rcases halternatives hv' h inner _ hin with hlt | ⟨r', hin', hr⟩
          · left
            grind [→ parts?_length_le]
          have hr' := Nat.le_trans (alternatives?_length_le hin') (flags'.skip_length_le v')
          simp only at hr hr'
          simp only [hin']
          cases hr with
          | ends h =>
            cases h with
            | dropped | replaced =>
              left
              grind [→ parts?_length_le]
            | added | hidden | same => simp at hx
          | @cons d y y' _ h =>
            by_cases hd : d = ')'
            · subst hd
              simp only [List.length_cons] at hr'
              exact hparts (by omega) h n s hx
            · simp [hd] at hx

/-- An atom is one more part. -/
lemma parts?_atom_agree {c : Char} (hparts : PartsAgree whole t t' k)
    (hk : 2 * w'.length + 1 ≤ k') (hc : isMark c = false) (hu : flags.skip u = c :: w)
    (hu' : flags.skip u' = c :: w') (h : Abreast whole t t' (c :: w) (c :: w')) :
    AgreeState whole t t' (parts? (k + 1) before ⟨flags, names, u⟩)
      (parts? (k' + 1) before ⟨flags, names, u'⟩) := by
  rw [parts?_of_not_mark hu hc, parts?_of_not_mark hu' hc]
  intro n s hx
  dsimp only at hx ⊢
  cases hatom : atom? flags (c :: w) with
  | none => simp [hatom] at hx
  | some q =>
    obtain ⟨p, v⟩ := q
    simp only [hatom] at hx
    rcases atom?_agree h p v hatom with hlt | ⟨v', hatom', h⟩ | hstall
    · left
      grind [→ parts?_length_le, skip_length_le]
    · have hv := Nat.le_of_lt_succ (atom?_length_lt hatom')
      simp only [hatom']
      exact hparts (by omega) h n s hx
    · exact .inl (parts?_stalled hstall hx)

/-- One more step for a sequence: one case for each mark. -/
theorem partsAgree_succ (hparts : PartsAgree whole t t' k)
    (halternatives : AlternativesAgree whole t t' k) : PartsAgree whole t t' (k + 1) := by
  intro k' before flags names u u' hk h
  obtain ⟨k', rfl⟩ := Nat.exists_eq_succ_of_ne_zero (Nat.ne_zero_of_lt hk)
  rcases flags.skip_abreast h with hlt | hs
  · exact fun n s hx => .inl (Nat.lt_of_le_of_lt (parts?_length_le hx) hlt)
  have hle := flags.skip_length_le u'
  generalize hz : flags.skip u = z, hz' : flags.skip u' = z' at hs hle
  cases hs with
  | ends h hsuffix hcomment =>
    intro n s hx
    cases h <;> simp only [parts?, hz, hz'] at hx ⊢ <;> cases hx <;>
      exact .inr ⟨_, rfl, .ends (by constructor) hsuffix hcomment⟩
  | @cons c w w' hsuffix h =>
    have hw : 2 * w'.length + 2 ≤ k' := by
      simp only [List.length_cons] at hle
      omega
    have hrepeated := repeated_agree before flags names hparts (Nat.le_of_succ_le hw) h
    by_cases hclose : c = ')'
    · subst hclose
      intro n s hx
      simp only [parts?, hz, hz'] at hx ⊢
      cases hx
      exact .inr ⟨_, rfl, .cons _ hsuffix h⟩
    by_cases hbar : c = '|'
    · subst hbar
      intro n s hx
      simp only [parts?, hz, hz'] at hx ⊢
      cases hx
      exact .inr ⟨_, rfl, .cons _ hsuffix h⟩
    by_cases hmaybe : c = '?'
    · subst hmaybe
      simp only [parts?, hz, hz']
      exact hrepeated 0 (some 1)
    by_cases hstar : c = '*'
    · subst hstar
      simp only [parts?, hz, hz']
      exact hrepeated 0 none
    by_cases hplus : c = '+'
    · subst hplus
      simp only [parts?, hz, hz']
      exact hrepeated 1 none
    by_cases hbrace : c = '\x7b'
    · subst hbrace
      exact parts?_brace_agree hparts (Nat.le_of_succ_le hw) hz hz' h
    by_cases hclass : c = '['
    · subst hclass
      exact parts?_class_agree hparts (Nat.le_of_succ_le hw) hz hz' h
    by_cases hgroup : c = '('
    · subst hgroup
      exact parts?_group_agree hparts halternatives hw hz hz' h
    · have hmark : isMark c = false := by simp [isMark, *]
      exact parts?_atom_agree hparts (Nat.le_of_succ_le hw) hmark hz hz' (.cons c hsuffix h)

/-- One more step for a choice: a sequence, and the other alternatives if a bar follows. -/
theorem alternativesAgree_succ (hparts : PartsAgree whole t t' k)
    (halternatives : AlternativesAgree whole t t' k) : AlternativesAgree whole t t' (k + 1) := by
  intro k' before flags names u u' hk h
  obtain ⟨k', rfl⟩ := Nat.exists_eq_succ_of_ne_zero (Nat.ne_zero_of_lt hk)
  intro n s hx
  rw [alternatives?] at hx ⊢
  cases hfirst : parts? k [] ⟨flags, names, u⟩ with
  | none => simp [hfirst] at hx
  | some p =>
    obtain ⟨m, flags1, names1, v⟩ := p
    rcases hparts (Nat.le_of_succ_le_succ hk) h m _ hfirst with hlt | ⟨v', hfirst', h1⟩
    · left
      grind [→ alternatives?_length_le, skip_length_le]
    have hle := Nat.le_trans (parts?_length_le hfirst') (flags.skip_length_le u')
    simp only [hfirst, hfirst'] at hx ⊢
    simp only at h1 hle
    cases h1 with
    | ends h hsuffix hcomment =>
      cases h <;> cases hx <;> exact .inr ⟨_, rfl, .ends (by constructor) hsuffix hcomment⟩
    | @cons c w w' hsuffix h1 =>
      by_cases hc : c = '|'
      · subst hc
        simp only [List.length_cons] at hle
        exact halternatives (by omega) h1 n s hx
      · simp only [List.cons.injEq, hc, false_and, imp_self, implies_true] at hx ⊢
        grind [Abreast]

end Step

/-- **Texts that go on alike are read alike.** The reader of the second text takes the same sequence
or choice as the reader of the first one, unless that one gets beyond the place where the texts
differ.

**Proof sketch.** Induction on the steps of the first reader. What is inside of a sequence either
agrees, so that both readers go on with texts that go on alike, or it gets beyond that place, and
then so does all that follows. -/
theorem reads_agree (whole t t' : List Char) (k : Nat) :
    PartsAgree whole t t' k ∧ AlternativesAgree whole t t' k := by
  induction k with
  | zero => exact ⟨fun _ _ => nofun, fun _ _ => nofun⟩
  | succ k ih => exact ⟨partsAgree_succ ih.1 ih.2, alternativesAgree_succ ih.1 ih.2⟩

end Regex

end Sift
