import Sift.Proofs.RegexRests

/-!
# Readers of regular expressions and the ends of texts

Outside of escapes, classes and comments a closing parenthesis says the same to every reader, and so
does the end of a text: here is nothing for you. Hence a reader that takes something in front of a
closing parenthesis takes it also if something else follows the parenthesis, or if the text ends
there.

This module follows two texts that go on alike up to such a place. As long as a reader of the first
one does not get beyond the place, a reader of the second one takes the same and leaves what is
there. Flags, escapes and classes are dealt with here.

## Main definitions

* `Sift.Regex.Ends`: what two texts have where they differ.
* `Sift.Regex.Abreast`: what is left of two texts that go on alike up to there.
* `Sift.Regex.Agree`: two readings take the same, unless the first one gets beyond that place.

## Main results

* `Sift.RegexFlags.skip_abreast`: blanks and comments.
* `Sift.RegexFlags.escape?_agree`: escapes. A boundary of words is special, since a brace behind it
  need not be read.
* `Sift.RegexFlags.class?_agree`: classes.
-/

set_option autoImplicit false

namespace Sift

namespace Regex

/-- What two texts have where they differ: `t` is left of the first one, and `s` of the second one
that has `t'` there. -/
inductive Ends : List Char → List Char → List Char → Prop
  /-- A closing parenthesis and what follows it are left out. -/
  | dropped (after : List Char) : Ends (')' :: after) [] []
  /-- Behind a closing parenthesis something else follows. -/
  | replaced (after other : List Char) : Ends (')' :: after) (')' :: other) (')' :: other)
  /-- A closing parenthesis is put in at the end. -/
  | added : Ends [] [')'] [')']
  /-- It is put into a comment that goes on to the end. -/
  | hidden : Ends [] [')'] []
  /-- The texts do not differ. -/
  | same : Ends [] [] []

/-- The last line of a text has the mark of a comment in it. -/
def Commented (cs : List Char) : Prop :=
  ∃ front inside, cs = front ++ '#' :: inside ∧ '\n' ∉ inside

/-- What is left of two texts that go on alike up to where they differ. The first one is what is
left of a whole text. -/
inductive Abreast (whole t t' : List Char) : List Char → List Char → Prop
  /-- They differ here. Nothing but a comment has taken what the second one has here. -/
  | ends {s : List Char} (h : Ends t t' s) (hsuffix : t <:+ whole)
      (hcomment : s ≠ t' → Commented whole) : Abreast whole t t' t s
  /-- They go on with the same character. -/
  | cons (c : Char) {u u' : List Char} (hsuffix : c :: u <:+ whole)
      (h : Abreast whole t t' u u') : Abreast whole t t' (c :: u) (c :: u')

/-- The second of two readings takes what the first one takes, and leaves what stands there, unless
the first one gets beyond the place where the texts differ. -/
def Agree {α : Type} (whole t t' : List Char) (x y : Option (α × List Char)) : Prop :=
  ∀ a v, x = some (a, v) →
    v.length < t.length ∨ ∃ v', y = some (a, v') ∧ Abreast whole t t' v v'

end Regex

open Regex

variable {f : RegexFlags} {whole t t' u u' : List Char}

/-! ## Blanks and comments -/

namespace RegexFlags

/-- Blanks and comments, where what has been read of a comment is known. -/
lemma dropBlanks_abreast (inside : Bool)
    (hinside : inside = true → ∃ comment, '#' :: (comment ++ u) <:+ whole ∧ '\n' ∉ comment)
    (h : Abreast whole t t' u u') :
    (dropBlanks inside u).length < t.length ∨
      Abreast whole t t' (dropBlanks inside u) (dropBlanks inside u') := by
  have hclosing (rest : List Char) : dropBlanks false (')' :: rest) = ')' :: rest := by
    have hblank : isBlank ')' = false := by decide
    simp [dropBlanks, hblank]
  induction h generalizing inside with
  | ends h hsuffix hcomment =>
    cases inside with
    | true =>
      -- A comment takes the parenthesis.
      obtain ⟨comment, ⟨front, hfront⟩, hline⟩ := hinside rfl
      cases h with
      | dropped after => exact .inl (Nat.lt_succ_of_le (dropBlanks_length_le _ after))
      | replaced after => exact .inl (Nat.lt_succ_of_le (dropBlanks_length_le _ after))
      | added | hidden =>
        rw [List.append_nil] at hfront
        exact .inr (.ends .hidden hsuffix fun _ => ⟨front, comment, hfront.symm, hline⟩)
      | same => exact .inr (.ends .same hsuffix hcomment)
    | false =>
      right
      cases h <;> simpa only [hclosing, dropBlanks] using
        .ends (by constructor) hsuffix hcomment
  | cons c hsuffix h ih =>
    cases inside with
    | true =>
      obtain ⟨comment, hfront, hline⟩ := hinside rfl
      refine ih (c ≠ '\n') fun hc => ⟨comment ++ [c], ?_, ?_⟩
      · rwa [List.append_assoc]
      · rw [List.mem_append, List.mem_singleton]
        exact not_or.2 ⟨hline, fun heq => of_decide_eq_true hc heq.symm⟩
    | false =>
      simp only [dropBlanks]
      split
      · exact ih false fun h => absurd h Bool.false_ne_true
      split
      case isTrue hc =>
        subst hc
        exact ih true fun _ => ⟨[], hsuffix, List.not_mem_nil⟩
      case isFalse => exact .inr (.cons c hsuffix h)

/-- Blanks and comments end together, unless they reach over the end of the first text. -/
theorem skip_abreast (f : RegexFlags) (h : Abreast whole t t' u u') :
    (f.skip u).length < t.length ∨ Abreast whole t t' (f.skip u) (f.skip u') := by
  unfold skip
  split
  · exact dropBlanks_abreast false (fun h => absurd h Bool.false_ne_true) h
  · exact .inr h

end RegexFlags

/-! ## Readings that agree -/

namespace Regex.Agree

variable {α β : Type} {x y : Option (α × List Char)}

/-- Readings that go beyond the first text agree in any case. -/
lemma of_lt (h : ∀ a v, x = some (a, v) → v.length < t.length) : Agree whole t t' x y :=
  fun a v hx => .inl (h a v hx)

/-- Readings of the same thing with rests that are abreast agree. -/
protected lemma some {a : α} (h : Abreast whole t t' u u') :
    Agree whole t t' (some (a, u)) (some (a, u')) := by
  intro b v hx
  cases hx
  exact .inr ⟨u', rfl, h⟩

/-- A reader that takes nothing agrees with every other one. -/
protected lemma none (y : Option (α × List Char)) : Agree whole t t' none y := by
  intro a v hx
  cases hx

/-- Something that does not depend on what is left. -/
lemma const (o : Option β) (g : β → α)
    (h : u.length < t.length ∨ Abreast whole t t' u u') :
    Agree whole t t' (o.map fun b => (g b, u)) (o.map fun b => (g b, u')) := by
  intro a v hx
  obtain ⟨b, rfl, heq⟩ := Option.map_eq_some_iff.1 hx
  cases heq
  exact h.imp_right fun h => ⟨u', rfl, h⟩

/-- What is made of a reading does not change that it agrees. -/
lemma map (g : α → β) (h : Agree whole t t' x y) :
    Agree whole t t' (x.map fun (a, v) => (g a, v)) (y.map fun (a, v) => (g a, v)) := by
  intro b v hx
  obtain ⟨⟨a, v⟩, rfl, heq⟩ := Option.map_eq_some_iff.1 hx
  cases heq
  rcases h a v rfl with hlt | ⟨v', rfl, hv⟩
  · exact .inl hlt
  · exact .inr ⟨v', rfl, hv⟩

/-- One reading after another one: the second one starts beyond the place where the texts differ, or
where both texts go on alike. -/
lemma elim {z z' : Option (β × List Char)} (h : Agree whole t t' x y)
    (hbeyond : (∀ a u, x = some (a, u) → u.length < t.length) →
      ∀ b v, z = some (b, v) → v.length < t.length)
    (hnext : ∀ a u u', x = some (a, u) → y = some (a, u') → Abreast whole t t' u u' →
      Agree whole t t' z z') : Agree whole t t' z z' := by
  by_cases hx : ∃ a u, x = some (a, u) ∧ ¬ u.length < t.length
  · obtain ⟨a, u, hx, hu⟩ := hx
    obtain ⟨u', hy, h⟩ := (h a u hx).resolve_left hu
    exact hnext a u u' hx hy h
  · exact .of_lt (hbeyond fun a u hu => Classical.byContradiction fun hlt => hx ⟨a, u, hu, hlt⟩)

/-- A reader that has to take a character gets beyond the place where the texts differ, if it starts
there. -/
lemma of_cons (h : Abreast whole t t' u u')
    (hlt : ∀ a v, x = some (a, v) → v.length < u.length)
    (hcons : ∀ c w w', u = c :: w → u' = c :: w' → c :: w <:+ whole →
      Abreast whole t t' w w' → Agree whole t t' x y) : Agree whole t t' x y := by
  cases h with
  | ends => exact .of_lt hlt
  | cons c hsuffix h => exact hcons _ _ _ rfl rfl hsuffix h

/-- The same for a reader that passes over blanks first. -/
lemma of_skip_cons (f : RegexFlags) (h : Abreast whole t t' u u')
    (hlt : ∀ a v, x = some (a, v) → v.length < (f.skip u).length)
    (hcons : ∀ c w w', f.skip u = c :: w → f.skip u' = c :: w' → c :: w <:+ whole →
      Abreast whole t t' w w' → Agree whole t t' x y) : Agree whole t t' x y := by
  rcases f.skip_abreast h with hbeyond | h
  · exact .of_lt fun a v hx => Nat.lt_trans (hlt a v hx) hbeyond
  · exact of_cons h hlt hcons

/-- A reader behind blanks. -/
lemma of_skip (f : RegexFlags) {g g' : List Char → Option (α × List Char)}
    (hle : ∀ {u a v}, g u = some (a, v) → v.length ≤ u.length)
    (hg : ∀ {u u'}, Abreast whole t t' u u' → Agree whole t t' (g u) (g' u'))
    (h : Abreast whole t t' u u') : Agree whole t t' (g (f.skip u)) (g' (f.skip u')) := by
  rcases f.skip_abreast h with hlt | h
  · exact .of_lt fun a v hx => Nat.lt_of_le_of_lt (hle hx) hlt
  · exact hg h

end Regex.Agree

namespace RegexFlags

/-! ## Escapes -/

/-- Codes of a fixed length are read alike. -/
lemma fixedHex?_agree (f : RegexFlags) (k n : Nat) (h : Abreast whole t t' u u') :
    Agree whole t t' (f.fixedHex? k n u) (f.fixedHex? k n u') := by
  induction k generalizing n u u' with
  | zero => exact .some h
  | succ k ih =>
    cases h with
    | ends h hsuffix hcomment => cases h <;> exact .none _
    | cons c hsuffix h =>
      simp only [fixedHex?]
      split
      · exact .of_skip f fixedHex?_length_le (ih _) h
      · exact .none _

/-- What stands in braces is read alike. -/
lemma braced?_agree (f : RegexFlags) (k : Nat) {k' : Nat} (hk : u'.length < k')
    (h : Abreast whole t t' u u') : Agree whole t t' (f.braced? k u) (f.braced? k' u') := by
  induction k generalizing k' u u' with
  | zero => exact .none _
  | succ k ih =>
    obtain ⟨k', rfl⟩ := Nat.exists_eq_succ_of_ne_zero (Nat.ne_zero_of_lt hk)
    refine .of_skip_cons f h (fun _ _ => braced?_length_lt_skip) fun c w w' hu hu' hsuffix h => ?_
    simp only [braced?, hu, hu']
    by_cases hc : c = '\x7d'
    · subst hc
      exact .some h
    · have hw : w'.length < k' :=
        Nat.lt_of_lt_of_le (skip_cons_length_lt hu') (Nat.le_of_lt_succ hk)
      simpa [hc] using (ih hw h).map (c :: ·)

/-- A character by its code without braces. -/
lemma hex?_of_ne {k : Nat} {c : Char} {w : List Char} (hu : f.skip u = c :: w)
    (hc : c ≠ '\x7b') : f.hex? k u = match f.fixedHex? k 0 (c :: w) with
      | none => none
      | some (n, tail) =>
        if k = 2 ∧ !f.unicode ∧ 0x7F < n then none
        else (charOf? n).map fun c => (.char c, tail) := by
  simp only [hex?, hu]
  split
  · rename_i heq
    exact absurd (List.cons.inj heq).1 hc
  · rfl

/-- Codes are read alike. -/
lemma hex?_agree (f : RegexFlags) (k : Nat) (h : Abreast whole t t' u u') :
    Agree whole t t' (f.hex? (k + 1) u) (f.hex? (k + 1) u') := by
  refine .of_skip_cons f h (fun _ _ => hex?_length_lt_skip) fun c w w' hu hu' hsuffix h => ?_
  by_cases hc : c = '\x7b'
  · subst hc
    simp only [hex?, hu, hu']
    refine (f.braced?_agree (w.length + 1) (Nat.lt_succ_self w'.length) h).elim ?_ ?_
    · grind [skip_length_le, Option.map_eq_some_iff]
    · intro inner v v' hv hv' h
      simp only [hv, hv']
      exact .const _ _ (f.skip_abreast h)
  · rw [hex?_of_ne hu hc, hex?_of_ne hu' hc]
    refine (f.fixedHex?_agree (k + 1) 0 (.cons c hsuffix h)).elim ?_ ?_
    · grind [Option.map_eq_some_iff]
    · intro n v v' hv hv' h
      simp only [hv, hv']
      split
      · exact .none _
      · exact .const _ _ (.inr h)

/-- Properties of characters are read alike. -/
lemma property?_agree (f : RegexFlags) (negated : Bool) (h : Abreast whole t t' u u') :
    Agree whole t t' (f.property? negated u) (f.property? negated u') := by
  refine .of_skip_cons f h (fun _ _ => property?_length_lt_skip) fun c w w' hu hu' hsuffix h => ?_
  simp only [property?, hu, hu']
  split
  · exact .none _
  by_cases hc : c = '\x7b'
  · subst hc
    refine (f.braced?_agree (w.length + 1) (Nat.lt_succ_self w'.length) h).elim ?_ ?_
    · grind [Option.map_eq_some_iff]
    · intro inner v v' hv hv' h
      simp only [hv, hv']
      split <;> exact .const _ _ (.inr h)
  · simp only
    split
    · exact .none _
    · exact .const _ _ (f.skip_abreast h)

/-- What a boundary of words leaves if a brace behind it is not read: the brace, and behind it
nothing in front of the place where the texts differ. -/
def Stalls (t : List Char) (f : RegexFlags) (v : List Char) : Prop :=
  ∃ w, v = '\x7b' :: w ∧ (f.skip w).length ≤ t.length

/-- A boundary of words. Whether a brace behind it is read depends on the character that follows the
brace, which may lie where the texts differ. -/
lemma boundary?_agree (h : Abreast whole t t' u u') (a : RegexAtom) (v : List Char)
    (hx : f.boundary? u = some (a, v)) : v.length < t.length ∨
      (∃ v', f.boundary? u' = some (a, v') ∧ Abreast whole t t' v v') ∨
      (∃ p, a = .pattern p) ∧ Stalls t f v := by
  cases h with
  | ends h hsuffix hcomment =>
    cases h <;> cases hx <;> exact .inr (.inl ⟨_, rfl, .ends (by constructor) hsuffix hcomment⟩)
  | @cons c w w' hsuffix h =>
    by_cases hc : c = '\x7b'
    · subst hc
      by_cases hle : (f.skip w).length ≤ t.length
      · simp only [boundary?] at hx
        split at hx
        · cases hx
        split at hx
        · cases hx
          exact .inr (.inr ⟨⟨_, rfl⟩, w, rfl, hle⟩)
        · left
          grind [Option.map_eq_some_iff, → braced?_length_lt_skip]
      · have hs := (f.skip_abreast h).resolve_left fun hlt => hle (Nat.le_of_lt hlt)
        suffices hagree : Agree whole t t' (f.boundary? ('\x7b' :: w))
            (f.boundary? ('\x7b' :: w')) from (hagree a v hx).imp_right .inl
        generalize hz : f.skip w = z, hz' : f.skip w' = z' at hs hle
        cases hs with
        | ends => exact absurd (Nat.le_refl _) hle
        | cons d _ hs =>
          simp only [boundary?, hz, hz']
          split
          · exact .some (.cons _ hsuffix h)
          · refine (f.braced?_agree (w.length + 1) (Nat.lt_succ_self w'.length) h).elim ?_ ?_
            · grind [Option.map_eq_some_iff]
            · intro name v v' hv hv' h
              simp only [hv, hv']
              exact .const _ _ (.inr h)
    · have hother (w : List Char) : f.boundary? (c :: w) =
          some (.pattern (.look (.boundary f.word)), c :: w) := by
        simp [boundary?, hc]
      rw [hother] at hx
      cases hx
      exact .inr (.inl ⟨c :: w', hother w', .cons c hsuffix h⟩)

/-- **Escapes.** Apart from boundaries of words with a brace behind them, escapes agree. -/
theorem escape?_agree (h : Abreast whole t t' u u') (a : RegexAtom) (v : List Char)
    (hx : f.escape? u = some (a, v)) : v.length < t.length ∨
      (∃ v', f.escape? u' = some (a, v') ∧ Abreast whole t t' v v') ∨
      (∃ p, a = .pattern p) ∧ Stalls t f v := by
  cases h with
  | ends => exact .inl (escape?_length_lt hx)
  | @cons c w w' hsuffix h =>
    by_cases hc : c = 'b'
    · subst hc
      exact boundary?_agree h a v hx
    · suffices hagree : Agree whole t t' (f.escape? (c :: w)) (f.escape? (c :: w')) from
        (hagree a v hx).imp_right .inl
      simp only [escape?]
      split
      · exact f.hex?_agree 1 h
      · exact f.hex?_agree 3 h
      · exact f.hex?_agree 7 h
      · exact f.property?_agree false h
      · exact f.property?_agree true h
      case h_20 => exact absurd rfl hc
      case h_24 =>
        split
        · exact .some h
        · exact .none _
      -- The other escapes are one character long.
      all_goals first | exact .some h | exact .const _ _ (.inr h)

/-! ## Members of classes -/

/-- Atoms of a class are read alike, unless they are patterns. -/
lemma classAtom?_agree (h : Abreast whole t t' u u') (a : RegexAtom) (v : List Char)
    (hx : f.classAtom? u = some (a, v)) : v.length < t.length ∨
      (∃ v', f.classAtom? u' = some (a, v') ∧ Abreast whole t t' v v') ∨
      ∃ p, a = .pattern p := by
  cases h with
  | ends => exact .inl (classAtom?_length_lt hx)
  | @cons c w w' hsuffix h =>
    by_cases hc : c = '\\'
    · subst hc
      exact (escape?_agree h a v hx).imp_right (Or.imp_right And.left)
    · grind [classAtom?]

/-- A hyphen ends both classes or none. -/
lemma endsAtHyphen_abreast (h : Abreast whole t t' u u')
    (hlt : t.length < (f.skip u).length) : f.endsAtHyphen u = f.endsAtHyphen u' := by
  have hs := (f.skip_abreast h).resolve_left fun hle => Nat.lt_asymm hle hlt
  generalize hz : f.skip u = z, hz' : f.skip u' = z' at hs hlt
  cases hs with
  | ends => exact absurd hlt (Nat.lt_irrefl _)
  | cons c => grind [endsAtHyphen]

/-- An atom as a member of a class, with what follows it. -/
def atomMember? (f : RegexFlags) (v : List Char) : RegexAtom → Option (CharSet × List Char)
  | .char c => (f.classChar? c).map fun s => (s, v)
  | .set s => some (s, v)
  | .pattern _ => none

/-- A range from an atom to the one at the front of a text. -/
def rangeMember? (f : RegexFlags) (atom : RegexAtom) (cs : List Char) :
    Option (CharSet × List Char) :=
  match atom, f.classAtom? cs with
  | .char first, some (.char last, rest) => (f.classRange? first last).map fun s => (s, rest)
  | _, _ => none

section Member

variable {atom : RegexAtom} {c : Char} {r w v : List Char} {set : CharSet}

/-- A member without a hyphen is an atom. -/
lemma member?_of_ne (h : f.classAtom? u = some (atom, r)) (hr : f.skip r = c :: w)
    (hc : c ≠ '-') : f.member? u = f.atomMember? (c :: w) atom := by
  simp only [member?, h, hr]
  split
  · contradiction
  · rename_i heq
    exact absurd (List.cons.inj heq).1 hc
  · cases atom <;> rfl

/-- A member with a hyphen is a range, unless the hyphen is a member of its own. -/
lemma member?_hyphen (h : f.classAtom? u = some (atom, r)) (hr : f.skip r = '-' :: w) :
    f.member? u = if f.endsAtHyphen w then f.atomMember? ('-' :: w) atom
      else f.rangeMember? atom (f.skip w) := by
  simp only [member?, h, hr]
  split
  · cases atom <;> rfl
  · rfl

/-- An atom that is a member of a class reads no more. -/
lemma eq_of_atomMember? (h : f.atomMember? u atom = some (set, v)) : v = u := by
  unfold atomMember? at h
  grind [Option.map_eq_some_iff]

/-- A range reads its end. -/
lemma rangeMember?_length_lt (h : f.rangeMember? atom u = some (set, v)) :
    v.length < u.length := by
  unfold rangeMember? at h
  grind [Option.map_eq_some_iff, → classAtom?_length_lt]

/-- Atoms that are members of a class are read alike. -/
lemma atomMember?_agree (f : RegexFlags) (atom : RegexAtom) (h : Abreast whole t t' u u') :
    Agree whole t t' (f.atomMember? u atom) (f.atomMember? u' atom) := by
  cases atom with
  | char c => exact .const _ _ (.inr h)
  | set s => exact .some h
  | pattern p => exact .none _

/-- Ranges that are members of a class are read alike. -/
lemma rangeMember?_agree (f : RegexFlags) (atom : RegexAtom) (h : Abreast whole t t' u u') :
    Agree whole t t' (f.rangeMember? atom u) (f.rangeMember? atom u') := by
  intro s v hx
  cases atom with
  | set | pattern => simp [rangeMember?] at hx
  | char first =>
    simp only [rangeMember?] at hx ⊢
    split at hx
    · rename_i last rest heq hr
      cases heq
      rcases classAtom?_agree h _ _ hr with hlt | ⟨v', hr', h⟩ | ⟨p, hp⟩
      · left
        grind [Option.map_eq_some_iff]
      · rw [hr']
        exact Agree.const _ _ (.inr h) s v hx
      · cases hp
    · cases hx

end Member

/-- A member of a class. It may end in front of a hyphen or of the place where the texts differ,
though what decides about that lies behind: then the rest of the class gets beyond the place. -/
lemma member?_agree (h : Abreast whole t t' u u') (set : CharSet) (v : List Char)
    (hx : f.member? u = some (set, v)) :
    v.length ≤ t.length ∨ (∃ w, v = '-' :: w ∧ (f.skip w).length ≤ t.length) ∨
      ∃ v', f.member? u' = some (set, v') ∧ Abreast whole t t' v v' := by
  obtain ⟨atom, r, hr⟩ : ∃ a r, f.classAtom? u = some (a, r) := by
    unfold member? at hx
    grind
  by_cases hle : (f.skip r).length ≤ t.length
  · exact .inl (Nat.le_trans (member?_length_le_skip hr hx) hle)
  rcases classAtom?_agree h atom r hr with hlt | ⟨r', hr', h⟩ | ⟨p, rfl⟩
  · exact absurd (Nat.le_of_lt (Nat.lt_of_le_of_lt (f.skip_length_le r) hlt)) hle
  · have hs := (f.skip_abreast h).resolve_left fun hlt => hle (Nat.le_of_lt hlt)
    generalize hz : f.skip r = z, hz' : f.skip r' = z' at hs hle
    cases hs with
    | ends => exact absurd (Nat.le_refl _) hle
    | @cons c z z' hsuffix hs =>
      by_cases hc : c = '-'
      · subst hc
        rw [member?_hyphen hr hz] at hx
        rw [member?_hyphen hr' hz']
        by_cases hlong : t.length < (f.skip z).length
        · rw [← endsAtHyphen_abreast hs hlong]
          split at hx
          case isTrue hend =>
            rw [if_pos hend]
            exact (f.atomMember?_agree atom (.cons '-' hsuffix hs) set v hx).imp
              Nat.le_of_lt .inr
          case isFalse hend =>
            rw [if_neg hend]
            have hs := (f.skip_abreast hs).resolve_left fun hlt => Nat.lt_asymm hlt hlong
            exact (f.rangeMember?_agree atom hs set v hx).imp Nat.le_of_lt .inr
        · split at hx
          · exact .inr (.inl ⟨z, eq_of_atomMember? hx, Nat.le_of_not_lt hlong⟩)
          · have hlt := rangeMember?_length_lt hx
            left
            omega
      · rw [member?_of_ne hr hz hc] at hx
        rw [member?_of_ne hr' hz' hc]
        exact (f.atomMember?_agree atom (.cons c hsuffix hs) set v hx).imp Nat.le_of_lt .inr
  · -- A pattern is no member of a class.
    exfalso
    unfold member? at hx
    grind

/-! ## Starts of classes -/

/-- Hyphens at the start of a class are read alike. -/
lemma leadingHyphens_abreast (f : RegexFlags) {k k' : Nat} (hk : u.length < k)
    (hk' : u'.length < k') (s : ClassState) (h : Abreast whole t t' u u') :
    (f.leadingHyphens k s u).2.length < t.length ∨
      (f.leadingHyphens k s u).1 = (f.leadingHyphens k' s u').1 ∧
        Abreast whole t t' (f.leadingHyphens k s u).2 (f.leadingHyphens k' s u').2 := by
  induction k generalizing k' s u u' with
  | zero => exact absurd hk (Nat.not_lt_zero _)
  | succ k ih =>
    obtain ⟨k', rfl⟩ := Nat.exists_eq_succ_of_ne_zero (Nat.ne_zero_of_lt hk')
    rcases f.skip_abreast h with hlt | hs
    · exact .inl (Nat.lt_of_le_of_lt (leadingHyphens_length_le_skip k s u) hlt)
    · have hu := f.skip_length_le u
      have hu' := f.skip_length_le u'
      simp only [leadingHyphens]
      generalize f.skip u = z, f.skip u' = z' at hs hu hu'
      cases hs with
      | ends h hsuffix hcomment =>
        cases h <;> exact .inr ⟨rfl, .ends (by constructor) hsuffix hcomment⟩
      | @cons c z z' hsuffix hs =>
        by_cases hc : c = '-'
        · subst hc
          simp only [List.length_cons] at hu hu'
          exact ih (by omega) (by omega) _ hs
        · right
          simpa [hc] using .cons c hsuffix hs

/-- The members at the start of a class that have a meaning of their own there. -/
def firstMembers (f : RegexFlags) (negated : Bool) (cs : List Char) :
    Bool × ClassState × List Char :=
  let (s, cs) := f.leadingHyphens (cs.length + 1) ⟨none, []⟩ cs
  match s.members, cs with
  | [], ']' :: rest => (negated, s.add ⟨.single ']', 0⟩, rest)
  | _, cs => (negated, s, cs)

/-- The start of a class, with or without a negation. -/
lemma openClass_eq (f : RegexFlags) (cs : List Char) :
    f.openClass cs = match f.skip cs with
      | '^' :: rest => f.firstMembers true rest
      | cs => f.firstMembers false cs := by
  rw [openClass]
  generalize f.skip cs = z
  cases z with
  | nil => rfl
  | cons c z =>
    by_cases hc : c = '^'
    · subst hc
      rfl
    · simp only [List.cons.injEq, hc, false_and, imp_self, implies_true]
      rfl

/-- The first members of a class are read alike. -/
lemma firstMembers_abreast (f : RegexFlags) (negated : Bool) (h : Abreast whole t t' u u') :
    (f.firstMembers negated u).2.2.length < t.length ∨
      (f.firstMembers negated u).1 = (f.firstMembers negated u').1 ∧
      (f.firstMembers negated u).2.1 = (f.firstMembers negated u').2.1 ∧
        Abreast whole t t' (f.firstMembers negated u).2.2 (f.firstMembers negated u').2.2 := by
  rcases f.leadingHyphens_abreast (Nat.lt_succ_self u.length) (Nat.lt_succ_self u'.length)
    ⟨none, []⟩ h with hlt | ⟨hs, h⟩
  · left
    unfold firstMembers
    grind
  · simp only [firstMembers, ← hs]
    generalize (f.leadingHyphens (u.length + 1) ⟨none, []⟩ u).1 = s
    generalize (f.leadingHyphens (u.length + 1) ⟨none, []⟩ u).2 = z,
      (f.leadingHyphens (u'.length + 1) ⟨none, []⟩ u').2 = z' at h
    cases s.members with
    | cons => exact .inr ⟨rfl, rfl, h⟩
    | nil =>
      cases h with
      | ends h hsuffix hcomment =>
        cases h <;> exact .inr ⟨rfl, rfl, .ends (by constructor) hsuffix hcomment⟩
      | @cons c z z' hsuffix h =>
        right
        by_cases hc : c = ']'
        · subst hc
          exact ⟨rfl, rfl, h⟩
        · simpa [hc] using .cons c hsuffix h

/-- The starts of classes are read alike. -/
lemma openClass_abreast (f : RegexFlags) (h : Abreast whole t t' u u') :
    (f.openClass u).2.2.length < t.length ∨
      (f.openClass u).1 = (f.openClass u').1 ∧ (f.openClass u).2.1 = (f.openClass u').2.1 ∧
        Abreast whole t t' (f.openClass u).2.2 (f.openClass u').2.2 := by
  rcases f.skip_abreast h with hlt | hs
  · exact .inl (Nat.lt_of_le_of_lt (f.openClass_length_le_skip u) hlt)
  · rw [openClass_eq, openClass_eq]
    generalize f.skip u = z, f.skip u' = z' at hs
    cases hs with
    | ends h hsuffix hcomment =>
      cases h <;> exact f.firstMembers_abreast false (.ends (by constructor) hsuffix hcomment)
    | @cons c z z' hsuffix h =>
      by_cases hc : c = '^'
      · subst hc
        exact f.firstMembers_abreast true h
      · simpa [hc] using f.firstMembers_abreast false (.cons c hsuffix h)

/-! ## Named classes -/

/-- A colon is found in front of the place where the texts differ, or else behind a closing
parenthesis, if at all. -/
lemma span_colon_abreast (h : Abreast whole t t' u u') :
    (∃ v v', u.dropWhile (· ≠ ':') = ':' :: v ∧ u'.dropWhile (· ≠ ':') = ':' :: v' ∧
      u.takeWhile (· ≠ ':') = u'.takeWhile (· ≠ ':') ∧ Abreast whole t t' v v') ∨
    (u.dropWhile (· ≠ ':') = [] ∨ ')' ∈ u.takeWhile (· ≠ ':')) ∧
      (u'.dropWhile (· ≠ ':') = [] ∨ ')' ∈ u'.takeWhile (· ≠ ':')) := by
  induction h with
  | ends h => cases h <;> simp
  | @cons c u u' hsuffix h ih =>
    by_cases hc : c = ':'
    · subst hc
      exact .inl ⟨u, u', by simp, by simp, by simp, h⟩
    · have hdrop (u : List Char) : (c :: u).dropWhile (· ≠ ':') = u.dropWhile (· ≠ ':') :=
        List.dropWhile_cons_of_pos (by simpa using hc)
      have htake (u : List Char) :
          (c :: u).takeWhile (· ≠ ':') = c :: u.takeWhile (· ≠ ':') :=
        List.takeWhile_cons_of_pos (by simpa using hc)
      rw [hdrop, hdrop, htake, htake]
      refine ih.imp ?_ ?_
      · rintro ⟨v, v', hv, hv', heq, h⟩
        exact ⟨v, v', hv, hv', by rw [heq], h⟩
      · exact And.imp (Or.imp_right (List.mem_cons_of_mem c))
          (Or.imp_right (List.mem_cons_of_mem c))

/-- No name of a class has a parenthesis in it. -/
lemma namedClasses_lookup_eq_none {cs : List Char} (h : ')' ∈ cs) :
    namedClasses.lookup (String.ofList cs) = none := by
  have hnames : ∀ p ∈ namedClasses, ')' ∉ p.1.toList := by decide +kernel
  refine List.lookup_eq_none_iff.2 fun p hp => ?_
  rw [bne_iff_ne]
  intro heq
  exact hnames p hp (by rwa [← heq, String.toList_ofList])

/-- The part of a named class behind the mark that negates it. -/
def namedRanges? (negated : Bool) (cs : List Char) : Option (Ranges × Bool × List Char) :=
  match cs.dropWhile (fun c => c ≠ ':') with
  | ':' :: ']' :: tail =>
    (namedClasses.lookup (String.ofList (cs.takeWhile fun c => c ≠ ':'))).map fun rs =>
      (rs, negated, tail)
  | _ => none

/-- A class with a name, with or without a negation. -/
lemma namedClass?_eq (rest : List Char) :
    namedClass? (':' :: rest) = match rest with
      | '^' :: rest => namedRanges? true rest
      | _ => namedRanges? false rest := by
  cases rest with
  | nil => rfl
  | cons c rest =>
    by_cases hc : c = '^'
    · subst hc
      rfl
    · simp only [namedClass?, List.cons.injEq, hc, false_and, imp_self, implies_true]
      rfl

/-- Names of classes are read alike. -/
lemma namedRanges?_abreast (negated : Bool) (h : Abreast whole t t' u u') :
    (∃ rs b v v', namedRanges? negated u = some (rs, b, v) ∧
      namedRanges? negated u' = some (rs, b, v') ∧ Abreast whole t t' v v') ∨
    namedRanges? negated u = none ∧ namedRanges? negated u' = none := by
  have hnone {u : List Char}
      (hu : u.dropWhile (· ≠ ':') = [] ∨ ')' ∈ u.takeWhile (· ≠ ':')) :
      namedRanges? negated u = none := by
    unfold namedRanges?
    split
    · rename_i heq
      rw [namedClasses_lookup_eq_none (hu.resolve_left (by rw [heq]; exact List.cons_ne_nil _ _))]
      rfl
    · rfl
  rcases span_colon_abreast h with ⟨v, v', hv, hv', htake, h⟩ | ⟨hu, hu'⟩
  · simp only [namedRanges?, hv, hv', htake]
    cases h with
    | ends h => cases h <;> exact .inr ⟨rfl, rfl⟩
    | @cons c w w' hsuffix h =>
      by_cases hc : c = ']'
      · subst hc
        simp only
        cases namedClasses.lookup (String.ofList (u'.takeWhile (· ≠ ':'))) with
        | none => exact .inr ⟨rfl, rfl⟩
        | some rs => exact .inl ⟨rs, negated, w, w', rfl, rfl, h⟩
      · simp [hc]
  · exact .inr ⟨hnone hu, hnone hu'⟩

/-- A named class is there in both texts or in none. -/
lemma namedClass?_abreast (h : Abreast whole t t' u u') :
    (∃ rs b v v', namedClass? u = some (rs, b, v) ∧ namedClass? u' = some (rs, b, v') ∧
      Abreast whole t t' v v') ∨ namedClass? u = none ∧ namedClass? u' = none := by
  cases h with
  | ends h => cases h <;> exact .inr ⟨rfl, rfl⟩
  | @cons c w w' _ h =>
    by_cases hc : c = ':'
    · subst hc
      rw [namedClass?_eq, namedClass?_eq]
      cases h with
      | ends h hsuffix hcomment =>
        cases h <;> exact namedRanges?_abreast false (.ends (by constructor) hsuffix hcomment)
      | @cons c w w' hsuffix h =>
        by_cases hc : c = '^'
        · subst hc
          exact namedRanges?_abreast true h
        · simpa [hc] using namedRanges?_abreast false (.cons c hsuffix h)
    · simp [namedClass?, hc]

/-- An operator on sets is there in both texts or in none. -/
lemma read?_abreast (h : Abreast whole t t' u u') :
    (∃ o v v', SetOperator.read? u = some (o, v) ∧ SetOperator.read? u' = some (o, v') ∧
      Abreast whole t t' v v') ∨ SetOperator.read? u = none ∧ SetOperator.read? u' = none := by
  cases h with
  | ends h => cases h <;> exact .inr ⟨rfl, rfl⟩
  | @cons c w w' _ h =>
    cases h with
    | ends h => cases h <;> simp [SetOperator.read?]
    | @cons d w w' _ h =>
      by_cases hand : c = '&' ∧ d = '&'
      · obtain ⟨rfl, rfl⟩ := hand
        exact .inl ⟨_, w, w', rfl, rfl, h⟩
      by_cases hminus : c = '-' ∧ d = '-'
      · obtain ⟨rfl, rfl⟩ := hminus
        exact .inl ⟨_, w, w', rfl, rfl, h⟩
      by_cases htilde : c = '~' ∧ d = '~'
      · obtain ⟨rfl, rfl⟩ := htilde
        exact .inl ⟨_, w, w', rfl, rfl, h⟩
      · right
        constructor <;> (unfold SetOperator.read?; grind)

/-! ## Classes -/

/-- The rest of a class that goes on with an operator or a member. -/
lemma classRest?_of_ne {k : Nat} {negated : Bool} {s : ClassState} {c : Char} {w : List Char}
    (hu : f.skip u = c :: w) (hclose : c ≠ ']') (hopen : c ≠ '[') :
    f.classRest? (k + 1) negated s u = match SetOperator.read? (c :: w) with
      | some (o, rest) => f.classRest? k negated (s.operate f o) rest
      | none =>
        match f.member? (c :: w) with
        | some (set, rest) => f.classRest? k negated (s.add ⟨set, 0⟩) rest
        | none => none := by
  simp only [classRest?, hu]
  split
  · contradiction
  · rename_i heq
    exact absurd (List.cons.inj heq).1 hclose
  · rename_i heq
    exact absurd (List.cons.inj heq).1 hopen
  · rfl

/-- The rests of classes are read alike. -/
lemma classRest?_agree (f : RegexFlags) (k : Nat) {k' : Nat} (negated : Bool) (s : ClassState)
    (hk : u'.length < k') (h : Abreast whole t t' u u') :
    Agree whole t t' (f.classRest? k negated s u) (f.classRest? k' negated s u') := by
  induction k generalizing k' negated s u u' with
  | zero => exact .none _
  | succ k ih =>
    obtain ⟨k', rfl⟩ := Nat.exists_eq_succ_of_ne_zero (Nat.ne_zero_of_lt hk)
    refine .of_skip_cons f h (fun _ _ => classRest?_length_lt_skip)
      fun c w w' hu hu' hsuffix h => ?_
    have hw : w'.length < k' :=
      Nat.lt_of_lt_of_le (skip_cons_length_lt hu') (Nat.le_of_lt_succ hk)
    by_cases hclose : c = ']'
    · subst hclose
      simp only [classRest?, hu, hu']
      exact .const _ _ (.inr h)
    by_cases hopen : c = '['
    · subst hopen
      simp only [classRest?, hu, hu']
      rcases namedClass?_abreast h with ⟨ranges, neg, v, v', hv, hv', h⟩ | ⟨hv, hv'⟩
      · simp only [hv, hv']
        split
        · exact ih _ _ (Nat.lt_trans (namedClass?_length_lt hv') hw) h
        · exact .none _
      · simp only [hv, hv']
        have hle := f.openClass_length_le w'
        rcases f.openClass_abreast h with hlt | ⟨hneg, hs, h⟩
        · refine .of_lt fun m v hx => ?_
          grind [→ classRest?_length_lt]
        · -- A class inside is read, and then the rest of this one.
          rw [← hneg, ← hs]
          have hinner := ih (f.openClass w).1 (f.openClass w).2.1 (Nat.lt_of_le_of_lt hle hw) h
          refine hinner.elim ?_ ?_
          · grind [→ classRest?_length_lt]
          · intro m v v' hv hv' h
            simp only [hv, hv']
            have hlt := classRest?_length_lt hv'
            exact ih _ _ (by omega) h
    · rw [classRest?_of_ne hu hclose hopen, classRest?_of_ne hu' hclose hopen]
      rcases read?_abreast (.cons c hsuffix h) with ⟨o, v, v', hv, hv', hr⟩ | ⟨hv, hv'⟩
      · simp only [hv, hv']
        have hlt := read?_length_lt hv'
        exact ih _ _ (Nat.lt_of_lt_of_le hlt hw) hr
      · intro m r hx
        simp only [hv, hv'] at hx ⊢
        split at hx
        · rename_i set rest hm
          rcases member?_agree (.cons c hsuffix h) set rest hm with
            hle | ⟨z, rfl, hz⟩ | ⟨rest', hm', h⟩
          · exact .inl (Nat.lt_of_lt_of_le (classRest?_length_lt hx) hle)
          · exact .inl (Nat.lt_of_lt_of_le (classRest?_hyphen_length_lt hx) hz)
          · rw [hm']
            have hlt := member?_length_lt hm'
            exact ih _ _ (Nat.lt_of_lt_of_le hlt hw) h m r hx
        · cases hx

/-- **Classes.** A class agrees, whatever is in it. -/
theorem class?_agree (f : RegexFlags) (h : Abreast whole t t' u u') :
    Agree whole t t' (f.class? u) (f.class? u') := by
  rcases f.openClass_abreast h with hlt | ⟨hneg, hs, hopen⟩
  · exact .of_lt fun a v hx => Nat.lt_trans (classRest?_length_lt hx) hlt
  · simp only [class?, ← hneg, ← hs]
    exact f.classRest?_agree _ _ _ (Nat.lt_succ_of_le (f.openClass_length_le u')) hopen

end RegexFlags

end Sift
