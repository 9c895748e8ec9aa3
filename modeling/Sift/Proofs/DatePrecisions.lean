import Sift.Proofs.DateExpressions
import Sift.Proofs.IntervalTiling

/-!
# Dates that are written down to a unit

A date has a fraction of a second only if there is a point in its text, and then it is not written
down to a unit. A date that is written down to a unit is therefore the start of a second, or of the
leap second after it if the unit is the second.

## Main definitions

* `Sift.DateLiteral.Whole`: dates without a fraction, if they are written down to a unit.

## Main results

* `Sift.DateLiteral.suffix_of_date?`: a date is read from the front of a text.
* `Sift.DateLiteral.whole_of_parse?`: written dates are whole.
* `Sift.DateLiteral.nanos_of_read`: their instants are whole seconds, or in a leap second.
-/

set_option autoImplicit false

namespace Sift

namespace DateLiteral

variable {cs rest : List Char}

/-- Reading digits leaves an end of the text. -/
lemma suffix_of_digits? {least most n : Nat} (h : digits? least most cs = some (n, rest)) :
    rest <:+ cs := by
  unfold digits? at h
  dsimp only at h
  split at h
  · cases h
  · obtain ⟨-, rfl⟩ := Prod.mk.inj (Option.some.inj h)
    exact List.drop_suffix _ _

/-- Reading a field leaves an end of the text. -/
lemma suffix_of_field? {n : Nat} (h : field? cs = some (n, rest)) : rest <:+ cs :=
  (suffix_of_digits? h).trans (List.dropWhile_suffix _)

/-- Reading a character leaves an end of the text. -/
lemma suffix_of_char? {c : Char} (h : char? c cs = some rest) : rest <:+ cs := by
  cases cs with
  | nil => cases h
  | cons d ds =>
    rw [char?] at h
    split at h
    · obtain rfl := Option.some.inj h
      exact List.suffix_cons _ _
    · cases h

/-- Reading a year leaves an end of the text. -/
lemma suffix_of_year? {y : Int} (h : year? cs = some (y, rest)) : rest <:+ cs := by
  have hdigits : ∀ {least most : Nat} {f : Nat × List Char → Int × List Char} {ds : List Char},
      (∀ p, (f p).2 = p.2) → ds <:+ cs → (digits? least most ds).map f = some (y, rest) →
        rest <:+ cs := by
    intro least most f ds hf hds h
    obtain ⟨⟨n, after⟩, hn, hpair⟩ := Option.map_eq_some_iff.1 h
    obtain rfl : after = rest := (hf _).symm.trans (congrArg Prod.snd hpair)
    exact (suffix_of_digits? hn).trans hds
  have hblanks : cs.dropWhile isBlank <:+ cs := List.dropWhile_suffix _
  unfold year? at h
  split at h
  · rename_i after hsign
    rw [hsign] at hblanks
    exact hdigits (fun _ => rfl) ((List.suffix_cons _ _).trans hblanks) h
  · rename_i after hsign
    rw [hsign] at hblanks
    exact hdigits (fun _ => rfl) ((List.suffix_cons _ _).trans hblanks) h
  · exact hdigits (fun _ => rfl) hblanks h

/-- What follows a date is the end of the text. -/
theorem suffix_of_date? {d : Date} (h : date? cs = some (d, rest)) : rest <:+ cs := by
  unfold date? at h
  simp only [Option.bind_eq_bind, Option.bind_eq_some_iff, Prod.exists, Option.pure_def,
    Option.some.injEq, Prod.mk.injEq] at h
  obtain ⟨y, cs₁, hyear, cs₂, hdash, m, cs₃, hmonth, cs₄, hdash', day, cs₅, hday, -, -, -, rfl⟩ := h
  exact (suffix_of_field? hday).trans <| (suffix_of_char? hdash').trans <|
    (suffix_of_field? hmonth).trans <| (suffix_of_char? hdash).trans <| suffix_of_year? hyear

/-- Without a point there is no fraction. -/
lemma eq_zero_of_fraction? {n : Nat} (h : fraction? cs = some (n, rest)) (hpoint : '.' ∉ cs) :
    n = 0 := by
  unfold fraction? at h
  split at h
  · exact absurd List.mem_cons_self hpoint
  · exact (Prod.mk.inj (Option.some.inj h)).1.symm

/-- A time of day without a fraction is a whole second, or a leap second if it has sixty seconds. -/
lemma nanos_of_wallTime? {d : Date} {h m s : Nat} {w : WallTime}
    (hw : wallTime? d h m s 0 = some w) : w.nanos = 0 ∨ s = 60 ∧ w.nanos = nanosPerSecond := by
  unfold wallTime? at hw
  dsimp only at hw
  split at hw
  · split at hw
    · rename_i hs
      obtain rfl := Option.some.inj hw
      exact .inr ⟨hs, Nat.zero_add _⟩
    · obtain rfl := Option.some.inj hw
      exact .inl rfl
  · cases hw

/-- In a form without a fraction, leap seconds are written with their seconds. -/
lemma nanos_of_ofForm? {form : WallForm} (hform : form.fraction = false) :
    ∀ w, ofForm? form cs = some w →
      w.nanos = 0 ∨ form.seconds = true ∧ w.nanos = nanosPerSecond := by
  have htime : ∀ {d h m s} {cs : List Char} {P : Prop}, (s = 60 → P) →
      ∀ w, (if cs.isEmpty then wallTime? d h m s 0 else none) = some w →
        w.nanos = 0 ∨ P ∧ w.nanos = nanosPerSecond :=
    fun hs => forall_ite (fun _ hw => (nanos_of_wallTime? hw).imp_right (.imp_left hs)) nofun
  unfold ofForm?
  simp only [hform, Bool.false_eq_true, if_false, Option.bind_some, Option.bind_eq_bind]
  cases hseconds : form.seconds with
  | true =>
    repeat' first
      | exact htime fun _ => rfl
      | refine forall_bind fun _ _ => ?_
      | refine forall_ite ?_ ?_
  | false =>
    -- The number of seconds is zero, so that this is no leap second.
    simp only [Bool.false_eq_true, if_false]
    repeat' first
      | exact htime nofun
      | refine forall_bind fun _ _ => ?_
      | refine forall_ite ?_ ?_

/-- The form that may have a fraction, where there is none. -/
lemma nanos_of_ofForm?_fraction {w : WallTime} (hpoint : '.' ∉ cs)
    (hw : ofForm? ⟨true, true, true⟩ cs = some w) : w.nanos = 0 ∨ w.nanos = nanosPerSecond := by
  unfold ofForm? at hw
  simp only [if_true, Option.bind_eq_bind, Option.bind_eq_some_iff, Prod.exists] at hw
  obtain ⟨d, cs₁, hdate, cs₂, hletter, h, cs₃, hhour, cs₄, hcolon, m, cs₅, hminute, s, cs₆,
    ⟨cs₇, hcolon', hsecond⟩, n, cs₈, hfraction, htime⟩ := hw
  have hsuffix : cs₆ <:+ cs :=
    (suffix_of_field? hsecond).trans <| (suffix_of_char? hcolon').trans <|
      (suffix_of_field? hminute).trans <| (suffix_of_char? hcolon).trans <|
        (suffix_of_field? hhour).trans <| (suffix_of_char? hletter).trans <| suffix_of_date? hdate
  obtain rfl := eq_zero_of_fraction? hfraction fun hmem => hpoint (hsuffix.subset hmem)
  split at htime
  · exact (nanos_of_wallTime? htime).imp_right And.right
  · cases htime

/-- A date that is written down to a unit begins at a whole second, or in a leap second if the unit
is the second. -/
def Whole : DateLiteral → Prop
  | wall t (some u) => t.nanos = 0 ∨ u = .second ∧ t.nanos = nanosPerSecond
  | _ => True

/-- A number was read to its end. -/
lemma whole_of_numberForm? : ∀ l, numberForm? cs = some l → l.Whole := by
  unfold numberForm?
  refine forall_ite (forall_bind fun _ _ => forall_bind fun _ _ => ?_)
    (forall_bind fun _ _ => forall_bind fun _ _ => ?_)
  · rintro l ⟨⟩
    exact .inl rfl
  · rintro l ⟨⟩
    trivial

/-- A time with an offset was read to its end. -/
lemma whole_of_offsetForm? : ∀ l, offsetForm? cs = some l → l.Whole := by
  have hinstant : ∀ {o : Option Instant}, ∀ l, o.map instant = some l → l.Whole := by
    intro o l hl
    obtain ⟨t, -, rfl⟩ := Option.map_eq_some_iff.1 hl
    trivial
  unfold offsetForm?
  repeat' first
    | exact hinstant
    | refine forall_bind fun _ _ => ?_
    | refine forall_ite ?_ ?_
    | split

/-- A time on the wall was read to its end. -/
lemma whole_of_wallTimeForm? : ∀ l, wallTimeForm? cs = some l → l.Whole := by
  intro l hl
  obtain ⟨form, hform, hl⟩ := List.exists_of_findSome?_eq_some hl
  obtain ⟨w, hw, rfl⟩ := Option.map_eq_some_iff.1 hl
  cases hprecision : form.precision cs with
  | none => trivial
  | some u =>
    -- Without a fraction, the unit is the second if there are seconds.
    have hplain : form.fraction = false →
        w.nanos = 0 ∨ u = .second ∧ w.nanos = nanosPerSecond := fun hfraction =>
      (nanos_of_ofForm? hfraction w hw).imp_right <| .imp_left fun hseconds => by
        rw [WallForm.precision, hseconds, hfraction] at hprecision
        exact (Option.some.inj hprecision).symm
    simp only [wallForms, List.mem_cons, List.not_mem_nil, or_false] at hform
    rcases hform with rfl | rfl | rfl | rfl
    · have hpoint : '.' ∉ cs := fun hmem => by
        rw [WallForm.precision, List.contains_iff_mem.2 hmem] at hprecision
        cases hprecision
      refine (nanos_of_ofForm?_fraction hpoint hw).imp_right fun h => ⟨?_, h⟩
      have hcontains : cs.contains '.' = false :=
        Bool.eq_false_iff.2 (mt List.contains_iff_mem.1 hpoint)
      rw [WallForm.precision, hcontains] at hprecision
      exact (Option.some.inj hprecision).symm
    · exact hplain rfl
    · exact hplain rfl
    · exact hplain rfl

/-- A day was read to its end. -/
lemma whole_of_dayForm? : ∀ l, dayForm? cs = some l → l.Whole := by
  intro l hl
  unfold dayForm? at hl
  split at hl
  · obtain rfl := Option.some.inj hl
    exact .inl rfl
  · cases hl

/-- A month was read to its end. -/
lemma whole_of_monthForm? : ∀ l, monthForm? cs = some l → l.Whole := by
  unfold monthForm?
  refine forall_bind fun _ _ => forall_ite
    (forall_bind fun _ _ => forall_bind fun _ _ => forall_bind fun _ _ => ?_) nofun
  rintro l ⟨⟩
  exact .inl rfl

/-- A date was read to its end. -/
theorem whole_of_parse? {l : DateLiteral} (h : parse? cs = some l) : l.Whole := by
  unfold parse? at h
  split at h
  · exact whole_of_numberForm? l h
  · obtain ⟨form, hform, hl⟩ := List.exists_of_findSome?_eq_some h
    simp only [List.mem_cons, List.not_mem_nil, or_false] at hform
    rcases hform with rfl | rfl | rfl | rfl
    · exact whole_of_offsetForm? l hl
    · exact whole_of_wallTimeForm? l hl
    · exact whole_of_dayForm? l hl
    · exact whole_of_monthForm? l hl

/-- **Dates that are written down to a unit** are whole seconds, or leap seconds if the unit is the
second, on a clock that keeps its distance from UTC. -/
theorem nanos_of_read {offset : Int} {text : String} {t : ZonedTime} {u : DateUnit}
    (h : read (.fixed offset) text = .ok (t, some u)) :
    t.instant.nanos = 0 ∨ u = .second ∧ t.instant.nanos = nanosPerSecond := by
  unfold read at h
  dsimp only at h
  split at h
  · rename_i l hl
    have hwhole := whole_of_parse? hl
    cases l with
    | instant t => cases h
    | wall w precision =>
      rw [resolve] at h
      split at h
      · cases h
      · rename_i x hx
        obtain ⟨rfl, rfl⟩ := Prod.mk.inj (Except.ok.inj h)
        obtain ⟨-, rfl⟩ := Zone.ofWall_fixed_iff.1 hx
        exact hwhole
  · cases h

end DateLiteral

end Sift
