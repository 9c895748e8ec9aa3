import Mathlib.Data.String.Basic
import Mathlib.Tactic.Lemma

/-!
# Texts in byte order

Texts are compared character by character. As UTF-8 was designed for it, this is the order of their
bytes: longer forms start with larger bytes, and forms of one length have the digits of their
characters in the order of weight.

## Main definitions

* `Sift.Text.utf8`: the bytes of a text.

## Main results

* `Sift.Text.lt_iff_utf8_lt`: the order of texts is the order of their bytes.
-/

set_option autoImplicit false

namespace Sift.Text

/-- The bytes of a text in UTF-8. -/
def utf8 (s : String) : List UInt8 := s.toUTF8.data.toList

/-- A text is encoded one character after the other. -/
lemma utf8_eq_flatMap (s : String) : utf8 s = s.toList.flatMap String.utf8EncodeChar := by
  unfold utf8
  rw [String.toUTF8, ← String.utf8Encode_toList, List.utf8Encode, List.data_toByteArray]

/-- Of two numbers the larger one is larger in the first digit where they differ. -/
lemma div_lt_or_mod_lt {m n : Nat} (h : m < n) :
    m / 64 < n / 64 ∨ m / 64 = n / 64 ∧ m % 64 < n % 64 := by
  omega

/-- A smaller character is written as smaller bytes, whatever follows. -/
lemma utf8EncodeChar_lt {c d : Char} (h : c < d) (as bs : List UInt8) :
    String.utf8EncodeChar c ++ as < String.utf8EncodeChar d ++ bs := by
  have hlt : c.val.toNat < d.val.toNat := h
  have hd : d.val.toNat < 1114112 := by
    rcases d.valid with hd | hd
    · omega
    · omega
  have hlast := div_lt_or_mod_lt hlt
  have hmiddle := @div_lt_or_mod_lt (c.val.toNat / 64) (d.val.toNat / 64)
  have hfirst := @div_lt_or_mod_lt (c.val.toNat / 64 / 64) (d.val.toNat / 64 / 64)
  simp only [Nat.div_div_eq_div_mul, Nat.reduceMul] at hmiddle hfirst
  unfold String.utf8EncodeChar
  -- One case for each pair of lengths; the first byte decides between different lengths.
  dsimp only
  split_ifs <;>
    simp (disch := omega) only [List.cons_append, List.nil_append, List.cons_lt_cons_iff,
      UInt8.lt_iff_toNat_lt, ← UInt8.toNat_inj, UInt8.toNat_ofNat', Nat.reducePow,
      Nat.mod_eq_of_lt] <;>
    omega

/-- The bytes of a smaller text are smaller. -/
lemma flatMap_utf8EncodeChar_lt {cs ds : List Char} (h : cs < ds) :
    cs.flatMap String.utf8EncodeChar < ds.flatMap String.utf8EncodeChar := by
  induction cs generalizing ds with
  | nil =>
    cases ds with
    | nil => exact absurd h (List.lt_irrefl _)
    | cons d ds =>
      have hne : String.utf8EncodeChar d ≠ [] := String.utf8EncodeChar_ne_nil
      rw [List.flatMap_cons, List.flatMap_nil]
      cases hbytes : String.utf8EncodeChar d with
      | nil => exact absurd hbytes hne
      | cons b bs => exact List.nil_lt_cons b _
  | cons c cs ih =>
    cases ds with
    | nil => exact absurd h (List.not_lt_nil _)
    | cons d ds =>
      rw [List.flatMap_cons, List.flatMap_cons]
      rcases List.cons_lt_cons_iff.1 h with hlt | ⟨rfl, hlt⟩
      · apply utf8EncodeChar_lt hlt
      · apply List.append_left_lt
        exact ih hlt

/-- **The order of texts is the order of their bytes.** -/
theorem lt_iff_utf8_lt {s t : String} : s < t ↔ utf8 s < utf8 t := by
  rw [utf8_eq_flatMap, utf8_eq_flatMap]
  constructor
  · intro h
    exact flatMap_utf8EncodeChar_lt (String.lt_iff.1 h)
  · intro h
    rcases lt_trichotomy s t with hlt | rfl | hgt
    · exact hlt
    · exact absurd h (List.lt_irrefl _)
    · exact absurd (flatMap_utf8EncodeChar_lt (String.lt_iff.1 hgt)) (List.lt_asymm h)

end Sift.Text
