import Sift.Unicode.Blank

/-!
# Cutting texts

Texts are cut at blanks of all scripts and at separators. The functions work on lists of
characters; those on strings are built from them.

## Main definitions

* `Sift.Text.trim`: a text without the blanks at its ends.
* `Sift.Text.words`: the runs of characters between blanks.
* `Sift.Text.splitOnce`: the parts before and after the first occurrence of a separator.
-/

set_option autoImplicit false

namespace Sift.Text

/-- The characters without the blanks at both ends. -/
def trimChars (cs : List Char) : List Char :=
  ((cs.dropWhile isBlank).reverse.dropWhile isBlank).reverse

/-- The text without the blanks at its ends. -/
def trim (s : String) : String := String.ofList (trimChars s.toList)

/-- Words of a text after the given characters of an unfinished word, last one first. -/
def wordsFrom : List Char → List Char → List (List Char)
  | [], [] => []
  | word, [] => [word.reverse]
  | word, c :: rest =>
    if isBlank c then
      if word.isEmpty then wordsFrom [] rest else word.reverse :: wordsFrom [] rest
    else wordsFrom (c :: word) rest

/-- The runs of characters between blanks. -/
def words (s : String) : List String := (wordsFrom [] s.toList).map String.ofList

/-- Drops a text from the front of another one. -/
def dropFront? : List Char → List Char → Option (List Char)
  | [], cs => some cs
  | _ :: _, [] => none
  | w :: ws, c :: cs => if w = c then dropFront? ws cs else none

/-- The parts before and after the first occurrence of a separator. -/
def splitOnce (separator : List Char) : List Char → Option (List Char × List Char)
  | [] => if separator.isEmpty then some ([], []) else none
  | c :: rest =>
    match dropFront? separator (c :: rest) with
    | some tail => some ([], tail)
    | none => (splitOnce separator rest).map fun (before, tail) => (c :: before, tail)

/-- Exactly what stands in front is dropped. -/
theorem dropFront?_eq_some_iff {ws cs rest : List Char} :
    dropFront? ws cs = some rest ↔ cs = ws ++ rest := by
  induction ws generalizing cs with
  | nil => simp [dropFront?, eq_comm]
  | cons w ws ih =>
    cases cs with
    | nil => simp [dropFront?]
    | cons c cs =>
      by_cases h : w = c
      · subst h; simp [dropFront?, ih]
      · simp [dropFront?, h, Ne.symm h]

/-- Splitting loses nothing but the separator. -/
theorem eq_of_splitOnce {sep cs before tail : List Char}
    (h : splitOnce sep cs = some (before, tail)) : cs = before ++ sep ++ tail := by
  induction cs generalizing before with
  | nil =>
    simp only [splitOnce] at h
    split at h
    · rename_i he
      simp_all
    · simp at h
  | cons c rest ih =>
    simp only [splitOnce] at h
    split at h
    · rename_i t ht
      have := dropFront?_eq_some_iff.1 ht
      simp_all
    · cases hr : splitOnce sep rest with
      | none => simp [hr] at h
      | some p =>
        obtain ⟨b, t⟩ := p
        simp only [hr, Option.map_some, Option.some.injEq, Prod.mk.injEq] at h
        obtain ⟨rfl, rfl⟩ := h
        simp [ih hr]

end Sift.Text
