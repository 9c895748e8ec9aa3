import Sift.Proofs.RegexReadings

/-!
# Regular expressions in parentheses

An expression that stands in parentheses is read like the expression alone, as long as the reader
stops in front of the closing parenthesis. It does not have to: a closing parenthesis of the
expression itself may come first, and a comment at its end takes the parenthesis behind it.

## Main definitions

* `Sift.Regex.Reads`: what the reader takes from the front of a text, and what it leaves.

## Main results

* `Sift.Regex.Reads.suffix`: what is left is the end of the text.
* `Sift.Regex.Reads.exchange`: what follows a closing parenthesis in front of which the reader stops
  decides nothing, and the end of the text is as good as the parenthesis.
* `Sift.Regex.Reads.close`: a parenthesis behind an expression is not read, unless a comment at its
  end takes it.
* `Sift.Pattern.ofRegex?_anchored_of_reads`, `Sift.Pattern.reads_of_anchored`: when an expression
  between marks for the start and the end of a text is well formed, and what it is read as.
-/

set_option autoImplicit false

namespace Sift

namespace Regex

variable {whole t t' u u' : List Char}

namespace Abreast

/-- The second reading, too, is within the whole text. -/
theorem suffix (h : Abreast whole t t' u u') : u <:+ whole := by
  cases h with
  | ends _ hsuffix => exact hsuffix
  | cons _ hsuffix => exact hsuffix

/-- What is left of two texts that go on alike has the same front. -/
lemma exists_eq_append (h : Abreast whole t t' u u') :
    ∃ v s, u = v ++ t ∧ u' = v ++ s ∧ Ends t t' s ∧ (s ≠ t' → Commented whole) := by
  induction h with
  | @ends s h _ hcomment => exact ⟨[], s, rfl, rfl, h, hcomment⟩
  | cons c _ _ ih =>
    obtain ⟨v, s, rfl, rfl, h⟩ := ih
    exact ⟨c :: v, s, rfl, rfl, h⟩

/-- Two texts with the same front go on alike. -/
lemma append (h : Ends t t' t') (w : List Char) : Abreast (w ++ t) t t' (w ++ t) (w ++ t') := by
  have hwhole (v : List Char) (hsuffix : v ++ t <:+ w ++ t) :
      Abreast (w ++ t) t t' (v ++ t) (v ++ t') := by
    induction v with
    | nil => exact .ends h hsuffix fun hne => absurd rfl hne
    | cons c v ih => exact .cons c hsuffix (ih ((List.suffix_cons c _).trans hsuffix))
  exact hwhole w (List.suffix_refl _)

end Abreast

/-- From the front of a text the reader takes a choice, and it leaves the rest. -/
def Reads (cs : List Char) (n : Nested) (rest : List Char) : Prop :=
  ∃ flags names, alternatives? (2 * cs.length + 2) [] ⟨.initial, [], cs⟩ =
    some (n, ⟨flags, names, rest⟩)

variable {cs rest w v after : List Char} {n : Nested} {k k' : Nat} {s : State}

/-- More steps than it takes do not matter, and what is left is the end of the text. -/
lemma alternatives?_of_le (hk : 2 * cs.length + 2 ≤ k')
    (h : alternatives? k [] ⟨.initial, [], cs⟩ = some (n, s)) :
    alternatives? k' [] ⟨.initial, [], cs⟩ = some (n, s) ∧ s.rest <:+ cs := by
  have hsame := Abreast.append .same cs
  rw [List.append_nil] at hsame
  rcases (reads_agree cs [] [] k).2 hk hsame n s h with hlt | ⟨v', hv', hrest⟩
  · exact absurd hlt (Nat.not_lt_zero _)
  · obtain ⟨v, s', hv, rfl, hends, -⟩ := hrest.exists_eq_append
    cases hends
    rw [← hv] at hv'
    exact ⟨hv', hrest.suffix⟩

namespace Reads

/-- What alternatives read, with any fuel, can be read. -/
lemma of_alternatives? (h : alternatives? k [] ⟨.initial, [], cs⟩ = some (n, s)) :
    Reads cs n s.rest :=
  ⟨s.flags, s.names, (alternatives?_of_le (Nat.le_refl _) h).1⟩

/-- What can be read is read by alternatives, with enough fuel. -/
lemma alternatives? (h : Reads cs n rest) (hk : 2 * cs.length + 2 ≤ k) :
    ∃ flags names, Regex.alternatives? k [] ⟨.initial, [], cs⟩ =
      some (n, ⟨flags, names, rest⟩) := by
  obtain ⟨flags, names, h⟩ := h
  exact ⟨flags, names, (alternatives?_of_le hk h).1⟩

/-- Reading leaves an end of the text. -/
theorem suffix (h : Reads cs n rest) : rest <:+ cs := by
  obtain ⟨flags, names, h⟩ := h
  exact (alternatives?_of_le (Nat.le_refl _) h).2

/-- There is one way to read a text. -/
lemma unique {n' : Nested} {rest' : List Char} (h : Reads cs n rest) (h' : Reads cs n' rest') :
    n = n' ∧ rest = rest' := by
  obtain ⟨flags, names, h⟩ := h
  obtain ⟨flags', names', h'⟩ := h'
  rw [h] at h'
  cases h'
  exact ⟨rfl, rfl⟩

/-- **Exchanging what follows.** A reader that stops in front of a closing parenthesis, or earlier,
reads the same if something else follows the parenthesis, or if the text ends there. -/
theorem exchange (h : Reads (w ++ ')' :: after) n (v ++ ')' :: after))
    (hends : Ends (')' :: after) t' t') : Reads (w ++ t') n (v ++ t') := by
  obtain ⟨flags, names, h⟩ := h
  rcases (reads_agree _ _ t' _).2 (Nat.le_refl _) (.append hends w) n _ h with hlt | ⟨u', hu', hv⟩
  · rw [List.length_append] at hlt
    omega
  · obtain ⟨v', s, heq, rfl, hs, -⟩ := hv.exists_eq_append
    obtain rfl := List.append_cancel_right heq
    obtain rfl : s = t' := by cases hs <;> rfl
    exact ⟨flags, names, hu'⟩

/-- **Closing an expression.** A closing parenthesis behind an expression is not read as part of it,
unless the expression ends in a comment: then the parenthesis belongs to the comment. -/
theorem close (h : Reads w n []) :
    Reads (w ++ [')']) n [')'] ∨ Reads (w ++ [')']) n [] ∧ Commented w := by
  obtain ⟨flags, names, h⟩ := h
  have hadded := Abreast.append .added w
  rw [List.append_nil] at hadded
  rcases (reads_agree _ _ [')'] _).2 (Nat.le_refl _) hadded n _ h with hlt | ⟨u', hu', hv⟩
  · exact absurd hlt (Nat.not_lt_zero _)
  · obtain ⟨v, s, heq, rfl, hs, hcomment⟩ := hv.exists_eq_append
    obtain rfl : v = [] := by simpa using heq.symm
    cases hs with
    | added => exact .inl ⟨flags, names, hu'⟩
    | hidden => exact .inr ⟨⟨flags, names, hu'⟩, hcomment nofun⟩

end Reads

/-- A group that does not capture is read like what is in it. -/
lemma parts?_group_eq {fuel : Nat} {before : List Part} {names : List (List Char)}
    {rest : List Char} :
    parts? (fuel + 1) before ⟨.initial, names, '(' :: '?' :: ':' :: rest⟩ =
      match alternatives? fuel [] ⟨.initial, names, rest⟩ with
      | some (n, ⟨_, names, ')' :: tail⟩) =>
        parts? fuel (⟨⟨n.pattern, n.depth + 1⟩, true⟩ :: before) ⟨.initial, names, tail⟩
      | _ => none := by
  have hstart : groupStart? .initial ('?' :: ':' :: rest) =
      some (.group .initial false none, rest) := rfl
  have hskip : RegexFlags.initial.skip ('(' :: '?' :: ':' :: rest) = '(' :: '?' :: ':' :: rest :=
    rfl
  rw [parts?]
  simp only [hskip, hstart, Option.any_none, Option.toList_none, List.nil_append]
  rfl

end Regex

namespace Pattern

open Regex

variable {regex : String} {n : Nested} {p : Pattern}

/-- An expression that stands alone is read to its end and is not nested too deeply. -/
lemma ofRegex?_eq_some_iff {cs : List Char} :
    ofRegex? cs = some p ↔ ∃ n, Reads cs n [] ∧ n.depth ≤ maxDepth ∧ n.pattern = p := by
  constructor
  · intro h
    unfold ofRegex? at h
    split at h
    · rename_i n flags names heq
      split at h
      case isTrue hdepth => exact ⟨n, ⟨flags, names, heq⟩, hdepth, Option.some.inj h⟩
      case isFalse => cases h
    · cases h
  · rintro ⟨n, ⟨flags, names, h⟩, hdepth, rfl⟩
    simp only [ofRegex?, h, if_pos hdepth]

/-- An expression that is read up to the parenthesis behind it. -/
theorem ofRegex?_anchored_of_reads (h : Reads (regex.toList ++ [')', '$']) n [')', '$']) :
    ofRegex? (anchored regex) = if n.depth + 2 ≤ maxDepth then
      some (sequence [.look .start, n.pattern, .look .stop]) else none := by
  have hk : 2 * (regex.toList ++ [')', '$']).length + 2 ≤ 2 * regex.toList.length + 11 := by
    simp only [List.length_append, List.length_cons, List.length_nil]
    omega
  obtain ⟨flags, names, h⟩ := h.alternatives? hk
  exact ofRegex?_anchored h

/-- An expression between marks for the start and the end of a text is read up to a closing
parenthesis. -/
lemma exists_reads_of_anchored (h : ofRegex? (anchored regex) = some p) :
    ∃ n tail, Reads (regex.toList ++ [')', '$']) n (')' :: tail) := by
  obtain ⟨m, ⟨flags, names, h⟩, -, -⟩ := ofRegex?_eq_some_iff.1 h
  have hanchored : anchored regex = '^' :: '(' :: '?' :: ':' :: (regex.toList ++ [')', '$']) := rfl
  have hlength : 2 * (anchored regex).length + 2 = 2 * regex.toList.length + 11 + 3 := by
    simp [anchored]
    omega
  rw [hlength, hanchored, alternatives?] at h
  split at h
  · cases h
  rename_i hparts
  rw [parts?_atom rfl rfl, parts?_group_eq] at hparts
  split at hparts
  · rename_i n flags' names' tail hinner
    exact ⟨n, tail, .of_alternatives? hinner⟩
  · cases hparts

/-- **Expressions between marks.** If an expression between marks for the start and the end of a
text is well formed, it is itself an expression that is read up to the parenthesis behind it, or it
begins with one that a closing parenthesis of its own follows. -/
theorem reads_of_anchored (h : ofRegex? (anchored regex) = some p) :
    (∃ n, Reads regex.toList n [] ∧ Reads (regex.toList ++ [')', '$']) n [')', '$']) ∨
    ∃ q r n, regex.toList = q ++ ')' :: r ∧ Reads (q ++ [')']) n [')'] := by
  obtain ⟨n, tail, h⟩ := exists_reads_of_anchored h
  have hclosed (htail : ')' :: tail = [')', '$']) :
      ∃ n, Reads regex.toList n [] ∧ Reads (regex.toList ++ [')', '$']) n [')', '$'] := by
    rw [htail] at h
    have halone := Reads.exchange (v := []) h (.dropped ['$'])
    rw [List.append_nil] at halone
    exact ⟨n, halone, h⟩
  obtain ⟨q, hq⟩ := h.suffix
  rcases List.append_eq_append_iff.1 hq with ⟨r, hr, hend⟩ | ⟨r, -, hend⟩
  · cases r with
    | nil => exact .inl (hclosed hend)
    | cons c r =>
      obtain ⟨rfl, rfl⟩ := List.cons.inj hend
      rw [hr, List.append_assoc] at h
      exact .inr ⟨q, r, n, hr, Reads.exchange (v := []) h (.replaced _ [])⟩
  · -- Of the two characters behind the expression the first one is the parenthesis.
    match r, hend with
    | [], hend => exact .inl (hclosed hend.symm)
    | [_], hend => simp at hend
    | _ :: _ :: _, hend => simp at hend

end Pattern

end Sift
