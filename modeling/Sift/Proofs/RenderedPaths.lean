import Mathlib.Logic.Relation
import Sift.Proofs.NumberTexts
import Sift.Proofs.PathTexts

/-!
# Rendered paths

The path of segments leads through these segments, in their order: every key ends at the dot or
bracket behind it, or with the path, and the digits of an index are the index.

Dots only separate. A dot at an end of a path, next to another dot or next to the brackets of an
index does not matter; a dot inside of brackets is no such dot.

## Main definitions

* `Sift.Segment.IsWritable`: segments that can be written in a path.
* `Sift.Path.isInside`: whether a text ends inside of brackets.
* `Sift.Path.ExtraDot`: one dot more.
* `Sift.Path.SameButDots`: paths that differ by such dots.

## Main results

* `Sift.Path.scan_renderTail`: what the path of segments is read as.
* `Sift.Path.scan_eq_of_extraDot`: one dot more changes nothing.
* `Sift.Path.parse_render_and_dots`: paths are read as what they were rendered from, and dots that
  separate nothing do not matter.
-/

set_option autoImplicit false

namespace Sift

/-- A segment that can be written in a path. -/
def Segment.IsWritable : Segment → Prop
  | .key k => Path.IsKey k
  | .index n => n ≤ Path.maxIndex

instance : DecidablePred Segment.IsWritable
  | .key k => inferInstanceAs (Decidable (Path.IsKey k))
  | .index n => inferInstanceAs (Decidable (n ≤ Path.maxIndex))

namespace Path

variable {path : String} {cs cs' : List Char}

/-! ## Rendered segments -/

/-- A bracket ends the key in front of it and begins an index. -/
lemma scan_bracket (key cs : List Char) :
    scan path key ('[' :: cs) = (scanIndex path [] cs).map (pending key) := by
  rw [scan, if_neg (by decide), if_pos rfl]

/-- The digits of an index are read as the index. -/
lemma nat?_decimalDigits {n : Nat} (h : n ≤ maxIndex) :
    Numeral.nat? maxIndex (Text.trimChars (decimalDigits n)) = some n := by
  have htrim : Text.trimChars (decimalDigits n) = decimalDigits n :=
    Text.trimChars_eq_self fun c hc =>
      Numeral.not_isBlank_of_isDigit (Numeral.isDigit_of_mem_decimalDigits hc)
  have hdigits : Numeral.digits? (decimalDigits n) = some _ :=
    Numeral.digits?_eq_some Nat.toDigits_ne_nil fun _ => Numeral.isDigit_of_mem_decimalDigits
  rw [Numeral.ofDigits_decimalDigits] at hdigits
  rw [htrim]
  unfold Numeral.nat?
  split
  · rename_i rest hplus
    have hmem : '+' ∈ decimalDigits n := hplus ▸ List.mem_cons_self
    exact absurd (Numeral.isDigit_of_mem_decimalDigits hmem) (by decide)
  · dsimp only
    rw [hdigits]
    exact if_pos h

/-- Brackets are read up to the first one that closes. -/
lemma scanIndex_digits (hcs : ∀ c ∈ cs, c ≠ ']') (digits rest : List Char) :
    scanIndex path digits (cs ++ rest) = scanIndex path (cs.reverse ++ digits) rest := by
  induction cs generalizing digits with
  | nil => rfl
  | cons c cs ih =>
    obtain ⟨hc, hcs⟩ := List.forall_mem_cons.1 hcs
    rw [List.cons_append, scanIndex, if_neg hc, ih hcs, List.reverse_cons, List.append_assoc,
      List.singleton_append]

/-- An index in brackets is read as a segment. -/
lemma scan_index {n : Nat} (h : n ≤ maxIndex) (key rest : List Char) :
    scan path key ('[' :: decimalDigits n ++ ']' :: rest) =
      (scan path [] rest).map fun segments => pending key (.index n :: segments) := by
  have hclose : ∀ c ∈ decimalDigits n, c ≠ ']' := by
    rintro c hc rfl
    exact absurd (Numeral.isDigit_of_mem_decimalDigits hc) (by decide)
  rw [List.cons_append, scan_bracket, scanIndex_digits hclose, List.append_nil, scanIndex,
    if_pos rfl, List.reverse_reverse, nat?_decimalDigits h]
  dsimp only
  cases scan path [] rest <;> rfl

/-- What is read behind a key are the segments that were rendered. -/
theorem scan_renderTail {segments : List Segment} (h : ∀ s ∈ segments, s.IsWritable)
    (key : List Char) :
    scan path key (renderTail segments).toList = .ok (pending key segments) := by
  induction segments generalizing key with
  | nil => rfl
  | cons s rest ih =>
    obtain ⟨hs, hrest⟩ := List.forall_mem_cons.1 h
    specialize ih hrest
    cases s with
    | key k =>
      have htext : (renderTail (.key k :: rest)).toList =
          '.' :: (k.toList ++ (renderTail rest).toList) := by
        rw [renderTail, String.toList_append, String.toList_append]
        rfl
      rw [htext, scan_dot, scan_key hs.2, ih, List.append_nil, pending_key hs]
      rfl
    | index n =>
      have hdigits : (toString n).toList = decimalDigits n := Nat.toList_repr
      have htext : (renderTail (.index n :: rest)).toList =
          '[' :: decimalDigits n ++ ']' :: (renderTail rest).toList := by
        rw [renderTail, String.toList_append, String.toList_append, String.toList_append,
          hdigits, List.append_assoc]
        rfl
      rw [htext, scan_index hs, ih]
      rfl

/-- **Rendered segments are read back.** -/
theorem parse_render {segments : List Segment} (hne : segments ≠ [])
    (h : ∀ s ∈ segments, s.IsWritable) : parse (render segments) = .ok segments := by
  refine (parse_eq_ok_iff "").2 ⟨?_, hne⟩
  cases segments with
  | nil => exact absurd rfl hne
  | cons s rest =>
    cases s with
    | key k =>
      obtain ⟨hk, hrest⟩ := List.forall_mem_cons.1 h
      rw [render, String.toList_append, scan_key hk.2, List.append_nil, scan_renderTail hrest,
        pending_key hk]
    | index n => exact scan_renderTail h []

/-! ## Dots that separate nothing -/

/-- Whether a text ends inside of brackets, if it starts inside or outside of them. -/
def isInside : Bool → List Char → Bool
  | inside, [] => inside
  | false, c :: rest => isInside (c == '[') rest
  | true, c :: rest => isInside (c != ']') rest

/-- One dot more outside of brackets, where it separates no keys. -/
inductive ExtraDot : List Char → List Char → Prop where
  /-- In front of the path. -/
  | leading (cs : List Char) : ExtraDot cs ('.' :: cs)
  /-- Behind the path. -/
  | trailing (cs : List Char) (h : isInside false cs = false) : ExtraDot cs (cs ++ ['.'])
  /-- Next to another dot. -/
  | repeated (before : List Char) (h : isInside false before = false) (behind : List Char) :
      ExtraDot (before ++ '.' :: behind) (before ++ '.' :: '.' :: behind)
  /-- In front of an index. -/
  | beforeIndex (before : List Char) (h : isInside false before = false) (behind : List Char) :
      ExtraDot (before ++ '[' :: behind) (before ++ '.' :: '[' :: behind)
  /-- Behind an index. -/
  | behindIndex (before : List Char) (h : isInside false before = true) (behind : List Char) :
      ExtraDot (before ++ ']' :: behind) (before ++ ']' :: '.' :: behind)

/-- Paths that differ by such dots only. -/
def SameButDots (p q : String) : Prop := Relation.EqvGen ExtraDot p.toList q.toList

/-- Texts that are read alike inside or outside of brackets, whatever stands in front of them. -/
def ReadAlike (path : String) : Bool → List Char → List Char → Prop
  | false, cs, cs' => ∀ key, scan path key cs = scan path key cs'
  | true, cs, cs' => ∀ digits, scanIndex path digits cs = scanIndex path digits cs'

/-- Without a key nothing is added to what stands behind it. -/
lemma map_pending_nil (o : Except PathError (List Segment)) : o.map (pending []) = o := by
  cases o <;> rfl

/-- Behind the same text, texts that are read alike are still read alike. -/
lemma ReadAlike.append {inside : Bool} {before : List Char}
    (h : ReadAlike path (isInside inside before) cs cs') :
    ReadAlike path inside (before ++ cs) (before ++ cs') := by
  induction before generalizing inside with
  | nil => exact h
  | cons c rest ih =>
    cases inside with
    | false =>
      rw [isInside] at h
      intro key
      by_cases hopen : c = '['
      · rw [beq_iff_eq.2 hopen] at h
        have hbehind := ih h []
        rw [hopen, List.cons_append, List.cons_append, scan_bracket, scan_bracket, hbehind]
      · rw [beq_eq_false_iff_ne.2 hopen] at h
        have hbehind : ∀ key, scan path key (rest ++ cs) = scan path key (rest ++ cs') := ih h
        rw [List.cons_append, List.cons_append, scan, scan, if_neg hopen, if_neg hopen, hbehind,
          hbehind]
    | true =>
      rw [isInside] at h
      intro digits
      rw [List.cons_append, List.cons_append, scanIndex, scanIndex]
      by_cases hclose : c = ']'
      · rw [bne_eq_false_iff_eq.2 hclose] at h
        have hbehind : ∀ key, scan path key (rest ++ cs) = scan path key (rest ++ cs') := ih h
        rw [if_pos hclose, if_pos hclose, hbehind]
      · rw [bne_iff_ne.2 hclose] at h
        have hbehind := ih h (c :: digits)
        rw [if_neg hclose, if_neg hclose, hbehind]

/-- Texts that are read alike may stand for each other behind the beginning of a path. -/
lemma ReadAlike.scan_append {inside : Bool} {before : List Char}
    (hbefore : isInside false before = inside) (h : ReadAlike path inside cs cs') :
    scan path [] (before ++ cs) = scan path [] (before ++ cs') := by
  subst hbefore
  exact h.append []

/-- **One dot more changes nothing.** -/
theorem scan_eq_of_extraDot (path : String) (h : ExtraDot cs cs') :
    scan path [] cs = scan path [] cs' := by
  cases h with
  | leading cs => rw [scan_dot, map_pending_nil]
  | trailing cs h =>
    have halike : ReadAlike path false [] ['.'] := fun key => rfl
    have hbehind := halike.scan_append h
    rwa [List.append_nil] at hbehind
  | repeated before h behind =>
    have halike : ReadAlike path false ('.' :: behind) ('.' :: '.' :: behind) := fun key => by
      rw [scan_dot, scan_dot, scan_dot, map_pending_nil]
    exact halike.scan_append h
  | beforeIndex before h behind =>
    have halike : ReadAlike path false ('[' :: behind) ('.' :: '[' :: behind) := fun key => by
      rw [scan_dot, scan_bracket, scan_bracket, map_pending_nil]
    exact halike.scan_append h
  | behindIndex before h behind =>
    have halike : ReadAlike path true (']' :: behind) (']' :: '.' :: behind) := fun digits => by
      rw [scanIndex, scanIndex, if_pos rfl, if_pos rfl, scan_dot, map_pending_nil]
    exact halike.scan_append h

/-- Any number of such dots, more or less, changes nothing. -/
lemma scan_eq_of_eqvGen (path : String) (h : Relation.EqvGen ExtraDot cs cs') :
    scan path [] cs = scan path [] cs' := by
  induction h with
  | rel cs cs' hdot => exact scan_eq_of_extraDot path hdot
  | refl cs => rfl
  | symm cs cs' _ ih => exact ih.symm
  | trans cs cs' cs'' _ _ ih ih' => exact ih.trans ih'

/-- Paths that differ by dots that separate nothing are read as the same segments. -/
lemma parse_eq_ok_of_sameButDots {p q : String} (h : SameButDots p q)
    (segments : List Segment) : parse p = .ok segments ↔ parse q = .ok segments := by
  rw [parse_eq_ok_iff "", parse_eq_ok_iff "", scan_eq_of_eqvGen "" h]

/-- **Paths are read as what they were rendered from.** Segments that can be written, of which
there is at least one, are what their path is read as. Paths that differ only by dots at their
ends, next to other dots or next to indexes, outside of brackets, are read as the same segments, or
none of them is a path. -/
theorem parse_render_and_dots :
    (∀ segments : List Segment, segments ≠ [] → (∀ s ∈ segments, s.IsWritable) →
      parse (render segments) = .ok segments) ∧
    ∀ p q : String, SameButDots p q →
      ∀ segments, parse p = .ok segments ↔ parse q = .ok segments :=
  ⟨fun _ => parse_render, fun _ _ => parse_eq_ok_of_sameButDots⟩

/-- A key with a closing bracket in front of the greatest index, and the same path with dots that
separate nothing. -/
theorem parse_greatest_index :
    parse "a]b.owner[18446744073709551615]" =
        .ok [.key "a]b", .key "owner", .index 18446744073709551615] ∧
      SameButDots "a]b.owner[18446744073709551615]" ".a]b..owner[18446744073709551615]" ∧
      parse ".a]b..owner[18446744073709551615]" =
        .ok [.key "a]b", .key "owner", .index 18446744073709551615] := by
  have hrendered : parse "a]b.owner[18446744073709551615]" =
      .ok [.key "a]b", .key "owner", .index 18446744073709551615] :=
    parse_render_and_dots.1 [.key "a]b", .key "owner", .index 18446744073709551615]
      (List.cons_ne_nil _ _) (by decide)
  have hdots : SameButDots "a]b.owner[18446744073709551615]"
      ".a]b..owner[18446744073709551615]" :=
    .trans _ _ _ (.rel _ _ (.repeated "a]b".toList (by decide) _))
      (.rel _ _ (.leading _))
  exact ⟨hrendered, hdots, (parse_render_and_dots.2 _ _ hdots _).1 hrendered⟩

end Path

end Sift
