import Mathlib.Data.List.Basic
import Mathlib.Algebra.Order.Field.Rat
import Mathlib.Tactic.Linarith
import Sift.Geo.Cell

/-!
# Names of cells

A name is read backwards: each character stands for the five digits of its place in the alphabet,
and the digits of all characters tell which halves to take, of the longitudes and of the latitudes
in turn. The stretches that are left are the cell of the name. The cell of a longer name lies in
that of each of its first parts, and the places of a cell are those that have its name.

A stretch holds its lower end, where the halves of a stretch meet. Its upper end belongs to the next
stretch, unless the axis ends there.

## Main definitions

* `Sift.nameSides`: the sides that a name spells.
* `Sift.Stretch.parts`: the stretches that are left when two are halved in turn.
* `Sift.cellOf`: the cell of a name.
* `Sift.CellHolds`: the coordinates in the cell of a name.

## Main results

* `Sift.nameSides_cellName`, `Sift.cellName_nameSides`: names and sides determine each other.
* `Sift.Stretch.sides_eq_iff`: the coordinates on the stretches that are left are those with the
  given sides.
* `Sift.GeoPoint.cell_eq_ok_iff`: the places with a name are those in its cell.
* `Sift.GeoPoint.exists_cell_eq`: cells have names of the right length, the first characters of a
  name are the name of a larger cell, and a place lies in the cell that its name stands for.
-/

set_option autoImplicit false

namespace Sift

/-- The sides that a character stands for: the digits of its place in the alphabet. -/
def charSides (c : Char) : List Bool := [4, 3, 2, 1, 0].map (cellAlphabet.idxOf c).testBit

/-- The sides that a name spells. -/
def nameSides (name : List Char) : List Bool := name.flatMap charSides

namespace Stretch

/-- The stretches that are left when two are halved in turn, the first one to begin with, and the
halves on the given sides are kept. -/
def parts (s t : Stretch) : List Bool → Stretch × Stretch
  | [] => (s, t)
  | b :: bs => (parts t (s.half b) bs).swap

/-- A stretch of an axis that ends at `last` holds a coordinate. -/
def Holds (s : Stretch) (last x : Rat) : Prop :=
  s.lower ≤ x ∧ (x < s.upper ∨ x = s.upper ∧ s.upper = last)

/-- A stretch of an axis that ends at `last` has a length. -/
def Proper (s : Stretch) (last : Rat) : Prop := s.lower < s.upper ∧ s.upper ≤ last

end Stretch

/-- The cell of a name: its longitudes and its latitudes. -/
def cellOf (name : List Char) : Stretch × Stretch :=
  Stretch.parts .longitudes .latitudes (nameSides name)

/-- The cell of a name holds a longitude and a latitude. -/
def CellHolds (name : List Char) (lon lat : Rat) : Prop :=
  (cellOf name).1.Holds Stretch.longitudes.upper lon ∧
    (cellOf name).2.Holds Stretch.latitudes.upper lat

namespace GeoPoint

/-- The coordinates of a place are degrees on the globe. -/
def OnGlobe (p : GeoPoint) : Prop :=
  (p.lat.isFinite = true ∧ -90 ≤ p.lat.value ∧ p.lat.value ≤ 90) ∧
    p.lon.isFinite = true ∧ -180 ≤ p.lon.value ∧ p.lon.value ≤ 180

instance (p : GeoPoint) : Decidable p.OnGlobe := inferInstanceAs (Decidable (_ ∧ _))

/-- The place in the alphabet of a character of the name of a place: the number with the five sides
of the character as its digits. -/
def charIndex (p : GeoPoint) (j : Nat) : Nat := ofSides ((p.sides (5 * (j + 1))).drop (5 * j))

end GeoPoint

/-! ## Characters -/

/-- There are 32 characters, as there are five sides for each. -/
lemma cellAlphabet_length : cellAlphabet.length = 32 := rfl

/-- Digits of a number below a power of two, the next one behind them. -/
lemma foldl_sides_lt (sides : List Bool) (n k : Nat) (hn : n < 2 ^ k) :
    sides.foldl (fun n b => 2 * n + b.toNat) n < 2 ^ (k + sides.length) := by
  induction sides generalizing n k with
  | nil => exact hn
  | cons b sides ih =>
    have hb := b.toNat_le
    have hstep : 2 * n + b.toNat < 2 ^ (k + 1) := by rw [pow_succ]; omega
    rw [List.foldl_cons, List.length_cons, Nat.add_comm sides.length, ← Nat.add_assoc]
    exact ih _ _ hstep

/-- So many sides are the digits of a number below this power of two. -/
lemma ofSides_lt (sides : List Bool) : ofSides sides < 2 ^ sides.length := by
  have h := foldl_sides_lt sides 0 0 Nat.one_pos
  rwa [Nat.zero_add] at h

/-- Five sides find their character in the alphabet. -/
lemma getElem?_ofSides {five : List Bool} (h : five.length = 5) :
    cellAlphabet[ofSides five]? = some (cellChar five) := by
  have hlt : ofSides five < cellAlphabet.length := by
    rw [cellAlphabet_length]
    exact (ofSides_lt five).trans_eq (congrArg (2 ^ ·) h)
  rw [cellChar, List.getElem?_eq_getElem hlt, Option.getD_some]

/-- A character for five sides says them. -/
lemma charSides_cellChar {five : List Bool} (h : five.length = 5) :
    charSides (cellChar five) = five := by
  have hall : ∀ a b c d e : Bool, charSides (cellChar [a, b, c, d, e]) = [a, b, c, d, e] := by
    decide
  match five, h with
  | [a, b, c, d, e], _ => exact hall a b c d e

/-- The sides of a character lead back to it. -/
lemma cellChar_charSides {c : Char} (h : c ∈ cellAlphabet) : cellChar (charSides c) = c := by
  have hall : (cellAlphabet.all fun c => cellChar (charSides c) == c) = true := by decide
  exact eq_of_beq (List.all_eq_true.1 hall c h)

/-! ## Names -/

/-- A name has the length that was asked for. -/
lemma cellName_length (n : Nat) (sides : List Bool) : (cellName n sides).length = n := by
  induction n generalizing sides with
  | zero => rfl
  | succ n ih => rw [cellName, List.length_cons, ih]

/-- A character of a name is that of its five sides. -/
lemma getElem?_cellName {n j : Nat} (h : j < n) (sides : List Bool) :
    (cellName n sides)[j]? = some (cellChar ((sides.drop (5 * j)).take 5)) := by
  induction n generalizing j sides with
  | zero => exact absurd h (Nat.not_lt_zero j)
  | succ n ih =>
    cases j with
    | zero => rw [cellName, List.getElem?_cons_zero, Nat.mul_zero, List.drop_zero]
    | succ j =>
      rw [cellName, List.getElem?_cons_succ, ih (Nat.lt_of_succ_lt_succ h), List.drop_drop,
        Nat.mul_succ, Nat.add_comm]

/-- The first characters of a name are those of the first sides. -/
lemma cellName_take {k n : Nat} (h : k ≤ n) (sides : List Bool) :
    (cellName n sides).take k = cellName k (sides.take (5 * k)) := by
  induction k generalizing n sides with
  | zero => rfl
  | succ k ih =>
    cases n with
    | zero => exact absurd h (Nat.not_succ_le_zero k)
    | succ n =>
      have hdrop : (sides.take (5 * (k + 1))).drop 5 = (sides.drop 5).take (5 * k) := by
        rw [List.drop_take, Nat.mul_succ, Nat.add_sub_cancel]
      rw [cellName, cellName, List.take_succ_cons, ih (Nat.le_of_succ_le_succ h), hdrop,
        List.take_take, Nat.min_eq_left (by omega)]

/-- **Names spell their sides.** -/
theorem nameSides_cellName {n : Nat} {sides : List Bool} (h : sides.length = 5 * n) :
    nameSides (cellName n sides) = sides := by
  induction n generalizing sides with
  | zero => exact (List.eq_nil_of_length_eq_zero h).symm
  | succ n ih =>
    have htake : (sides.take 5).length = 5 := by rw [List.length_take, h]; omega
    have hdrop : (sides.drop 5).length = 5 * n := by rw [List.length_drop, h]; omega
    have hcons : nameSides (cellName (n + 1) sides) =
        charSides (cellChar (sides.take 5)) ++ nameSides (cellName n (sides.drop 5)) :=
      List.flatMap_cons ..
    rw [hcons, charSides_cellChar htake, ih hdrop, List.take_append_drop]

/-- A character says five sides. -/
lemma charSides_length (c : Char) : (charSides c).length = 5 := rfl

/-- A name says five sides for each of its characters. -/
lemma nameSides_length (name : List Char) : (nameSides name).length = 5 * name.length := by
  induction name with
  | nil => rfl
  | cons c name ih =>
    rw [nameSides, List.flatMap_cons, List.length_append, charSides_length, List.length_cons]
    rw [nameSides] at ih
    omega

/-- **Sides are spelt by one name.** -/
theorem cellName_nameSides {name : List Char} (h : ∀ c ∈ name, c ∈ cellAlphabet) :
    cellName name.length (nameSides name) = name := by
  induction name with
  | nil => rfl
  | cons c name ih =>
    have hcons : nameSides (c :: name) = charSides c ++ nameSides name := List.flatMap_cons ..
    rw [List.length_cons, cellName, hcons, List.take_left' (charSides_length c),
      List.drop_left' (charSides_length c), cellChar_charSides (h c List.mem_cons_self),
      ih fun d hd => h d (List.mem_cons_of_mem c hd)]

namespace Stretch

variable {s t : Stretch} {x y : Double} {q lastX lastY : Rat}

/-! ## Halves -/

/-- A stretch is not cut at its lower end. -/
lemma lower_lt_middle (h : s.lower < s.upper) : s.lower < s.middle := by
  unfold middle
  linarith

/-- A stretch is not cut at its upper end. -/
lemma middle_lt_upper (h : s.lower < s.upper) : s.middle < s.upper := by
  unfold middle
  linarith

/-- The halves of a stretch that is proper are proper. -/
lemma Proper.half (h : s.Proper lastX) (b : Bool) : (s.half b).Proper lastX := by
  have hlow := lower_lt_middle h.1
  have hup := middle_lt_upper h.1
  cases b
  · exact ⟨hlow, hup.le.trans h.2⟩
  · exact ⟨hup, h.2⟩

/-- A half holds what the stretch holds on this side of the middle. -/
lemma holds_half_iff (h : s.Proper lastX) (b : Bool) :
    (s.half b).Holds lastX q ↔ s.Holds lastX q ∧ decide (s.middle ≤ q) = b := by
  have hlow := lower_lt_middle h.1
  have hup := middle_lt_upper h.1
  have hlast := h.2
  cases b with
  | false =>
    rw [decide_eq_false_iff_not, not_le]
    constructor
    · rintro ⟨hq, hlt | ⟨-, hend⟩⟩
      · exact ⟨⟨hq, .inl (lt_trans hlt hup)⟩, hlt⟩
      · exact absurd hend (lt_of_lt_of_le hup hlast).ne
    · rintro ⟨⟨hq, -⟩, hlt⟩
      exact ⟨hq, .inl hlt⟩
  | true =>
    rw [decide_eq_true_iff]
    constructor
    · rintro ⟨hq, hupper⟩
      exact ⟨⟨hlow.le.trans hq, hupper⟩, hq⟩
    · rintro ⟨⟨-, hupper⟩, hq⟩
      exact ⟨hq, hupper⟩

/-- The side of a finite coordinate tells which half holds it. -/
lemma holds_half_iff_side (h : s.Proper lastX) (hx : x.isFinite = true) (b : Bool) :
    (s.half b).Holds lastX x.value ↔ s.Holds lastX x.value ∧ s.side x = b := by
  have hside : s.side x = decide (s.middle ≤ x.value) := if_pos hx
  rw [holds_half_iff h, hside]

/-! ## Sides -/

/-- As many sides are taken as were asked for. -/
lemma sides_length (x y : Double) (s t : Stretch) (n : Nat) : (sides x y s t n).length = n := by
  induction n generalizing x y s t with
  | zero => rfl
  | succ n ih => rw [sides, List.length_cons, ih]

/-- The first sides do not depend on how many follow. -/
lemma sides_take (x y : Double) (s t : Stretch) {k n : Nat} (h : k ≤ n) :
    (sides x y s t n).take k = sides x y s t k := by
  induction n generalizing x y s t k with
  | zero => rw [Nat.le_zero.1 h]; rfl
  | succ n ih =>
    cases k with
    | zero => rfl
    | succ k => rw [sides, List.take_succ_cons, ih _ _ _ _ (Nat.le_of_succ_le_succ h), sides]

/-- What is left of two stretches lies in them. -/
lemma holds_of_parts {p q : Rat} (hs : s.Proper lastX) (ht : t.Proper lastY) (bs : List Bool)
    (h : (parts s t bs).1.Holds lastX p ∧ (parts s t bs).2.Holds lastY q) :
    s.Holds lastX p ∧ t.Holds lastY q := by
  induction bs generalizing s t lastX lastY p q with
  | nil => exact h
  | cons b bs ih =>
    obtain ⟨hy, hx⟩ := ih ht (hs.half b) h.symm
    exact ⟨((holds_half_iff hs b).1 hx).1, hy⟩

/-- What is left when more sides are kept lies in what is left when fewer are. -/
lemma holds_of_parts_append {p q : Rat} (hs : s.Proper lastX) (ht : t.Proper lastY)
    (bs cs : List Bool)
    (h : (parts s t (bs ++ cs)).1.Holds lastX p ∧ (parts s t (bs ++ cs)).2.Holds lastY q) :
    (parts s t bs).1.Holds lastX p ∧ (parts s t bs).2.Holds lastY q := by
  induction bs generalizing s t lastX lastY p q with
  | nil => exact holds_of_parts hs ht cs h
  | cons b bs ih => exact (ih ht (hs.half b) h.symm).symm

/-- **Halving by sides.** For two coordinates on their stretches, the stretches that are left when
given sides are kept hold the coordinates exactly if they lie on these sides.

**Proof sketch.** By induction on the sides. The first side decides which half holds the first
coordinate; the rest is the statement for the second stretch and this half. If the coordinate is on
the other side, then nothing of the half that is kept holds it. -/
theorem sides_eq_iff (hs : s.Proper lastX) (ht : t.Proper lastY) (hx : x.isFinite = true)
    (hy : y.isFinite = true) (hsx : s.Holds lastX x.value) (hty : t.Holds lastY y.value)
    (bs : List Bool) :
    sides x y s t bs.length = bs ↔
      (parts s t bs).1.Holds lastX x.value ∧ (parts s t bs).2.Holds lastY y.value := by
  induction bs generalizing s t x y lastX lastY with
  | nil => exact iff_of_true rfl ⟨hsx, hty⟩
  | cons b bs ih =>
    have hhalf := holds_half_iff_side hs hx b
    rw [List.length_cons, sides, List.cons.injEq]
    by_cases hb : s.side x = b
    · have hrest := ih ht (hs.half b) hy hx hty (hhalf.2 ⟨hsx, hb⟩)
      rw [hb]
      exact (and_iff_right rfl).trans (hrest.trans and_comm)
    · refine iff_of_false (fun h => hb h.1) fun h => ?_
      have hkept := (holds_of_parts ht (hs.half b) bs h.symm).2
      exact hb (hhalf.1 hkept).2

end Stretch

namespace GeoPoint

variable {p : GeoPoint}

/-! ## Cells -/

/-- A place has as many sides as were asked for. -/
lemma sides_length (p : GeoPoint) (n : Nat) : (p.sides n).length = n :=
  Stretch.sides_length ..

/-- Fewer sides are the first ones of more. -/
lemma sides_take (p : GeoPoint) {k n : Nat} (h : k ≤ n) : (p.sides n).take k = p.sides k :=
  Stretch.sides_take _ _ _ _ h

/-- The longitudes are cut at numbers that a double can say. -/
lemma longitudes_proper : Stretch.longitudes.Proper Stretch.longitudes.upper :=
  ⟨by decide +kernel, le_refl _⟩

/-- The latitudes are cut at numbers that a double can say. -/
lemma latitudes_proper : Stretch.latitudes.Proper Stretch.latitudes.upper :=
  ⟨by decide +kernel, le_refl _⟩

/-- The cell without a name is the whole globe. -/
lemma OnGlobe.cellHolds_nil (h : p.OnGlobe) : CellHolds [] p.lon.value p.lat.value :=
  ⟨⟨h.2.2.1, h.2.2.2.lt_or_eq.imp_right fun he => ⟨he, rfl⟩⟩,
    ⟨h.1.2.1, h.1.2.2.lt_or_eq.imp_right fun he => ⟨he, rfl⟩⟩⟩

/-- A place on the globe has the sides that a name spells exactly if it lies in the cell of the
name. -/
lemma sides_eq_iff_cellHolds (h : p.OnGlobe) (name : List Char) :
    p.sides (5 * name.length) = nameSides name ↔ CellHolds name p.lon.value p.lat.value := by
  have hglobe := h.cellHolds_nil
  have hiff := Stretch.sides_eq_iff longitudes_proper latitudes_proper h.2.1 h.1.1 hglobe.1
    hglobe.2 (nameSides name)
  rwa [nameSides_length] at hiff

/-- A place has a cell for every precision that is allowed. -/
lemma cell_eq_ok {n : Nat} (hpos : 0 < n) (hn : n ≤ maxCellPrecision) :
    p.cell n = .ok (String.ofList (cellName n (p.sides (5 * n)))) :=
  if_neg (not_or.2 ⟨hpos.ne', not_lt.2 hn⟩)

/-- **Cells are the places with their names.** A place on the globe has a name of characters of the
alphabet exactly if it lies in the cell of the name. -/
theorem cell_eq_ok_iff (h : p.OnGlobe) {name : List Char} (hname : ∀ c ∈ name, c ∈ cellAlphabet)
    (hpos : 0 < name.length) (hn : name.length ≤ maxCellPrecision) :
    p.cell name.length = .ok (String.ofList name) ↔ CellHolds name p.lon.value p.lat.value := by
  rw [cell_eq_ok hpos hn, Except.ok.injEq, String.ofList_inj, ← sides_eq_iff_cellHolds h]
  constructor
  · intro hcell
    have hsides := nameSides_cellName (p.sides_length (5 * name.length))
    rw [← hsides, hcell]
  · intro hsides
    rw [hsides, cellName_nameSides hname]

/-- **Nested cells.** The cell of a name lies in those of its first characters. -/
theorem cellHolds_take {name : List Char} {lon lat : Rat} (h : CellHolds name lon lat) (k : Nat) :
    CellHolds (name.take k) lon lat := by
  have happend : nameSides name = nameSides (name.take k) ++ nameSides (name.drop k) := by
    rw [nameSides, nameSides, nameSides, ← List.flatMap_append, List.take_append_drop]
  rw [CellHolds, cellOf, happend] at h
  exact Stretch.holds_of_parts_append longitudes_proper latitudes_proper _ _ h

/-- The five sides of a character of a name. -/
lemma drop_take_sides {n j : Nat} (h : j < n) (p : GeoPoint) :
    ((p.sides (5 * n)).drop (5 * j)).take 5 = (p.sides (5 * (j + 1))).drop (5 * j) := by
  have htake := p.sides_take (k := 5 * (j + 1)) (n := 5 * n) (by omega)
  rw [← htake, List.drop_take, Nat.mul_succ, Nat.add_sub_cancel_left]

/-- **Names of cells.** The name of a place of at most twelve characters has so many characters,
each of them that of the alphabet at the place that five sides spell, which is below 32. The first
characters of the name are the names of the place of fewer characters, and stand for larger cells
around it. If the coordinates are degrees on the globe, the place lies in the cell of its name.

**Proof sketch.** The sides on which the place lies are found one after another, so that fewer ones
are the first ones, and five at a time they are the characters. From the characters they are read
back, and what is left of the globe on these sides holds the place. -/
theorem exists_cell_eq {n : Nat} (hpos : 0 < n) (hn : n ≤ maxCellPrecision) (p : GeoPoint) :
    ∃ name : List Char, p.cell n = .ok (String.ofList name) ∧ name.length = n ∧
      (∀ j < n, p.charIndex j < 32 ∧ ∃ c, name[j]? = some c ∧
        cellAlphabet[p.charIndex j]? = some c) ∧
      (∀ k, 0 < k → k ≤ n → p.cell k = .ok (String.ofList (name.take k)) ∧
        ∀ lon lat : Rat, CellHolds name lon lat → CellHolds (name.take k) lon lat) ∧
      (p.OnGlobe → CellHolds name p.lon.value p.lat.value) := by
  refine ⟨cellName n (p.sides (5 * n)), cell_eq_ok hpos hn, cellName_length .., ?_, ?_, ?_⟩
  · intro j hj
    have hlength : ((p.sides (5 * (j + 1))).drop (5 * j)).length = 5 := by
      rw [List.length_drop, sides_length]
      omega
    have hindex : p.charIndex j < 2 ^ 5 := (ofSides_lt _).trans_eq (by rw [hlength])
    refine ⟨hindex, _, getElem?_cellName hj _, ?_⟩
    rw [drop_take_sides hj]
    exact getElem?_ofSides hlength
  · intro k hk hkn
    refine ⟨?_, fun lon lat h => cellHolds_take h k⟩
    rw [cell_eq_ok hk (hkn.trans hn), cellName_take hkn, p.sides_take (Nat.mul_le_mul_left 5 hkn)]
  · intro hglobe
    refine (sides_eq_iff_cellHolds hglobe _).1 ?_
    rw [cellName_length, nameSides_cellName (p.sides_length _)]

/-- A place in the north of Denmark. -/
def skagen : GeoPoint := ⟨.ofDecimal false 5764911 (-5), .ofDecimal false 1040744 (-5)⟩

/-- The name of eleven characters begins with that of five, and its cell holds the place. -/
theorem exists_cell_skagen_eq : skagen.cell 11 = .ok "u4pruydqqvj" ∧ skagen.cell 5 = .ok "u4pru" ∧
    skagen.OnGlobe ∧ CellHolds "u4pruydqqvj".toList skagen.lon.value skagen.lat.value := by
  obtain ⟨name, hcell, -, -, hfirst, hlies⟩ :=
    exists_cell_eq (n := 11) (by decide) (by decide) skagen
  have hname : skagen.cell 11 = .ok "u4pruydqqvj" := by decide +kernel
  have hglobe : skagen.OnGlobe := by decide +kernel
  have htoList : "u4pruydqqvj".toList = name := by
    rw [← String.toList_ofList (l := name), Except.ok.inj (hname.symm.trans hcell)]
  have hfive : skagen.cell 5 = .ok (String.ofList (name.take 5)) :=
    (hfirst 5 (by decide) (by decide)).1
  rw [← htoList] at hfive hlies
  exact ⟨hname, hfive, hglobe, hlies hglobe⟩

end GeoPoint

end Sift
