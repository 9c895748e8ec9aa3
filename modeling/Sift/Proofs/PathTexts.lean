import Mathlib.Tactic.Lemma
import Mathlib.Tactic.SplitIfs
import Sift.Path.Evaluator

/-!
# Texts of field paths

A key can be written in a path if it has characters, and no dot or bracket among them. The path of
such a key, a dot and another path leads through the key first.

The whole path is handed through the reader for the sake of its messages. What is read does not
depend on it.

## Main definitions

* `Sift.Path.IsKey`: keys that can be written in a path.

## Main results

* `Sift.Path.parse_eq_ok_iff`: what is read of a path.
* `Sift.Path.parse_key_dot`: a key in front of a path.
-/

set_option autoImplicit false

namespace Sift.Path

/-- A key that can be written in a path. -/
def IsKey (k : String) : Prop := k ≠ "" ∧ ∀ c ∈ k.toList, c ≠ '.' ∧ c ≠ '['

-- The characters of the key are tried, not all characters.
instance (k : String) : Decidable (IsKey k) :=
  @instDecidableAnd _ _ _ (List.decidableBAll (fun c => c ≠ '.' ∧ c ≠ '[') k.toList)

variable {path path' : String} {key cs : List Char}

/-- A dot ends the key in front of it. -/
lemma scan_dot (key cs : List Char) :
    scan path key ('.' :: cs) = (scan path [] cs).map (pending key) := by
  rw [scan, if_pos rfl]

/-- The characters of a key are gathered. -/
lemma scan_key (hcs : ∀ c ∈ cs, c ≠ '.' ∧ c ≠ '[') (rest : List Char) :
    scan path key (cs ++ rest) = scan path (cs.reverse ++ key) rest := by
  induction cs generalizing key with
  | nil => rfl
  | cons c cs ih =>
    obtain ⟨hc, hcs⟩ := List.forall_mem_cons.1 hcs
    rw [List.cons_append, scan, if_neg hc.1, if_neg hc.2, ih hcs, List.reverse_cons,
      List.append_assoc, List.singleton_append]

/-- The gathered characters of a key make a segment. -/
lemma pending_key {k : String} (hk : IsKey k) (rest : List Segment) :
    pending k.toList.reverse rest = .key k :: rest := by
  have hne : k.toList.reverse ≠ [] := fun h =>
    hk.1 (String.toList_inj.1 (List.reverse_eq_nil_iff.1 h))
  rw [pending, if_neg (mt List.isEmpty_iff.1 hne), List.reverse_reverse, String.ofList_toList]

/-- Except for messages the path as a whole does not matter, neither outside of brackets nor
inside of them. -/
lemma scan_toOption (path path' : String) (cs : List Char) :
    (∀ key, (scan path key cs).toOption = (scan path' key cs).toOption) ∧
      ∀ digits, (scanIndex path digits cs).toOption = (scanIndex path' digits cs).toOption := by
  have hmap : ∀ {x y : Except PathError (List Segment)} (f : List Segment → List Segment),
      x.toOption = y.toOption → (x.map f).toOption = (y.map f).toOption := by
    intro x y f h
    cases x <;> cases y <;> cases h <;> rfl
  induction cs with
  | nil => exact ⟨fun _ => rfl, fun _ => rfl⟩
  | cons c rest ih =>
    obtain ⟨ihScan, ihIndex⟩ := ih
    constructor
    · intro key
      rw [scan, scan]
      split_ifs
      · exact hmap _ (ihScan [])
      · exact hmap _ (ihIndex [])
      · exact ihScan (c :: key)
    · intro digits
      rw [scanIndex, scanIndex]
      split_ifs
      · cases Numeral.nat? maxIndex (Text.trimChars digits.reverse) with
        | none => rfl
        | some n => exact hmap _ (ihScan [])
      · exact ihIndex (c :: digits)

/-- The whole path matters for the text of errors only. -/
lemma scan_eq_ok (path' : String) {segments : List Segment}
    (h : scan path key cs = .ok segments) : scan path' key cs = .ok segments := by
  have hsame := (scan_toOption path path' cs).1 key
  rw [h] at hsame
  cases hscan : scan path' key cs with
  | error e => rw [hscan] at hsame; cases hsame
  | ok segments' => rw [hscan] at hsame; cases hsame; rfl

/-- What is read of a path is what its characters are scanned as, if it has segments. -/
theorem parse_eq_ok_iff (path : String) {q : String} {segments : List Segment} :
    parse q = .ok segments ↔ scan path [] q.toList = .ok segments ∧ segments ≠ [] := by
  have hscan : scan q [] q.toList = .ok segments ↔ scan path [] q.toList = .ok segments :=
    ⟨scan_eq_ok path, scan_eq_ok q⟩
  rw [← hscan]
  unfold parse
  split
  · rename_i hnone
    rw [hnone]
    exact iff_of_false nofun fun ⟨hsegments, hne⟩ => hne (Except.ok.inj hsegments).symm
  · rename_i hsome
    exact ⟨fun h => ⟨h, fun hnil => hsome (hnil ▸ h)⟩, And.left⟩

/-- A path has segments. -/
lemma ne_nil_of_parse {q : String} {segments : List Segment} (h : parse q = .ok segments) :
    segments ≠ [] :=
  ((parse_eq_ok_iff q).1 h).2

/-- **A key in front of a path.** A key, a dot and a path lead through the key and then where the
path leads. -/
theorem parse_key_dot {k q : String} {segments : List Segment} (hk : IsKey k)
    (hq : parse q = .ok segments) : parse (k ++ "." ++ q) = .ok (.key k :: segments) := by
  obtain ⟨hscan, -⟩ := (parse_eq_ok_iff "").1 hq
  have htext : (k ++ "." ++ q).toList = k.toList ++ '.' :: q.toList := by
    rw [String.toList_append, String.toList_append, List.append_assoc]
    rfl
  refine (parse_eq_ok_iff "").2 ⟨?_, List.cons_ne_nil _ _⟩
  rw [htext, scan_key hk.2, List.append_nil, scan_dot, hscan, ← pending_key hk]
  rfl

end Sift.Path
