import Sift.Proofs.Decoration

/-!
# Three ways to read

What a query selects can be searched for page by page, counted, or asked for its first record. A
vocabulary rewrites the query on each of the three ways by itself, and a store counts and finds by
searches with other limits. However many vocabularies there are, the three ways still tell the same
about the same query.

## Main definitions

* `Sift.SearchRequest.pageOf`: the request for a page of what a query selects.
* `Sift.Backend.ReadsAgree`: a backend on which the three ways agree.
* `Sift.Vocabulary.stack`: a backend behind several vocabularies.

## Main results

* `Sift.Store.readsAgree_backend`: the three ways agree on a store.
* `Sift.Vocabulary.readsAgree_decorate`: a vocabulary keeps them in agreement.
* `Sift.Vocabulary.reads_of_stack`: they agree behind any number of vocabularies.
-/

set_option autoImplicit false

namespace Sift

/-- The request for a page of the records that a query selects, with nothing else asked for. -/
def SearchRequest.pageOf (q : Query) (offset limit : Nat) : SearchRequest :=
  { query := some q, offset := offset, limit := limit }

/-- A count is the total of every page, and the first record is the first one of every page that
starts at the front and has room for a record. -/
structure Backend.ReadsAgree {S T : Type} (b : Backend (StateM S) T) : Prop where
  /-- The count is the total of every page. -/
  count_eq (q : Query) (offset limit : Nat) (s : S) :
    b.count q s = ((b.search (.pageOf q offset limit) s).1.map SearchResult.totalItems, s)
  /-- The first record is the first of a page. -/
  findOne_eq (q : Query) (limit : Nat) (s : S) :
    b.findOne q s =
      ((b.search (.pageOf q 0 (limit + 1)) s).1.map fun x => x.itemsOrEmpty.head?, s)
  /-- There is no first record exactly if there are none. -/
  findOne_eq_none_iff (q : Query) (s : S) :
    (b.findOne q s).1 = .ok none ↔ (b.count q s).1 = .ok 0

/-! ## On a store -/

section Store

variable {R : Type} [Environment] (E : Evaluator R) (now : Instant)

/-- A page of what a query selects has the records that match the query. -/
lemma Store.search_pageOf (s : Store R) (q : Query) (offset limit : Nat) :
    s.search E now (.pageOf q offset limit) = (s.matching E now q).map fun ms =>
      resultOf E (.pageOf q offset limit) [] ms := by
  have hquery : (SearchRequest.pageOf q offset limit).query.getD .matchAll = q := rfl
  rw [search, hquery]
  cases s.matching E now q with
  | error e => rfl
  | ok ms => rfl

omit [Environment] in
/-- The first record of a page at the front does not depend on the length of the page. -/
lemma Store.head?_items_resultOf (q : Query) (limit : Nat) (rs : List R) :
    (resultOf E (.pageOf q 0 (limit + 1)) [] rs).itemsOrEmpty.head? = rs.head? := by
  show (rs.take (limit + 1)).head? = _
  cases rs with
  | nil => rfl
  | cons x xs => rfl

/-- A store counts what a query selects by a page without room. -/
lemma Store.count_backend (q : Query) (s : Store R) :
    (Store.backend E now).count q s =
      ((s.search E now (.pageOf q 0 0)).map SearchResult.totalItems, s) := rfl

/-- A store finds the first record that a query selects by a page with room for one. -/
lemma Store.findOne_backend (q : Query) (s : Store R) :
    (Store.backend E now).findOne q s =
      ((s.search E now (.pageOf q 0 1)).map fun x => x.itemsOrEmpty.head?, s) := rfl

/-- On a store the count and the first record come from searches with the limits zero and one, and
neither limit matters for them. -/
theorem Store.readsAgree_backend : (Store.backend E now).ReadsAgree where
  count_eq q offset limit s := by
    show _ = ((s.search E now (.pageOf q offset limit)).map SearchResult.totalItems, s)
    rw [count_backend, search_pageOf, search_pageOf]
    cases s.matching E now q <;> rfl
  findOne_eq q limit s := by
    show _ = ((s.search E now (.pageOf q 0 (limit + 1))).map
      fun x => x.itemsOrEmpty.head?, s)
    rw [findOne_backend, search_pageOf, search_pageOf]
    cases s.matching E now q with
    | error e => rfl
    | ok ms =>
      simp only [Except.map]
      rw [head?_items_resultOf, head?_items_resultOf]
  findOne_eq_none_iff q s := by
    rw [count_backend, findOne_backend, search_pageOf, search_pageOf]
    cases s.matching E now q with
    | error e => simp [Except.map]
    | ok ms =>
      simp only [Except.map, Except.ok.injEq]
      rw [head?_items_resultOf, List.head?_eq_none_iff, ← List.length_eq_zero_iff]
      rfl

end Store

/-! ## Behind a vocabulary -/

namespace Vocabulary

variable {S T : Type} (v : Vocabulary) {b : Backend (StateM S) T}

/-- A page is sent as the same page of what is sent for the query. -/
lemma request_pageOf (q : Query) (offset limit : Nat) :
    v.request (.pageOf q offset limit) =
      (v.query none q).map fun sent => .pageOf sent offset limit := by
  have hquery : (SearchRequest.pageOf q offset limit).query.mapM
      (v.query (SearchRequest.pageOf q offset limit).timeZone?) = (v.query none q).map some :=
    Option.mapM_some q (v.query none)
  rw [request, hquery]
  cases v.query none q with
  | error e => rfl
  | ok sent => rfl

/-- A page behind a vocabulary is a page of what is sent for the query, in the words of the
caller. -/
lemma search_pageOf (q : Query) (offset limit : Nat) :
    (v.decorate b).search (.pageOf q offset limit) =
      match v.query none q with
      | .error e => pure (.error e)
      | .ok sent =>
        (fun answer => answer.map (v.restore (.pageOf q offset limit))) <$>
          b.search (.pageOf sent offset limit) := by
  show v.searchWith b.search _ = _
  rw [searchWith, request_pageOf]
  cases v.query none q <;> rfl

/-- **One more vocabulary.** What is restored in a page is neither its total nor its records, so
that the three ways agree behind a vocabulary if they agree without it. -/
theorem readsAgree_decorate (h : b.ReadsAgree) : (v.decorate b).ReadsAgree where
  count_eq q offset limit s := by
    rw [search_pageOf]
    show v.askWith b.count q s = _
    rw [askWith]
    cases v.query none q with
    | error e => rfl
    | ok sent =>
      show b.count sent s = (((b.search (.pageOf sent offset limit) s).1.map _).map _, s)
      rw [h.count_eq sent offset limit s]
      cases (b.search (.pageOf sent offset limit) s).1 <;> rfl
  findOne_eq q limit s := by
    rw [search_pageOf]
    show v.askWith b.findOne q s = _
    rw [askWith]
    cases v.query none q with
    | error e => rfl
    | ok sent =>
      show b.findOne sent s = (((b.search (.pageOf sent 0 (limit + 1)) s).1.map _).map _, s)
      rw [h.findOne_eq sent limit s]
      cases (b.search (.pageOf sent 0 (limit + 1)) s).1 <;> rfl
  findOne_eq_none_iff q s := by
    show (v.askWith b.findOne q s).1 = _ ↔ (v.askWith b.count q s).1 = _
    rw [askWith, askWith]
    cases v.query none q with
    | error e => exact ⟨nofun, nofun⟩
    | ok sent => exact h.findOne_eq_none_iff sent s

/-! ## Behind several vocabularies -/

/-- A backend behind several vocabularies, of which the first one faces the caller. -/
def stack {m : Type → Type} [Monad m] (vs : List Vocabulary) (b : Backend m T) : Backend m T :=
  vs.foldr (fun v b => v.decorate b) b

/-- The three ways agree behind any number of vocabularies if they agree without them. -/
lemma readsAgree_stack (h : b.ReadsAgree) (vs : List Vocabulary) : (stack vs b).ReadsAgree := by
  induction vs with
  | nil => exact h
  | cons v rest ih => exact v.readsAgree_decorate ih

end Vocabulary

namespace Backend.ReadsAgree

variable {S T : Type} {b : Backend (StateM S) T}

/-- A count fails as the search fails. -/
lemma search_error_iff_count (h : b.ReadsAgree) (q : Query) (offset limit : Nat) (s : S)
    (e : Error) :
    (b.search (.pageOf q offset limit) s).1 = .error e ↔ (b.count q s).1 = .error e := by
  rw [h.count_eq q offset limit s]
  cases (b.search (.pageOf q offset limit) s).1 <;> simp [Except.map]

/-- The look for the first record fails as the count fails. -/
lemma findOne_error_iff_count (h : b.ReadsAgree) (q : Query) (s : S) (e : Error) :
    (b.findOne q s).1 = .error e ↔ (b.count q s).1 = .error e := by
  rw [← h.search_error_iff_count q 0 1 s e, h.findOne_eq q 0 s]
  cases (b.search (.pageOf q 0 (0 + 1)) s).1 <;> simp [Except.map]

end Backend.ReadsAgree

/-- **The three ways agree** behind any number of vocabularies in front of a store. The count of a
query is the total of every page, the first record is the first one of every page at the front that
has room for one, there is none exactly if the count is zero, and all three fail together and alike.

**Proof sketch.** Induction on the vocabularies. On the store itself the count and the first record
are read off a search, and the records that match the query decide the total and come in the order
of the store. A vocabulary sends a page as the same page of another query, which is also the one
that is sent for the count and for the first record. -/
theorem Vocabulary.reads_of_stack {R : Type} [Environment] (E : Evaluator R) (now : Instant)
    (vs : List Vocabulary) (q : Query) (s : Store R) :
    let b := stack vs (Store.backend E now)
    (∀ offset limit,
      b.count q s = ((b.search (.pageOf q offset limit) s).1.map SearchResult.totalItems, s)) ∧
    (∀ limit, b.findOne q s =
      ((b.search (.pageOf q 0 (limit + 1)) s).1.map fun x => x.itemsOrEmpty.head?, s)) ∧
    ((b.findOne q s).1 = .ok none ↔ (b.count q s).1 = .ok 0) ∧
    ∀ e, ((b.findOne q s).1 = .error e ↔ (b.count q s).1 = .error e) ∧
      ∀ offset limit,
        ((b.search (.pageOf q offset limit) s).1 = .error e ↔ (b.count q s).1 = .error e) := by
  have h := readsAgree_stack (Store.readsAgree_backend E now) vs
  refine ⟨fun offset limit => h.count_eq q offset limit s, fun limit => h.findOne_eq q limit s,
    h.findOne_eq_none_iff q s, fun e => ⟨h.findOne_error_iff_count q s e, ?_⟩⟩
  intro offset limit
  exact h.search_error_iff_count q offset limit s e

end Sift
