import Mathlib.Data.List.Induction
import Sift.Proofs.ByteOrder
import Sift.Proofs.ReadPaths
import Sift.Proofs.TableLaws

/-!
# Stores as finite maps

A store takes commands one after another. Whatever it holds in the end is told by the history of
the commands alone: under every identifier the record last saved and not deleted since. A reference
that knows only the history answers every command as the store does.

## Main definitions

* `Sift.Command`: what a caller can ask of a backend.
* `Sift.Command.Live`: the record that a history leaves under an identifier.
* `Sift.Command.Lists`: the live records in the byte order of their identifiers.
* `Sift.Command.Answers`: the answers of the reference.
* `Sift.Store.run`: the answers of a store to commands one after another.

## Main results

* `Sift.Store.Represents.perform`: a command keeps a store in step with the history.
* `Sift.Store.answers_iff`: the reference gives the answer of the store and no other.
* `Sift.Store.run_refines_map`: this holds along every run.
-/

set_option autoImplicit false

namespace Sift

/-! ## Commands -/

/-- What a caller can ask of a backend. -/
inductive Command (T : Type) where
  | create (record : T)
  | save (id : String) (record : T)
  | delete (id : String)
  | find (id : String)
  | search (request : SearchRequest)
  | count (query : Query)
  | findOne (query : Query)

/-- What a backend answers if it does not fail. -/
inductive Answer (T : Type) where
  /-- The record that is stored now. -/
  | stored (record : T)
  /-- Whether there was a record to remove. -/
  | deleted (existed : Bool)
  /-- The record looked for, if there is one. -/
  | found (record : Option T)
  | result (result : SearchResult T)
  | number (count : Nat)

/-- A backend carries out a command. -/
def Backend.perform {m : Type → Type} [Monad m] {T : Type} (b : Backend m T) :
    Command T → m (Except Error (Answer T))
  | .create record => (fun a => a.map .stored) <$> b.create record
  | .save id record => (fun a => a.map .stored) <$> b.save id record
  | .delete id => (fun a => a.map .deleted) <$> b.delete id
  | .find id => (fun a => a.map .found) <$> b.find id
  | .search request => (fun a => a.map .result) <$> b.search request
  | .count query => (fun a => a.map .number) <$> b.count query
  | .findOne query => (fun a => a.map .found) <$> b.findOne query

/-! ## The reference -/

namespace Command

variable {R : Type}

/-- The command may change what is stored under an identifier. -/
def Writes (id : String) : Command R → Prop
  | save id' _ => id' = id
  | delete id' => id' = id
  | _ => False

/-- The record is the one last saved under the identifier, and was not deleted since. -/
def Live (history : List (Command R)) (id : String) (record : R) : Prop :=
  ∃ before after, history = before ++ save id record :: after ∧ ∀ c ∈ after, ¬ c.Writes id

/-- The entries are the live records with their identifiers, each once, in ascending byte order of
the identifiers. -/
structure Lists (history : List (Command R)) (entries : List (String × R)) : Prop where
  /-- The identifiers ascend, so that none occurs twice. -/
  ascending : entries.Pairwise fun a b => Text.utf8 a.1 < Text.utf8 b.1
  /-- The entries are the live records. -/
  mem_iff (id : String) (record : R) : (id, record) ∈ entries ↔ Live history id record

end Command

section

variable {R : Type} [Environment] (E : Evaluator R) (now : Instant)

/-- What a query selects from some records. -/
def Query.selection (q : Query) (records : List R) : Except Error (List R) :=
  (q.compile E now).bind fun p => select p records

/-- The answer to a request for some records, which come in the order of the list where the request
asks for no other. -/
def SearchRequest.answer (r : SearchRequest) (records : List R) : Except Error (SearchResult R) :=
  ((r.query.getD .matchAll).selection E now records).bind fun ms =>
    (Aggregation.computeAll E now r.aggs ms).bind fun aggs =>
      (SearchRequest.sorted E r.sorts ms).map (Store.resultOf E r aggs)

/-- The answers of a reference that knows the history only. -/
inductive Command.Answers (history : List (Command R)) :
    Command R → Except Error (Answer R) → Prop
  | create (record : R) : Answers history (.create record) (.error (.notImplemented
      "create is not supported by the in-memory store, use save with an id"))
  | save (id : String) (record : R) : Answers history (.save id record) (.ok (.stored record))
  | deleteLive {id : String} {record : R} (h : Live history id record) :
      Answers history (.delete id) (.ok (.deleted true))
  | deleteMissing {id : String} (h : ∀ record, ¬ Live history id record) :
      Answers history (.delete id) (.error (.notFound ("No entity with id '" ++ id ++ "'")))
  | findLive {id : String} {record : R} (h : Live history id record) :
      Answers history (.find id) (.ok (.found (some record)))
  | findMissing {id : String} (h : ∀ record, ¬ Live history id record) :
      Answers history (.find id) (.ok (.found none))
  | search {entries : List (String × R)} (request : SearchRequest) (h : Lists history entries) :
      Answers history (.search request)
        ((request.answer E now (entries.map Prod.snd)).map .result)
  | count {entries : List (String × R)} (query : Query) (h : Lists history entries) :
      Answers history (.count query)
        ((query.selection E now (entries.map Prod.snd)).map fun ms => .number ms.length)
  | findOne {entries : List (String × R)} (query : Query) (h : Lists history entries) :
      Answers history (.findOne query)
        ((query.selection E now (entries.map Prod.snd)).map fun ms => .found ms.head?)

end

namespace Command

variable {R : Type} {history : List (Command R)} {c : Command R} {id : String} {record : R}

/-- **One more command.** What is live after it was saved by it, or was live before and is not
touched by it. -/
theorem live_concat_iff : Live (history ++ [c]) id record ↔
    c = save id record ∨ ¬ c.Writes id ∧ Live history id record := by
  constructor
  · rintro ⟨before, after, hsplit, hafter⟩
    rcases List.eq_nil_or_concat after with rfl | ⟨after, last, rfl⟩
    · obtain ⟨-, hlast⟩ := List.append_inj' hsplit rfl
      exact .inl (List.singleton_inj.1 hlast)
    · rw [List.concat_eq_append, ← List.cons_append, ← List.append_assoc] at hsplit
      obtain ⟨hhistory, hlast⟩ := List.append_inj' hsplit rfl
      obtain rfl := List.singleton_inj.1 hlast
      refine .inr ⟨hafter c (by simp), before, after, hhistory, ?_⟩
      intro d hd
      exact hafter d (by simp [hd])
  · rintro (rfl | ⟨hc, before, after, rfl, hafter⟩)
    · exact ⟨history, [], rfl, by simp⟩
    · refine ⟨before, after ++ [c], by simp, ?_⟩
      intro d hd
      rcases List.mem_append.1 hd with hd | hd
      · exact hafter d hd
      · rwa [List.mem_singleton.1 hd]

/-- Live records are listed in the order of stores. -/
lemma Lists.sorted {entries : List (String × R)} (h : Lists history entries) :
    Table.Sorted entries :=
  h.ascending.imp Text.lt_iff_utf8_lt.2

/-- There is one list of the live records. -/
lemma Lists.unique {entries entries' : List (String × R)} (h : Lists history entries)
    (h' : Lists history entries') : entries = entries' := by
  apply h.sorted.ext h'.sorted
  intro id
  ext record
  rw [h.sorted.find?_eq_some_iff, h'.sorted.find?_eq_some_iff, h.mem_iff, h'.mem_iff]

end Command

/-! ## Stores and histories -/

namespace Store

open Command (Live Lists Answers)

variable {R : Type} {s : Store R} {history : List (Command R)}

/-- The store holds what is live. -/
def Represents (s : Store R) (history : List (Command R)) : Prop :=
  ∀ id record, s.find? id = some record ↔ Live history id record

/-- A store that holds what is live has no record where nothing is live. -/
lemma Represents.find?_eq_none_iff (h : s.Represents history) (id : String) :
    s.find? id = none ↔ ∀ record, ¬ Live history id record := by
  simp only [Option.eq_none_iff_forall_ne_some, ne_eq, h id]

/-- A store that holds what is live lists it. -/
lemma Represents.lists (h : s.Represents history) : Lists history s.entries where
  ascending := s.sorted.imp Text.lt_iff_utf8_lt.1
  mem_iff id record := by
    rw [← h id record, find?, s.sorted.find?_eq_some_iff]

/-- Saving keeps a store in step with the history. -/
lemma Represents.save (h : s.Represents history) (id : String) (record : R) :
    (s.save id record).Represents (history ++ [.save id record]) := by
  intro id' record'
  rw [find?_save, Command.live_concat_iff, ← h]
  by_cases hid : id' = id
  · subst hid
    simp [Command.Writes]
  · simp [Command.Writes, hid, Ne.symm hid]

/-- Removing keeps a store in step with the history. -/
lemma Represents.remove (h : s.Represents history) (id : String) :
    (s.remove id).Represents (history ++ [.delete id]) := by
  intro id' record'
  rw [find?_remove, Command.live_concat_iff, ← h]
  by_cases hid : id' = id
  · subst hid
    simp [Command.Writes]
  · simp [Command.Writes, hid, Ne.symm hid]

/-- Seeding saves one record after another. -/
lemma represents_ofList (seed : List (String × R)) :
    (ofList seed).Represents (seed.map fun e => .save e.1 e.2) := by
  induction seed using List.reverseRecOn with
  | nil =>
    intro id record
    constructor
    · nofun
    · rintro ⟨before, after, hnil, -⟩
      simp at hnil
  | append_singleton seed e ih =>
    rw [ofList, List.foldl_append, List.map_append]
    exact ih.save e.1 e.2

variable [Environment] {E : Evaluator R} {now : Instant}

/-- A deletion removes a record, or fails because there is none. -/
lemma perform_delete (id : String) : (Store.backend E now).perform (.delete id) s =
    match s.find? id with
    | some _ => (.ok (.deleted true), s.remove id)
    | none => (.error (.notFound ("No entity with id '" ++ id ++ "'")), s) := by
  simp only [Backend.perform, backend, delete, Functor.map, StateT.map]
  cases s.find? id <;> rfl

/-- What a query selects from a store is what it selects from the records of the store. -/
lemma matching_eq_selection (q : Query) :
    s.matching E now q = q.selection E now s.records := by
  rw [matching, Query.selection]
  cases q.compile E now <;> rfl

/-- A count is the number of records that are selected. -/
lemma perform_count (q : Query) : ((Store.backend E now).perform (.count q) s).1 =
    (q.selection E now s.records).map fun ms => .number ms.length := by
  show (((Store.backend E now).count q s).1.map Answer.number) = _
  rw [count_backend, search_pageOf, matching_eq_selection]
  cases q.selection E now s.records <;> rfl

/-- The first record is the first of those that are selected. -/
lemma perform_findOne (q : Query) : ((Store.backend E now).perform (.findOne q) s).1 =
    (q.selection E now s.records).map fun ms => .found ms.head? := by
  show (((Store.backend E now).findOne q s).1.map Answer.found) = _
  rw [findOne_backend, search_pageOf, matching_eq_selection]
  cases q.selection E now s.records with
  | error e => rfl
  | ok ms =>
    show Except.ok (Answer.found (resultOf E (.pageOf q 0 1) [] ms).itemsOrEmpty.head?) = .ok _
    rw [head?_items_resultOf]

/-- A store answers a request for its records. -/
lemma search_eq_answer (r : SearchRequest) :
    s.search E now r = r.answer E now s.records := by
  rw [search, SearchRequest.answer, matching_eq_selection]
  cases (r.query.getD .matchAll).selection E now s.records with
  | error e => rfl
  | ok ms =>
    dsimp only [Except.bind]
    cases Aggregation.computeAll E now r.aggs ms <;> rfl

/-- **A command keeps a store in step with the history**, also if it fails. -/
theorem Represents.perform (h : s.Represents history) (c : Command R) :
    ((Store.backend E now).perform c s).2.Represents (history ++ [c]) := by
  -- Commands that write nothing leave the store and what is live as they are.
  have hread : (∀ id, ¬ c.Writes id) → s.Represents (history ++ [c]) := by
    intro hc id record
    rw [h id record, Command.live_concat_iff]
    have hsave : c ≠ .save id record := by
      rintro rfl
      exact hc id rfl
    simp [hc id, hsave]
  cases c with
  | save id record => exact h.save id record
  | delete id =>
    rw [perform_delete]
    cases hfind : s.find? id with
    | some record => exact h.remove id
    | none =>
      intro id' record
      rw [Command.live_concat_iff, ← h]
      by_cases hid : id' = id
      · subst hid
        simp [Command.Writes, hfind]
      · simp [Command.Writes, Ne.symm hid]
  | create record => exact hread (fun _ => id)
  | find _ => exact hread (fun _ => id)
  | search request => exact hread (fun _ => id)
  | count query => exact hread (fun _ => id)
  | findOne query => exact hread (fun _ => id)

/-- **The reference gives the answer of the store and no other.** -/
theorem answers_iff (h : s.Represents history) (c : Command R) (a : Except Error (Answer R)) :
    Answers E now history c a ↔ a = ((Store.backend E now).perform c s).1 := by
  constructor
  · intro ha
    cases ha with
    | create record => rfl
    | save id record => rfl
    | deleteLive hlive => rw [perform_delete, (h _ _).2 hlive]
    | deleteMissing hlive => rw [perform_delete, (h.find?_eq_none_iff _).2 hlive]
    | findLive hlive =>
      show _ = Except.ok (Answer.found (s.find? _))
      rw [(h _ _).2 hlive]
    | findMissing hlive =>
      show _ = Except.ok (Answer.found (s.find? _))
      rw [(h.find?_eq_none_iff _).2 hlive]
    | search request hentries =>
      obtain rfl := hentries.unique h.lists
      show _ = (s.search E now request).map Answer.result
      rw [search_eq_answer]
      rfl
    | count query hentries =>
      obtain rfl := hentries.unique h.lists
      rw [perform_count, records]
    | findOne query hentries =>
      obtain rfl := hentries.unique h.lists
      rw [perform_findOne, records]
  · rintro rfl
    cases c with
    | create record => exact .create record
    | save id record => exact .save id record
    | delete id =>
      rw [perform_delete]
      cases hfind : s.find? id with
      | some record => exact .deleteLive ((h _ _).1 hfind)
      | none => exact .deleteMissing ((h.find?_eq_none_iff _).1 hfind)
    | find id =>
      show Answers E now history (.find id) (.ok (.found (s.find? id)))
      cases hfind : s.find? id with
      | some record => exact .findLive ((h _ _).1 hfind)
      | none => exact .findMissing ((h.find?_eq_none_iff _).1 hfind)
    | search request =>
      show Answers E now history (.search request) ((s.search E now request).map .result)
      rw [search_eq_answer]
      exact .search request h.lists
    | count query =>
      rw [perform_count]
      exact .count query h.lists
    | findOne query =>
      rw [perform_findOne]
      exact .findOne query h.lists

/-- A command that fails leaves the store as it is. -/
lemma perform_of_error {c : Command R} {e : Error}
    (h : ((Store.backend E now).perform c s).1 = .error e) :
    ((Store.backend E now).perform c s).2 = s := by
  cases c with
  | save id record => cases h
  | delete id =>
    rw [perform_delete] at h ⊢
    cases hfind : s.find? id with
    | some record =>
      rw [hfind] at h
      cases h
    | none => rfl
  | create record => rfl
  | find id => rfl
  | search request => rfl
  | count query => rfl
  | findOne query => rfl

/-! ## Runs -/

variable (E) in
/-- A store carries out commands one after another, each at its own instant: the answers, and the
store in the end. -/
def run (s : Store R) : List (Instant × Command R) → List (Except Error (Answer R)) × Store R
  | [] => ([], s)
  | (now, c) :: rest =>
    let (answer, next) := (Store.backend E now).perform c s
    let (answers, last) := next.run rest
    (answer :: answers, last)

variable {commands : List (Instant × Command R)} {c : Command R}

/-- **A run keeps a store in step with the history.** -/
theorem Represents.run (h : s.Represents history) (commands : List (Instant × Command R)) :
    (s.run E commands).2.Represents (history ++ commands.map Prod.snd) := by
  induction commands generalizing s history with
  | nil =>
    rw [List.map_nil, List.append_nil]
    exact h
  | cons head rest ih =>
    rw [List.map_cons, List.append_cons]
    exact ih (h.perform head.2)

/-- Every command is answered. -/
lemma length_run (s : Store R) (commands : List (Instant × Command R)) :
    (s.run E commands).1.length = commands.length := by
  induction commands generalizing s with
  | nil => rfl
  | cons head rest ih => exact congrArg (· + 1) (ih _)

/-- An answer is that of the store after the commands before. -/
lemma getElem?_run {n : Nat} (h : commands[n]? = some (now, c)) :
    (s.run E commands).1[n]? =
      some ((Store.backend E now).perform c (s.run E (commands.take n)).2).1 := by
  induction commands generalizing s n with
  | nil => cases h
  | cons head rest ih =>
    cases n with
    | zero =>
      obtain rfl := Option.some.inj h
      rfl
    | succ n => exact ih h

/-- Without a command that failed, the other answers are the same. -/
lemma run_eraseIdx {n : Nat} {e : Error} (h : (s.run E commands).1[n]? = some (.error e)) :
    (s.run E (commands.eraseIdx n)).1 = (s.run E commands).1.eraseIdx n := by
  induction commands generalizing s n with
  | nil => rfl
  | cons head rest ih =>
    cases n with
    | zero =>
      have hsame : ((Store.backend E head.1).perform head.2 s).2 = s :=
        perform_of_error (Option.some.inj h)
      show (s.run E rest).1 = (Store.run E (((Store.backend E head.1).perform head.2 s).2) rest).1
      rw [hsame]
    | succ n => exact congrArg (_ :: ·) (ih h)

end Store

/-- All records are listed in their order where no other is asked for. -/
lemma SearchRequest.answer_of_matchAll {R : Type} [Environment] {E : Evaluator R} {now : Instant}
    {r : SearchRequest} {records : List R}
    (hquery : r.query = none ∨ r.query = some .matchAll) (hsorts : r.sorts = [])
    (hoffset : r.offset = 0) (hlimit : records.length ≤ r.limit) :
    r.answer E now records = (Aggregation.computeAll E now r.aggs records).map fun aggs =>
      { aggs := aggs
        items := if r.fields.isEmpty then some records else none
        rows := if r.fields.isEmpty then none
          else some (records.map (SearchRequest.row E r.fields))
        totalItems := records.length
        fields := r.fields } := by
  have hselected : (r.query.getD .matchAll).selection E now records = .ok records := by
    rcases hquery with h | h
    · rw [h]
      exact Query.select_true records
    · rw [h]
      exact Query.select_true records
  have hpage : r.page records = records := by
    rw [SearchRequest.page, hoffset, List.drop_zero, List.take_of_length_le hlimit]
  rw [SearchRequest.answer, hselected, hsorts]
  show (Aggregation.computeAll E now r.aggs records).bind _ = _
  cases Aggregation.computeAll E now r.aggs records with
  | error e => rfl
  | ok aggs =>
    show Except.ok (Store.resultOf E r aggs records) = .ok _
    simp only [Store.resultOf, hpage]

/-- **A store is a finite map** over every run. Let a store be seeded with any records, of which
some may share an identifier, and take any commands after one another.

* Every command is answered, and its answer is the only one of a reference that knows nothing but
  the records saved and the identifiers deleted before.
* A deletion fails because there is no such record exactly if none is live.
* Without a command that failed, all other answers are the same.
* A request for all records in no particular order, with room for all, lists every live record once
  in ascending byte order of the identifiers, unless one of its aggregations is rejected.

**Proof sketch.** A command keeps the store in step with the history, so that the run does, by
induction. A store in step lists its records in the order of the identifiers, of which there is only
one list, and the reference reads its answers off that list. -/
theorem Store.run_refines_map {R : Type} [Environment] (E : Evaluator R) (seed : List (String × R))
    (commands : List (Instant × Command R)) :
    let history (n : Nat) : List (Command R) :=
      (seed.map fun e => .save e.1 e.2) ++ (commands.take n).map Prod.snd
    let answers := ((Store.ofList seed).run E commands).1
    answers.length = commands.length ∧
    (∀ n now c, commands[n]? = some (now, c) → ∃ a, answers[n]? = some a ∧
      ∀ a', Command.Answers E now (history n) c a' ↔ a' = a) ∧
    (∀ n now id, commands[n]? = some (now, .delete id) →
      ((∃ subject, answers[n]? = some (.error (.notFound subject))) ↔
        ∀ record, ¬ Command.Live (history n) id record)) ∧
    (∀ n e, answers[n]? = some (.error e) →
      ((Store.ofList seed).run E (commands.eraseIdx n)).1 = answers.eraseIdx n) ∧
    ∀ n now r, commands[n]? = some (now, .search r) →
      r.query = none ∨ r.query = some .matchAll → r.sorts = [] → r.offset = 0 →
      ∃ entries, Command.Lists (history n) entries ∧ (entries.length ≤ r.limit →
        answers[n]? = some ((Aggregation.computeAll E now r.aggs (entries.map Prod.snd)).map
          fun aggs => .result {
            aggs := aggs
            items := if r.fields.isEmpty then some (entries.map Prod.snd) else none
            rows := if r.fields.isEmpty then none
              else some (entries.map fun e => SearchRequest.row E r.fields e.2)
            totalItems := entries.length
            fields := r.fields })) := by
  intro history answers
  -- The store before a command.
  let before (n : Nat) : Store R := ((Store.ofList seed).run E (commands.take n)).2
  have hbefore (n : Nat) : (before n).Represents (history n) :=
    (represents_ofList seed).run (commands.take n)
  refine ⟨length_run _ _, ?_, ?_, ?_, ?_⟩
  · intro n now c hn
    exact ⟨_, getElem?_run hn, answers_iff (hbefore n) c⟩
  · intro n now id hn
    rw [getElem?_run hn, perform_delete, ← (hbefore n).find?_eq_none_iff id]
    cases hfind : (before n).find? id with
    | some record => simp
    | none => simp
  · intro n e hn
    exact run_eraseIdx hn
  · intro n now r hn hquery hsorts hoffset
    refine ⟨(before n).entries, (hbefore n).lists, ?_⟩
    intro hlimit
    have hrecords : (before n).records.length ≤ r.limit := by
      rw [records, List.length_map]
      exact hlimit
    have hanswer : ((Store.backend E now).perform (.search r) (before n)).1 =
        ((before n).search E now r).map .result := rfl
    rw [getElem?_run hn]
    show some ((Store.backend E now).perform (.search r) (before n)).1 = _
    rw [hanswer, search_eq_answer, SearchRequest.answer_of_matchAll hquery hsorts hoffset hrecords]
    have hlength : (before n).records.length = (before n).entries.length := List.length_map _
    have hrows : (before n).records.map (SearchRequest.row E r.fields) =
        (before n).entries.map fun e => SearchRequest.row E r.fields e.2 := List.map_map
    rw [hlength, hrows]
    show _ = some ((Aggregation.computeAll E now r.aggs (before n).records).map _)
    cases Aggregation.computeAll E now r.aggs (before n).records with
    | error e => rfl
    | ok aggs => rfl

section Examples

attribute [local instance] Environment.isolated

/-- A run on a seed with a repeated identifier: a deletion and a creation that fail do not show in
what is listed after them, and capital letters come first. -/
theorem Store.run_lists_live_records :
    let E : Evaluator Nat := fun n _ => .ok (.long (.ofNat n))
    let seed := [("b", 1), ("a", 2), ("b", 3)]
    let commands : List (Command Nat) := [.delete "c", .save "B" 4, .create 5, .search {}]
    let run := commands.map fun c => (Instant.earliest, c)
    let answers := ((Store.ofList seed).run E run).1
    ((∃ subject, answers[0]? = some (.error (.notFound subject))) ∧
      ∀ record, ¬ Command.Live (seed.map fun e => .save e.1 e.2) "c" record) ∧
    (∀ a, Command.Answers E Instant.earliest
      ((seed.map fun e => .save e.1 e.2) ++ [.delete "c"]) (.save "B" 4) a ↔ a = .ok (.stored 4)) ∧
    ((Store.ofList seed).run E (run.eraseIdx 0)).1 = answers.eraseIdx 0 ∧
    answers[3]? = some (.ok (.result { items := some [4, 2, 3], totalItems := 3 })) := by
  intro E seed commands run answers
  obtain ⟨-, hanswers, hdelete, herase, hlists⟩ := run_refines_map E seed run
  obtain ⟨a, ha, hsaved⟩ := hanswers 1 Instant.earliest (.save "B" 4) rfl
  obtain ⟨entries, hentries, hlisted⟩ := hlists 3 Instant.earliest {} rfl (.inl rfl) rfl rfl
  have hfails : ∃ subject, answers[0]? = some (.error (.notFound subject)) := ⟨_, rfl⟩
  obtain rfl : entries = [("B", 4), ("a", 2), ("b", 3)] :=
    hentries.unique ((represents_ofList seed).run (E := E) (run.take 3)).lists
  refine ⟨⟨hfails, (hdelete 0 Instant.earliest "c" rfl).1 hfails⟩, ?_, ?_, ?_⟩
  · obtain rfl : Except.ok (.stored 4) = a := Option.some.inj ha
    exact hsaved
  · exact herase 0 _ rfl
  · exact hlisted (by decide)

end Examples

end Sift
