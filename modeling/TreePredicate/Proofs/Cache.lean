import Mathlib
import TreePredicate.Cache

/-!
# What a cache keeps

Texts are parsed, asked for and forgotten through one store, one after another. Whatever came before,
parsing gives what reading gives, and the texts that are kept can be told from the requests alone:
they are the distinct ones among those last read.

* `Operation`, `Store.run` : requests, and the store after them;
* `succeeded` : the texts parsed with success since everything was forgotten, the last one first;
* `eraseDups_cons_eq_filter`, `take_cons_filter` : what one more use makes of the texts used last;
* `Store.Keeps` : the store keeps the texts used last, which every request keeps so;
* `Store.run_spec` : what is kept after any requests, and what the next one does.
-/

set_option autoImplicit false

namespace TreePredicate

/-! ## Requests -/

/-- A request to a cache. -/
inductive Operation where
  | parse (text : String)
  | contains (text : String)
  | clear

/-- The texts parsed with success after one more request, the last one first. -/
def Operation.record (texts : List String) : Operation → List String
  | .parse text => if (Notation.parse text).isOk then text :: texts else texts
  | .contains _ => texts
  | .clear => []

/-- The texts parsed with success since the last request to forget, the last one first. -/
def succeeded (operations : List Operation) : List String := operations.foldl Operation.record []

namespace Store

variable {σ : Type}

/-- The store after a request. -/
def apply (store : Store σ Predicate) (s : σ) : Operation → σ
  | .parse text => (store.parse s text).2
  | .contains text => (store.contains s text).2
  | .clear => store.clear s

/-- The store after some requests. -/
def run (store : Store σ Predicate) (operations : List Operation) : σ :=
  operations.foldl store.apply store.empty

end Store

/-! ## Texts used last -/

theorem eraseDups_filter (p : String → Bool) (texts : List String) :
    (texts.filter p).eraseDups = texts.eraseDups.filter p := by
  -- the texts after the first one lose their copies of it, so the induction is on their number
  induction hn : texts.length using Nat.strongRecOn generalizing texts with
  | ind n ih =>
    cases texts with
    | nil => rfl
    | cons text rest =>
      have hlt : (rest.filter fun b => !b == text).length < n := by
        rw [← hn, List.length_cons]
        exact Nat.lt_succ_of_le (List.length_filter_le _ rest)
      have hrest := ih _ hlt (rest.filter fun b => !b == text) rfl
      by_cases hp : p text = true
      · rw [List.filter_cons_of_pos hp, List.eraseDups_cons, List.eraseDups_cons,
          List.filter_cons_of_pos hp, ← hrest, List.filter_filter, List.filter_filter]
        simp only [Bool.and_comm]
      · rw [List.filter_cons_of_neg hp, List.eraseDups_cons, List.filter_cons_of_neg hp, ← hrest,
          List.filter_filter]
        congr 1
        refine List.filter_congr fun x _ => ?_
        by_cases hx : x = text
        · rw [hx]
          simp [hp]
        · simp [hx]

/-- One more use of a text puts it in front of the others. -/
theorem eraseDups_cons_eq_filter (text : String) (texts : List String) :
    (text :: texts).eraseDups = text :: texts.eraseDups.filter (· ≠ text) := by
  rw [List.eraseDups_cons, ← eraseDups_filter]
  congr 2
  exact List.filter_congr fun x _ => Bool.eq_iff_iff.mpr (by simp)

theorem nodup_eraseDups (texts : List String) : texts.eraseDups.Nodup := by
  induction texts with
  | nil => exact List.nodup_nil
  | cons text rest ih =>
    rw [eraseDups_cons_eq_filter]
    exact List.nodup_cons.mpr ⟨by simp, ih.sublist List.filter_sublist⟩

/-- What is used last of distinct texts, without one of them. -/
theorem take_filter {texts : List String} (h : texts.Nodup) (text : String) (n : Nat) :
    (texts.filter (· ≠ text)).take n = ((texts.take (n + 1)).filter (· ≠ text)).take n := by
  induction texts generalizing n with
  | nil => rfl
  | cons first rest ih =>
    obtain ⟨hfirst, hrest⟩ := List.nodup_cons.mp h
    by_cases heq : first = text
    · have hself : ∀ l : List String, (∀ x ∈ l, x ∈ rest) → l.filter (· ≠ text) = l := by
        intro l hl
        rw [List.filter_eq_self]
        intro x hx
        rw [decide_eq_true_eq]
        rintro rfl
        exact hfirst (heq ▸ hl _ hx)
      rw [List.take_succ_cons, List.filter_cons_of_neg (by simp [heq]),
        List.filter_cons_of_neg (by simp [heq]), hself rest fun x hx => hx,
        hself _ fun x hx => List.mem_of_mem_take hx, List.take_take, Nat.min_self]
    · rw [List.take_succ_cons, List.filter_cons_of_pos (by simp [heq]),
        List.filter_cons_of_pos (by simp [heq])]
      cases n with
      | zero => rfl
      | succ n => rw [List.take_succ_cons, List.take_succ_cons, ih hrest]

/-- The texts used last after one more use: the text itself, then those before it without it, as far
as there is room. -/
theorem take_cons_filter {capacity : Nat} (pos : 0 < capacity) (text : String) (texts : List String) :
    (text :: texts).eraseDups.take capacity =
      (text :: (texts.eraseDups.take capacity).filter (· ≠ text)).take capacity := by
  obtain ⟨n, rfl⟩ := Nat.exists_eq_succ_of_ne_zero (Nat.ne_of_gt pos)
  rw [eraseDups_cons_eq_filter, List.take_succ_cons, List.take_succ_cons,
    take_filter (nodup_eraseDups texts)]

/-! ## What is kept -/

namespace Store

variable {σ : Type} {store : Store σ Predicate} {capacity : Nat}
  {entries : σ → List (String × Predicate)} {s : σ} {texts : List String}

/-- A store keeps the distinct texts used last, with the predicates they stand for. -/
structure Keeps (capacity : Nat) (entries : σ → List (String × Predicate)) (s : σ)
    (texts : List String) : Prop where
  names : (entries s).map Prod.fst = texts.eraseDups.take capacity
  read : ∀ e ∈ entries s, Notation.parse e.1 = .ok e.2

theorem Keeps.length_le (h : Keeps capacity entries s texts) : (entries s).length ≤ capacity := by
  have hlength := congrArg List.length h.names
  rw [List.length_map] at hlength
  rw [hlength]
  exact List.length_take_le _ _

theorem keeps_nothing (h : entries s = []) : Keeps capacity entries s [] where
  names := by rw [h, List.map_nil, List.eraseDups_nil, List.take_nil]
  read := by
    rw [h]
    exact List.forall_mem_nil _

theorem map_fst_filter (entries : List (String × Predicate)) (text : String) :
    (entries.filter fun e => e.1 ≠ text).map Prod.fst =
      (entries.map Prod.fst).filter (· ≠ text) := by
  rw [List.filter_map]
  rfl

/-- After a success the text is the one used last. -/
theorem keeps_parse_ok (h : store.Lawful capacity entries) (pos : 0 < capacity)
    (hkeeps : Keeps capacity entries s texts) {text : String} {p : Predicate}
    (reads : Notation.parse text = .ok p) :
    Keeps capacity entries (store.parse s text).2 (text :: texts) := by
  refine ⟨?_, h.read_parse hkeeps.read text⟩
  have hroom := hkeeps.length_le
  rw [take_cons_filter pos, ← hkeeps.names]
  cases found : Table.find? text (entries s) with
  | some q =>
    have hlt := Recent.length_filter_lt found
    rw [(h.parse_of_some found).2, List.map_cons, map_fst_filter, List.take_of_length_le]
    rw [List.length_cons, ← map_fst_filter, List.length_map]
    omega
  | none =>
    rw [(h.parse_of_none found reads).2, ← map_fst_filter, Recent.filter_eq_self found, List.map_cons,
      Recent.take_cons_of_length_le pos (by rwa [List.length_map]), List.length_map]
    split
    · rfl
    · rw [List.map_dropLast]

/-- A failure leaves the entries as they are, and so does asking for a text. -/
theorem entries_parse_error (h : store.Lawful capacity entries)
    (hkeeps : Keeps capacity entries s texts) {text : String} {failure : Notation.Failure}
    (refuses : Notation.parse text = .error failure) :
    entries (store.parse s text).2 = entries s := by
  cases found : Table.find? text (entries s) with
  | some p =>
    -- what is kept was read
    have hread := hkeeps.read _ (Table.mem_of_find? found)
    rw [refuses] at hread
    cases hread
  | none => exact (h.parse_of_error found refuses).2

theorem Keeps.of_entries_eq {s' : σ} (h : Keeps capacity entries s texts)
    (heq : entries s' = entries s) : Keeps capacity entries s' texts :=
  ⟨by rw [heq, h.names], by rw [heq]; exact h.read⟩

/-- Every request keeps the texts used last. -/
theorem keeps_apply (h : store.Lawful capacity entries) (pos : 0 < capacity)
    (hkeeps : Keeps capacity entries s texts) (operation : Operation) :
    Keeps capacity entries (store.apply s operation) (operation.record texts) := by
  cases operation with
  | parse text =>
    rw [apply, Operation.record]
    cases reads : Notation.parse text with
    | ok p => exact keeps_parse_ok h pos hkeeps reads
    | error failure => exact hkeeps.of_entries_eq (entries_parse_error h hkeeps reads)
  | contains text => exact hkeeps.of_entries_eq (h.contains s text).2
  | clear => exact keeps_nothing (h.entries_clear s)

theorem keeps_foldl (h : store.Lawful capacity entries) (pos : 0 < capacity)
    (operations : List Operation) (hkeeps : Keeps capacity entries s texts) :
    Keeps capacity entries (operations.foldl store.apply s)
      (operations.foldl Operation.record texts) := by
  induction operations generalizing s texts with
  | nil => exact hkeeps
  | cons operation rest ih => exact ih (keeps_apply h pos hkeeps operation)

/-- After any requests a store keeps the texts used last. -/
theorem keeps_run (h : store.Lawful capacity entries) (pos : 0 < capacity)
    (operations : List Operation) :
    Keeps capacity entries (store.run operations) (succeeded operations) :=
  keeps_foldl h pos operations (keeps_nothing h.entries_empty)

/-- After any requests to a store with room for some entries, parsing a text gives what reading it
gives; the texts that are kept are, from the most recently used one on, the distinct ones parsed with
success since everything was forgotten, as far as there is room; and neither a text that cannot be read
nor the question whether a text is kept changes what is kept or its order. -/
theorem run_spec {σ : Type} (store : Store σ Predicate) (capacity : Nat)
    (entries : σ → List (String × Predicate)) (h : store.Lawful capacity entries)
    (pos : 0 < capacity) (operations : List Operation) :
    (∀ text, (store.parse (store.run operations) text).1 = Notation.parse text) ∧
    (entries (store.run operations)).map Prod.fst = (succeeded operations).eraseDups.take capacity ∧
    (∀ e ∈ entries (store.run operations), Notation.parse e.1 = .ok e.2) ∧
    store.size (store.run operations) = (entries (store.run operations)).length ∧
    store.size (store.run operations) ≤ capacity ∧
    (∀ text failure, Notation.parse text = .error failure →
      entries (store.parse (store.run operations) text).2 = entries (store.run operations)) ∧
    ∀ text, ((store.contains (store.run operations) text).1 = true ↔
        text ∈ (succeeded operations).eraseDups.take capacity) ∧
      entries (store.contains (store.run operations) text).2 = entries (store.run operations) := by
  have hkeeps := keeps_run h pos operations
  have hsize := h.size (store.run operations)
  refine ⟨fun text => h.parse_fst hkeeps.read text, hkeeps.names, hkeeps.read, hsize, ?_,
    fun text failure refuses => entries_parse_error h hkeeps refuses, fun text => ?_⟩
  · rw [hsize]
    exact hkeeps.length_le
  · obtain ⟨hcontains, hentries⟩ := h.contains (store.run operations) text
    refine ⟨?_, hentries⟩
    rw [hcontains, Table.isSome_find?, hkeeps.names]

/-- Three texts with room for two: the first one is used again before the third one comes. -/
def crowded : List Operation :=
  [.parse "\x7ba: 1\x7d", .parse "\x7bb: 1\x7d", .parse "\x7ba: 1\x7d", .contains "\x7bb: 1\x7d",
   .parse "\x7ba: \x7d", .parse "\x7bc: 1\x7d"]

theorem run_spec_crowded :
    ((Recent.store 2 Predicate).run crowded).entries.map Prod.fst =
      ["\x7bc: 1\x7d", "\x7ba: 1\x7d"] ∧
    ((Recent.store 2 Predicate).parse ((Recent.store 2 Predicate).run crowded) "\x7ba: \x7d").1 =
      Notation.parse "\x7ba: \x7d" := by
  obtain ⟨hparse, hnames, -⟩ := run_spec (Recent.store 2 Predicate) 2 Recent.entries
    (Recent.lawful (by decide) Predicate) (by decide) crowded
  refine ⟨?_, hparse _⟩
  have hsucceeded : succeeded crowded =
      ["\x7bc: 1\x7d", "\x7ba: 1\x7d", "\x7bb: 1\x7d", "\x7ba: 1\x7d"] := by cbv
  rw [hnames, hsucceeded]
  decide

end Store

end TreePredicate
