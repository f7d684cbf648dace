import Mathlib.Data.List.Forall2
import Mathlib.Data.List.Perm.Subperm
import TreePredicate.Proofs.Table

/-!
# Tables with related entries

* `keys_eq_of_forall₂` : tables related entry by entry have the same keys;
* `exists_perm` : tables that find related values are related entry by entry, up to order;
* `mem_keys_of_length_le`, `rel_find?` : tables of equal length find related values under all keys if
  they do so under the keys of one.
-/

set_option autoImplicit false

namespace TreePredicate.Table

variable {κ α : Type} [DecidableEq κ]

omit [DecidableEq κ] in
theorem Distinct.nodup {table : Table κ α} (h : Distinct table) : table.Nodup :=
  List.Pairwise.of_map Prod.fst (fun _ _ => mt (congrArg Prod.fst)) h

/-- A table whose entries have related ones in another is, entry by entry, related to a selection of
the other. -/
theorem exists_forall₂ {β : Type} {R : α → β → Prop} {table : Table κ α} {other : Table κ β}
    (h : ∀ e ∈ table, ∃ b, find? e.1 other = some b ∧ R e.2 b) :
    ∃ chosen : Table κ β, List.Forall₂ (fun e f => e.1 = f.1 ∧ R e.2 f.2) table chosen ∧
      ∀ f ∈ chosen, find? f.1 other = some f.2 := by
  induction table with
  | nil => exact ⟨[], .nil, List.forall_mem_nil _⟩
  | cons e rest ih =>
    rw [List.forall_mem_cons] at h
    obtain ⟨⟨b, hfound, hb⟩, hrest⟩ := h
    obtain ⟨chosen, hchosen, hall⟩ := ih hrest
    exact ⟨(e.1, b) :: chosen, .cons ⟨rfl, hb⟩ hchosen, List.forall_mem_cons.mpr ⟨hfound, hall⟩⟩

omit [DecidableEq κ] in
/-- Tables whose entries agree one by one in their keys have the same keys. -/
theorem keys_eq_of_forall₂ {β : Type} {R : κ × α → κ × β → Prop} {table : Table κ α}
    {other : Table κ β} (hR : ∀ e f, R e f → e.1 = f.1) (h : List.Forall₂ R table other) :
    table.map Prod.fst = other.map Prod.fst := by
  induction h with
  | nil => rfl
  | cons hentry _ ih => rw [List.map_cons, List.map_cons, hR _ _ hentry, ih]

/-- Two tables that find related values under the same keys are related entry by entry, once one of
them is put into the order of the other. -/
theorem exists_perm {β : Type} {R : α → β → Prop} {table : Table κ α} {other : Table κ β}
    (hdistinct : Distinct table) (hdistinct' : Distinct other)
    (h : ∀ e ∈ table, ∃ b, find? e.1 other = some b ∧ R e.2 b)
    (hkeys : ∀ key ∈ other.map Prod.fst, key ∈ table.map Prod.fst) :
    ∃ chosen : Table κ β, List.Forall₂ (fun e f => e.1 = f.1 ∧ R e.2 f.2) table chosen ∧
      chosen.Perm other := by
  obtain ⟨chosen, hchosen, hall⟩ := exists_forall₂ h
  have hsame := keys_eq_of_forall₂ (fun _ _ h => h.1) hchosen
  have hnodup : Distinct chosen := by
    unfold Distinct
    rw [← hsame]
    exact hdistinct
  refine ⟨chosen, hchosen, (List.perm_ext_iff_of_nodup hnodup.nodup hdistinct'.nodup).mpr ?_⟩
  rintro ⟨key, value⟩
  constructor
  · exact fun hmem => mem_of_find? (hall _ hmem)
  · intro hmem
    have hkey := hkeys key (List.mem_map.mpr ⟨_, hmem, rfl⟩)
    rw [hsame] at hkey
    obtain ⟨f, hf, rfl⟩ := List.mem_map.mp hkey
    have hfound := hall f hf
    rw [find?_eq_of_mem hdistinct' hmem] at hfound
    cases hfound
    exact hf

omit [DecidableEq κ] in
/-- The keys of a table that is no longer than another, and has all of its keys. -/
theorem mem_keys_of_length_le {β : Type} {table : Table κ α} {other : Table κ β}
    (hdistinct : Distinct table) (hlength : other.length ≤ table.length)
    (h : ∀ e ∈ table, e.1 ∈ other.map Prod.fst) :
    ∀ key ∈ other.map Prod.fst, key ∈ table.map Prod.fst := by
  have hsubset : table.map Prod.fst ⊆ other.map Prod.fst := List.forall_mem_map.mpr h
  have hperm := (List.subperm_of_subset hdistinct hsubset).perm_of_length_le (by simpa using hlength)
  exact fun key hkey => hperm.mem_iff.mpr hkey

/-- Tables of equal length that find related values under the keys of one find related values under
all keys. -/
theorem rel_find? {β : Type} {R : α → β → Prop} {table : Table κ α} {other : Table κ β}
    (hdistinct : Distinct table) (hlength : other.length ≤ table.length)
    (h : ∀ e ∈ table, ∃ b, find? e.1 other = some b ∧ R e.2 b) (key : κ) :
    Option.Rel R (find? key table) (find? key other) := by
  cases hfind : find? key table with
  | some a =>
    obtain ⟨b, hb, hrel⟩ := h _ (mem_of_find? hfind)
    rw [hb]
    exact .some hrel
  | none =>
    have hkey : key ∉ other.map Prod.fst := by
      intro hmem
      have hkeys := mem_keys_of_length_le hdistinct hlength fun e he => by
        obtain ⟨b, hb, -⟩ := h e he
        exact List.mem_map.mpr ⟨_, mem_of_find? hb, rfl⟩
      obtain ⟨e, he, rfl⟩ := List.mem_map.mp (hkeys key hmem)
      rw [find?_eq_of_mem hdistinct he] at hfind
      cases hfind
    rw [find?_eq_none_of_not_mem hkey]
    exact .none

end TreePredicate.Table
