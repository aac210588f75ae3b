import Mathlib.Algebra.BigOperators.Group.List.Basic
import Mathlib.Data.List.AList
import Mathlib.Data.List.Perm.Subperm

/-!
# Keyed tables

A table is Mathlib's `AList`: a list of rows with distinct keys, so a
second row under one key cannot be built. What this module adds is the
arithmetic of `rowCount`, the number of rows a test accepts, and of `total`,
a sum over the rows: an update of one row moves them by that row alone.
-/

/-- Rows of type `ρ` under keys of type `κ`. -/
abbrev Table (κ ρ : Type) := AList fun _ : κ => ρ

namespace Table

variable {κ ρ : Type} [DecidableEq κ]

/-- The rows, in table order. -/
def rows (t : Table κ ρ) : List ρ := t.entries.map Sigma.snd

/-- How many rows pass the test. -/
def rowCount (p : ρ → Bool) (t : Table κ ρ) : Nat := (rows t).countP p

/-- The row's own contribution to a count. -/
def tally (p : ρ → Bool) (r : ρ) : Nat := if p r then 1 else 0

theorem mem_rows_iff {t : Table κ ρ} {r : ρ} : r ∈ rows t ↔ ∃ k, t.lookup k = some r := by
  simp only [rows, List.mem_map]
  constructor
  · rintro ⟨⟨k, r'⟩, hmem, rfl⟩
    exact ⟨k, AList.mem_lookup_iff.mpr hmem⟩
  · rintro ⟨k, h⟩
    exact ⟨⟨k, r⟩, AList.mem_lookup_iff.mp h, rfl⟩

/-- The row under `k` splits the entries around itself. -/
theorem entries_split {t : Table κ ρ} {k : κ} {r : ρ} (h : t.lookup k = some r) :
    ∃ l₁ l₂, t.entries = l₁ ++ ⟨k, r⟩ :: l₂ ∧ List.kerase k t.entries = l₁ ++ l₂ := by
  have hk : k ∈ t.entries.keys := AList.lookup_isSome.mp (by rw [h]; rfl)
  obtain ⟨r', l₁, l₂, -, heq, herase⟩ := List.exists_of_kerase hk
  have hmem : (⟨k, r'⟩ : Sigma fun _ : κ => ρ) ∈ t.entries := by rw [heq]; simp
  have hr : r' = r := Option.some.inj ((AList.mem_lookup_iff.mpr hmem).symm.trans h)
  exact ⟨l₁, l₂, hr ▸ heq, herase⟩

/-- Overwriting a row trades its contribution for the new row's. -/
theorem rowCount_insert_of_lookup (p : ρ → Bool) {t : Table κ ρ} {k : κ} {r : ρ}
    (h : t.lookup k = some r) (r' : ρ) :
    rowCount p (t.insert k r') + tally p r = rowCount p t + tally p r' := by
  obtain ⟨l₁, l₂, heq, herase⟩ := entries_split h
  have hins : rows (t.insert k r') = r' :: (l₁ ++ l₂).map Sigma.snd := by
    simp only [rows, AList.entries_insert, herase, List.map_cons]
  have hrows : rows t = l₁.map Sigma.snd ++ r :: l₂.map Sigma.snd := by
    simp only [rows, heq, List.map_append, List.map_cons]
  simp only [rowCount, tally, hins, hrows, List.countP_cons, List.countP_append, List.map_append]
  omega

/-- A new row adds its own contribution. -/
theorem rowCount_insert_of_none (p : ρ → Bool) {t : Table κ ρ} {k : κ}
    (h : t.lookup k = none) (r' : ρ) :
    rowCount p (t.insert k r') = rowCount p t + tally p r' := by
  have hk : k ∉ t := AList.lookup_eq_none.mp h
  simp only [rowCount, rows, tally, AList.entries_insert_of_notMem hk, List.map_cons,
    List.countP_cons]

theorem one_le_rowCount {p : ρ → Bool} {t : Table κ ρ} {k : κ} {r : ρ}
    (h : t.lookup k = some r) (hp : p r = true) : 1 ≤ rowCount p t :=
  List.countP_pos_iff.mpr ⟨r, mem_rows_iff.mpr ⟨k, h⟩, hp⟩

/-- Where at most one row passes, it has one key. -/
theorem key_eq_of_rowCount_le_one {p : ρ → Bool} {t : Table κ ρ} {k k' : κ} {r r' : ρ}
    (hle : rowCount p t ≤ 1) (h : t.lookup k = some r) (hp : p r = true)
    (h' : t.lookup k' = some r') (hp' : p r' = true) : k' = k := by
  obtain ⟨l₁, l₂, heq, -⟩ := entries_split h
  have hmem : (⟨k', r'⟩ : Sigma fun _ : κ => ρ) ∈ l₁ ++ ⟨k, r⟩ :: l₂ :=
    heq ▸ AList.mem_lookup_iff.mp h'
  have hrest : (l₁.map Sigma.snd).countP p + (l₂.map Sigma.snd).countP p = 0 := by
    simp only [rowCount, rows, heq, List.map_append, List.map_cons, List.countP_append,
      List.countP_cons, hp, if_true] at hle
    omega
  have hnone : ∀ l : List (Sigma fun _ : κ => ρ), (l.map Sigma.snd).countP p = 0 →
      ⟨k', r'⟩ ∉ l := fun l hl hin =>
    List.countP_eq_zero.mp hl r' (List.mem_map.mpr ⟨_, hin, rfl⟩) hp'
  rcases List.mem_append.mp hmem with hin | hin
  · exact absurd hin (hnone l₁ (by omega))
  · rcases List.mem_cons.mp hin with hsame | hin
    · exact congrArg Sigma.fst hsame
    · exact absurd hin (hnone l₂ (by omega))

@[simp] theorem lookup_insert_eq (t : Table κ ρ) (k k' : κ) (r : ρ) :
    (AList.insert k r t).lookup k' = if k' = k then some r else t.lookup k' := by
  by_cases h : k' = k
  · subst h; simp
  · simp [h]

/-! ## Tests of key and row -/

/-- How many entries pass a test of key and row. -/
def entryCount (p : κ → ρ → Bool) (t : Table κ ρ) : Nat := t.entries.countP fun e => p e.1 e.2

omit [DecidableEq κ] in
theorem rowCount_eq_entryCount (p : ρ → Bool) (t : Table κ ρ) :
    rowCount p t = entryCount (fun _ => p) t := by
  simp only [rowCount, rows, entryCount, List.countP_map, Function.comp_def]

/-- Where each passing row has a passing row under its key, there are no more of them. -/
theorem entryCount_le {ρ' : Type} {p : κ → ρ → Bool} {q : κ → ρ' → Bool} {t : Table κ ρ}
    {t' : Table κ ρ'}
    (h : ∀ k r, t.lookup k = some r → p k r = true → ∃ r', t'.lookup k = some r' ∧ q k r' = true) :
    entryCount p t ≤ entryCount q t' := by
  have hkeys : (t.entries.filter fun e => p e.1 e.2).map Sigma.fst ⊆
      (t'.entries.filter fun e => q e.1 e.2).map Sigma.fst := by
    intro k hk
    obtain ⟨⟨k, r⟩, he, rfl⟩ := List.mem_map.mp hk
    obtain ⟨hmem, hp⟩ := List.mem_filter.mp he
    obtain ⟨r', hr', hq⟩ := h k r (AList.mem_lookup_iff.mpr hmem) hp
    exact List.mem_map.mpr ⟨⟨k, r'⟩, List.mem_filter.mpr ⟨AList.mem_lookup_iff.mp hr', hq⟩, rfl⟩
  have hnodup : ((t.entries.filter fun e => p e.1 e.2).map Sigma.fst).Nodup :=
    t.nodupKeys.sublist List.filter_sublist
  have hle := (List.subperm_of_subset hnodup hkeys).length_le
  rw [List.length_map, List.length_map] at hle
  simpa only [entryCount, List.countP_eq_length_filter] using hle

theorem rowCount_le {p q : ρ → Bool} {t t' : Table κ ρ}
    (h : ∀ k r, t.lookup k = some r → p r = true → ∃ r', t'.lookup k = some r' ∧ q r' = true) :
    rowCount p t ≤ rowCount q t' := by
  rw [rowCount_eq_entryCount, rowCount_eq_entryCount]
  exact entryCount_le h

/-! ## Sums over the rows -/

section Total

variable {M : Type} [AddCommMonoid M] (g : κ → ρ → M)

/-- What the rows contribute together. -/
def total (t : Table κ ρ) : M := (t.entries.map fun e => g e.1 e.2).sum

theorem total_insert (t : Table κ ρ) (k : κ) (r : ρ) :
    total g (t.insert k r) = g k r + total g (t.erase k) := by
  simp only [total, AList.entries_insert, List.map_cons, List.sum_cons]
  rfl

theorem total_of_lookup {t : Table κ ρ} {k : κ} {r : ρ} (h : t.lookup k = some r) :
    total g t = g k r + total g (t.erase k) := by
  obtain ⟨l₁, l₂, heq, herase⟩ := entries_split h
  have herase' : (t.erase k).entries = l₁ ++ l₂ := herase
  simp only [total, heq, herase', List.map_append, List.map_cons, List.sum_append, List.sum_cons]
  rw [← add_assoc, ← add_assoc, add_comm (g k r)]

theorem total_of_none {t : Table κ ρ} {k : κ} (h : t.lookup k = none) :
    total g (t.erase k) = total g t := by
  have hk : k ∉ t.entries.keys := AList.lookup_eq_none.mp h
  have herase : (t.erase k).entries = t.entries := List.kerase_of_notMem_keys hk
  rw [total, total, herase]

theorem total_congr {g g' : κ → ρ → M} {t : Table κ ρ}
    (h : ∀ k r, t.lookup k = some r → g k r = g' k r) : total g t = total g' t := by
  refine congrArg List.sum (List.map_congr_left fun e he => ?_)
  exact h e.1 e.2 (AList.mem_lookup_iff.mpr he)

end Total

/-! ## Generated keys -/

/-- The next value of a table's key sequence. -/
def freshKey (t : Table Nat ρ) : Nat := t.keys.foldr max 0 + 1

theorem lt_freshKey {t : Table Nat ρ} {k : Nat} (h : k ∈ t) : k < freshKey t := by
  have hle : ∀ l : List Nat, k ∈ l → k ≤ l.foldr max 0 := by
    intro l hl
    induction l with
    | nil => cases hl
    | cons a l ih =>
        rcases List.mem_cons.mp hl with rfl | hl
        · exact Nat.le_max_left _ _
        · exact Nat.le_trans (ih hl) (Nat.le_max_right _ _)
  exact Nat.lt_succ_of_le (hle _ h)

@[simp] theorem lookup_freshKey (t : Table Nat ρ) : t.lookup (freshKey t) = none :=
  AList.lookup_eq_none.mpr fun h => Nat.lt_irrefl _ (lt_freshKey h)

theorem ne_freshKey {t : Table Nat ρ} {k : Nat} {r : ρ} (h : t.lookup k = some r) :
    k ≠ freshKey t := by
  rintro rfl
  rw [lookup_freshKey] at h
  cases h

end Table
