import Mathlib.Data.List.Nodup
import Mathlib.Data.List.Basic

/-!
# Keyed tables

A relational table with a primary key: its rows in insertion order together
with the proof that no two rows share a key.  The operations are the SQL
statements programs issue against such a table, and each comes with one rule
that says what a lookup finds afterwards.  Programs are verified through these
rules, so the row order stays available without entering any proof that does
not depend on it.
-/

namespace ResilientMessenger

structure Table {ρ κ : Type} (key : ρ → κ) where
  rows : List ρ
  nodup : (rows.map key).Nodup

namespace Table

variable {ρ κ : Type} {key : ρ → κ}

@[ext]
theorem ext {left right : Table key} (hrows : left.rows = right.rows) :
    left = right := by
  cases left
  cases right
  cases hrows
  rfl

instance [DecidableEq ρ] : DecidableEq (Table key) := fun left right =>
  decidable_of_iff (left.rows = right.rows)
    ⟨Table.ext, congrArg Table.rows⟩

def empty : Table key := ⟨[], List.nodup_nil⟩

/-- `UPDATE … SET … WHERE cond`: a key-preserving rewrite of the selected
rows. -/
def update (table : Table key) (cond : ρ → Bool) (f : ρ → ρ)
    (hkey : ∀ row, key (f row) = key row) : Table key where
  rows := table.rows.map fun row => if cond row then f row else row
  nodup := by
    have hmap : (table.rows.map fun row => if cond row then f row else row).map
        key = table.rows.map key := by
      rw [List.map_map]
      apply List.map_congr_left
      intro row _
      by_cases hcond : cond row <;> simp [hcond, hkey]
    rw [hmap]
    exact table.nodup

/-- `DELETE … WHERE cond`. -/
def delete (table : Table key) (cond : ρ → Bool) : Table key where
  rows := table.rows.filter fun row => !cond row
  nodup := table.nodup.sublist (List.filter_sublist.map key)

/-- Repeating a rewrite whose results it selects and keeps does nothing more. -/
theorem update_update (table : Table key) (cond : ρ → Bool) (f : ρ → ρ)
    (hkey : ∀ row, key (f row) = key row)
    (hsettled : ∀ row, cond row = true → f (f row) = f row) :
    (table.update cond f hkey).update cond f hkey =
      table.update cond f hkey := by
  apply Table.ext
  simp only [update, List.map_map]
  apply List.map_congr_left
  intro row _
  by_cases hcond : cond row
  · by_cases hagain : cond (f row) <;> simp [hcond, hagain, hsettled row hcond]
  · simp [hcond]

section Keyed

variable [DecidableEq κ]

/-- The row stored under a key. -/
def lookup (table : Table key) (k : κ) : Option ρ :=
  table.rows.find? fun row => key row = k

/-- `INSERT`, which fails when the key is taken. -/
def insert? (table : Table key) (row : ρ) : Option (Table key) :=
  if h : key row ∈ table.rows.map key then none
  else some
    { rows := table.rows ++ [row]
      nodup := by
        rw [List.map_append, List.nodup_append]
        refine ⟨table.nodup, by simp, ?_⟩
        rintro left hleft right hright rfl
        simp only [List.map_cons, List.map_nil, List.mem_singleton] at hright
        exact h (hright ▸ hleft) }

/-- `INSERT … ON CONFLICT DO NOTHING`. -/
def insertOrIgnore (table : Table key) (row : ρ) : Table key :=
  (table.insert? row).getD table

/-- `UPDATE … WHERE key = k AND cond`. -/
def modify (table : Table key) (k : κ) (cond : ρ → Bool) (f : ρ → ρ)
    (hkey : ∀ row, key (f row) = key row) : Table key :=
  table.update (fun row => key row = k && cond row) f hkey

/-- `DELETE … WHERE key = k`. -/
def erase (table : Table key) (k : κ) : Table key :=
  table.delete fun row => key row = k

/-- `INSERT … ON CONFLICT DO UPDATE`. -/
def upsert (table : Table key) (row : ρ) (merge : ρ → ρ)
    (hkey : ∀ row, key (merge row) = key row) : Table key :=
  (table.insert? row).getD (table.modify (key row) (fun _ => true) merge hkey)

/-- A statement that selects the row under `k` if it satisfies `cond` affects
one row or none. -/
def affects (table : Table key) (k : κ) (cond : ρ → Bool) : Bool :=
  (table.lookup k).any cond

/-! ## What a lookup finds -/

@[simp]
theorem lookup_empty (k : κ) : (empty : Table key).lookup k = none := rfl

theorem key_of_lookup {table : Table key} {k : κ} {row : ρ}
    (hlookup : table.lookup k = some row) : key row = k := by
  simpa using List.find?_some hlookup

theorem mem_of_lookup {table : Table key} {k : κ} {row : ρ}
    (hlookup : table.lookup k = some row) : row ∈ table.rows :=
  List.mem_of_find?_eq_some hlookup

theorem lookup_eq_none_iff {table : Table key} {k : κ} :
    table.lookup k = none ↔ k ∉ table.rows.map key := by
  simp [lookup, List.find?_eq_none]

private theorem find?_of_mem {rows : List ρ} (hnodup : (rows.map key).Nodup)
    {row : ρ} (hmem : row ∈ rows) :
    rows.find? (fun other => key other = key row) = some row := by
  induction rows with
  | nil => simp at hmem
  | cons head tail ih =>
      rw [List.map_cons, List.nodup_cons] at hnodup
      by_cases hhead : head = row
      · simp [hhead]
      · have htail : row ∈ tail := by
          rcases List.mem_cons.mp hmem with heq | htail
          · exact absurd heq.symm hhead
          · exact htail
        have hkey : key head ≠ key row := fun heq =>
          hnodup.1 (heq ▸ List.mem_map_of_mem htail)
        rw [List.find?_cons_of_neg (by simpa using hkey)]
        exact ih hnodup.2 htail

/-- Membership is lookup: the primary key identifies a row. -/
theorem mem_rows_iff {table : Table key} {row : ρ} :
    row ∈ table.rows ↔ table.lookup (key row) = some row :=
  ⟨find?_of_mem table.nodup, mem_of_lookup⟩

theorem lookup_eq_some_iff {table : Table key} {k : κ} {row : ρ} :
    table.lookup k = some row ↔ row ∈ table.rows ∧ key row = k := by
  constructor
  · intro hlookup
    exact ⟨mem_of_lookup hlookup, key_of_lookup hlookup⟩
  · rintro ⟨hmem, rfl⟩
    exact mem_rows_iff.mp hmem

theorem insert?_eq_none_iff {table : Table key} {row : ρ} :
    table.insert? row = none ↔ table.lookup (key row) ≠ none := by
  unfold insert?
  rw [Ne, lookup_eq_none_iff]
  split <;> simp_all

theorem insert?_eq_some_iff {table result : Table key} {row : ρ} :
    table.insert? row = some result ↔
      table.lookup (key row) = none ∧ result.rows = table.rows ++ [row] := by
  unfold insert?
  rw [lookup_eq_none_iff]
  split
  case isTrue htaken => simp [htaken]
  case isFalse hfree =>
    simp only [Option.some.injEq, hfree, not_false_eq_true, true_and]
    exact ⟨fun heq => heq ▸ rfl, fun hrows => Table.ext hrows.symm⟩

/-- A free key can be inserted. -/
theorem exists_insert? {table : Table key} {row : ρ}
    (hfree : table.lookup (key row) = none) :
    ∃ result, table.insert? row = some result := by
  cases hinsert : table.insert? row with
  | none => exact absurd hfree (insert?_eq_none_iff.mp hinsert)
  | some result => exact ⟨result, rfl⟩

theorem lookup_insert? {table result : Table key} {row : ρ}
    (hinsert : table.insert? row = some result) (k : κ) :
    result.lookup k = if k = key row then some row else table.lookup k := by
  obtain ⟨hfree, hrows⟩ := insert?_eq_some_iff.mp hinsert
  unfold lookup at hfree ⊢
  rw [hrows, List.find?_append]
  by_cases hk : k = key row
  · subst hk
    simp [hfree]
  · have hne : ¬key row = k := fun heq => hk heq.symm
    simp [hk, hne]

theorem mem_insert? {table result : Table key} {row found : ρ}
    (hinsert : table.insert? row = some result) (hfound : found ∈ result.rows) :
    found ∈ table.rows ∨ found = row := by
  rw [(insert?_eq_some_iff.mp hinsert).2, List.mem_append, List.mem_singleton] at hfound
  exact hfound

theorem lookup_inserted {table result : Table key} {row : ρ}
    (hinsert : table.insert? row = some result) : result.lookup (key row) = some row := by
  rw [lookup_insert? hinsert, if_pos rfl]

/-- An insertion leaves the other rows where they are. -/
theorem lookup_kept {table result : Table key} {row found : ρ} {k : κ}
    (hinsert : table.insert? row = some result) (hlookup : table.lookup k = some found) :
    result.lookup k = some found := by
  have hfree := (insert?_eq_some_iff.mp hinsert).1
  have hother : k ≠ key row := by
    rintro rfl
    rw [hlookup] at hfree
    cases hfree
  rw [lookup_insert? hinsert, if_neg hother]
  exact hlookup

/-- A row found after a rewrite was there before or is the image of one that was. -/
theorem mem_modify {table : Table key} {k : κ} {cond : ρ → Bool} {f : ρ → ρ}
    (hkey : ∀ row, key (f row) = key row) {row : ρ}
    (hrow : row ∈ (table.modify k cond f hkey).rows) :
    ∃ old ∈ table.rows, row = old ∨ row = f old := by
  obtain ⟨old, hold, rfl⟩ := List.mem_map.mp hrow
  refine ⟨old, hold, ?_⟩
  split
  · exact .inr rfl
  · exact .inl rfl

theorem lookup_update (table : Table key) (cond : ρ → Bool) (f : ρ → ρ)
    (hkey : ∀ row, key (f row) = key row) (k : κ) :
    (table.update cond f hkey).lookup k =
      (table.lookup k).map fun row => if cond row then f row else row := by
  unfold lookup update
  rw [List.find?_map]
  congr 2
  funext row
  by_cases hcond : cond row <;> simp [hcond, hkey]

theorem lookup_modify (table : Table key) (k : κ) (cond : ρ → Bool) (f : ρ → ρ)
    (hkey : ∀ row, key (f row) = key row) (other : κ) :
    (table.modify k cond f hkey).lookup other =
      if other = k then
        (table.lookup k).map fun row => if cond row then f row else row
      else table.lookup other := by
  rw [modify, lookup_update]
  cases hlookup : table.lookup other with
  | none =>
      by_cases hother : other = k
      · subst hother
        simp [hlookup]
      · simp [hother]
  | some row =>
      have hrow := key_of_lookup hlookup
      by_cases hother : other = k
      · subst hother
        simp [hrow, hlookup]
      · simp [hrow, hother]

theorem lookup_delete (table : Table key) (cond : ρ → Bool) (k : κ) :
    (table.delete cond).lookup k =
      (table.lookup k).filter fun row => !cond row := by
  apply Option.ext
  intro row
  rw [lookup_eq_some_iff, Option.filter_eq_some_iff, lookup_eq_some_iff]
  simp only [delete, List.mem_filter]
  tauto

@[simp]
theorem lookup_erase (table : Table key) (k other : κ) :
    (table.erase k).lookup other =
      if other = k then none else table.lookup other := by
  rw [erase, lookup_delete]
  cases hlookup : table.lookup other with
  | none => simp
  | some row =>
      have hrow := key_of_lookup hlookup
      by_cases hother : other = k <;> simp [hrow, hother]

/-- A row found after an insertion was inserted or was there before. -/
theorem lookup_insertOrIgnore_cases {table : Table key} {row found : ρ} {k : κ}
    (hfound : (table.insertOrIgnore row).lookup k = some found) :
    found = row ∨ table.lookup k = some found := by
  unfold insertOrIgnore at hfound
  cases hinsert : table.insert? row with
  | none =>
      rw [hinsert] at hfound
      exact .inr hfound
  | some result =>
      rw [hinsert, Option.getD_some, lookup_insert? hinsert] at hfound
      split at hfound
      · exact .inl (Option.some.inj hfound).symm
      · exact .inr hfound

/-- An insertion that ignores taken keys changes no stored row. -/
theorem lookup_insertOrIgnore_of_some {table : Table key} {found : ρ} {k : κ}
    (hfound : table.lookup k = some found) (row : ρ) :
    (table.insertOrIgnore row).lookup k = some found := by
  unfold insertOrIgnore
  cases hinsert : table.insert? row with
  | none => exact hfound
  | some result =>
      rw [Option.getD_some, lookup_insert? hinsert]
      split
      case isTrue hk =>
        have hfree := (insert?_eq_some_iff.mp hinsert).1
        rw [← hk, hfound] at hfree
        cases hfree
      case isFalse => exact hfound

theorem lookup_erase_eq_some {table : Table key} {k other : κ} {row : ρ} :
    (table.erase k).lookup other = some row ↔
      other ≠ k ∧ table.lookup other = some row := by
  rw [lookup_erase]
  by_cases hother : other = k <;> simp [hother]

theorem lookup_upsert (table : Table key) (row : ρ) (merge : ρ → ρ)
    (hkey : ∀ row, key (merge row) = key row) (k : κ) :
    (table.upsert row merge hkey).lookup k =
      if k = key row then some (((table.lookup k).map merge).getD row)
      else table.lookup k := by
  unfold upsert
  cases hinsert : table.insert? row with
  | none =>
      have htaken := insert?_eq_none_iff.mp hinsert
      obtain ⟨found, hfound⟩ := Option.ne_none_iff_exists'.mp htaken
      rw [Option.getD_none, lookup_modify]
      by_cases hk : k = key row
      · subst hk
        simp [hfound]
      · simp [hk]
  | some result =>
      have hfree := (insert?_eq_some_iff.mp hinsert).1
      rw [Option.getD_some, lookup_insert? hinsert]
      by_cases hk : k = key row
      · subst hk
        simp [hfree]
      · simp [hk]

/-- Rewriting the row that was just inserted rewrites no other. -/
theorem rows_modify_insert? {table result : Table key} {row : ρ} {f : ρ → ρ}
    (hkey : ∀ row, key (f row) = key row)
    (hinsert : table.insert? row = some result) :
    (result.modify (key row) (fun _ => true) f hkey).rows =
      table.rows ++ [f row] := by
  obtain ⟨hfree, hrows⟩ := insert?_eq_some_iff.mp hinsert
  have hothers : table.rows.map (fun other =>
      if key other = key row then f other else other) = table.rows := by
    conv_rhs => rw [← List.map_id table.rows]
    apply List.map_congr_left
    intro other hother
    have hne : key other ≠ key row := fun heq =>
      lookup_eq_none_iff.mp hfree (heq ▸ List.mem_map_of_mem hother)
    rw [if_neg hne, id]
  simp [modify, update, hrows, hothers]

theorem keys_modify (table : Table key) (k : κ) (cond : ρ → Bool) (f : ρ → ρ)
    (hkey : ∀ row, key (f row) = key row) :
    (table.modify k cond f hkey).rows.map key = table.rows.map key := by
  simp only [modify, update, List.map_map]
  apply List.map_congr_left
  intro row _
  rw [Function.comp_apply, apply_ite key, hkey, ite_self]

/-- A statement that affects no row changes nothing. -/
theorem modify_of_unaffected {table : Table key} {k : κ} {cond : ρ → Bool} {f : ρ → ρ}
    (hkey : ∀ row, key (f row) = key row) (hnone : table.affects k cond = false) :
    table.modify k cond f hkey = table := by
  apply Table.ext
  simp only [modify, update]
  conv_rhs => rw [← List.map_id table.rows]
  apply List.map_congr_left
  intro row hrow
  by_cases hk : key row = k
  · have hlookup := mem_rows_iff.mp hrow
    rw [hk] at hlookup
    rw [affects, hlookup] at hnone
    have hcond : cond row = false := by simpa using hnone
    simp [hk, hcond]
  · simp [hk]

/-- A table that keeps the keys in their order is the rewrite of the old one row
by row. -/
theorem rows_eq_map {table result : Table key} {f : ρ → ρ}
    (hkeys : result.rows.map key = table.rows.map key)
    (hrows : ∀ row ∈ table.rows, result.lookup (key row) = some (f row)) :
    result.rows = table.rows.map f := by
  have hfound : result.rows.filterMap (result.lookup ∘ key) = result.rows := by
    conv_rhs => rw [← List.filterMap_some (l := result.rows)]
    apply List.filterMap_congr
    intro row hrow
    exact mem_rows_iff.mp hrow
  calc result.rows
      = (result.rows.map key).filterMap result.lookup := by
        rw [List.filterMap_map, hfound]
    _ = table.rows.filterMap (result.lookup ∘ key) := by
        rw [hkeys, List.filterMap_map]
    _ = table.rows.filterMap (some ∘ f) := List.filterMap_congr hrows
    _ = table.rows.map f := congrFun List.filterMap_eq_map table.rows

end Keyed

end Table

end ResilientMessenger
