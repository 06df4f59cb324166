import Mathlib.Data.List.Sort
import Mathlib.Data.List.Nodup
import Mathlib.Data.List.Perm.Subperm
import Mathlib.Order.MinMax

/-!
# Pages of a keyed list

A page is an initial segment of a list in key order.  When no two elements
share a key, a page leaves no gap: with an element it contains every element
of a smaller key.  A reader that remembers the largest key it has seen can
therefore continue from it.
-/

namespace ResilientMessenger.Paging

variable {ρ κ : Type} [LinearOrder κ] {key : ρ → κ} {rows : List ρ}

/-- The elements of `rows` with the `size` smallest keys, in key order. -/
def pageOf (key : ρ → κ) (size : ℕ) (rows : List ρ) : List ρ :=
  (rows.insertionSort fun left right => key left ≤ key right).take size

theorem mem_of_mem_pageOf {size : ℕ} {row : ρ} (hrow : row ∈ pageOf key size rows) :
    row ∈ rows :=
  (List.mem_insertionSort _).mp (List.mem_of_mem_take hrow)

theorem pageOf_subperm (key : ρ → κ) (size : ℕ) (rows : List ρ) :
    (pageOf key size rows).Subperm rows :=
  (List.take_sublist size _).subperm.trans
    (List.perm_insertionSort _ rows).subperm

theorem nodup_pageOf (size : ℕ) (hnodup : rows.Nodup) :
    (pageOf key size rows).Nodup :=
  ((List.perm_insertionSort _ rows).nodup_iff.mpr hnodup).sublist
    (List.take_sublist size _)

/-- A page contains everything up to each of its elements. -/
theorem mem_pageOf_of_le {size : ℕ} (hdistinct : (rows.map key).Nodup)
    {seen row : ρ} (hseen : seen ∈ pageOf key size rows) (hrow : row ∈ rows)
    (hle : key row ≤ key seen) : row ∈ pageOf key size rows := by
  have hsorted := List.pairwise_insertionSort
    (fun left right : ρ => key left ≤ key right) rows
  have hmem : row ∈ rows.insertionSort fun left right => key left ≤ key right :=
    (List.mem_insertionSort _).mpr hrow
  rw [← List.take_append_drop size (rows.insertionSort _)] at hsorted hmem
  rcases List.mem_append.mp hmem with htake | hdrop
  · exact htake
  · have hge : key seen ≤ key row :=
      (List.pairwise_append.mp hsorted).2.2 seen hseen row hdrop
    have hsame : row = seen := List.inj_on_of_nodup_map hdistinct hrow
      (mem_of_mem_pageOf hseen) (le_antisymm hle hge)
    rw [hsame]
    exact hseen

/-! ## Pages of parts -/

/-- All elements in key order. -/
def inOrder (key : ρ → κ) (rows : List ρ) : List ρ :=
  rows.insertionSort fun left right => key left ≤ key right

theorem pageOf_eq_take (key : ρ → κ) (size : ℕ) (rows : List ρ) :
    pageOf key size rows = (inOrder key rows).take size := rfl

theorem perm_inOrder (key : ρ → κ) (rows : List ρ) : (inOrder key rows).Perm rows :=
  List.perm_insertionSort _ rows

theorem mem_inOrder {row : ρ} : row ∈ inOrder key rows ↔ row ∈ rows :=
  (perm_inOrder key rows).mem_iff

theorem pairwise_inOrder (key : ρ → κ) (rows : List ρ) :
    (inOrder key rows).Pairwise fun left right => key left ≤ key right :=
  List.pairwise_insertionSort _ rows

/-- Without ties the keys ascend strictly. -/
theorem strict_inOrder (hdistinct : (rows.map key).Nodup) :
    (inOrder key rows).Pairwise fun left right => key left < key right := by
  have hkeys : ((inOrder key rows).map key).Nodup :=
    ((perm_inOrder key rows).map key).nodup_iff.mpr hdistinct
  apply List.Pairwise.imp₂ _ (pairwise_inOrder key rows)
    (List.pairwise_map.mp hkeys)
  intro left right hle hne
  exact lt_of_le_of_ne hle hne

/-- Without ties the order is determined by the elements. -/
theorem inOrder_eq_of_perm {other : List ρ} (hdistinct : (rows.map key).Nodup)
    (hperm : other.Perm rows)
    (hsorted : other.Pairwise fun left right => key left ≤ key right) :
    inOrder key rows = other := by
  apply List.Perm.eq_of_pairwise _ (pairwise_inOrder key rows) hsorted
    ((perm_inOrder key rows).trans hperm.symm)
  intro left right hleft hright hle hge
  exact List.inj_on_of_nodup_map hdistinct (mem_inOrder.mp hleft)
    (hperm.mem_iff.mp hright) (le_antisymm hle hge)

omit [LinearOrder κ] in
theorem distinct_filter (p : ρ → Bool) (hdistinct : (rows.map key).Nodup) :
    ((rows.filter p).map key).Nodup :=
  hdistinct.sublist (List.filter_sublist.map key)

theorem inOrder_filter (p : ρ → Bool) (hdistinct : (rows.map key).Nodup) :
    inOrder key (rows.filter p) = (inOrder key rows).filter p :=
  inOrder_eq_of_perm (distinct_filter p hdistinct) ((perm_inOrder key rows).filter p)
    ((pairwise_inOrder key rows).filter p)

/-- What a page shows of a part, the page of that part shows as well. -/
theorem mem_pageOf_filter {size : ℕ} {row : ρ} {p : ρ → Bool}
    (hdistinct : (rows.map key).Nodup) (hrow : row ∈ pageOf key size rows)
    (hpart : p row = true) : row ∈ pageOf key size (rows.filter p) := by
  rw [pageOf_eq_take] at hrow ⊢
  rw [inOrder_filter p hdistinct]
  have hinitial : ((inOrder key rows).take size).filter p <+:
      (inOrder key rows).filter p :=
    (List.take_prefix size _).filter p
  have hlength : (((inOrder key rows).take size).filter p).length ≤ size :=
    (List.length_filter_le _ _).trans (List.length_take_le _ _)
  have hpage : ((inOrder key rows).take size).filter p <+:
      ((inOrder key rows).filter p).take size :=
    List.prefix_take_iff.mpr ⟨hinitial, hlength⟩
  exact hpage.subset (List.mem_filter.mpr ⟨hrow, hpart⟩)

/-- Elements outside the page can be left out before the page is taken. -/
theorem pageOf_eq_of_subset {size : ℕ} {part : List ρ} [DecidableEq ρ]
    (hdistinct : (rows.map key).Nodup) (hnodup : part.Nodup) (hpart : part ⊆ rows)
    (hpage : pageOf key size rows ⊆ part) :
    pageOf key size part = pageOf key size rows := by
  have hperm : part.Perm (rows.filter fun row => row ∈ part) := by
    apply (List.perm_ext_iff_of_nodup hnodup (hdistinct.of_map.filter _)).mpr
    intro row
    simp only [List.mem_filter, decide_eq_true_eq]
    exact ⟨fun hrow => ⟨hpart hrow, hrow⟩, fun hrow => hrow.2⟩
  have hkeys : (part.map key).Nodup :=
    (hperm.map key).nodup_iff.mpr (distinct_filter _ hdistinct)
  have horder : inOrder key part = (inOrder key rows).filter fun row => row ∈ part := by
    rw [← inOrder_filter _ hdistinct]
    exact inOrder_eq_of_perm hkeys ((perm_inOrder key _).trans hperm.symm)
      (pairwise_inOrder key _)
  rw [pageOf_eq_take] at hpage
  rw [pageOf_eq_take, pageOf_eq_take, horder]
  have hkept : ((inOrder key rows).take size).filter (fun row => row ∈ part) =
      (inOrder key rows).take size := by
    apply List.filter_eq_self.mpr
    intro row hrow
    exact decide_eq_true (hpage hrow)
  calc ((inOrder key rows).filter fun row => row ∈ part).take size
      = (((inOrder key rows).take size ++ (inOrder key rows).drop size).filter
          fun row => row ∈ part).take size := by rw [List.take_append_drop]
    _ = (inOrder key rows).take size := by
      rw [List.filter_append, hkept]
      rcases Nat.le_total size (inOrder key rows).length with hlong | hshort
      · rw [List.take_append_of_le_length (by simp [hlong]), List.take_take, min_self]
      · simp [List.take_of_length_le hshort, List.drop_of_length_le hshort]

/-- The keys alone decide what is on a page. -/
theorem pageOf_map {τ : Type} (f : ρ → τ) (shown : τ → κ) (size : ℕ) (rows : List ρ) :
    pageOf shown size (rows.map f) =
      (pageOf (fun row => shown (f row)) size rows).map f := by
  unfold pageOf
  rw [List.map_take]
  congr 1
  exact (List.map_insertionSort _ (fun left right => shown left ≤ shown right) f rows
    fun _ _ _ _ => Iff.rfl).symm

/-- What comes after the last element of a page is what the page cut off. -/
theorem filter_after_last {size : ℕ} {last : ρ} {sorted : List ρ}
    (hsorted : sorted.Pairwise fun left right => key left < key right)
    (hlast : (sorted.take size).getLast? = some last) :
    sorted.filter (fun row => key last < key row) = sorted.drop size := by
  obtain ⟨earlier, hpage⟩ := List.getLast?_eq_some_iff.mp hlast
  have hsplit : sorted = earlier ++ [last] ++ sorted.drop size := by
    rw [← hpage, List.take_append_drop]
  have hpairs := hsorted
  rw [hsplit] at hpairs
  obtain ⟨hfront, -, hcross⟩ := List.pairwise_append.mp hpairs
  obtain ⟨-, -, hbefore⟩ := List.pairwise_append.mp hfront
  have hnone : (earlier ++ [last]).filter (fun row => key last < key row) = [] := by
    apply List.filter_eq_nil_iff.mpr
    intro row hrow
    rcases List.mem_append.mp hrow with hearlier | hself
    · have hlt := hbefore row hearlier last (List.mem_singleton_self last)
      simpa using hlt.le
    · rw [List.mem_singleton.mp hself]
      simp
  have hall : (sorted.drop size).filter (fun row => key last < key row) =
      sorted.drop size := by
    apply List.filter_eq_self.mpr
    intro row hrow
    exact decide_eq_true (hcross last (by simp) row hrow)
  calc sorted.filter (fun row => key last < key row)
      = (earlier ++ [last] ++ sorted.drop size).filter
          (fun row => key last < key row) := by rw [← hsplit]
    _ = sorted.drop size := by rw [List.filter_append, hnone, hall, List.nil_append]

/-! ## Marks -/

/-- The largest of the keys already seen and those of a new page. -/
def advance (seen : κ) (keys : List κ) : κ := keys.foldl max seen

theorem le_advance (seen : κ) (keys : List κ) : seen ≤ advance seen keys := by
  induction keys generalizing seen with
  | nil => exact le_refl seen
  | cons head tail ih => exact le_trans (le_max_left seen head) (ih _)

/-- The mark moves to a key of the page or stays where it was. -/
theorem advance_cases (seen : κ) (keys : List κ) :
    advance seen keys = seen ∨ advance seen keys ∈ keys := by
  induction keys generalizing seen with
  | nil => exact .inl rfl
  | cons head tail ih =>
      rcases ih (max seen head) with hsame | hmem
      · rcases max_choice seen head with hseen | hhead
        · exact .inl (hsame.trans hseen)
        · exact .inr (List.mem_cons.mpr (.inl (hsame.trans hhead)))
      · exact .inr (List.mem_cons_of_mem head hmem)

end ResilientMessenger.Paging
