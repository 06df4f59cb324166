import Mathlib.Data.List.Sort

/-!
# Stable sorting by a key

Insertion by the order of a key keeps the elements of one key in the order in
which they stood, and that together with the order of the keys determines the
result.  So two lists have the same stable sort exactly when they agree class by
class (`sortBy_eq_iff`), and agreement for a key implies agreement for every
finer one (`sortBy_congr`).
-/

namespace ResilientMessenger.StableSort

variable {α κ μ : Type*} [LinearOrder κ] [LinearOrder μ]

/-- The stable sort by a key. -/
def sortBy (key : α → κ) (items : List α) : List α :=
  items.insertionSort fun left right => key left ≤ key right

/-- The elements with one key, in their order. -/
def ofKey (key : α → κ) (k : κ) (items : List α) : List α :=
  items.filter fun item => key item = k

/-- Sorting by a relation that compares keys is sorting by the key. -/
theorem insertionSort_eq_sortBy {key : α → κ} (r : α → α → Prop) [DecidableRel r]
    (hkey : ∀ left right, r left right ↔ key left ≤ key right) (items : List α) :
    items.insertionSort r = sortBy key items := by
  have hrelation : r = fun left right => key left ≤ key right := by
    funext left right
    exact propext (hkey left right)
  subst hrelation
  unfold sortBy
  congr

theorem perm_sortBy (key : α → κ) (items : List α) :
    (sortBy key items).Perm items :=
  List.perm_insertionSort _ items

/-- The elements an insertion passes have smaller keys. -/
theorem ofKey_orderedInsert (key : α → κ) (k : κ) (item : α) (items : List α) :
    ofKey key k (items.orderedInsert (fun left right => key left ≤ key right) item) =
      ofKey key k (item :: items) := by
  induction items with
  | nil => rfl
  | cons head items ih =>
      rw [List.orderedInsert_cons]
      split
      · rfl
      case isFalse hpassed =>
        have hless : key head < key item := lt_of_not_ge hpassed
        unfold ofKey at ih ⊢
        rw [List.filter_cons, ih]
        by_cases hhead : key head = k
        · have hitem : key item ≠ k := by
            rw [← hhead]
            exact hless.ne'
          simp [hhead, hitem]
        · simp [List.filter_cons, hhead]

/-- A stable sort keeps every class as it is. -/
theorem ofKey_sortBy (key : α → κ) (k : κ) (items : List α) :
    ofKey key k (sortBy key items) = ofKey key k items := by
  induction items with
  | nil => rfl
  | cons item items ih =>
      unfold sortBy at ih ⊢
      rw [List.insertionSort_cons, ofKey_orderedInsert]
      unfold ofKey at ih ⊢
      rw [List.filter_cons, List.filter_cons, ih]

/-- Sorted by the key, equal keys allowed. -/
def SortedBy (key : α → κ) (items : List α) : Prop :=
  items.Pairwise fun left right => key left ≤ key right

theorem sortedBy_sortBy (key : α → κ) (items : List α) :
    SortedBy key (sortBy key items) := by
  have : Std.Total fun left right : α => key left ≤ key right :=
    ⟨fun left right => le_total (key left) (key right)⟩
  have : IsTrans α fun left right => key left ≤ key right :=
    ⟨fun _ _ _ hfirst hsecond => hfirst.trans hsecond⟩
  exact List.pairwise_insertionSort _ items

theorem sortBy_eq_self_iff {key : α → κ} {items : List α} :
    sortBy key items = items ↔ SortedBy key items := by
  constructor
  · intro hsame
    rw [← hsame]
    exact sortedBy_sortBy key items
  · intro hsorted
    exact List.Pairwise.insertionSort_eq hsorted

/-- The head of a sorted list has the least key. -/
theorem key_head_le {key : α → κ} {head other : α} {items : List α}
    (hsorted : SortedBy key (head :: items)) (hother : other ∈ head :: items) :
    key head ≤ key other := by
  rcases List.mem_cons.mp hother with rfl | htail
  · exact le_rfl
  · exact (List.pairwise_cons.mp hsorted).1 other htail

theorem mem_of_ofKey_eq {key : α → κ} {left right : List α} {item : α}
    (hclasses : ∀ k, ofKey key k left = ofKey key k right) (hitem : item ∈ left) :
    item ∈ right := by
  have hclass : item ∈ ofKey key (key item) left :=
    List.mem_filter.mpr ⟨hitem, decide_eq_true rfl⟩
  rw [hclasses] at hclass
  exact (List.mem_filter.mp hclass).1

/-- A sorted list is determined by its classes. -/
theorem eq_of_ofKey_eq {key : α → κ} {left right : List α}
    (hleft : SortedBy key left) (hright : SortedBy key right)
    (hclasses : ∀ k, ofKey key k left = ofKey key k right) : left = right := by
  induction left generalizing right with
  | nil =>
      cases right with
      | nil => rfl
      | cons head right =>
          have hmem := mem_of_ofKey_eq (fun k => (hclasses k).symm)
            (List.mem_cons_self (a := head) (l := right))
          cases hmem
  | cons first left ih =>
      cases right with
      | nil =>
          have hmem := mem_of_ofKey_eq hclasses
            (List.mem_cons_self (a := first) (l := left))
          cases hmem
      | cons second right =>
          have hkey : key first = key second := by
            apply le_antisymm
            · exact key_head_le hleft (mem_of_ofKey_eq (fun k => (hclasses k).symm)
                List.mem_cons_self)
            · exact key_head_le hright (mem_of_ofKey_eq hclasses List.mem_cons_self)
          have hheads := hclasses (key first)
          simp only [ofKey, List.filter_cons, hkey, decide_true, if_true,
            List.cons.injEq] at hheads
          obtain ⟨rfl, htails⟩ := hheads
          congr 1
          apply ih (List.pairwise_cons.mp hleft).2 (List.pairwise_cons.mp hright).2
          intro k
          by_cases hk : key first = k
          · subst hk
            exact htails
          · have hclass := hclasses k
            simpa [ofKey, List.filter_cons, hk] using hclass

theorem sortBy_eq_iff {key : α → κ} {left right : List α} :
    sortBy key left = sortBy key right ↔
      ∀ k, ofKey key k left = ofKey key k right := by
  constructor
  · intro hsorts k
    rw [← ofKey_sortBy, hsorts, ofKey_sortBy]
  · intro hclasses
    apply eq_of_ofKey_eq (sortedBy_sortBy key left) (sortedBy_sortBy key right)
    intro k
    rw [ofKey_sortBy, hclasses, ofKey_sortBy]

/-- Lists with the same sort by a key have the same sort by every key that
refines it. -/
theorem sortBy_congr {coarse : α → κ} {fine : α → μ} (project : μ → κ)
    (hfine : ∀ item, project (fine item) = coarse item) {left right : List α}
    (hsorts : sortBy coarse left = sortBy coarse right) :
    sortBy fine left = sortBy fine right := by
  have hclass (k : μ) (items : List α) :
      ofKey fine k items = (ofKey coarse (project k) items).filter
        fun item => fine item = k := by
    unfold ofKey
    rw [List.filter_filter]
    apply List.filter_congr
    intro item _
    by_cases hitem : fine item = k
    · simp [hitem, ← hfine]
    · simp [hitem]
  rw [sortBy_eq_iff] at hsorts ⊢
  intro k
  rw [hclass, hclass, hsorts]

end ResilientMessenger.StableSort
