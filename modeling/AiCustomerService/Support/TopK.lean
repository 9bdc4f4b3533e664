import Mathlib.Data.List.Sort
import Mathlib.Order.Lattice

/-!
# The first elements in an order

A stable sort by a key, cut after `k` elements.  What it returns is in order, belongs to the list,
has as many elements as asked for or all of them, and nothing that is left out comes before it.
-/

namespace Support

variable {α β κ : Type} [LinearOrder κ]

/-- The first `k` elements by the key; elements with one key keep their order. -/
def topK (key : α → κ) (k : ℕ) (items : List α) : List α :=
  (items.mergeSort fun a b => decide (key a ≤ key b)).take k

variable {key : α → κ} {k : ℕ} {items : List α}

theorem sort_pairwise (key : α → κ) (items : List α) :
    (items.mergeSort fun a b => decide (key a ≤ key b)).Pairwise fun a b => key a ≤ key b := by
  have hsorted := @List.pairwise_mergeSort _ (fun a b => decide (key a ≤ key b))
    (fun a b c hab hbc => decide_eq_true (le_trans (of_decide_eq_true hab) (of_decide_eq_true hbc)))
    (fun a b => by simpa using le_total (key a) (key b)) items
  exact hsorted.imp fun h => of_decide_eq_true h

theorem topK_pairwise (key : α → κ) (k : ℕ) (items : List α) :
    (topK key k items).Pairwise fun a b => key a ≤ key b :=
  (sort_pairwise key items).sublist (List.take_sublist k _)

theorem mem_of_mem_topK {a : α} (h : a ∈ topK key k items) : a ∈ items :=
  (List.mergeSort_perm items _).mem_iff.mp (List.mem_of_mem_take h)

theorem length_topK (key : α → κ) (k : ℕ) (items : List α) :
    (topK key k items).length = min k items.length := by
  rw [topK, List.length_take, (List.mergeSort_perm items _).length_eq]

/-- The list is the elements that are returned and others, none of which comes before them. -/
theorem exists_perm_topK (key : α → κ) (k : ℕ) (items : List α) :
    ∃ others, items.Perm (topK key k items ++ others) ∧
      ∀ a ∈ topK key k items, ∀ b ∈ others, key a ≤ key b := by
  refine ⟨(items.mergeSort fun a b => decide (key a ≤ key b)).drop k, ?_, ?_⟩
  · rw [topK, List.take_append_drop]
    exact (List.mergeSort_perm items _).symm
  · have hsorted := sort_pairwise key items
    rw [← List.take_append_drop k (items.mergeSort _)] at hsorted
    exact (List.pairwise_append.mp hsorted).2.2

/-- An element that is left out comes before none that is returned. -/
theorem le_of_not_mem_topK {a b : α} (ha : a ∈ topK key k items) (hb : b ∈ items)
    (hout : b ∉ topK key k items) : key a ≤ key b := by
  obtain ⟨others, hperm, hle⟩ := exists_perm_topK key k items
  rcases List.mem_append.mp (hperm.mem_iff.mp hb) with hin | hother
  · exact absurd hin hout
  · exact hle a ha b hother

/-- All elements are returned where there is room. -/
theorem topK_perm (hroom : items.length ≤ k) : (topK key k items).Perm items := by
  have hall : (items.mergeSort fun a b => decide (key a ≤ key b)).length ≤ k := by
    rwa [(List.mergeSort_perm items _).length_eq]
  rw [topK, List.take_of_length_le hall]
  exact List.mergeSort_perm items _

/-- Where no two elements have one key, an element is returned if and only if fewer than `k`
elements come before it. -/
theorem mem_topK_iff (hkeys : (items.map key).Nodup) {a : α} (ha : a ∈ items) :
    a ∈ topK key k items ↔ items.countP (fun b => decide (key b < key a)) < k := by
  have hperm := List.mergeSort_perm items fun a b => decide (key a ≤ key b)
  have hsorted := sort_pairwise key items
  have hnodup : ((items.mergeSort fun a b => decide (key a ≤ key b)).map key).Nodup :=
    (hperm.map key).nodup_iff.mpr hkeys
  rw [topK, ← hperm.countP_eq]
  generalize items.mergeSort (fun a b => decide (key a ≤ key b)) = sorted at *
  obtain ⟨before, after, rfl⟩ := List.append_of_mem (hperm.mem_iff.mpr ha)
  obtain ⟨-, hafter, hbetween⟩ := List.pairwise_append.mp hsorted
  rw [List.map_append, List.map_cons, List.nodup_append] at hnodup
  obtain ⟨-, -, hne⟩ := hnodup
  have hbefore : ∀ b ∈ before, decide (key b < key a) = true := by
    intro b hb
    refine decide_eq_true (lt_of_le_of_ne (hbetween b hb a List.mem_cons_self) ?_)
    exact hne _ (List.mem_map_of_mem hb) _ List.mem_cons_self
  have hlater : ∀ b ∈ a :: after, ¬decide (key b < key a) = true := by
    intro b hb hlt
    rcases List.mem_cons.mp hb with rfl | hb
    · exact absurd (of_decide_eq_true hlt) (lt_irrefl _)
    · exact absurd (of_decide_eq_true hlt) ((List.pairwise_cons.mp hafter).1 b hb).not_gt
  have hfirst : a ∉ before := by
    intro hmem
    exact absurd rfl (hne _ (List.mem_map_of_mem hmem) _ List.mem_cons_self)
  rw [List.countP_append, List.countP_eq_length.mpr hbefore, List.countP_eq_zero.mpr hlater,
    Nat.add_zero, List.take_append, List.mem_append]
  constructor
  · rintro (hmem | hmem)
    · exact absurd (List.mem_of_mem_take hmem) hfirst
    · by_contra hge
      rw [Nat.sub_eq_zero_of_le (Nat.le_of_not_lt hge), List.take_zero] at hmem
      cases hmem
  · intro hlt
    obtain ⟨n, hn⟩ : ∃ n, k - before.length = n + 1 := ⟨k - before.length - 1, by omega⟩
    right
    rw [hn, List.take_succ_cons]
    exact List.mem_cons_self

end Support
