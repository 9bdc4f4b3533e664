import Mathlib.Data.List.Perm.Basic
import Mathlib.Order.Lattice

/-!
# Sorting with a comparison that can fail

A stable sort whose comparison fails on elements of different kinds.  Such a sort fails exactly if
the list has elements of two kinds, whatever elements it compares first.
-/

namespace Support

variable {α E κ ι : Type}

/-- Insert an element behind the ones that are not greater. -/
def insertChecked (lt : α → α → Except E Bool) (x : α) : List α → Except E (List α)
  | [] => .ok [x]
  | y :: rest =>
      match lt x y with
      | .error e => .error e
      | .ok true => .ok (x :: y :: rest)
      | .ok false => (insertChecked lt x rest).map (y :: ·)

/-- Insert the elements of a list one by one. -/
def insertAllChecked (lt : α → α → Except E Bool) : List α → List α → Except E (List α)
  | sorted, [] => .ok sorted
  | sorted, x :: rest =>
      match insertChecked lt x sorted with
      | .error e => .error e
      | .ok sorted => insertAllChecked lt sorted rest

/-- A stable sort by a comparison that can fail. -/
def sortChecked (lt : α → α → Except E Bool) (items : List α) : Except E (List α) :=
  insertAllChecked lt [] items

/-- Elements of one kind are compared by their keys, and those of different kinds not at all. -/
structure ComparesWithin [LinearOrder ι] (lt : α → α → Except E Bool) (kind : α → κ) (key : α → ι)
    (e : E) : Prop where
  comparable : ∀ {a b}, kind a = kind b → lt a b = .ok (decide (key a < key b))
  incomparable : ∀ {a b}, kind a ≠ kind b → lt a b = .error e

/-- All elements are of one kind. -/
def OneKind (kind : α → κ) (items : List α) : Prop :=
  ∀ a ∈ items, ∀ b ∈ items, kind a = kind b

theorem OneKind.of_perm {kind : α → κ} {items others : List α} (h : OneKind kind items)
    (hperm : others.Perm items) : OneKind kind others :=
  fun a ha b hb => h a (hperm.mem_iff.mp ha) b (hperm.mem_iff.mp hb)

section Checked

variable [LinearOrder ι] {lt : α → α → Except E Bool} {kind : α → κ} {key : α → ι} {e : E}

/-! ## Insertion -/

/-- An element is inserted among elements of its kind. -/
theorem insertChecked_ok (h : ComparesWithin lt kind key e) {x : α} {sorted : List α}
    (hkind : ∀ y ∈ sorted, kind x = kind y) :
    ∃ inserted, insertChecked lt x sorted = .ok inserted ∧ inserted.Perm (x :: sorted) ∧
      (sorted.Pairwise (fun a b => key a ≤ key b) →
        inserted.Pairwise fun a b => key a ≤ key b) ∧
      ((∀ y ∈ sorted, key y ≤ key x) → inserted = sorted ++ [x]) := by
  induction sorted with
  | nil => exact ⟨[x], rfl, .refl _, fun _ => List.pairwise_singleton _ _, fun _ => rfl⟩
  | cons y rest ih =>
      have hlt := h.comparable (hkind y List.mem_cons_self)
      by_cases hxy : key x < key y
      · rw [decide_eq_true hxy] at hlt
        refine ⟨x :: y :: rest, by rw [insertChecked, hlt], .refl _, fun hsorted => ?_,
          fun hle => ?_⟩
        · refine List.pairwise_cons.mpr ⟨fun z hz => ?_, hsorted⟩
          rcases List.mem_cons.mp hz with rfl | hz
          · exact le_of_lt hxy
          · exact le_trans (le_of_lt hxy) (List.rel_of_pairwise_cons hsorted hz)
        · exact absurd hxy (not_lt.mpr (hle y List.mem_cons_self))
      · rw [decide_eq_false hxy] at hlt
        obtain ⟨inserted, hinserted, hperm, hordered, hlast⟩ :=
          ih fun z hz => hkind z (List.mem_cons_of_mem _ hz)
        refine ⟨y :: inserted, by rw [insertChecked, hlt, hinserted]; rfl,
          (hperm.cons y).trans (.swap x y rest), fun hsorted => ?_, fun hle => ?_⟩
        · obtain ⟨hfirst, hrest⟩ := List.pairwise_cons.mp hsorted
          refine List.pairwise_cons.mpr ⟨fun z hz => ?_, hordered hrest⟩
          rcases List.mem_cons.mp (hperm.mem_iff.mp hz) with rfl | hz
          · exact not_lt.mp hxy
          · exact hfirst z hz
        · rw [hlast fun z hz => hle z (List.mem_cons_of_mem _ hz), List.cons_append]

/-- An element of another kind cannot be inserted. -/
theorem insertChecked_error (h : ComparesWithin lt kind key e) {x : α} {sorted : List α}
    (hone : OneKind kind sorted) {y : α} (hy : y ∈ sorted) (hkind : kind x ≠ kind y) :
    insertChecked lt x sorted = .error e := by
  cases sorted with
  | nil => cases hy
  | cons first rest =>
      rw [hone y hy first List.mem_cons_self] at hkind
      rw [insertChecked, h.incomparable hkind]

/-! ## The sort -/

/-- Elements of one kind are sorted. -/
theorem insertAllChecked_ok (h : ComparesWithin lt kind key e) {sorted items : List α}
    (hone : OneKind kind (sorted ++ items)) :
    ∃ result, insertAllChecked lt sorted items = .ok result ∧ result.Perm (sorted ++ items) ∧
      (sorted.Pairwise (fun a b => key a ≤ key b) →
        result.Pairwise fun a b => key a ≤ key b) ∧
      ((sorted ++ items).Pairwise (fun a b => key a ≤ key b) → result = sorted ++ items) := by
  induction items generalizing sorted with
  | nil => exact ⟨sorted, rfl, by rw [List.append_nil], id, fun _ => (List.append_nil _).symm⟩
  | cons x rest ih =>
      have hmem : x ∈ sorted ++ x :: rest := List.mem_append_right _ List.mem_cons_self
      obtain ⟨inserted, hinserted, hperm, hordered, hlast⟩ := insertChecked_ok h
        fun y hy => hone x hmem y (List.mem_append_left _ hy)
      have hall : (inserted ++ rest).Perm (sorted ++ x :: rest) :=
        (hperm.append_right rest).trans List.perm_middle.symm
      obtain ⟨result, hresult, hpermuted, hsorted, hkept⟩ := ih (hone.of_perm hall)
      refine ⟨result, by rw [insertAllChecked, hinserted]; exact hresult, hpermuted.trans hall,
        fun hbefore => hsorted (hordered hbefore), fun hordered => ?_⟩
      have hbefore : ∀ y ∈ sorted, key y ≤ key x := fun y hy =>
        (List.pairwise_append.mp hordered).2.2 y hy x List.mem_cons_self
      have hsame : inserted ++ rest = sorted ++ x :: rest := by
        rw [hlast hbefore, List.append_assoc, List.singleton_append]
      rw [← hsame] at hordered ⊢
      exact hkept hordered

/-- Elements of two kinds cannot be sorted. -/
theorem insertAllChecked_error (h : ComparesWithin lt kind key e) {sorted items : List α}
    (hsorted : OneKind kind sorted) (hmixed : ¬OneKind kind (sorted ++ items)) :
    insertAllChecked lt sorted items = .error e := by
  induction items generalizing sorted with
  | nil => exact absurd (by rwa [List.append_nil]) hmixed
  | cons x rest ih =>
      by_cases hsame : ∀ y ∈ sorted, kind x = kind y
      · obtain ⟨inserted, hinserted, hperm, -⟩ := insertChecked_ok h hsame
        have hone : OneKind kind (x :: sorted) := by
          rintro a (_ | ⟨_, ha⟩) b (_ | ⟨_, hb⟩)
          · rfl
          · exact hsame b hb
          · exact (hsame a ha).symm
          · exact hsorted a ha b hb
        have hall : (inserted ++ rest).Perm (sorted ++ x :: rest) :=
          (hperm.append_right rest).trans List.perm_middle.symm
        rw [insertAllChecked, hinserted]
        exact ih (hone.of_perm hperm) fun hkind => hmixed (hkind.of_perm hall.symm)
      · simp only [not_forall] at hsame
        obtain ⟨y, hy, hkind⟩ := hsame
        rw [insertAllChecked, insertChecked_error h hsorted hy hkind]

/-- A list of one kind is sorted, and one in order stays as it is. -/
theorem sortChecked_ok (h : ComparesWithin lt kind key e) {items : List α}
    (hone : OneKind kind items) :
    ∃ result, sortChecked lt items = .ok result ∧ result.Perm items ∧
      (result.Pairwise fun a b => key a ≤ key b) ∧
      ((items.Pairwise fun a b => key a ≤ key b) → result = items) := by
  obtain ⟨result, hresult, hperm, hsorted, hkept⟩ := insertAllChecked_ok h (by
    rwa [List.nil_append])
  exact ⟨result, hresult, hperm, hsorted .nil, hkept⟩

/-- A list of two kinds cannot be sorted. -/
theorem sortChecked_error (h : ComparesWithin lt kind key e) {items : List α}
    (hmixed : ¬OneKind kind items) : sortChecked lt items = .error e :=
  insertAllChecked_error h (fun _ ha => by cases ha) hmixed

end Checked

end Support
