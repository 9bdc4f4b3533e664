import Mathlib.Data.List.Basic
import Mathlib.Data.List.Nodup

/-!
# Tables with a unique index

A table is the list of its rows in insertion order together with the proof
that no two of them share the indexed key, so a state that violates the
unique index cannot be written down.  The operations are the three that a
service issues: an idempotent insert, a keyed lookup and an update of all the
rows that a predicate selects.
-/

namespace Support

universe u v

/-- Rows in insertion order, unique under `key`. -/
structure Table (K : Type u) (R : Type v) (key : R → K) where
  rows : List R
  unique : (rows.map key).Nodup

namespace Table

variable {K : Type u} {R : Type v} {key : R → K} [DecidableEq K]

/-- The table without rows. -/
def empty : Table K R key := ⟨[], List.nodup_nil⟩

instance : EmptyCollection (Table K R key) := ⟨empty⟩

/-- The row indexed by `k`. -/
def find? (t : Table K R key) (k : K) : Option R :=
  t.rows.find? fun row => key row = k

/-- Some row is indexed by `k`. -/
def hasKey (t : Table K R key) (k : K) : Prop := k ∈ t.rows.map key

instance (t : Table K R key) (k : K) : Decidable (t.hasKey k) :=
  inferInstanceAs (Decidable (k ∈ t.rows.map key))

/-- `INSERT ... ON DUPLICATE KEY UPDATE id = id`: append the row unless its key
is taken, and report whether a row was inserted. -/
def insertIdempotent (t : Table K R key) (row : R) : Table K R key × Bool :=
  if h : t.hasKey (key row) then (t, false)
  else
    (⟨t.rows ++ [row], by
      rw [List.map_append, List.nodup_append]
      refine ⟨t.unique, by simp, ?_⟩
      intro a ha b hb
      rw [List.map_singleton, List.mem_singleton] at hb
      rintro rfl
      exact h (hb ▸ ha)⟩, true)

omit [DecidableEq K] in
/-- An update that does not assign the index column keeps the list of keys. -/
theorem map_key_update (rows : List R) (select : R → Bool) (assign : R → R)
    (hkey : ∀ row, key (assign row) = key row) :
    (rows.map fun row => if select row then assign row else row).map key =
      rows.map key := by
  rw [List.map_map]
  apply List.map_congr_left
  intro row _
  by_cases hrow : select row = true
  · simp [hrow, hkey]
  · simp [hrow]

/-- Rewrite the rows that satisfy `select`; the index column is not assigned. -/
def updateWhere (t : Table K R key) (select : R → Bool) (assign : R → R)
    (hkey : ∀ row, key (assign row) = key row) : Table K R key :=
  ⟨t.rows.map fun row => if select row then assign row else row, by
    rw [map_key_update t.rows select assign hkey]
    exact t.unique⟩

/-! ## Membership and lookup -/

omit [DecidableEq K] in
@[simp]
theorem rows_empty : (∅ : Table K R key).rows = [] := rfl

omit [DecidableEq K] in
@[simp]
theorem rows_updateWhere (t : Table K R key) (select : R → Bool) (assign : R → R)
    (hkey : ∀ row, key (assign row) = key row) :
    (t.updateWhere select assign hkey).rows =
      t.rows.map fun row => if select row then assign row else row := rfl

theorem insertIdempotent_of_hasKey {t : Table K R key} {row : R}
    (h : t.hasKey (key row)) : t.insertIdempotent row = (t, false) := by
  rw [insertIdempotent, dif_pos h]

theorem rows_insertIdempotent_of_not_hasKey {t : Table K R key} {row : R}
    (h : ¬t.hasKey (key row)) :
    (t.insertIdempotent row).1.rows = t.rows ++ [row] := by
  rw [insertIdempotent, dif_neg h]

/-- The insert reports success exactly when the key was free. -/
theorem insertIdempotent_inserted_iff (t : Table K R key) (row : R) :
    (t.insertIdempotent row).2 = true ↔ ¬t.hasKey (key row) := by
  by_cases h : t.hasKey (key row)
  · simp [insertIdempotent, h]
  · simp [insertIdempotent, h]

/-- After the insert the key is taken, by the old row or by the new one. -/
theorem hasKey_insertIdempotent (t : Table K R key) (row : R) (k : K) :
    (t.insertIdempotent row).1.hasKey k ↔ t.hasKey k ∨ k = key row := by
  by_cases h : t.hasKey (key row)
  · rw [insertIdempotent_of_hasKey h]
    constructor
    · exact Or.inl
    · rintro (hk | rfl)
      · exact hk
      · exact h
  · unfold hasKey
    rw [rows_insertIdempotent_of_not_hasKey h]
    simp

omit [DecidableEq K] in
/-- The first row that an update selects is the one that it rewrites. -/
theorem find?_select_updateWhere (t : Table K R key) {select : R → Bool} {assign : R → R}
    {hkey : ∀ row, key (assign row) = key row} (hselect : ∀ row, select (assign row) = select row) :
    (t.updateWhere select assign hkey).rows.find? select = (t.rows.find? select).map assign := by
  have hsame : (select ∘ fun row => if select row then assign row else row) = select := by
    funext row
    simp only [Function.comp_apply]
    split
    · exact hselect row
    · rfl
  rw [rows_updateWhere, List.find?_map, hsame]
  apply Option.map_congr
  intro row hrow
  exact if_pos (List.find?_some hrow)

omit [DecidableEq K] in
theorem hasKey_updateWhere (t : Table K R key) (select : R → Bool) (assign : R → R)
    (hkey : ∀ row, key (assign row) = key row) (k : K) :
    (t.updateWhere select assign hkey).hasKey k ↔ t.hasKey k := by
  unfold hasKey
  rw [rows_updateWhere, map_key_update t.rows select assign hkey]

theorem mem_of_find? {t : Table K R key} {k : K} {row : R}
    (h : t.find? k = some row) : row ∈ t.rows :=
  List.mem_of_find?_eq_some h

theorem key_of_find? {t : Table K R key} {k : K} {row : R}
    (h : t.find? k = some row) : key row = k := by
  simpa using List.find?_some h

/-- The unique index: a stored row is the one its key finds. -/
theorem find?_of_mem {t : Table K R key} {row : R} (h : row ∈ t.rows) :
    t.find? (key row) = some row := by
  have hunique := t.unique
  unfold find?
  generalize t.rows = rows at h hunique
  induction rows with
  | nil => simp at h
  | cons head tail ih =>
      rw [List.map_cons, List.nodup_cons] at hunique
      rcases List.mem_cons.mp h with rfl | htail
      · simp
      · have hne : key head ≠ key row := by
          intro heq
          exact hunique.1 (heq ▸ List.mem_map_of_mem htail)
        rw [List.find?_cons_of_neg (by simpa using hne)]
        exact ih htail hunique.2

theorem find?_eq_none_iff (t : Table K R key) (k : K) :
    t.find? k = none ↔ ¬t.hasKey k := by
  simp [find?, hasKey, List.find?_eq_none]

/-- An update acts on the row of each key separately. -/
theorem find?_updateWhere (t : Table K R key) (select : R → Bool) (assign : R → R)
    (hkey : ∀ row, key (assign row) = key row) (k : K) :
    (t.updateWhere select assign hkey).find? k =
      (t.find? k).map fun row => if select row then assign row else row := by
  cases hk : t.find? k with
  | none =>
      rw [find?_eq_none_iff] at hk
      rw [Option.map_none, find?_eq_none_iff, hasKey_updateWhere]
      exact hk
  | some row =>
      have hmem : (if select row then assign row else row) ∈
          (t.updateWhere select assign hkey).rows := by
        rw [rows_updateWhere]
        exact List.mem_map_of_mem (mem_of_find? hk)
      have hrow : key (if select row then assign row else row) = k := by
        rw [← key_of_find? hk]
        by_cases hsel : select row = true
        · simp [hsel, hkey]
        · simp [hsel]
      have hfind := find?_of_mem hmem
      rw [hrow] at hfind
      rw [hfind, Option.map_some]

/-- An insert leaves the rows of the other keys, and those already there. -/
theorem find?_insertIdempotent_of_find? {t : Table K R key} {k : K} {old : R}
    (row : R) (h : t.find? k = some old) :
    (t.insertIdempotent row).1.find? k = some old := by
  by_cases hrow : t.hasKey (key row)
  · rw [insertIdempotent_of_hasKey hrow]
    exact h
  · have hmem : old ∈ (t.insertIdempotent row).1.rows := by
      rw [rows_insertIdempotent_of_not_hasKey hrow]
      exact List.mem_append_left _ (mem_of_find? h)
    rw [← key_of_find? h]
    exact find?_of_mem hmem

theorem find?_insertIdempotent_of_ne {t : Table K R key} {k : K} {row : R}
    (h : key row ≠ k) :
    (t.insertIdempotent row).1.find? k = t.find? k := by
  cases hk : t.find? k with
  | some old => exact find?_insertIdempotent_of_find? row hk
  | none =>
      rw [find?_eq_none_iff] at hk ⊢
      rw [hasKey_insertIdempotent]
      rintro (hold | rfl)
      · exact hk hold
      · exact h rfl

/-- After the insert some row carries the key of the inserted row. -/
theorem find?_insertIdempotent_self {t : Table K R key} {row : R}
    (h : ¬t.hasKey (key row)) :
    (t.insertIdempotent row).1.find? (key row) = some row := by
  apply find?_of_mem
  rw [rows_insertIdempotent_of_not_hasKey h]
  simp

/-- An insert adds what it inserts to the lookup of its key, unless the key is taken. -/
theorem find?_insertIdempotent (t : Table K R key) (row : R) (k : K) :
    (t.insertIdempotent row).1.find? k =
      (t.find? k).or (if key row = k then some row else none) := by
  cases hk : t.find? k with
  | some old => exact find?_insertIdempotent_of_find? row hk
  | none =>
      by_cases hrow : key row = k
      · subst hrow
        rw [if_pos rfl]
        exact find?_insertIdempotent_self ((find?_eq_none_iff t _).mp hk)
      · rw [if_neg hrow, find?_insertIdempotent_of_ne hrow, hk]
        rfl

/-- A row is stored exactly when its key finds it. -/
theorem mem_rows_iff_find? {t : Table K R key} {row : R} :
    row ∈ t.rows ↔ t.find? (key row) = some row := by
  constructor
  · exact find?_of_mem
  · exact mem_of_find?

omit [DecidableEq K] in
/-- A selection has at most one row exactly when all the rows selected share a key. -/
theorem length_filter_le_one_iff (t : Table K R key) (select : R → Bool) :
    (t.rows.filter select).length ≤ 1 ↔
      ∀ a ∈ t.rows, ∀ b ∈ t.rows, select a → select b → key a = key b := by
  have hunique : ((t.rows.filter select).map key).Nodup :=
    t.unique.sublist (List.filter_sublist.map key)
  constructor
  · intro hlength a ha b hb hsela hselb
    have hmema := List.mem_filter.mpr ⟨ha, hsela⟩
    have hmemb := List.mem_filter.mpr ⟨hb, hselb⟩
    generalize t.rows.filter select = selected at hlength hmema hmemb
    match selected with
    | [] => cases hmema
    | [only] =>
        rw [List.mem_singleton] at hmema hmemb
        rw [hmema, hmemb]
    | first :: second :: rest => simp at hlength
  · intro hkeys
    cases hrows : t.rows.filter select with
    | nil => simp
    | cons a rest =>
        cases rest with
        | nil => simp
        | cons b rest =>
            have ha : a ∈ t.rows.filter select := by simp [hrows]
            have hb : b ∈ t.rows.filter select := by simp [hrows]
            obtain ⟨hmema, hsela⟩ := List.mem_filter.mp ha
            obtain ⟨hmemb, hselb⟩ := List.mem_filter.mp hb
            rw [hrows] at hunique
            simp [hkeys a hmema b hmemb hsela hselb] at hunique

/-! ## Inserting a batch -/

/-- Insert rows one after another and collect the reports. -/
def insertAll (t : Table K R key) : List R → Table K R key × List Bool
  | [] => (t, [])
  | row :: rest =>
      let first := t.insertIdempotent row
      let others := first.1.insertAll rest
      (others.1, first.2 :: others.2)

@[simp]
theorem insertAll_nil (t : Table K R key) : t.insertAll [] = (t, []) := rfl

/-- Of the rows of a batch that have one key, the first one is stored. -/
theorem find?_insertAll (t : Table K R key) (rows : List R) (k : K) :
    (t.insertAll rows).1.find? k = (t.find? k).or (rows.find? fun row => key row = k) := by
  induction rows generalizing t with
  | nil => simp
  | cons row rest ih =>
      have hstep : (t.insertAll (row :: rest)).1 =
          ((t.insertIdempotent row).1.insertAll rest).1 := rfl
      rw [hstep, ih, find?_insertIdempotent, Option.or_assoc]
      by_cases hrow : key row = k
      · simp [hrow]
      · simp [hrow]

end Table

end Support
