import Mathlib.Data.List.Basic

/-!
# Finite dictionaries

String-keyed records (JSON objects, stored slot maps, keyword payloads) are
association lists read by first match.  Only the lookup of a key is
observable, so every operation comes with one lemma describing the lookup of
its result; later developments rewrite with those lemmas and never unfold the
representation.
-/

namespace Support

universe u v

/-- A dictionary given by its entries; the first entry of a key is the one
that counts. -/
structure Dict (K : Type u) (V : Type v) where
  entries : List (K × V)

namespace Dict

variable {K : Type u} {V : Type v} [DecidableEq K]

/-- The dictionary without entries. -/
def empty : Dict K V := ⟨[]⟩

instance : EmptyCollection (Dict K V) := ⟨empty⟩

instance : Inhabited (Dict K V) := ⟨empty⟩

/-- The value stored under `k`. -/
def get? (d : Dict K V) (k : K) : Option V := d.entries.lookup k

/-- The key `k` is present. -/
def contains (d : Dict K V) (k : K) : Bool := (d.get? k).isSome

/-- Remove the key `k`. -/
def erase (d : Dict K V) (k : K) : Dict K V :=
  ⟨d.entries.filter fun entry => entry.1 ≠ k⟩

/-- Store `v` under `k`, replacing what was there. -/
def set (d : Dict K V) (k : K) (v : V) : Dict K V :=
  ⟨(k, v) :: (d.erase k).entries⟩

/-- Remove every key of a list. -/
def eraseAll (d : Dict K V) (ks : List K) : Dict K V :=
  ks.foldl erase d

/-- Overlay `e` on `d`: the entries of `e` win. -/
def merge (d e : Dict K V) : Dict K V :=
  ⟨e.entries ++ d.entries.filter fun entry => (e.get? entry.1).isNone⟩

/-- A literal dictionary; a key that is written twice keeps its last value. -/
def ofList (entries : List (K × V)) : Dict K V :=
  entries.foldl (fun d entry => d.set entry.1 entry.2) ∅

/-- The dictionary has no entry. -/
def isEmpty (d : Dict K V) : Bool := d.entries.isEmpty

/-! ## Lookups -/

@[simp]
theorem get?_empty (k : K) : (∅ : Dict K V).get? k = none := rfl

omit [DecidableEq K] in
/-- Filtering by key keeps the first match of a kept key and every match of a
dropped one disappears. -/
theorem lookup_filter_key [BEq K] [LawfulBEq K] (entries : List (K × V))
    (keep : K → Bool) (k : K) :
    (entries.filter fun entry => keep entry.1).lookup k =
      if keep k then entries.lookup k else none := by
  induction entries with
  | nil => simp
  | cons entry rest ih =>
      obtain ⟨key, value⟩ := entry
      by_cases hkey : k = key
      · subst hkey
        by_cases hk : keep k = true
        · simp [hk]
        · simpa [hk] using ih
      · have hbeq : (k == key) = false := by simpa using hkey
        by_cases hkeep : keep key = true
        · simp [hkeep, List.lookup_cons, hbeq, ih]
        · simp [hkeep, List.lookup_cons, hbeq, ih]

@[simp]
theorem get?_erase (d : Dict K V) (k k' : K) :
    (d.erase k).get? k' = if k' = k then none else d.get? k' := by
  have hfilter := lookup_filter_key d.entries (fun key => decide (key ≠ k)) k'
  by_cases hk : k' = k
  · simpa [get?, erase, hk] using hfilter
  · simpa [get?, erase, hk] using hfilter

@[simp]
theorem get?_set (d : Dict K V) (k k' : K) (v : V) :
    (d.set k v).get? k' = if k' = k then some v else d.get? k' := by
  by_cases hk : k' = k
  · simp [get?, set, hk]
  · have hbeq : (k' == k) = false := by simpa using hk
    have herase := get?_erase d k k'
    rw [if_neg hk] at herase ⊢
    rw [← herase]
    simp [get?, set, List.lookup_cons, hbeq]

@[simp]
theorem get?_merge (d e : Dict K V) (k : K) :
    (d.merge e).get? k = (e.get? k).or (d.get? k) := by
  unfold merge get?
  rw [List.lookup_append]
  cases he : e.entries.lookup k with
  | some v => rfl
  | none =>
      have hfilter :=
        lookup_filter_key d.entries (fun key => (e.get? key).isNone) k
      have hkeep : (e.get? k).isNone = true := by simp [get?, he]
      rw [Option.none_or, Option.none_or]
      rw [if_pos hkeep] at hfilter
      exact hfilter

@[simp]
theorem get?_eraseAll (d : Dict K V) (ks : List K) (k : K) :
    (d.eraseAll ks).get? k = if k ∈ ks then none else d.get? k := by
  induction ks generalizing d with
  | nil => simp [eraseAll]
  | cons head tail ih =>
      have hstep : d.eraseAll (head :: tail) = (d.erase head).eraseAll tail := rfl
      rw [hstep, ih, get?_erase]
      by_cases htail : k ∈ tail
      · simp [htail]
      · by_cases hhead : k = head
        · simp [hhead]
        · simp [htail, hhead]

/-- A literal has no key that it does not list. -/
theorem get?_ofList_of_notMem {entries : List (K × V)} {k : K}
    (hk : k ∉ entries.map Prod.fst) : (ofList entries).get? k = none := by
  have hfold : ∀ d : Dict K V,
      (entries.foldl (fun d entry => d.set entry.1 entry.2) d).get? k = d.get? k := by
    induction entries with
    | nil => intro d; rfl
    | cons entry rest ih =>
        intro d
        simp only [List.map_cons, List.mem_cons, not_or] at hk
        rw [List.foldl_cons, ih hk.2, get?_set, if_neg hk.1]
  exact hfold ∅

theorem eraseAll_eq_filter (d : Dict K V) (ks : List K) :
    d.eraseAll ks = ⟨d.entries.filter fun entry => entry.1 ∉ ks⟩ := by
  induction ks generalizing d with
  | nil => simp [eraseAll]
  | cons head tail ih =>
      have hstep : d.eraseAll (head :: tail) = (d.erase head).eraseAll tail := rfl
      rw [hstep, ih, erase, List.filter_filter]
      congr 1
      refine List.filter_congr fun entry _ => ?_
      by_cases hhead : entry.1 = head
      · simp [hhead]
      · simp [hhead]

/-- Removing the same keys again changes nothing. -/
theorem eraseAll_eraseAll (d : Dict K V) (ks : List K) :
    (d.eraseAll ks).eraseAll ks = d.eraseAll ks := by
  rw [eraseAll_eq_filter, eraseAll_eq_filter, List.filter_filter]
  simp

/-- Of two values stored under a key the later one remains. -/
theorem set_set (d : Dict K V) (k : K) (v w : V) : (d.set k v).set k w = d.set k w := by
  simp [set, erase, List.filter_filter]

/-- What a literal keeps under some keys depends on its entries of those keys. -/
theorem filter_ofList (p : K → Bool) (entries : List (K × V)) :
    (ofList entries).entries.filter (fun entry => p entry.1) =
      (ofList (entries.filter fun entry => p entry.1)).entries := by
  have hfold : ∀ d d' : Dict K V, d.entries.filter (fun entry => p entry.1) = d'.entries →
      (entries.foldl (fun d entry => d.set entry.1 entry.2) d).entries.filter
          (fun entry => p entry.1) =
        ((entries.filter fun entry => p entry.1).foldl
          (fun d entry => d.set entry.1 entry.2) d').entries := by
    induction entries with
    | nil => exact fun _ _ h => h
    | cons entry rest ih =>
        intro d d' h
        have herased : (d.erase entry.1).entries.filter (fun e => p e.1) =
            (d'.erase entry.1).entries := by
          rw [erase, List.filter_comm, h, erase]
        simp only [List.filter_cons, List.foldl_cons]
        by_cases hp : p entry.1 = true
        · rw [if_pos hp]
          refine ih _ _ ?_
          simp only [set, List.filter_cons, if_pos hp, herased]
        · rw [if_neg hp]
          refine ih _ _ ?_
          simp only [set, List.filter_cons, if_neg hp, erase, ← h, List.filter_filter]
          refine List.filter_congr fun other _ => ?_
          by_cases hother : other.1 = entry.1
          · simp [hother, hp]
          · simp [hother]
  exact hfold ∅ ∅ rfl

/-- A dictionary with a stored key is not empty. -/
theorem isEmpty_eq_false_of_get? {d : Dict K V} {k : K} {v : V}
    (h : d.get? k = some v) : d.isEmpty = false := by
  cases hd : d.entries with
  | nil => simp [get?, hd] at h
  | cons entry rest => simp [isEmpty, hd]

end Dict

end Support
