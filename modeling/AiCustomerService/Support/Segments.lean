import Mathlib.Data.List.Basic
import Std.Data.String.ToNat

/-!
# Texts built from segments

Keys are texts whose parts are joined by a separator.  A last part without the
separator can be read back, whatever the parts before it contain.
-/

namespace Support

/-- The first occurrence of a separator splits a list in one way. -/
theorem append_cons_eq_append_cons {α : Type*} {sep : α} {x y u v : List α}
    (hx : sep ∉ x) (hy : sep ∉ y) (h : x ++ sep :: u = y ++ sep :: v) :
    x = y ∧ u = v := by
  induction x generalizing y with
  | nil =>
      cases y with
      | nil => exact ⟨rfl, (List.cons.inj h).2⟩
      | cons b rest =>
          have hsep : sep = b := (List.cons.inj h).1
          exact absurd (hsep ▸ List.mem_cons_self) hy
  | cons a rest ih =>
      cases y with
      | nil =>
          have hsep : a = sep := (List.cons.inj h).1
          exact absurd (hsep ▸ List.mem_cons_self) hx
      | cons b rest' =>
          obtain ⟨rfl, hrest⟩ := List.cons.inj h
          have hx' : sep ∉ rest := fun hmem => hx (List.mem_cons_of_mem _ hmem)
          have hy' : sep ∉ rest' := fun hmem => hy (List.mem_cons_of_mem _ hmem)
          obtain ⟨rfl, huv⟩ := ih hx' hy' hrest
          exact ⟨rfl, huv⟩

/-- The text contains no colon. -/
def NoColon (s : String) : Prop := ':' ∉ s.toList

instance (s : String) : Decidable (NoColon s) :=
  inferInstanceAs (Decidable (':' ∉ s.toList))

/-- The part after the last colon is determined by the text. -/
theorem append_colon_inj {a b x y : String} (hx : NoColon x) (hy : NoColon y) :
    a ++ ":" ++ x = b ++ ":" ++ y ↔ a = b ∧ x = y := by
  constructor
  · intro h
    have hlists : a.toList ++ ':' :: x.toList = b.toList ++ ':' :: y.toList := by
      have hcongr := congrArg String.toList h
      simpa [String.toList_append] using hcongr
    have hreversed := congrArg List.reverse hlists
    simp only [List.reverse_append, List.reverse_cons, List.append_assoc,
      List.singleton_append] at hreversed
    have hx' : ':' ∉ x.toList.reverse := by simpa [NoColon] using hx
    have hy' : ':' ∉ y.toList.reverse := by simpa [NoColon] using hy
    obtain ⟨hxy, hab⟩ := append_cons_eq_append_cons hx' hy' hreversed
    exact ⟨String.toList_inj.mp (List.reverse_injective hab),
      String.toList_inj.mp (List.reverse_injective hxy)⟩
  · rintro ⟨rfl, rfl⟩
    rfl

/-- A decimal numeral consists of digits. -/
theorem isDigit_of_mem_toString {n : Nat} {c : Char} (h : c ∈ (toString n).toList) :
    c.isDigit = true := by
  rw [Nat.toString_eq_repr, Nat.repr, String.toList_ofList] at h
  exact Nat.isDigit_of_mem_toDigits (by decide) (by decide) h

/-- An integer is written with digits and a sign. -/
theorem isDigit_or_sign_of_mem_toString {i : Int} {c : Char}
    (h : c ∈ (toString i).toList) : c.isDigit = true ∨ c = '-' := by
  cases i with
  | ofNat n => exact Or.inl (isDigit_of_mem_toString h)
  | negSucc n =>
      have hrepr : (toString (Int.negSucc n)).toList = '-' :: (toString (n + 1)).toList := by
        simp [toString, Int.repr, String.toList_append]
      rw [hrepr, List.mem_cons] at h
      rcases h with rfl | hdigits
      · exact Or.inr rfl
      · exact Or.inl (isDigit_of_mem_toString hdigits)

theorem noColon_toString_int (i : Int) : NoColon (toString i) := by
  intro h
  rcases isDigit_or_sign_of_mem_toString h with hdigit | hsign
  · simp at hdigit
  · simp at hsign

theorem noColon_toString_nat (n : Nat) : NoColon (toString n) := by
  intro h
  have hdigit := isDigit_of_mem_toString h
  simp at hdigit

end Support
