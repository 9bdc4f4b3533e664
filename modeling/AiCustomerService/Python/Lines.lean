import AiCustomerService.Python.Json

/-!
# Lines of a text

`str.splitlines`, `"\n".join` and `str.rstrip`, on the characters of a text.
-/

namespace AiCustomerService

/-- The characters at which `splitlines` breaks a text. -/
def isLineBreak (c : Char) : Bool :=
  let n := c.toNat
  (10 ≤ n ∧ n ≤ 13) ∨ (28 ≤ n ∧ n ≤ 30) ∨ n = 0x85 ∨ n = 0x2028 ∨ n = 0x2029

/-- The lines from the next one on, with a character in front. -/
def consChar (c : Char) : List (List Char) → List (List Char)
  | [] => [[c]]
  | line :: lines => (c :: line) :: lines

/-- `splitlines`. -/
def splitLines : List Char → List (List Char)
  | [] => []
  | '\r' :: '\n' :: rest => [] :: splitLines rest
  | c :: rest => if isLineBreak c then [] :: splitLines rest else consChar c (splitLines rest)

/-- `"\n".join`. -/
def joinLines (lines : List (List Char)) : List Char := List.intercalate ['\n'] lines

/-- `rstrip`. -/
def rstrip (text : List Char) : List Char := (text.reverse.dropWhile isPySpace).reverse

/-- The characters stand in the text at the start of a line. -/
def StartsLine (block text : List Char) : Prop :=
  (∃ after, text = block ++ after) ∨ ∃ before after, text = before ++ '\n' :: (block ++ after)

/-! ## Splitting -/

theorem consChar_append (c : Char) {lines more : List (List Char)} (h : lines ≠ []) :
    consChar c (lines ++ more) = consChar c lines ++ more := by
  cases lines with
  | nil => exact absurd rfl h
  | cons line rest => rfl

theorem splitLines_cons_ne_nil (c : Char) (rest : List Char) : splitLines (c :: rest) ≠ [] := by
  unfold splitLines
  split
  · rename_i h
    cases h
  · simp
  · split
    · simp
    · cases splitLines _ with
      | nil => simp [consChar]
      | cons line lines => simp [consChar]

theorem splitLines_newline (rest : List Char) : splitLines ('\n' :: rest) = [] :: splitLines rest := by
  rw [splitLines]
  · rfl
  · intro tail h
    cases h

theorem splitLines_cons {c : Char} {rest : List Char} (h : c = '\r' → rest.head? ≠ some '\n') :
    splitLines (c :: rest) =
      if isLineBreak c then [] :: splitLines rest else consChar c (splitLines rest) := by
  rw [splitLines]
  rintro tail rfl rfl
  exact h rfl rfl

/-- A newline ends a line. -/
theorem splitLines_append_newline (text rest : List Char) :
    splitLines (text ++ '\n' :: rest) = splitLines (text ++ ['\n']) ++ splitLines rest := by
  induction text using splitLines.induct with
  | case1 =>
      simp only [List.nil_append, splitLines_newline]
      rfl
  | case2 text ih => simp only [List.cons_append, splitLines, ih]
  | case3 c text hnot hbreak ih =>
      by_cases hreturn : c = '\r' ∧ text = []
      · obtain ⟨rfl, rfl⟩ := hreturn
        simp [splitLines]
      · have hhead : ∀ more, c = '\r' → (text ++ '\n' :: more).head? ≠ some '\n' := by
          rintro more rfl
          cases text with
          | nil => exact absurd ⟨rfl, rfl⟩ hreturn
          | cons d tail => simpa using fun hd => hnot tail rfl (by rw [hd])
        rw [List.cons_append, List.cons_append, splitLines_cons (hhead rest),
          splitLines_cons (hhead []), if_pos hbreak, if_pos hbreak, ih, List.cons_append]
  | case4 c text hnot hbreak ih =>
      have hhead : ∀ more, c = '\r' → (text ++ '\n' :: more).head? ≠ some '\n' := by
        rintro more rfl
        exact absurd (by decide) hbreak
      have hsome : splitLines (text ++ ['\n']) ≠ [] := by
        cases text with
        | nil => exact splitLines_cons_ne_nil _ _
        | cons d tail => exact splitLines_cons_ne_nil _ _
      rw [List.cons_append, List.cons_append, splitLines_cons (hhead rest),
        splitLines_cons (hhead []), if_neg hbreak, if_neg hbreak, ih, consChar_append c hsome]

/-- The first line of a text begins like the text. -/
theorem splitLines_append_of_unbroken {first : List Char} (hsome : first ≠ [])
    (h : ∀ c ∈ first, isLineBreak c = false) (rest : List Char) :
    ∃ more lines, splitLines (first ++ rest) = (first ++ more) :: lines := by
  induction first with
  | nil => exact absurd rfl hsome
  | cons c first ih =>
      have hc := h c List.mem_cons_self
      have hhead : c = '\r' → (first ++ rest).head? ≠ some '\n' := by
        rintro rfl
        exact absurd hc (by decide)
      rw [List.cons_append, splitLines_cons hhead, if_neg (by simp [hc])]
      cases first with
      | nil =>
          cases splitLines ([] ++ rest) with
          | nil => exact ⟨[], [], rfl⟩
          | cons line lines => exact ⟨line, lines, rfl⟩
      | cons d first =>
          obtain ⟨more, lines, hlines⟩ := ih (by simp)
            fun c hmem => h c (List.mem_cons_of_mem _ hmem)
          exact ⟨more, lines, by rw [hlines]; rfl⟩

/-! ## Joining -/

theorem joinLines_append {lines more : List (List Char)} (h : lines ≠ []) (h' : more ≠ []) :
    joinLines (lines ++ more) = joinLines lines ++ '\n' :: joinLines more := by
  unfold joinLines
  induction lines with
  | nil => exact absurd rfl h
  | cons line rest ih =>
      cases rest with
      | nil =>
          rw [List.singleton_append, List.intercalate_cons_of_ne_nil h',
            List.intercalate_singleton, List.append_assoc, List.singleton_append]
      | cons second rest =>
          have hrest := ih (by simp)
          have hlonger : second :: rest ++ more ≠ [] := by simp
          rw [List.cons_append, List.intercalate_cons_of_ne_nil hlonger, hrest,
            List.intercalate_cons_of_ne_nil (List.cons_ne_nil second rest)]
          simp only [List.append_assoc]

theorem joinLines_cons_cons (line second : List Char) (rest : List (List Char)) :
    joinLines (line :: second :: rest) = line ++ '\n' :: joinLines (second :: rest) := by
  have hjoined := @joinLines_append [line] (second :: rest) (by simp) (by simp)
  have hline : joinLines [line] = line := List.intercalate_singleton
  rw [hline] at hjoined
  exact hjoined

/-- The first line begins what is joined. -/
theorem joinLines_cons (line : List Char) (lines : List (List Char)) :
    ∃ more, joinLines (line :: lines) = line ++ more := by
  cases lines with
  | nil => exact ⟨[], by simp [joinLines]⟩
  | cons second rest => exact ⟨_, joinLines_cons_cons line second rest⟩

/-! ## Blocks of lines -/

theorem StartsLine.append {block text : List Char} (h : StartsLine block text)
    (more : List Char) : StartsLine block (text ++ more) := by
  rcases h with ⟨after, rfl⟩ | ⟨before, after, rfl⟩
  · exact Or.inl ⟨after ++ more, by simp⟩
  · exact Or.inr ⟨before, after ++ more, by simp⟩

theorem rstrip_append {text : List Char} {c : Char} (h : isPySpace c = false)
    (more : List Char) : rstrip (text ++ c :: more) = text ++ c :: rstrip more := by
  unfold rstrip
  rw [List.reverse_append, List.reverse_cons, List.append_assoc, List.singleton_append,
    List.dropWhile_append]
  split
  · rename_i hempty
    rw [List.isEmpty_iff] at hempty
    simp [h, hempty]
  · simp

/-- What does not end in a space survives `rstrip`. -/
theorem StartsLine.rstrip {block text : List Char} {c : Char} (h : StartsLine (block ++ [c]) text)
    (hc : isPySpace c = false) : StartsLine (block ++ [c]) (rstrip text) := by
  rcases h with ⟨after, rfl⟩ | ⟨before, after, rfl⟩
  · left
    refine ⟨AiCustomerService.rstrip after, ?_⟩
    rw [List.append_assoc, List.singleton_append, rstrip_append hc]
    simp
  · right
    refine ⟨before, AiCustomerService.rstrip after, ?_⟩
    have hsplit : before ++ '\n' :: (block ++ [c] ++ after) =
        (before ++ '\n' :: block) ++ c :: after := by simp
    rw [hsplit, rstrip_append hc]
    simp

/-- Removing lines keeps a block whose lines are kept, up to the beginning of the line after
them. -/
theorem StartsLine.filter {block next text : List Char} {keep : List Char → Bool}
    (h : StartsLine (block ++ '\n' :: next) text)
    (hblock : joinLines ((splitLines (block ++ ['\n'])).filter keep) = block)
    (hsome : block ≠ []) (hnext : next ≠ []) (hunbroken : ∀ c ∈ next, isLineBreak c = false)
    (hkeep : ∀ more, keep (next ++ more) = true) :
    StartsLine (block ++ '\n' :: next) (joinLines ((splitLines text).filter keep)) := by
  have hlines : (splitLines (block ++ ['\n'])).filter keep ≠ [] := by
    intro hnone
    rw [hnone] at hblock
    exact hsome hblock.symm
  have hjoined : ∀ after, ∃ more,
      joinLines ((splitLines (block ++ '\n' :: next ++ after)).filter keep) =
        block ++ '\n' :: next ++ more ∧
      (splitLines (block ++ '\n' :: next ++ after)).filter keep ≠ [] := by
    intro after
    obtain ⟨rest, lines, hfirst⟩ := splitLines_append_of_unbroken hnext hunbroken after
    have hsplit : splitLines (block ++ '\n' :: next ++ after) =
        splitLines (block ++ ['\n']) ++ (next ++ rest) :: lines := by
      rw [List.append_assoc, List.cons_append, splitLines_append_newline, hfirst]
    rw [hsplit, List.filter_append, List.filter_cons_of_pos (hkeep rest)]
    obtain ⟨more, hmore⟩ := joinLines_cons (next ++ rest) (lines.filter keep)
    refine ⟨rest ++ more, ?_, by simp⟩
    rw [joinLines_append hlines (by simp), hblock, hmore]
    simp
  rcases h with ⟨after, rfl⟩ | ⟨before, after, rfl⟩
  · obtain ⟨more, hmore, -⟩ := hjoined after
    exact Or.inl ⟨more, hmore⟩
  · obtain ⟨more, hmore, hsomeLines⟩ := hjoined after
    rw [splitLines_append_newline, List.filter_append]
    by_cases hbefore : (splitLines (before ++ ['\n'])).filter keep = []
    · rw [hbefore, List.nil_append]
      exact Or.inl ⟨more, hmore⟩
    · rw [joinLines_append hbefore hsomeLines, hmore]
      exact Or.inr ⟨_, more, rfl⟩

end AiCustomerService
