import AiCustomerService.Support.Regex

/-!
# All the matches of a pattern

The search that goes on behind each match, and what the parts of the pattern take in it.
-/

namespace Support.Regex

variable {α : Type}

/-- What the parts of a pattern take, and where the last one ends, in the order in which the
matches are tried. -/
def pathsAt : List (Regex α) → Cursor α → List (List (List α) × Cursor α)
  | [], at_ => [([], at_)]
  | part :: parts, at_ =>
      (part.rests at_).flatMap fun mid =>
        (pathsAt parts mid).map fun path =>
          (at_.ahead.take (at_.ahead.length - mid.ahead.length) :: path.1, path.2)

/-- The matches from a position on, `skip` characters of which belong to the last one.  The
patterns take at least one character. -/
def findAllFrom (parts : List (Regex α)) (behind : Option α) : Nat → List α → List (List (List α))
  | _, [] => []
  | skip + 1, c :: rest => findAllFrom parts (some c) skip rest
  | 0, c :: rest =>
      match (pathsAt parts ⟨behind, c :: rest⟩).head? with
      | some path =>
          path.1 :: findAllFrom parts (some c) (rest.length - path.2.ahead.length) rest
      | none => findAllFrom parts (some c) 0 rest

/-- `re.findall(...)`, with what each part of the pattern takes. -/
def findAll (parts : List (Regex α)) (text : List α) : List (List (List α)) :=
  findAllFrom parts none 0 text

/-- `re.findall(...)` of a pattern without groups. -/
def findTexts (r : Regex α) (text : List α) : List (List α) := (findAll [r] text).map List.flatten

/-- A match stands in the text. -/
theorem infix_of_mem_findTexts {r : Regex α} {text found : List α} (h : found ∈ r.findTexts text) :
    found <:+: text := by
  obtain ⟨parts, hparts, rfl⟩ := List.mem_map.mp h
  clear h
  unfold findAll at hparts
  generalize (none : Option α) = behind at hparts
  generalize 0 = skip at hparts
  induction text generalizing behind skip with
  | nil =>
      rw [findAllFrom] at hparts
      cases hparts
  | cons c rest ih =>
      have hlater : ∀ skip, parts ∈ findAllFrom [r] (some c) skip rest →
          parts.flatten <:+: c :: rest := fun skip hmem =>
        (ih (some c) skip hmem).trans (List.suffix_cons c rest).isInfix
      cases skip with
      | succ skip =>
          rw [findAllFrom] at hparts
          exact hlater skip hparts
      | zero =>
          rw [findAllFrom] at hparts
          split at hparts
          · rename_i path hpath
            rcases List.mem_cons.mp hparts with rfl | hmem
            · have hpath := List.mem_of_mem_head? hpath
              obtain ⟨mid, -, hpath⟩ := List.mem_flatMap.mp hpath
              obtain ⟨rest', hrest', rfl⟩ := List.mem_map.mp hpath
              obtain rfl := List.mem_singleton.mp hrest'
              simpa using (List.take_prefix _ _).isInfix
            · exact hlater _ hmem
          · exact hlater 0 hparts

end Support.Regex
