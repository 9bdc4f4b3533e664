import Mathlib.Init

/-!
# Regular expressions with backtracking

A pattern over an arbitrary alphabet, and the search that scripting languages run for it.  A
match is not a set of spans but a preference among them: the alternatives are listed in the
order in which they are tried, and the first one is taken.
-/

namespace Support

/-- Patterns.  A look-around tests the character on one side of the position, if there is one;
the repetitions are greedy and of a single class of characters. -/
inductive Regex (α : Type) where
  | nothing
  | one (accepts : α → Bool)
  | many (accepts : α → Bool)
  | upTo (bound : Nat) (accepts : α → Bool)
  | boundary (isWord : α → Bool)
  | notBehind (accepts : α → Bool)
  | notAhead (accepts : α → Bool)
  | cat (first second : Regex α)
  | alt (first second : Regex α)

/-- A position in a text: the character before it and the characters after it. -/
structure Cursor (α : Type) where
  behind : Option α
  ahead : List α

namespace Regex

variable {α : Type}

/-- Greedy repetition, the longest first. -/
def manyRests (accepts : α → Bool) (behind : Option α) : List α → List (Cursor α)
  | [] => [⟨behind, []⟩]
  | c :: rest =>
      if accepts c then manyRests accepts (some c) rest ++ [⟨behind, c :: rest⟩]
      else [⟨behind, c :: rest⟩]

/-- Greedy repetition of at most `bound` characters, the longest first. -/
def upToRests (accepts : α → Bool) (behind : Option α) : Nat → List α → List (Cursor α)
  | 0, ahead => [⟨behind, ahead⟩]
  | _ + 1, [] => [⟨behind, []⟩]
  | bound + 1, c :: rest =>
      if accepts c then upToRests accepts (some c) bound rest ++ [⟨behind, c :: rest⟩]
      else [⟨behind, c :: rest⟩]

/-- Where the matches that start at a position end, in the order in which they are tried. -/
def rests : Regex α → Cursor α → List (Cursor α)
  | nothing, at_ => [at_]
  | one accepts, ⟨_, ahead⟩ =>
      match ahead with
      | [] => []
      | c :: rest => if accepts c then [⟨some c, rest⟩] else []
  | many accepts, ⟨behind, ahead⟩ => manyRests accepts behind ahead
  | upTo bound accepts, ⟨behind, ahead⟩ => upToRests accepts behind bound ahead
  | boundary isWord, at_ =>
      if at_.behind.any isWord != at_.ahead.head?.any isWord then [at_] else []
  | notBehind accepts, at_ => if at_.behind.any accepts then [] else [at_]
  | notAhead accepts, at_ => if at_.ahead.head?.any accepts then [] else [at_]
  | cat first second, at_ => (first.rests at_).flatMap second.rests
  | alt first second, at_ => first.rests at_ ++ second.rests at_

/-- A match starts at the position. -/
def matchesAt (r : Regex α) (behind : Option α) (ahead : List α) : Bool :=
  !(r.rests ⟨behind, ahead⟩).isEmpty

/-- A match starts at the position or later. -/
def foundFrom (r : Regex α) (behind : Option α) : List α → Bool
  | [] => r.matchesAt behind []
  | c :: rest => r.matchesAt behind (c :: rest) || r.foundFrom (some c) rest

/-- The pattern matches somewhere in the text. -/
def found (r : Regex α) (text : List α) : Bool := r.foundFrom none text

/-- How many characters the match at the position takes, when there is one. -/
def taken (r : Regex α) (behind : Option α) (ahead : List α) : Nat :=
  match (r.rests ⟨behind, ahead⟩).head? with
  | some rest => ahead.length - rest.ahead.length
  | none => 0

/-- The text without the matches, `skip` characters of which are left of the current one. -/
def removeFrom (r : Regex α) (behind : Option α) : Nat → List α → List α
  | _, [] => []
  | skip + 1, c :: rest => r.removeFrom (some c) skip rest
  | 0, c :: rest =>
      match r.taken behind (c :: rest) with
      | 0 => c :: r.removeFrom (some c) 0 rest
      | taken + 1 => r.removeFrom (some c) taken rest

/-- The text with the matches taken out, from left to right. -/
def remove (r : Regex α) (text : List α) : List α := r.removeFrom none 0 text

/-- The text with the matches replaced, `skip` characters of which are left of the current one.
The patterns take at least one character. -/
def substituteFrom (r : Regex α) (new : List α) (behind : Option α) : Nat → List α → List α
  | _, [] => []
  | skip + 1, c :: rest => r.substituteFrom new (some c) skip rest
  | 0, c :: rest =>
      match r.taken behind (c :: rest) with
      | 0 => c :: r.substituteFrom new (some c) 0 rest
      | taken + 1 => new ++ r.substituteFrom new (some c) taken rest

/-- The text with the matches replaced, from left to right. -/
def substitute (r : Regex α) (new text : List α) : List α := r.substituteFrom new none 0 text

/-! ## Composed patterns -/

/-- One pattern after the other. -/
def seq (parts : List (Regex α)) : Regex α := parts.foldr cat nothing

/-- One of the patterns; without any, no text matches. -/
def oneOf : List (Regex α) → Regex α
  | [] => one fun _ => false
  | [only] => only
  | first :: rest => alt first (oneOf rest)

/-- A greedy repetition between two bounds. -/
def between (least most : Nat) (accepts : α → Bool) : Regex α :=
  seq (List.replicate least (one accepts) ++ [upTo (most - least) accepts])

/-- A pattern or nothing. -/
def optional (r : Regex α) : Regex α := alt r nothing

/-- A pattern repeated at most `bound` times, as often as possible. -/
def repeated (r : Regex α) : Nat → Regex α
  | 0 => nothing
  | bound + 1 => optional (cat r (repeated r bound))

/-! ## Groups -/

/-- What a group takes in the matches that start at a position, in the order in which they are
tried. -/
def groupsAt (before group after : Regex α) (at_ : Cursor α) : List (List α) :=
  (before.rests at_).flatMap fun start =>
    ((group.rests start).filter fun end_ => !(after.rests end_).isEmpty).map fun end_ =>
      start.ahead.take (start.ahead.length - end_.ahead.length)

/-- What the group takes in the first match from a position on. -/
def groupFrom (before group after : Regex α) (behind : Option α) : List α → Option (List α)
  | [] => (before.groupsAt group after ⟨behind, []⟩).head?
  | c :: rest =>
      match (before.groupsAt group after ⟨behind, c :: rest⟩).head? with
      | some taken => some taken
      | none => groupFrom before group after (some c) rest

/-- `re.search(...).group(1)` for a pattern with one group. -/
def groupOf (before group after : Regex α) (text : List α) : Option (List α) :=
  groupFrom before group after none text

/-- A pattern matches the whole text. -/
def matchesAll (r : Regex α) (text : List α) : Bool :=
  (r.rests ⟨none, text⟩).any fun end_ => end_.ahead.isEmpty

theorem suffix_manyRests {accepts : α → Bool} {behind : Option α} {text : List α}
    {end_ : Cursor α} (h : end_ ∈ manyRests accepts behind text) : end_.ahead <:+ text := by
  induction text generalizing behind with
  | nil =>
      rw [manyRests, List.mem_singleton] at h
      subst h
      exact List.suffix_rfl
  | cons c rest ih =>
      rw [manyRests] at h
      split at h
      · rcases List.mem_append.mp h with hrest | hhere
        · exact (ih hrest).trans (List.suffix_cons c rest)
        · rw [List.mem_singleton] at hhere
          subst hhere
          exact List.suffix_rfl
      · rw [List.mem_singleton] at h
        subst h
        exact List.suffix_rfl

theorem suffix_upToRests {accepts : α → Bool} {behind : Option α} {bound : Nat} {text : List α}
    {end_ : Cursor α} (h : end_ ∈ upToRests accepts behind bound text) : end_.ahead <:+ text := by
  induction bound generalizing behind text with
  | zero =>
      rw [upToRests, List.mem_singleton] at h
      subst h
      exact List.suffix_rfl
  | succ bound ih =>
      cases text with
      | nil =>
          rw [upToRests, List.mem_singleton] at h
          subst h
          exact List.suffix_rfl
      | cons c rest =>
          rw [upToRests] at h
          split at h
          · rcases List.mem_append.mp h with hrest | hhere
            · exact (ih hrest).trans (List.suffix_cons c rest)
            · rw [List.mem_singleton] at hhere
              subst hhere
              exact List.suffix_rfl
          · rw [List.mem_singleton] at h
            subst h
            exact List.suffix_rfl

/-- A match leaves a rest of the text. -/
theorem suffix_of_mem_rests {r : Regex α} {at_ end_ : Cursor α} (h : end_ ∈ r.rests at_) :
    end_.ahead <:+ at_.ahead := by
  induction r generalizing at_ end_ with
  | nothing =>
      rw [rests, List.mem_singleton] at h
      subst h
      exact List.suffix_rfl
  | one accepts =>
      obtain ⟨behind, ahead⟩ := at_
      cases ahead with
      | nil => simp [rests] at h
      | cons c rest =>
          simp only [rests] at h
          split at h
          · rw [List.mem_singleton] at h
            rw [h]
            exact List.suffix_cons c rest
          · cases h
  | many accepts => exact suffix_manyRests h
  | upTo bound accepts => exact suffix_upToRests h
  | boundary isWord =>
      rw [rests] at h
      split at h
      · rw [List.mem_singleton] at h
        subst h
        exact List.suffix_rfl
      · cases h
  | notBehind accepts =>
      rw [rests] at h
      split at h
      · cases h
      · rw [List.mem_singleton] at h
        subst h
        exact List.suffix_rfl
  | notAhead accepts =>
      rw [rests] at h
      split at h
      · cases h
      · rw [List.mem_singleton] at h
        subst h
        exact List.suffix_rfl
  | cat first second ihFirst ihSecond =>
      rw [rests, List.mem_flatMap] at h
      obtain ⟨mid, hmid, hend⟩ := h
      exact (ihSecond hend).trans (ihFirst hmid)
  | alt first second ihFirst ihSecond =>
      rw [rests, List.mem_append] at h
      rcases h with hfirst | hsecond
      · exact ihFirst hfirst
      · exact ihSecond hsecond

theorem infix_of_mem_groupsAt {before group after : Regex α} {at_ : Cursor α} {taken : List α}
    (h : taken ∈ before.groupsAt group after at_) : taken <:+: at_.ahead := by
  unfold groupsAt at h
  obtain ⟨start, hstart, htaken⟩ := List.mem_flatMap.mp h
  obtain ⟨end_, -, rfl⟩ := List.mem_map.mp htaken
  exact (List.take_prefix _ _).isInfix.trans (suffix_of_mem_rests hstart).isInfix

/-- What a group takes stands in the text. -/
theorem infix_of_groupOf {before group after : Regex α} {text taken : List α}
    (h : before.groupOf group after text = some taken) : taken <:+: text := by
  unfold groupOf at h
  generalize (none : Option α) = behind at h
  induction text generalizing behind with
  | nil => exact infix_of_mem_groupsAt (List.mem_of_mem_head? h)
  | cons c rest ih =>
      rw [groupFrom] at h
      split at h
      · rename_i first hfirst
        cases h
        exact infix_of_mem_groupsAt (List.mem_of_mem_head? hfirst)
      · exact (ih (some c) h).trans (List.suffix_cons c rest).isInfix

/-! ## Alternatives -/

/-- The alternatives end where one of them does. -/
theorem mem_rests_oneOf {rs : List (Regex α)} {at_ end_ : Cursor α} :
    end_ ∈ (oneOf rs).rests at_ ↔ ∃ r ∈ rs, end_ ∈ r.rests at_ := by
  induction rs with
  | nil =>
      obtain ⟨behind, ahead⟩ := at_
      cases ahead with
      | nil => simp [oneOf, rests]
      | cons c rest => simp [oneOf, rests]
  | cons first rest ih =>
      cases rest with
      | nil => simp [oneOf]
      | cons second rest =>
          change end_ ∈ first.rests at_ ++ (oneOf (second :: rest)).rests at_ ↔ _
          rw [List.mem_append, ih]
          simp

/-- The pattern matches what one of the parts does. -/
def SplitsInto {ι : Type} (r : Regex α) (used : List ι) (parts : ι → Regex α) : Prop :=
  ∀ at_ end_, end_ ∈ r.rests at_ ↔ ∃ i ∈ used, end_ ∈ (parts i).rests at_

section SplitsInto

variable {ι : Type} {r : Regex α} {used : List ι} {parts : ι → Regex α}

theorem splitsInto_oneOf (used : List ι) (parts : ι → Regex α) :
    (oneOf (used.map parts)).SplitsInto used parts := by
  intro at_ end_
  rw [mem_rests_oneOf]
  constructor
  · rintro ⟨r, hr, hend⟩
    obtain ⟨i, hi, rfl⟩ := List.mem_map.mp hr
    exact ⟨i, hi, hend⟩
  · rintro ⟨i, hi, hend⟩
    exact ⟨parts i, List.mem_map_of_mem hi, hend⟩

theorem SplitsInto.cat_right (h : r.SplitsInto used parts) (first : Regex α) :
    (cat first r).SplitsInto used fun i => cat first (parts i) := by
  intro at_ end_
  simp only [rests, List.mem_flatMap, h _ end_]
  constructor
  · rintro ⟨mid, hmid, i, hi, hend⟩
    exact ⟨i, hi, mid, hmid, hend⟩
  · rintro ⟨i, hi, mid, hmid, hend⟩
    exact ⟨mid, hmid, i, hi, hend⟩

theorem SplitsInto.cat_left (h : r.SplitsInto used parts) (second : Regex α) :
    (cat r second).SplitsInto used fun i => cat (parts i) second := by
  intro at_ end_
  simp only [rests, List.mem_flatMap, h at_]
  constructor
  · rintro ⟨mid, ⟨i, hi, hmid⟩, hend⟩
    exact ⟨i, hi, mid, hmid, hend⟩
  · rintro ⟨i, hi, mid, hmid, hend⟩
    exact ⟨mid, ⟨i, hi, hmid⟩, hend⟩

/-- Such a pattern is found exactly when one of its parts is. -/
theorem SplitsInto.found_iff (h : r.SplitsInto used parts) (text : List α) :
    r.found text = true ↔ ∃ i ∈ used, (parts i).found text = true := by
  have hmatches : ∀ behind ahead, r.matchesAt behind ahead = true ↔
      ∃ i ∈ used, (parts i).matchesAt behind ahead = true := by
    intro behind ahead
    simp only [matchesAt, Bool.not_eq_true', List.isEmpty_eq_false_iff_exists_mem, h _ _]
    constructor
    · rintro ⟨end_, i, hi, hend⟩
      exact ⟨i, hi, end_, hend⟩
    · rintro ⟨i, hi, end_, hend⟩
      exact ⟨end_, i, hi, hend⟩
  have hfound : ∀ behind, r.foundFrom behind text = true ↔
      ∃ i ∈ used, (parts i).foundFrom behind text = true := by
    induction text with
    | nil => exact fun behind => hmatches behind []
    | cons c rest ih =>
        intro behind
        simp only [foundFrom, Bool.or_eq_true, hmatches, ih]
        constructor
        · rintro (⟨i, hi, hfound⟩ | ⟨i, hi, hfound⟩)
          · exact ⟨i, hi, Or.inl hfound⟩
          · exact ⟨i, hi, Or.inr hfound⟩
        · rintro ⟨i, hi, hfound | hfound⟩
          · exact Or.inl ⟨i, hi, hfound⟩
          · exact Or.inr ⟨i, hi, hfound⟩
  exact hfound none

end SplitsInto

/-! ## Substitution -/

/-- A text as it stands. -/
def exact [DecidableEq α] (text : List α) : Regex α :=
  seq (text.map fun c => one fun d => decide (c = d))

theorem mem_substituteFrom {r : Regex α} {new text : List α} {behind : Option α} {skip : Nat}
    {c : α} (h : c ∈ r.substituteFrom new behind skip text) : c ∈ text ∨ c ∈ new := by
  induction text generalizing behind skip with
  | nil => cases h
  | cons d rest ih =>
      cases skip with
      | succ skip => exact (ih h).imp_left (List.mem_cons_of_mem d)
      | zero =>
          rw [substituteFrom] at h
          split at h
          · rcases List.mem_cons.mp h with rfl | h
            · exact .inl List.mem_cons_self
            · exact (ih h).imp_left (List.mem_cons_of_mem d)
          · rcases List.mem_append.mp h with h | h
            · exact .inr h
            · exact (ih h).imp_left (List.mem_cons_of_mem d)

/-- The characters of a substituted text are old ones or new ones. -/
theorem mem_substitute {r : Regex α} {new text : List α} {c : α} (h : c ∈ r.substitute new text) :
    c ∈ text ∨ c ∈ new :=
  mem_substituteFrom h

/-- The pattern matches nowhere in a text that has only characters of a kind. -/
def NeverIn (r : Regex α) (kind : α → Prop) : Prop :=
  ∀ behind text, (∀ c ∈ text, kind c) → r.taken behind text = 0

theorem substituteFrom_of_never {r : Regex α} {kind : α → Prop} (hr : r.NeverIn kind)
    {new text : List α} {behind : Option α} (h : ∀ c ∈ text, kind c) :
    r.substituteFrom new behind 0 text = text := by
  induction text generalizing behind with
  | nil => rfl
  | cons c rest ih =>
      rw [substituteFrom, hr behind (c :: rest) h]
      exact congrArg (c :: ·) (ih fun d hd => h d (List.mem_cons_of_mem c hd))

theorem exact_rests [DecidableEq α] {text : List α} {at_ end_ : Cursor α}
    (h : end_ ∈ (exact text).rests at_) : at_.ahead = text ++ end_.ahead := by
  induction text generalizing at_ with
  | nil =>
      rw [exact, List.map_nil, seq, List.foldr_nil, rests, List.mem_singleton] at h
      rw [h]
      rfl
  | cons c text ih =>
      obtain ⟨behind, ahead⟩ := at_
      change end_ ∈ ((one fun d => decide (c = d)).rests ⟨behind, ahead⟩).flatMap
        (exact text).rests at h
      obtain ⟨next, hnext, hend⟩ := List.mem_flatMap.mp h
      cases ahead with
      | nil => cases hnext
      | cons d rest =>
          rw [rests] at hnext
          split at hnext
          · rename_i hsame
            obtain rfl := List.mem_singleton.mp hnext
            rw [← of_decide_eq_true hsame]
            exact congrArg (c :: ·) (ih hend)
          · cases hnext

/-- A text is not found where one of its characters does not occur. -/
theorem neverIn_exact [DecidableEq α] {text : List α} {kind : α → Prop} {c : α} (hc : c ∈ text)
    (hkind : ¬kind c) : (exact text).NeverIn kind := by
  intro behind ahead hahead
  rw [taken]
  split
  · rename_i end_ hend
    have htext := exact_rests (List.mem_of_mem_head? hend)
    have hmem : c ∈ ahead := by
      rw [show ahead = text ++ end_.ahead from htext]
      exact List.mem_append_left _ hc
    exact absurd (hahead c hmem) hkind
  · rfl

/-- The characters that the pattern takes are not of a kind. -/
def Avoids (kind : α → Prop) : Regex α → Prop
  | nothing | boundary _ | notBehind _ | notAhead _ => True
  | one accepts | many accepts | upTo _ accepts => ∀ c, accepts c = true → ¬kind c
  | cat first second | alt first second => Avoids kind first ∧ Avoids kind second

theorem manyRests_avoids {kind : α → Prop} {accepts : α → Bool}
    (h : ∀ c, accepts c = true → ¬kind c) {behind : Option α} {text : List α} {end_ : Cursor α}
    (hend : end_ ∈ manyRests accepts behind text) :
    ∃ taken, text = taken ++ end_.ahead ∧ ∀ c ∈ taken, ¬kind c := by
  induction text generalizing behind with
  | nil =>
      rw [manyRests, List.mem_singleton] at hend
      exact ⟨[], by rw [hend]; rfl, by simp⟩
  | cons c rest ih =>
      rw [manyRests] at hend
      split at hend
      · rename_i haccepts
        rcases List.mem_append.mp hend with hrest | hhere
        · obtain ⟨taken, rfl, htaken⟩ := ih hrest
          exact ⟨c :: taken, rfl, List.forall_mem_cons.mpr ⟨h c haccepts, htaken⟩⟩
        · exact ⟨[], by rw [List.mem_singleton.mp hhere]; rfl, by simp⟩
      · exact ⟨[], by rw [List.mem_singleton.mp hend]; rfl, by simp⟩

theorem upToRests_avoids {kind : α → Prop} {accepts : α → Bool}
    (h : ∀ c, accepts c = true → ¬kind c) {behind : Option α} {bound : Nat} {text : List α}
    {end_ : Cursor α} (hend : end_ ∈ upToRests accepts behind bound text) :
    ∃ taken, text = taken ++ end_.ahead ∧ ∀ c ∈ taken, ¬kind c := by
  induction bound generalizing behind text with
  | zero =>
      rw [upToRests, List.mem_singleton] at hend
      exact ⟨[], by rw [hend]; rfl, by simp⟩
  | succ bound ih =>
      cases text with
      | nil =>
          rw [upToRests, List.mem_singleton] at hend
          exact ⟨[], by rw [hend]; rfl, by simp⟩
      | cons c rest =>
          rw [upToRests] at hend
          split at hend
          · rename_i haccepts
            rcases List.mem_append.mp hend with hrest | hhere
            · obtain ⟨taken, rfl, htaken⟩ := ih hrest
              exact ⟨c :: taken, rfl, List.forall_mem_cons.mpr ⟨h c haccepts, htaken⟩⟩
            · exact ⟨[], by rw [List.mem_singleton.mp hhere]; rfl, by simp⟩
          · exact ⟨[], by rw [List.mem_singleton.mp hend]; rfl, by simp⟩

/-- What a match takes. -/
theorem rests_avoids {kind : α → Prop} {r : Regex α} (h : r.Avoids kind) {at_ end_ : Cursor α}
    (hend : end_ ∈ r.rests at_) :
    ∃ taken, at_.ahead = taken ++ end_.ahead ∧ ∀ c ∈ taken, ¬kind c := by
  induction r generalizing at_ end_ with
  | nothing => exact ⟨[], by rw [List.mem_singleton.mp hend]; rfl, by simp⟩
  | one accepts =>
      obtain ⟨behind, ahead⟩ := at_
      cases ahead with
      | nil => cases hend
      | cons c rest =>
          rw [rests] at hend
          split at hend
          · rename_i haccepts
            refine ⟨[c], by rw [List.mem_singleton.mp hend]; rfl, fun d hd => ?_⟩
            rw [List.mem_singleton.mp hd]
            exact h c haccepts
          · cases hend
  | many accepts => exact manyRests_avoids h hend
  | upTo bound accepts => exact upToRests_avoids h hend
  | boundary isWord =>
      rw [rests] at hend
      split at hend
      · exact ⟨[], by rw [List.mem_singleton.mp hend]; rfl, by simp⟩
      · cases hend
  | notBehind accepts =>
      rw [rests] at hend
      split at hend
      · cases hend
      · exact ⟨[], by rw [List.mem_singleton.mp hend]; rfl, by simp⟩
  | notAhead accepts =>
      rw [rests] at hend
      split at hend
      · cases hend
      · exact ⟨[], by rw [List.mem_singleton.mp hend]; rfl, by simp⟩
  | cat first second ihfirst ihsecond =>
      obtain ⟨next, hnext, hrest⟩ := List.mem_flatMap.mp hend
      obtain ⟨taken, htext, htaken⟩ := ihfirst h.1 hnext
      obtain ⟨more, hahead, hmore⟩ := ihsecond h.2 hrest
      refine ⟨taken ++ more, by rw [htext, hahead, List.append_assoc], fun c hc => ?_⟩
      exact (List.mem_append.mp hc).elim (htaken c) (hmore c)
  | alt first second ihfirst ihsecond =>
      rcases List.mem_append.mp hend with hfirst | hsecond
      · exact ihfirst h.1 hfirst
      · exact ihsecond h.2 hsecond

/-- The characters that the pattern takes at a position. -/
theorem taken_avoids {kind : α → Prop} {r : Regex α} (h : r.Avoids kind) (behind : Option α)
    (text : List α) : ∀ c ∈ text.take (r.taken behind text), ¬kind c := by
  rw [taken]
  split
  · rename_i end_ hend
    obtain ⟨taken, htext, htaken⟩ := rests_avoids h (List.mem_of_mem_head? hend)
    have hahead : text = taken ++ end_.ahead := htext
    rw [hahead, List.length_append, Nat.add_sub_cancel, List.take_left']
    · exact htaken
    · rfl
  · simp

theorem mem_substituteFrom_of_avoids {kind : α → Prop} {r : Regex α} (hr : r.Avoids kind)
    {new text : List α} {behind : Option α} {skip : Nat} {c : α}
    (hskip : ∀ d ∈ text.take skip, ¬kind d) (hc : c ∈ text) (hkind : kind c) :
    c ∈ r.substituteFrom new behind skip text := by
  induction text generalizing behind skip with
  | nil => cases hc
  | cons d rest ih =>
      cases skip with
      | succ skip =>
          rw [substituteFrom]
          rw [List.take_succ_cons] at hskip
          refine ih (fun e he => hskip e (List.mem_cons_of_mem d he)) ?_
          exact (List.mem_cons.mp hc).resolve_left fun heq =>
            hskip d List.mem_cons_self (heq ▸ hkind)
      | zero =>
          have htaken := taken_avoids hr behind (d :: rest)
          rw [substituteFrom]
          split
          · rcases List.mem_cons.mp hc with rfl | hc
            · exact List.mem_cons_self
            · exact List.mem_cons_of_mem d (ih (by simp) hc)
          · rename_i taken htake
            rw [htake, List.take_succ_cons] at htaken
            refine List.mem_append_right new (ih (fun e he => ?_) ?_)
            · exact htaken e (List.mem_cons_of_mem d he)
            · exact (List.mem_cons.mp hc).resolve_left fun heq =>
                htaken d List.mem_cons_self (heq ▸ hkind)

/-- A pattern that takes no character of a kind leaves those of the text. -/
theorem mem_substitute_of_avoids {kind : α → Prop} {r : Regex α} (hr : r.Avoids kind)
    {new text : List α} {c : α} (hc : c ∈ text) (hkind : kind c) : c ∈ r.substitute new text :=
  mem_substituteFrom_of_avoids hr (by simp) hc hkind

theorem exists_mem_substituteFrom {kind : α → Prop} {r : Regex α} {new text : List α}
    {behind : Option α} (hnew : ∃ c ∈ new, kind c) (htext : ∃ c ∈ text, kind c) :
    ∃ c ∈ r.substituteFrom new behind 0 text, kind c := by
  induction text generalizing behind with
  | nil =>
      obtain ⟨c, hc, -⟩ := htext
      cases hc
  | cons d rest ih =>
      rw [substituteFrom]
      split
      · obtain ⟨c, hc, hkind⟩ := htext
        rcases List.mem_cons.mp hc with rfl | hc
        · exact ⟨c, List.mem_cons_self, hkind⟩
        · obtain ⟨e, he, hkind⟩ := @ih (some d) ⟨c, hc, hkind⟩
          exact ⟨e, List.mem_cons_of_mem d he, hkind⟩
      · obtain ⟨c, hc, hkind⟩ := hnew
        exact ⟨c, List.mem_append_left _ hc, hkind⟩

/-- A text with a character of a kind keeps one when each match is replaced by a text with one. -/
theorem exists_mem_substitute {kind : α → Prop} {r : Regex α} {new text : List α}
    (hnew : ∃ c ∈ new, kind c) (htext : ∃ c ∈ text, kind c) :
    ∃ c ∈ r.substitute new text, kind c :=
  exists_mem_substituteFrom hnew htext

end Regex

end Support
