import AiCustomerService.Properties.TurnoverMet

/-!
# The player that a search finds

`query_player_user` searches by user name and then by mobile number.  The first search that returns
a row decides: its exact row is taken, and its first row where none is exact.
-/

namespace AiCustomerService

open Support

/-! ## The decision -/

/-- The rows of the player searches of a trace, in order. -/
def searchedRows (trace : List tacOps.Event) : List (List JsonObject) :=
  (finalResponses (trace.filter fun event => !isTurnoverQuery event)).map extractRows

theorem searchedRows_append (before after : List tacOps.Event) :
    searchedRows (before ++ after) = searchedRows before ++ searchedRows after := by
  simp [searchedRows]

/-- The first search that returns a row decides. -/
def pickPlayer (rt : Runtime) (identity : String) (searches : List (List JsonObject)) :
    Option JsonObject :=
  searches.findSome? fun rows => pickRow rt rows identity

section Rows

variable {rt : Runtime} {rows : List JsonObject} {identity : String}

theorem isEmpty_of_matches {row : JsonObject} (h : matchesIdentity rt row identity = true) :
    row.isEmpty = false := by
  obtain ⟨entries⟩ := row
  cases entries with
  | nil => simp [matchesIdentity, getKey, Dict.get?, Json.truthy] at h
  | cons entry rest => rfl

/-- A search with an exact row picks one. -/
theorem pickRow_of_matches {row : JsonObject} (hmem : row ∈ rows)
    (h : matchesIdentity rt row identity = true) :
    ∃ picked ∈ rows, pickRow rt rows identity = some picked ∧
      matchesIdentity rt picked identity = true := by
  cases hfind : rows.find? fun row => matchesIdentity rt row identity with
  | none =>
      have hnone := List.find?_eq_none.mp hfind row hmem
      exact absurd h hnone
  | some picked =>
      have hmatches := List.find?_some hfind
      refine ⟨picked, List.mem_of_find?_eq_some hfind, ?_, hmatches⟩
      simp [pickRow, hfind, isEmpty_of_matches hmatches]

/-- A search without an exact row picks its first one. -/
theorem pickRow_of_none (h : ∀ row ∈ rows, matchesIdentity rt row identity = false) :
    pickRow rt rows identity = rows.head?.filter fun row => !row.isEmpty := by
  have hfind : (rows.find? fun row => matchesIdentity rt row identity) = none := by
    rw [List.find?_eq_none]
    intro row hmem
    rw [h row hmem]
    exact Bool.false_ne_true
  simp [pickRow, hfind]

end Rows

/-- Some row of the search is a player with the identity. -/
def HasExact (rt : Runtime) (identity : String) (rows : List JsonObject) : Prop :=
  ∃ row ∈ rows, matchesIdentity rt row identity = true

/-- The search returned no first row, or an empty one. -/
def NoPlayer (rows : List JsonObject) : Prop :=
  (rows.head?.filter fun row => !row.isEmpty) = none

/-- Of the two searches, the first one that returns a player has one with the identity. -/
def DecidesExactly (rt : Runtime) (identity : String) (byName byMobile : List JsonObject) : Prop :=
  HasExact rt identity byName ∨
    (NoPlayer byName ∧ (HasExact rt identity byMobile ∨ NoPlayer byMobile))

/-- Only players with the identity are picked, and one is picked where there is one. -/
def PicksOnlyExact (rt : Runtime) (identity : String) (byName byMobile : List JsonObject) : Prop :=
  (∀ picked, pickPlayer rt identity [byName, byMobile] = some picked →
      matchesIdentity rt picked identity = true) ∧
    ((∃ row ∈ byName ++ byMobile, matchesIdentity rt row identity = true) →
      (pickPlayer rt identity [byName, byMobile]).isSome = true)

/-- The row is exact, or it is the first row of a search without an exact one. -/
def IsBestOf (rt : Runtime) (identity : String) (rows : List JsonObject) (picked : JsonObject) :
    Prop :=
  picked ∈ rows ∧ (matchesIdentity rt picked identity = true ∨
    (¬HasExact rt identity rows ∧ rows.head? = some picked))

section Decision

variable {rt : Runtime} {identity : String} {rows byName byMobile : List JsonObject}

/-- What one search picks: an exact row, its first row, or nothing. -/
theorem pickRow_cases (rt : Runtime) (identity : String) (rows : List JsonObject) :
    (∃ picked ∈ rows, pickRow rt rows identity = some picked ∧
        matchesIdentity rt picked identity = true) ∨
      (¬HasExact rt identity rows ∧ ¬NoPlayer rows ∧ ∃ first, rows.head? = some first ∧
        pickRow rt rows identity = some first ∧ matchesIdentity rt first identity = false) ∨
      (¬HasExact rt identity rows ∧ NoPlayer rows ∧ pickRow rt rows identity = none) := by
  by_cases hexact : HasExact rt identity rows
  · left
    obtain ⟨row, hmem, hmatches⟩ := hexact
    exact pickRow_of_matches hmem hmatches
  · right
    have hnone : ∀ row ∈ rows, matchesIdentity rt row identity = false := by
      intro row hmem
      by_contra hmatches
      exact hexact ⟨row, hmem, by simpa using hmatches⟩
    have hpick := pickRow_of_none hnone
    by_cases hplayer : NoPlayer rows
    · right
      exact ⟨hexact, hplayer, hpick.trans hplayer⟩
    · left
      obtain ⟨first, hfirst⟩ := Option.ne_none_iff_exists'.mp hplayer
      have hhead : rows.head? = some first := (Option.filter_eq_some_iff.mp hfirst).1
      exact ⟨hexact, hplayer, first, hhead, hpick.trans hfirst,
        hnone first (List.mem_of_mem_head? hhead)⟩

theorem isBestOf_pickRow {picked : JsonObject} (h : pickRow rt rows identity = some picked) :
    IsBestOf rt identity rows picked := by
  rcases pickRow_cases rt identity rows with
    ⟨row, hmem, hpick, hmatches⟩ | ⟨hexact, -, first, hhead, hpick, -⟩ | ⟨-, -, hpick⟩
  · cases h.symm.trans hpick
    exact ⟨hmem, Or.inl hmatches⟩
  · cases h.symm.trans hpick
    exact ⟨List.mem_of_mem_head? hhead, Or.inr ⟨hexact, hhead⟩⟩
  · cases h.symm.trans hpick

/-- The player is picked from the first search, or from the second one where the first one picks
nothing. -/
theorem pickPlayer_pair :
    pickPlayer rt identity [byName, byMobile] =
      (pickRow rt byName identity).or (pickRow rt byMobile identity) := by
  unfold pickPlayer
  cases hname : pickRow rt byName identity with
  | some picked => simp [hname]
  | none =>
      cases hmobile : pickRow rt byMobile identity with
      | some picked => simp [hname, hmobile]
      | none => simp [hname, hmobile]

theorem picksOnlyExact_iff :
    PicksOnlyExact rt identity byName byMobile ↔ DecidesExactly rt identity byName byMobile := by
  unfold PicksOnlyExact DecidesExactly
  rw [pickPlayer_pair]
  rcases pickRow_cases rt identity byName with
    ⟨row, hmem, hpick, hmatches⟩ | ⟨hexact, hplayer, first, -, hpick, hmatches⟩ |
      ⟨hexact, hplayer, hpick⟩
  · rw [hpick]
    constructor
    · intro _
      exact Or.inl ⟨row, hmem, hmatches⟩
    · intro _
      refine ⟨?_, fun _ => rfl⟩
      rintro picked ⟨⟩
      exact hmatches
  · rw [hpick]
    constructor
    · rintro ⟨honly, -⟩
      have hfirst := honly first rfl
      rw [hmatches] at hfirst
      cases hfirst
    · rintro (hcontra | ⟨hcontra, -⟩)
      · exact absurd hcontra hexact
      · exact absurd hcontra hplayer
  · rw [hpick, Option.none_or]
    rcases pickRow_cases rt identity byMobile with
      ⟨row, hmem, hpick', hmatches⟩ | ⟨hexact', hplayer', first, -, hpick', hmatches⟩ |
        ⟨hexact', hplayer', hpick'⟩
    · rw [hpick']
      constructor
      · intro _
        exact Or.inr ⟨hplayer, Or.inl ⟨row, hmem, hmatches⟩⟩
      · intro _
        refine ⟨?_, fun _ => rfl⟩
        rintro picked ⟨⟩
        exact hmatches
    · rw [hpick']
      constructor
      · rintro ⟨honly, -⟩
        have hfirst := honly first rfl
        rw [hmatches] at hfirst
        cases hfirst
      · rintro (hcontra | ⟨-, hcontra | hcontra⟩)
        · exact absurd hcontra hexact
        · exact absurd hcontra hexact'
        · exact absurd hcontra hplayer'
    · rw [hpick']
      constructor
      · intro _
        exact Or.inr ⟨hplayer, Or.inr hplayer'⟩
      · intro _
        refine ⟨fun picked h => (by cases h), ?_⟩
        rintro ⟨row, hmem, hmatches⟩
        rcases List.mem_append.mp hmem with hmem | hmem
        · exact absurd ⟨row, hmem, hmatches⟩ hexact
        · exact absurd ⟨row, hmem, hmatches⟩ hexact'

end Decision

/-! ## Runs of the search -/

section Search

variable {F : Type} {rt : TacRuntime F} {config : BackendConfig}

/-- A player search returns the rows of its response. -/
theorem searchedRows_apiGet {authorization : Option String} {path merchant : String}
    {params : JsonObject} {trace : List tacOps.Event} {response : Json × Option String}
    (hpath : path ≠ turnoverPath)
    (h : Prog.Runs (apiGet rt config authorization path params merchant) trace (.ok response)) :
    searchedRows trace = [extractRows response.1] := by
  have hall : trace.filter (fun event => !isTurnoverQuery event) = trace := by
    rw [List.filter_eq_self]
    intro event hmem
    rw [not_turnoverQuery_of_path (hasPath_apiGet _ _ _ _) hpath h event hmem]
    rfl
  rw [searchedRows, hall, runs_apiGet h]
  rfl

/-- The search returns the player that its rows decide. -/
theorem found_of_runs {merchant identity : String} {codes : List String}
    {authorization : Option String} {trace : List tacOps.Event}
    {found : Option Player × Option String} {searches : List (List JsonObject)}
    (h : Prog.Runs (queryPlayerUser rt config merchant identity codes authorization) trace
      (.ok found)) (hlength : searches.length = codes.length)
    (hsearches : searchedRows trace <+: searches) :
    found.1 = (pickPlayer rt.toRuntime identity searches).map fun picked =>
      playerOf picked identity := by
  induction codes generalizing authorization trace searches with
  | nil =>
      obtain ⟨rfl, rfl⟩ := Prog.runs_ret_iff.mp h
      rw [List.length_eq_zero_iff.mp hlength]
      rfl
  | cons code rest ih =>
      obtain ⟨first, response, others, rfl, hget, h⟩ := Prog.runs_bind_ok.mp h
      obtain ⟨second, ⟨⟩, others, rfl, hassert, h⟩ := Prog.runs_bind_ok.mp h
      rw [(runs_assertBackendSuccess hassert).1, List.nil_append, searchedRows_append,
        searchedRows_apiGet (by decide) hget, List.singleton_append] at hsearches
      cases searches with
      | nil => cases hlength
      | cons rows searches =>
          obtain ⟨hrows, hrest⟩ := List.cons_prefix_cons.mp hsearches
          cases hrows
          dsimp only at h
          split at h
          · next picked hpick =>
            obtain ⟨rfl, rfl⟩ := Prog.runs_ret_iff.mp h
            simp [pickPlayer, hpick]
          · next hpick =>
            rw [ih h (by simpa using hlength) hrest]
            simp [pickPlayer, hpick]

/-- A summary is one of the player of its query. -/
theorem customerId_of_summary {player : Player} {records : List (TurnoverRecord F)}
    {summary : TurnoverResult F}
    (h : summarizeTurnoverRequirement rt player records = .ok summary) :
    summary.customerId = player.customerId := by
  obtain ⟨remaining, -, h⟩ := bind_eq_ok.mp h
  obtain ⟨required, -, h⟩ := bind_eq_ok.mp h
  obtain ⟨valid, -, h⟩ := bind_eq_ok.mp h
  cases h
  rfl

theorem customerId_of_windows {merchant : String} {player : Player}
    {windows done : List TurnoverWindow} {best : Option (TurnoverResult F)}
    {authorization : Option String} {trace : List tacOps.Event}
    {result : Option (TurnoverResult F)}
    (hbest : ∀ summary, best = some summary → summary.customerId = player.customerId)
    (h : Prog.Runs (queryWindows rt config merchant player windows done best authorization) trace
      (.ok result)) : ∀ summary, result = some summary → summary.customerId = player.customerId := by
  induction windows generalizing done best authorization trace with
  | nil =>
      obtain ⟨-, rfl⟩ := Prog.runs_ret_iff.mp h
      exact hbest
  | cons window rest ih =>
      obtain ⟨first, response, others, -, -, h⟩ := Prog.runs_bind_ok.mp h
      obtain ⟨second, ⟨⟩, others, -, -, h⟩ := Prog.runs_bind_ok.mp h
      obtain ⟨third, summary, others, -, hsummary, h⟩ := Prog.runs_bind_ok.mp h
      obtain ⟨records, -, hrecords⟩ := bind_eq_ok.mp (runs_lift hsummary).2
      have hplayer := customerId_of_summary hrecords
      dsimp only at h
      split at h
      · obtain ⟨-, rfl⟩ := Prog.runs_ret_iff.mp h
        rintro found ⟨⟩
        exact hplayer
      · apply ih _ h
        intro chosen hchosen
        split at hchosen
        · cases hchosen
          exact hplayer
        · exact hbest chosen hchosen

/-- A query that reports a player reports the one that its searches decide. -/
theorem reported_of_runs {identity : String} {trace : List tacOps.Event}
    {turnover : TurnoverResult F} {byName byMobile : List JsonObject}
    (h : Prog.Runs (queryTurnoverRequirement rt config identity) trace (.ok turnover))
    (hsearches : searchedRows trace <+: [byName, byMobile]) (hfound : turnover.playerFound = true) :
    ∃ picked, pickPlayer rt.toRuntime identity [byName, byMobile] = some picked ∧
      turnover.customerId = (playerOf picked identity).customerId := by
  obtain ⟨first, merchant, rest, rfl, hmerchant, h⟩ := Prog.runs_bind_ok.mp h
  obtain ⟨second, found, rest, rfl, hsearch, h⟩ := Prog.runs_bind_ok.mp h
  rw [runs_merchantCode hmerchant, List.nil_append, searchedRows_append] at hsearches
  have hdecided := found_of_runs hsearch rfl ((List.prefix_append _ _).trans hsearches)
  unfold queryRequirements at h
  split at h
  · obtain ⟨-, rfl⟩ := Prog.runs_ret_iff.mp h
    cases hfound
  · next player hplayer =>
    rw [(Option.filter_eq_some_iff.mp hplayer).1] at hdecided
    obtain ⟨picked, hpicked, hsame⟩ := Option.map_eq_some_iff.mp hdecided.symm
    refine ⟨picked, hpicked, ?_⟩
    rw [hsame]
    obtain ⟨third, best, rest, -, hwindows, h⟩ := Prog.runs_bind_ok.mp h
    have hbest := customerId_of_windows (fun summary hsummary => by cases hsummary) hwindows
    cases best with
    | some best =>
        obtain ⟨-, rfl⟩ := Prog.runs_ret_iff.mp h
        exact hbest _ rfl
    | none => exact customerId_of_summary (runs_lift h).2

end Search

/-! ## The player that is reported -/

/-- A query that reports a player reports the one that is picked. -/
def ReportsPicked {F : Type} (rt : TacRuntime F) (identity : String)
    (byName byMobile : List JsonObject) (result : BackendQueryResult F) : Prop :=
  ∀ intent remaining query, result = .success intent remaining query → query.playerFound = true →
    ∃ picked, pickPlayer rt.toRuntime identity [byName, byMobile] = some picked ∧
      query.customerId = (playerOf picked identity).customerId

/-- The customer with the mobile number, and a player who is somebody else. -/
def mobilePlayer : JsonObject := .ofList [("customerId", .str "2"), ("mobile", .str "13800138000")]

def otherPlayer : JsonObject := .ofList [("customerId", .str "1"), ("username", .str "other")]

/-- A backend whose search by user name finds somebody else. -/
def otherByName (op : TacOp) : Except TacError Json :=
  let row : JsonObject := match op with
    | .login _ _ => ∅
    | .get _ params _ _ _ =>
        if (getKey params "searchCode").eqText "USERNAME" then otherPlayer else mobilePlayer
  .ok (.obj (.ofList [("success", .bool true), ("value", .arr [.obj row])]))

end AiCustomerService
