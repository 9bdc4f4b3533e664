import AiCustomerService.Workflows.BackendDispute

/-!
# What confirms a disputed conclusion

`resolve_backend_recheck` compares the conclusion that is stored after the result with the one that
was disputed.  A result that concludes nothing leaves the disputed one in place, which is then
compared with itself.
-/

namespace AiCustomerService

open Support

/-- A recheck is pending, and the result itself concludes what was disputed. -/
def Confirms (rt : Runtime) (slotMemory result : JsonObject) : Prop :=
  (getKey slotMemory "backend_recheck_pending").truthy = true ∧
    isAuthoritativeResult rt result = true ∧
    (conclusionFingerprint rt result).pyEq
      (getKey slotMemory "backend_recheck_origin_fingerprint") = true

/-- The resolver reports the same conclusion, or requests a handoff, only for a result that
confirms the disputed conclusion. -/
def ReportsConfirmed (rt : Runtime) (slotMemory result : JsonObject) (recordedAt : String) : Prop :=
  ∀ resolution, resolveBackendRecheck rt slotMemory result recordedAt = .ok resolution →
    resolution.sameConclusion = true ∨ resolution.shouldHandoff = true →
    Confirms rt slotMemory result

/-- A recheck is pending for the conclusion that is stored. -/
def StoredIsDisputed (slotMemory : JsonObject) : Prop :=
  (getKey slotMemory "backend_recheck_pending").truthy = true ∧
    (getKey slotMemory "backend_recheck_origin_fingerprint").truthy = true ∧
    (storedFingerprint slotMemory).pyEq
      (getKey slotMemory "backend_recheck_origin_fingerprint") = true

/-- A dispute waits in line, and the number of disputes cannot be read. -/
def UncountableDispute (rt : Runtime) (slotMemory : JsonObject) : Prop :=
  (getKey slotMemory "backend_recheck_queued_dispute").truthy = true ∧
    ∃ e, (getKey slotMemory "backend_dispute_count").intOrZero rt = .error e

section Resolver

variable {rt : Runtime} {slotMemory result : JsonObject} {recordedAt : String}

/-- An authoritative result is stored as the conclusion. -/
theorem storedFingerprint_of_authoritative {concluded : JsonObject}
    (hauthoritative : isAuthoritativeResult rt result = true)
    (h : applyBackendConclusion rt slotMemory result recordedAt = .ok concluded) :
    storedFingerprint concluded = conclusionFingerprint rt result := by
  have hrecord : getKey (backendConclusionRecord rt result recordedAt) "fingerprint" =
      conclusionFingerprint rt result := by
    simp [backendConclusionRecord, getKey]
  unfold applyBackendConclusion at h
  rw [hauthoritative] at h
  simp only [Bool.not_true, Bool.false_eq_true, if_false] at h
  split at h
  · obtain ⟨count, -, hpure⟩ := bind_eq_ok.mp h
    cases hpure
    rw [← hrecord]
    simp [storedFingerprint, getKey, Json.dictOrEmpty]
  · cases h
    rw [← hrecord]
    simp [storedFingerprint, getKey, Json.dictOrEmpty]

/-- A result that is not authoritative changes nothing. -/
theorem applyBackendConclusion_of_not (hnot : isAuthoritativeResult rt result = false) :
    applyBackendConclusion rt slotMemory result recordedAt = .ok slotMemory := by
  unfold applyBackendConclusion
  rw [hnot]
  rfl

/-- What the resolver reports, by the conclusion that is stored after the result. -/
theorem sameConclusion_of_resolve {resolution : RecheckResolution}
    (h : resolveBackendRecheck rt slotMemory result recordedAt = .ok resolution) :
    ∃ concluded, applyBackendConclusion rt slotMemory result recordedAt = .ok concluded ∧
      resolution.sameConclusion =
        ((getKey slotMemory "backend_recheck_pending").truthy &&
          (getKey slotMemory "backend_recheck_origin_fingerprint").truthy &&
          (storedFingerprint concluded).pyEq
            (getKey slotMemory "backend_recheck_origin_fingerprint")) ∧
      (resolution.shouldHandoff = true → resolution.sameConclusion = true) := by
  obtain ⟨concluded, hconcluded, hrest⟩ := bind_eq_ok.mp h
  refine ⟨concluded, hconcluded, ?_⟩
  dsimp only at hrest
  split at hrest
  · next hhandoff =>
    obtain ⟨count, -, hpure⟩ := bind_eq_ok.mp hrest
    cases hpure
    exact ⟨rfl, fun _ => (Bool.and_eq_true _ _ ▸ hhandoff).1⟩
  · cases hrest
    exact ⟨rfl, fun h => by cases h⟩

/-- What the resolver does where the disputed conclusion is still stored after the result. -/
theorem resolve_of_stored (hnot : isAuthoritativeResult rt result = false)
    (hstored : StoredIsDisputed slotMemory) :
    resolveBackendRecheck rt slotMemory result recordedAt =
      if (getKey slotMemory "backend_recheck_queued_dispute").truthy then do
        let count ← (getKey slotMemory "backend_dispute_count").intOrZero rt
        pure ⟨(slotMemory.eraseAll recheckKeys).set "backend_dispute_count"
          (.int (max count 2)), true, true⟩
      else pure ⟨slotMemory.eraseAll recheckKeys, true, false⟩ := by
  obtain ⟨hpending, horigin, hsame⟩ := hstored
  have hcount : getKey (slotMemory.eraseAll recheckKeys) "backend_dispute_count" =
      getKey slotMemory "backend_dispute_count" := by
    unfold getKey
    rw [Dict.get?_eraseAll, if_neg (by decide)]
  unfold resolveBackendRecheck
  dsimp only
  rw [applyBackendConclusion_of_not hnot]
  simp only [bind, Except.bind]
  rw [hpending, horigin, hsame, hcount]
  rfl

end Resolver

/-- Whatever is stored and whatever the result is: the resolver reports only confirmed conclusions
exactly if the result is authoritative, or the stored conclusion is not the disputed one, or a
waiting dispute cannot be counted. -/
theorem reportsConfirmed_iff (rt : Runtime) (slotMemory result : JsonObject)
    (recordedAt : String) :
    ReportsConfirmed rt slotMemory result recordedAt ↔
      isAuthoritativeResult rt result = true ∨ ¬StoredIsDisputed slotMemory ∨
        UncountableDispute rt slotMemory := by
  constructor
  · intro hreports
    by_contra hnone
    push Not at hnone
    obtain ⟨hnot, hstored, hcountable⟩ := hnone
    rw [Ne, Bool.not_eq_true] at hnot
    obtain ⟨resolution, hresolve, hsame⟩ : ∃ resolution,
        resolveBackendRecheck rt slotMemory result recordedAt = .ok resolution ∧
          resolution.sameConclusion = true := by
      rw [resolve_of_stored hnot hstored]
      split
      · next hqueued =>
        cases hread : (getKey slotMemory "backend_dispute_count").intOrZero rt with
        | error e => exact absurd ⟨hqueued, e, hread⟩ hcountable
        | ok count => exact ⟨_, rfl, rfl⟩
      · exact ⟨_, rfl, rfl⟩
    obtain ⟨-, hauthoritative, -⟩ := hreports resolution hresolve (Or.inl hsame)
    rw [hnot] at hauthoritative
    cases hauthoritative
  · intro hcondition resolution hresolve hreported
    obtain ⟨concluded, hconcluded, hvalue, himp⟩ := sameConclusion_of_resolve hresolve
    have hsame : resolution.sameConclusion = true := hreported.elim id himp
    rw [hvalue, Bool.and_eq_true, Bool.and_eq_true] at hsame
    obtain ⟨⟨hpending, horigin⟩, hequal⟩ := hsame
    by_cases hauthoritative : isAuthoritativeResult rt result = true
    · rw [storedFingerprint_of_authoritative hauthoritative hconcluded] at hequal
      exact ⟨hpending, hauthoritative, hequal⟩
    · rw [Bool.not_eq_true] at hauthoritative
      rw [applyBackendConclusion_of_not hauthoritative] at hconcluded
      cases hconcluded
      have hstored : StoredIsDisputed slotMemory := ⟨hpending, horigin, hequal⟩
      rcases hcondition with hcontra | hcontra | ⟨hqueued, e, herror⟩
      · rw [hauthoritative] at hcontra
        cases hcontra
      · exact absurd hstored hcontra
      · rw [resolve_of_stored hauthoritative hstored, if_pos hqueued, herror] at hresolve
        cases hresolve

/-! ## A player who is not found -/

/-- A memory in which a recheck is pending for the stored conclusion, and a dispute waits. -/
def disputedMemory : JsonObject := .ofList [
  ("backend_conclusion", .obj (.ofList [("fingerprint", .str "f")])),
  ("backend_recheck_pending", .bool true), ("backend_recheck_origin_fingerprint", .str "f"),
  ("backend_recheck_queued_dispute", .bool true)]

/-- The result of a query that did not find the player. -/
def notFoundResult : JsonObject := .ofList [("status", .str "success"),
  ("intent", .str "withdrawal_blocked_or_rollover"),
  ("reply_intent", .str "backend_player_not_found")]

/-- The recheck does not find the player, and the customer is told that it confirmed the
conclusion. -/
theorem not_found_is_reported_confirmed :
    ¬ReportsConfirmed .plain disputedMemory notFoundResult "2026-07-15T03:20:59Z" := by
  intro hreports
  have hnot : isAuthoritativeResult .plain notFoundResult = false := by decide
  have hstored : StoredIsDisputed disputedMemory := ⟨by decide, by decide, by decide⟩
  obtain ⟨-, hauthoritative, -⟩ := hreports _ (resolve_of_stored hnot hstored) (Or.inl rfl)
  rw [hnot] at hauthoritative
  cases hauthoritative

end AiCustomerService
