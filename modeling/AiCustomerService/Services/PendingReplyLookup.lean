import AiCustomerService.Python.Json
import Mathlib.Data.String.Basic

/-!
# Looking up the last reply of a case

`services/pending_reply_lookup.py`: a customer types an account, an email or a phone
number, and the latest case with a matching identity is reported.
-/

namespace AiCustomerService

open Support

/-- The runtime with the decimal digits of Unicode. -/
structure TextTables extends Runtime where
  isDecimal : Char → Bool

/-- The tables of plain texts. -/
def TextTables.plain : TextTables := { Runtime.plain with isDecimal := Char.isDigit }

/-- The values of `kind`. -/
inductive IdentityKind
  | email
  | phone
  | text
  deriving DecidableEq

/-- What `normalize_identity` returns. -/
structure Identity where
  kind : IdentityKind
  value : List Char
  deriving DecidableEq

/-- `[^\s@]`. -/
def isAddressChar (c : Char) : Bool := !isPySpace c && c ≠ '@'

/-- `re.fullmatch(r"[^\s@]+@[^\s@]+\.[^\s@]+", text)`: the dot has a character on both sides. -/
def isEmail (text : List Char) : Bool :=
  match text.span isAddressChar with
  | (user, '@' :: domain) =>
      !user.isEmpty && domain.all isAddressChar && domain.tail.dropLast.contains '.'
  | _ => false

/-- `re.sub(r"\D", "", raw)`. -/
def digitsOf (tables : TextTables) (raw : String) : List Char :=
  raw.toList.filter tables.isDecimal

/-- `re.sub(r"\s+", "", lower.lstrip("@"))`. -/
def compactOf (lower : String) : List Char :=
  (lower.toList.dropWhile (· = '@')).filter fun c => !isPySpace c

/-- `len(digits) >= 6 and len(digits) >= max(6, int(len(compact) * 0.6))`. -/
def countsAsPhone (digits compact : Nat) : Bool :=
  decide (6 ≤ digits) && decide (max 6 (3 * compact / 5) ≤ digits)

/-- `normalize_identity`. -/
def normalizeIdentity (tables : TextTables) (value : String) : Option Identity :=
  let raw := strip value
  if raw = "" then none
  else
    let lower := tables.lower raw
    if isEmail lower.toList then some ⟨.email, lower.toList⟩
    else
      let digits := digitsOf tables raw
      let compact := compactOf lower
      if countsAsPhone digits.length compact.length then some ⟨.phone, digits⟩
      else if compact.length < 3 then none
      else some ⟨.text, compact⟩

/-- One of the numbers ends with the other, which has at least eight digits. -/
def sameNumberEnd (digits wanted : List Char) : Bool :=
  decide (8 ≤ min digits.length wanted.length) &&
    (decide (wanted <:+ digits) || decide (digits <:+ wanted))

/-- `identity_matches`. -/
def identityMatches (tables : TextTables) (candidate : String) (wanted : Identity) : Bool :=
  match normalizeIdentity tables candidate with
  | none => false
  | some normalized =>
      if normalized = wanted then true
      else if normalized.kind = .phone ∧ wanted.kind = .phone then
        sameNumberEnd normalized.value wanted.value
      else false

/-- The columns of a candidate case that the lookup reads; the texts of the times are
those of `str`. -/
structure CandidateCase where
  telegramCaseId : Nat
  conversationId : String
  chatId : String
  updatedAt : String
  conversationStatus : Option String
  commandPayloadJson : Json
  conversationSlotMemory : Json
  latestStaffOutboundPayloadJson : Json

/-- The keys under which a slot memory holds an identity. -/
def identityKeys : List String := ["account_or_phone", "phone", "pending_reply_identity", "email"]

/-- `identity_candidates`. -/
def identityCandidates (rt : Runtime) (row : CandidateCase) : Except PyError (List String) := do
  let payload ← row.commandPayloadJson.mappingOrEmpty
  let slotMemory ← (getKey payload "slot_memory").mappingOrEmpty
  let conversationSlots ← row.conversationSlotMemory.mappingOrEmpty
  let candidates := identityKeys.map (getKey slotMemory) ++ identityKeys.map (getKey conversationSlots)
  pure ((candidates.filter Json.truthy).map (Json.pyStr rt))

/-- `latest_customer_visible_reply`. -/
def latestCustomerVisibleReply (rt : Runtime) (row : CandidateCase) :
    Except PyError (Option String) := do
  let payload ← row.latestStaffOutboundPayloadJson.mappingOrEmpty
  let text := strip ((getKey payload "text").textOrEmpty rt)
  pure (if text = "" then none else some text)

/-- `case_sort_key(row) < case_sort_key(other)`. -/
def sortsBefore (row other : CandidateCase) : Bool :=
  decide (row.updatedAt < other.updatedAt) ||
    (row.updatedAt = other.updatedAt && decide (row.telegramCaseId < other.telegramCaseId))

/-- `sorted(matches, key=case_sort_key, reverse=True)[0]`: the first of the latest ones. -/
def latestCase (first : CandidateCase) (rest : List CandidateCase) : CandidateCase :=
  rest.foldl (fun best row => if sortsBefore best row then row else best) first

/-- What `lookup` returns about a case. -/
structure LookupResult where
  status : String
  reason : String
  replyText : String
  matchedCase : Option CandidateCase

/-- The filter of the rows. -/
def caseMatches (tables : TextTables) (wanted : Identity) (currentConversationId : String)
    (row : CandidateCase) : Except PyError Bool :=
  if row.conversationId = currentConversationId then .ok false
  else do
    let candidates ← identityCandidates tables.toRuntime row
    pure (candidates.any fun candidate => identityMatches tables candidate wanted)

/-- The rows whose identities match. -/
def matchingCases (tables : TextTables) (wanted : Identity) (currentConversationId : String) :
    List CandidateCase → Except PyError (List CandidateCase)
  | [] => .ok []
  | row :: rest => do
      let isMatch ← caseMatches tables wanted currentConversationId row
      let others ← matchingCases tables wanted currentConversationId rest
      pure (if isMatch then row :: others else others)

/-- What is reported about the latest case. -/
def reportCase (tables : TextTables) (row : CandidateCase) : Except PyError LookupResult := do
  match ← latestCustomerVisibleReply tables.toRuntime row with
  | some latestReply =>
      pure ⟨"found", "found_last_customer_reply", "已找到你上一笔案件的最新回复：\n" ++ latestReply,
        some row⟩
  | none =>
      if ["HUMAN_HANDOFF", "HANDOFF_REQUESTED"].contains (textOr row.conversationStatus "").toUpper
      then
        pure ⟨"human_handoff", "case_human_handoff",
          "我找到一笔相同资料的上一笔案件，目前已由真人客服处理中。若是同一件事，请等待专员继续回复；若是新问题，请从选单重新选择。",
          some row⟩
      else
        pure ⟨"waiting", "case_waiting_backend",
          "我们已经有你上一笔案件记录，目前仍在确认中，暂时还没有最终答复。有新进度会在这里通知你。", some row⟩

/-- The answer when no case is found. -/
def notFound (reason : String) : LookupResult :=
  ⟨"not_found", reason,
    "目前没有找到这组资料的上一笔有效案件。请从选单选择问题类型，或联系真人客服继续处理。", none⟩

/-- `PendingReplyLookupService.lookup`, on the rows that `_fetch_candidate_cases` returned. -/
def lookupPendingReply (tables : TextTables) (rows : List CandidateCase) (identity : String)
    (currentConversationId : String) : Except PyError LookupResult :=
  match normalizeIdentity tables identity with
  | none => .ok (notFound "invalid_identity")
  | some wanted => do
      match ← matchingCases tables wanted currentConversationId rows with
      | [] => pure (notFound "case_not_found")
      | first :: rest => reportCase tables (latestCase first rest)

/-! ## What is reported -/

theorem latestCase_mem (first : CandidateCase) (rest : List CandidateCase) :
    latestCase first rest ∈ first :: rest := by
  unfold latestCase
  induction rest generalizing first with
  | nil => exact List.mem_singleton_self first
  | cons row rest ih =>
      rw [List.foldl_cons]
      split
      · exact List.mem_cons_of_mem _ (ih row)
      · rcases List.mem_cons.mp (ih first) with heq | hmem
        · rw [heq]
          exact List.mem_cons_self
        · exact List.mem_cons_of_mem _ (List.mem_cons_of_mem _ hmem)

/-- A matching row has an identity that matches. -/
theorem matchingCases_ok {tables : TextTables} {wanted : Identity} {current : String}
    {rows found : List CandidateCase} (h : matchingCases tables wanted current rows = .ok found)
    {row : CandidateCase} (hrow : row ∈ found) :
    row ∈ rows ∧ ∃ candidates, identityCandidates tables.toRuntime row = .ok candidates ∧
      ∃ candidate ∈ candidates, identityMatches tables candidate wanted = true := by
  induction rows generalizing found with
  | nil =>
      cases h
      cases hrow
  | cons head rest ih =>
      unfold matchingCases at h
      obtain ⟨isMatch, hmatch, h⟩ := bind_eq_ok.mp h
      obtain ⟨others, hothers, h⟩ := bind_eq_ok.mp h
      have hrest : row ∈ others → row ∈ head :: rest ∧
          ∃ candidates, identityCandidates tables.toRuntime row = .ok candidates ∧
            ∃ candidate ∈ candidates, identityMatches tables candidate wanted = true := by
        intro hmem
        obtain ⟨hin, hcandidates⟩ := ih hothers hmem
        exact ⟨List.mem_cons_of_mem _ hin, hcandidates⟩
      cases h
      cases isMatch with
      | false => exact hrest hrow
      | true =>
          rcases List.mem_cons.mp hrow with rfl | hmem
          · refine ⟨List.mem_cons_self, ?_⟩
            unfold caseMatches at hmatch
            split at hmatch
            · cases hmatch
            · obtain ⟨candidates, hcandidates, hany⟩ := bind_eq_ok.mp hmatch
              have hany : (candidates.any fun candidate =>
                  identityMatches tables candidate wanted) = true := Except.ok.inj hany
              exact ⟨candidates, hcandidates, List.any_eq_true.mp hany⟩
          · exact hrest hmem

/-- Every report about a case is about one whose identities match. -/
theorem lookupPendingReply_ok {tables : TextTables} {rows : List CandidateCase}
    {identity current : String} {result : LookupResult} {row : CandidateCase}
    (h : lookupPendingReply tables rows identity current = .ok result)
    (hrow : result.matchedCase = some row) :
    row ∈ rows ∧ ∃ wanted candidates, normalizeIdentity tables identity = some wanted ∧
      identityCandidates tables.toRuntime row = .ok candidates ∧
      ∃ candidate ∈ candidates, identityMatches tables candidate wanted = true := by
  unfold lookupPendingReply at h
  cases hwanted : normalizeIdentity tables identity with
  | none =>
      rw [hwanted] at h
      cases h
      cases hrow
  | some wanted =>
      rw [hwanted] at h
      obtain ⟨found, hfound, h⟩ := bind_eq_ok.mp h
      cases found with
      | nil =>
          cases h
          cases hrow
      | cons first rest =>
          obtain ⟨latestReply, -, h⟩ := bind_eq_ok.mp h
          have hreported : result.matchedCase = some (latestCase first rest) := by
            cases latestReply with
            | some reply =>
                cases h
                rfl
            | none =>
                dsimp only at h
                split at h
                · cases h
                  rfl
                · cases h
                  rfl
          rw [hrow] at hreported
          obtain rfl := Option.some.inj hreported
          obtain ⟨hmem, candidates, hcandidates, hmatch⟩ :=
            matchingCases_ok hfound (latestCase_mem first rest)
          exact ⟨hmem, wanted, candidates, rfl, hcandidates, hmatch⟩

end AiCustomerService
