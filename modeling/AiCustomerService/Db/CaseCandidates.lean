import AiCustomerService.Db.TelegramCases
import AiCustomerService.Services.TelegramCaseFollowup

/-!
# Candidates of a follow-up

`TelegramCaseRepository.list_money_case_candidates`: the open money cases of a chat that belong to
other threads than the one the customer writes in.
-/

namespace AiCustomerService

open Support

/-- The statuses in which a money case is over. -/
def closedCaseStatuses : List String := ["completed_confirmed_by_customer", "terminal_other"]

/-- The `WHERE` clause. -/
def TelegramCaseRow.isCandidate (row : TelegramCaseRow)
    (tenantId chatId sourceThreadId : String) : Bool :=
  decide (row.tenantId = tenantId) && decide (row.chatId = chatId) &&
    decide ((row.currentThreadId.or row.threadId).getD "" ≠ sourceThreadId) &&
    row.intent.any (["deposit_missing", "withdrawal_missing"].contains ·) &&
    !closedCaseStatuses.contains row.status

/-- The row joined with the slot memory of its conversation; the selected columns hold no
transaction reference. -/
def TelegramCaseRow.candidate (db : Database) (row : TelegramCaseRow) : MoneyCase where
  id := row.id
  intent := row.intent.getD ""
  status := some row.status
  rootMessageId := some row.rootMessageId
  slotMemory := ((db.conversation? row.conversationId).map ConversationRow.slotMemory).getD ∅
  columns := ∅

/-- The candidate with its normalized status. -/
def TelegramCaseRow.normalized (rt : Runtime) (services : StaffReplyServices) (db : Database)
    (row : TelegramCaseRow) : MoneyCase :=
  let case := row.candidate db
  { case with status := some (normalizeLegacyCaseStatus rt services case) }

/-- `ORDER BY c.updated_at DESC, c.id DESC`. -/
def newestFirst (updatedAt : Nat → Nat) (a b : TelegramCaseRow) : Bool :=
  decide (updatedAt b.id < updatedAt a.id ∨ updatedAt b.id = updatedAt a.id ∧ b.id ≤ a.id)

/-- `list_money_case_candidates`; the rows with the legacy status are updated. -/
def listMoneyCaseCandidates (rt : Runtime) (services : StaffReplyServices)
    (updatedAt : Nat → Nat) (db : Database) (tenantId chatId sourceThreadId : String) :
    Database × List MoneyCase :=
  let isCandidate := fun row : TelegramCaseRow => row.isCandidate tenantId chatId sourceThreadId
  let candidates := ((db.telegramCases.filter isCandidate).mergeSort (newestFirst updatedAt)).map
    fun row => row.normalized rt services db
  ({ db with
      telegramCases := db.telegramCases.map fun row =>
        if isCandidate row && decide (row.status = "created") then
          { row with status := normalizeLegacyCaseStatus rt services (row.candidate db) }
        else row },
    candidates)

/-- A case that has not ended. -/
def TelegramCaseRow.IsOpen (row : TelegramCaseRow) : Prop := row.status ∉ closedCaseStatuses

instance (row : TelegramCaseRow) : Decidable row.IsOpen :=
  inferInstanceAs (Decidable (¬ _))

/-- A candidate is an open case of the chat. -/
theorem exists_row_of_candidate {rt : Runtime} {services : StaffReplyServices}
    {updatedAt : Nat → Nat} {db : Database} {tenantId chatId sourceThreadId : String}
    {case : MoneyCase}
    (h : case ∈ (listMoneyCaseCandidates rt services updatedAt db tenantId chatId
      sourceThreadId).2) :
    ∃ row ∈ db.telegramCases, row.id = case.id ∧ row.chatId = chatId ∧ row.IsOpen := by
  obtain ⟨row, hsorted, rfl⟩ := List.mem_map.mp h
  obtain ⟨hmem, hcandidate⟩ := List.mem_filter.mp (List.mem_mergeSort.mp hsorted)
  simp only [TelegramCaseRow.isCandidate, Bool.and_eq_true, decide_eq_true_eq] at hcandidate
  obtain ⟨⟨⟨⟨-, hchat⟩, -⟩, -⟩, hopen⟩ := hcandidate
  refine ⟨row, hmem, rfl, hchat, ?_⟩
  simpa [TelegramCaseRow.IsOpen] using hopen

end AiCustomerService
