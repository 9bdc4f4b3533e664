import AiCustomerService.Db.TelegramCases

/-!
# Follow-ups of a case

The `telegram_case_followups` of `TelegramCaseRepository`: a follow-up is reserved once for
a case and a source thread, and its status says how far its delivery has come.
-/

namespace AiCustomerService

open Support

/-- The arguments of `reserve_followup`. -/
structure FollowupRequest where
  externalCommandId : Nat
  telegramCaseId : Nat
  sourceConversationId : String
  sourceThreadId : String
  followUpKind : String
  previousStatus : String

/-- What `reserve_followup` returns: the row, whether it existed, and its case. -/
structure Reservation where
  followup : FollowupRow
  duplicate : Bool
  case : TelegramCaseRow

/-- `SELECT * FROM telegram_case_followups WHERE telegram_case_id = %s AND source_thread_id = %s`. -/
def Database.followupOf? (db : Database) (telegramCaseId : Nat) (sourceThreadId : String) :
    Option FollowupRow :=
  db.telegramCaseFollowups.find? fun row =>
    row.telegramCaseId = telegramCaseId && row.sourceThreadId = sourceThreadId

/-- `_next_followup_number_on_connection`. -/
def Database.nextFollowupNumber (db : Database) (telegramCaseId : Nat) : Nat :=
  let numbers := (db.telegramCaseFollowups.filter fun row =>
    row.telegramCaseId = telegramCaseId).map FollowupRow.followUpNumber
  (if numbers.isEmpty then 1 else numbers.foldl max 0) + 1

/-- The row that is inserted for a new follow-up. -/
def FollowupRequest.row (request : FollowupRequest) (db : Database) : FollowupRow where
  id := db.telegramCaseFollowups.length + 1
  telegramCaseId := request.telegramCaseId
  externalCommandId := request.externalCommandId
  sourceConversationId := request.sourceConversationId
  sourceThreadId := request.sourceThreadId
  followUpKind := request.followUpKind
  followUpNumber := db.nextFollowupNumber request.telegramCaseId
  previousStatus := request.previousStatus
  telegramMessageId := none
  customerUpdateEn := none
  status := .reserved
  lastError := none

/-- `reserve_followup`; the row of the case is locked, so reservations of one case exclude
each other. -/
def reserveFollowup (db : Database) (request : FollowupRequest) :
    Except PyError (Database × Reservation) :=
  if request.sourceThreadId = "" then .error (.valueError "source_thread_id is required")
  else
    match db.telegramCases.find? fun row => row.id = request.telegramCaseId with
    | none =>
        .error (.valueError
          ("telegram case " ++ toString request.telegramCaseId ++ " not found"))
    | some case =>
        match db.followupOf? request.telegramCaseId request.sourceThreadId with
        | some existing => .ok (db, ⟨existing, true, case⟩)
        | none =>
            .ok ({ db with
              telegramCaseFollowups := db.telegramCaseFollowups ++ [request.row db] },
              ⟨request.row db, false, case⟩)

/-- Rewrite the follow-ups with a given id. -/
def Database.updateFollowup (db : Database) (followupId : Nat)
    (assign : FollowupRow → FollowupRow) : Database :=
  { db with
    telegramCaseFollowups := db.telegramCaseFollowups.map fun row =>
      if row.id = followupId then assign row else row }

/-- The follow-up with a given id. -/
def Database.followup? (db : Database) (followupId : Nat) : Option FollowupRow :=
  db.telegramCaseFollowups.find? fun row => row.id = followupId

/-- `raise ValueError(f"telegram follow-up {followup_id} not found")`. -/
def followupNotFound (followupId : Nat) : PyError :=
  .valueError ("telegram follow-up " ++ toString followupId ++ " not found")

/-- `mark_followup_sending`, which also routes the case to the thread of the follow-up. -/
def markFollowupSending (db : Database) (followupId : Nat) : Except PyError Database :=
  match db.followup? followupId with
  | none => .error (followupNotFound followupId)
  | some followup =>
      let marked := db.updateFollowup followupId
        fun row => { row with status := .sending, lastError := none }
      .ok { marked with
        telegramCases := marked.telegramCases.map fun row =>
          if row.id = followup.telegramCaseId then
            { row with
              currentConversationId := some followup.sourceConversationId
              currentThreadId := some followup.sourceThreadId }
          else row }

/-- `record_followup_sent`. -/
def recordFollowupSent (db : Database) (followupId : Nat) (telegramMessageId : Int)
    (attachmentMessageIds : List Int) (customerUpdateEn : String) : Except PyError Database :=
  match db.followup? followupId with
  | none => .error (followupNotFound followupId)
  | some followup =>
      match db.telegramCases.find? fun row => row.id = followup.telegramCaseId with
      | none => .error (followupNotFound followupId)
      | some case =>
          let sent := db.updateFollowup followupId fun row =>
            { row with
              status := .sent
              telegramMessageId := some telegramMessageId
              customerUpdateEn := some customerUpdateEn
              lastError := none }
          let insert (db : Database) (messageId : Int) (kind : String) : Database :=
            insertCaseMessage db followup.telegramCaseId case.telegramChatId
              case.telegramMessageThreadId messageId kind
          .ok (attachmentMessageIds.foldl (fun db messageId =>
            insert db messageId "follow_up_attachment") (insert sent telegramMessageId "follow_up"))

/-- The statements that set a status and an error: `mark_followup_delivery_uncertain`,
`mark_followup_retryable` and `cancel_followup`. -/
def setFollowupStatus (db : Database) (followupId : Nat) (status : FollowupStatus)
    (error : String) : Database :=
  db.updateFollowup followupId fun row =>
    { row with status, lastError := some (error.take 2000).toString }

/-- `mark_followup_delivery_uncertain`. -/
def markFollowupDeliveryUncertain (db : Database) (followupId : Nat) (error : String) : Database :=
  setFollowupStatus db followupId .deliveryUncertain error

/-- `mark_followup_retryable`. -/
def markFollowupRetryable (db : Database) (followupId : Nat) (error : String) : Database :=
  setFollowupStatus db followupId .reserved error

/-- `cancel_followup`. -/
def cancelFollowup (db : Database) (followupId : Nat) (reason : String) : Database :=
  setFollowupStatus db followupId .canceled reason

end AiCustomerService
