import AiCustomerService.Channels.Errors
import AiCustomerService.Support.Exec
import AiCustomerService.Support.Pool
import AiCustomerService.Support.Table

/-!
# Sending the daily report

`DailyChatReportAuditRepository` and the part of `run` in
`reporting/daily_chat_report/runner.py` that sends the document.  The row of the audit table is
inserted before the document is sent, and its status is updated afterwards.
-/

namespace AiCustomerService

open Support

/-! ## The audit table -/

/-- The columns of `uk_daily_chat_reports_target`. -/
structure ReportKey where
  reportDate : String
  targetChatId : String
  messageThreadId : Int
  deriving DecidableEq

inductive ReportStatus where
  | started
  | sent
  | failed
  deriving DecidableEq

/-- A row of `daily_chat_reports`. -/
structure ReportRow where
  key : ReportKey
  status : ReportStatus
  pdfPath : String
  telegramMessageId : Json
  errorMessage : Option String

abbrev ReportTable := Table ReportKey ReportRow ReportRow.key

/-- The day of a report, and the chat and the topic that it is sent to. -/
structure ReportTarget where
  reportDate : String
  targetChatId : String
  messageThreadId : Option Int

/-- The key of a target; `_thread_key` reads a missing topic as 0. -/
def ReportTarget.key (target : ReportTarget) : ReportKey :=
  ⟨target.reportDate, target.targetChatId, target.messageThreadId.getD 0⟩

/-- `start_once`, with `started`. -/
def startOnce (table : ReportTable) (target : ReportTarget) (pdfPath : String) :
    ReportTable × Bool :=
  table.insertIdempotent ⟨target.key, .started, pdfPath, .null, none⟩

/-- `_update_status`. -/
def updateReportStatus (table : ReportTable) (target : ReportTarget) (status : ReportStatus)
    (telegramMessageId : Json) (errorMessage : Option String) : ReportTable :=
  table.updateWhere (fun row => row.key = target.key)
    (fun row => { row with status, telegramMessageId, errorMessage }) fun _ => rfl

/-- `mark_sent`. -/
def markReportSent (table : ReportTable) (target : ReportTarget) (telegramMessageId : Json) :
    ReportTable :=
  updateReportStatus table target .sent telegramMessageId none

/-- `mark_failed`. -/
def markReportFailed (table : ReportTable) (target : ReportTarget) (errorMessage : String) :
    ReportTable :=
  updateReportStatus table target .failed .null (some (errorMessage.take 2000).toString)

/-! ## A run -/

/-- What a run does outside: `renderReport` reads the rows, aggregates them and writes the
document. -/
inductive ReportOp
  | renderReport
  | ensureTable
  | startOnce (target : ReportTarget) (pdfPath : String)
  | sendDocument (target : ReportTarget) (documentPath caption : String)
  | markSent (target : ReportTarget) (telegramMessageId : Json)
  | markFailed (target : ReportTarget) (errorMessage : String)

/-- What the operations return: the number of threads, `started`, and the answer of Telegram. -/
abbrev ReportOp.Res : ReportOp → Type
  | .renderReport => Nat
  | .ensureTable => Unit
  | .startOnce _ _ => Bool
  | .sendDocument _ _ _ => JsonObject
  | .markSent _ _ => Unit
  | .markFailed _ _ => Unit

abbrev reportOps : Interface := ⟨ReportOp, ReportOp.Res, ServiceError⟩

abbrev ReportProg := Prog reportOps

/-- Execute an operation. -/
def ReportOp.call (op : ReportOp) : ReportProg op.Res := Prog.perform (I := reportOps) op

/-- The arguments and the settings of a run; an absent token is empty. -/
structure ReportSettings where
  runtime : Runtime
  send : Bool
  botToken : String
  pdfPath : String
  dateLabel : String

/-- The `sent` and `duplicate` of a result, with the number of threads and the message. -/
structure ReportResult where
  threads : Nat
  sent : Bool
  duplicate : Bool
  telegramMessageId : Json

/-- The caption of the document. -/
def reportCaption (dateLabel : String) (threads : Nat) : String :=
  "LingXi 正式群組對話紀錄 " ++ dateLabel ++ "｜總數：" ++ toString threads

/-- `(response.get("result") or {}).get("message_id")`. -/
def reportMessageId (response : JsonObject) : Except PyError Json :=
  (getKey response "result").mappingOrEmpty.map fun result => getKey result "message_id"

/-- The `try` block that follows the claim of the row. -/
def sendReport (settings : ReportSettings) (target : ReportTarget) (threads : Nat) :
    ReportProg ReportResult := do
  let response ← (ReportOp.sendDocument target settings.pdfPath
    (reportCaption settings.dateLabel threads)).call
  let telegramMessageId ← Prog.ofExcept ((reportMessageId response).mapError ServiceError.python)
  (ReportOp.markSent target telegramMessageId).call
  pure ⟨threads, true, false, telegramMessageId⟩

/-- The `except` block. -/
def failReport (settings : ReportSettings) (target : ReportTarget) (exc : ServiceError) :
    ReportProg ReportResult := do
  (ReportOp.markFailed target (exc.text settings.runtime)).call
  Prog.raise exc

/-- `run`. -/
def runReport (settings : ReportSettings) (target : ReportTarget) : ReportProg ReportResult := do
  let threads ← ReportOp.renderReport.call
  if !settings.send then pure ⟨threads, false, false, .null⟩
  else if target.targetChatId = "" then
    Prog.raise (.python (.valueError
      "DAILY_CHAT_REPORT_TARGET_CHAT_ID or --target-chat-id is required when --send is used"))
  else if settings.botToken = "" then
    Prog.raise (.python (.valueError ("DAILY_CHAT_REPORT_TELEGRAM_BOT_TOKEN or " ++
      "TELEGRAM_BOT_TOKEN is required when --send is used")))
  else do
    ReportOp.ensureTable.call
    let started ← (ReportOp.startOnce target settings.pdfPath).call
    if !started then pure ⟨threads, false, true, .null⟩
    else (sendReport settings target threads).tryCatch (failReport settings target)

end AiCustomerService
