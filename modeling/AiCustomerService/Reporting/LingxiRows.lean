import AiCustomerService.Reporting.Aggregation

/-!
# The messages of the Lingxi report

`LingxiLiveChatReportReadRepository.fetch_messages`: the rows of three tables are joined, and the
messages that follow the first one of the assistant in a chat are moved to its thread.
-/

namespace AiCustomerService

open Support

/-- A message with the rows that it comes from. -/
structure FetchedRow extends MessageRow where
  inboundEventId : Option Nat
  outboundMessageId : Option Nat

/-- The messages of the three tables: conversation messages, inbound events and sent replies of
the staff. -/
structure FetchedRows where
  conversationRows : List FetchedRow
  inboundRows : List FetchedRow
  outboundStaffRows : List FetchedRow

/-- The rows of the three tables; an event or a reply that has a conversation message is left
out. -/
def FetchedRows.joined (fetched : FetchedRows) : List MessageRow :=
  let inboundIds := fetched.conversationRows.filterMap FetchedRow.inboundEventId
  let outboundIds := fetched.conversationRows.filterMap FetchedRow.outboundMessageId
  (fetched.conversationRows ++
    (fetched.inboundRows.filter fun row => !row.inboundEventId.any (inboundIds.contains ·)) ++
    (fetched.outboundStaffRows.filter fun row =>
      !row.outboundMessageId.any (outboundIds.contains ·))).map FetchedRow.toMessageRow

/-- `_row_sort_at`. -/
def MessageRow.sortAt (row : MessageRow) : Nat := (row.occurredAt.or row.createdAt).getD 0

/-- The order by `_row_sort_key`. -/
def rowBefore (rt : ReportRuntime) (a b : MessageRow) : Bool :=
  decide (a.sortAt < b.sortAt) || decide (a.sortAt = b.sortAt) &&
    !decide (b.id.textOrEmpty rt.toRuntime < a.id.textOrEmpty rt.toRuntime)

/-- `first_assistant_thread_by_chat.get(chat_id)`: the first row of the assistant in the chat. -/
def firstAssistantRow? (rt : ReportRuntime) (rows : List MessageRow) (chatId : String) :
    Option MessageRow :=
  (rows.insertionSort fun a b => rowBefore rt a b = true).find? fun row =>
    row.senderRole = some "assistant" && hasText row.chatId && textOr row.chatId "" = chatId

/-- The row under another thread. -/
def MessageRow.moveTo (row : MessageRow) (chatId : String) (target : Option String) :
    MessageRow :=
  { row with
    threadId := target
    originalThreadId := optionalText row.threadId
    conversationId := row.conversationId.map fun conversationId =>
      if "livechat:".isPrefixOf conversationId then
        "livechat:" ++ chatId ++ ":" ++ target.getD ""
      else conversationId }

/-- The loop body of `_attach_followup_messages_to_lingxi_threads`. -/
def attachRow (rt : ReportRuntime) (rows : List MessageRow) (row : MessageRow) : MessageRow :=
  let chatId := textOr row.chatId ""
  match firstAssistantRow? rt rows chatId with
  | none => row
  | some first =>
      if row.sortAt < first.sortAt then row
      else if optionalText row.threadId = optionalText first.threadId then row
      else row.moveTo chatId (optionalText first.threadId)

/-- `_attach_followup_messages_to_lingxi_threads`. -/
def attachFollowupMessages (rt : ReportRuntime) (rows : List MessageRow) : List MessageRow :=
  rows.map (attachRow rt rows)

/-- `fetch_messages`. -/
def fetchLingxiMessages (rt : ReportRuntime) (fetched : FetchedRows) : List MessageRow :=
  (attachFollowupMessages rt fetched.joined).insertionSort fun a b => rowBefore rt a b = true

/-- A row is moved within its chat, and its message stays reportable or not. -/
theorem isReportable_attachRow (rt : ReportRuntime) (rows : List MessageRow) (row : MessageRow) :
    (messageFromRow rt (attachRow rt rows row)).isReportable =
      (messageFromRow rt row).isReportable := by
  unfold attachRow
  dsimp only
  split
  · rfl
  · split
    · rfl
    · split
      · rfl
      · rfl

theorem chatId_attachRow (rt : ReportRuntime) (rows : List MessageRow) (row : MessageRow) :
    (attachRow rt rows row).chatId = row.chatId := by
  unfold attachRow
  dsimp only
  split
  · rfl
  · split
    · rfl
    · split
      · rfl
      · rfl

theorem mem_fetchLingxiMessages {rt : ReportRuntime} {fetched : FetchedRows} {row : MessageRow}
    (h : row ∈ fetched.joined) : attachRow rt fetched.joined row ∈ fetchLingxiMessages rt fetched :=
  (List.mem_insertionSort _).mpr (List.mem_map_of_mem h)

end AiCustomerService
