import AiCustomerService.Properties.ReportThreads
import AiCustomerService.Reporting.LingxiRows

/-!
# Handoffs in the Lingxi report

The messages of a chat can be moved to another thread, while the commands and the states keep
their thread.  A handoff then shows in the category of the thread that holds the messages exactly
when that thread has a signal of its own.
-/

namespace AiCustomerService

open Support

variable {rt : ReportRuntime} {allowed excluded : List Int} {botName : String}

/-- The rows of the report of `lingxi_db`. -/
def lingxiReport (rt : ReportRuntime) (fetched : FetchedRows) (metadata : List MetadataRow)
    (commands : List CommandRow) (states : List StateRow) : ReportRows where
  messages := fetchLingxiMessages rt fetched
  metadata := metadata
  commands := commands
  states := states

/-- A handoff command or a handoff state of the thread exists. -/
def SignalsHandoff (rt : ReportRuntime) (rows : ReportRows) (key : ThreadKey) : Prop :=
  hasRobotHandoffSignal rt (rows.commands.filter fun row => row.key? = some key)
    (rows.states.filter fun row => row.key? = some key) = true

/-- The thread holds the message of the row. -/
def ReportThread.Holds (rt : ReportRuntime) (thread : ReportThread) (row : MessageRow) : Prop :=
  ∃ message ∈ thread.messages, SameMessage (messageFromRow rt row) message

/-- Wherever the messages of a thread with a handoff are reported, the thread is classified as one
that the robot handed over. -/
def HandoffsClassified (rt : ReportRuntime) (fetched : FetchedRows) (rows : ReportRows)
    (threads : List ReportThread) : Prop :=
  ∀ row ∈ fetched.joined, ∀ key, row.key? = some key →
    (messageFromRow rt row).isReportable = true → SignalsHandoff rt rows key →
      ∀ thread ∈ threads, thread.Holds rt (attachRow rt fetched.joined row) →
        thread.category = .robotHandoff

/-- A thread to which messages of a handed over thread are moved, and which is reported, has a
handoff command or state of its own, or a message that announces the handoff. -/
def MovedToHandoff (options : ReportOptions) (fetched : FetchedRows) (rows : ReportRows) : Prop :=
  ∀ row ∈ fetched.joined, ∀ key, row.key? = some key →
    (messageFromRow options.rt row).isReportable = true → SignalsHandoff options.rt rows key →
      ∀ moved, (attachRow options.rt fetched.joined row).key? = some moved →
        AdmitsRecord options (threadMetadata rows.metadata moved) →
          SignalsHandoff options.rt rows moved ∨
            hasRobotHandoffMessage options.rt (messagesOf options.rt rows.messages moved) = true

/-! ## The category of a thread -/

/-- Names of speakers do not matter for the category. -/
theorem hasRobotHandoffMessage_congr {messages named : List ReportMessage}
    (h : List.Forall₂ SameMessage messages named) :
    hasRobotHandoffMessage rt named = hasRobotHandoffMessage rt messages := by
  unfold hasRobotHandoffMessage
  induction h with
  | nil => rfl
  | @cons message other messages named hsame _ ih =>
      rw [List.any_cons, List.any_cons, ih, hsame]
      rfl

theorem hasRobotHandoffMessage_of_perm {messages others : List ReportMessage}
    (h : messages.Perm others) :
    hasRobotHandoffMessage rt messages = hasRobotHandoffMessage rt others := by
  unfold hasRobotHandoffMessage
  rw [Bool.eq_iff_iff, List.any_eq_true, List.any_eq_true]
  simp only [h.mem_iff]

/-- A classification as handed over comes from a signal or from a message. -/
theorem classifyThread_eq_robotHandoff_iff {messages : List ReportMessage}
    {commands : List CommandRow} {states : List StateRow} :
    (classifyThread rt messages commands states botName).1 = .robotHandoff ↔
      hasRobotHandoffSignal rt commands states = true ∨
        hasRobotHandoffMessage rt messages = true := by
  unfold classifyThread
  rw [← Bool.or_eq_true]
  split
  · rename_i hhandoff
    simp [hhandoff]
  · rename_i hnone
    split
    · simp [hnone]
    · split
      · simp [hnone]
      · simp [hnone]

/-- The category of a reported thread, in terms of the rows. -/
theorem category_of_reportOf {rows : ReportRows} {threads : List ReportThread}
    (h : ReportOf (plainOptions rt allowed excluded botName) rows threads) {thread : ReportThread}
    (hthread : thread ∈ threads) :
    thread.category = .robotHandoff ↔ SignalsHandoff rt rows thread.key ∨
      hasRobotHandoffMessage rt (messagesOf rt rows.messages thread.key) = true := by
  obtain ⟨parts, hparts, hthreadOf⟩ := h.made thread hthread
  have hcategory : thread.category = (classifyThread rt parts.2.1
      (rows.commands.filter fun row => row.key? = some thread.key)
      (rows.states.filter fun row => row.key? = some thread.key) botName).1 :=
    congrArg ReportThread.category hthreadOf
  have hmessages : hasRobotHandoffMessage rt parts.2.1 =
      hasRobotHandoffMessage rt (messagesOf rt rows.messages thread.key) :=
    (hasRobotHandoffMessage_congr (sameMessages_of_threadParts hparts)).trans
      (hasRobotHandoffMessage_of_perm (List.perm_insertionSort _ _))
  rw [hcategory, classifyThread_eq_robotHandoff_iff, hmessages]
  rfl

/-! ## The thread of a message -/

theorem key?_eq_of_messageFromRow {row : MessageRow} {key : ThreadKey} (h : row.key? = some key) :
    key = ((messageFromRow rt row).chatId, (messageFromRow rt row).threadId) := by
  unfold MessageRow.key? threadKey? at h
  split at h
  · exact (Option.some.inj h).symm
  · cases h

/-- The messages of a thread carry its key. -/
theorem key_of_mem_messagesOf {rows : List MessageRow} {key : ThreadKey} {message : ReportMessage}
    (h : message ∈ messagesOf rt rows key) : key = (message.chatId, message.threadId) := by
  unfold messagesOf keyedMessages at h
  obtain ⟨keyed, hkeyed, rfl⟩ := List.mem_map.mp h
  obtain ⟨hmem, hkey⟩ := List.mem_filter.mp hkeyed
  obtain ⟨row, -, hrow⟩ := List.mem_filterMap.mp hmem
  obtain ⟨rowKey, hrowKey, hmessage⟩ := Option.bind_eq_some_iff.mp hrow
  dsimp only at hmessage
  split at hmessage
  · obtain rfl := Option.some.inj hmessage
    rw [← of_decide_eq_true hkey]
    exact key?_eq_of_messageFromRow hrowKey
  · cases hmessage

theorem mem_messagesOf {rows : List MessageRow} {row : MessageRow} {key : ThreadKey}
    (hrow : row ∈ rows) (hkey : row.key? = some key)
    (hreportable : (messageFromRow rt row).isReportable = true) :
    messageFromRow rt row ∈ messagesOf rt rows key := by
  unfold messagesOf keyedMessages
  refine List.mem_map.mpr ⟨(key, messageFromRow rt row), List.mem_filter.mpr ⟨?_, by simp⟩, rfl⟩
  refine List.mem_filterMap.mpr ⟨row, hrow, ?_⟩
  rw [hkey, Option.bind_some]
  exact if_pos hreportable

theorem SameMessage.key {message named : ReportMessage} (h : SameMessage message named) :
    (named.chatId, named.threadId) = (message.chatId, message.threadId) := by
  rw [h]

theorem exists_left_of_forall₂ {α β : Type} {R : α → β → Prop} {items : List α} {results : List β}
    (h : List.Forall₂ R items results) {result : β} (hmem : result ∈ results) :
    ∃ item ∈ items, R item result := by
  induction h with
  | nil => cases hmem
  | @cons item first items results hfirst _ ih =>
      rcases List.mem_cons.mp hmem with rfl | hmem
      · exact ⟨item, List.mem_cons_self, hfirst⟩
      · obtain ⟨found, hfound, hR⟩ := ih hmem
        exact ⟨found, List.mem_cons_of_mem _ hfound, hR⟩

theorem exists_right_of_forall₂ {α β : Type} {R : α → β → Prop} {items : List α}
    {results : List β} (h : List.Forall₂ R items results) {item : α} (hmem : item ∈ items) :
    ∃ result ∈ results, R item result :=
  exists_left_of_forall₂ h.flip hmem

/-- A thread of the report holds the message of a row exactly when it is the thread of the row. -/
theorem ReportOf.holds_iff {rows : ReportRows} {threads : List ReportThread}
    (h : ReportOf (plainOptions rt allowed excluded botName) rows threads) {thread : ReportThread}
    (hthread : thread ∈ threads) {row : MessageRow} {key : ThreadKey}
    (hrow : row ∈ rows.messages) (hkey : row.key? = some key)
    (hreportable : (messageFromRow rt row).isReportable = true) :
    thread.Holds rt row ↔ thread.key = key := by
  obtain ⟨parts, hparts, hthreadOf⟩ := h.made thread hthread
  have hmessages : thread.messages = parts.2.1 := congrArg ReportThread.messages hthreadOf
  have hsame := sameMessages_of_threadParts hparts
  rw [← hmessages] at hsame
  constructor
  · rintro ⟨named, hnamed, hrowSame⟩
    obtain ⟨message, hmessage, hnamedSame⟩ := exists_left_of_forall₂ hsame hnamed
    rw [key_of_mem_messagesOf ((List.perm_insertionSort _ _).mem_iff.mp hmessage),
      hnamedSame.key.symm.trans hrowSame.key]
    exact (key?_eq_of_messageFromRow hkey).symm
  · rintro rfl
    have hmem := (List.perm_insertionSort (fun a b => sentBefore rt a b = true)
      (messagesOf rt rows.messages thread.key)).mem_iff.mpr (mem_messagesOf hrow hkey hreportable)
    exact exists_right_of_forall₂ hsame hmem

/-! ## The theorem -/

/-- In a report that has been made, a handoff shows in the threads that hold the messages exactly
when the threads that the messages are moved to show one themselves. -/
theorem handoffs_classified_iff {fetched : FetchedRows} {metadata : List MetadataRow}
    {commands : List CommandRow} {states : List StateRow} {threads : List ReportThread}
    (h : aggregateThreads (plainOptions rt allowed excluded botName)
      (lingxiReport rt fetched metadata commands states) = .ok threads) :
    HandoffsClassified rt fetched (lingxiReport rt fetched metadata commands states) threads ↔
      MovedToHandoff (plainOptions rt allowed excluded botName) fetched
        (lingxiReport rt fetched metadata commands states) := by
  have hreport := reportOf_aggregateThreads h
  have hrow : ∀ row ∈ fetched.joined, attachRow rt fetched.joined row ∈
      (lingxiReport rt fetched metadata commands states).messages :=
    fun row hmem => mem_fetchLingxiMessages hmem
  have hreportable : ∀ row, (messageFromRow rt row).isReportable = true →
      (messageFromRow rt (attachRow rt fetched.joined row)).isReportable = true :=
    fun row => (isReportable_attachRow rt fetched.joined row).trans
  constructor
  · intro hclassified row hmem key hkey hmessage hsignal moved hmoved hadmits
    have hsome := List.ne_nil_of_mem (mem_messagesOf (hrow row hmem) hmoved
      (hreportable row hmessage))
    obtain ⟨thread, hthread, rfl⟩ := (hreport.isReported moved).mpr ⟨hsome, hadmits⟩
    have hholds := (hreport.holds_iff hthread (hrow row hmem) hmoved
      (hreportable row hmessage)).mpr rfl
    exact (category_of_reportOf hreport hthread).mp
      (hclassified row hmem key hkey hmessage hsignal thread hthread hholds)
  · intro hmovedTo row hmem key hkey hmessage hsignal thread hthread hholds
    obtain ⟨moved, hmoved⟩ : ∃ moved, (attachRow rt fetched.joined row).key? = some moved := by
      unfold MessageRow.key? threadKey? at hkey ⊢
      rw [chatId_attachRow]
      split at hkey
      · rename_i hchat
        exact ⟨_, if_pos hchat⟩
      · cases hkey
    obtain rfl := (hreport.holds_iff hthread (hrow row hmem) hmoved
      (hreportable row hmessage)).mp hholds
    have hadmits := ((hreport.isReported thread.key).mp ⟨thread, hthread, rfl⟩).2
    exact (category_of_reportOf hreport hthread).mpr
      (hmovedTo row hmem key hkey hmessage hsignal thread.key hmoved hadmits)

/-! ## A handoff that does not show -/

/-- A message of the assistant in a thread of a chat. -/
def assistantRow (id : Int) (chatId threadId : String) (occurredAt : Nat) (text : String) :
    MessageRow :=
  { customerRow id chatId threadId occurredAt text with senderRole := some "assistant" }

/-- The assistant answers in thread A; the customer comes back in thread B, where the assistant
hands over. -/
def twoThreads : FetchedRows where
  conversationRows :=
    [⟨assistantRow 1 "C" "A" 10 "Welcome", none, none⟩,
      ⟨customerRow 2 "C" "B" 20 "It still fails", none, none⟩,
      ⟨assistantRow 3 "C" "B" 30 "One moment", none, none⟩]
  inboundRows := []
  outboundStaffRows := []

/-- The events of thread A name group 5, and the handoff is a command of thread B. -/
def twoThreadReport : ReportRows :=
  lingxiReport .plain twoThreads
    [⟨some "C", some "A", Dict.ofList [("group_id", .int 5)], .null, .null⟩]
    [⟨some "C", some "B", some "livechat.handoff_to_human"⟩] []

/-- The report has one thread, A, and it is classified as completed by the robot. -/
theorem twoThreadReport_threads :
    ∃ threads, aggregateThreads groupFive twoThreadReport = .ok threads ∧
      ∃ thread ∈ threads, thread.key = ("C", some "A") ∧ thread.category = .botCompleted := by
  have hreport : ((aggregateThreads groupFive twoThreadReport).toOption.any fun threads =>
      threads.any fun thread =>
        decide (thread.key = ("C", some "A")) && decide (thread.category = .botCompleted)) =
        true := by
    decide +kernel
  obtain ⟨threads, haggregate, hthreads⟩ := toOption_any_eq_true.mp hreport
  obtain ⟨thread, hthread, hkept⟩ := List.any_eq_true.mp hthreads
  simp only [Bool.and_eq_true, decide_eq_true_eq] at hkept
  exact ⟨threads, haggregate, thread, hthread, hkept⟩

/-- The messages of thread B are reported in thread A, without its handoff. -/
theorem moved_handoff_not_classified :
    ∃ threads, aggregateThreads groupFive twoThreadReport = .ok threads ∧
      ¬HandoffsClassified .plain twoThreads twoThreadReport threads := by
  obtain ⟨threads, haggregate, thread, hthread, hkey, hcategory⟩ := twoThreadReport_threads
  refine ⟨threads, haggregate, fun hclassified => ?_⟩
  have hrow : customerRow 2 "C" "B" 20 "It still fails" ∈ twoThreads.joined :=
    List.mem_cons_of_mem _ List.mem_cons_self
  have hmoved : (attachRow .plain twoThreads.joined
      (customerRow 2 "C" "B" 20 "It still fails")).key? = some ("C", some "A") := by
    decide +kernel
  have hmessage : (messageFromRow .plain
      (customerRow 2 "C" "B" 20 "It still fails")).isReportable = true := by
    decide +kernel
  have hsignal : SignalsHandoff .plain twoThreadReport ("C", some "B") := by
    unfold SignalsHandoff
    decide +kernel
  have hholds := ((reportOf_aggregateThreads haggregate).holds_iff hthread
    (mem_fetchLingxiMessages hrow) hmoved
    ((isReportable_attachRow _ _ _).trans hmessage)).mpr hkey
  have hrobot := hclassified _ hrow ("C", some "B") (by decide +kernel) hmessage hsignal thread
    hthread hholds
  rw [hcategory] at hrobot
  cases hrobot

theorem handoffs_classified_twoThreads :
    ∃ threads, aggregateThreads groupFive twoThreadReport = .ok threads ∧
      (HandoffsClassified .plain twoThreads twoThreadReport threads ↔
        MovedToHandoff groupFive twoThreads twoThreadReport) := by
  obtain ⟨threads, haggregate, -⟩ := twoThreadReport_threads
  exact ⟨threads, haggregate, handoffs_classified_iff haggregate⟩

end AiCustomerService
