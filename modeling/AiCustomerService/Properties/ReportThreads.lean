import AiCustomerService.Reporting.Aggregation
import Mathlib.Data.List.Nodup

/-!
# The threads of a report and their metadata

The last metadata row of a thread is its record, and its group decides whether the thread is
reported.  A thread is kept, whatever the order of the rows, exactly when all the records that can
be the last one agree.
-/

namespace AiCustomerService

open Support

/-! ## Records -/

/-- The records that the last row of a key can give. -/
def lastChoices (rows : List MetadataRow) (key : ThreadKey) : List JsonObject :=
  let own := rows.filter fun row => row.key? = some key
  if own.isEmpty then [∅] else own.map MetadataRow.merged

/-- The records that a thread can have, by the order of the rows. -/
def recordChoices (rows : List MetadataRow) (key : ThreadKey) : List JsonObject :=
  (lastChoices rows key).flatMap fun own =>
    if own.isEmpty ∧ key.2.isSome then lastChoices rows (key.1, none) else [own]

variable {rows rows' : List MetadataRow} {key : ThreadKey} {record : JsonObject}

theorem metadataByThread_mem_lastChoices (rows : List MetadataRow) (key : ThreadKey) :
    (metadataByThread rows key).getD ∅ ∈ lastChoices rows key := by
  unfold metadataByThread lastChoices
  dsimp only
  cases hlast : (rows.filter fun row => row.key? = some key).getLast? with
  | none =>
      rw [List.getLast?_eq_none_iff.mp hlast]
      exact List.mem_singleton_self _
  | some row =>
      have hmem := List.mem_of_getLast? hlast
      rw [if_neg fun hnone => List.ne_nil_of_mem hmem (List.isEmpty_iff.mp hnone)]
      exact List.mem_map_of_mem hmem

/-- The record of a thread is one of the choices. -/
theorem threadMetadata_mem_recordChoices (rows : List MetadataRow) (key : ThreadKey) :
    threadMetadata rows key ∈ recordChoices rows key := by
  refine List.mem_flatMap.mpr ⟨_, metadataByThread_mem_lastChoices rows key, ?_⟩
  obtain ⟨chatId, threadId⟩ := key
  unfold threadMetadata
  dsimp only
  cases hempty : ((metadataByThread rows (chatId, threadId)).getD ∅).isEmpty with
  | false => simp
  | true =>
      cases threadId with
      | none => simp
      | some threadId =>
          simp only [Option.isSome_some, and_self, if_true]
          exact metadataByThread_mem_lastChoices rows (chatId, none)

theorem mem_lastChoices_of_perm (h : rows'.Perm rows) (hrecord : record ∈ lastChoices rows' key) :
    record ∈ lastChoices rows key := by
  have hfilter := h.filter fun row => row.key? = some key
  unfold lastChoices at hrecord ⊢
  dsimp only at hrecord ⊢
  by_cases hempty : (rows.filter fun row => row.key? = some key) = []
  · rw [hempty] at hfilter ⊢
    rw [hfilter.eq_nil] at hrecord
    exact hrecord
  · have hempty' : (rows'.filter fun row => row.key? = some key) ≠ [] :=
      fun hnil => hempty (hnil ▸ hfilter).nil_eq.symm
    rw [if_neg (by simpa using hempty)]
    rw [if_neg (by simpa using hempty')] at hrecord
    exact (hfilter.map MetadataRow.merged).mem_iff.mp hrecord

theorem mem_recordChoices_of_perm (h : rows'.Perm rows)
    (hrecord : record ∈ recordChoices rows' key) : record ∈ recordChoices rows key := by
  obtain ⟨own, hown, hchosen⟩ := List.mem_flatMap.mp hrecord
  refine List.mem_flatMap.mpr ⟨own, mem_lastChoices_of_perm h hown, ?_⟩
  split
  · rename_i hchat
    rw [if_pos hchat] at hchosen
    exact mem_lastChoices_of_perm h hchosen
  · rename_i hchat
    rw [if_neg hchat] at hchosen
    exact hchosen

/-- A row can be brought to the end without touching the rows of other keys. -/
theorem exists_perm_last {row : MetadataRow} (hmem : row ∈ rows) (hkey : row.key? = some key) :
    ∃ rows', rows'.Perm rows ∧ metadataByThread rows' key = some row.merged ∧
      ∀ other, other ≠ key → metadataByThread rows' other = metadataByThread rows other := by
  obtain ⟨before, after, rfl⟩ := List.append_of_mem hmem
  refine ⟨before ++ after ++ [row], ?_, ?_, fun other hother => ?_⟩
  · rw [List.append_assoc]
    exact (@List.perm_append_comm _ after [row]).append_left before
  · simp [metadataByThread, hkey]
  · have hskip : row.key? ≠ some other := fun h => hother (Option.some.inj (h.symm.trans hkey))
    simp [metadataByThread, hskip]

/-- Every choice of the last row of a key is the last row in some order. -/
theorem exists_perm_of_mem_lastChoices (h : record ∈ lastChoices rows key) :
    ∃ rows', rows'.Perm rows ∧ (metadataByThread rows' key).getD ∅ = record ∧
      ∀ other, other ≠ key → metadataByThread rows' other = metadataByThread rows other := by
  unfold lastChoices at h
  dsimp only at h
  split at h
  · rename_i hempty
    refine ⟨rows, List.Perm.refl rows, ?_, fun _ _ => rfl⟩
    rw [metadataByThread, List.isEmpty_iff.mp hempty, List.mem_singleton.mp h]
    rfl
  · obtain ⟨row, hrow, rfl⟩ := List.mem_map.mp h
    obtain ⟨hmem, hkey⟩ := List.mem_filter.mp hrow
    obtain ⟨rows', hperm, hlast, hothers⟩ := exists_perm_last hmem (of_decide_eq_true hkey)
    exact ⟨rows', hperm, by rw [hlast]; rfl, hothers⟩

/-- Every choice of a record is the record of the thread in some order. -/
theorem exists_perm_of_mem_recordChoices (h : record ∈ recordChoices rows key) :
    ∃ rows', rows'.Perm rows ∧ threadMetadata rows' key = record := by
  obtain ⟨own, hown, hchosen⟩ := List.mem_flatMap.mp h
  split at hchosen
  · rename_i hchat
    -- the row of the chat is brought to the end before the row of the thread
    obtain ⟨rows₁, hperm₁, hchosen₁, -⟩ := exists_perm_of_mem_lastChoices hchosen
    obtain ⟨rows₂, hperm₂, hown₂, hothers⟩ :=
      exists_perm_of_mem_lastChoices (mem_lastChoices_of_perm hperm₁.symm hown)
    have hother : (key.1, none) ≠ key := by
      intro hsame
      rw [← hsame] at hchat
      cases hchat.2
    refine ⟨rows₂, hperm₂.trans hperm₁, ?_⟩
    rw [threadMetadata, hown₂, hothers _ hother, hchosen₁]
    exact if_pos hchat.1
  · rename_i hchat
    obtain rfl := List.mem_singleton.mp hchosen
    obtain ⟨rows', hperm, hlast, -⟩ := exists_perm_of_mem_lastChoices hown
    refine ⟨rows', hperm, ?_⟩
    rw [threadMetadata, hlast]
    split
    · rename_i hempty
      obtain ⟨chatId, threadId⟩ := key
      cases threadId with
      | none => exact hlast
      | some threadId => exact absurd ⟨hempty, rfl⟩ hchat
    · rfl

/-! ## Reported threads -/

section Reported

variable {rt : ReportRuntime} {allowed excluded : List Int} {botName : String}

/-- The group of a record is reported. -/
def AdmitsRecord (options : ReportOptions) (record : JsonObject) : Prop :=
  ∃ groupId, extractGroupId options.rt record options.allowedGroupIds = .ok groupId ∧
    options.admits groupId = true

/-- The record gives the names and the group of its thread. -/
def Readable (options : ReportOptions) (rows : ReportRows) (key : ThreadKey)
    (record : JsonObject) : Prop :=
  ∃ parts, threadParts options record (sortedMessages options.rt rows key) = .ok parts

/-- The thread is one of the report. -/
def IsReported (threads : List ReportThread) (key : ThreadKey) : Prop :=
  ∃ thread ∈ threads, thread.key = key

/-- The two messages are the same up to the name of the speaker. -/
def SameMessage (message named : ReportMessage) : Prop :=
  named = { message with speakerName := named.speakerName }

/-- The row names the group. -/
def MetadataRow.Names (rt : ReportRuntime) (row : MetadataRow) (groupId : Int) : Prop :=
  ∃ groups, namedGroups rt row.merged = .ok groups ∧ groupId ∈ groups

/-- One of the rows of the thread names a group that is allowed and not excluded, and none names
an excluded one. -/
def Qualifies (options : ReportOptions) (rows : List MetadataRow) (key : ThreadKey) : Prop :=
  (∃ row ∈ rows, row.key? = some key ∧ ∃ groupId, row.Names options.rt groupId ∧
      options.admits (some groupId) = true) ∧
    ∀ row ∈ rows, row.key? = some key → ∀ groupId, row.Names options.rt groupId →
      groupId ∉ options.excludedGroupIds

/-- Each reportable message of a qualified thread is in one reported thread, once, and the
messages of a thread are in the order of time. -/
structure Conserves (options : ReportOptions) (rows : ReportRows)
    (threads : List ReportThread) : Prop where
  reported : ∀ key, messagesOf options.rt rows.messages key ≠ [] →
    Qualifies options rows.metadata key →
      (threads.filter fun thread => thread.key = key).length = 1
  messages : ∀ thread ∈ threads, ∃ sorted : List ReportMessage,
    sorted.Perm (messagesOf options.rt rows.messages thread.key) ∧
      sorted.Pairwise (fun a b => a.sortAt.getD 0 ≤ b.sortAt.getD 0) ∧
        List.Forall₂ SameMessage sorted thread.messages

/-- The messages are conserved, and other orders of the metadata report the same threads. -/
def KeepsThreads (options : ReportOptions) (rows : ReportRows) : Prop :=
  ∃ threads, aggregateThreads options rows = .ok threads ∧ Conserves options rows threads ∧
    ∀ metadata, metadata.Perm rows.metadata →
      ∃ threads', aggregateThreads options { rows with metadata } = .ok threads' ∧
        ∀ key, IsReported threads' key ↔ IsReported threads key

/-- The records that a thread with messages can have are readable and agree on whether it is
reported; if the thread qualifies, it is. -/
def RecordsAgree (options : ReportOptions) (rows : ReportRows) : Prop :=
  ∀ key, messagesOf options.rt rows.messages key ≠ [] →
    (∀ record ∈ recordChoices rows.metadata key, Readable options rows key record) ∧
      (∀ record ∈ recordChoices rows.metadata key, ∀ other ∈ recordChoices rows.metadata key,
        AdmitsRecord options record → AdmitsRecord options other) ∧
      (Qualifies options rows.metadata key →
        ∀ record ∈ recordChoices rows.metadata key, AdmitsRecord options record)

theorem mem_threadKeys {rt : ReportRuntime} {rows : List MessageRow} {key : ThreadKey} :
    key ∈ threadKeys rt rows ↔ messagesOf rt rows key ≠ [] := by
  unfold threadKeys messagesOf
  rw [List.mem_eraseDups, ne_eq, List.map_eq_nil_iff, List.filter_eq_nil_iff]
  simp only [List.mem_map, decide_eq_true_eq, not_forall, not_not]
  constructor
  · rintro ⟨keyed, hmem, rfl⟩
    exact ⟨keyed, hmem, rfl⟩
  · rintro ⟨keyed, hmem, rfl⟩
    exact ⟨keyed, hmem, rfl⟩

theorem nodup_eraseDups {α : Type} [BEq α] [LawfulBEq α] (items : List α) :
    items.eraseDups.Nodup := by
  induction hlength : items.length using Nat.strongRecOn generalizing items with
  | _ length ih =>
      cases items with
      | nil => exact List.nodup_nil
      | cons item rest =>
          rw [List.eraseDups_cons]
          have hshorter := List.length_filter_le (fun other => !other == item) rest
          have hless : (rest.filter fun other => !other == item).length < length := by
            rw [← hlength, List.length_cons]
            exact Nat.lt_succ_of_le hshorter
          refine List.nodup_cons.mpr ⟨?_, ih _ hless _ rfl⟩
          rw [List.mem_eraseDups, List.mem_filter]
          simp

theorem nodup_threadKeys (rt : ReportRuntime) (rows : List MessageRow) :
    (threadKeys rt rows).Nodup :=
  nodup_eraseDups _

/-- The order of the messages is total. -/
theorem sentBefore_total (rt : ReportRuntime) (a b : ReportMessage) :
    (sentBefore rt a b || sentBefore rt b a) = true := by
  simp only [sentBefore, Bool.or_eq_true, Bool.and_eq_true, decide_eq_true_eq, Bool.not_eq_true',
    decide_eq_false_iff_not]
  rcases Nat.lt_trichotomy (a.sortAt.getD 0) (b.sortAt.getD 0) with hlt | heq | hgt
  · exact .inl (.inl hlt)
  · rcases String.le_total (a.id.pyStr rt.toRuntime) (b.id.pyStr rt.toRuntime) with hle | hle
    · exact .inl (.inr ⟨heq, String.not_lt.mpr hle⟩)
    · exact .inr (.inr ⟨heq.symm, String.not_lt.mpr hle⟩)
  · exact .inr (.inl hgt)

theorem sentBefore_trans (rt : ReportRuntime) (a b c : ReportMessage)
    (hab : sentBefore rt a b = true) (hbc : sentBefore rt b c = true) :
    sentBefore rt a c = true := by
  simp only [sentBefore, Bool.or_eq_true, Bool.and_eq_true, decide_eq_true_eq, Bool.not_eq_true',
    decide_eq_false_iff_not, String.not_lt] at hab hbc ⊢
  rcases hab with hab | ⟨hab, hid⟩
  · rcases hbc with hbc | ⟨hbc, -⟩
    · exact .inl (hab.trans hbc)
    · exact .inl (hbc ▸ hab)
  · rcases hbc with hbc | ⟨hbc, hid'⟩
    · exact .inl (hab ▸ hbc)
    · exact .inr ⟨hab.trans hbc, String.le_trans hid hid'⟩

/-- The messages of a thread are sorted by time. -/
theorem sorted_sortedMessages (rt : ReportRuntime) (rows : ReportRows) (key : ThreadKey) :
    (sortedMessages rt rows key).Pairwise
      (fun a b => a.sortAt.getD 0 ≤ b.sortAt.getD 0) := by
  have htotal : Std.Total fun a b => sentBefore rt a b = true :=
    ⟨fun a b => by simpa using sentBefore_total rt a b⟩
  have htrans : IsTrans ReportMessage fun a b => sentBefore rt a b = true :=
    ⟨sentBefore_trans rt⟩
  have hsorted := List.pairwise_insertionSort (fun a b => sentBefore rt a b = true)
    (messagesOf rt rows.messages key)
  refine hsorted.imp fun {a b} hab => ?_
  simp only [sentBefore, Bool.or_eq_true, Bool.and_eq_true, decide_eq_true_eq] at hab
  rcases hab with hlt | ⟨heq, -⟩
  · exact hlt.le
  · exact heq.le

/-- The group of the parts is that of the record. -/
theorem groupId_of_threadParts {options : ReportOptions} {record : JsonObject}
    {messages : List ReportMessage} {parts : String × List ReportMessage × Option Int}
    (h : threadParts options record messages = .ok parts) :
    extractGroupId options.rt record options.allowedGroupIds = .ok parts.2.2 := by
  unfold threadParts at h
  obtain ⟨name, -, h⟩ := bind_eq_ok.mp h
  obtain ⟨named, -, h⟩ := bind_eq_ok.mp h
  obtain ⟨groupId, hgroup, h⟩ := bind_eq_ok.mp h
  cases h
  exact hgroup

theorem sameMessage_withSpeakerName {metadata : JsonObject} {customerName : String}
    {message named : ReportMessage}
    (h : withSpeakerName rt metadata customerName botName message = .ok named) :
    SameMessage message named := by
  unfold withSpeakerName at h
  split at h
  · cases h
    rfl
  · split at h
    · cases h
      rfl
    · obtain ⟨known, -, h⟩ := bind_eq_ok.mp h
      cases known with
      | some name =>
          cases h
          rfl
      | none =>
          obtain ⟨name, -, h⟩ := bind_eq_ok.mp h
          cases h
          rfl

/-- The messages of the parts are those of the thread with the names of their speakers. -/
theorem sameMessages_of_threadParts {options : ReportOptions} {record : JsonObject}
    {messages : List ReportMessage} {parts : String × List ReportMessage × Option Int}
    (h : threadParts options record messages = .ok parts) :
    List.Forall₂ SameMessage messages parts.2.1 := by
  unfold threadParts at h
  obtain ⟨name, -, h⟩ := bind_eq_ok.mp h
  obtain ⟨named, hnamed, h⟩ := bind_eq_ok.mp h
  obtain ⟨groupId, -, h⟩ := bind_eq_ok.mp h
  cases h
  exact forall₂_of_mapM_ok (fun _ _ => sameMessage_withSpeakerName) hnamed

/-- What a report without requirements consists of: one thread for every key whose record is
admitted, with its messages. -/
structure ReportOf (options : ReportOptions) (rows : ReportRows)
    (threads : List ReportThread) : Prop where
  nodup : (threads.map ReportThread.key).Nodup
  isReported : ∀ key, IsReported threads key ↔ messagesOf options.rt rows.messages key ≠ [] ∧
    AdmitsRecord options (threadMetadata rows.metadata key)
  readable : ∀ key, messagesOf options.rt rows.messages key ≠ [] →
    Readable options rows key (threadMetadata rows.metadata key)
  made : ∀ thread ∈ threads, ∃ parts, threadParts options (threadMetadata rows.metadata thread.key)
    (sortedMessages options.rt rows thread.key) = .ok parts ∧
      thread = threadOf options rows thread.key parts

/-- A thread that the loop reports is made of its parts. -/
theorem reportThread_eq_some {rows : ReportRows} {key : ThreadKey} {thread : ReportThread} :
    reportThread (plainOptions rt allowed excluded botName) rows key = .ok (some thread) ↔
      ∃ parts, threadParts (plainOptions rt allowed excluded botName)
          (threadMetadata rows.metadata key) (sortedMessages rt rows key) = .ok parts ∧
        (plainOptions rt allowed excluded botName).admits parts.2.2 = true ∧
          thread = threadOf (plainOptions rt allowed excluded botName) rows key parts := by
  rw [reportThread_plain]
  cases threadParts (plainOptions rt allowed excluded botName) (threadMetadata rows.metadata key)
    (sortedMessages rt rows key) with
  | error e => simp [Except.map]
  | ok parts =>
      simp only [Except.map, Except.ok.injEq, exists_eq_left']
      by_cases hadmits : (plainOptions rt allowed excluded botName).admits parts.2.2 = true
      · simp [hadmits, eq_comm]
      · simp [hadmits]

/-- The keys of what is reported are those of the loop, with some left out. -/
theorem sublist_of_forall₂ {keys : List ThreadKey} {results : List (Option ReportThread)}
    (h : List.Forall₂ (fun key result => ∀ thread, result = some thread → thread.key = key)
      keys results) :
    ((results.filterMap id).map ReportThread.key).Sublist keys := by
  induction h with
  | nil => exact List.Sublist.refl []
  | @cons key result keys results hkey _ ih =>
      cases result with
      | none => exact ih.cons key
      | some thread =>
          change (thread.key :: (results.filterMap id).map ReportThread.key).Sublist (key :: keys)
          rw [hkey thread rfl]
          exact ih.cons_cons key

theorem reportOf_aggregateThreads {rows : ReportRows} {threads : List ReportThread}
    (h : aggregateThreads (plainOptions rt allowed excluded botName) rows = .ok threads) :
    ReportOf (plainOptions rt allowed excluded botName) rows threads := by
  unfold aggregateThreads at h
  obtain ⟨results, hresults, h⟩ := bind_eq_ok.mp h
  obtain rfl := Except.ok.inj h
  have hperm := List.perm_insertionSort (fun a b => reportedBefore rt a b = true)
    (results.filterMap id)
  have hmem : ∀ thread, thread ∈ ((results.filterMap id).insertionSort
      fun a b => reportedBefore rt a b = true) ↔
      ∃ key ∈ threadKeys rt rows.messages,
        reportThread (plainOptions rt allowed excluded botName) rows key = .ok (some thread) := by
    intro thread
    rw [hperm.mem_iff, List.mem_filterMap]
    constructor
    · rintro ⟨result, hresult, hsome⟩
      obtain ⟨key, hkey, hmade⟩ := mem_mapM_ok hresults hresult
      exact ⟨key, hkey, hmade.trans (congrArg Except.ok hsome)⟩
    · rintro ⟨key, hkey, hmade⟩
      obtain ⟨result, hresult, hmade'⟩ := mapM_ok_of_mem hresults hkey
      exact ⟨result, hresult, Except.ok.inj (hmade'.symm.trans hmade)⟩
  constructor
  · refine (hperm.map ReportThread.key).nodup_iff.mpr ?_
    refine (sublist_of_forall₂ (forall₂_of_mapM_ok (fun key result hresult thread hsome => ?_)
      hresults)).nodup (nodup_threadKeys rt rows.messages)
    rw [hsome, reportThread_eq_some] at hresult
    obtain ⟨parts, -, -, rfl⟩ := hresult
    rfl
  · intro key
    constructor
    · rintro ⟨thread, hthread, rfl⟩
      obtain ⟨key, hkey, hmade⟩ := (hmem thread).mp hthread
      obtain ⟨parts, hparts, hadmits, rfl⟩ := reportThread_eq_some.mp hmade
      exact ⟨mem_threadKeys.mp hkey, parts.2.2, groupId_of_threadParts hparts, hadmits⟩
    · rintro ⟨hkey, groupId, hgroup, hadmits⟩
      obtain ⟨result, -, hmade⟩ := mapM_ok_of_mem hresults (mem_threadKeys.mpr hkey)
      rw [reportThread_plain] at hmade
      cases hparts : threadParts (plainOptions rt allowed excluded botName)
          (threadMetadata rows.metadata key) (sortedMessages rt rows key) with
      | error e =>
          rw [hparts] at hmade
          cases hmade
      | ok parts =>
          obtain rfl := Except.ok.inj (hgroup.symm.trans (groupId_of_threadParts hparts))
          exact ⟨_, (hmem _).mpr ⟨key, mem_threadKeys.mpr hkey,
            reportThread_eq_some.mpr ⟨parts, hparts, hadmits, rfl⟩⟩, rfl⟩
  · intro key hkey
    obtain ⟨result, -, hmade⟩ := mapM_ok_of_mem hresults (mem_threadKeys.mpr hkey)
    rw [reportThread_plain] at hmade
    cases hparts : threadParts (plainOptions rt allowed excluded botName)
        (threadMetadata rows.metadata key) (sortedMessages rt rows key) with
    | error e =>
        rw [hparts] at hmade
        cases hmade
    | ok parts => exact ⟨parts, hparts⟩
  · intro thread hthread
    obtain ⟨key, -, hmade⟩ := (hmem thread).mp hthread
    obtain ⟨parts, hparts, -, rfl⟩ := reportThread_eq_some.mp hmade
    exact ⟨parts, hparts, rfl⟩

theorem aggregateThreads_ok {rows : ReportRows}
    (h : ∀ key, messagesOf rt rows.messages key ≠ [] →
      Readable (plainOptions rt allowed excluded botName) rows key
        (threadMetadata rows.metadata key)) :
    ∃ threads, aggregateThreads (plainOptions rt allowed excluded botName) rows = .ok threads := by
  have hloop : ∀ key ∈ threadKeys rt rows.messages, ∃ result,
      reportThread (plainOptions rt allowed excluded botName) rows key = .ok result := by
    intro key hkey
    obtain ⟨parts, hparts⟩ := h key (mem_threadKeys.mp hkey)
    rw [reportThread_plain]
    exact ⟨_, congrArg (Except.map _) hparts⟩
  obtain ⟨results, hresults⟩ := mapM_ok hloop
  refine ⟨(results.filterMap id).insertionSort fun a b => reportedBefore rt a b = true, ?_⟩
  unfold aggregateThreads
  exact congrArg (· >>= _) hresults

theorem ReportOf.conserves {rows : ReportRows} {threads : List ReportThread}
    (h : ReportOf (plainOptions rt allowed excluded botName) rows threads)
    (hadmits : ∀ key, messagesOf rt rows.messages key ≠ [] →
      Qualifies (plainOptions rt allowed excluded botName) rows.metadata key →
        AdmitsRecord (plainOptions rt allowed excluded botName)
          (threadMetadata rows.metadata key)) :
    Conserves (plainOptions rt allowed excluded botName) rows threads := by
  constructor
  · intro key hkey hqualifies
    obtain ⟨thread, hthread, rfl⟩ := (h.isReported key).mpr ⟨hkey, hadmits key hkey hqualifies⟩
    have hcount : (threads.map ReportThread.key).count thread.key = 1 :=
      List.count_eq_one_of_mem h.nodup (List.mem_map_of_mem hthread)
    rw [List.count_eq_countP, List.countP_map, List.countP_eq_length_filter] at hcount
    rw [← hcount]
    congr 1
    apply List.filter_congr
    intro other _
    rw [Function.comp_apply, beq_eq_decide]
  · intro thread hthread
    obtain ⟨parts, hparts, hthreadOf⟩ := h.made thread hthread
    refine ⟨sortedMessages rt rows thread.key, List.perm_insertionSort _ _,
      sorted_sortedMessages rt rows thread.key, ?_⟩
    have hmessages : thread.messages = parts.2.1 := by
      rw [hthreadOf]
      rfl
    rw [hmessages]
    exact sameMessages_of_threadParts hparts

/-- The threads of a day are kept in every order of the metadata exactly when the records that
each of them can have agree. -/
theorem keepsThreads_iff (rt : ReportRuntime) (allowed excluded : List Int) (botName : String)
    (rows : ReportRows) :
    KeepsThreads (plainOptions rt allowed excluded botName) rows ↔
      RecordsAgree (plainOptions rt allowed excluded botName) rows := by
  constructor
  · rintro ⟨threads, haggregate, hconserves, horders⟩ key hkey
    -- each record that the thread can have is its record in some order
    have hrecord : ∀ record ∈ recordChoices rows.metadata key,
        Readable (plainOptions rt allowed excluded botName) rows key record ∧
          (IsReported threads key ↔
            AdmitsRecord (plainOptions rt allowed excluded botName) record) := by
      intro record hchoice
      obtain ⟨metadata, hperm, hmetadata⟩ := exists_perm_of_mem_recordChoices hchoice
      obtain ⟨threads', haggregate', hsame⟩ := horders metadata hperm
      have hreport := reportOf_aggregateThreads haggregate'
      have hreadable := hreport.readable key hkey
      have hreported := (hreport.isReported key).trans (and_iff_right hkey)
      rw [hmetadata] at hreadable hreported
      exact ⟨hreadable, (hsame key).symm.trans hreported⟩
    refine ⟨fun record hchoice => (hrecord record hchoice).1, ?_, ?_⟩
    · intro record hchoice other hother hadmits
      exact (hrecord other hother).2.mp ((hrecord record hchoice).2.mpr hadmits)
    · intro hqualifies record hchoice
      have hone := hconserves.reported key hkey hqualifies
      obtain ⟨thread, hthread⟩ := List.exists_mem_of_length_pos
        (l := threads.filter fun thread => thread.key = key) (by rw [hone]; exact Nat.one_pos)
      obtain ⟨hmem, hthreadKey⟩ := List.mem_filter.mp hthread
      exact (hrecord record hchoice).2.mp ⟨thread, hmem, of_decide_eq_true hthreadKey⟩
  · intro hagree
    have haggregates : ∀ metadata, metadata.Perm rows.metadata → ∃ threads,
        aggregateThreads (plainOptions rt allowed excluded botName) { rows with metadata } =
          .ok threads := by
      intro metadata hperm
      refine aggregateThreads_ok fun key hkey => ?_
      exact (hagree key hkey).1 _ (mem_recordChoices_of_perm hperm
        (threadMetadata_mem_recordChoices metadata key))
    obtain ⟨threads, haggregate⟩ := haggregates rows.metadata (List.Perm.refl _)
    have hreport := reportOf_aggregateThreads haggregate
    refine ⟨threads, haggregate, hreport.conserves fun key hkey hqualifies =>
      (hagree key hkey).2.2 hqualifies _ (threadMetadata_mem_recordChoices _ key), ?_⟩
    intro metadata hperm
    obtain ⟨threads', haggregate'⟩ := haggregates metadata hperm
    have hreport' := reportOf_aggregateThreads haggregate'
    refine ⟨threads', haggregate', fun key => ?_⟩
    rw [hreport'.isReported, hreport.isReported]
    refine and_congr_right fun hkey => ?_
    have hchoice := mem_recordChoices_of_perm hperm (threadMetadata_mem_recordChoices metadata key)
    have hchoice' := threadMetadata_mem_recordChoices rows.metadata key
    exact ⟨(hagree key hkey).2.1 _ hchoice _ hchoice', (hagree key hkey).2.1 _ hchoice' _ hchoice⟩

end Reported

/-! ## A thread that is dropped -/

/-- A customer's message in a thread of a chat. -/
def customerRow (id : Int) (chatId threadId : String) (occurredAt : Nat) (text : String) :
    MessageRow where
  id := .int id
  conversationId := none
  chatId := some chatId
  threadId := some threadId
  senderRole := some "customer"
  messageType := some "text"
  textContent := some text
  attachmentRefs := .null
  source := some "livechat"
  occurredAt := some occurredAt
  createdAt := some occurredAt
  authorId := none
  speakerName := none
  originalThreadId := none

/-- An event of the thread. -/
def eventRow (payload : JsonObject) : MetadataRow := ⟨some "C", some "T", payload, .null, .null⟩

/-- The first event of the thread names group 5, the second one names no group. -/
def lateEventRows : ReportRows where
  messages := [customerRow 1 "C" "T" 10 "hi"]
  metadata :=
    [eventRow (Dict.ofList [("group_id", .int 5)]), eventRow (Dict.ofList [("event", .str "e")])]
  commands := []
  states := []

/-- Group 5 is reported. -/
abbrev groupFive : ReportOptions := plainOptions .plain [5] [23] "Ai Jtest"

/-- The later event drops the thread from the report. -/
theorem late_event_drops_thread : ¬KeepsThreads groupFive lateEventRows := by
  have hempty : ((aggregateThreads groupFive lateEventRows).toOption.any fun threads =>
      threads.isEmpty) = true := by decide +kernel
  have hmessages : (messagesOf groupFive.rt lateEventRows.messages ("C", some "T")).isEmpty =
      false := by decide +kernel
  have hgroups : namedGroups groupFive.rt
      (eventRow (Dict.ofList [("group_id", .int 5)])).merged = .ok [5] := by
    rfl
  have hnone : namedGroups groupFive.rt
      (eventRow (Dict.ofList [("event", .str "e")])).merged = .ok [] := by
    rfl
  have hnames : ∀ row ∈ lateEventRows.metadata, ∀ groupId, row.Names groupFive.rt groupId →
      groupId = 5 := by
    rintro row hrow groupId ⟨groups, hok, hmem⟩
    rcases List.mem_cons.mp hrow with rfl | hrow
    · obtain rfl := Except.ok.inj (hok.symm.trans hgroups)
      exact List.mem_singleton.mp hmem
    · rw [List.mem_singleton.mp hrow] at hok
      obtain rfl := Except.ok.inj (hok.symm.trans hnone)
      cases hmem
  have hqualifies : Qualifies groupFive lateEventRows.metadata ("C", some "T") := by
    refine ⟨⟨_, List.mem_cons_self, by decide +kernel, 5, ?_, by decide⟩,
      fun row hrow _ groupId hgroup => ?_⟩
    · exact ⟨[5], hgroups, List.mem_singleton_self 5⟩
    · rw [hnames row hrow groupId hgroup]
      decide
  rintro ⟨threads, haggregate, hconserves, -⟩
  obtain ⟨threads', haggregate', hnil⟩ := toOption_any_eq_true.mp hempty
  obtain rfl := Except.ok.inj (haggregate.symm.trans haggregate')
  have hone := hconserves.reported ("C", some "T") (by simpa using hmessages) hqualifies
  rw [List.isEmpty_iff.mp hnil] at hone
  cases hone

end AiCustomerService
