import AiCustomerService.Properties.SentRows
import AiCustomerService.Workers.GroupTraces

/-!
# The order of a conversation's replies

The group of a conversation is chosen by its first open row, but it is ordered by the block
index over all events of the conversation.  A row without a block index, or one that is not old
enough, is overtaken by the rows of later events.
-/

namespace AiCustomerService

open Support

/-- The ids of the outbound rows are a primary key. -/
def Database.OutboundKeyed (db : Database) : Prop :=
  (db.outboundMessages.rows.map OutboundRow.id).Nodup

/-- `COALESCE(block_index, 2147483647)`. -/
def OutboundRow.block (row : OutboundRow) : Int := row.blockIndex.getD 2147483647

/-- In the conversation every row of the first event was queued before the rows of the second. -/
def Database.AnsweredBefore (db : Database) (conversation : String) (e₁ e₂ : Nat) : Prop :=
  ∀ a ∈ db.outboundMessages.rows, ∀ b ∈ db.outboundMessages.rows,
    a.leaseConversation = conversation → b.leaseConversation = conversation →
      a.inboundEventId = some e₁ → b.inboundEventId = some e₂ → a.id < b.id

/-- The row `a` has to be delivered before `b`: its event was answered earlier, or it is an
earlier block of the same event. -/
def Database.DueBefore (db : Database) (a b : OutboundRow) : Prop :=
  a.leaseConversation = b.leaseConversation ∧
    ∃ e₁ e₂, a.inboundEventId = some e₁ ∧ b.inboundEventId = some e₂ ∧
      (db.AnsweredBefore a.leaseConversation e₁ e₂ ∨ e₁ = e₂ ∧ a.block < b.block)

section Order

variable (settings : SenderSettings) (db : Database) (limit : Nat) (workerId : String)
  (leaseSeconds : Nat)

/-- However the calls end, an open row is handed over before the rows it is due before. -/
def DeliversInOrder : Prop :=
  ∀ group ∈ (leasePendingGroups settings.periods db limit workerId leaseSeconds
      settings.maxPerConversation).2,
    ∀ segments, GroupRuns settings group segments →
      ∀ earlier message later, handedMessages segments = earlier ++ message :: later →
        ∀ a ∈ db.outboundMessages.rows, ∀ b ∈ db.outboundMessages.rows,
          b.id = message.row.id → a.status.isOpen = true → db.DueBefore a b →
            ∃ other ∈ earlier, other.row.id = a.id

/-- A leased row, with the columns of its conversation. -/
def Database.leasedMessage (row : OutboundRow) : LeasedMessage :=
  let conversation := row.conversationId.bind db.conversation?
  ⟨{ row with lease := .taken workerId db.now leaseSeconds },
    conversation.map ConversationRow.status, conversation.bind ConversationRow.activeWorkflow⟩

/-- The rows of a conversation that may be leased, in the order of the group. -/
def Database.leasableRows (periods : OutboundPeriods) (conversation : String) :
    List OutboundRow :=
  (db.outboundMessages.rows.filter fun row =>
    row.isLeasable periods db.now && decide (row.leaseConversation = conversation)).insertionSort
      fun a b => a.before b = true

/-- The row leads its group together with rows that can be sent. -/
def ComesFirst (conversation : String) (b : OutboundRow) : Prop :=
  b.id ∈ db.leasableIds settings.periods settings.maxPerConversation conversation ∧
    ∀ c ∈ db.leasableRows settings.periods conversation, c.before b = true →
      (db.leasedMessage workerId leaseSeconds c).Sendable settings

/-- Of a row that can be handed over, every open row that is due before it may be leased as well
and sorts before it. -/
def QueuedInOrder : Prop :=
  ∀ conversation ∈ db.leasableConversations settings.periods limit,
    ∀ b ∈ db.outboundMessages.rows,
      ComesFirst settings db workerId leaseSeconds conversation b →
        ∀ a ∈ db.outboundMessages.rows, a.status.isOpen = true → db.DueBefore a b →
          a.isLeasable settings.periods db.now = true ∧ a.before b = true

end Order

/-! ## The order of a group -/

theorem before_iff (a b : OutboundRow) :
    a.before b = true ↔ a.block < b.block ∨ a.block = b.block ∧ a.id ≤ b.id := by
  simp [OutboundRow.before, OutboundRow.block]

theorem before_total (a b : OutboundRow) : a.before b = true ∨ b.before a = true := by
  rw [before_iff, before_iff]
  omega

theorem before_trans {a b c : OutboundRow} (hab : a.before b = true) (hbc : b.before c = true) :
    a.before c = true := by
  rw [before_iff] at *
  omega

instance : Std.Total fun a b : OutboundRow => a.before b = true := ⟨before_total⟩

instance : IsTrans OutboundRow fun a b => a.before b = true := ⟨fun _ _ _ => before_trans⟩

variable {settings : SenderSettings} {db : Database} {limit : Nat} {workerId : String}
  {leaseSeconds maxPerConversation : Nat} {periods : OutboundPeriods} {conversation : String}

theorem eq_of_id (hkeyed : db.OutboundKeyed) {a b : OutboundRow}
    (ha : a ∈ db.outboundMessages.rows) (hb : b ∈ db.outboundMessages.rows) (h : a.id = b.id) :
    a = b :=
  List.inj_on_of_nodup_map hkeyed ha hb h

theorem nodup_rows (hkeyed : db.OutboundKeyed) : db.outboundMessages.rows.Nodup :=
  List.Nodup.of_map _ hkeyed

theorem mem_leasableRows {row : OutboundRow} :
    row ∈ db.leasableRows periods conversation ↔ row ∈ db.outboundMessages.rows ∧
      row.isLeasable periods db.now = true ∧ row.leaseConversation = conversation := by
  simp [Database.leasableRows, List.mem_insertionSort]

theorem sorted_leasableRows (periods : OutboundPeriods) (conversation : String) :
    (db.leasableRows periods conversation).Pairwise fun a b => a.before b = true :=
  List.pairwise_insertionSort _ _

theorem leasableIds_eq : db.leasableIds periods maxPerConversation conversation =
    ((db.leasableRows periods conversation).take maxPerConversation).map OutboundRow.id := rfl

/-! ## The groups of a lease -/

/-- The rows of the group of a conversation. -/
def Database.groupRows (db : Database) (periods : OutboundPeriods) (maxPerConversation : Nat)
    (conversation : String) : List OutboundRow :=
  (db.leasableRows periods conversation).take maxPerConversation

/-- The database after a conversation has been leased. -/
def Database.leasedBy (db : Database) (workerId : String) (leaseSeconds : Nat) (ids : List Nat) :
    Database :=
  db.updateOutbound (fun row => row.id ∈ ids)
    (fun row => { row with lease := .taken workerId db.now leaseSeconds }) fun _ => rfl

/-- Rows that an update does not select are filtered as before, unless it makes others pass. -/
theorem filter_map_unselected {α : Type} {rows : List α} {select p : α → Bool} {f : α → α}
    (h : ∀ row ∈ rows, select row = true → p row = false ∧ p (f row) = false) :
    (rows.map fun row => if select row then f row else row).filter p = rows.filter p := by
  induction rows with
  | nil => rfl
  | cons row rest ih =>
      have hrest := ih fun other hother => h other (List.mem_cons_of_mem _ hother)
      by_cases hselect : select row = true
      · obtain ⟨hold, hnew⟩ := h row List.mem_cons_self hselect
        simp [hselect, hold, hnew, hrest]
      · simp [hselect, List.filter_cons, hrest]

/-- Rows that stay selected are filtered before or after the update. -/
theorem filter_map_selected {α : Type} {select : α → Bool} {f : α → α}
    (h : ∀ row, select (f row) = select row) (rows : List α) :
    (rows.map fun row => if select row then f row else row).filter select =
      (rows.filter select).map f := by
  induction rows with
  | nil => rfl
  | cons row rest ih =>
      by_cases hselect : select row = true
      · simp [hselect, h, ih]
      · simp [hselect, ih]

theorem mem_of_mem_groupIds (hkeyed : db.OutboundKeyed) {row : OutboundRow}
    (hrow : row ∈ db.outboundMessages.rows) :
    row.id ∈ db.leasableIds periods maxPerConversation conversation ↔
      row ∈ db.groupRows periods maxPerConversation conversation := by
  rw [leasableIds_eq]
  constructor
  · intro h
    obtain ⟨other, hother, hid⟩ := List.mem_map.mp h
    have hmem := (mem_leasableRows.mp (List.mem_of_mem_take hother)).1
    rwa [eq_of_id hkeyed hrow hmem hid.symm]
  · intro h
    exact List.mem_map_of_mem h

theorem nodup_groupRows (hkeyed : db.OutboundKeyed) :
    (db.groupRows periods maxPerConversation conversation).Nodup := by
  have hleasable : (db.leasableRows periods conversation).Nodup :=
    (List.perm_insertionSort _ _).nodup_iff.mpr ((nodup_rows hkeyed).filter _)
  exact hleasable.sublist (List.take_sublist _ _)

/-- The rows with the ids of the group, in order, are the rows of the group. -/
theorem sort_groupIds (hkeyed : db.OutboundKeyed) :
    (db.outboundMessages.rows.filter fun row =>
        row.id ∈ db.leasableIds periods maxPerConversation conversation).insertionSort
          (fun a b => a.before b = true) =
      db.groupRows periods maxPerConversation conversation := by
  have hgroup := (sorted_leasableRows periods conversation).sublist
    (List.take_sublist maxPerConversation (db.leasableRows periods conversation))
  refine List.Perm.eq_of_pairwise ?_ (List.pairwise_insertionSort _ _) hgroup ?_
  · intro a b ha hb hab hba
    rw [before_iff] at hab hba
    have hmema := (List.mem_filter.mp (List.mem_insertionSort _ |>.mp ha)).1
    have hmemb := (mem_leasableRows.mp (List.mem_of_mem_take hb)).1
    exact eq_of_id hkeyed hmema hmemb (by omega)
  · have hnodup : (db.outboundMessages.rows.filter fun row =>
        row.id ∈ db.leasableIds periods maxPerConversation conversation).Nodup :=
      (nodup_rows hkeyed).filter _
    refine (List.perm_insertionSort _ _).trans
      ((List.perm_ext_iff_of_nodup hnodup (nodup_groupRows hkeyed)).mpr ?_)
    intro row
    rw [List.mem_filter, decide_eq_true_eq]
    constructor
    · rintro ⟨hrow, hid⟩
      exact (mem_of_mem_groupIds hkeyed hrow).mp hid
    · intro hgroup
      have hrow := (mem_leasableRows.mp (List.mem_of_mem_take hgroup)).1
      exact ⟨hrow, (mem_of_mem_groupIds hkeyed hrow).mpr hgroup⟩

/-- The group that is fetched: the first rows of the conversation, in order. -/
theorem fetchGroup_leasedBy (hkeyed : db.OutboundKeyed) :
    (db.leasedBy workerId leaseSeconds
        (db.leasableIds periods maxPerConversation conversation)).fetchGroup
          (db.leasableIds periods maxPerConversation conversation) =
      (db.groupRows periods maxPerConversation conversation).map
        (db.leasedMessage workerId leaseSeconds) := by
  have hsorted := @sort_groupIds db maxPerConversation periods conversation hkeyed
  generalize db.leasableIds periods maxPerConversation conversation = ids at hsorted ⊢
  have hfilter := @filter_map_selected OutboundRow (fun row => row.id ∈ ids)
    (fun row => { row with lease := .taken workerId db.now leaseSeconds }) (fun _ => rfl)
    db.outboundMessages.rows
  have hsort := List.map_insertionSort (fun a b : OutboundRow => a.before b = true)
    (fun a b : OutboundRow => a.before b = true)
    (fun row : OutboundRow => { row with lease := .taken workerId db.now leaseSeconds })
    (db.outboundMessages.rows.filter fun row => row.id ∈ ids) (fun _ _ _ _ => Iff.rfl)
  unfold Database.fetchGroup Database.leasedBy Database.updateOutbound
  rw [Table.rows_updateWhere, hfilter, ← hsort, hsorted, List.map_map]
  rfl

theorem outboundKeyed_leasedBy (hkeyed : db.OutboundKeyed) (ids : List Nat) :
    (db.leasedBy workerId leaseSeconds ids).OutboundKeyed := by
  have hids : (db.leasedBy workerId leaseSeconds ids).outboundMessages.rows.map OutboundRow.id =
      db.outboundMessages.rows.map OutboundRow.id := by
    unfold Database.leasedBy Database.updateOutbound
    rw [Table.rows_updateWhere, List.map_map]
    apply List.map_congr_left
    intro row _
    simp only [Function.comp]
    split
    · rfl
    · rfl
  rwa [Database.OutboundKeyed, hids]

/-- The lease of another conversation does not change a group. -/
theorem leasableRows_leasedBy (hkeyed : db.OutboundKeyed) {other : String}
    (hother : conversation ≠ other) :
    (db.leasedBy workerId leaseSeconds
        (db.leasableIds periods maxPerConversation other)).leasableRows periods conversation =
      db.leasableRows periods conversation := by
  unfold Database.leasableRows Database.leasedBy Database.updateOutbound
  rw [Table.rows_updateWhere, filter_map_unselected]
  intro row hrow hselect
  rw [decide_eq_true_eq, mem_of_mem_groupIds hkeyed hrow] at hselect
  have hconversation := (mem_leasableRows.mp (List.mem_of_mem_take hselect)).2.2
  have hne : row.leaseConversation ≠ conversation := by
    rw [hconversation]
    exact hother.symm
  have hleased : OutboundRow.leaseConversation
      { row with lease := .taken workerId db.now leaseSeconds } ≠ conversation := hne
  simp [hne, hleased]

/-- What a lease hands over to the worker: a group for every conversation with leasable rows. -/
theorem mem_leaseGroups (hkeyed : db.OutboundKeyed) {conversations : List String}
    (hnodup : conversations.Nodup) {group : List LeasedMessage} :
    group ∈ (leaseGroups periods workerId leaseSeconds maxPerConversation db conversations).2 ↔
      ∃ conversation ∈ conversations,
        db.groupRows periods maxPerConversation conversation ≠ [] ∧
          group = (db.groupRows periods maxPerConversation conversation).map
            (db.leasedMessage workerId leaseSeconds) := by
  induction conversations generalizing db with
  | nil => simp [leaseGroups]
  | cons conversation rest ih =>
      have hempty : (db.leasableIds periods maxPerConversation conversation).isEmpty = true ↔
          db.groupRows periods maxPerConversation conversation = [] := by
        rw [leasableIds_eq, List.isEmpty_map, List.isEmpty_iff]
        rfl
      rw [leaseGroups]
      simp only [List.mem_cons, exists_eq_or_imp]
      split
      · rename_i hnone
        rw [ih hkeyed hnodup.of_cons]
        simp [hempty.mp hnone]
      · rename_i hsome
        have hframe : ∀ other ∈ rest,
            (db.leasedBy workerId leaseSeconds (db.leasableIds periods maxPerConversation
                conversation)).groupRows periods maxPerConversation other =
              db.groupRows periods maxPerConversation other := by
          intro other hmem
          have hne : other ≠ conversation := by
            rintro rfl
            exact (List.nodup_cons.mp hnodup).1 hmem
          rw [Database.groupRows, leasableRows_leasedBy hkeyed hne]
          rfl
        have hmessage : (db.leasedBy workerId leaseSeconds (db.leasableIds periods
            maxPerConversation conversation)).leasedMessage workerId leaseSeconds =
              db.leasedMessage workerId leaseSeconds := rfl
        have hfirst := @fetchGroup_leasedBy db workerId leaseSeconds maxPerConversation periods
          conversation hkeyed
        have hrest := @ih (db.leasedBy workerId leaseSeconds
          (db.leasableIds periods maxPerConversation conversation))
          (outboundKeyed_leasedBy hkeyed _) hnodup.of_cons
        rw [hempty] at hsome
        simp only [List.mem_cons]
        constructor
        · rintro (hgroup | hgroup)
          · exact Or.inl ⟨hsome, hgroup.trans hfirst⟩
          · obtain ⟨other, hmem, hrows, hgroup⟩ := hrest.mp hgroup
            rw [hframe other hmem] at hrows hgroup
            exact Or.inr ⟨other, hmem, hrows, hgroup⟩
        · rintro (⟨-, hgroup⟩ | ⟨other, hmem, hrows, hgroup⟩)
          · exact Or.inl (hgroup.trans hfirst.symm)
          · refine Or.inr (hrest.mpr ⟨other, hmem, ?_, ?_⟩)
            · rwa [hframe other hmem]
            · rwa [hframe other hmem]

/-- The row is the first open one of its conversation. -/
def Database.IsLeading (db : Database) (row : OutboundRow) : Prop :=
  row ∈ db.outboundMessages.rows ∧ row.status.isOpen = true ∧
    ∀ other ∈ db.outboundMessages.rows, other.leaseConversation = row.leaseConversation →
      other.status.isOpen = true → row.id ≤ other.id

theorem isLeading_of_filter {row : OutboundRow}
    (h : row ∈ db.outboundMessages.rows.filter fun row =>
      row.isLeasable periods db.now &&
        !db.outboundMessages.rows.any fun other =>
          decide (other.leaseConversation = row.leaseConversation) &&
            ((other.status.isOpen && decide (other.id < row.id)) || other.isHeld db.now)) :
    db.IsLeading row := by
  rw [List.mem_filter, Bool.and_eq_true, Bool.not_eq_true', List.any_eq_false] at h
  obtain ⟨hrow, hleasable, hfirst⟩ := h
  refine ⟨hrow, ?_, ?_⟩
  · unfold OutboundRow.isLeasable at hleasable
    simp only [Bool.and_eq_true] at hleasable
    exact hleasable.1.1
  · intro other hother hconversation hopen
    have hnone := hfirst other hother
    simp only [hconversation, hopen, decide_true, Bool.true_and, Bool.or_eq_true,
      decide_eq_true_eq, not_or] at hnone
    exact Nat.le_of_not_lt hnone.1

/-- A conversation is led by one row, so it is leased once. -/
theorem nodup_leasableConversations (hkeyed : db.OutboundKeyed) :
    (db.leasableConversations periods limit).Nodup := by
  unfold Database.leasableConversations
  simp only
  apply List.Nodup.map_on
  · intro a ha b hb hsame
    obtain ⟨hrowa, hopena, hfirsta⟩ :=
      isLeading_of_filter (List.mem_insertionSort _ |>.mp (List.mem_of_mem_take ha))
    obtain ⟨hrowb, hopenb, hfirstb⟩ :=
      isLeading_of_filter (List.mem_insertionSort _ |>.mp (List.mem_of_mem_take hb))
    have hab := hfirsta b hrowb hsame.symm hopenb
    have hba := hfirstb a hrowa hsame hopena
    exact eq_of_id hkeyed hrowa hrowb (by omega)
  · apply List.Nodup.sublist (List.take_sublist _ _)
    exact (List.perm_insertionSort _ _).nodup_iff.mpr ((nodup_rows hkeyed).filter _)

/-! ## The front of a group -/

/-- The rows up to `b` in the order of its conversation. -/
theorem split_groupRows {b : OutboundRow}
    (h : b ∈ db.groupRows periods maxPerConversation conversation) :
    ∃ front rest others, db.groupRows periods maxPerConversation conversation =
        front ++ b :: rest ∧ db.leasableRows periods conversation = front ++ b :: others := by
  obtain ⟨front, rest, hgroup⟩ := List.append_of_mem h
  refine ⟨front, rest, rest ++ (db.leasableRows periods conversation).drop maxPerConversation,
    hgroup, ?_⟩
  have hsplit := List.take_append_drop maxPerConversation (db.leasableRows periods conversation)
  rw [← Database.groupRows, hgroup] at hsplit
  simpa using hsplit.symm

theorem before_of_mem_front {front rest : List OutboundRow} {a b : OutboundRow}
    (h : db.leasableRows periods conversation = front ++ b :: rest) (ha : a ∈ front) :
    a.before b = true := by
  have hsorted := @sorted_leasableRows db periods conversation
  rw [h, List.pairwise_append] at hsorted
  exact hsorted.2.2 a ha b List.mem_cons_self

theorem mem_front_of_before (hkeyed : db.OutboundKeyed) {front rest : List OutboundRow}
    {a b : OutboundRow} (h : db.leasableRows periods conversation = front ++ b :: rest)
    (ha : a ∈ db.leasableRows periods conversation) (hne : a ≠ b) (hbefore : a.before b = true) :
    a ∈ front := by
  have hb : b ∈ db.leasableRows periods conversation := by
    rw [h]
    exact List.mem_append_right _ List.mem_cons_self
  rcases List.mem_append.mp (h ▸ ha) with hfront | hrest
  · exact hfront
  · exfalso
    rcases List.mem_cons.mp hrest with rfl | hrest
    · exact hne rfl
    · have hsorted := @sorted_leasableRows db periods conversation
      rw [h, List.pairwise_append, List.pairwise_cons] at hsorted
      have hafter := hsorted.2.1.1 a hrest
      rw [before_iff] at hbefore hafter
      exact hne (eq_of_id hkeyed (mem_leasableRows.mp ha).1 (mem_leasableRows.mp hb).1
        (by omega))

theorem not_dueBefore_self {b : OutboundRow} (hb : b ∈ db.outboundMessages.rows) :
    ¬db.DueBefore b b := by
  rintro ⟨-, e₁, e₂, he₁, he₂, hbefore | ⟨-, hblock⟩⟩
  · exact lt_irrefl _ (hbefore b hb b hb rfl rfl he₁ he₂)
  · exact lt_irrefl _ hblock

/-- The rows that lead to a row that is handed over can all be sent. -/
theorem comesFirst_of_handed (hkeyed : db.OutboundKeyed) {front rest : List OutboundRow}
    {b : OutboundRow} (h : db.leasableRows settings.periods conversation = front ++ b :: rest)
    (hgroup : b ∈ db.groupRows settings.periods settings.maxPerConversation conversation)
    (hsendable : ∀ c ∈ front ++ [b], (db.leasedMessage workerId leaseSeconds c).Sendable settings) :
    ComesFirst settings db workerId leaseSeconds conversation b := by
  have hb := (mem_leasableRows.mp (List.mem_of_mem_take hgroup)).1
  refine ⟨(mem_of_mem_groupIds hkeyed hb).mpr hgroup, ?_⟩
  intro c hc hbefore
  apply hsendable
  by_cases hcb : c = b
  · exact List.mem_append_right _ (List.mem_singleton.mpr hcb)
  · exact List.mem_append_left _ (mem_front_of_before hkeyed h hc hcb hbefore)

theorem delivers_of_queued (hkeyed : db.OutboundKeyed)
    (h : QueuedInOrder settings db limit workerId leaseSeconds) :
    DeliversInOrder settings db limit workerId leaseSeconds := by
  intro group hgroup segments hruns earlier message later hhanded a ha b hb hid hopen hdue
  obtain ⟨conversation, hconversation, -, rfl⟩ :=
    (mem_leaseGroups hkeyed (nodup_leasableConversations hkeyed)).mp hgroup
  obtain ⟨⟨others, hprefix⟩, hsendable⟩ := handedMessages_prefix hruns
  rw [hhanded] at hprefix hsendable
  obtain ⟨front, tail, hrows, rfl, htail⟩ := List.map_eq_append_iff.mp (by simpa using hprefix.symm)
  obtain ⟨b', rest, rfl, rfl, -⟩ := List.map_eq_cons_iff.mp htail
  have hb' : b' ∈ db.groupRows settings.periods settings.maxPerConversation conversation := by
    rw [hrows]
    exact List.mem_append_right _ List.mem_cons_self
  have hleasable := mem_leasableRows.mp (List.mem_of_mem_take hb')
  obtain rfl : b = b' := eq_of_id hkeyed hb hleasable.1 hid
  have hall : db.leasableRows settings.periods conversation = front ++ b :: (rest ++
      (db.leasableRows settings.periods conversation).drop settings.maxPerConversation) := by
    have hsplit := List.take_append_drop settings.maxPerConversation
      (db.leasableRows settings.periods conversation)
    rw [← Database.groupRows, hrows] at hsplit
    simpa using hsplit.symm
  have hfirst : ComesFirst settings db workerId leaseSeconds conversation b := by
    apply comesFirst_of_handed hkeyed hall hb'
    intro c hc
    apply hsendable
    rw [List.mem_append, List.mem_singleton] at hc
    rcases hc with hc | rfl
    · exact List.mem_append_left _ (List.mem_map_of_mem hc)
    · exact List.mem_append_right _ List.mem_cons_self
  obtain ⟨haleasable, habefore⟩ := h conversation hconversation b hb hfirst a ha hopen hdue
  have haconversation : a.leaseConversation = conversation := hdue.1.trans hleasable.2.2
  have hne : a ≠ b := by
    rintro rfl
    exact not_dueBefore_self hb hdue
  have hfront := mem_front_of_before hkeyed hall
    (mem_leasableRows.mpr ⟨ha, haleasable, haconversation⟩) hne habefore
  exact ⟨_, List.mem_map_of_mem hfront, rfl⟩

theorem queued_of_delivers (hkeyed : db.OutboundKeyed)
    (h : DeliversInOrder settings db limit workerId leaseSeconds) :
    QueuedInOrder settings db limit workerId leaseSeconds := by
  intro conversation hconversation b hb hfirst a ha hopen hdue
  have hgroup := (mem_of_mem_groupIds hkeyed hb).mp hfirst.1
  obtain ⟨front, rest, others, hrows, hall⟩ := split_groupRows hgroup
  have hmem : ∀ c ∈ front ++ [b], c ∈ db.leasableRows settings.periods conversation ∧
      c.before b = true := by
    intro c hc
    rw [hall]
    rcases List.mem_append.mp hc with hc | hc
    · exact ⟨List.mem_append_left _ hc, before_of_mem_front hall hc⟩
    · rw [List.mem_singleton.mp hc]
      exact ⟨List.mem_append_right _ List.mem_cons_self, (before_total b b).elim id id⟩
  have hsendable : ∀ message ∈ (front ++ [b]).map (db.leasedMessage workerId leaseSeconds),
      message.Sendable settings := by
    intro message hmessage
    obtain ⟨c, hc, rfl⟩ := List.mem_map.mp hmessage
    exact hfirst.2 c (hmem c hc).1 (hmem c hc).2
  obtain ⟨segments, hruns, later, hhanded⟩ :=
    exists_handed hsendable (rest.map (db.leasedMessage workerId leaseSeconds))
  rw [← List.map_append, List.append_assoc, List.singleton_append, ← hrows] at hruns
  have hleased : (db.groupRows settings.periods settings.maxPerConversation conversation).map
      (db.leasedMessage workerId leaseSeconds) ∈ (leasePendingGroups settings.periods db limit
        workerId leaseSeconds settings.maxPerConversation).2 := by
    apply (mem_leaseGroups hkeyed (nodup_leasableConversations hkeyed)).mpr
    exact ⟨conversation, hconversation, List.ne_nil_of_mem hgroup, rfl⟩
  obtain ⟨other, hother, hid⟩ := h _ hleased segments hruns
    (front.map (db.leasedMessage workerId leaseSeconds)) (db.leasedMessage workerId leaseSeconds b)
    later (by simpa using hhanded.symm) a ha b hb rfl hopen hdue
  obtain ⟨c, hc, rfl⟩ := List.mem_map.mp hother
  obtain ⟨hcleasable, hcbefore⟩ := hmem c (List.mem_append_left _ hc)
  have hrow := mem_leasableRows.mp hcleasable
  obtain rfl : c = a := eq_of_id hkeyed hrow.1 ha hid
  exact ⟨hrow.2.1, hcbefore⟩

/-- A conversation's replies are delivered in the order its events were answered exactly when
every open row due before a row that can be handed over may be leased, and sorts before it. -/
theorem delivers_in_order_iff (settings : SenderSettings) (db : Database) (limit : Nat)
    (workerId : String) (leaseSeconds : Nat) (hkeyed : db.OutboundKeyed) :
    DeliversInOrder settings db limit workerId leaseSeconds ↔
      QueuedInOrder settings db limit workerId leaseSeconds :=
  ⟨queued_of_delivers hkeyed, delivers_of_queued hkeyed⟩

/-! ## A reply without a block index -/

/-- The answer to an event: a text of the graph, or a block of an answer plan. -/
def answerTo (inboundEventId : Nat) (blockIndex : Option Int) (text : String) :
    OutboundMessage where
  chatId := some "C"
  threadId := some "T"
  actionType := "livechat.send_text"
  messageType := "text"
  payloadJson := .ofList [("type", .str "message"), ("text", .str text)]
  status := .pending
  inboundEventId := some inboundEventId
  conversationId := some "conversation"
  tenantId := none
  dedupKey := some text
  blockIndex := blockIndex
  messageKind := some "text"
  commandType := some "livechat.send_text"

/-- The answers to two events, queued one after the other. -/
def answeredTwice (first second : Option Int) : Database :=
  match insertOutbound .empty (answerTo 1 first "It has been recorded.") with
  | .ok (db, _) =>
      match insertOutbound db (answerTo 2 second "Deposits are free.") with
      | .ok (db, _) => db
      | .error _ => .empty
  | .error _ => .empty

/-- The rows of the two answers. -/
def answerRow (id : Nat) (blockIndex : Option Int) (text : String) : OutboundRow :=
  (answerTo id blockIndex text).row id 0 "C"

theorem rows_answeredTwice (first second : Option Int) :
    (answeredTwice first second).outboundMessages.rows =
      [answerRow 1 first "It has been recorded.", answerRow 2 second "Deposits are free."] :=
  rfl

theorem outboundKeyed_answeredTwice (first second : Option Int) :
    (answeredTwice first second).OutboundKeyed := by
  rw [Database.OutboundKeyed, rows_answeredTwice]
  simp [answerRow, OutboundMessage.row]

theorem mem_answeredTwice {first second : Option Int} {row : OutboundRow} :
    row ∈ (answeredTwice first second).outboundMessages.rows ↔
      row = answerRow 1 first "It has been recorded." ∨
        row = answerRow 2 second "Deposits are free." := by
  simp [rows_answeredTwice]

/-- The reply to the first event has no block index, so the first block of the answer to the
second event overtakes it. -/
theorem reply_is_overtaken :
    ¬DeliversInOrder (.plain "worker") (answeredTwice none (some 0)) 20 "worker" 300 := by
  intro h
  have hqueued := queued_of_delivers (outboundKeyed_answeredTwice none (some 0)) h
  have hdue : (answeredTwice none (some 0)).DueBefore
      (answerRow 1 none "It has been recorded.") (answerRow 2 (some 0) "Deposits are free.") := by
    refine ⟨rfl, 1, 2, rfl, rfl, Or.inl ?_⟩
    rw [Database.AnsweredBefore, rows_answeredTwice]
    decide
  obtain ⟨-, hbefore⟩ := hqueued "conversation" (by decide +kernel)
    (answerRow 2 (some 0) "Deposits are free.") (mem_answeredTwice.mpr (Or.inr rfl))
    ⟨by decide +kernel, by
      intro c hc _
      rw [mem_leasableRows, mem_answeredTwice] at hc
      rcases hc.1 with rfl | rfl
      · exact ⟨rfl, Or.inr (Or.inl ⟨rfl, rfl⟩)⟩
      · exact ⟨rfl, Or.inr (Or.inl ⟨rfl, rfl⟩)⟩⟩
    (answerRow 1 none "It has been recorded.") (mem_answeredTwice.mpr (Or.inl rfl)) rfl hdue
  revert hbefore
  decide

/-- Two replies of the same kind keep their order. -/
theorem replies_keep_order :
    DeliversInOrder (.plain "worker") (answeredTwice none none) 20 "worker" 300 := by
  apply (delivers_in_order_iff _ _ 20 "worker" 300 (outboundKeyed_answeredTwice none none)).mpr
  intro conversation _ b hb _ a ha _ hdue
  have hold : ∀ row ∈ (answeredTwice none none).outboundMessages.rows,
      row.isLeasable (SenderSettings.plain "worker").periods (answeredTwice none none).now =
        true := by
    decide +kernel
  refine ⟨hold a ha, ?_⟩
  rw [mem_answeredTwice] at ha hb
  rcases ha with rfl | rfl
  · rcases hb with rfl | rfl
    · decide
    · decide
  · rcases hb with rfl | rfl
    · obtain ⟨-, e₁, e₂, he₁, he₂, hbefore | ⟨rfl, -⟩⟩ := hdue
      · have hid := hbefore _ (mem_answeredTwice.mpr (Or.inr rfl)) _
          (mem_answeredTwice.mpr (Or.inl rfl)) rfl rfl he₁ he₂
        revert hid
        decide
      · cases he₁
        cases he₂
    · decide

end AiCustomerService
