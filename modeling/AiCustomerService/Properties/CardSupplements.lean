import AiCustomerService.Workers.CardRuns

/-!
# Supplements on the card of a case

Every edit replaces the whole text of the card.  A command carries the text that the conversation
remembered when the command was made, so what was appended in the meantime is lost.
-/

namespace AiCustomerService

open Support

variable {settings : CardSettings} {render : Renderer}

/-- The edits of one card. -/
def CardWorld.editsOf (w : CardWorld) (root : Option String × Int) : List CardEdit :=
  w.edits.filter fun edit => edit.root = root

/-- The present text of every card contains the supplements of all the commands that have been
executed for it. -/
def KeepsSupplements (w : CardWorld) : Prop :=
  ∀ root last earlier, w.editsOf root = last :: earlier →
    ∀ edit ∈ last :: earlier, edit.supplement.toList <:+: last.text.toList

/-- An append command is executed with the present text of the card, unless it is the first one
for the card, and rebuilding the card leaves the lines of its supplement as they are. -/
def CarriesPresentCard (settings : CardSettings) (w : CardWorld) : CardStep → Prop
  | .execute commandId translated now => ∀ command edit,
      w.db.appendCommand? commandId = some command →
        cardEdit settings command translated now = .ok edit →
          (∀ last, (w.editsOf edit.root).head? = some last →
              appendBaseText settings command now = last.text) ∧
            KeptWhenRebuilt edit.supplement
  | _ => True

/-! ## The invariant -/

/-- The present text of every card shows the supplements, each on lines that stay. -/
def ShowsSupplements (w : CardWorld) : Prop :=
  ∀ root last earlier, w.editsOf root = last :: earlier →
    ∀ edit ∈ last :: earlier, ShowsSupplement edit.supplement last.text.toList ∧
      KeptWhenRebuilt edit.supplement

theorem keepsSupplements_of_shows {w : CardWorld} (h : ShowsSupplements w) : KeepsSupplements w :=
  fun root last earlier hedits edit hmem =>
    isInfix_of_showsSupplement (h root last earlier hedits edit hmem).1

theorem cardEdit_eq_ok {command : ExternalCommandRow} {translated : Option String} {now : String}
    {edit : CardEdit} (h : cardEdit settings command translated now = .ok edit) :
    ∃ supplement, edit.text = buildTelegramCaseAppend settings command supplement now ∧
      edit.supplement = supplementText settings supplement := by
  obtain ⟨messageId, -, hpure⟩ := bind_eq_ok.mp h
  cases hpure
  exact ⟨_, rfl, rfl⟩

/-- An edit with the present text of its card. -/
theorem ShowsSupplements.edit {w : CardWorld} (h : ShowsSupplements w)
    {command : ExternalCommandRow} {translated : Option String} {now : String} {edit : CardEdit}
    (hedit : cardEdit settings command translated now = .ok edit)
    (hpresent : ∀ last, (w.editsOf edit.root).head? = some last →
      appendBaseText settings command now = last.text)
    (hkept : KeptWhenRebuilt edit.supplement) {db : Database} :
    ShowsSupplements { w with db, edits := edit :: w.edits } := by
  obtain ⟨supplement, htext, hsupplement⟩ := cardEdit_eq_ok hedit
  intro root last earlier hedits shown hmem
  unfold CardWorld.editsOf at hedits
  by_cases hroot : edit.root = root
  · subst hroot
    rw [List.filter_cons_of_pos (by simp)] at hedits
    obtain ⟨rfl, hearlier⟩ := List.cons.inj hedits
    rcases List.mem_cons.mp hmem with rfl | hold
    · refine ⟨?_, hkept⟩
      rw [htext, hsupplement]
      exact showsSupplement_own settings command supplement now
    · cases earlier with
      | nil => cases hold
      | cons before others =>
          obtain ⟨hshown, hshownKept⟩ := h edit.root before others hearlier shown hold
          refine ⟨?_, hshownKept⟩
          have hbase : appendBaseText settings command now = before.text :=
            hpresent before (by rw [CardWorld.editsOf, hearlier]; rfl)
          rw [htext]
          apply showsSupplement_base hshownKept
          rw [hbase]
          exact hshown
  · rw [List.filter_cons_of_neg (by simpa using hroot)] at hedits
    exact h root last earlier hedits shown hmem

/-- The steps that carry the present text keep the invariant. -/
theorem ShowsSupplements.after {w : CardWorld} (h : ShowsSupplements w) {step : CardStep}
    (hcarries : CarriesPresentCard settings w step) :
    ShowsSupplements (w.after settings render step) := by
  cases step with
  | load turn => exact h
  | commit index =>
      simp only [CardWorld.after]
      split
      · rename_i loaded _
        unfold CardWorld.committed
        split
        · exact h
        · exact h
      · exact h
  | execute commandId translated now =>
      simp only [CardWorld.after, CardWorld.execute]
      split
      · exact h
      · rename_i command hcommand
        split
        · exact h
        · rename_i edit hedit
          obtain ⟨hpresent, hkept⟩ := hcarries command edit hcommand hedit
          exact h.edit hedit hpresent hkept
  | merge context row recordedAt messages =>
      simp only [CardWorld.after, CardWorld.committed]
      split
      · exact h
      · exact h
  | result context ref graphState messages commands summary =>
      simp only [CardWorld.after, CardWorld.committed]
      split
      · exact h
      · exact h

/-! ## Runs -/

/-- Before the first supplement. -/
def cardStart (db : Database) : CardWorld := ⟨db, [], []⟩

/-- Along a run in which every append command is executed with the present text of the card, the
card always contains every supplement that has been appended to it. -/
theorem supplements_stay_on_card (settings : CardSettings) (render : Renderer) (db : Database)
    (steps : List CardStep)
    (h : EveryStep (CarriesPresentCard settings) (CardWorld.after settings render) (cardStart db)
      steps) :
    ∀ first rest, steps = first ++ rest →
      KeepsSupplements (runSteps (CardWorld.after settings render) (cardStart db) first) := by
  rintro first rest rfl
  apply keepsSupplements_of_shows
  apply h.of_append.invariant
  · intro root last earlier hedits
    cases hedits
  · exact fun w step hshows hcarries => hshows.after hcarries

/-! ## Two supplements that overlap -/

/-- Plain texts, and one group of the staff. -/
def plainCards : CardSettings where
  runtime := .plain
  plainText value := strip (value.textOrEmpty .plain)
  caseCard _ _ := "[Deposit not credited]"
  telegramTarget _ := ⟨some "-100", none, "config"⟩

/-- No template of a reply is used. -/
def noTemplates : Renderer := fun _ _ _ => .ok ""

/-- The conversation whose case has the card 7. -/
def cardedConversation : ConversationRow :=
  { ConversationRow.fresh 0 "livechat:C1:T1" "C1" (some "T1") with
    status := .waitingExternal
    slotMemory := .ofList [("telegram_case_id", .str "tg:7"), ("telegram_message_id", .int 7),
      ("telegram_case_card_text", .str "[Deposit not credited]")] }

def cardedDatabase : Database :=
  { Database.empty with conversationStates := ⟨[cardedConversation], by simp⟩ }

/-- The customer adds to the case. -/
def supplementTurn (inboundEventId : Nat) (text : String) : SupplementTurn where
  context := ⟨none, false⟩
  inboundEventId := inboundEventId
  event :=
    { chatId := some "C1", threadId := some "T1", eventId := none, authorId := none
      occurredAt := none, payloadJson := ∅, organizationId := none
      standardEventType := "MESSAGE_CREATED", ignored := false }
  activeWorkflow := "deposit_missing"
  platform := .null
  livechatGroupId := .null
  supplement := some (.ofList [("text", .str text)])
  plan := fun memory => memory
  rest := ⟨⟨none, none, none, none, none, [], none⟩, [], [], []⟩

/-- Both supplements are committed before the first one is executed. -/
def overlappingSupplements : List CardStep :=
  [.load (supplementTurn 1 "paid at noon"), .commit 0, .load (supplementTurn 2 "by card"),
    .commit 0, .execute 1 none "t1", .execute 2 none "t2"]

/-- The world after them. -/
def overlapped : CardWorld :=
  runSteps (CardWorld.after plainCards noTemplates) (cardStart cardedDatabase)
    overlappingSupplements

/-- The card does not show the first supplement any more. -/
theorem overlapping_supplement_is_lost : ¬KeepsSupplements overlapped := by
  intro h
  have hsupplements : (overlapped.editsOf (some "-100", 7)).map (·.supplement) =
      ["by card", "paid at noon"] := by decide +kernel
  have hlost : (overlapped.editsOf (some "-100", 7)).head?.map (fun last =>
      decide ("paid at noon".toList <:+: last.text.toList)) = some false := by decide +kernel
  cases hedits : overlapped.editsOf (some "-100", 7) with
  | nil =>
      rw [hedits] at hsupplements
      cases hsupplements
  | cons last earlier =>
      rw [hedits, List.map_cons] at hsupplements
      rw [hedits, List.head?_cons, Option.map_some, Option.some_inj, decide_eq_false_iff_not]
        at hlost
      have hfirst : "paid at noon" ∈ earlier.map (·.supplement) := by
        rw [(List.cons.inj hsupplements).2]
        exact List.mem_singleton_self _
      obtain ⟨edit, hmem, hedit⟩ := List.mem_map.mp hfirst
      have hshown := h _ last earlier hedits edit (List.mem_cons_of_mem _ hmem)
      rw [hedit] at hshown
      exact hlost hshown

/-- A single supplement. -/
def oneSupplement : List CardStep :=
  [.load (supplementTurn 1 "paid at noon"), .commit 0, .execute 1 none "t1"]

/-- Before its command is executed. -/
def supplementCommitted : CardWorld :=
  runSteps (CardWorld.after plainCards noTemplates) (cardStart cardedDatabase)
    [.load (supplementTurn 1 "paid at noon"), .commit 0]

theorem one_supplement_stays :
    KeepsSupplements (runSteps (CardWorld.after plainCards noTemplates)
      (cardStart cardedDatabase) oneSupplement) := by
  have hload : EveryStep (CarriesPresentCard plainCards) (CardWorld.after plainCards noTemplates)
      (cardStart cardedDatabase) [.load (supplementTurn 1 "paid at noon"), .commit 0] := by
    intro first step rest hsplit
    have hmem : step ∈ [CardStep.load (supplementTurn 1 "paid at noon"), .commit 0] :=
      hsplit ▸ List.mem_append_right _ List.mem_cons_self
    rcases List.mem_pair.mp hmem with rfl | rfl
    · trivial
    · trivial
  have hsupplement : ((supplementCommitted.db.appendCommand? 1).bind fun command =>
      (cardEdit plainCards command none "t1").toOption.map (·.supplement)) =
        some "paid at noon" := by decide +kernel
  have hedits : supplementCommitted.edits = [] := by rfl
  refine supplements_stay_on_card plainCards noTemplates cardedDatabase oneSupplement
    (everyStep_concat.mpr ⟨hload, ?_⟩) oneSupplement [] (List.append_nil _).symm
  intro command edit hcommand hedit
  change supplementCommitted.db.appendCommand? 1 = some command at hcommand
  rw [hcommand, Option.bind_some, hedit] at hsupplement
  constructor
  · intro last hlast
    change (supplementCommitted.editsOf edit.root).head? = some last at hlast
    rw [CardWorld.editsOf, hedits] at hlast
    cases hlast
  · have htext : edit.supplement = "paid at noon" := Option.some.inj hsupplement
    rw [htext]
    decide +kernel

end AiCustomerService
