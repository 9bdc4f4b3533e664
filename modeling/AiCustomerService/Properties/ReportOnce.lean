import AiCustomerService.Reporting.Runner
import Mathlib.Data.List.Induction

/-!
# A daily report is sent once

The row of the audit table claims a report before the document is sent, and later runs only ask
whether the row is there.  So the document is accepted at most once, but a run that claims the row
and fails before Telegram has accepted the document leaves every later run with a duplicate.
-/

namespace AiCustomerService

open Support

/-! ## Runs -/

/-- The audit table, and the targets whose document Telegram has accepted. -/
structure ReportWorld where
  table : ReportTable
  accepted : List ReportKey

/-- What becomes of the document: it is accepted and the answer arrives, it is accepted and the
answer is lost, or it is not accepted. -/
inductive Sending where
  | accepted (response : JsonObject)
  | unheard (error : ServiceError)
  | refused (error : ServiceError)

/-- Telegram has accepted the document. -/
def Sending.isAccepted : Sending → Bool
  | .refused _ => false
  | _ => true

/-- The answer that the run gets. -/
def Sending.answer : Sending → Except ServiceError JsonObject
  | .accepted response => .ok response
  | .unheard error => .error error
  | .refused error => .error error

/-- What goes well or wrong in a run. -/
structure ReportChoice where
  rendered : Except ServiceError Nat
  tableFault : Option (Fault ServiceError)
  startFault : Option (Fault ServiceError)
  sending : Sending
  sentFault : Option (Fault ServiceError)
  failedFault : Option (Fault ServiceError)

/-- Execute an operation. -/
def handleReportOp (choice : ReportChoice) : Prog.Handler reportOps ReportWorld
  | .renderReport, w => (choice.rendered, w)
  | .ensureTable, w => faulty choice.tableFault w (.ok (), w)
  | .startOnce target pdfPath, w =>
      let inserted := startOnce w.table target pdfPath
      faulty choice.startFault w (.ok inserted.2, { w with table := inserted.1 })
  | .sendDocument target _ _, w =>
      (choice.sending.answer,
        if choice.sending.isAccepted then { w with accepted := target.key :: w.accepted } else w)
  | .markSent target telegramMessageId, w =>
      faulty choice.sentFault w
        (.ok (), { w with table := markReportSent w.table target telegramMessageId })
  | .markFailed target errorMessage, w =>
      faulty choice.failedFault w
        (.ok (), { w with table := markReportFailed w.table target errorMessage })

/-- A run with `--send`. -/
structure ReportRun where
  runtime : Runtime
  botToken : String
  pdfPath : String
  dateLabel : String
  choice : ReportChoice

namespace ReportRun

variable (run : ReportRun) (target : ReportTarget)

/-- What the run answers, and the world that it leaves. -/
def outcome (w : ReportWorld) : Except ServiceError ReportResult × ReportWorld :=
  (runReport ⟨run.runtime, true, run.botToken, run.pdfPath, run.dateLabel⟩ target).exec
    (handleReportOp run.choice) w

/-- The run comes as far as the statement that claims the report. -/
def comesToClaim : Bool :=
  run.choice.rendered.isOk && target.targetChatId ≠ "" && run.botToken ≠ "" &&
    run.choice.tableFault.isNone

/-- The statement takes effect. -/
def claims : Bool := run.comesToClaim target && run.choice.startFault.all Fault.applied

/-- The statement answers whether the row is new. -/
def asks : Bool := run.comesToClaim target && run.choice.startFault.isNone

/-- The document is accepted, if the row is new. -/
def delivers : Bool := run.asks target && run.choice.sending.isAccepted

/-- The run reports that the document has been sent before. -/
def ReportsDuplicate (w : ReportWorld) : Prop :=
  ∃ result, (run.outcome target w).1 = .ok result ∧ result.duplicate = true

end ReportRun

/-- The world after some runs. -/
def runReports (target : ReportTarget) (w : ReportWorld) (runs : List ReportRun) : ReportWorld :=
  runs.foldl (fun w run => (run.outcome target w).2) w

/-- Nothing has been recorded or accepted for the target yet. -/
def ReportWorld.Untouched (w : ReportWorld) (target : ReportTarget) : Prop :=
  ¬w.table.hasKey target.key ∧ target.key ∉ w.accepted

/-! ## One run -/

variable {run : ReportRun} {target : ReportTarget} {w : ReportWorld}

@[simp]
theorem hasKey_updateReportStatus (table : ReportTable) (status : ReportStatus)
    (telegramMessageId : Json) (errorMessage : Option String) (key : ReportKey) :
    (updateReportStatus table target status telegramMessageId errorMessage).hasKey key ↔
      table.hasKey key :=
  Iff.of_eq (congrArg (key ∈ ·) (Table.map_key_update _ _ _ fun _ => rfl))

theorem hasKey_startOnce (table : ReportTable) (pdfPath : String) :
    (startOnce table target pdfPath).1.hasKey target.key := by
  unfold startOnce
  rw [Table.hasKey_insertIdempotent]
  exact .inr rfl

theorem startOnce_snd (table : ReportTable) (pdfPath : String) :
    (startOnce table target pdfPath).2 = true ↔ ¬table.hasKey target.key :=
  Table.insertIdempotent_inserted_iff _ _

/-- The same keys are taken, and the same documents have been accepted. -/
def SameClaims (w w' : ReportWorld) : Prop :=
  (∀ key, w'.table.hasKey key ↔ w.table.hasKey key) ∧ w'.accepted = w.accepted

theorem SameClaims.refl (w : ReportWorld) : SameClaims w w := ⟨fun _ => Iff.rfl, rfl⟩

theorem SameClaims.trans {w w' w'' : ReportWorld} (h : SameClaims w w')
    (h' : SameClaims w' w'') : SameClaims w w'' :=
  ⟨fun key => (h'.1 key).trans (h.1 key), h'.2.trans h.2⟩

theorem sameClaims_updateReportStatus (w : ReportWorld) (status : ReportStatus)
    (telegramMessageId : Json) (errorMessage : Option String) :
    SameClaims w { w with
      table := updateReportStatus w.table target status telegramMessageId errorMessage } :=
  ⟨hasKey_updateReportStatus _ _ _ _, rfl⟩

theorem SameClaims.faulty {w w' : ReportWorld} {α : Type} (fault : Option (Fault ServiceError))
    (outcome : Except ServiceError α) (h : SameClaims w w') :
    SameClaims w (faulty fault w (outcome, w')).2 := by
  rw [faulty_world]
  split
  · exact h
  · exact .refl w

/-- The two writers of the status leave the claims as they are. -/
theorem sameClaims_markSent (choice : ReportChoice) (telegramMessageId : Json) (w : ReportWorld) :
    SameClaims w (handleReportOp choice (.markSent target telegramMessageId) w).2 :=
  (sameClaims_updateReportStatus w .sent telegramMessageId none).faulty _ _

theorem sameClaims_markFailed (choice : ReportChoice) (errorMessage : String) (w : ReportWorld) :
    SameClaims w (handleReportOp choice (.markFailed target errorMessage) w).2 :=
  (sameClaims_updateReportStatus w .failed .null _).faulty _ _

/-- The document has been accepted, or not, and nothing else has been claimed. -/
def ReportWorld.afterSending (w : ReportWorld) (target : ReportTarget) (sending : Sending) :
    ReportWorld :=
  if sending.isAccepted then { w with accepted := target.key :: w.accepted } else w

theorem exec_failReport (settings : ReportSettings) (choice : ReportChoice) (w : ReportWorld)
    (exc : ServiceError) :
    SameClaims w ((failReport settings target exc).exec (handleReportOp choice) w).2 ∧
      ∃ e, ((failReport settings target exc).exec (handleReportOp choice) w).1 = .error e := by
  have hsame := @sameClaims_markFailed target choice (exc.text settings.runtime) w
  rw [failReport, ReportOp.call, Prog.exec_perform_bind]
  generalize handleReportOp choice (.markFailed target (exc.text settings.runtime)) w = answered
    at hsame
  obtain ⟨answer, w'⟩ := answered
  cases answer with
  | ok done => exact ⟨hsame, exc, rfl⟩
  | error e => exact ⟨hsame, e, rfl⟩

theorem exec_sendReport (settings : ReportSettings) (threads : Nat) (choice : ReportChoice)
    (w : ReportWorld) :
    SameClaims (w.afterSending target choice.sending)
        ((sendReport settings target threads).exec (handleReportOp choice) w).2 ∧
      ∀ result, ((sendReport settings target threads).exec (handleReportOp choice) w).1 =
        .ok result → result.duplicate = false := by
  have hsent : (handleReportOp choice (.sendDocument target settings.pdfPath
      (reportCaption settings.dateLabel threads)) w) =
        (choice.sending.answer, w.afterSending target choice.sending) := rfl
  rw [sendReport, ReportOp.call, Prog.exec_perform_bind, hsent]
  cases choice.sending.answer with
  | error e => exact ⟨.refl _, fun result h => by cases h⟩
  | ok response =>
      dsimp only
      cases reportMessageId response with
      | error e => exact ⟨.refl _, fun result h => by cases h⟩
      | ok telegramMessageId =>
          have hsame := @sameClaims_markSent target choice telegramMessageId
            (w.afterSending target choice.sending)
          rw [Except.mapError, Prog.ofExcept, Prog.bind_ret, ReportOp.call,
            Prog.exec_perform_bind]
          generalize handleReportOp choice (.markSent target telegramMessageId)
            (w.afterSending target choice.sending) = marked at hsame
          obtain ⟨answer, w'⟩ := marked
          cases answer with
          | error e => exact ⟨hsame, fun result h => by cases h⟩
          | ok done =>
              refine ⟨hsame, fun result h => ?_⟩
              cases h
              rfl

/-- Once the row has been claimed, the run sends the document and updates the status of the row,
and it reports no duplicate. -/
theorem exec_deliver (settings : ReportSettings) (threads : Nat) (choice : ReportChoice)
    (w : ReportWorld) :
    SameClaims (w.afterSending target choice.sending)
        (((sendReport settings target threads).tryCatch (failReport settings target)).exec
          (handleReportOp choice) w).2 ∧
      ∀ result, (((sendReport settings target threads).tryCatch
          (failReport settings target)).exec (handleReportOp choice) w).1 = .ok result →
        result.duplicate = false := by
  have hsend := @exec_sendReport target settings threads choice w
  rw [Prog.exec_tryCatch]
  generalize (sendReport settings target threads).exec (handleReportOp choice) w = sent at hsend
  obtain ⟨answer, w'⟩ := sent
  cases answer with
  | ok result => exact hsend
  | error exc =>
      obtain ⟨hsame, e, herror⟩ := @exec_failReport target settings choice w' exc
      refine ⟨hsend.1.trans hsame, fun result hresult => ?_⟩
      have hreturned := herror.symm.trans hresult
      cases hreturned

/-- What a run does, by how far it comes: it claims the row unless it fails before, it sends the
document when the row is new, and it reports a duplicate when the row is not. -/
structure ReportRun.Does (run : ReportRun) (target : ReportTarget) (w w' : ReportWorld)
    (duplicate : Prop) : Prop where
  hasKey : w'.table.hasKey target.key ↔ w.table.hasKey target.key ∨ run.claims target = true
  accepted : w'.accepted =
    if run.delivers target = true ∧ ¬w.table.hasKey target.key then target.key :: w.accepted
    else w.accepted
  duplicate : duplicate ↔ run.asks target = true ∧ w.table.hasKey target.key

/-- A run that fails before the claim. -/
theorem ReportRun.Does.of_not_comesToClaim (h : run.comesToClaim target = false) {duplicate : Prop}
    (hduplicate : ¬duplicate) : run.Does target w w duplicate where
  hasKey := by simp [ReportRun.claims, h]
  accepted := by simp [ReportRun.delivers, ReportRun.asks, h]
  duplicate := by simp [ReportRun.asks, h, hduplicate]

/-- A run whose claim raises. -/
theorem ReportRun.Does.of_startFault {fault : Fault ServiceError}
    (h : run.comesToClaim target = true) (hfault : run.choice.startFault = some fault)
    {duplicate : Prop} (hduplicate : ¬duplicate) (pdfPath : String) :
    run.Does target w
      (if fault.applied then { w with table := (startOnce w.table target pdfPath).1 } else w)
      duplicate where
  hasKey := by
    by_cases happlied : fault.applied = true
    · simp [ReportRun.claims, h, hfault, happlied, hasKey_startOnce]
    · simp [ReportRun.claims, h, hfault, happlied]
  accepted := by
    have hsame : ∀ b : Bool, (if b then { w with table := (startOnce w.table target pdfPath).1 }
        else w).accepted = w.accepted := by
      intro b
      cases b with
      | true => rfl
      | false => rfl
    simp [ReportRun.delivers, ReportRun.asks, hfault, hsame]
  duplicate := by simp [ReportRun.asks, hfault, hduplicate]

/-- A run that finds the row. -/
theorem ReportRun.Does.of_found (h : run.comesToClaim target = true)
    (hfault : run.choice.startFault = none) (hrow : w.table.hasKey target.key) {duplicate : Prop}
    (hduplicate : duplicate) : run.Does target w w duplicate where
  hasKey := by simp [hrow]
  accepted := by simp [hrow]
  duplicate := by simp [ReportRun.asks, h, hfault, hduplicate, hrow]

/-- A run that claims the row and goes on to send the document. -/
theorem ReportRun.Does.of_sent {w' : ReportWorld} (h : run.comesToClaim target = true)
    (hfault : run.choice.startFault = none) (hrow : ¬w.table.hasKey target.key)
    {duplicate : Prop} (hduplicate : ¬duplicate) {pdfPath : String}
    (hsame : SameClaims
      (({ w with table := (startOnce w.table target pdfPath).1 } : ReportWorld).afterSending
        target run.choice.sending) w') :
    run.Does target w w' duplicate where
  hasKey := by
    rw [hsame.1]
    have hkey : (({ w with table := (startOnce w.table target pdfPath).1 } :
        ReportWorld).afterSending target run.choice.sending).table.hasKey target.key := by
      unfold ReportWorld.afterSending
      split
      · exact hasKey_startOnce _ _
      · exact hasKey_startOnce _ _
    simp [ReportRun.claims, h, hfault, hkey]
  accepted := by
    rw [hsame.2]
    unfold ReportWorld.afterSending
    by_cases haccepted : run.choice.sending.isAccepted = true
    · simp [ReportRun.delivers, ReportRun.asks, h, hfault, hrow, haccepted]
    · simp [ReportRun.delivers, haccepted]
  duplicate := by simp [hduplicate, hrow]

/-- An error is no report of a duplicate. -/
theorem not_duplicate_of_error {answer : Except ServiceError ReportResult}
    (h : ∃ e, answer = .error e) :
    ¬∃ result, answer = .ok result ∧ result.duplicate = true := by
  rintro ⟨result, hresult, -⟩
  obtain ⟨e, he⟩ := h
  cases he.symm.trans hresult

theorem ReportRun.does_outcome (run : ReportRun) (target : ReportTarget) (w : ReportWorld) :
    run.Does target w (run.outcome target w).2 (run.ReportsDuplicate target w) := by
  unfold ReportRun.ReportsDuplicate ReportRun.outcome runReport
  have hrender : handleReportOp run.choice .renderReport w = (run.choice.rendered, w) := rfl
  rw [ReportOp.call, Prog.exec_perform_bind, hrender]
  cases hrendered : run.choice.rendered with
  | error e =>
      exact .of_not_comesToClaim (by simp [ReportRun.comesToClaim, hrendered, Except.isOk,
        Except.toBool]) (not_duplicate_of_error ⟨e, rfl⟩)
  | ok threads =>
      simp only [Bool.not_true, Bool.false_eq_true, if_false]
      by_cases hchat : target.targetChatId = ""
      · rw [if_pos hchat]
        exact .of_not_comesToClaim (by simp [ReportRun.comesToClaim, hchat])
          (not_duplicate_of_error ⟨_, rfl⟩)
      rw [if_neg hchat]
      by_cases htoken : run.botToken = ""
      · rw [if_pos htoken]
        exact .of_not_comesToClaim (by simp [ReportRun.comesToClaim, htoken])
          (not_duplicate_of_error ⟨_, rfl⟩)
      rw [if_neg htoken]
      have htable : handleReportOp run.choice .ensureTable w =
          faulty run.choice.tableFault w (.ok (), w) := rfl
      rw [ReportOp.call, Prog.exec_perform_bind, htable]
      cases hfault : run.choice.tableFault with
      | some fault =>
          have hsame : (faulty (some fault) w (Except.ok (), w)) = (.error fault.error, w) := by
            simp [faulty]
          rw [hsame]
          exact .of_not_comesToClaim (by simp [ReportRun.comesToClaim, hfault])
            (not_duplicate_of_error ⟨_, rfl⟩)
      | none =>
          have hcomes : run.comesToClaim target = true := by
            simp [ReportRun.comesToClaim, hrendered, Except.isOk, Except.toBool, hchat, htoken,
              hfault]
          have hstart : handleReportOp run.choice (.startOnce target run.pdfPath) w =
              faulty run.choice.startFault w (.ok (startOnce w.table target run.pdfPath).2,
                { w with table := (startOnce w.table target run.pdfPath).1 }) := rfl
          simp only [faulty]
          rw [ReportOp.call, Prog.exec_perform_bind, hstart]
          cases hraises : run.choice.startFault with
          | some fault =>
              exact .of_startFault hcomes hraises (not_duplicate_of_error ⟨_, rfl⟩) run.pdfPath
          | none =>
              dsimp only
              by_cases hrow : w.table.hasKey target.key
              · have hfound : startOnce w.table target run.pdfPath = (w.table, false) :=
                  Table.insertIdempotent_of_hasKey hrow
                rw [hfound]
                exact .of_found hcomes hraises hrow ⟨_, rfl, rfl⟩
              · have hnew : (startOnce w.table target run.pdfPath).2 = true :=
                  (startOnce_snd _ _).mpr hrow
                have hdeliver := @exec_deliver target
                  ⟨run.runtime, true, run.botToken, run.pdfPath, run.dateLabel⟩ threads run.choice
                  { w with table := (startOnce w.table target run.pdfPath).1 }
                simp only [hnew]
                refine .of_sent hcomes hraises hrow ?_ hdeliver.1
                rintro ⟨result, hresult, hduplicate⟩
                exact absurd hduplicate (by simp [hdeliver.2 result hresult])

/-! ## Several runs -/

/-- Every run that finds the row of the report reports a duplicate only after Telegram has
accepted the document, which happens at most once. -/
def SentOnceAndRetried (target : ReportTarget) (w : ReportWorld) (runs : List ReportRun) : Prop :=
  (runReports target w runs).accepted.count target.key ≤ 1 ∧
    ∀ before run after, runs = before ++ run :: after →
      run.ReportsDuplicate target (runReports target w before) →
        target.key ∈ (runReports target w before).accepted

theorem runReports_concat (target : ReportTarget) (w : ReportWorld) (runs : List ReportRun)
    (run : ReportRun) :
    runReports target w (runs ++ [run]) = (run.outcome target (runReports target w runs)).2 := by
  simp [runReports]

/-- The first run that claims the row. -/
def firstClaim? (target : ReportTarget) (runs : List ReportRun) : Option ReportRun :=
  runs.find? (ReportRun.claims · target)

/-- Whenever a run asks whether the row is new, the first run that has claimed it, if any, has
delivered the document. -/
def FirstClaimDelivered (target : ReportTarget) (runs : List ReportRun) : Prop :=
  ∀ before run after, runs = before ++ run :: after → run.asks target = true →
    ∀ first, firstClaim? target before = some first →
      first.delivers target = true

theorem firstClaim?_concat (target : ReportTarget) (runs : List ReportRun) (run : ReportRun) :
    firstClaim? target (runs ++ [run]) =
      (firstClaim? target runs).or (if run.claims target then some run else none) := by
  unfold firstClaim?
  rw [List.find?_append, List.find?_singleton]

/-- The row is there once a run has claimed it. -/
theorem hasKey_runReports (hstart : w.Untouched target) (runs : List ReportRun) :
    (runReports target w runs).table.hasKey target.key ↔
      (firstClaim? target runs).isSome = true := by
  induction runs using List.reverseRecOn with
  | nil => simp [runReports, firstClaim?, hstart.1]
  | append_singleton runs run ih =>
      rw [runReports_concat, (run.does_outcome target _).hasKey, ih, firstClaim?_concat]
      cases firstClaim? target runs with
      | some first => simp
      | none =>
          cases run.claims target with
          | true => simp
          | false => simp

theorem ReportRun.claims_of_delivers (h : run.delivers target = true) :
    run.claims target = true := by
  simp only [ReportRun.delivers, ReportRun.asks, ReportRun.claims, Bool.and_eq_true,
    Option.isNone_iff_eq_none] at h ⊢
  exact ⟨h.1.1, by simp [h.1.2]⟩

/-- The document has been accepted when the first run that claimed the row delivered it, and
then only once. -/
theorem count_accepted_runReports (hstart : w.Untouched target) (runs : List ReportRun) :
    (runReports target w runs).accepted.count target.key =
      ((firstClaim? target runs).any (ReportRun.delivers · target)).toNat := by
  induction runs using List.reverseRecOn with
  | nil => simpa [runReports, firstClaim?, List.count_eq_zero] using hstart.2
  | append_singleton runs run ih =>
      have hrow := hasKey_runReports hstart runs
      rw [runReports_concat, (run.does_outcome target _).accepted, firstClaim?_concat]
      cases hclaimed : firstClaim? target runs with
      | some first =>
          rw [hclaimed] at ih hrow
          simpa [hrow] using ih
      | none =>
          rw [hclaimed] at ih hrow
          by_cases hdelivers : run.delivers target = true
          · rw [if_pos ⟨hdelivers, by simp [hrow]⟩]
            simp only [Option.any_none, Bool.toNat_false] at ih
            simp [hdelivers, ReportRun.claims_of_delivers hdelivers, ih]
          · rw [if_neg fun h => hdelivers h.1]
            cases run.claims target with
            | true => simpa [hdelivers] using ih
            | false => simpa using ih

/-- The document is accepted at most once, and a report is a duplicate only of an accepted one,
exactly when the first run that claims the row delivers the document before another run asks. -/
theorem sent_once_and_retried_iff (hstart : w.Untouched target) (runs : List ReportRun) :
    SentOnceAndRetried target w runs ↔ FirstClaimDelivered target runs := by
  have hduplicate : ∀ (before : List ReportRun) (run : ReportRun),
      (run.ReportsDuplicate target (runReports target w before) →
          target.key ∈ (runReports target w before).accepted) ↔
        (run.asks target = true → ∀ first,
          firstClaim? target before = some first →
            first.delivers target = true) := by
    intro before run
    rw [(run.does_outcome target _).duplicate, hasKey_runReports hstart, ← List.count_pos_iff,
      count_accepted_runReports hstart]
    cases firstClaim? target before with
    | none => simp
    | some first =>
        cases hdelivers : first.delivers target with
        | true => simp [hdelivers]
        | false => simp [hdelivers]
  constructor
  · rintro ⟨-, hretried⟩ before run after hruns
    exact (hduplicate before run).mp (hretried before run after hruns)
  · intro hdelivered
    refine ⟨?_, fun before run after hruns => (hduplicate before run).mpr
      (hdelivered before run after hruns)⟩
    rw [count_accepted_runReports hstart]
    exact Bool.toNat_le _

/-- A report for the operations chat. -/
def dailyTarget : ReportTarget := ⟨"2026-07-01", "-100", none⟩

/-- A run in which everything goes well but, possibly, the sending. -/
def dailyRun (sending : Sending) : ReportRun where
  runtime := .plain
  botToken := "token"
  pdfPath := "report.pdf"
  dateLabel := "20260701-20260702"
  choice :=
    { rendered := .ok 3
      tableFault := none
      startFault := none
      sending
      sentFault := none
      failedFault := none }

/-- Telegram cannot be reached in the first run; the second one could send the document. -/
def refusedThenSent : List ReportRun :=
  [dailyRun (.refused (.telegramApi "timed out" none none none true)), dailyRun (.accepted ∅)]

theorem untouched_empty (target : ReportTarget) : (⟨∅, []⟩ : ReportWorld).Untouched target :=
  ⟨List.not_mem_nil, List.not_mem_nil⟩

/-- The second run reports a duplicate of a document that nobody has received. -/
theorem refused_report_is_duplicate :
    (⟨∅, []⟩ : ReportWorld).Untouched dailyTarget ∧
      ¬SentOnceAndRetried dailyTarget ⟨∅, []⟩ refusedThenSent := by
  refine ⟨untouched_empty dailyTarget, fun h => ?_⟩
  have hduplicate : (dailyRun (.accepted ∅)).ReportsDuplicate dailyTarget
      (runReports dailyTarget ⟨∅, []⟩
        [dailyRun (.refused (.telegramApi "timed out" none none none true))]) :=
    ⟨⟨3, false, true, .null⟩, rfl, rfl⟩
  have haccepted := h.2 [_] (dailyRun (.accepted ∅)) [] rfl hduplicate
  exact List.not_mem_nil haccepted

/-- Two runs, the first of which delivers the document. -/
theorem sent_once_and_retried_sent :
    (⟨∅, []⟩ : ReportWorld).Untouched dailyTarget ∧
      (SentOnceAndRetried dailyTarget ⟨∅, []⟩ [dailyRun (.accepted ∅), dailyRun (.accepted ∅)] ↔
        FirstClaimDelivered dailyTarget [dailyRun (.accepted ∅), dailyRun (.accepted ∅)]) :=
  ⟨untouched_empty dailyTarget, sent_once_and_retried_iff (untouched_empty dailyTarget) _⟩

end AiCustomerService
