import AiCustomerService.Domain.Events

/-!
# The history of a user message

An envelope that is returned has a history in order.  The times of the history are compared with
each other and with that of the message, and the comparison of a naive with an aware datetime is an
exception that no validation turns into a rejection.
-/

namespace AiCustomerService

open Support

/-! ## Times -/

section Times

variable {current : PyDatetime} {times : List PyDatetime} {e : PyError}

/-- The times that are compared are all naive or all aware: those of the history with each other,
and with that of the message if the history is in order. -/
structure TimesComparable (current : PyDatetime) (times : List PyDatetime) : Prop where
  history : OneKind PyDatetime.isAware times
  current : PyDatetime.InOrder times → ∀ time ∈ times, time.isAware = current.isAware

/-- Times of two kinds are an exception. -/
theorem checkSentTimes_of_mixed (h : ¬OneKind PyDatetime.isAware times) :
    checkSentTimes current times = .error PyDatetime.mixedComparison := by
  rw [checkSentTimes, sortChecked_error PyDatetime.comparesWithin_lt h]

/-- Times out of order are rejected. -/
theorem checkSentTimes_of_disorder (hone : OneKind PyDatetime.isAware times)
    (h : ¬PyDatetime.InOrder times) :
    checkSentTimes current times =
      .error (.valueError "history_snapshot must be ordered by sent_at ascending") := by
  obtain ⟨sorted, hsorted, -⟩ := sortChecked_ok PyDatetime.comparesWithin_lt hone
  have hdiffers : times.isEqv sorted PyDatetime.eq = false := by
    rw [← Bool.not_eq_true]
    exact fun hequal => h ((PyDatetime.isEqv_sorted_iff hone hsorted).mp hequal)
  unfold checkSentTimes
  rw [hsorted]
  exact if_pos hdiffers

/-- Times in order are compared with that of the message by the last of them. -/
theorem checkSentTimes_of_order (hone : OneKind PyDatetime.isAware times)
    (h : PyDatetime.InOrder times) :
    checkSentTimes current times =
      match times.getLast? with
      | none => .ok ()
      | some last =>
          match current.lt last with
          | .error e => .error e
          | .ok true =>
              .error (.valueError
                "history_snapshot must only contain messages before the current message")
          | .ok false => .ok () := by
  obtain ⟨sorted, hsorted, -⟩ := sortChecked_ok PyDatetime.comparesWithin_lt hone
  have hequal := (PyDatetime.isEqv_sorted_iff hone hsorted).mpr h
  unfold checkSentTimes
  rw [hsorted]
  exact if_neg (by rw [hequal]; decide)

/-- No time of a list in order is later than the last. -/
theorem instant_le_getLast (h : PyDatetime.InOrder times) {last time : PyDatetime}
    (hlast : times.getLast? = some last) (hmem : time ∈ times) : time.instant ≤ last.instant := by
  obtain ⟨before, rfl⟩ := List.getLast?_eq_some_iff.mp hlast
  rcases List.mem_append.mp hmem with hmem | hmem
  · exact (List.pairwise_append.mp h).2.2 time hmem last (List.mem_singleton_self last)
  · rw [List.mem_singleton.mp hmem]

/-- An exception that is not a rejection is raised exactly if times are compared that are not
comparable. -/
theorem checkSentTimes_raises_iff :
    (∃ e, checkSentTimes current times = .error e ∧ rejectionText? e = none) ↔
      ¬TimesComparable current times := by
  by_cases hone : OneKind PyDatetime.isAware times
  · by_cases horder : PyDatetime.InOrder times
    · rw [checkSentTimes_of_order hone horder]
      cases hlast : times.getLast? with
      | none =>
          obtain rfl := List.getLast?_eq_none_iff.mp hlast
          have hcomparable : TimesComparable current [] :=
            ⟨hone, fun _ time hmem => by cases hmem⟩
          simp [hcomparable]
      | some last =>
          have hmem := List.mem_of_getLast? hlast
          dsimp only
          by_cases hkind : current.isAware = last.isAware
          · have hcomparable : TimesComparable current times :=
              ⟨hone, fun _ time htime => (hone time htime last hmem).trans hkind.symm⟩
            rw [PyDatetime.comparesWithin_lt.comparable hkind]
            refine iff_of_false ?_ (not_not.mpr hcomparable)
            rintro ⟨e, herror, hpasses⟩
            by_cases hlater : current.instant < last.instant
            · rw [decide_eq_true hlater] at herror
              obtain rfl := Except.error.inj herror
              cases hpasses
            · rw [decide_eq_false hlater] at herror
              cases herror
          · rw [PyDatetime.comparesWithin_lt.incomparable hkind]
            refine iff_of_true ⟨_, rfl, rfl⟩ fun hcomparable => ?_
            exact hkind (hcomparable.current horder last hmem).symm
    · rw [checkSentTimes_of_disorder hone horder]
      refine iff_of_false ?_ (not_not.mpr ⟨hone, fun h => absurd h horder⟩)
      rintro ⟨e, herror, hpasses⟩
      obtain rfl := Except.error.inj herror
      cases hpasses
  · rw [checkSentTimes_of_mixed hone]
    exact iff_of_true ⟨_, rfl, rfl⟩ fun hcomparable => hone hcomparable.history

/-- Times that pass are in order, and none is later than that of the message. -/
theorem order_of_checkSentTimes (h : checkSentTimes current times = .ok ()) :
    (OneKind PyDatetime.isAware times ∧ PyDatetime.InOrder times) ∧
      ∀ time ∈ times, current.lt time = .ok false := by
  by_cases hone : OneKind PyDatetime.isAware times
  · by_cases horder : PyDatetime.InOrder times
    · refine ⟨⟨hone, horder⟩, fun time hmem => ?_⟩
      rw [checkSentTimes_of_order hone horder] at h
      cases hlast : times.getLast? with
      | none =>
          rw [List.getLast?_eq_none_iff.mp hlast] at hmem
          cases hmem
      | some last =>
          rw [hlast] at h
          dsimp only at h
          cases hlt : current.lt last with
          | error e =>
              rw [hlt] at h
              cases h
          | ok isLater =>
              cases isLater with
              | true =>
                  rw [hlt] at h
                  cases h
              | false =>
                  obtain ⟨hkind, hle⟩ := PyDatetime.lt_eq_false.mp hlt
                  have hsame := hone time hmem last (List.mem_of_getLast? hlast)
                  exact PyDatetime.lt_eq_false.mpr
                    ⟨hkind.trans hsame.symm, (instant_le_getLast horder hlast hmem).trans hle⟩
    · rw [checkSentTimes_of_disorder hone horder] at h
      cases h
  · rw [checkSentTimes_of_mixed hone] at h
    cases h

end Times

/-! ## Payloads -/

/-- A list has as many items as members exactly if none is there twice. -/
theorem pairwise_ne_iff_card {α β : Type} [DecidableEq β] (f : α → β) (items : List α) :
    items.Pairwise (fun a b => f a ≠ f b) ↔
      (items.map f).length = (items.map f).toFinset.card := by
  rw [eq_comm, ← List.pairwise_map (R := (· ≠ ·))]
  exact (Multiset.toFinset_card_eq_card_iff_nodup (m := Multiset.ofList (items.map f))).symm

namespace UserMessagePayload

variable {payload : UserMessagePayload}

/-- The times of the history. -/
def sentTimes (payload : UserMessagePayload) : List PyDatetime :=
  payload.historySnapshot.map HistoryMessage.sentAt

/-- The ids of the history differ from each other and from that of the message. -/
structure DistinctIds (payload : UserMessagePayload) : Prop where
  current : ∀ past ∈ payload.historySnapshot, past.messageId ≠ payload.message.messageId
  history : payload.historySnapshot.Pairwise fun a b => a.messageId ≠ b.messageId

/-- The history has distinct ids, is in order and has no message after the current one. -/
structure WellFormedHistory (payload : UserMessagePayload) : Prop where
  distinct : payload.DistinctIds
  ordered : payload.historySnapshot.Pairwise fun a b => b.sentAt.lt a.sentAt = .ok false
  notLater : ∀ past ∈ payload.historySnapshot, payload.message.sentAt.lt past.sentAt = .ok false

/-- Ids that are not distinct are rejected. -/
theorem validateHistorySnapshot_of_duplicate (h : ¬payload.DistinctIds) :
    ∃ message, validateHistorySnapshot payload = .error (.valueError message) := by
  unfold validateHistorySnapshot
  dsimp only
  split
  · exact ⟨_, rfl⟩
  · rename_i hcurrent
    have hlength : (payload.historySnapshot.map HistoryMessage.messageId).length ≠
        (payload.historySnapshot.map HistoryMessage.messageId).toFinset.card := by
      intro hlength
      refine h ⟨fun past hpast hid => hcurrent ?_, ?_⟩
      · rw [← hid]
        exact List.mem_map_of_mem hpast
      · exact (pairwise_ne_iff_card HistoryMessage.messageId _).mpr hlength
    rw [if_pos hlength]
    exact ⟨_, rfl⟩

/-- Distinct ids leave the times. -/
theorem validateHistorySnapshot_of_distinct (h : payload.DistinctIds) :
    validateHistorySnapshot payload =
      checkSentTimes payload.message.sentAt payload.sentTimes := by
  have hcurrent :
      payload.message.messageId ∉ payload.historySnapshot.map HistoryMessage.messageId := by
    intro hmem
    obtain ⟨past, hpast, hid⟩ := List.mem_map.mp hmem
    exact h.current past hpast hid
  have hlength := (pairwise_ne_iff_card HistoryMessage.messageId _).mp h.history
  unfold validateHistorySnapshot
  dsimp only
  rw [if_neg hcurrent, if_neg (not_not.mpr hlength)]
  rfl

/-- A payload whose times cannot be compared raises what is not a rejection. -/
theorem validateHistorySnapshot_raises_iff :
    (∃ e, validateHistorySnapshot payload = .error e ∧ rejectionText? e = none) ↔
      payload.DistinctIds ∧ ¬TimesComparable payload.message.sentAt payload.sentTimes := by
  by_cases hdistinct : payload.DistinctIds
  · rw [validateHistorySnapshot_of_distinct hdistinct, checkSentTimes_raises_iff]
    exact (and_iff_right hdistinct).symm
  · obtain ⟨message, hrejected⟩ := validateHistorySnapshot_of_duplicate hdistinct
    refine iff_of_false ?_ fun h => hdistinct h.1
    rintro ⟨e, herror, hpasses⟩
    obtain rfl := Except.error.inj (hrejected.symm.trans herror)
    cases hpasses

/-- A payload that passes has a well-formed history. -/
theorem wellFormedHistory_of_validate (h : validateHistorySnapshot payload = .ok ()) :
    payload.WellFormedHistory := by
  by_cases hdistinct : payload.DistinctIds
  · rw [validateHistorySnapshot_of_distinct hdistinct] at h
    obtain ⟨⟨hone, horder⟩, hlast⟩ := order_of_checkSentTimes h
    refine ⟨hdistinct, ?_, ?_⟩
    · refine (List.pairwise_map.mp horder).imp_of_mem fun {a b} ha hb hle => ?_
      have hkind := hone b.sentAt (List.mem_map_of_mem hb) a.sentAt (List.mem_map_of_mem ha)
      exact PyDatetime.lt_eq_false.mpr ⟨hkind, hle⟩
    · exact fun past hpast => hlast past.sentAt (List.mem_map_of_mem hpast)
  · obtain ⟨message, hrejected⟩ := validateHistorySnapshot_of_duplicate hdistinct
    rw [hrejected] at h
    cases h

end UserMessagePayload

/-! ## Envelopes -/

section Envelopes

variable {Value : Type} {py : Pydantic Value} {value : Value} {e : PyError}

/-- The value is an event of type `UserMessage` whose payload has these fields. -/
def CarriesMessage (py : Pydantic Value) (value : Value) (payload : UserMessagePayload) : Prop :=
  ∃ fields data, py.mapping value = .ok fields ∧
    (fields.get? "event_type").bind py.literal = some "UserMessage" ∧
    fields.get? "payload" = some data ∧ py.userMessageFields data = .valid payload

/-- What the check of the current message raises is a rejection. -/
theorem validateCurrentMessage_rejects {event : UserMessageEvent}
    (h : validateCurrentMessage event = .error e) : rejectionText? e ≠ none := by
  unfold validateCurrentMessage at h
  split at h
  · obtain rfl := Except.error.inj h
    exact Option.some_ne_none _
  · split at h
    · obtain rfl := Except.error.inj h
      exact Option.some_ne_none _
    · cases h

/-- A payload raises what the check of its history raises. -/
theorem userMessagePayload_eq_raised :
    py.userMessagePayload value = .raised e ↔
      ∃ payload, py.userMessageFields value = .valid payload ∧
        validateHistorySnapshot payload = .error e ∧ rejectionText? e = none := by
  have hquiet : (py.userMessageFields value).raised? = none :=
    Pydantic.quiet_userMessageFields value
  rw [Pydantic.userMessagePayload, ← Validated.raised?_eq_some, Validated.raised?_after, hquiet]
  exact or_iff_right (Option.some_ne_none e).symm

/-- The record of a message raises what its payload raises. -/
theorem userMessageEvent_eq_raised :
    py.userMessageEvent value = .raised e ↔
      ∃ fields data, py.mapping value = .ok fields ∧ fields.get? "payload" = some data ∧
        py.userMessagePayload data = .raised e := by
  have hcurrent : ¬∃ event, py.event "UserMessage" py.userMessagePayload value = .valid event ∧
      validateCurrentMessage event = .error e ∧ rejectionText? e = none := by
    rintro ⟨event, -, herror, hpasses⟩
    exact validateCurrentMessage_rejects herror hpasses
  rw [Pydantic.userMessageEvent, ← Validated.raised?_eq_some, Validated.raised?_after,
    or_iff_left hcurrent, Validated.raised?_eq_some, Pydantic.event, model_eq_raised]
  simp only [Validated.seq_eq_raised (Pydantic.quiet_baseFields _ _), requiredField_eq_raised,
    exists_and_left]

/-- A record of another type raises nothing and is not returned as a message. -/
theorem event_of_other {Payload : Type} {payload : Value → Validated PyError Payload}
    {wrap : Event Payload → EventEnvelope Value}
    (hwrap : ∀ event message, wrap event ≠ .userMessage message)
    (hquiet : ∀ value, (payload value).Quiet) (eventType : String) :
    (wrap <$> py.event eventType payload value).Quiet ∧
      ∀ message, wrap <$> py.event eventType payload value ≠ .valid (.userMessage message) := by
  refine ⟨(Pydantic.quiet_event hquiet eventType value).map _, fun message h => ?_⟩
  obtain ⟨event, -, hsame⟩ := Validated.map_eq_valid.mp h
  exact hwrap event message hsame

/-- What a type names: the record of a message, or one that raises nothing and is not returned as a
message. -/
theorem member_cases {eventType : String} {result : Validated PyError (EventEnvelope Value)}
    (h : py.member value eventType = some result) :
    (eventType = "UserMessage" ∧ result = .userMessage <$> py.userMessageEvent value) ∨
      (result.Quiet ∧ ∀ message, result ≠ .valid (.userMessage message)) := by
  unfold Pydantic.member at h
  split at h
  · exact .inl ⟨rfl, (Option.some.inj h).symm⟩
  · obtain rfl := Option.some.inj h
    exact .inr (event_of_other (fun _ _ h => by cases h)
      Pydantic.quiet_controlDirectiveResultPayload _)
  · obtain rfl := Option.some.inj h
    exact .inr (event_of_other (fun _ _ h => by cases h)
      Pydantic.quiet_conversationStatusUpdatePayload _)
  · obtain rfl := Option.some.inj h
    exact .inr (event_of_other (fun _ _ h => by cases h) Pydantic.quiet_assistantMessagePayload _)
  · obtain rfl := Option.some.inj h
    exact .inr (event_of_other (fun _ _ h => by cases h) Pydantic.quiet_controlDirective _)
  · obtain rfl := Option.some.inj h
    exact .inr (event_of_other (fun _ _ h => by cases h) Pydantic.quiet_serviceErrorPayload _)
  · obtain rfl := Option.some.inj h
    exact .inr (event_of_other (fun _ _ h => by cases h)
      Pydantic.quiet_capabilityResultEventPayload _)
  · obtain rfl := Option.some.inj h
    exact .inr (event_of_other (fun _ _ h => by cases h)
      Pydantic.quiet_capabilityPendingDueEventPayload _)
  · obtain rfl := Option.some.inj h
    exact .inr (event_of_other (fun _ _ h => by cases h)
      Pydantic.quiet_resumeDeferredMessagesEventPayload _)
  · cases h

/-- What is no rejection is the result of the record that the type names. -/
theorem validateEventEnvelope_eq_iff {r : Validated PyError (EventEnvelope Value)}
    (hr : ∀ first rest, .invalid first rest ≠ r) :
    py.validateEventEnvelope value = r ↔
      ∃ fields eventType result, py.mapping value = .ok fields ∧
        (fields.get? "event_type").bind py.literal = some eventType ∧
        py.member value eventType = some result ∧ result.within (.key eventType) = r := by
  unfold Pydantic.validateEventEnvelope
  cases hfields : py.mapping value with
  | error type =>
      refine iff_of_false (hr _ _) ?_
      rintro ⟨fields, _, _, hread, -⟩
      cases hread
  | ok fields =>
      constructor
      · intro h
        dsimp only [ofRead, Validated.andThen] at h
        split at h
        · exact absurd h (hr _ _)
        · rename_i tag htag
          split at h
          · exact absurd h (hr _ _)
          · rename_i eventType htype
            split at h
            · exact absurd h (hr _ _)
            · rename_i result hresult
              exact ⟨fields, eventType, result, rfl, by rw [htag, Option.bind_some, htype],
                hresult, h⟩
      · rintro ⟨others, eventType, result, hread, htype, hresult, h⟩
        obtain rfl := Except.ok.inj hread
        obtain ⟨tag, htag, htype⟩ := Option.bind_eq_some_iff.mp htype
        dsimp only [ofRead, Validated.andThen]
        rw [htag]
        dsimp only
        rw [htype]
        dsimp only
        rw [hresult]
        exact h

/-- An exception passes through exactly where the check of a history raises it. -/
theorem validateEventEnvelope_eq_raised :
    py.validateEventEnvelope value = .raised e ↔
      ∃ payload, CarriesMessage py value payload ∧
        validateHistorySnapshot payload = .error e ∧ rejectionText? e = none := by
  rw [validateEventEnvelope_eq_iff fun _ _ h => by cases h]
  constructor
  · rintro ⟨fields, eventType, result, hfields, htype, hresult, h⟩
    rw [Validated.within_eq_raised] at h
    rcases member_cases hresult with ⟨rfl, rfl⟩ | ⟨hquiet, -⟩
    · obtain ⟨fields', data, hfields', hdata, hraised⟩ :=
        userMessageEvent_eq_raised.mp (Validated.map_eq_raised.mp h)
      obtain rfl := Except.ok.inj (hfields.symm.trans hfields')
      obtain ⟨payload, hpayload, herror⟩ := userMessagePayload_eq_raised.mp hraised
      exact ⟨payload, ⟨fields, data, hfields, htype, hdata, hpayload⟩, herror⟩
    · exact absurd h (hquiet.ne_raised e)
  · rintro ⟨payload, ⟨fields, data, hfields, htype, hdata, hpayload⟩, herror⟩
    refine ⟨fields, "UserMessage", _, hfields, htype, rfl, ?_⟩
    rw [Validated.within_eq_raised, Validated.map_eq_raised]
    exact userMessageEvent_eq_raised.mpr
      ⟨fields, data, hfields, hdata, userMessagePayload_eq_raised.mpr ⟨payload, hpayload, herror⟩⟩

/-- The fields of the envelope take the payload as it is. -/
theorem payload_of_baseFields {Payload : Type} {eventType : String} {fields : Dict String Value}
    {build : Payload → Event Payload} (h : py.baseFields eventType fields = .valid build)
    (payload : Payload) : (build payload).payload = payload := by
  obtain ⟨_, _, hnumbered, -, rfl⟩ := Validated.seq_eq_valid.mp h
  obtain ⟨_, _, hconversation, -, rfl⟩ := Validated.seq_eq_valid.mp hnumbered
  obtain ⟨_, _, hagent, -, rfl⟩ := Validated.seq_eq_valid.mp hconversation
  obtain ⟨_, _, htenant, -, rfl⟩ := Validated.seq_eq_valid.mp hagent
  obtain ⟨_, _, htyped, -, rfl⟩ := Validated.seq_eq_valid.mp htenant
  obtain ⟨_, _, hnamed, -, rfl⟩ := Validated.seq_eq_valid.mp htyped
  obtain ⟨_, -, rfl⟩ := Validated.map_eq_valid.mp hnamed
  rfl

/-- The record of a message has a payload that passed. -/
theorem payload_of_userMessageEvent {event : UserMessageEvent}
    (h : py.userMessageEvent value = .valid event) :
    ∃ data, py.userMessagePayload data = .valid event.payload := by
  obtain ⟨hevent, -⟩ := Validated.after_eq_valid.mp h
  obtain ⟨fields, -, hevent⟩ := fields_of_model hevent
  obtain ⟨build, payload, hbuild, hpayload, rfl⟩ := Validated.seq_eq_valid.mp hevent
  obtain ⟨data, -, hpayload⟩ := requiredField_eq_valid.mp hpayload
  exact ⟨data, by rw [payload_of_baseFields hbuild, hpayload]⟩

/-- A message that is returned has passed the check of its history. -/
theorem historySnapshot_of_validate {event : UserMessageEvent}
    (h : py.validateEventEnvelope value = .valid (.userMessage event)) :
    validateHistorySnapshot event.payload = .ok () := by
  obtain ⟨fields, eventType, result, -, -, hresult, h⟩ :=
    (validateEventEnvelope_eq_iff fun _ _ h => by cases h).mp h
  rw [Validated.within_eq_valid] at h
  rcases member_cases hresult with ⟨-, rfl⟩ | ⟨-, hother⟩
  · obtain ⟨message, hmessage, hsame⟩ := Validated.map_eq_valid.mp h
    obtain rfl := EventEnvelope.userMessage.inj hsame
    obtain ⟨data, hdata⟩ := payload_of_userMessageEvent hmessage
    exact (Validated.after_eq_valid.mp hdata).2
  · exact absurd h (hother event)

/-- Every value is returned as an envelope or rejected, and a message that is returned has a
well-formed history. -/
structure ContractHolds (py : Pydantic Value) (value : Value) : Prop where
  rejects : ∀ e, py.validateEventEnvelope value ≠ .raised e
  accepted : ∀ event, py.validateEventEnvelope value = .valid (.userMessage event) →
    event.payload.WellFormedHistory

/-- The contract holds of a value exactly if it carries no message whose ids are distinct and whose
times cannot be compared. -/
theorem contractHolds_iff (py : Pydantic Value) (value : Value) :
    ContractHolds py value ↔
      ∀ payload, CarriesMessage py value payload → payload.DistinctIds →
        TimesComparable payload.message.sentAt payload.sentTimes := by
  constructor
  · intro h payload hcarries hdistinct
    by_contra hmixed
    obtain ⟨e, herror⟩ := UserMessagePayload.validateHistorySnapshot_raises_iff.mpr
      ⟨hdistinct, hmixed⟩
    exact h.rejects e (validateEventEnvelope_eq_raised.mpr ⟨payload, hcarries, herror⟩)
  · refine fun h => ⟨fun e hraised => ?_, fun event hvalid => ?_⟩
    · obtain ⟨payload, hcarries, herror⟩ := validateEventEnvelope_eq_raised.mp hraised
      obtain ⟨hdistinct, hmixed⟩ :=
        UserMessagePayload.validateHistorySnapshot_raises_iff.mp ⟨e, herror⟩
      exact hmixed (h payload hcarries hdistinct)
    · exact UserMessagePayload.wellFormedHistory_of_validate (historySnapshot_of_validate hvalid)

end Envelopes

/-- A text message. -/
def textMessage (messageId role sentAt : String) : Json :=
  .obj (.ofList
    [("message_id", .str messageId), ("sender_role", .str role),
      ("content_part", .obj (.ofList [("content_type", .str "text"), ("content", .str "hello")])),
      ("sent_at", .str sentAt)])

/-- A message of noon in UTC, with some history. -/
def noonMessage (history : List Json) : Json :=
  .obj (.ofList
    [("event_id", .str "evt-user-1"), ("event_type", .str "UserMessage"),
      ("tenant_id", .str "tenant-1"), ("agent_id", .str "agent-1"),
      ("conversation_id", .str "conversation-1"), ("conversation_sequence", .int 1),
      ("occurred_at", .str "2026-07-17T12:00:00Z"),
      ("payload", .obj (.ofList
        [("message", textMessage "message-1" "customer" "2026-07-17T12:00:00Z"),
          ("history_snapshot", .arr history)]))])

/-- An answer of eleven o'clock without an offset ends the validation with an exception. -/
theorem naive_answer_raises :
    ¬ContractHolds Pydantic.plain
      (noonMessage [textMessage "history-1" "ai_assistant" "2026-07-17T11:00:00"]) := by
  have hraised : (Pydantic.plain.validateEventEnvelope
      (noonMessage [textMessage "history-1" "ai_assistant" "2026-07-17T11:00:00"])).raised? =
        some PyDatetime.mixedComparison := by
    decide +kernel
  exact fun h => h.rejects _ (Validated.raised?_eq_some.mp hraised)

end AiCustomerService
