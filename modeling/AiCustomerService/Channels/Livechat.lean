import AiCustomerService.Python.Digest
import AiCustomerService.Db.Conversations
import Mathlib.Data.List.Dedup

/-!
# LiveChat events

What the webhook normaliser and the polling normaliser share: the groups of a chat, the
platform of a group, the first text of several fields and the event that is handed to
`inbound_events`.
-/

namespace AiCustomerService

open Support

/-- The tables of the language for digits and times.  `toMysqlTime` is
`datetime.fromisoformat` of the text with `Z` replaced, in UTC, as MySQL prints it. -/
structure LivechatRuntime extends Runtime where
  isDigit : String → Bool
  toMysqlTime : String → Except PyError String

/-- A runtime for evaluating examples on plain texts. -/
def LivechatRuntime.plain : LivechatRuntime where
  toRuntime := .plain
  isDigit text := text ≠ "" && text.toList.all Char.isDigit
  toMysqlTime text := .ok text

/-- The settings that the channel reads. -/
structure LivechatSettings where
  webhookSecret : String
  selfAuthorIds : List String
  allowedGroupIds : List Int

/-- The settings of an account with the official group 28. -/
def LivechatSettings.plain : LivechatSettings := ⟨"secret", ["bot"], [28]⟩

/-! ## Values -/

namespace Json

/-- The items of `value or []`. -/
def itemsOrEmpty (value : Json) : Except PyError (List Json) :=
  match value.orElse (arr []) with
  | arr items => .ok items
  | str s => .ok (s.toList.map fun c => str c.toString)
  | obj fields => .ok (fields.entries.map fun entry => str entry.1)
  | _ => .error (.typeError "object is not iterable")

/-- A field that is declared `str | None`. -/
def optionalText : Json → Except PyError (Option String)
  | null => .ok none
  | str s => .ok (some s)
  | _ => .error (.valueError "Input should be a valid string")

/-- A text is read as it stands. -/
theorem eq_some_of_optionalText {value : Json} {text : String} {read : Option String}
    (hvalue : value = str text) (h : value.optionalText = .ok read) : read = some text := by
  rw [hvalue] at h
  exact (Except.ok.inj h).symm

/-- A value that is not `None`, as the only item of a list. -/
def present (value : Json) : List Json := if value.isNull then [] else [value]

end Json

/-- `_first_text`. -/
def firstText (rt : Runtime) : List Json → Option String
  | [] => none
  | value :: rest =>
      if value.isNull || strip (value.pyStr rt) = "" then firstText rt rest
      else some (strip (value.pyStr rt))

@[simp]
theorem firstText_nil (rt : Runtime) : firstText rt [] = none := rfl

/-- A text that was found is not empty. -/
theorem firstText_ne_empty {rt : Runtime} {values : List Json} {text : String}
    (h : firstText rt values = some text) : text ≠ "" := by
  induction values with
  | nil => simp [firstText] at h
  | cons value rest ih =>
      rw [firstText] at h
      split at h
      · exact ih h
      · rename_i hvalue
        rw [Bool.or_eq_true, decide_eq_true_eq, not_or] at hvalue
        rw [← Option.some.inj h]
        exact hvalue.2

/-- The later values count when the earlier ones give no text. -/
theorem firstText_append (rt : Runtime) (values others : List Json) :
    firstText rt (values ++ others) = (firstText rt values).or (firstText rt others) := by
  induction values with
  | nil => simp
  | cons value rest ih =>
      rw [List.cons_append, firstText, firstText]
      split
      · exact ih
      · rfl

/-- `a or b` for dictionaries that may be `None`. -/
def orDict (a b : Option JsonObject) : Option JsonObject :=
  match a with
  | some d => if d.isEmpty then b else some d
  | none => b

/-- A set of numbers in increasing order. -/
def sortedSet (values : List Int) : List Int := values.dedup.insertionSort (· ≤ ·)

theorem mem_sortedSet {values : List Int} {n : Int} : n ∈ sortedSet values ↔ n ∈ values := by
  rw [sortedSet, List.mem_insertionSort, List.mem_dedup]

theorem nodup_sortedSet (values : List Int) : (sortedSet values).Nodup :=
  (List.perm_insertionSort _ _).nodup_iff.mpr (List.nodup_dedup values)

theorem pairwise_sortedSet (values : List Int) : (sortedSet values).Pairwise (· ≤ ·) :=
  List.pairwise_insertionSort _ _

/-- A set of numbers has one increasing order. -/
theorem sortedSet_congr {values others : List Int} (h : ∀ n, n ∈ values ↔ n ∈ others) :
    sortedSet values = sortedSet others := by
  have hperm : (sortedSet values).Perm (sortedSet others) := by
    rw [List.perm_ext_iff_of_nodup (nodup_sortedSet values) (nodup_sortedSet others)]
    intro n
    rw [mem_sortedSet, mem_sortedSet, h]
  exact hperm.eq_of_pairwise (fun _ _ _ _ => le_antisymm) (pairwise_sortedSet values)
    (pairwise_sortedSet others)

theorem sortedSet_sortedSet (values : List Int) : sortedSet (sortedSet values) = sortedSet values :=
  sortedSet_congr fun _ => mem_sortedSet

/-! ## Platforms -/

/-- `LIVECHAT_GROUP_TO_PLATFORM`. -/
def livechatGroupToPlatform : List (Int × String) :=
  [(2, "JUE999"), (12, "GNA777"), (11, "JG7"), (13, "PAG99"), (24, "CUM777"),
    (25, "CON777"), (28, "ZAP69"), (23, "TEST")]

/-- `platform_for_livechat_group_id` of a number. -/
def platformForLivechatGroupId (groupId : Int) : Option String :=
  if 0 < groupId then livechatGroupToPlatform.lookup groupId else none

/-- The first of the groups that has a platform, with the platform. -/
def firstPlatform (groupIds : List Int) : Option (Int × String) :=
  groupIds.findSome? fun groupId => (platformForLivechatGroupId groupId).map (groupId, ·)

theorem firstPlatform_isSome {groupIds : List Int} :
    (firstPlatform groupIds).isSome ↔
      ∃ groupId ∈ groupIds, (platformForLivechatGroupId groupId).isSome := by
  simp [firstPlatform, List.findSome?_isSome_iff]

/-- The groups of a list that have a platform. -/
def platformGroups (groupIds : List Int) : Set Int :=
  {groupId | groupId ∈ groupIds ∧ (platformForLivechatGroupId groupId).isSome}

/-- The first group of a set in increasing order is the least one with a platform. -/
theorem firstPlatform_sortedSet_eq_some_iff {groupIds : List Int} {groupId : Int}
    {platform : String} :
    firstPlatform (sortedSet groupIds) = some (groupId, platform) ↔
      platformForLivechatGroupId groupId = some platform ∧
        IsLeast (platformGroups groupIds) groupId := by
  have hsorted := pairwise_sortedSet groupIds
  have hnodup := nodup_sortedSet groupIds
  rw [firstPlatform, List.findSome?_eq_some_iff]
  constructor
  · rintro ⟨before, found, after, hsplit, hfound, hbefore⟩
    obtain ⟨name, hname, heq⟩ := Option.map_eq_some_iff.mp hfound
    cases heq
    have hmem : groupId ∈ groupIds := by
      rw [← mem_sortedSet, hsplit]
      exact List.mem_append_right _ List.mem_cons_self
    refine ⟨hname, ⟨hmem, by rw [hname]; rfl⟩, ?_⟩
    rintro other ⟨hother, hplatform⟩
    rw [← mem_sortedSet, hsplit, List.mem_append, List.mem_cons] at hother
    rcases hother with hother | rfl | hother
    · have hnone := hbefore other hother
      rw [Option.map_eq_none_iff] at hnone
      rw [hnone] at hplatform
      cases hplatform
    · exact le_refl _
    · rw [hsplit, List.pairwise_append] at hsorted
      exact List.rel_of_pairwise_cons hsorted.2.1 hother
  · rintro ⟨hname, ⟨hmem, -⟩, hleast⟩
    obtain ⟨before, after, hsplit⟩ := List.append_of_mem (mem_sortedSet.mpr hmem)
    refine ⟨before, groupId, after, hsplit, by rw [hname]; rfl, ?_⟩
    intro other hother
    rw [hsplit] at hsorted hnodup
    have hle : other ≤ groupId :=
      (List.pairwise_append.mp hsorted).2.2 other hother groupId List.mem_cons_self
    have hne : other ≠ groupId := by
      rintro rfl
      exact (List.nodup_append.mp hnodup).2.2 other hother other List.mem_cons_self rfl
    have hin : other ∈ groupIds := by
      rw [← mem_sortedSet, hsplit]
      exact List.mem_append_left _ hother
    rw [Option.map_eq_none_iff, ← Option.not_isSome_iff_eq_none]
    intro hplatform
    have hge := hleast ⟨hin, hplatform⟩
    omega

theorem firstPlatform_sortedSet_eq_none_iff {groupIds : List Int} :
    firstPlatform (sortedSet groupIds) = none ↔ platformGroups groupIds = ∅ := by
  rw [← Option.not_isSome_iff_eq_none, firstPlatform_isSome, Set.eq_empty_iff_forall_notMem]
  constructor
  · rintro hnone groupId ⟨hmem, hplatform⟩
    exact hnone ⟨groupId, mem_sortedSet.mpr hmem, hplatform⟩
  · rintro hempty ⟨groupId, hmem, hplatform⟩
    exact hempty groupId ⟨mem_sortedSet.mp hmem, hplatform⟩

/-! ## Groups of a chat -/

/-- `int(value)` of the values that are digits. -/
def digitValues (rt : LivechatRuntime) (values : List Json) : Except PyError (List Int) :=
  (values.filter fun value => rt.isDigit (strip (value.pyStr rt.toRuntime))).mapM
    (Json.toInt rt.toRuntime)

/-- The values that `chat_group_ids` collects. -/
def groupValues (chat : JsonObject) : Except PyError (List Json) := do
  let access ← (getKey chat "access").mappingOrEmpty
  let ofAccess ← (getKey access "group_ids").itemsOrEmpty
  let ofChat ← (getKey chat "group_ids").itemsOrEmpty
  let routing ← (getKey chat "routing_status").mappingOrEmpty
  return ofAccess ++ ofChat ++ (getKey routing "group_id").present ++
    (getKey chat "group_id").present

/-- `chat_group_ids`; the list stands for a set. -/
def chatGroupIds (rt : LivechatRuntime) (chat : JsonObject) : Except PyError (List Int) := do
  let values ← groupValues chat
  digitValues rt values

/-- `chat_matches_allowed_groups` of the groups of a chat. -/
def matchesAllowedGroups (groupIds allowed : List Int) : Bool :=
  allowed.isEmpty ||
    groupIds.any fun groupId =>
      decide (groupId ∈ allowed) && (platformForLivechatGroupId groupId).isSome

/-! ## Events -/

/-- An `InboundEvent` with all the fields of the schema. -/
structure NormalizedEvent extends InboundEvent where
  source : String
  rawAction : String
  organizationId : Option String
  eventType : Option String
  standardEventType : String
  senderRole : String
  dedupKey : String
  ignored : Bool
  ignoreReason : Option String

/-- A text, or `-` in its place. -/
def textOrDash (text : Option String) : String := textOr text "-"

/-- The key of an event: its ids where it has all three, the digest of what carried it
otherwise. -/
def eventKey (path : String) (chatId threadId eventId : Option String) (carrier : Json) : String :=
  if hasText chatId && hasText threadId && hasText eventId then
    path ++ ":" ++ textOr chatId "" ++ ":" ++ textOr threadId "" ++ ":" ++ textOr eventId ""
  else
    path ++ ":" ++ textOrDash chatId ++ ":" ++ textOrDash threadId ++ ":" ++
      sha256Hex (dumpsSorted carrier)

theorem eventKey_of_texts {path chatId threadId eventId : String} (hchat : chatId ≠ "")
    (hthread : threadId ≠ "") (hevent : eventId ≠ "") (carrier : Json) :
    eventKey path (some chatId) (some threadId) (some eventId) carrier =
      path ++ ":" ++ chatId ++ ":" ++ threadId ++ ":" ++ eventId := by
  simp [eventKey, hchat, hthread, hevent]

/-- Two keys of one path and one thread are equal when the event ids are. -/
theorem eventKey_eq_iff {path chatId threadId e₁ e₂ : String} (hchat : chatId ≠ "")
    (hthread : threadId ≠ "") (h₁ : e₁ ≠ "") (h₂ : e₂ ≠ "") (carrier₁ carrier₂ : Json) :
    eventKey path (some chatId) (some threadId) (some e₁) carrier₁ =
        eventKey path (some chatId) (some threadId) (some e₂) carrier₂ ↔ e₁ = e₂ := by
  rw [eventKey_of_texts hchat hthread h₁, eventKey_of_texts hchat hthread h₂]
  exact String.append_right_inj _

/-- Two keys of one event are equal when the paths are. -/
theorem eventKey_path_eq_iff {path₁ path₂ chatId threadId eventId : String} (hchat : chatId ≠ "")
    (hthread : threadId ≠ "") (hevent : eventId ≠ "") (carrier₁ carrier₂ : Json) :
    eventKey path₁ (some chatId) (some threadId) (some eventId) carrier₁ =
        eventKey path₂ (some chatId) (some threadId) (some eventId) carrier₂ ↔
      path₁ = path₂ := by
  rw [eventKey_of_texts hchat hthread hevent, eventKey_of_texts hchat hthread hevent]
  simp only [String.append_assoc]
  exact String.append_left_inj _

/-- `parse_rfc3339_to_mysql`. -/
def parseRfc3339ToMysql (rt : LivechatRuntime) (value : Json) : Except PyError (Option String) :=
  if value.truthy then
    match value with
    | .str s => do
        let time ← rt.toMysqlTime s
        return some time
    | _ => .error (.attributeError "object has no attribute 'replace'")
  else .ok none

/-- The type of the user whose id is `authorId`, or that there is no such user. -/
def findUserType (rt : Runtime) (authorId : String) :
    List Json → Except PyError (Option (Option String))
  | [] => .ok none
  | .obj user :: rest =>
      if (getKey user "id").pyStr rt = authorId then
        .ok (some ((getKey user "type").columnText rt))
      else findUserType rt authorId rest
  | _ :: _ => .error (.attributeError "object has no attribute 'get'")

/-- The sender role that a normaliser records. -/
def senderRole (settings : LivechatSettings) (authorId : Option String) : String :=
  if !hasText authorId then "system"
  else if textOr authorId "" ∈ settings.selfAuthorIds then "self_agent"
  else "external"

end AiCustomerService
