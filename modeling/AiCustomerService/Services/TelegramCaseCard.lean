import AiCustomerService.Db.Commands
import AiCustomerService.Python.Lines
import AiCustomerService.Services.Outbox
import AiCustomerService.Workers.ExternalCommand

/-!
# Supplements on a case card

`build_telegram_case_append` of `app/services/telegram_case_card.py` and what the command worker
does with it: the whole text of the card is built anew, from the text that the command carries.
-/

namespace AiCustomerService

open Support

/-- The text of a value that may be a structure or the `repr` of one, the card of a command that
carries none, and the target of a command. -/
structure CardSettings where
  runtime : Runtime
  plainText : Json → String
  caseCard : ExternalCommandRow → String → String
  telegramTarget : ExternalCommandRow → TelegramTarget

/-- `_value`. -/
def cardValue (text : String) : String := if text = "" then "(not provided)" else text

/-- `_translate_append_supplement_text`; `translated` is what the translator answers, if there is
one and it does not raise. -/
def translateAppendSupplementText (settings : CardSettings) (supplement : JsonObject)
    (translated : Option String) : JsonObject :=
  let text := settings.plainText (getKey supplement "text")
  let plain := supplement.set "text" (.str text)
  if strip text = "" then plain
  else
    match translated with
    | none => plain.set "translation_unavailable" (.bool true)
    | some translated =>
        if strip translated = "" then plain
        else plain.set "text" (.str (settings.plainText (.str (strip translated))))

/-- The line of a screenshot or of its links. -/
def isHiddenLine (line : List Char) : Bool :=
  "Screenshot:".toList.isPrefixOf line || "Attachment URLs:".toList.isPrefixOf line

/-- `_strip_hidden_url_fields`. -/
def stripHiddenUrlFields (text : List Char) : List Char :=
  joinLines ((splitLines text).filter fun line => !isHiddenLine line)

/-- The text of the supplement on the card. -/
def supplementText (settings : CardSettings) (supplement : JsonObject) : String :=
  cardValue (settings.plainText (getKey supplement "text"))

/-- `supplement_lines` up to the text. -/
def supplementHeader (settings : CardSettings) (supplement : JsonObject) : List String :=
  ["[Customer supplement]",
    "Reason: " ++ ((getKey supplement "reason").orElse (.str "customer_supplement")).pyStr
      settings.runtime]

/-- The line that is added where there is no translation. -/
def supplementNote (supplement : JsonObject) : List String :=
  if (getKey supplement "translation_unavailable").truthy then
    ["Translation unavailable: original customer text shown."]
  else []

/-- `supplement_lines`. -/
def supplementLines (settings : CardSettings) (supplement : JsonObject) (now : String) :
    List String :=
  supplementHeader settings supplement ++
    ("Supplement text: " ++ supplementText settings supplement) ::
      ("Supplemented at: " ++ now) :: supplementNote supplement

/-- `base_text`. -/
def appendBaseText (settings : CardSettings) (command : ExternalCommandRow) (now : String) :
    String :=
  let payload := command.payloadJson
  ((getKey payload "telegram_case_card_text").orElse
    ((getKey (getKey payload "slot_memory").dictOrEmpty "telegram_case_card_text").orElse
      (.str (settings.caseCard command now)))).pyStr settings.runtime

/-- The text of `build_telegram_case_append`. -/
def buildTelegramCaseAppend (settings : CardSettings) (command : ExternalCommandRow)
    (supplement : JsonObject) (now : String) : String :=
  String.ofList
    (rstrip (stripHiddenUrlFields (appendBaseText settings command now).toList) ++
      '\n' :: '\n' :: joinLines ((supplementLines settings supplement now).map String.toList))

/-- The message that is edited. -/
def appendRootMessage (rt : Runtime) (command : ExternalCommandRow) : Except PyError Int :=
  let payload := command.payloadJson
  ((getKey payload "telegram_message_id").orElse
    (getKey (getKey payload "slot_memory").dictOrEmpty "telegram_message_id")).toInt rt

/-! ## What stands on the card -/

def supplementLabel : List Char := "Supplement text: ".toList

def supplementedAt : List Char := "Supplemented at:".toList

/-- The line of the supplement. -/
def supplementBlock (text : String) : List Char := supplementLabel ++ text.toList

/-- The card shows the supplement. -/
def ShowsSupplement (text : String) (card : List Char) : Prop :=
  StartsLine (supplementBlock text ++ '\n' :: supplementedAt) card

/-- Rebuilding a card leaves the lines of the supplement as they are. -/
def KeptWhenRebuilt (text : String) : Prop :=
  stripHiddenUrlFields (supplementBlock text ++ ['\n']) = supplementBlock text

instance (text : String) : Decidable (KeptWhenRebuilt text) := inferInstanceAs (Decidable (_ = _))

theorem supplementBlock_ne_nil (text : String) : supplementBlock text ≠ [] :=
  List.append_ne_nil_of_left_ne_nil (by decide) _

theorem unbroken_supplementedAt : ∀ c ∈ supplementedAt, isLineBreak c = false := by
  have hall : supplementedAt.all (fun c => !isLineBreak c) = true := by decide
  intro c hmem
  simpa using List.all_eq_true.mp hall c hmem

theorem isInfix_of_showsSupplement {text : String} {card : List Char}
    (h : ShowsSupplement text card) : text.toList <:+: card := by
  rcases h with ⟨after, rfl⟩ | ⟨before, after, rfl⟩
  · refine ⟨supplementLabel, '\n' :: supplementedAt ++ after, ?_⟩
    simp only [supplementBlock, List.append_assoc, List.cons_append]
  · refine ⟨before ++ '\n' :: supplementLabel, '\n' :: supplementedAt ++ after, ?_⟩
    simp only [supplementBlock, List.append_assoc, List.cons_append]

/-- A new card shows its own supplement. -/
theorem showsSupplement_own (settings : CardSettings) (command : ExternalCommandRow)
    (supplement : JsonObject) (now : String) :
    ShowsSupplement (supplementText settings supplement)
      (buildTelegramCaseAppend settings command supplement now).toList := by
  have hdate : ("Supplemented at: " ++ now).toList = supplementedAt ++ ' ' :: now.toList := by
    rw [String.toList_append]
    rfl
  have htext : ("Supplement text: " ++ supplementText settings supplement).toList =
      supplementBlock (supplementText settings supplement) := String.toList_append
  obtain ⟨more, hmore⟩ := joinLines_cons ("Supplemented at: " ++ now).toList
    ((supplementNote supplement).map String.toList)
  have hlines : joinLines ((supplementLines settings supplement now).map String.toList) =
      joinLines ((supplementHeader settings supplement).map String.toList) ++ '\n' ::
        (supplementBlock (supplementText settings supplement) ++ '\n' ::
          (supplementedAt ++ (' ' :: now.toList ++ more))) := by
    have hheader : (supplementHeader settings supplement).map String.toList ≠ [] := by
      rw [supplementHeader]
      exact List.cons_ne_nil _ _
    rw [supplementLines, List.map_append, List.map_cons, List.map_cons,
      joinLines_append hheader (List.cons_ne_nil _ _), joinLines_cons_cons, hmore, hdate, htext,
      List.append_assoc]
  right
  refine ⟨rstrip (stripHiddenUrlFields (appendBaseText settings command now).toList) ++
    '\n' :: '\n' :: joinLines ((supplementHeader settings supplement).map String.toList),
    ' ' :: now.toList ++ more, ?_⟩
  rw [buildTelegramCaseAppend, String.toList_ofList, hlines]
  simp only [List.append_assoc, List.cons_append]

/-- A new card shows what the card before it showed. -/
theorem showsSupplement_base {settings : CardSettings} {command : ExternalCommandRow}
    {supplement : JsonObject} {now text : String} (hkept : KeptWhenRebuilt text)
    (h : ShowsSupplement text (appendBaseText settings command now).toList) :
    ShowsSupplement text (buildTelegramCaseAppend settings command supplement now).toList := by
  have hstripped : ShowsSupplement text
      (stripHiddenUrlFields (appendBaseText settings command now).toList) :=
    StartsLine.filter h hkept (supplementBlock_ne_nil text) (by decide)
      unbroken_supplementedAt fun _ => rfl
  have hcolon : supplementedAt = "Supplemented at".toList ++ [':'] := by decide
  have hlast : supplementBlock text ++ '\n' :: supplementedAt =
      (supplementBlock text ++ '\n' :: "Supplemented at".toList) ++ [':'] := by
    rw [hcolon, List.append_assoc, List.cons_append]
  have htrimmed : ShowsSupplement text
      (rstrip (stripHiddenUrlFields (appendBaseText settings command now).toList)) := by
    unfold ShowsSupplement at hstripped ⊢
    rw [hlast] at hstripped ⊢
    exact hstripped.rstrip (by decide)
  rw [buildTelegramCaseAppend, String.toList_ofList]
  exact StartsLine.append htrimmed _

end AiCustomerService
