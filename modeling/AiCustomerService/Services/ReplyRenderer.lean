import AiCustomerService.Services.ChineseScript
import AiCustomerService.Workers.ResultHandlers

/-!
# Rendered replies

`app/services/reply_renderer.py`: a reply is the template of its intent in the language of the
conversation, with the facts filled in.
-/

namespace AiCustomerService

open Support

/-! ## Templates -/

/-- A part of a format string. -/
inductive TemplatePart where
  | literal (text : List Char)
  | field (name : List Char)
  deriving DecidableEq

/-- The parts of a format string.  A doubled brace stands for itself; the open replacement field, if
there is one, is read from its end. -/
def templateParts : Option (List Char) → List Char → Except PyError (List TemplatePart)
  | none, [] => .ok []
  | some _, [] => .error (.valueError "expected '\x7d' before end of string")
  | some name, c :: rest =>
      if c = '\x7d' then do
        let parts ← templateParts none rest
        pure (.field name.reverse :: parts)
      else templateParts (some (c :: name)) rest
  | none, [c] =>
      if c = '\x7b' then .error (.valueError "Single '\x7b' encountered in format string")
      else if c = '\x7d' then .error (.valueError "Single '\x7d' encountered in format string")
      else .ok [.literal [c]]
  | none, c :: d :: rest =>
      if c = '\x7b' ∧ d = '\x7b' ∨ c = '\x7d' ∧ d = '\x7d' then do
        let parts ← templateParts none rest
        pure (.literal [c] :: parts)
      else if c = '\x7b' then templateParts (some []) (d :: rest)
      else if c = '\x7d' then
        .error (.valueError "Single '\x7d' encountered in format string")
      else do
        let parts ← templateParts none (d :: rest)
        pure (.literal [c] :: parts)

/-- The replacement field is the name of a fact, without an index, a conversion or a format. -/
def isPlainField (name : List Char) : Bool :=
  name.head?.any (fun c => !c.isDigit) &&
    name.all fun c => !(['.', '[', '!', ':', '\x7b'].contains c)

/-! ## Rendering -/

/-- `ReplyRenderer`, with the templates of each language as they are loaded.  `formatField` is the
rest of the format language: indices, conversions and formats. -/
structure ReplyRenderer where
  templates : List (String × List (String × String))
  fallbackLanguage : String
  formatField : List Char → List (String × String) → Except PyError String

/-- `_format_facts`. -/
def formatFacts (rt : Runtime) (facts : JsonObject) : List (String × String) :=
  facts.entries.map fun entry =>
    (entry.1, match entry.2 with
      | .null => ""
      | .float value repr => if value.den = 1 then toString value.num else repr
      | value => value.pyStr rt)

namespace ReplyRenderer

variable (renderer : ReplyRenderer)

/-- The language has templates. -/
def hasLanguage (language : String) : Bool := (renderer.templates.lookup language).isSome

/-- `_resolve_language`. -/
def resolveLanguage (rt : Runtime) (replyLanguage : Json) : String :=
  let normalized := normalizeLanguageCode rt replyLanguage
  if normalized ≠ "unknown" ∧ renderer.hasLanguage normalized then normalized
  else if renderer.fallbackLanguage ≠ "unknown" ∧
      renderer.hasLanguage renderer.fallbackLanguage then renderer.fallbackLanguage
  else (renderer.templates.head?.map Prod.fst).getD "es"

/-- `self._templates.get(language) or {}`. -/
def languageTemplates (language : String) : List (String × String) :=
  (renderer.templates.lookup language).getD []

/-- The templates for an intent that the language does not have. -/
def fallbackTemplates : List (String × String) :=
  let own := renderer.languageTemplates renderer.fallbackLanguage
  if own.isEmpty then renderer.languageTemplates "zh-Hans" else own

/-- `_template`. -/
def template (language intent : String) : String :=
  match (renderer.languageTemplates language).lookup intent with
  | some template => template
  | none =>
      match renderer.fallbackTemplates.lookup intent with
      | some template => template
      | none => textOr (renderer.fallbackTemplates.lookup "clarification")
          "请补充你要咨询的问题，我们会继续协助。"

/-- One part with the facts filled in; a fact that is missing is empty. -/
def formatPart (facts : List (String × String)) : TemplatePart → Except PyError String
  | .literal text => .ok (String.ofList text)
  | .field name =>
      if isPlainField name then .ok ((facts.lookup (String.ofList name)).getD "")
      else renderer.formatField name facts

/-- `template.format_map(...)`. -/
def formatMap (template : String) (facts : List (String × String)) : Except PyError String := do
  let parts ← templateParts none template.toList
  let texts ← parts.mapM (renderer.formatPart facts)
  pure (String.join texts)

/-- `render`. -/
def render (rt : Runtime) : Renderer := fun replyIntent facts replyLanguage =>
  let language := renderer.resolveLanguage rt replyLanguage
  renderer.formatMap (renderer.template language replyIntent) (formatFacts rt facts)

theorem mem_of_hasLanguage {language : String} (h : renderer.hasLanguage language = true) :
    language ∈ renderer.templates.map Prod.fst := by
  obtain ⟨templates, htemplates⟩ := Option.isSome_iff_exists.mp h
  obtain ⟨before, after, hsplit, -⟩ := List.lookup_eq_some_iff.mp htemplates
  rw [hsplit]
  simp

/-- A language without templates falls back to one that has them. -/
theorem resolveLanguage_mem (hknown : renderer.fallbackLanguage ≠ "unknown")
    (hfallback : renderer.hasLanguage renderer.fallbackLanguage = true) (rt : Runtime)
    (replyLanguage : Json) :
    renderer.resolveLanguage rt replyLanguage ∈ renderer.templates.map Prod.fst := by
  unfold resolveLanguage
  dsimp only
  split
  · rename_i hown
    exact renderer.mem_of_hasLanguage hown.2
  · rw [if_pos ⟨hknown, hfallback⟩]
    exact renderer.mem_of_hasLanguage hfallback

/-- What a template becomes, part by part. -/
theorem formatMap_ok {template text : String} {facts : List (String × String)}
    (h : renderer.formatMap template facts = .ok text) :
    ∃ parts texts, templateParts none template.toList = .ok parts ∧
      parts.mapM (renderer.formatPart facts) = .ok texts ∧ text = String.join texts := by
  obtain ⟨parts, hparts, h⟩ := bind_eq_ok.mp h
  obtain ⟨texts, htexts, h⟩ := bind_eq_ok.mp h
  exact ⟨parts, texts, hparts, htexts, (Except.ok.inj h).symm⟩

end ReplyRenderer

/-! ## The templates of the repository -/

/-- `data/replies/default.json`. -/
def defaultTemplates : List (String × List (String × String)) := [
  ("zh-Hans", [
    ("ask_account_or_phone",
      "一般无法提款通常与流水要求或风控限制有关。为了帮你继续查询，请提供用户名或注册手机号。"),
    ("backend_query_waiting",
      "已收到你的账号资料，我们会为你查询提款限制或流水要求，请稍等。"),
    ("backend_player_not_found",
      "未查询到该用户名/手机号对应的玩家资料，请再次确认用户名或注册手机号是否正确。"),
    ("backend_turnover_remaining",
      "查询显示当前可能仍有未完成流水要求，剩余流水约为 \x7bremaining_turnover\x7d。请先完成对应流水后再尝试提款。如你认为数据不正确，我们会继续人工复核。"),
    ("backend_turnover_met",
      "当前未查询到未完成流水要求。如仍无法提款，可能涉及其他风控或账户限制，我们会继续为你转人工复核。"),
    ("backend_turnover_unknown",
      "查询未返回明确流水结论，我们会继续人工复核。"),
    ("backend_query_failed",
      "查询暂时无法完成，我们会继续为你人工复核，请稍候。"),
    ("wallet_change_needs_human_or_clarification",
      "你提到的 \x7bpayment_channel\x7d 看起来是钱包或收款方式。为了继续协助，请提供用户名或注册手机号，或说明你是否需要更换/新增收款账户。"),
    ("clarification",
      "请补充你要咨询的问题，我们会继续协助。")]),
  ("en", [
    ("ask_account_or_phone",
      "Withdrawal issues are often related to rollover requirements or account restrictions. To help check this, please provide your username or registered phone number."),
    ("backend_query_waiting",
      "We have received your account details and will check the withdrawal restriction or rollover requirement. Please wait a moment."),
    ("backend_player_not_found",
      "We could not find player details for that username or registered phone number. Please check it and send it again."),
    ("backend_turnover_remaining",
      "The check shows there may still be an unfinished rollover requirement. The remaining rollover is about \x7bremaining_turnover\x7d. Please complete the required rollover before trying to withdraw again. If you think this is incorrect, we can continue with a manual review."),
    ("backend_turnover_met",
      "No unfinished rollover requirement was found. If you still cannot withdraw, it may involve another account restriction and we can continue with a manual review."),
    ("backend_turnover_unknown",
      "The check did not return a clear rollover result, so we will continue with a manual review."),
    ("backend_query_failed",
      "The check cannot be completed right now. We will continue with a manual review. Please wait a moment."),
    ("wallet_change_needs_human_or_clarification",
      "\x7bpayment_channel\x7d looks like a wallet or receiving method. To continue helping, please provide your username or registered phone number, or confirm whether you need to change/add a receiving account."),
    ("clarification",
      "Please add more detail about what you need help with, and we will continue assisting.")]),
  ("es", [
    ("ask_account_or_phone",
      "Los problemas para retirar suelen estar relacionados con requisitos de rollover o restricciones de la cuenta. Para revisarlo, indícanos tu usuario o teléfono registrado."),
    ("backend_query_waiting",
      "Recibimos los datos de tu cuenta y revisaremos la restricción de retiro o el requisito de rollover. Espera un momento, por favor."),
    ("backend_player_not_found",
      "No encontramos datos de jugador con ese usuario o teléfono registrado. Verifícalo y envíanoslo nuevamente, por favor."),
    ("backend_turnover_remaining",
      "La revisión muestra que aún puede haber un requisito de rollover pendiente. El rollover restante es aproximadamente \x7bremaining_turnover\x7d. Completa ese requisito antes de intentar retirar nuevamente. Si crees que el dato no es correcto, podemos continuar con una revisión manual."),
    ("backend_turnover_met",
      "No encontramos requisitos de rollover pendientes. Si aún no puedes retirar, puede tratarse de otra restricción de la cuenta y podemos continuar con una revisión manual."),
    ("backend_turnover_unknown",
      "La revisión no devolvió una conclusión clara sobre el rollover, así que continuaremos con una revisión manual."),
    ("backend_query_failed",
      "La revisión no se puede completar en este momento. Continuaremos con una revisión manual. Espera un momento, por favor."),
    ("wallet_change_needs_human_or_clarification",
      "\x7bpayment_channel\x7d parece ser una billetera o método de recepción. Para seguir ayudándote, indícanos tu usuario o teléfono registrado, o confirma si necesitas cambiar/agregar una cuenta de recepción."),
    ("clarification",
      "Agrega más detalles sobre lo que necesitas consultar y seguiremos ayudándote.")])]

/-- The renderer of a call without one: `ReplyRenderer()`. -/
def ReplyRenderer.standard
    (formatField : List Char → List (String × String) → Except PyError String) :
    ReplyRenderer where
  templates := defaultTemplates
  fallbackLanguage := "es"
  formatField := formatField

end AiCustomerService
