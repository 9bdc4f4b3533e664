import AiCustomerService.Graph.State

/-!
# Slot extractors

`app/workflows/slot_extractors.py`: what the deterministic code reads out of a customer's text.
-/

namespace AiCustomerService

open Support

/-- The character tables behind `re` and `str.isdigit`. -/
structure SlotTables extends PatternTables where
  isDecimal : Char → Bool
  isDigit : Char → Bool

/-- Tables for evaluating examples on plain texts. -/
def SlotTables.plain : SlotTables :=
  { PatternTables.plain with isDecimal := Char.isDigit, isDigit := Char.isDigit }

/-- `normalize_text(value)`. -/
def normalizeText (rt : Runtime) (value : Json) : String := strip (value.textOrEmpty rt)

theorem Json.textOrEmpty_str (rt : Runtime) (text : String) :
    (Json.str text).textOrEmpty rt = text := by
  unfold Json.textOrEmpty Json.orElse
  split
  · rfl
  · rename_i hempty
    have hnil : text = "" := by simpa [Json.truthy] using hempty
    rw [hnil]
    rfl

theorem normalizeText_str (rt : Runtime) (text : String) :
    normalizeText rt (.str text) = strip text := by
  rw [normalizeText, Json.textOrEmpty_str]

/-- `COMMON_WORDS | PAYMENT_CHANNELS`. -/
def commonWords : List String :=
  ["hola", "buenas", "gracias", "retiro", "deposito", "depósito", "recarga", "usuario", "telefono",
    "teléfono", "correo", "email", "hello", "thanks", "gcash", "maya", "pix", "spei", "oxxo", "pse",
    "nequi", "daviplata"]

namespace SlotTables

variable (tables : SlotTables)

def literals (texts : List String) : Regex Char := .oneOf (texts.map tables.literal)

/-- `[A-Za-z]` under `re.IGNORECASE`. -/
def isLetter (c : Char) : Bool :=
  "abcdefghijklmnopqrstuvwxyz".toList.any fun letter => tables.sameLetter letter c

/-- One of the characters, case and all. -/
def oneOfChars (chars : String) : Char → Bool := fun c => chars.toList.contains c

/-- `\s*`. -/
def blanks : Regex Char := .many isPySpace

def decimal : Regex Char := .one tables.isDecimal

/-- `PHONE_LABEL_RE`. -/
def phoneLabel : Regex Char :=
  .oneOf [tables.literals ["手机号", "手機號", "电话", "電話", "注册手机号", "註冊手機號"],
    tables.phrase "registered phone", tables.literal "phone",
    .seq [tables.literal "tel", tables.letterOf "eé", tables.literal "fono"],
    tables.literal "telefono"]

/-- `(?:\+?\d[\d\s-]{least,18}\d)`. -/
def phoneNumber (least : Nat) : Regex Char :=
  .seq [.optional (tables.literal "+"), tables.decimal,
    .between least 18 fun c => tables.isDecimal c || isPySpace c || c = '-', tables.decimal]

/-- `[A-Za-z0-9]`. -/
def isAsciiAlnum (c : Char) : Bool := c.isAlphanum

/-- `PHONE_RE.search(text).group(0)`. -/
def phoneIn (text : String) : Option (List Char) :=
  (Regex.notBehind isAsciiAlnum).groupOf (tables.phoneNumber 6) (.notAhead isAsciiAlnum)
    text.toList

/-- `STANDALONE_PHONE_RE.fullmatch(text)`; the whole text is a number, so no line break follows. -/
def isStandalonePhone (text : String) : Bool := (tables.phoneNumber 4).matchesAll text.toList

/-- `[A-Z0-9._%+-]+@[A-Z0-9.-]+\.[A-Z]{2,}`. -/
def emailIn (text : String) : Option (List Char) :=
  let letterOrDigit (c : Char) : Bool := tables.isLetter c || c.isDigit
  let local_ (c : Char) : Bool := letterOrDigit c || oneOfChars "._%+-" c
  let domain (c : Char) : Bool := letterOrDigit c || oneOfChars ".-" c
  Regex.nothing.groupOf
    (.seq [.one local_, .many local_, tables.literal "@", .one domain, .many domain,
      tables.literal ".", .one tables.isLetter, .one tables.isLetter, .many tables.isLetter])
    .nothing text.toList

/-- The name after one of the labels of an account. -/
def usernameIn (text : String) : Option (List Char) :=
  Regex.groupOf
    (.seq [
      .oneOf [
        tables.wholeWords (tables.literals
          ["usuario", "user", "username", "cuenta", "mi usuario es", "mi user es"]),
        tables.literals ["用户名", "用戶名", "账号", "帳號", "账户", "賬戶"]],
      blanks, .optional (tables.literals ["是", "为", "為"]), blanks,
      .optional (.one (oneOfChars ":：-")), blanks])
    (.seq [.one tables.isLetter,
      .between 3 30 fun c => tables.isLetter c || c.isDigit || oneOfChars "_.-" c])
    (.boundary tables.isWord) text.toList

end SlotTables

/-- `{"type": kind, "value": value}`. -/
structure ExtractedIdentity where
  kind : String
  value : String
  deriving DecidableEq

/-- `re.sub(r"\s+", "", text)`. -/
def withoutSpaces (text : List Char) : String := String.ofList (text.filter fun c => !isPySpace c)

/-- `extract_identity`. -/
def extractIdentity (rt : Runtime) (tables : SlotTables) (text : String) : Option ExtractedIdentity :=
  let raw := strip text
  if raw = "" then none
  else
    match tables.emailIn raw with
    | some email => some ⟨"email", String.ofList email⟩
    | none =>
        match tables.phoneIn raw with
        | some phone => some ⟨"phone", withoutSpaces phone⟩
        | none =>
            match tables.usernameIn raw with
            | some name =>
                if commonWords.contains (rt.lower (String.ofList name)) then none
                else some ⟨"username", String.ofList name⟩
            | none => none

/-- `extract_identity_from_texts` for one text. -/
def extractIdentityFromText (rt : Runtime) (tables : SlotTables) (text : String) :
    Option ExtractedIdentity :=
  let raw := strip text
  if raw = "" then none
  else
    match tables.phoneIn raw with
    | some phone =>
        if tables.phoneLabel.found raw.toList || tables.isStandalonePhone raw then
          some ⟨"phone", withoutSpaces phone⟩
        else extractIdentity rt tables raw
    | none => extractIdentity rt tables raw

/-- `explicit_phone_reference`. -/
def explicitPhoneReference (tables : SlotTables) (text : String) : Bool :=
  tables.phoneLabel.found (strip text).toList || tables.isStandalonePhone (strip text)

namespace SlotTables

variable (tables : SlotTables)

/-- `\d{1,3}(?:[.,]\d{3})+(?:[.,]\d{2})?`. -/
def groupedNumber (bound : Nat) : Regex Char :=
  let separator : Regex Char := .one (oneOfChars ".,")
  let thousands : Regex Char := .seq [separator, .between 3 3 tables.isDecimal]
  .seq [.between 1 3 tables.isDecimal, thousands, .repeated thousands bound,
    .optional (.seq [separator, .between 2 2 tables.isDecimal])]

/-- `\d{4,}`. -/
def longNumber : Regex Char := .seq [.between 4 4 tables.isDecimal, .many tables.isDecimal]

/-- `\b(?:\d{4,}|...|\d{1,3}(?:[.,]\d{2}))\b`. -/
def moneyAmount (bound : Nat) : Regex Char :=
  tables.wholeWords (.oneOf [tables.longNumber, tables.groupedNumber bound,
    .seq [.between 1 3 tables.isDecimal, .one (oneOfChars ".,"), .between 2 2 tables.isDecimal]])

end SlotTables

/-- `extract_amount`. -/
def extractAmount (tables : SlotTables) (text : String) : Option String :=
  let raw := (strip text).toList
  let currency : Regex Char := .seq [.between 0 3 tables.isLetter, SlotTables.blanks]
  let labelled := Regex.groupOf
    (.seq [tables.literals ["金额", "金額", "monto", "valor", "amount"], SlotTables.blanks,
      .optional (.one (SlotTables.oneOfChars ":：-")), SlotTables.blanks])
    (.oneOf [.seq [currency, tables.longNumber], .seq [currency, tables.groupedNumber raw.length],
      .seq [currency, .between 1 3 tables.isDecimal,
        .optional (.seq [.one (SlotTables.oneOfChars ".,"), .between 2 2 tables.isDecimal])]])
    .nothing raw
  match labelled with
  | some amount => some (strip (String.ofList amount))
  | none =>
      (Regex.nothing.groupOf (tables.moneyAmount raw.length) .nothing raw).map String.ofList

/-- A text is recognised as an order; its upper-case form is stored only by code that the graph
does not reach. -/
def extractOrderId (tables : SlotTables) (text : String) : Option (List Char) :=
  let raw := (strip text).toList
  let order : Regex Char := .seq [.between 1 6 tables.isLetter, tables.longNumber]
  let labelled := Regex.groupOf
    (.seq [
      .oneOf [tables.literals ["订单", "訂單", "order", "orden", "pedido"],
        .seq [tables.literal "transacci", tables.letterOf "oó", tables.literal "n"],
        tables.literal "transaction",
        .seq [tables.literal "ref", .optional (tables.literal "erencia")]],
      SlotTables.blanks,
      .optional (.oneOf [tables.literals ["号", "號", "id", "number"],
        .seq [tables.literal "n", tables.letterOf "uú", tables.literal "mero"]]),
      SlotTables.blanks, .optional (.one (SlotTables.oneOfChars ":：#-")), SlotTables.blanks])
    order .nothing raw
  match labelled with
  | some number => some number
  | none => Regex.groupOf (.boundary tables.isWord) order (.boundary tables.isWord) raw

/-- The payment channels, in upper case. -/
def paymentChannels : List String :=
  ["GCASH", "MAYA", "PIX", "SPEI", "OXXO", "PSE", "NEQUI", "DAVIPLATA"]

/-- `extract_channel`. -/
def extractChannel (tables : SlotTables) (text : String) : Option String :=
  let raw := (strip text).toList
  let name (c : Char) : Bool :=
    tables.isLetter c || c.isDigit || SlotTables.oneOfChars "_-" c ||
      (0x4e00 ≤ c.toNat && c.toNat ≤ 0x9fff)
  let labelled := Regex.groupOf
    (.seq [
      .oneOf [tables.literals ["渠道", "通道", "channel", "canal", "via"],
        .seq [tables.literal "v", tables.letterOf "ií", tables.literal "a"]],
      SlotTables.blanks, .optional (.one (SlotTables.oneOfChars ":：-")), SlotTables.blanks])
    (.between 2 30 name) .nothing raw
  match labelled with
  | some channel => some (strip (String.ofList channel))
  | none =>
      (Regex.groupOf (.boundary tables.isWord) (tables.literals paymentChannels)
        (.boundary tables.isWord) raw).bind fun found =>
          paymentChannels.find? fun channel => (tables.literal channel).matchesAll found

/-- `is_wallet_or_receiving_account_change`. -/
def isWalletOrReceivingAccountChange (rt : Runtime) (tables : SlotTables) (text : String) : Bool :=
  let raw := rt.lower (strip text)
  raw ≠ "" && (extractChannel tables raw).isSome &&
    (Regex.oneOf [
      .seq [tables.literal "agreg", tables.literals ["ar", "ué", "ue", "ado"]],
      tables.literal "añadir",
      .seq [tables.literal "add", .optional (tables.literal "ed")],
      tables.literals ["change", "cambiar"],
      tables.phrase "otra cuenta", tables.phrase "another account",
      tables.literals ["billetera", "wallet"], tables.phrase "receiving account",
      tables.literals ["收款账户", "收款帳戶", "钱包", "錢包"]]).found raw.toList

/-- `is_explicit_human_request`. -/
def isExplicitHumanRequest (tables : SlotTables) (text : String) : Bool :=
  let raw := strip text
  containsAny raw ["真人客服", "人工客服"] ||
    (tables.wholeWords (.oneOf [
      tables.literals ["humano", "humana", "persona real", "agente", "asesor", "representante"],
      .seq [tables.literal "atenci", tables.letterOf "oó", tables.literal "n humana"],
      tables.literals ["live support", "human", "agent", "真人", "人工", "客服人员", "客服人員"]])).found
      raw.toList

/-- `extract_transaction_signal(text) is not None`. -/
def hasTransactionSignal (tables : SlotTables) (text : String) : Bool :=
  let raw := (strip text).toList
  let year : Regex Char := .optional
    (.seq [.one (SlotTables.oneOfChars "/-"), .between 2 4 tables.isDecimal])
  !raw.isEmpty &&
    ((tables.wholeWords (.oneOf [tables.literals ["ref", "referencia"],
        .seq [tables.literal "n", tables.letterOf "uú", tables.literal "mero"],
        tables.literals ["orden", "pedido"],
        .seq [tables.literal "transacci", tables.letterOf "oó", tables.literal "n"],
        tables.literal "id"])).found raw && tables.longNumber.found raw ||
      (tables.moneyAmount raw.length).found raw &&
        (tables.wholeWords (.oneOf [tables.literals ["monto", "valor", "cop"],
          .seq [tables.literal "peso", .optional (tables.literal "s")],
          .seq [tables.literal "deposit", tables.letterOf "eé"],
          .seq [tables.literal "dep", tables.letterOf "oó", tables.literal "sito"],
          .seq [tables.literal "retir", tables.letterOf "eé"],
          tables.literal "retiro",
          .seq [tables.literal "pagu", tables.letterOf "eé"],
          tables.literal "pago"])).found raw ||
      (tables.wholeWords (.seq [.between 1 2 tables.isDecimal,
        .one (SlotTables.oneOfChars "/-"), .between 1 2 tables.isDecimal, year])).found raw)

/-- `attachment_urls`. -/
def attachmentUrls (rt : Runtime) (attachments : List JsonObject) : List String :=
  (attachments.filter fun item => (getKey item "url").truthy).map fun item =>
    (getKey item "url").pyStr rt

example : extractIdentityFromText .plain .plain "mi telefono +57 300 123 4567" =
    some ⟨"phone", "+573001234567"⟩ := by decide +kernel

example : extractIdentity .plain .plain "usuario: maria_77" = some ⟨"username", "maria_77"⟩ := by
  decide +kernel

end AiCustomerService
