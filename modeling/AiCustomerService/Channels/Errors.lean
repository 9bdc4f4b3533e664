import AiCustomerService.Python.Json
import Mathlib.Data.List.Infix

/-!
# Exceptions of the services

`LiveChatApiError` and `TelegramApiError` with the fields that the workers look
at, next to the timeouts, connection errors and remaining exceptions of a call.
-/

namespace AiCustomerService

open Support

/-- An exception that a worker may catch. -/
inductive ServiceError where
  | livechatApi (status : Int) (data : JsonObject)
  | telegramApi (description : String) (status errorCode : Option Int)
      (data : Option JsonObject) (retryable : Bool)
  | timeout (message : String)
  | connection (message : String)
  | python (error : PyError)
  | other (message : String)

/-- `str(exc)` of an exception of the language. -/
def PyError.text : PyError → String
  | .valueError message => message
  | .typeError message => message
  | .keyError key => "'" ++ key ++ "'"
  | .attributeError message => message
  | .schemaError message => message
  | .databaseError message => message

/-- `str(exc)`. -/
def ServiceError.text (rt : Runtime) : ServiceError → String
  | .livechatApi status data =>
      "LiveChat API returned HTTP " ++ toString status ++ ": " ++ rt.reprContainer (.obj data)
  | .telegramApi description _ _ _ _ => description
  | .timeout message => message
  | .connection message => message
  | .python error => error.text
  | .other message => message

/-- `needle in text`. -/
def textContains (text needle : String) : Bool := decide (needle.toList <:+: text.toList)

/-- `any(marker in text for marker in markers)`. -/
def containsAny (text : String) (markers : List String) : Bool :=
  markers.any (textContains text)

end AiCustomerService
