import Wayfinder.Browser.Dialogue
import Wayfinder.Json.Text

/-! Replies of the browser server. Only the fields that the request calls for are present. -/
namespace Wayfinder

structure Reply where
  ok : Bool
  error : Option String := none
  ready : Option Bool := none
  url : Option String := none
  text : Option String := none
  visible : Option Bool := none
  count : Option Nat := none
deriving DecidableEq, Repr

namespace Reply

def fieldNames : List String := ["ok", "error", "ready", "url", "text", "visible", "count"]

def maxCount : Nat := 0xFFFFFFFF

def decode? (t : JsonText) : Option Reply := do
  match ← t.fields? fieldNames with
  | [ok, error, ready, url, text, visible, count] =>
    return {
      ok := ← ok.bind JsonText.bool?
      error := ← JsonText.optional? JsonText.string? error
      ready := ← JsonText.optional? JsonText.bool? ready
      url := ← JsonText.optional? JsonText.string? url
      text := ← JsonText.optional? JsonText.string? text
      visible := ← JsonText.optional? JsonText.bool? visible
      count := ← JsonText.optional? (JsonText.natUpTo? maxCount) count }
  | _ => none

def read? (line : String) : Option Reply := (JsonText.read? line).bind decode?

def accepted (command : String) (r : Reply) : Except Fault Reply :=
  if r.ok then .ok r else .error (.refused command (r.error.getD "no error message"))

end Reply
end Wayfinder
