import Wayfinder.Browser.Hint

/-! Requests to the browser server, one line of JSON each. -/
namespace Wayfinder

inductive Request where
  | navigate (url : String)
  | click (hint : Hint)
  | fill (hint : Hint) (value : String)
  | wait (duration : Nat)
  | currentUrl
  | queryText (css : String)
  | queryVisible (css : String)
  | queryCount (css : String)
  | quit
deriving DecidableEq, Repr

namespace Request

def command : Request → String
  | .navigate _ => "navigate"
  | .click _ => "click"
  | .fill _ _ => "fill"
  | .wait _ => "wait"
  | .currentUrl => "current_url"
  | .queryText _ => "query_text"
  | .queryVisible _ => "query_visible"
  | .queryCount _ => "query_count"
  | .quit => "quit"

/-- An interaction with the page is an action within the command `action`. -/
def encode (r : Request) : Json :=
  let cmd (name : String) (rest : List (String × Json)) : Json := .obj (("cmd", .str name) :: rest)
  let action (rest : List (String × Json)) := cmd "action" (("action", .str r.command) :: rest)
  match r with
  | .navigate url => cmd r.command [("url", .str url)]
  | .click hint => action [("selector", hint.encode)]
  | .fill hint value => action [("selector", hint.encode), ("value", .str value)]
  | .wait duration => action [("duration_ms", .ofNat duration)]
  | .currentUrl | .quit => cmd r.command []
  | .queryText css | .queryVisible css | .queryCount css => cmd r.command [("selector", .str css)]

def line (r : Request) : String := r.encode.text

end Request
end Wayfinder
