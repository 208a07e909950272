import Wayfinder.Json.Text

/-! The trace of a navigation: one event per page looked at, step taken or page opened, each written
as a line of JSON and read back from it. -/
namespace Wayfinder

structure Event where
  navigation : Nat
  kind : String
  page : String
  dest : Option String := none
  step : Option String := none
  rule : Option String := none
  displayed : Option Bool := none
  url : Option String := none
deriving DecidableEq, Repr

/-- An event with the time at which it was logged, in milliseconds. -/
structure TimedEvent where
  time : Nat
  event : Event
deriving DecidableEq, Repr

namespace Event

def looked (navigation : Nat) (page : String) (displayed : Bool) : Event :=
  { navigation, kind := "backtrace", page, displayed := some displayed }

def stepped (navigation : Nat) (page dest step rule : String) : Event :=
  { navigation, kind := "step", page, dest := some dest, step := some step, rule := some rule }

def opened (navigation : Nat) (page : String) (url : Option String) : Event :=
  { navigation, kind := "open", page, url }

def fields (e : Event) : List (String × Json) :=
  [("navigation", .ofNat e.navigation), ("event", .str e.kind), ("page", .str e.page)]
    ++ Json.present
      [("dest", e.dest.map .str), ("step", e.step.map .str), ("rule", e.rule.map .str),
        ("displayed", e.displayed.map .bool), ("url", e.url.map .str)]

def encode (e : Event) : Json := .obj e.fields

end Event

namespace TimedEvent

def encode (e : TimedEvent) : Json := .obj (("timestamp_ms", .ofNat e.time) :: e.event.fields)

def line (e : TimedEvent) : String := e.encode.text

def fieldNames : List String :=
  ["timestamp_ms", "navigation", "event", "page", "dest", "step", "rule", "displayed", "url"]

def maxTime : Nat := 0xFFFFFFFFFFFFFFFFFFFFFFFFFFFFFFFF

def decode? (t : JsonText) : Option TimedEvent := do
  match ← t.fields? fieldNames with
  | [time, navigation, kind, page, dest, step, rule, displayed, url] =>
    let event : Event :=
      { navigation := ← navigation.bind (JsonText.natUpTo? maxWord)
        kind := ← kind.bind JsonText.string?
        page := ← page.bind JsonText.string?
        dest := ← JsonText.optional? JsonText.string? dest
        step := ← JsonText.optional? JsonText.string? step
        rule := ← JsonText.optional? JsonText.string? rule
        displayed := ← JsonText.optional? JsonText.bool? displayed
        url := ← JsonText.optional? JsonText.string? url }
    return ⟨← time.bind (JsonText.natUpTo? maxTime), event⟩
  | _ => none

def read? (line : String) : Option TimedEvent := (JsonText.read? line).bind decode?

def fileText (events : List TimedEvent) : String :=
  String.join (events.map fun e => e.line ++ "\n")

/-- Logging an event puts a line behind what the file holds. -/
def logged (file : String) (e : TimedEvent) : String := file ++ (e.line ++ "\n")

theorem foldl_logged (file : String) (es : List TimedEvent) :
    es.foldl logged file = file ++ fileText es := by
  induction es generalizing file with
  | nil => simp [fileText]
  | cons e es ih => simp [ih, logged, fileText, String.append_assoc]

end TimedEvent
end Wayfinder
