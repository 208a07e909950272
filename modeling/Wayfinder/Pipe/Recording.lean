import Wayfinder.Host.Basic
import Wayfinder.Pipe.Session
import Wayfinder.Text.Hex
import Wayfinder.Text.Split

/-! Browser servers that only play back. A script is a list of replies, the first for the greeting
and then one for each request; a reply is a text or the bytes of one and may run over several lines.
The requests go to a log beside the script. -/
namespace Wayfinder

def replyBytes? : Json → Option (List UInt8)
  | .str s => some s.toUTF8.toList
  | .obj [("hex", .str digits)] => Text.hexBytes? digits.toList
  | _ => none

def newline : UInt8 := 10

def replyLines : List Json → List ByteArray
  | [] => []
  | reply :: rest =>
    match replyBytes? reply with
    | some bytes => (Text.split newline bytes).map (⟨·.toArray⟩) ++ replyLines rest
    | none => []

namespace Pipe

def ofReplies (replies : List Json) : Pipe := { incoming := replyLines replies }

def closed : Pipe := { incoming := [], listening := false }

end Pipe

namespace Recording
variable {m : Type → Type} [Monad m] [Host m]

def logPath (script : String) : String := script ++ ".log"

def replies? (script : Except FileFault String) : Option (List Json) :=
  match script with
  | .error _ => none
  | .ok text =>
    match Json.read? text with
    | some (.arr replies) => some replies
    | _ => none

def start (script : String) : m Pipe := do
  match replies? (← Host.readText script) with
  | some replies =>
    let _ ← Host.append (logPath script) .empty
    return .ofReplies replies
  | none => return .closed

def finish (script : String) (pipe : Pipe) : m Unit := do
  if pipe.written.isEmpty then return
  let _ ← Host.append (logPath script) (String.join (pipe.written.map (·.line ++ "\n"))).toUTF8

end Recording
end Wayfinder
