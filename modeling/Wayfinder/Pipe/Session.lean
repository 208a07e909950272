import Wayfinder.Pipe.Reply
import Wayfinder.Pipe.Request
import Wayfinder.Text.Blank

/-! A browser behind a pipe. The server at the far end writes one line when it is ready and then one
for each request; what it will write does not depend on when it is read, so a pipe is the lines
still to come and what has already passed over it. A session writes a request and then reads a line.
-/
namespace Wayfinder

inductive Traffic where
  | sent (r : Request)
  | received (line : ByteArray)
  | ended

def Traffic.request? : Traffic → Option Request
  | .sent r => some r
  | .received _ | .ended => none

structure Pipe where
  incoming : List ByteArray
  traffic : List Traffic := []
  listening : Bool := true
  /-- Whether the server stops reading when it is asked to quit. -/
  leaves : Bool := true

namespace Pipe

def written (p : Pipe) : List Request := p.traffic.filterMap Traffic.request?

def write (p : Pipe) (r : Request) : Except Fault Unit × Pipe :=
  if p.listening then
    (.ok (), { p with traffic := p.traffic ++ [.sent r], listening := r ≠ .quit || !p.leaves })
  else (.error (.pipe ("write " ++ r.command ++ ": Broken pipe (os error 32)")), p)

def closedText (context : String) : String :=
  "browser server closed its output while waiting for " ++ context

def readLine (context : String) (line : ByteArray) : Except Fault Reply :=
  match String.fromUTF8? line with
  | none => .error (.pipe ("read " ++ context ++ ": stream did not contain valid UTF-8"))
  | some text =>
    match Text.trim text.toList with
    | [] => .error (.pipe (closedText context))
    | cs =>
      match Reply.read? (String.ofList cs) with
      | some r => .ok r
      | none => .error (.unreadable context)

/-- Reads one line as a reply. A blank line is taken for the end of the output. -/
def read (p : Pipe) (context : String) : Except Fault Reply × Pipe :=
  match p.incoming with
  | [] => (.error (.pipe (closedText context)), { p with traffic := p.traffic ++ [.ended] })
  | line :: rest =>
    (readLine context line, { p with incoming := rest, traffic := p.traffic ++ [.received line] })

end Pipe

structure SessionOptions where
  serverScript : String := "node/browser_server.js"
  /-- How long to wait after each load or click, in milliseconds. -/
  settleTime : Nat := 500
deriving DecidableEq, Repr

structure Session where
  pipe : Pipe
  settleTime : Nat
  closed : Bool := false

namespace Session

/-- Waits for the server to report that it is ready; there is no pipe when it could not be
started. -/
def launch (options : SessionOptions) : Option Pipe → Except Fault Session
  | none => .error (.notStarted options.serverScript)
  | some pipe =>
    let (hello, pipe) := pipe.read "ready signal"
    match hello.bind (Reply.accepted "launch") with
    | .error e => .error e
    | .ok reply =>
      if reply.ready = some true then .ok { pipe, settleTime := options.settleTime }
      else .error (.refused "launch" "server did not report ready")

def exchange (r : Request) (s : Session) : Except Fault Reply × Session :=
  match s.pipe.write r with
  | (.error e, pipe) => (.error e, { s with pipe })
  | (.ok (), pipe) =>
    let (reply, pipe) := pipe.read r.command
    (reply.bind (Reply.accepted r.command), { s with pipe })

def settle (s : Session) : Except Fault Unit × Session :=
  if s.settleTime = 0 then (.ok (), s)
  else
    let (reply, s) := s.exchange (.wait s.settleTime)
    (reply.map fun _ => (), s)

def exchangeAndSettle (r : Request) (s : Session) : Except Fault Unit × Session :=
  match s.exchange r with
  | (.ok _, s) => s.settle
  | (.error e, s) => (.error e, s)

def answer : (c : Call) → Session → Except Fault c.Reply × Session
  | .currentUrl, s =>
    let (reply, s) := s.exchange .currentUrl
    (reply.bind fun r =>
      match r.url with
      | some url => .ok url
      | none => .error (.refused "current_url" "reply carried no url"), s)
  | .load url, s => s.exchangeAndSettle (.navigate url)
  | .click hint, s => s.exchangeAndSettle (.click hint)
  | .fill hint value, s =>
    let (reply, s) := s.exchange (.fill hint value)
    (reply.map fun _ => (), s)
  | .isVisible css, s =>
    let (reply, s) := s.exchange (.queryVisible css)
    (reply.map fun r => r.visible.getD false, s)
  | .textOf css, s =>
    let (reply, s) := s.exchange (.queryText css)
    (reply.map (·.text), s)
  | .count css, s =>
    let (reply, s) := s.exchange (.queryCount css)
    (reply.map fun r => r.count.getD 0, s)
  | .settle, s => s.settle

def browser : Browser Session := ⟨answer⟩

def quit (s : Session) : Session :=
  if s.closed then s else { (s.exchange .quit).2 with closed := true }

end Session
end Wayfinder
