import Wayfinder.Pipe.Session

/-! Rounds on a pipe: a request goes out, then one line comes in or the output is found to have
ended. Whatever is done with a session, what passes over its pipe is one round after another, so
that the lines are read for the requests in their order and no answer is taken for that of another
request. -/
namespace Wayfinder

/-- A request and the line that is read for it; none when the output has ended. -/
structure Round where
  request : Request
  line? : Option ByteArray

def Reply.ofLine? (line : ByteArray) : Option Reply :=
  (String.fromUTF8? line).bind fun text => Reply.read? (String.ofList (Text.trim text.toList))

def Request.settles : Request → Bool
  | .navigate _ | .click _ => true
  | .fill _ _ | .wait _ | .currentUrl | .queryText _ | .queryVisible _ | .queryCount _ | .quit =>
    false

namespace Round

def traffic (r : Round) : List Traffic :=
  [.sent r.request, match r.line? with
    | some line => .received line
    | none => .ended]

def granted (r : Round) : Bool := (r.line?.bind Reply.ofLine?).any (·.ok)

def answer (r : Round) : Except Fault Reply :=
  match r.line? with
  | some line => (Pipe.readLine r.request.command line).bind (Reply.accepted r.request.command)
  | none => .error (.pipe (Pipe.closedText r.request.command))

/-- The requests with the lines to come, one line for each as long as there are any. -/
def pair : List Request → List ByteArray → List Round
  | [], _ => []
  | r :: rs, lines => ⟨r, lines.head?⟩ :: pair rs lines.tail

/-- After a request that is to settle there is one wait if the request was granted and there is a
time to wait, and otherwise nothing. -/
def Settled (time : Nat) : List Round → Prop
  | [] => True
  | r :: rest =>
    (r.request.settles = true →
      rest.map request = if r.granted && 0 < time then [.wait time] else []) ∧ Settled time rest

end Round

theorem Reply.read?_empty : Reply.read? "" = none := rfl

theorem Pipe.readLine_eq_ok_iff {context : String} {line : ByteArray} {reply : Reply} :
    Pipe.readLine context line = .ok reply ↔ Reply.ofLine? line = some reply := by
  unfold Pipe.readLine Reply.ofLine?
  cases String.fromUTF8? line with
  | none => simp
  | some text =>
    simp only [Option.bind_some]
    cases Text.trim text.toList with
    | nil => simp [Reply.read?_empty]
    | cons c cs =>
      dsimp only
      cases Reply.read? (String.ofList (c :: cs)) <;> simp

theorem Round.answer_isOk (r : Round) : r.answer.isOk = r.granted := by
  obtain ⟨request, line?⟩ := r
  cases line? with
  | none => rfl
  | some line =>
    unfold answer granted
    cases hread : Pipe.readLine request.command line with
    | ok reply =>
      have hline := Pipe.readLine_eq_ok_iff.1 hread
      cases hok : reply.ok <;>
        simp [hline, hok, Except.bind, Reply.accepted, Except.isOk, Except.toBool, hread]
    | error e =>
      have hline : Reply.ofLine? line = none := by
        refine Option.eq_none_iff_forall_ne_some.2 fun reply hreply => ?_
        rw [Pipe.readLine_eq_ok_iff.2 hreply] at hread
        cases hread
      simp [hline, Except.bind, Except.isOk, Except.toBool, hread]

namespace Pipe
variable (p : Pipe) (r : Request) (rs : List Request)

def round : Round := ⟨r, p.incoming.head?⟩

def past : Pipe :=
  { p with
    incoming := p.incoming.tail
    traffic := p.traffic ++ (p.round r).traffic
    listening := r ≠ .quit || !p.leaves }

def rounds : List Round := Round.pair rs p.incoming

theorem rounds_cons : p.rounds (r :: rs) = p.round r :: (p.past r).rounds rs := rfl

theorem request_of_rounds : (p.rounds rs).map Round.request = rs := by
  induction rs generalizing p with
  | nil => rfl
  | cons r rs ih => rw [rounds_cons, List.map_cons, ih]; rfl

theorem traffic_foldl_past :
    (rs.foldl past p).traffic = p.traffic ++ (p.rounds rs).flatMap Round.traffic := by
  induction rs generalizing p with
  | nil => simp [rounds, Round.pair]
  | cons r rs ih => rw [List.foldl_cons, ih, rounds_cons]; simp [past]

theorem written_foldl_past : (rs.foldl past p).written = p.written ++ rs := by
  have hrequest (x : Round) : x.traffic.filterMap Traffic.request? = [x.request] := by
    obtain ⟨r, line?⟩ := x
    cases line? <;> rfl
  simp only [written, traffic_foldl_past, List.filterMap_append, List.filterMap_flatMap, hrequest]
  rw [← List.map_eq_flatMap, request_of_rounds]

theorem listening_foldl_past {p : Pipe} (hleaves : p.leaves = false) (hp : p.listening = true) :
    (rs.foldl past p).listening = true := by
  induction rs generalizing p with
  | nil => exact hp
  | cons r rs ih => exact ih hleaves (by simp [past, hleaves])

end Pipe
end Wayfinder
