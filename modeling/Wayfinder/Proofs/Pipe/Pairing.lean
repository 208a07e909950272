import Mathlib
import Wayfinder.Proofs.Pipe.Rounds

/-! A session in use. Every use makes its rounds and nothing else, and it is a success only if all
of them were granted. However a session is used, its server is asked to quit at most once. -/
namespace Wayfinder

/-- What can be done with a session. To drop a session is to quit it. -/
inductive Use where
  | call (c : Call)
  | setPath (path : String)
  | quit

structure Usage where
  use : Use
  before : Session
  ok : Bool
  after : Session

def Use.run (s : Session) : Use → Bool × Session
  | .call c => ((s.answer c).1.isOk, (s.answer c).2)
  | .setPath path =>
    let (r, s') := Dialogue.run Session.browser (loadPath path).run s
    (r.isOk, s')
  | .quit => (true, s.quit)

def Use.carryOut (s : Session) (use : Use) : Usage :=
  { use, before := s, ok := (use.run s).1, after := (use.run s).2 }

def Use.request? : Use → Option Request
  | .call .currentUrl | .setPath _ => some .currentUrl
  | .call (.load url) => some (.navigate url)
  | .call (.click hint) => some (.click hint)
  | .call (.fill hint value) => some (.fill hint value)
  | .call (.isVisible css) => some (.queryVisible css)
  | .call (.textOf css) => some (.queryText css)
  | .call (.count css) => some (.queryCount css)
  | .call .settle | .quit => none

namespace Session

def usages : List Use → Session → List Usage
  | [], _ => []
  | use :: rest, s => use.carryOut s :: usages rest (use.carryOut s).after

def afterAll (uses : List Use) (s : Session) : Session :=
  uses.foldl (fun s use => (use.carryOut s).after) s

end Session

namespace Usage

def requests (u : Usage) : List Request :=
  u.after.pipe.written.drop u.before.pipe.written.length

def rounds (u : Usage) : List Round := u.before.pipe.rounds u.requests

/-- What a use has passed over the pipe and what it owes to that. -/
structure Paired (settleTime : Nat) (u : Usage) : Prop where
  traffic : u.after.pipe.traffic = u.before.pipe.traffic ++ u.rounds.flatMap Round.traffic
  granted : u.use ≠ .quit → u.ok = true → ∀ x ∈ u.rounds, x.granted = true
  settled : Round.Settled settleTime u.rounds
  first : u.before.pipe.listening = true →
    ∀ r, u.use.request? = some r → u.requests.head? = some r

end Usage

/-- A stretch of use that is none of quitting: what it leaves behind is what its requests make of
the pipe. -/
structure Conducted (s : Session) (ok : Bool) (rs : List Request) (s' : Session) : Prop where
  after : s' = { s with pipe := rs.foldl Pipe.past s.pipe }
  granted : ok = true → ∀ x ∈ s.pipe.rounds rs, x.granted = true
  settled : Round.Settled s.settleTime (s.pipe.rounds rs)
  stays : .quit ∉ rs

namespace Conducted
variable {s s' : Session} {ok : Bool} {r : Request} {rs : List Request}

theorem nil : Conducted s ok [] s where
  after := rfl
  granted := by simp [Pipe.rounds, Round.pair]
  settled := trivial
  stays := List.not_mem_nil

theorem cons (hquit : r ≠ .quit) (hgranted : ok = true → (s.pipe.round r).granted = true)
    (hsettled : r.settles = true →
      rs = if (s.pipe.round r).granted && 0 < s.settleTime then [.wait s.settleTime] else [])
    (hrest : Conducted { s with pipe := s.pipe.past r } ok rs s') :
    Conducted s ok (r :: rs) s' where
  after := hrest.after
  granted hok := by
    rw [Pipe.rounds_cons]
    exact List.forall_mem_cons.2 ⟨hgranted hok, hrest.granted hok⟩
  settled := by
    rw [Pipe.rounds_cons]
    exact ⟨fun h => (Pipe.request_of_rounds _ rs).trans (hsettled h), hrest.settled⟩
  stays := by
    rw [List.mem_cons, not_or]
    exact ⟨hquit.symm, hrest.stays⟩

theorem of_ok {ok' : Bool} (h : Conducted s ok rs s') (hok : ok' = true → ok = true) :
    Conducted s ok' rs s' :=
  ⟨h.after, fun h' => h.granted (hok h'), h.settled, h.stays⟩

end Conducted

theorem isOk_of_map {ε α β : Type} {f : α → β} (x : Except ε α) (h : (x.map f).isOk = true) :
    x.isOk = true := by
  cases x with
  | ok a => rfl
  | error e => exact h

theorem isOk_of_bind {ε α β : Type} {f : α → Except ε β} (x : Except ε α)
    (h : (x.bind f).isOk = true) : x.isOk = true := by
  cases x with
  | ok a => rfl
  | error e => exact h

namespace Session
variable {s : Session} {r : Request}

theorem exchange_of_listening (h : s.pipe.listening = true) (r : Request) :
    s.exchange r = ((s.pipe.round r).answer, { s with pipe := s.pipe.past r }) := by
  unfold exchange Pipe.write
  rw [if_pos h]
  unfold Pipe.read Pipe.past Round.answer Round.traffic Pipe.round
  cases s.pipe.incoming <;> simp [Except.bind]

theorem exchange_of_not_listening (h : s.pipe.listening = false) (r : Request) :
    ∃ e, s.exchange r = (.error e, s) := by
  unfold exchange Pipe.write
  simp [h]

theorem exchange_conducted (s : Session) (hsettles : r.settles = false) (hquit : r ≠ .quit) :
    ∃ rs, Conducted s (s.exchange r).1.isOk rs (s.exchange r).2 ∧
      (s.pipe.listening = true → rs = [r]) := by
  cases hlisten : s.pipe.listening with
  | true =>
    rw [exchange_of_listening hlisten]
    refine ⟨[r], .cons hquit ?_ ?_ .nil, fun _ => rfl⟩
    · rw [Round.answer_isOk]
      exact id
    · intro h
      rw [hsettles] at h
      cases h
  | false =>
    obtain ⟨e, hfail⟩ := exchange_of_not_listening hlisten r
    rw [hfail]
    exact ⟨[], .nil, fun h => nomatch h⟩

theorem settle_conducted (s : Session) :
    ∃ rs, Conducted s s.settle.1.isOk rs s.settle.2 ∧
      (s.pipe.listening = true → rs = if 0 < s.settleTime then [.wait s.settleTime] else []) := by
  unfold settle
  by_cases htime : s.settleTime = 0
  · rw [if_pos htime]
    exact ⟨[], .nil, fun _ => by rw [if_neg (by omega)]⟩
  · obtain ⟨rs, hcond, hrs⟩ := s.exchange_conducted (r := .wait s.settleTime) rfl (by simp)
    rw [if_neg htime]
    refine ⟨rs, hcond.of_ok (isOk_of_map _), fun h => ?_⟩
    rw [if_pos (by omega), hrs h]

theorem exchangeAndSettle_conducted (s : Session) (hquit : r ≠ .quit) :
    ∃ rs, Conducted s (s.exchangeAndSettle r).1.isOk rs (s.exchangeAndSettle r).2 ∧
      (s.pipe.listening = true → rs.head? = some r) := by
  unfold exchangeAndSettle
  cases hlisten : s.pipe.listening with
  | true =>
    rw [exchange_of_listening hlisten]
    have hanswer := (s.pipe.round r).answer_isOk
    cases h : (s.pipe.round r).answer with
    | ok reply =>
      have hgranted : (s.pipe.round r).granted = true := by rw [← hanswer, h]; rfl
      obtain ⟨rs, hcond, hrs⟩ := settle_conducted { s with pipe := s.pipe.past r }
      have hstill : (s.pipe.past r).listening = true := by simp [Pipe.past, hquit]
      refine ⟨r :: rs, hcond.cons hquit (fun _ => hgranted) fun _ => ?_, fun _ => rfl⟩
      simpa [hgranted] using hrs hstill
    | error e =>
      have hdenied : (s.pipe.round r).granted = false := by rw [← hanswer, h]; rfl
      refine ⟨[r], .cons hquit (fun hok => ?_) (fun _ => by simp [hdenied]) .nil, fun _ => rfl⟩
      cases hok
  | false =>
    obtain ⟨e, hfail⟩ := exchange_of_not_listening hlisten r
    rw [hfail]
    exact ⟨[], .nil, fun h => absurd h Bool.false_ne_true⟩

theorem answer_conducted (s : Session) (c : Call) :
    ∃ rs, Conducted s (s.answer c).1.isOk rs (s.answer c).2 ∧
      (s.pipe.listening = true → ∀ r, (Use.call c).request? = some r → rs.head? = some r) := by
  have hquery (r : Request) (hsettles : r.settles = false) (hquit : r ≠ .quit) {ok : Bool}
      (hok : ok = true → (s.exchange r).1.isOk = true) :
      ∃ rs, Conducted s ok rs (s.exchange r).2 ∧
        (s.pipe.listening = true → ∀ r', some r = some r' → rs.head? = some r') := by
    obtain ⟨rs, hcond, hrs⟩ := s.exchange_conducted hsettles hquit
    refine ⟨rs, hcond.of_ok hok, fun h r' hr' => ?_⟩
    rw [hrs h, ← hr']
    rfl
  have hpress (r : Request) (hquit : r ≠ .quit) :
      ∃ rs, Conducted s (s.exchangeAndSettle r).1.isOk rs (s.exchangeAndSettle r).2 ∧
        (s.pipe.listening = true → ∀ r', some r = some r' → rs.head? = some r') := by
    obtain ⟨rs, hcond, hrs⟩ := s.exchangeAndSettle_conducted hquit
    exact ⟨rs, hcond, fun h r' hr' => (hrs h).trans hr'⟩
  cases c with
  | currentUrl => exact hquery .currentUrl rfl nofun (isOk_of_bind _)
  | load url => exact hpress (.navigate url) nofun
  | click hint => exact hpress (.click hint) nofun
  | fill hint value => exact hquery (.fill hint value) rfl nofun (isOk_of_map _)
  | isVisible css => exact hquery (.queryVisible css) rfl nofun (isOk_of_map _)
  | textOf css => exact hquery (.queryText css) rfl nofun (isOk_of_map _)
  | count css => exact hquery (.queryCount css) rfl nofun (isOk_of_map _)
  | settle =>
    obtain ⟨rs, hcond, -⟩ := s.settle_conducted
    exact ⟨rs, hcond, fun _ _ hr => nomatch hr⟩

theorem loadPath_conducted (s : Session) (path : String) :
    ∃ rs, Conducted s (Dialogue.run browser (loadPath path).run s).1.isOk rs
        (Dialogue.run browser (loadPath path).run s).2 ∧
      (s.pipe.listening = true → rs.head? = some .currentUrl) := by
  rw [loadPath, Dialogue.run_bind, Dialogue.run_ask]
  have hask : browser.answer .currentUrl s = s.answer .currentUrl := rfl
  rw [hask]
  cases hlisten : s.pipe.listening with
  | true =>
    have hgranted : (s.answer .currentUrl).1.isOk = true →
        (s.pipe.round .currentUrl).granted = true := by
      rw [← Round.answer_isOk, answer, exchange_of_listening hlisten]
      exact isOk_of_bind _
    have hpast : (s.answer .currentUrl).2 = { s with pipe := s.pipe.past .currentUrl } := by
      rw [answer, exchange_of_listening hlisten]
    cases hurl : s.answer .currentUrl with
    | mk r s' =>
      rw [hurl] at hgranted hpast
      subst hpast
      cases r with
      | ok url =>
        cases horigin : Url.origin? url with
        | some origin =>
          obtain ⟨rs, hcond, -⟩ := answer_conducted _ (.load (Url.join origin path))
          refine ⟨.currentUrl :: rs, .cons nofun (fun _ => hgranted rfl) nofun ?_, fun _ => rfl⟩
          simp only [horigin]
          exact hcond
        | none =>
          refine ⟨[.currentUrl], .cons nofun (fun _ => hgranted rfl) nofun ?_, fun _ => rfl⟩
          simpa only [horigin, Dialogue.run_throw] using .nil
      | error e => exact ⟨[.currentUrl], .cons nofun nofun nofun .nil, fun _ => rfl⟩
  | false =>
    obtain ⟨e, hfail⟩ := exchange_of_not_listening hlisten .currentUrl
    rw [answer, hfail]
    exact ⟨[], .nil, fun h => nomatch h⟩

/-- The server has been asked to quit at most once, and never while the session is open. -/
def Quits (s : Session) : Prop := s.pipe.written.count .quit ≤ if s.closed then 1 else 0

structure Became (s : Session) (rs : List Request) (s' : Session) : Prop where
  pipe : s'.pipe = rs.foldl Pipe.past s.pipe
  settleTime : s'.settleTime = s.settleTime
  quits : s.Quits → s'.Quits

theorem Became.refl (s : Session) : s.Became [] s := ⟨rfl, rfl, id⟩

theorem Became.trans {s₁ s₂ s₃ : Session} {rs rs' : List Request} (h : s₁.Became rs s₂)
    (h' : s₂.Became rs' s₃) : s₁.Became (rs ++ rs') s₃ where
  pipe := by rw [h'.pipe, h.pipe, List.foldl_append]
  settleTime := h'.settleTime.trans h.settleTime
  quits hs := h'.quits (h.quits hs)

end Session

theorem Conducted.became {s s' : Session} {ok : Bool} {rs : List Request}
    (h : Conducted s ok rs s') : s.Became rs s' := by
  rw [h.after]
  refine ⟨rfl, rfl, fun hs => ?_⟩
  unfold Session.Quits at hs ⊢
  rwa [Pipe.written_foldl_past, List.count_append, List.count_eq_zero.2 h.stays, Nat.add_zero]

/-- To quit makes one round if the session is open, and none if it is not. -/
theorem Session.became_quit (s : Session) :
    ∃ rs, s.Became rs s.quit ∧ (rs = [] ∨ rs = [.quit]) := by
  obtain ⟨pipe, settleTime, closed⟩ := s
  cases closed with
  | true => exact ⟨[], .refl _, .inl rfl⟩
  | false =>
    have hquit : (⟨pipe, settleTime, false⟩ : Session).quit =
        { (Session.exchange .quit ⟨pipe, settleTime, false⟩).2 with closed := true } := rfl
    rw [hquit]
    cases hlisten : pipe.listening with
    | true =>
      rw [exchange_of_listening hlisten]
      refine ⟨[.quit], ⟨rfl, rfl, fun hs => ?_⟩, .inr rfl⟩
      have hwritten : (pipe.past .quit).written = pipe.written ++ [.quit] :=
        pipe.written_foldl_past [.quit]
      simpa [Quits, hwritten] using hs
    | false =>
      have hgone : (⟨pipe, settleTime, false⟩ : Session).pipe.listening = false := hlisten
      obtain ⟨e, hfail⟩ := exchange_of_not_listening hgone .quit
      rw [hfail]
      refine ⟨[], ⟨rfl, rfl, fun hs => ?_⟩, .inl rfl⟩
      exact Nat.le_trans hs (Nat.zero_le 1)

theorem Usage.requests_eq {u : Usage} {rs : List Request}
    (h : u.after.pipe = rs.foldl Pipe.past u.before.pipe) : u.requests = rs := by
  rw [requests, h, Pipe.written_foldl_past, List.drop_left]

namespace Use
variable (use : Use) (s : Session)

theorem conducted_carryOut (hquit : use ≠ .quit) :
    ∃ rs, Conducted s (use.carryOut s).ok rs (use.carryOut s).after ∧
      (s.pipe.listening = true → ∀ r, use.request? = some r → rs.head? = some r) := by
  cases use with
  | call c => exact s.answer_conducted c
  | setPath path =>
    obtain ⟨rs, hcond, hfirst⟩ := s.loadPath_conducted path
    exact ⟨rs, hcond, fun h r hr => (hfirst h).trans hr⟩
  | quit => contradiction

theorem became_carryOut : s.Became (use.carryOut s).requests (use.carryOut s).after := by
  obtain ⟨rs, hbecame⟩ : ∃ rs, s.Became rs (use.carryOut s).after := by
    by_cases hquit : use = .quit
    · subst hquit
      obtain ⟨rs, hbecame, -⟩ := s.became_quit
      exact ⟨rs, hbecame⟩
    · obtain ⟨rs, hcond, -⟩ := use.conducted_carryOut s hquit
      exact ⟨rs, hcond.became⟩
  rwa [Usage.requests_eq hbecame.pipe]

theorem paired_carryOut : (use.carryOut s).Paired s.settleTime := by
  have htraffic : (use.carryOut s).after.pipe.traffic =
      s.pipe.traffic ++ (use.carryOut s).rounds.flatMap Round.traffic := by
    rw [(use.became_carryOut s).pipe, Pipe.traffic_foldl_past]
    rfl
  have hrounds {rs : List Request} (h : (use.carryOut s).requests = rs) :
      (use.carryOut s).rounds = s.pipe.rounds rs := by
    rw [Usage.rounds, h]
    rfl
  by_cases hquit : use = .quit
  · subst hquit
    obtain ⟨rs, hbecame, hrs⟩ := s.became_quit
    refine ⟨htraffic, fun h => absurd rfl h, ?_, fun _ _ hr => nomatch hr⟩
    rw [hrounds (Usage.requests_eq hbecame.pipe)]
    obtain rfl | rfl := hrs
    · trivial
    · exact ⟨nofun, trivial⟩
  · obtain ⟨rs, hcond, hfirst⟩ := use.conducted_carryOut s hquit
    have hrequests : (use.carryOut s).requests = rs := Usage.requests_eq hcond.became.pipe
    constructor
    · exact htraffic
    · rw [hrounds hrequests]
      exact fun _ => hcond.granted
    · rw [hrounds hrequests]
      exact hcond.settled
    · rw [hrequests]
      exact hfirst

end Use

section Runs
variable {s : Session} {uses : List Use} {u : Usage}

theorem Session.became_afterAll : ∃ rs, s.Became rs (s.afterAll uses) := by
  induction uses generalizing s with
  | nil => exact ⟨[], .refl s⟩
  | cons use rest ih =>
    obtain ⟨rs, hrest⟩ := ih (s := (use.carryOut s).after)
    exact ⟨_, (use.became_carryOut s).trans hrest⟩

theorem Usage.of_mem (hu : u ∈ s.usages uses) :
    (∃ rs, s.Became rs u.before) ∧ u = u.use.carryOut u.before := by
  induction uses generalizing s with
  | nil => simp [Session.usages] at hu
  | cons use rest ih =>
    obtain rfl | hu := List.mem_cons.1 hu
    · exact ⟨⟨[], .refl s⟩, rfl⟩
    · obtain ⟨⟨rs, hrest⟩, htook⟩ := ih hu
      exact ⟨⟨_, (use.became_carryOut s).trans hrest⟩, htook⟩

end Runs

theorem Session.eq_of_launch {options : SessionOptions} {pipe : Pipe} {s : Session}
    (h : Session.launch options (some pipe) = .ok s) :
    ∃ hello rest, pipe.incoming = hello :: rest ∧
      s = { pipe := { pipe with incoming := rest, traffic := pipe.traffic ++ [.received hello] }
            settleTime := options.settleTime } := by
  unfold Session.launch Pipe.read at h
  cases hincoming : pipe.incoming with
  | nil => simp [hincoming, Except.bind] at h
  | cons hello rest =>
    refine ⟨hello, rest, rfl, ?_⟩
    simp only [hincoming] at h
    split at h
    · cases h
    · split at h
      · exact (Except.ok.inj h).symm
      · cases h

/-- Every request that goes over a pipe has the reply that is its own. What passes over the pipe of
a session is the greeting and then a request and a line, or the end, by turns; the lines are those
of the server in their order. A use is a success only if all that it asked for was granted, a
navigation or a click that was granted is followed by one wait when there is a time to wait and by
nothing otherwise, and there is at most one request to quit. -/
theorem requests_are_paired {options : SessionOptions} {pipe : Pipe} {s : Session}
    (hnew : pipe.traffic = []) (hlaunch : Session.launch options (some pipe) = .ok s)
    (uses : List Use) :
    (∃ hello rest, pipe.incoming = hello :: rest ∧
      (s.afterAll uses).pipe.traffic =
        .received hello ::
          (Round.pair (s.afterAll uses).pipe.written rest).flatMap Round.traffic) ∧
    (s.afterAll uses).pipe.written.count .quit ≤ 1 ∧
    ∀ u ∈ s.usages uses,
      u.Paired options.settleTime ∧
      (pipe.listening = true → pipe.leaves = false → u.before.pipe.listening = true) := by
  obtain ⟨hello, rest, hincoming, hs⟩ := Session.eq_of_launch hlaunch
  have htraffic : s.pipe.traffic = [.received hello] := by rw [hs, hnew]; rfl
  have hwritten : s.pipe.written = [] := by rw [Pipe.written, htraffic]; rfl
  have hquits : s.Quits := by
    rw [Session.Quits, hwritten]
    exact Nat.zero_le _
  obtain ⟨rs, hall⟩ : ∃ rs, s.Became rs (s.afterAll uses) := Session.became_afterAll
  refine ⟨⟨hello, rest, hincoming, ?_⟩, ?_, fun u hu => ?_⟩
  · rw [hall.pipe, Pipe.written_foldl_past, hwritten, List.nil_append, Pipe.traffic_foldl_past,
      htraffic, Pipe.rounds, hs]
    rfl
  · exact Nat.le_trans (hall.quits hquits) (by split <;> decide)
  · obtain ⟨⟨rs, hbefore⟩, htook⟩ := Usage.of_mem hu
    refine ⟨?_, fun hlisten hleaves => ?_⟩
    · rw [htook, show options.settleTime = u.before.settleTime by rw [hbefore.settleTime, hs]]
      exact u.use.paired_carryOut u.before
    · rw [hbefore.pipe]
      exact Pipe.listening_foldl_past rs (by rw [hs]; exact hleaves) (by rw [hs]; exact hlisten)

def moody : Pipe where
  incoming :=
    ["\x7b\"ok\":true,\"ready\":true\x7d".toUTF8, "\x7b\"ok\":true\x7d".toUTF8, "what?".toUTF8,
      "\x7b\"ok\":false\x7d".toUTF8, "?".toUTF8]
  leaves := false

def mood : Session where
  pipe :=
    { moody with
      incoming := moody.incoming.tail
      traffic := [.received "\x7b\"ok\":true,\"ready\":true\x7d".toUTF8] }
  settleTime := 500

def moodyUses : List Use := [.call (.load "http://h/"), .call .currentUrl, .quit, .quit]

theorem moody_is_paired :
    Session.launch {} (some moody) = .ok mood ∧
      (∃ hello rest, moody.incoming = hello :: rest ∧
        (mood.afterAll moodyUses).pipe.traffic =
          .received hello ::
            (Round.pair [.navigate "http://h/", .wait 500, .currentUrl, .quit] rest).flatMap
              Round.traffic) ∧
      ∀ u ∈ mood.usages moodyUses, u.Paired 500 ∧ u.before.pipe.listening = true := by
  have hlaunch : Session.launch {} (some moody) = .ok mood := by cbv
  have hwritten : (mood.afterAll moodyUses).pipe.written =
      [.navigate "http://h/", .wait 500, .currentUrl, .quit] := by cbv
  obtain ⟨⟨hello, rest, hincoming, htraffic⟩, -, huses⟩ :=
    requests_are_paired rfl hlaunch moodyUses
  refine ⟨hlaunch, ⟨hello, rest, hincoming, ?_⟩, fun u hu => ?_⟩
  · rw [htraffic, hwritten]
  · exact ⟨(huses u hu).1, (huses u hu).2 rfl rfl⟩

end Wayfinder
