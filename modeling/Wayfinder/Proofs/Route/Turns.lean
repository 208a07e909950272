import Wayfinder.Proofs.Route.Account
import Wayfinder.Sample.House

/-! A navigator in use: turns taken one after another with one memory and one browser. Every episode
of such a run has its account, whatever came before it. -/
namespace Wayfinder
variable {ρ σ : Type}

inductive Turn (ρ σ : Type) where
  | navigate (c : ρ) (args : Args)
  | openPage (c : Option ρ) (url : Option String) (args : Args)
  | handle (f : σ → σ)

/-- What a turn came to, between two states of the memory and of the browser. -/
structure Episode (ρ σ : Type) where
  turn : Turn ρ σ
  before : Memory ρ
  start : σ
  result : Except RouteError (Option (Page ρ))
  history : List (Done ρ)
  after : Memory ρ
  finish : σ

variable [PageFamily ρ]

namespace Turn

def take (nav : Navigator) (b : Browser σ) (m : Memory ρ) (s : σ) : Turn ρ σ → Episode ρ σ
  | .navigate c args =>
    let ((r, m'), s') := Dialogue.run b ((nav.navigate c args).run.run m) s
    { turn := .navigate c args, before := m, start := s, result := r.map some
      history := ((nav.navigation c args).made nav b m s).history, after := m', finish := s' }
  | .openPage c url args =>
    let ((r, m'), s') := Dialogue.run b ((nav.openPage c url args).run.run m) s
    { turn := .openPage c url args, before := m, start := s, result := r
      history := ((Navigator.opening c url args).made nav b m s).history, after := m'
      finish := s' }
  | .handle f =>
    { turn := .handle f, before := m, start := s, result := .ok none, history := []
      after := m, finish := f s }

end Turn

namespace Navigator

def episodes (nav : Navigator) (b : Browser σ) :
    List (Turn ρ σ) → Memory ρ → σ → List (Episode ρ σ)
  | [], _, _ => []
  | t :: rest, m, s =>
    let e := t.take nav b m s
    e :: nav.episodes b rest e.after e.finish

end Navigator

def Episode.calls (nav : Navigator) (b : Browser σ) (e : Episode ρ σ) :
    List (Exchange Call fun c => Except Fault c.Reply) :=
  match e.turn with
  | .navigate c args => Script.history b.answer ((nav.navigate c args).run.run e.before) e.start
  | .openPage c url args =>
    Script.history b.answer ((nav.openPage c url args).run.run e.before) e.start
  | .handle _ => []

/-- The account of an episode, by the kind of its turn. -/
inductive Episode.Accounted (nav : Navigator) : Episode ρ σ → Prop
  | navigate {c args before start history r after finish}
      (h : Navigated nav c args before history r after) :
      Accounted nav ⟨.navigate c args, before, start, r.map some, history, after, finish⟩
  | openPage {c url args before start history r after finish}
      (h : Opened args before c url history r after) :
      Accounted nav ⟨.openPage c url args, before, start, r, history, after, finish⟩
  | handle {f before start finish} :
      Accounted nav ⟨.handle f, before, start, .ok none, [], before, finish⟩

variable (nav : Navigator) (b : Browser σ)

namespace Turn
variable (t : Turn ρ σ) (m : Memory ρ) (s : σ)

@[simp] theorem take_turn : (t.take nav b m s).turn = t := by cases t <;> rfl

@[simp] theorem take_before : (t.take nav b m s).before = m := by cases t <;> rfl

@[simp] theorem take_start : (t.take nav b m s).start = s := by cases t <;> rfl

theorem take_navigate (c : ρ) (args : Args) :
    (Turn.navigate c args).take nav b m s =
      let o := (nav.navigation c args).made nav b m s
      { turn := .navigate c args, before := m, start := s, result := o.result.map some
        history := o.history, after := o.memory, finish := o.state } := by
  have hplay := Trip.made_play nav b m s (nav.navigation c args)
  simp only [Turn.take, Navigator.navigate, hplay]

theorem take_navigate_result (c : ρ) (args : Args) :
    ((Turn.navigate c args).take nav b m s).result =
      ((nav.navigation c args).made nav b m s).result.map some := by
  rw [take_navigate]

theorem take_openPage (c : Option ρ) (url : Option String) (args : Args) :
    (Turn.openPage c url args).take nav b m s =
      let o := (Navigator.opening c url args).made nav b m s
      { turn := .openPage c url args, before := m, start := s, result := o.result
        history := o.history, after := o.memory, finish := o.state } := by
  have hplay := Trip.made_play nav b m s (Navigator.opening c url args)
  simp only [Turn.take, Navigator.openPage, hplay]

theorem take_accounted : (t.take nav b m s).Accounted nav := by
  cases t with
  | navigate c args =>
    have haccount := nav.navigated_navigation b c args m s
    have hplay := Trip.made_play nav b m s (nav.navigation c args)
    simpa only [Turn.take, Navigator.navigate, hplay] using .navigate haccount
  | openPage c url args =>
    have haccount := Navigator.opened_opening nav b c url args m s
    have hplay := Trip.made_play nav b m s (Navigator.opening c url args)
    simpa only [Turn.take, Navigator.openPage, hplay] using .openPage haccount
  | handle f => exact .handle

theorem calls_take :
    ∃ deeds : List (Deed ρ × σ),
      deeds.map Prod.fst = (t.take nav b m s).history.map Exchange.question ∧
      (t.take nav b m s).calls nav b =
        deeds.flatMap fun x => Script.history b.answer (x.1.attempt nav).run x.2 := by
  cases t with
  | navigate c args => exact Trip.calls_play nav b m s (nav.navigation c args)
  | openPage c url args => exact Trip.calls_play nav b m s (Navigator.opening c url args)
  | handle f => exact ⟨[], rfl, rfl⟩

end Turn

section Runs
variable {nav b} {turns : List (Turn ρ σ)} {m : Memory ρ} {s : σ} {e : Episode ρ σ}

theorem eq_take_of_mem (he : e ∈ nav.episodes b turns m s) :
    e = e.turn.take nav b e.before e.start := by
  induction turns generalizing m s with
  | nil => simp [Navigator.episodes] at he
  | cons t rest ih =>
    obtain rfl | he := List.mem_cons.1 he
    · simp
    · exact ih he

theorem accounted_of_mem (he : e ∈ nav.episodes b turns m s) : e.Accounted nav := by
  rw [eq_take_of_mem he]
  exact e.turn.take_accounted nav b e.before e.start

/-- What holds at first and is kept by every turn holds before and after each episode. -/
theorem episodes_invariant {P : Memory ρ → Prop}
    (hkeep : ∀ (t : Turn ρ σ) m s, P m → P (t.take nav b m s).after) (hm : P m)
    (he : e ∈ nav.episodes b turns m s) : P e.before ∧ P e.after := by
  induction turns generalizing m s with
  | nil => simp [Navigator.episodes] at he
  | cons t rest ih =>
    have hafter := hkeep t m s hm
    obtain rfl | he := List.mem_cons.1 he
    · exact ⟨by simpa using hm, hafter⟩
    · exact ih hafter he

end Runs
namespace House

theorem look_hall : (Deed.look hallPage).carryOut {} lamp "#hall" = (.ok true, "#hall") :=
  Deed.carryOut_look_of_run {} (run_isDisplayed_hall "#hall")

theorem look_attic : (Deed.look atticPage).carryOut {} lamp "#hall" = (.ok false, "#hall") :=
  Deed.carryOut_look_of_run {} (run_isDisplayed_attic "#hall")

def climbed (m : Memory SitePage) : Episode SitePage String where
  turn := .navigate attic ∅
  before := m
  start := "#hall"
  result := .ok (some atticPage)
  history :=
    [⟨.look atticPage, .ok false⟩, ⟨.look hallPage, .ok true⟩,
      ⟨.hop hallPage atticPage ∅, .ok ⟨.className, "climb"⟩⟩, ⟨.arrive atticPage, .ok []⟩]
  after :=
    let seen := (m.next.visited atticPage ∅ false).visited hallPage ∅ true
    let stepped := (seen.along ["Attic", "Hall"]).stepped hallPage atticPage ⟨.className, "climb"⟩
    stepped.remember attic ∅
  finish := "#attic"

theorem take_navigate (m : Memory SitePage) :
    (Turn.navigate attic ∅).take {} lamp m "#hall" = climbed m := by
  have hnew : PageFamily.same atticPage.cls hall = false := rfl
  have hback (m : Memory SitePage) : (Navigator.backtrace {} attic ∅).made {} lamp m "#hall" =
      ⟨.ok { target := atticPage, hops := [hallPage], anchored := true },
        (m.visited atticPage ∅ false).visited hallPage ∅ true,
        [⟨.look atticPage, .ok false⟩, ⟨.look hallPage, .ok true⟩], "#hall"⟩ := by
    simp [Navigator.backtrace, Navigator.climb, Navigator.made_visit, build_attic, build_hall,
      look_attic, look_hall, Page.seen, prerequisite_attic, PathChain.contains, PathChain.pages,
      PathChain.push, hnew]
  have hhop : (Deed.hop hallPage atticPage ∅).carryOut {} lamp "#hall" =
      (.ok ⟨.className, "climb"⟩, "#attic") := run_dispatch "#hall"
  have harrive : (Deed.arrive atticPage).carryOut {} lamp "#attic" = (.ok [], "#attic") := rfl
  have hplay := Trip.made_play {} lamp m "#hall" (Navigator.navigation {} attic ∅)
  simp only [Turn.take, Navigator.navigate, hplay, Navigator.made_navigation, hback,
    Made.andThen_ok]
  simp [Navigator.replay, PathChain.forward, Navigator.walk, Navigator.made_advance, hhop, harrive]
  rfl

theorem climbed_mem (m : Memory SitePage) :
    climbed m ∈ Navigator.episodes {} lamp [.navigate attic ∅] m "#hall" := by
  rw [← take_navigate]
  exact List.mem_cons_self

end House
end Wayfinder
