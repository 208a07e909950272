import Wayfinder.Route.Rule

/-! What a navigator does with a browser, as data. Each deed is about a page or a URL; a course is a
script whose questions are deeds. A navigator carries out a deed by a dialogue with the browser. -/
namespace Wayfinder
variable {ρ : Type} [PageFamily ρ]

structure NavigatorSettings where
  maxBacktraceDepth : Nat := 32
  /-- The origin on which pages are opened; the open one when there is none. -/
  baseUrl : Option String := none
  tracePath : Option String := none
deriving DecidableEq, Repr

structure Navigator where
  rules : List Rule := Rule.inOrder
  settings : NavigatorSettings := {}

def Navigator.loadPage (nav : Navigator) (p : Page ρ) : Attempt Fault Unit :=
  match nav.settings.baseUrl with
  | some base => ask (.load (Url.join base p.path))
  | none => loadPath p.path

inductive Deed (ρ : Type) where
  | look (p : Page ρ)
  /-- Builds the page displayed last once more. -/
  | recall (shown : Option (ρ × Args))
  /-- Looks whether the page displayed last still is. -/
  | recheck (p : Page ρ)
  | hop (p dest : Page ρ) (args : Args)
  | load (url : String)
  | loadPage (p : Page ρ)
  | arrive (p : Page ρ)

namespace Deed

abbrev Reply : Deed ρ → Type
  | .look _ | .recheck _ => Bool
  | .recall _ => Option (Page ρ)
  | .hop _ _ _ => Taken
  | .load _ | .loadPage _ => Unit
  | .arrive _ => Notes

abbrev Outcome (d : Deed ρ) : Type := Except RouteError d.Reply

def rebuild : Option (ρ × Args) → Except RouteError (Option (Page ρ))
  | none => .ok none
  | some (c, args) => (PageFamily.build c args).map some

def attempt (nav : Navigator) : (d : Deed ρ) → Attempt RouteError d.Reply
  | .look p | .recheck p => p.isDisplayed.adapt .browser
  | .recall shown => ExceptT.mk (.done (rebuild shown))
  | .hop p dest args => p.steps.dispatch nav.rules dest args
  | .load url => (ask (.load url)).adapt .browser
  | .loadPage p => (nav.loadPage p).adapt .browser
  | .arrive p => p.arrive

end Deed

abbrev Course (ρ : Type) : Type → Type := Script (Deed ρ) Deed.Outcome

def Course.play (nav : Navigator) (course : Course ρ α) : Dialogue α :=
  course.interpret fun d => (d.attempt nav).run

end Wayfinder
