import Wayfinder.Browser.Hint
import Wayfinder.Page.Template

/-! Navigation specs: a test as a list of steps, and what a run of it comes to. -/
namespace Wayfinder

inductive Assertion where
  | urlContains (expected : String)
  | urlEquals (expected : String)
  | pageDisplayed (page : String) (args : Args)
  | elementText (selector expected : String)
  | elementVisible (selector : String)
  | elementCount (selector : String) (expected : Nat)

def Assertion.kind : Assertion → String
  | .urlContains _ => "UrlContains"
  | .urlEquals _ => "UrlEquals"
  | .pageDisplayed _ _ => "PageDisplayed"
  | .elementText _ _ => "ElementText"
  | .elementVisible _ => "ElementVisible"
  | .elementCount _ _ => "ElementCount"

inductive SpecStep where
  | openPage (page url : Option String) (args : Args)
  | navigate (page : String) (args : Args)
  | click (hint : Hint)
  | fill (hint : Hint) (value : String)
  | check (assertions : List Assertion)

structure Spec where
  name : String
  startUrl : Option String := none
  steps : List SpecStep

structure Verdict where
  stepIndex : Nat
  assertion : Assertion
  passed : Bool
  actual : Option String
  message : Option String

structure SpecResult where
  specName : String
  passed : Bool
  stepsRun : Nat
  pages : List String
  verdicts : List Verdict
  error : Option String

structure Progress where
  stepIndex : Nat := 0
  pages : List String := []
  verdicts : List Verdict := []

namespace Progress

def addPage (p : Progress) (name : String) : Progress := { p with pages := p.pages ++ [name] }

def addVerdicts (p : Progress) (vs : List Verdict) : Progress :=
  { p with verdicts := p.verdicts ++ vs }

def allPassed (p : Progress) : Bool := p.verdicts.all (·.passed)

def failCount (p : Progress) : Nat := p.verdicts.countP (!·.passed)

theorem allPassed_iff_failCount (p : Progress) : p.allPassed = true ↔ p.failCount = 0 := by
  simp [allPassed, failCount, List.countP_eq_zero]

end Progress
end Wayfinder
