import Wayfinder.Route.Navigator
import Wayfinder.Spec.Basic
import Wayfinder.Text.Lowercase

/-! Running a spec. An assertion only looks: what it finds goes into its verdict, also when it could
not be decided. Any other step that fails ends the run. -/
namespace Wayfinder
variable {ρ : Type} [PageFamily ρ]

/-- What an assertion found; `complaint` is its message in case it does not hold. -/
structure Finding where
  passed : Bool
  actual : Option String
  complaint : String

def boolText (b : Bool) : String := if b then "true" else "false"

def matchesText (expected text : String) : Bool :=
  Text.contains (Text.lowercase expected).toList (Text.lowercase text).toList

namespace Assertion

def askPage (c : Call) : Attempt RouteError c.Reply := (ask c).adapt .browser

def buildPage (catalog : Catalog ρ) (page : String) (args : Args) :
    Except RouteError (Page ρ) := do
  PageFamily.build (← catalog.resolve page) args

def find (catalog : Catalog ρ) : Assertion → Attempt RouteError Finding
  | .urlContains expected => do
    let url ← askPage .currentUrl
    return ⟨Text.contains expected.toList url.toList, some url,
      "URL does not contain '" ++ expected ++ "'"⟩
  | .urlEquals expected => do
    let url ← askPage .currentUrl
    return ⟨url == expected, some url, "URL does not equal '" ++ expected ++ "'"⟩
  | .pageDisplayed page args => do
    match buildPage catalog page args with
    | .error e => throw e
    | .ok p =>
      let displayed ← p.isDisplayed.adapt .browser
      return ⟨displayed, some (boolText displayed), "Page '" ++ page ++ "' is not displayed"⟩
  | .elementText selector expected => do
    match ← askPage (.textOf selector) with
    | some text =>
      return ⟨matchesText expected text, some text,
        "Element '" ++ selector ++ "' text does not contain '" ++ expected ++ "'"⟩
    | none => return ⟨false, none, "Element '" ++ selector ++ "' not found on page"⟩
  | .elementVisible selector => do
    let visible ← askPage (.isVisible selector)
    return ⟨visible, some (boolText visible), "Element '" ++ selector ++ "' is not visible"⟩
  | .elementCount selector expected => do
    let count ← askPage (.count selector)
    return ⟨count == expected, some (toString count),
      "Element '" ++ selector ++ "' count is " ++ toString count ++ " but expected "
        ++ toString expected⟩

def verdict (a : Assertion) (stepIndex : Nat) : Except RouteError Finding → Verdict
  | .ok f => ⟨stepIndex, a, f.passed, f.actual, if f.passed then none else some f.complaint⟩
  | .error e =>
    ⟨stepIndex, a, false, none, some (a.kind ++ " could not be evaluated: " ++ e.message)⟩

def judge (catalog : Catalog ρ) (stepIndex : Nat) (a : Assertion) : Dialogue Verdict := do
  return a.verdict stepIndex (← (a.find catalog).run)

end Assertion

namespace SpecStep

def run (nav : Navigator) (catalog : Catalog ρ) (p : Progress) : SpecStep → Nav ρ Progress
  | .openPage page url args => do
    let c ← page.mapM fun name => Nav.orThrow (catalog.resolve name)
    match ← nav.openPage c url args with
    | some opened => return p.addPage opened.name
    | none => return p
  | .navigate page args => do
    return p.addPage (← nav.navigateTo catalog page args).name
  | .click hint => do
    Nav.browse (ask (.click hint))
    return p
  | .fill hint value => do
    Nav.browse (ask (.fill hint value))
    return p
  | .check assertions => do
    return p.addVerdicts (← assertions.mapM fun a => (a.judge catalog p.stepIndex : Dialogue _))

end SpecStep

namespace Spec

/-- Runs steps up to the first that fails; gives also how many were run and why the last failed. -/
def runSteps (nav : Navigator) (catalog : Catalog ρ) :
    Nat → Progress → List SpecStep → StateT (Memory ρ) Dialogue (Progress × Nat × Option String)
  | i, p, [] => return (p, i, none)
  | i, p, step :: rest => do
    let p := { p with stepIndex := i }
    match ← (step.run nav catalog p).run with
    | .ok p => runSteps nav catalog (i + 1) p rest
    | .error e => return (p, i + 1, some ("Step " ++ toString i ++ " failed: " ++ e.message))

def finish (s : Spec) (p : Progress) (stepsRun : Nat) (error : Option String) : SpecResult :=
  { specName := s.name
    passed := error.isNone && p.allPassed
    stepsRun
    pages := p.pages
    verdicts := p.verdicts
    error }

def loadStart (s : Spec) : Attempt Fault Unit :=
  match s.startUrl with
  | some url => ask (.load url)
  | none => pure ()

def run (nav : Navigator) (catalog : Catalog ρ) (s : Spec) :
    StateT (Memory ρ) Dialogue SpecResult := do
  match ← StateT.lift s.loadStart.run with
  | .error e => return s.finish {} 0 (some ("Failed to load start_url: " ++ e.message))
  | .ok () =>
    let (p, stepsRun, error) ← runSteps nav catalog 0 {} s.steps
    return s.finish p stepsRun error

def runAll (nav : Navigator) (catalog : Catalog ρ) (specs : List Spec) :
    StateT (Memory ρ) Dialogue (List SpecResult) :=
  specs.mapM (run nav catalog)

end Spec
end Wayfinder
