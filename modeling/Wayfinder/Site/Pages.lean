import Wayfinder.Page.Basic
import Wayfinder.Site.Basic

/-! The page classes of a site map. A class is a declaration together with the map in which it
stands; it is known by its name. What a check needs and is not given is left in the template as it
stands; what a step needs must be given. -/
namespace Wayfinder

structure SitePage where
  site : SiteMap
  decl : PageDef

namespace SiteMap

def class? (site : SiteMap) (name : String) : Option SitePage := (site.page? name).map (⟨site, ·⟩)

end SiteMap

def fillOptional (args : Args) : Option String → Attempt StepFault (Option String)
  | some t => some <$> fillTemplate t args
  | none => pure none

def fillHint (hint : Hint) (args : Args) : Attempt StepFault Hint := do
  let css ← fillOptional args hint.css
  let name ← fillOptional args hint.name
  return { hint with css, name }

namespace Action

def run (args : Args) : Action → Attempt StepFault Unit
  | .click hint => do askStep (.click (← fillHint hint args))
  | .fill hint value => do
    let hint ← fillHint hint args
    askStep (.fill hint (← fillTemplate value args))
  | .goto path => do (loadPath (← fillTemplate path args)).adapt .browser

def runAll (args : Args) : List Action → Attempt StepFault Unit
  | [] => pure ()
  | a :: rest => do
    a.run args
    runAll args rest

end Action

def MenuLink.hintFor (link : MenuLink) (path : String) : Hint :=
  match link.selector with
  | some hint => hint.mapText (replaceText "\x7bpath\x7d" path)
  | none => Hint.linkTo path

def MenuLink.follow (link : MenuLink) (path : String) : Attempt StepFault Unit :=
  askStep (.click (link.hintFor path))

def ParamDef.declare {ρ : Type} (draft : StepDraft ρ) : ParamDef → StepDraft ρ
  | .required name => draft.param name
  | .withDefault name default => draft.paramOr name default

def StepDef.draft {ρ : Type} (s : StepDef) : StepDraft ρ :=
  s.params.foldl ParamDef.declare (.toNamed s.stepName s.dest)

namespace Check

def fillLoosely (template : String) (args : Args) : String :=
  match Template.render template args with
  | .ok s => s
  | .error _ => template

def holds (path : String) (args : Args) : Check → Attempt Fault Bool
  | .visible selector => ask (.isVisible (fillLoosely selector args))
  | .urlContains expected => do
    let url ← ask .currentUrl
    return Text.contains (fillLoosely expected args).toList url.toList
  | .pathMatches => isAtPath path

def allHold (path : String) (args : Args) : List Check → Attempt Fault Bool
  | [] => pure true
  | c :: rest => do if ← c.holds path args then allHold path args rest else return false

end Check

namespace SitePage

def key (c : SitePage) : ClassKey := .declared c.decl.name

/-- The checks of a page; without any its path decides. -/
def checks (c : SitePage) : List Check :=
  if c.decl.checks.isEmpty then [.pathMatches] else c.decl.checks

/-- The menu comes before the steps of the page itself. -/
def declareSteps (c : SitePage) (steps : Steps SitePage) : Steps SitePage :=
  let steps := c.site.menu.foldl (fun t link => t.href link.name link.follow) steps
  c.decl.steps.foldl (fun t s => t.add s.draft (Action.runAll · s.actions)) steps

def page (c : SitePage) (args : Args) (path : String) : Page SitePage :=
  { cls := c
    path
    prerequisite := c.decl.prerequisite.bind c.site.class?
    isDisplayed := Check.allHold path args c.checks
    declareSteps := c.declareSteps }

def build (c : SitePage) (args : Args) : Except RouteError (Page SitePage) :=
  match Template.render c.decl.path args with
  | .ok path => .ok (c.page args path)
  | .error cause => .error (.pageConstruction c.decl.name cause)

instance : PageFamily SitePage where
  key := key
  build := build

theorem cls_of_build {c : SitePage} {args : Args} {p : Page SitePage}
    (h : c.build args = .ok p) : p.cls = c := by
  unfold build at h
  split at h
  · cases h; rfl
  · cases h

instance : LawfulPageFamily SitePage where
  key_build h := congrArg key (cls_of_build h)

end SitePage

def SiteMap.catalog (site : SiteMap) : Catalog SitePage :=
  site.pages.foldl (fun catalog p =>
    match site.class? p.name with
    | some c => catalog.register c
    | none => catalog) ∅

end Wayfinder
