import Wayfinder.Browser.Hint
import Wayfinder.Page.Template
import Wayfinder.Text.Lowercase

/-! Site maps: the pages of a portal as declarations. A page names the page that it requires, how it
is recognised and which steps it offers; the menu holds links that every page offers. -/
namespace Wayfinder

inductive Check where
  | visible (selector : String)
  | urlContains (expected : String)
  | pathMatches
deriving DecidableEq, Repr

inductive ParamDef where
  | required (name : String)
  | withDefault (name : String) (default : Json)
deriving Repr

inductive Action where
  | click (hint : Hint)
  | fill (hint : Hint) (value : String)
  | goto (path : String)
deriving DecidableEq, Repr

structure StepDef where
  dest : String
  name : Option String := none
  params : List ParamDef := []
  actions : List Action
deriving Repr

def StepDef.stepName (s : StepDef) : String := s.name.getD ("to_" ++ Text.lowercase s.dest)

structure MenuLink where
  name : String
  selector : Option Hint := none
deriving DecidableEq, Repr

structure PageDef where
  name : String
  path : String
  prerequisite : Option String := none
  checks : List Check := []
  steps : List StepDef := []
deriving Repr

structure SiteMap where
  name : String
  menu : List MenuLink := []
  pages : List PageDef
deriving Repr

namespace SiteMap

def page? (site : SiteMap) (name : String) : Option PageDef :=
  site.pages.find? (·.name == name)

def index? (site : SiteMap) (name : String) : Option Nat :=
  site.pages.findIdx? (·.name == name)

def required? (site : SiteMap) (p : PageDef) : Option PageDef := p.prerequisite.bind site.page?

def roots (site : SiteMap) : List PageDef := site.pages.filter (·.prerequisite.isNone)

def dependents (site : SiteMap) (name : String) : List PageDef :=
  site.pages.filter (·.prerequisite == some name)

theorem mem_of_page? {site : SiteMap} {name : String} {p : PageDef} (h : site.page? name = some p) :
    p ∈ site.pages := List.mem_of_find?_eq_some h

theorem name_of_page? {site : SiteMap} {name : String} {p : PageDef}
    (h : site.page? name = some p) : p.name = name := by
  simpa using List.find?_some h

theorem mem_of_required? {site : SiteMap} {p q : PageDef} (h : site.required? p = some q) :
    q ∈ site.pages := by
  obtain ⟨name, -, hq⟩ := Option.bind_eq_some_iff.1 h
  exact mem_of_page? hq

end SiteMap
end Wayfinder
