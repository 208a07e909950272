import Wayfinder.Page.Step

/-! Pages and families of page classes. A page says how it is recognised, which page must be showing
before it can be reached, and which steps it offers. A family is a type of class handles: each has
an identity and builds its pages from arguments. Handles instead of pages make it possible that
classes require each other in a circle. -/
namespace Wayfinder

abbrev Notes := List (String × Option String)

structure Page (ρ : Type) where
  cls : ρ
  path : String
  prerequisite : Option ρ
  isDisplayed : Attempt Fault Bool
  declareSteps : Steps ρ → Steps ρ := id
  notes : Notes := []
  arrive : Attempt RouteError Notes := pure notes

class PageFamily (ρ : Type) where
  key : ρ → ClassKey
  build : ρ → Args → Except RouteError (Page ρ)

/-- A family whose classes build pages of their own class. -/
class LawfulPageFamily (ρ : Type) [PageFamily ρ] : Prop where
  key_build : ∀ {c : ρ} {args : Args} {p : Page ρ},
    PageFamily.build c args = .ok p → PageFamily.key p.cls = PageFamily.key c

namespace PageFamily
variable {ρ : Type} [PageFamily ρ]

def name (c : ρ) : String := (key c).name

def same (c d : ρ) : Bool := key c == key d

theorem same_iff {c d : ρ} : same c d = true ↔ key c = key d := by simp [same]

end PageFamily

namespace Page
variable {ρ : Type} [PageFamily ρ]

def name (p : Page ρ) : String := PageFamily.name p.cls

def steps (p : Page ρ) : Steps ρ := p.declareSteps (.empty p.name)

def expect (key : ClassKey) (p : Page ρ) : Except RouteError (Page ρ) :=
  if PageFamily.key p.cls = key then .ok p else .error (.unexpectedPage key.name p.name)

end Page

def Destination.label {ρ : Type} [PageFamily ρ] : Destination ρ → String
  | .page c => PageFamily.name c
  | .named name => name
  | .href => "@href"

def Steps.destinations {ρ : Type} [PageFamily ρ] (t : Steps ρ) : List String :=
  t.list.map (·.destination.label)

abbrev Catalog (ρ : Type) := SortedMap ρ

namespace Catalog
variable {ρ : Type} [PageFamily ρ]

def register (catalog : Catalog ρ) (c : ρ) : Catalog ρ := catalog.insert (PageFamily.name c) c

def resolve (catalog : Catalog ρ) (name : String) : Except RouteError ρ :=
  match catalog.get? name with
  | some c => .ok c
  | none => .error (.unknownPage name)

end Catalog
end Wayfinder
