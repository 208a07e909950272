import Wayfinder.Page.Basic

/-! Rules by which a step is found for a destination. Rules are tried in order, within a rule the
steps in order of declaration; the first pair that fits is run and nothing else is tried. -/
namespace Wayfinder
variable {ρ : Type} [PageFamily ρ]

inductive Rule where
  | cls
  | className
  | href
deriving DecidableEq, Repr

namespace Rule

def name : Rule → String
  | .cls => "class"
  | .className => "class_name"
  | .href => "href"

def ofName? : String → Option Rule
  | "class" => some .cls
  | "class_name" => some .className
  | "href" => some .href
  | _ => none

/-- An exact tag before a name, a name before a link. -/
def inOrder : List Rule := [.cls, .className, .href]

def applies (r : Rule) (s : Step ρ) (dest : Page ρ) : Bool :=
  match r, s.destination with
  | .cls, .page c => PageFamily.same c dest.cls
  | .className, .named n => n == dest.name
  | .href, .href => true
  | _, _ => false

def invoke (r : Rule) (s : Step ρ) (dest : Page ρ) (args : Args) : Attempt RouteError Unit :=
  match r with
  | .cls | .className => s.invokeWithArgs args
  | .href => s.invokeWithPath dest.path

end Rule

structure Taken where
  rule : Rule
  step : String
deriving DecidableEq, Repr

namespace Steps

def find? (t : Steps ρ) (r : Rule) (dest : Page ρ) : Option (Step ρ) :=
  t.list.find? (r.applies · dest)

def choose? (t : Steps ρ) (rules : List Rule) (dest : Page ρ) : Option (Rule × Step ρ) :=
  rules.findSome? fun r => (t.find? r dest).map (r, ·)

def notFound (t : Steps ρ) (dest : Page ρ) : RouteError :=
  .stepNotFound t.owner dest.name t.destinations

def dispatch (t : Steps ρ) (rules : List Rule) (dest : Page ρ) (args : Args) :
    Attempt RouteError Taken := do
  match t.choose? rules dest with
  | some (r, s) =>
    r.invoke s dest args
    return ⟨r, s.name⟩
  | none => throw (t.notFound dest)

end Steps
end Wayfinder
