import Wayfinder.Browser.Dialogue
import Wayfinder.Page.Template

/-! Steps: the transitions that a page offers. A step is tagged with where it leads and declares the
arguments it takes; a step that follows links takes a path instead. Steps enter a table only through
`Steps.add` and `Steps.href`, which keep the tag and the kind of action in agreement. -/
namespace Wayfinder

inductive BindError where
  | missingArgument (name : String)
  | expectedPath
  | expectedArguments
deriving DecidableEq, Repr

def BindError.message : BindError → String
  | .missingArgument name => "missing required argument '" ++ name ++ "'"
  | .expectedPath => "href step invoked without a path"
  | .expectedArguments => "step expects keyword arguments, got a path"

inductive StepFault where
  | binding (e : BindError)
  | template (e : TemplateError)
  | browser (e : Fault)
  | other (text : String)
deriving DecidableEq, Repr

def StepFault.message : StepFault → String
  | .binding e => e.message
  | .template e => e.message
  | .browser e => e.message
  | .other text => text

inductive RouteError where
  | stepNotFound (current dest : String) (possibilities : List String)
  | stepFailed (page step : String) (cause : StepFault)
  | prerequisiteCycle (chain : List String)
  | backtraceTooDeep (limit : Nat) (chain : List String)
  | pageConstruction (page : String) (cause : TemplateError)
  | nothingToOpen
  | unknownPage (name : String)
  | unexpectedPage (expected actual : String)
  | browser (e : Fault)
deriving DecidableEq, Repr

def arrowed (names : List String) : String := String.intercalate " -> " names

def RouteError.message : RouteError → String
  | .stepNotFound current dest possibilities =>
    "no navigation step from " ++ current ++ " to " ++ dest ++ "; possibilities: ["
      ++ String.intercalate ", " possibilities ++ "]"
  | .stepFailed page step cause =>
    "navigation step " ++ page ++ "::" ++ step ++ " failed: " ++ cause.message
  | .prerequisiteCycle chain => "prerequisite cycle: " ++ arrowed chain
  | .backtraceTooDeep limit chain =>
    "backtrace exceeded " ++ toString limit ++ " pages: " ++ arrowed chain
  | .pageConstruction page cause => "cannot construct page " ++ page ++ ": " ++ cause.message
  | .nothingToOpen => "open() needs a page class or an absolute url"
  | .unknownPage name => "unknown page '" ++ name ++ "'"
  | .unexpectedPage expected actual =>
    "expected page " ++ expected ++ ", navigation returned " ++ actual
  | .browser e => e.message

/-- The type of a page; types of one name are told apart by their identity. -/
structure PageType where
  id : Nat
  name : String
deriving DecidableEq, Repr

/-- What makes two page classes one: the type of their pages, or the name that is declared. -/
inductive ClassKey where
  | own (type : PageType)
  | declared (name : String)
deriving DecidableEq, Repr

def ClassKey.name : ClassKey → String
  | .own type => type.name
  | .declared name => name

inductive Destination (ρ : Type) where
  | page (cls : ρ)
  | named (name : String)
  | href
deriving Repr

structure StepParam where
  name : String
  default : Option Json := none
deriving Repr

def fillTemplate (template : String) (args : Args) : Attempt StepFault String :=
  match Template.render template args with
  | .ok s => pure s
  | .error e => throw (.template e)

def askStep (c : Call) : Attempt StepFault c.Reply := (ask c).adapt .browser

inductive StepAction where
  | withArgs (run : Args → Attempt StepFault Unit)
  | withPath (run : String → Attempt StepFault Unit)

structure Step (ρ : Type) where
  owner : String
  name : String
  destination : Destination ρ
  params : List StepParam
  action : StepAction

def StepParam.value? (p : StepParam) (args : Args) : Option Json := (args.get? p.name).or p.default

/-- The declared parameters with their values; a repeated name takes its last declaration. -/
def bindFrom (args : Args) : List StepParam → Args → Except BindError Args
  | [], bound => .ok bound
  | p :: rest, bound =>
    match p.value? args with
    | some v => bindFrom args rest (bound.insert p.name v)
    | none => .error (.missingArgument p.name)

def bindParams (params : List StepParam) (args : Args) : Except BindError Args :=
  bindFrom args params ∅

namespace Step
variable {ρ : Type}

def bind (s : Step ρ) (args : Args) : Except BindError Args := bindParams s.params args

def failed (s : Step ρ) (cause : StepFault) : RouteError := .stepFailed s.owner s.name cause

def runWithArgs (s : Step ρ) (args : Args) : Attempt StepFault Unit :=
  match s.action with
  | .withPath _ => throw (.binding .expectedPath)
  | .withArgs run =>
    match s.bind args with
    | .ok bound => run bound
    | .error e => throw (.binding e)

def runWithPath (s : Step ρ) (path : String) : Attempt StepFault Unit :=
  match s.action with
  | .withPath run => run path
  | .withArgs _ => throw (.binding .expectedArguments)

def invokeWithArgs (s : Step ρ) (args : Args) : Attempt RouteError Unit :=
  (s.runWithArgs args).adapt s.failed

def invokeWithPath (s : Step ρ) (path : String) : Attempt RouteError Unit :=
  (s.runWithPath path).adapt s.failed

end Step

structure Steps (ρ : Type) where
  owner : String
  list : List (Step ρ)

structure StepDraft (ρ : Type) where
  name : String
  destination : Destination ρ
  params : List StepParam := []

namespace StepDraft
variable {ρ : Type}

def toPage (name : String) (dest : ρ) : StepDraft ρ := { name, destination := .page dest }

def toNamed (name page : String) : StepDraft ρ := { name, destination := .named page }

def param (d : StepDraft ρ) (name : String) : StepDraft ρ :=
  { d with params := d.params ++ [{ name }] }

def paramOr (d : StepDraft ρ) (name : String) (default : Json) : StepDraft ρ :=
  { d with params := d.params ++ [{ name, default := some default }] }

end StepDraft

namespace Steps
variable {ρ : Type}

def empty (owner : String) : Steps ρ := ⟨owner, []⟩

def add (t : Steps ρ) (d : StepDraft ρ) (run : Args → Attempt StepFault Unit) : Steps ρ :=
  { t with list := t.list ++ [⟨t.owner, d.name, d.destination, d.params, .withArgs run⟩] }

def href (t : Steps ρ) (name : String) (run : String → Attempt StepFault Unit) : Steps ρ :=
  { t with list := t.list ++ [⟨t.owner, name, .href, [], .withPath run⟩] }

end Steps
end Wayfinder
