import Wayfinder.Page.Union
import Wayfinder.Sample.Portal
import Wayfinder.Site.Pages

/-! Pages that are put together from data: their steps and what they do on arrival are lists of
actions. They refer to each other and to the pages of the sample portal by name; a name that nothing
bears stands for a class that cannot be built. -/
namespace Wayfinder

inductive ScriptAction where
  | click (css : String)
  | fill (css value : String)
  | fillAll
  | setPath (path : String)
  | goto (url : String)
  | fail (text : String)

inductive ArrivalAction where
  | readTitle (css : String)
  | click (css : String)
  | fill (css value : String)
  | goto (url : String)
  | miss (page : String)

inductive StepKind where
  | page
  | named
  | href

structure ScriptedStep where
  name : String
  kind : StepKind
  dest : String
  params : List ParamDef := []
  actions : List ScriptAction := []

structure ScriptedPage where
  name : String
  path : String
  prerequisite : Option String := none
  /-- Decides whether the page is displayed; without it the path decides. -/
  visible : Option String := none
  steps : List ScriptedStep := []
  arrival : List ArrivalAction := []

inductive ScriptedClass where
  | portal (c : PortalPage)
  | page (p : ScriptedPage) (among : List ScriptedPage)
  | missing (ref : String)

namespace ScriptAction

def run (args : Args) : ScriptAction → Attempt StepFault Unit
  | .click css => do askStep (.click (.ofCss (← fillTemplate css args)))
  | .fill css value => do
    let css ← fillTemplate css args
    askStep (.fill (.ofCss css) (← fillTemplate value args))
  | .fillAll => fillFields args
  | .setPath path => do (loadPath (← fillTemplate path args)).adapt .browser
  | .goto url => do askStep (.load (← fillTemplate url args))
  | .fail text => do throw (.other (← fillTemplate text args))

end ScriptAction

namespace ArrivalAction

def askArrival (c : Call) : Attempt RouteError c.Reply := (ask c).adapt .browser

def run (title : Option String) : ArrivalAction → Attempt RouteError (Option String)
  | .readTitle css => askArrival (.textOf css)
  | .click css => do
    askArrival (.click (.ofCss css))
    return title
  | .fill css value => do
    askArrival (.fill (.ofCss css) value)
    return title
  | .goto url => do
    askArrival (.load url)
    return title
  | .miss page => throw (.unknownPage page)

end ArrivalAction

namespace ScriptedClass

def portalName? (ref : String) : Option String :=
  (Text.dropPrefix? "type:".toList ref.toList).map String.ofList

def scripted? (pages : List ScriptedPage) (name : String) : Option ScriptedClass :=
  (pages.find? (·.name == name)).map (.page · pages)

def ofRef (pages : List ScriptedPage) (ref : String) : ScriptedClass :=
  (((portalName? ref).bind PortalPage.ofName?).map .portal).or (scripted? pages ref)
    |>.getD (.missing ref)

def key : ScriptedClass → ClassKey
  | .portal c => PageFamily.key c
  | .page p _ => .declared p.name
  | .missing ref => .declared ref

end ScriptedClass

namespace ScriptedPage

def declareStep (pages : List ScriptedPage) (t : Steps ScriptedClass) (s : ScriptedStep) :
    Steps ScriptedClass :=
  let declare (d : StepDraft ScriptedClass) := s.params.foldl ParamDef.declare d
  let run (args : Args) := s.actions.forM (·.run args)
  match s.kind with
  | .page => t.add (declare (.toPage s.name (ScriptedClass.ofRef pages s.dest))) run
  | .named => t.add (declare (.toNamed s.name s.dest)) run
  | .href => t.href s.name fun path => run (SortedMap.ofPairs [("path", .str path)])

def isDisplayed (p : ScriptedPage) (path : String) : Attempt Fault Bool :=
  match p.visible with
  | some css => ask (.isVisible css)
  | none => isAtPath path

def notes (title : Option String) : Notes := [("title", title)]

def page (p : ScriptedPage) (among : List ScriptedPage) (path : String) : Page ScriptedClass :=
  { cls := .page p among
    path
    prerequisite := p.prerequisite.map (ScriptedClass.ofRef among)
    isDisplayed := p.isDisplayed path
    declareSteps := fun t => p.steps.foldl (declareStep among) t
    notes := notes none
    arrive := do return notes (← p.arrival.foldlM ArrivalAction.run none) }

end ScriptedPage

namespace ScriptedClass

def build : ScriptedClass → Args → Except RouteError (Page ScriptedClass)
  | .portal c, args => (PageFamily.build c args).map (Page.map .portal)
  | .page p among, args =>
    match Template.render p.path args with
    | .ok path => .ok (p.page among path)
    | .error cause => .error (.pageConstruction p.name cause)
  | .missing ref, _ => .error (.unknownPage ref)

instance : PageFamily ScriptedClass where
  key := key
  build := build

end ScriptedClass
end Wayfinder
