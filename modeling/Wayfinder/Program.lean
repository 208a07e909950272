import Wayfinder.CommandLine
import Wayfinder.Pipe.Recording
import Wayfinder.Report
import Wayfinder.Settings
import Wayfinder.Site.Forest
import Wayfinder.Site.Pages
import Wayfinder.Site.Source
import Wayfinder.Spec.Folder
import Wayfinder.Spec.Run

/-! What the program does: it draws a site map, or runs specs over one and reports. The browser
server is started only when there are specs to run; the report goes to the console unless a file is
named for it. -/
namespace Wayfinder

inductive CommandError where
  | site (e : SiteError)
  | specs (e : SpecError)
  | session (e : Fault)
  | report (e : FileFault)
deriving DecidableEq, Repr

def CommandError.message : CommandError → String
  | .site e => e.message
  | .specs e => e.message
  | .session e => e.message
  | .report e => e.message

def SiteMap.overview (site : SiteMap) : String :=
  "Site map '" ++ site.name ++ "': " ++ toString site.pages.length ++ " pages\n"
    ++ (if site.menu.isEmpty then ""
      else "Menu links: " ++ String.intercalate ", " (site.menu.map (·.name)) ++ "\n")
    ++ site.tree

namespace Program

structure Outcome where
  results : List SpecResult
  events : List Event
  pipe : Pipe

def runSuite (site : SiteMap) (specs : List Spec) (nav : Navigator) (session : Session) : Outcome :=
  let ((results, memory), session) :=
    ((Spec.runAll nav site.catalog specs).run {}).run Session.browser session
  { results, events := memory.events, pipe := session.quit.pipe }

variable {m : Type → Type} [Monad m] [Host m]

def orElse (f : ε → CommandError) (action : m (Except ε α)) : ExceptT CommandError m α :=
  ExceptT.mk (return (← action).mapError f)

def loadSite (path : String) : ExceptT CommandError m SiteMap := orElse .site (SiteMap.load path)

def graph (path : String) : ExceptT CommandError m Unit := do
  let site ← loadSite path
  (Host.print site.overview : m Unit)

/-- Opens a trace file for appending; without one, or if it cannot be opened, nothing is traced. -/
def openTrace (path : Option String) : m (Option String) := do
  match path with
  | none => return none
  | some path =>
    match ← Host.append path .empty with
    | .ok () => return some path
    | .error _ => return none

def writeTrace (path : Option String) (time : Nat) (events : List Event) : m Unit := do
  if let some path := path then
    let _ ← Host.append path (TimedEvent.fileText (events.map (⟨time, ·⟩))).toUTF8

def deliver (output : Option String) (text : String) : ExceptT CommandError m Unit :=
  match output with
  | some path => orElse .report (Host.write path text.toUTF8)
  | none => (Host.print text : m Unit)

def perform (site : SiteMap) (specs : List Spec) (settings : NavigatorSettings)
    (session : Session) (script : String) : m Report := do
  let trace ← openTrace settings.tracePath
  let start ← Host.clock
  let outcome := runSuite site specs { settings } session
  let stop ← Host.clock
  Recording.finish script outcome.pipe
  writeTrace trace (stop.getD 0) outcome.events
  return {
    suite := site.name
    results := outcome.results
    duration := do return (← stop) - (← start) }

def run (c : RunCommand) (settings : Settings) : ExceptT CommandError m Bool := do
  let site ← loadSite c.site
  let specs ← orElse .specs (Spec.load c.spec)
  if specs.isEmpty then return true
  let script := settings.session.serverScript
  let pipe ← (Recording.start script : m Pipe)
  let session ← orElse (m := m) .session (pure (Session.launch settings.session (some pipe)))
  let report ← (perform site specs (settings.navigatorFor c.baseUrl) session script : m Report)
  deliver (c.output.or settings.output) report.text
  return report.allPassed

def carryOut (line : CommandLine) : ExceptT CommandError m Bool := do
  let settings ← (Settings.load line.config : m Settings)
  match line.command with
  | .run c => run c settings
  | .graph site =>
    graph site
    return true

inductive Ending where
  | usage (e : UsageError)
  | finished (result : Except CommandError Bool)

/-- The exit status. Asking for help is no mistake. -/
def Ending.status : Ending → Nat
  | .usage .help | .usage .version => 0
  | .usage _ => 2
  | .finished (.ok true) => 0
  | .finished _ => 1

def start (words : List String) : m Ending := do
  match CommandLine.parse words with
  | .error e => return .usage e
  | .ok line => return .finished (← (carryOut line).run)

end Program
end Wayfinder
