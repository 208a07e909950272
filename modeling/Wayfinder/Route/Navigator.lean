import Wayfinder.Route.Deed
import Wayfinder.Route.Event

/-! Reaching a page from whatever the browser shows. A navigation walks the prerequisites back from
its target until a page is displayed, then steps forward along the same pages, one step for each.
When no page of the chain is displayed it starts from the page displayed last, provided that one
still is. The memory survives from one navigation to the next, also when a navigation fails. -/
namespace Wayfinder
variable {ρ : Type} [PageFamily ρ]

structure Memory (ρ : Type) where
  navigation : Nat := 0
  /-- The names of the pages of the last backtrace, the target first. -/
  lastPath : List String := []
  lastDisplayed : Option (ρ × Args) := none
  events : List Event := []

namespace Memory

def next (m : Memory ρ) : Memory ρ := { m with navigation := m.navigation + 1 }

def log (m : Memory ρ) (event : Nat → Event) : Memory ρ :=
  { m with events := m.events ++ [event m.navigation] }

def remember (m : Memory ρ) (c : ρ) (args : Args) : Memory ρ :=
  { m with lastDisplayed := some (c, args) }

def forget (m : Memory ρ) : Memory ρ := { m with lastDisplayed := none }

def along (m : Memory ρ) (path : List String) : Memory ρ := { m with lastPath := path }

end Memory

abbrev Nav (ρ α : Type) := ExceptT RouteError (StateT (Memory ρ) Dialogue) α

namespace Nav

def browse (a : Attempt Fault α) : Nav ρ α := ExceptT.mk (StateT.lift (a.adapt .browser).run)

def orThrow : Except RouteError α → Nav ρ α
  | .ok a => pure a
  | .error e => throw e

end Nav

abbrev Trip (ρ α : Type) := ExceptT RouteError (StateT (Memory ρ) (Course ρ)) α

namespace Trip

def perform (d : Deed ρ) : Trip ρ d.Reply := ExceptT.mk (StateT.lift (.ask d .done))

def orThrow (r : Except RouteError α) : Trip ρ α := ExceptT.mk (pure r)

def change (f : Memory ρ → Memory ρ) : Trip ρ Unit := ExceptT.lift (modify f)

def lastDisplayed : Trip ρ (Option (ρ × Args)) := ExceptT.lift (Memory.lastDisplayed <$> get)

def play (nav : Navigator) (t : Trip ρ α) : Nav ρ α :=
  ExceptT.mk fun m => Course.play nav (t.run.run m)

end Trip

/-- The pages of a backtrace; `hops` holds those beyond the target, the one found last first. -/
structure PathChain (ρ : Type) where
  target : Page ρ
  hops : List (Page ρ) := []
  anchored : Bool := false

namespace PathChain

def push (chain : PathChain ρ) (p : Page ρ) : PathChain ρ := { chain with hops := p :: chain.hops }

def length (chain : PathChain ρ) : Nat := chain.hops.length + 1

def pages (chain : PathChain ρ) : List (Page ρ) := chain.target :: chain.hops.reverse

def names (chain : PathChain ρ) : List String := chain.pages.map Page.name

def contains (chain : PathChain ρ) (c : ρ) : Bool :=
  chain.pages.any fun p => PageFamily.same p.cls c

def forward (chain : PathChain ρ) : Page ρ × List (Page ρ) :=
  match chain.hops with
  | [] => (chain.target, [])
  | root :: rest => (root, rest ++ [chain.target])

end PathChain

namespace Navigator

def visit (p : Page ρ) (args : Args) : Trip ρ (Bool × Option ρ) := do
  let displayed ← Trip.perform (.look p)
  Trip.change (·.log fun n => .looked n p.name displayed)
  if displayed then
    Trip.change (·.remember p.cls args)
    return (true, none)
  else return (false, p.prerequisite)

/-- Adds pages to a chain until one is displayed or requires none. `room` is how many more pages
the chain may take. -/
def climb (limit : Nat) (args : Args) :
    Nat → PathChain ρ → Bool × Option ρ → Trip ρ (PathChain ρ)
  | _, chain, (displayed, none) => return { chain with anchored := displayed }
  | room, chain, (_, some c) =>
    if chain.contains c then
      throw (.prerequisiteCycle (chain.names ++ [PageFamily.name c]))
    else
      match room with
      | 0 => throw (.backtraceTooDeep limit (chain.names ++ [PageFamily.name c]))
      | room + 1 => do
        let p ← Trip.orThrow (PageFamily.build c args)
        let seen ← visit p args
        climb limit args room (chain.push p) seen

def backtrace (nav : Navigator) (c : ρ) (args : Args) : Trip ρ (PathChain ρ) := do
  let target ← Trip.orThrow (PageFamily.build c args)
  let seen ← visit target args
  let limit := nav.settings.maxBacktraceDepth
  climb limit args (limit - 1) { target } seen

def advance (args : Args) (p dest : Page ρ) : Trip ρ (Page ρ) := do
  let taken ← Trip.perform (.hop p dest args)
  Trip.change (·.log fun n => .stepped n p.name dest.name taken.step taken.rule.name)
  let notes ← Trip.perform (.arrive dest)
  Trip.change (·.remember dest.cls args)
  return { dest with notes }

def walk (args : Args) : Page ρ → List (Page ρ) → Trip ρ (Page ρ)
  | p, [] => return p
  | p, dest :: rest => do walk args (← advance args p dest) rest

def stillDisplayed : Trip ρ (Option (Page ρ)) := do
  match ← Trip.perform (.recall (← Trip.lastDisplayed)) with
  | none => return none
  | some p => return if ← Trip.perform (.recheck p) then some p else none

def replay (args : Args) (chain : PathChain ρ) : Trip ρ (Page ρ) := do
  let (root, rest) := chain.forward
  if chain.anchored then walk args root rest
  else
    match ← stillDisplayed with
    | some shown => walk args shown (root :: rest)
    | none =>
      Trip.change Memory.forget
      throw (.stepNotFound "<none>" root.name [])

def navigation (nav : Navigator) (c : ρ) (args : Args) : Trip ρ (Page ρ) := do
  Trip.change Memory.next
  let chain ← nav.backtrace c args
  Trip.change (·.along chain.names)
  replay args chain

def navigate (nav : Navigator) (c : ρ) (args : Args) : Nav ρ (Page ρ) :=
  (nav.navigation c args).play nav

def navigateTo (nav : Navigator) (catalog : Catalog ρ) (name : String) (args : Args) :
    Nav ρ (Page ρ) := do
  navigate nav (← Nav.orThrow (catalog.resolve name)) args

def opening (c : Option ρ) (url : Option String) (args : Args) : Trip ρ (Option (Page ρ)) := do
  if c.isNone && url.isNone then throw .nothingToOpen
  Trip.change Memory.next
  if let some url := url then Trip.perform (.load url)
  match c with
  | none =>
    Trip.change Memory.forget
    Trip.change (·.log fun n => .opened n "" url)
    return none
  | some c =>
    let p ← Trip.orThrow (PageFamily.build c args)
    if url.isNone then Trip.perform (.loadPage p)
    let notes ← Trip.perform (.arrive p)
    Trip.change (·.log fun n => .opened n (PageFamily.name c) url)
    Trip.change (·.remember c args)
    return some { p with notes }

/-- Loads a URL, or else the path of a page, without steps. A page given with a URL is taken to be
what the URL shows. -/
def openPage (nav : Navigator) (c : Option ρ) (url : Option String) (args : Args) :
    Nav ρ (Option (Page ρ)) :=
  (opening c url args).play nav

end Navigator
end Wayfinder
