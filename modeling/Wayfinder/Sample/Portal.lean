import Wayfinder.Page.Basic

/-! A small portal whose pages are classes of their own: accounts that can be searched and opened,
pages that a menu links to, and two pages that require each other. -/
namespace Wayfinder

inductive PortalPage where
  | home
  | accounts
  | accountDetail
  | search
  | reports
  | settings
  | orphan
  | cycleA
  | cycleB
deriving DecidableEq, Repr

def fillFields (args : Args) : Attempt StepFault Unit :=
  args.entries.forM fun (name, value) => askStep (.fill (.ofCss ("#" ++ name)) (argText value))

namespace PortalPage

def all : List PortalPage :=
  [home, accounts, accountDetail, search, reports, settings, orphan, cycleA, cycleB]

def name : PortalPage → String
  | home => "Home"
  | accounts => "Accounts"
  | accountDetail => "AccountDetail"
  | search => "Search"
  | reports => "Reports"
  | settings => "Settings"
  | orphan => "Orphan"
  | cycleA => "CycleA"
  | cycleB => "CycleB"

def ofName? (name : String) : Option PortalPage := all.find? (·.name == name)

def path : PortalPage → String
  | home => "/home"
  | accounts => "/accounts"
  | accountDetail => "/accounts/\x7baccount_id\x7d"
  | search => "/search"
  | reports => "/reports"
  | settings => "/settings"
  | orphan => "/orphan"
  | cycleA => "/cycle-a"
  | cycleB => "/cycle-b"

def requires : PortalPage → Option PortalPage
  | home | orphan => none
  | accounts | settings => some home
  | accountDetail | search | reports => some accounts
  | cycleA => some cycleB
  | cycleB => some cycleA

def click (css : String) (_ : Args) : Attempt StepFault Unit :=
  askStep (.click (.ofCss css))

def fillAndGo (template : String) (args : Args) : Attempt StepFault Unit := do
  fillFields args
  (loadPath (← fillTemplate template args)).adapt .browser

def declareSteps (c : PortalPage) (steps : Steps PortalPage) : Steps PortalPage :=
  match c with
  | home =>
    (steps.add (.toPage "to_accounts" accounts) (click "#accounts")).add
      (.toNamed "to_settings" "Settings") (click "#settings")
  | accounts =>
    let detail := (StepDraft.toPage "open_account" accountDetail).param "account_id"
    let found := (StepDraft.toPage "search" search).param "query"
    ((steps.href "menu" fun path => askStep (.click (.linkTo path))).add
      (detail.paramOr "tab" (.str "overview")) (fillAndGo accountDetail.path)).add
      found (fillAndGo search.path)
  | _ => steps

def notes (c : PortalPage) (args : Args) (title : Option String) : Notes :=
  match c with
  | accountDetail => [("account_id", (args.get? "account_id").map argText), ("title", title)]
  | _ => []

def arrive (c : PortalPage) (args : Args) : Attempt RouteError Notes :=
  match c with
  | accountDetail => do
    let title ← (ask (.textOf "#account-name")).adapt .browser
    return c.notes args title
  | _ => return c.notes args none

def page (c : PortalPage) (args : Args) (path : String) : Page PortalPage :=
  { cls := c
    path
    prerequisite := c.requires
    isDisplayed := isAtPath path
    declareSteps := c.declareSteps
    notes := c.notes args none
    arrive := c.arrive args }

def build (c : PortalPage) (args : Args) : Except RouteError (Page PortalPage) :=
  match Template.render c.path args with
  | .ok path => .ok (c.page args path)
  | .error cause => .error (.pageConstruction c.name cause)

instance : PageFamily PortalPage where
  key c := .own ⟨c.ctorIdx, c.name⟩
  build := build

theorem cls_of_build {c : PortalPage} {args : Args} {p : Page PortalPage}
    (h : c.build args = .ok p) : p.cls = c := by
  unfold build at h
  split at h
  · cases h; rfl
  · cases h

instance : LawfulPageFamily PortalPage where
  key_build h := by rw [cls_of_build h]

end PortalPage
end Wayfinder
