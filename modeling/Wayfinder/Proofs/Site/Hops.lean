import Wayfinder.Proofs.Route.Dispatch
import Wayfinder.Proofs.Site.Offered

/-! Hops between the pages of a site map. A page offers the links of the menu and then its own
steps; yet a step that names the destination goes before every link. With a menu no hop goes
unanswered, so a navigation that finds no step has found no page to start from. -/
namespace Wayfinder
variable {σ : Type}

/-- The default rules choose the first step that names the destination, else the first link. -/
theorem SitePage.choose?_page (c : SitePage) (args : Args) (path : String) (d : Page SitePage) :
    (c.page args path).steps.choose? Rule.inOrder d =
      match c.decl.steps.find? (·.dest == d.name) with
      | some st => some (.className, st.step c.decl.name)
      | none => c.site.menu.head?.map fun link => (.href, link.step c.decl.name) := by
  have hfind (r : Rule) : (c.page args path).steps.find? r d =
      ((c.site.menu.find? fun link => r.applies (link.step c.decl.name) d).map
        (·.step c.decl.name)).or
      ((c.decl.steps.find? fun st => r.applies (st.step c.decl.name) d).map
        (·.step c.decl.name)) := by
    rw [steps_page, Steps.find?, List.find?_append, List.find?_map, List.find?_map]
    rfl
  have hnone {α : Type} (l : List α) : l.find? (fun _ => false) = none := by simp
  have hhead {α : Type} (l : List α) : l.find? (fun _ => true) = l.head? := by cases l <;> rfl
  have hcls : (c.page args path).steps.find? .cls d = none := by
    simp [hfind, Rule.applies, MenuLink.step, StepDef.step, hnone]
  have hname : (c.page args path).steps.find? .className d =
      (c.decl.steps.find? (·.dest == d.name)).map (·.step c.decl.name) := by
    simp [hfind, Rule.applies, MenuLink.step, StepDef.step, hnone]
  have hhref : (c.page args path).steps.find? .href d =
      c.site.menu.head?.map (·.step c.decl.name) := by
    simp [hfind, Rule.applies, MenuLink.step, StepDef.step, hnone, hhead]
  simp only [Steps.choose?, Rule.inOrder, List.findSome?_cons, hcls, hname, hhref]
  cases c.decl.steps.find? (·.dest == d.name) with
  | some st => rfl
  | none => cases c.site.menu <;> rfl

def StepDef.attempt (st : StepDef) (args : Args) : Attempt StepFault Unit :=
  match bindParams (st.params.map ParamDef.param) args with
  | .ok given => Action.runAll given st.actions
  | .error e => throw (.binding e)

/-- What is said to the browser in a hop from a page of the map to `d`, and what comes of it. -/
structure SiteMap.Hops (site : SiteMap) (b : Browser σ) (origin : PageDef) (d : Page SitePage)
    (args : Args) (s : σ) (said : List (Exchange Call fun c => Except Fault c.Reply))
    (outcome : Except RouteError Taken × σ) : Prop where
  /-- The first step that names the destination is taken. -/
  declared : ∀ (before : List StepDef) (st : StepDef) (after : List StepDef),
    origin.steps = before ++ st :: after → (∀ x ∈ before, x.dest ≠ d.name) → st.dest = d.name →
    said = Script.history b.answer (st.attempt args).run s ∧
    outcome = match Dialogue.run b (st.attempt args).run s with
      | (.ok (), s') => (.ok ⟨.className, st.stepName⟩, s')
      | (.error cause, s') => (.error (.stepFailed origin.name st.stepName cause), s')
  /-- Without one the first link of the menu is clicked. -/
  linked : (∀ st ∈ origin.steps, st.dest ≠ d.name) →
    ∀ (link : MenuLink) (rest : List MenuLink), site.menu = link :: rest →
    said = [⟨.click (link.hintFor d.path), (b.answer (.click (link.hintFor d.path)) s).1⟩] ∧
    outcome = match b.answer (.click (link.hintFor d.path)) s with
      | (.ok (), s') => (.ok ⟨.href, link.name⟩, s')
      | (.error e, s') => (.error (.stepFailed origin.name link.name (.browser e)), s')
  /-- Without a menu either there is no way. -/
  stuck : (∀ st ∈ origin.steps, st.dest ≠ d.name) → site.menu = [] →
    said = [] ∧
    outcome = (.error (.stepNotFound origin.name d.name (origin.steps.map (·.dest))), s)

namespace SitePage
variable {c : SitePage} {args : Args} {d : Page SitePage}

theorem hop_declared (shown : Args) (path : String) (b : Browser σ) (s : σ)
    {before after : List StepDef} {st : StepDef}
    (hsplit : c.decl.steps = before ++ st :: after) (hbefore : ∀ x ∈ before, x.dest ≠ d.name)
    (hst : st.dest = d.name) :
    let hop := ((c.page shown path).steps.dispatch Rule.inOrder d args).run
    Script.history b.answer hop s = Script.history b.answer (st.attempt args).run s ∧
    Dialogue.run b hop s = match Dialogue.run b (st.attempt args).run s with
      | (.ok (), s') => (.ok ⟨.className, st.stepName⟩, s')
      | (.error cause, s') => (.error (.stepFailed c.decl.name st.stepName cause), s') := by
  have hfind : c.decl.steps.find? (·.dest == d.name) = some st := by
    refine List.find?_eq_some_iff_append.2 ⟨by simpa using hst, before, after, hsplit, ?_⟩
    simpa using hbefore
  have hchoose : (c.page shown path).steps.choose? Rule.inOrder d =
      some (.className, st.step c.decl.name) := by
    rw [choose?_page, hfind]
  exact Steps.dispatch_of_choose? b s hchoose rfl

theorem find?_eq_none (hno : ∀ st ∈ c.decl.steps, st.dest ≠ d.name) :
    c.decl.steps.find? (·.dest == d.name) = none :=
  List.find?_eq_none.2 fun st hst => by simpa using hno st hst

theorem hop_linked (shown : Args) (path : String) (b : Browser σ) (s : σ)
    {link : MenuLink} {rest : List MenuLink}
    (hno : ∀ st ∈ c.decl.steps, st.dest ≠ d.name) (hmenu : c.site.menu = link :: rest) :
    let hop := ((c.page shown path).steps.dispatch Rule.inOrder d args).run
    let click := Call.click (link.hintFor d.path)
    Script.history b.answer hop s = [⟨click, (b.answer click s).1⟩] ∧
    Dialogue.run b hop s = match b.answer click s with
      | (.ok (), s') => (.ok ⟨.href, link.name⟩, s')
      | (.error e, s') => (.error (.stepFailed c.decl.name link.name (.browser e)), s') := by
  have hchoose : (c.page shown path).steps.choose? Rule.inOrder d =
      some (.href, link.step c.decl.name) := by
    rw [choose?_page, find?_eq_none hno, hmenu]
    rfl
  have hinvoke : Rule.href.invoke (link.step c.decl.name) d args =
      (link.follow d.path).adapt (link.step c.decl.name).failed := rfl
  obtain ⟨hsaid, hrun⟩ := Steps.dispatch_of_choose? b s hchoose hinvoke
  rw [MenuLink.follow, askStep, Dialogue.history_adapt] at hsaid
  rw [MenuLink.follow, askStep, Dialogue.run_adapt, Dialogue.run_ask] at hrun
  refine ⟨hsaid, hrun.trans ?_⟩
  rcases b.answer (.click (link.hintFor d.path)) s with ⟨_ | _, s'⟩ <;> rfl

theorem hop_stuck (shown : Args) (path : String) (b : Browser σ) (s : σ)
    (hno : ∀ st ∈ c.decl.steps, st.dest ≠ d.name) (hmenu : c.site.menu = []) :
    let hop := ((c.page shown path).steps.dispatch Rule.inOrder d args).run
    Script.history b.answer hop s = [] ∧
    Dialogue.run b hop s =
      (.error (.stepNotFound c.decl.name d.name (c.decl.steps.map (·.dest))), s) := by
  have hchoose : (c.page shown path).steps.choose? Rule.inOrder d = none := by
    rw [choose?_page, find?_eq_none hno, hmenu]
    rfl
  have hlabels : (c.page shown path).steps.destinations = c.decl.steps.map (·.dest) := by
    rw [steps_page, Steps.destinations, hmenu, List.map_nil, List.nil_append, List.map_map]
    rfl
  have howner : (c.page shown path).steps.owner = c.decl.name := by rw [steps_page]
  simp only [Steps.dispatch, hchoose, Steps.notFound, hlabels, howner]
  exact ⟨rfl, rfl⟩

end SitePage

theorem SiteMap.hops (site : SiteMap) (b : Browser σ) (origin : PageDef) (d : Page SitePage)
    (shown args : Args) (path : String) (notes : Notes) (s : σ) :
    let p : Page SitePage := { SitePage.page ⟨site, origin⟩ shown path with notes }
    let hop := (p.steps.dispatch Rule.inOrder d args).run
    site.Hops b origin d args s (Script.history b.answer hop s) (Dialogue.run b hop s) where
  declared _ _ _ := SitePage.hop_declared (c := ⟨site, origin⟩) shown path b s
  linked hno _ _ := SitePage.hop_linked (c := ⟨site, origin⟩) shown path b s hno
  stuck := SitePage.hop_stuck (c := ⟨site, origin⟩) shown path b s

end Wayfinder
