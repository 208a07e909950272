import Wayfinder.Proofs.Route.Adrift
import Wayfinder.Proofs.Site.Circles
import Wayfinder.Proofs.Site.Hops
import Wayfinder.Proofs.Spec.Endings
import Wayfinder.Sample.Terrace

/-! Navigators on a site with a menu. A link of the menu leads to every page, so as long as a
navigator is used with the classes of the site alone, no hop goes without a step. -/
namespace Wayfinder
variable {σ : Type} {site : SiteMap} {nav : Navigator} {b : Browser σ} {m : Memory SitePage} {s : σ}

inductive Page.On (site : SiteMap) : Page SitePage → Prop
  | page {c : SitePage} (hc : c.site = site) (args : Args) (path : String) (notes : Notes) :
    On site { c.page args path with notes }

namespace Page.On
variable {p d : Page SitePage} {c : SitePage} {args : Args}

theorem of_build (hc : c.site = site) (hbuild : PageFamily.build c args = .ok p) : p.On site := by
  obtain ⟨path, -, rfl⟩ := SitePage.eq_page_of_build hbuild
  exact .page hc args path []

theorem cls (h : p.On site) : p.cls.site = site := by
  obtain ⟨hc⟩ := h
  exact hc

theorem prerequisite (h : p.On site) (hreq : p.prerequisite = some c) : c.site = site := by
  obtain ⟨hd, args, path, notes⟩ := h
  obtain ⟨name, -, hclass⟩ := Option.bind_eq_some_iff.1 hreq
  obtain ⟨decl, -, rfl⟩ := Option.map_eq_some_iff.1 hclass
  exact hd

theorem noted (h : p.On site) (notes : Notes) : Page.On site { p with notes } := by
  obtain ⟨hc, args, path, _⟩ := h
  exact .page hc args path notes

theorem arrive_eq (h : p.On site) : ∃ notes, p.arrive = pure notes := by
  obtain ⟨hc, args, path, notes⟩ := h
  exact ⟨[], rfl⟩

/-- From a page of a site with a menu the default rules find a step to any page. -/
theorem choose?_ne_none (h : p.On site) (hmenu : site.menu ≠ []) (d : Page SitePage) :
    p.steps.choose? Rule.inOrder d ≠ none := by
  obtain @⟨c, rfl, args, path, notes⟩ := h
  change (c.page args path).steps.choose? Rule.inOrder d ≠ none
  rw [SitePage.choose?_page]
  split
  · nofun
  · cases hlinks : c.site.menu with
    | nil => exact absurd hlinks hmenu
    | cons link rest => nofun

end Page.On

theorem SitePage.not_stepless_of_build {c : SitePage} {args : Args} {e : RouteError}
    (h : PageFamily.build c args = .error e) : e.stepless = false := by
  obtain ⟨cause, -, rfl⟩ := build_eq_error_iff.1 h
  rfl

theorem Deed.not_stepless (hrules : nav.rules = Rule.inOrder) (hmenu : site.menu ≠ [])
    {d : Deed SitePage} (hd : d.StepsOn (Page.On site)) {e : RouteError}
    (h : (d.carryOut nav b s).1 = .error e) : e.stepless = false := by
  have harrive (p : Page SitePage) (hp : d = .arrive p) : ∃ notes, p.arrive = pure notes := by
    subst hp
    exact Page.On.arrive_eq hd
  obtain ⟨cause, rfl⟩ | ⟨c, given, hbuild⟩ | ⟨p, dest, given, rfl, hhop⟩ :=
    Deed.failed_of_carryOut harrive h
  · rfl
  · exact SitePage.not_stepless_of_build hbuild
  · cases e with
    | stepNotFound current name labels =>
      rw [hrules] at hhop
      exact absurd (Steps.choose?_of_stepNotFound hhop) (Page.On.choose?_ne_none hd hmenu dest)
    | _ => rfl

def Turn.On (site : SiteMap) : Turn SitePage σ → Prop
  | .navigate c _ => c.site = site
  | .openPage c _ _ => ∀ d, c = some d → d.site = site
  | .handle _ => True

theorem SiteMap.confined (site : SiteMap) (nav : Navigator) :
    Confined nav (·.site = site) (Page.On site) fun _ => True where
  build c args hc := by
    cases hbuild : PageFamily.build c args with
    | ok p => exact .ok (.of_build hc hbuild)
    | error e => exact .error trivial
  cls _ hp := hp.cls
  prerequisite _ _ hp := hp.prerequisite
  notes _ ns hp := hp.noted ns
  dispatch p dest args _ := .of_forall (fun _ => trivial) _
  arrive p _ := .of_forall (fun _ => trivial) _
  browser _ := trivial
  circle _ := trivial
  tooDeep _ _ := trivial
  stepNotFound _ _ _ := trivial
  nothingToOpen := trivial

theorem Turn.On.within_after {t : Turn SitePage σ} (ht : t.On site)
    (hm : m.Within (·.site = site)) : (t.take nav b m s).after.Within (·.site = site) := by
  cases t with
  | navigate c args => exact ((site.confined nav).navigate_keeps ht args σ b m s hm).1
  | openPage c url args => exact ((site.confined nav).openPage_keeps ht url args σ b m s hm).1
  | handle f => exact hm

theorem on_of_mem {turns : List (Turn SitePage σ)} {e : Episode SitePage σ}
    (hturns : ∀ t ∈ turns, t.On site) (hm : m.Within (·.site = site))
    (he : e ∈ nav.episodes b turns m s) : e.turn.On site ∧ e.before.Within (·.site = site) := by
  induction turns generalizing m s with
  | nil => simp [Navigator.episodes] at he
  | cons t rest ih =>
    obtain ⟨ht, hrest⟩ := List.forall_mem_cons.1 hturns
    obtain rfl | he := List.mem_cons.1 he
    · simpa using ⟨ht, hm⟩
    · exact ih hrest (ht.within_after hm) he

/-- On a site with a menu a navigation goes without a step only when it is adrift. -/
theorem Navigator.navigation_adrift (hrules : nav.rules = Rule.inOrder) (hmenu : site.menu ≠ [])
    {c : SitePage} (hc : c.site = site) (hm : m.Within (·.site = site)) (args : Args)
    {e : RouteError} (h : ((Turn.navigate c args).take nav b m s).result = .error e)
    (he : e.stepless = true) : Adrift ((Turn.navigate c args).take nav b m s).history e := by
  have haccount : Navigated nav c args m ((nav.navigation c args).made nav b m s).history
      ((nav.navigation c args).made nav b m s).result
      ((nav.navigation c args).made nav b m s).memory := nav.navigated_navigation b c args m s
  rw [Turn.take_navigate_result] at h
  have hmade := eq_error_of_map h
  rw [hmade] at haccount
  have hsteps := haccount.stepsOn (fun _ _ _ => Page.On.of_build) (fun _ _ hp => hp.prerequisite)
    (fun _ ns hp => hp.noted ns) hc hm
  refine haccount.adrift (fun _ _ => SitePage.not_stepless_of_build) (fun d e hd => ?_) he
  obtain ⟨s', hs'⟩ := Trip.outcome_of_mem nav b m s hd
  exact Deed.not_stepless hrules hmenu (hsteps _ hd) hs'.symm

/-- A hop takes the first step declared for its destination, and only without one the first link
of the menu. With a menu, a navigator that is used with the classes of one site goes without a step
only for want of a page to start from. -/
theorem site_hops (site : SiteMap) (b : Browser σ) :
    (∀ (origin decl : PageDef) (shown given args : Args) (p d : Page SitePage) (notes : Notes)
      (s : σ), PageFamily.build (⟨site, origin⟩ : SitePage) shown = .ok p →
      PageFamily.build (⟨site, decl⟩ : SitePage) given = .ok d →
      let hop := (Page.steps { p with notes }).dispatch Rule.inOrder d args
      d.name = decl.name ∧ Template.render decl.path given = .ok d.path ∧
      site.Hops b origin d args s (Script.history b.answer hop.run s)
        (Dialogue.run b hop.run s)) ∧
    ∀ (nav : Navigator) (turns : List (Turn SitePage σ)) (s : σ) (e : Episode SitePage σ)
      (c : SitePage) (args : Args) (current dest : String) (labels : List String),
      site.menu ≠ [] → nav.rules = Rule.inOrder → (∀ t ∈ turns, t.On site) →
      e ∈ nav.episodes b turns {} s → e.turn = .navigate c args →
      e.result = .error (.stepNotFound current dest labels) →
      Adrift e.history (.stepNotFound current dest labels) := by
  refine ⟨?_, ?_⟩
  · intro origin decl shown given args p d notes s hp hd
    obtain ⟨path, -, rfl⟩ := SitePage.eq_page_of_build hp
    obtain ⟨target, hrender, rfl⟩ := SitePage.eq_page_of_build hd
    exact ⟨rfl, hrender, site.hops b origin _ shown args path notes s⟩
  · intro nav turns s e c args current dest labels hmenu hrules hturns he hturn hresult
    obtain ⟨hon, hbefore⟩ := on_of_mem hturns (.of_none rfl) he
    have htake := eq_take_of_mem he
    rw [hturn] at hon htake
    rw [htake] at hresult
    have hadrift := nav.navigation_adrift hrules hmenu hon hbefore args hresult rfl
    rwa [← htake] at hadrift

namespace Terrace

theorem run_gate : Dialogue.run House.lamp (gate.attempt ∅).run "" = (.ok (), "#lawn") := by
  have hrender : Template.render "#lawn" ∅ = .ok "#lawn" := rfl
  simp only [gate, StepDef.attempt, List.map_nil, bindParams, bindFrom, Action.runAll, Action.run,
    fillHint, fillOptional, Hint.ofCss, fillTemplate, hrender]
  rfl

theorem navigate_lawn :
    ((Turn.navigate (⟨Terrace.site, lawn⟩ : SitePage) ∅).take {} House.lamp {} "").result =
      .error (.stepNotFound "<none>" "Lawn" []) := by
  have hlook : (Deed.look lawnPage).carryOut {} House.lamp "" = (.ok false, "") :=
    Deed.carryOut_look_of_run {} run_isDisplayed_lawn
  have hroot : lawnPage.prerequisite = none := rfl
  rw [Turn.take_navigate_result, Navigator.made_navigation]
  simp [Navigator.backtrace, Navigator.climb, Navigator.made_visit, Navigator.replay,
    build_lawn, hroot, hlook, Page.seen]
  rfl

end Terrace

/-- From the porch one takes the gate, though the sign is registered before it; from the lawn one
follows the sign. In the dark there is no way to the lawn. -/
theorem terrace_hops :
    PageFamily.build (⟨Terrace.site, Terrace.porch⟩ : SitePage) ∅ = .ok Terrace.porchPage ∧
    PageFamily.build (⟨Terrace.site, Terrace.lawn⟩ : SitePage) ∅ = .ok Terrace.lawnPage ∧
    Dialogue.run House.lamp
      (Terrace.porchPage.steps.dispatch Rule.inOrder Terrace.lawnPage ∅).run "" =
      (.ok ⟨.className, "gate"⟩, "#lawn") ∧
    Dialogue.run House.lamp
      (Terrace.lawnPage.steps.dispatch Rule.inOrder Terrace.porchPage ∅).run "" =
      (.ok ⟨.href, "sign"⟩, "a[href='/porch']") ∧
    Terrace.site.menu ≠ [] ∧
    let e := (Turn.navigate (⟨Terrace.site, Terrace.lawn⟩ : SitePage) ∅).take {} House.lamp {} ""
    e.result = .error (.stepNotFound "<none>" "Lawn" []) ∧
    Adrift e.history (.stepNotFound "<none>" "Lawn" []) := by
  obtain ⟨hhops, hadrift⟩ := site_hops Terrace.site House.lamp
  obtain ⟨-, -, hout⟩ := hhops Terrace.porch Terrace.lawn ∅ ∅ ∅ _ _ [] "" Terrace.build_porch
    Terrace.build_lawn
  obtain ⟨-, -, hback⟩ := hhops Terrace.lawn Terrace.porch ∅ ∅ ∅ _ _ [] "" Terrace.build_lawn
    Terrace.build_porch
  have hgate := (hout.declared [] Terrace.gate [Terrace.detour] rfl (by simp) rfl).2
  have hsign := (hback.linked (by simp [Terrace.lawn]) Terrace.sign [] rfl).2
  rw [Terrace.run_gate] at hgate
  have hmenu : Terrace.site.menu ≠ [] := nofun
  refine ⟨Terrace.build_porch, Terrace.build_lawn, hgate, hsign, hmenu, Terrace.navigate_lawn, ?_⟩
  exact hadrift {} [.navigate ⟨Terrace.site, Terrace.lawn⟩ ∅] "" _ _ ∅ _ _ _ hmenu rfl
    (List.forall_mem_singleton.2 rfl) (List.mem_singleton_self _) rfl Terrace.navigate_lawn

end Wayfinder
