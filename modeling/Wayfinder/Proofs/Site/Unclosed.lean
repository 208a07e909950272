import Wayfinder.Proofs.Site.Undeclared
import Wayfinder.Proofs.Spec.Endings
import Wayfinder.Sample.Loft

/-! Braces that are left open. Validation looks at the paths of pages, so every page of an accepted
map can be built but for want of arguments; a check takes its template as it stands. The templates
of actions are read only when their step is taken, and nothing else fails for want of a closing
brace. -/
namespace Wayfinder
variable {σ : Type} {args : Args} {site : SiteMap}

def TemplateError.unclosed? : TemplateError → Option String
  | .unclosed template => some template
  | .missing _ _ => none

def StepFault.unclosed? : StepFault → Option String
  | .template e => e.unclosed?
  | .binding _ | .browser _ | .other _ => none

def RouteError.unclosed? : RouteError → Option String
  | .pageConstruction _ cause => cause.unclosed?
  | .stepFailed _ _ cause => cause.unclosed?
  | _ => none

def Hint.templates (h : Hint) : List String := h.css.toList ++ h.name.toList

def Action.templates : Action → List String
  | .click hint => hint.templates
  | .fill hint value => hint.templates ++ [value]
  | .goto path => [path]

def StepDef.templates (s : StepDef) : List String := s.actions.flatMap Action.templates

/-- What a step of the map comes to that meets, in one of its actions, a template with a brace left
open. -/
inductive SiteMap.LeavesOpen (site : SiteMap) (template : String) : RouteError → Prop
  | step {p st} (hp : p ∈ site.pages) (hst : st ∈ p.steps) (htemplate : template ∈ st.templates)
      (hopen : ¬Template.Closed template) :
      LeavesOpen site template (.stepFailed p.name st.stepName (.template (.unclosed template)))

def SiteMap.Blamed (site : SiteMap) (e : RouteError) : Prop :=
  ∀ template, e.unclosed? = some template → site.LeavesOpen template e

theorem StepFault.eq_of_unclosed? {cause : StepFault} {t : String} (h : cause.unclosed? = some t) :
    cause = .template (.unclosed t) := by
  cases cause with
  | template e =>
    cases e with
    | unclosed _ =>
      cases h
      rfl
    | missing => cases h
  | binding | browser | other => cases h

def StepFault.OpenIn (ts : List String) (cause : StepFault) : Prop :=
  ∀ t, cause.unclosed? = some t → t ∈ ts ∧ ¬Template.Closed t

section Actions
variable {ts : List String}

theorem fillTemplate_failsIn {template : String} (h : template ∈ ts) :
    (fillTemplate template args).FailsIn (StepFault.OpenIn ts) := by
  unfold fillTemplate
  cases hrender : Template.render template args with
  | ok text => exact .pure text
  | error e =>
    refine .throw fun t ht => ?_
    cases StepFault.eq_of_unclosed? ht
    obtain ⟨rfl, hopen⟩ := Template.not_closed_of_render hrender
    exact ⟨h, hopen⟩

theorem fillOptional_failsIn {template : Option String} (h : ∀ t ∈ template.toList, t ∈ ts) :
    (fillOptional args template).FailsIn (StepFault.OpenIn ts) := by
  cases template with
  | none => exact .pure none
  | some t => exact .map (fillTemplate_failsIn (h t (by simp)))

theorem fillHint_failsIn {hint : Hint} (h : ∀ t ∈ hint.templates, t ∈ ts) :
    (fillHint hint args).FailsIn (StepFault.OpenIn ts) := by
  obtain ⟨hcss, hname⟩ := List.forall_mem_append.1 h
  refine .bind (fillOptional_failsIn hcss) fun _ => ?_
  exact .bind (fillOptional_failsIn hname) fun _ => .pure _

theorem askStep_failsIn (c : Call) : (askStep c).FailsIn (StepFault.OpenIn ts) :=
  .adapt (.of_forall (fun _ => nofun) (ask c))

namespace Action

theorem run_failsIn {a : Action} (h : ∀ t ∈ a.templates, t ∈ ts) :
    (a.run args).FailsIn (StepFault.OpenIn ts) := by
  cases a with
  | click hint => exact .bind (fillHint_failsIn h) fun _ => askStep_failsIn _
  | fill hint value =>
    obtain ⟨hhint, hvalue⟩ := List.forall_mem_append.1 h
    refine .bind (fillHint_failsIn hhint) fun _ => ?_
    exact .bind (fillTemplate_failsIn (hvalue value List.mem_cons_self)) fun _ => askStep_failsIn _
  | goto path =>
    refine .bind (fillTemplate_failsIn (h path List.mem_cons_self)) fun _ => ?_
    exact .adapt (.of_forall (fun _ => nofun) _)

theorem runAll_failsIn {as : List Action} (h : ∀ t ∈ as.flatMap Action.templates, t ∈ ts) :
    (runAll args as).FailsIn (StepFault.OpenIn ts) := by
  induction as with
  | nil => exact .pure ()
  | cons a as ih =>
    rw [List.flatMap_cons] at h
    obtain ⟨ha, has⟩ := List.forall_mem_append.1 h
    exact .bind (run_failsIn ha) fun _ => ih has

end Action
end Actions

inductive SitePage.Offers (c : SitePage) (s : Step SitePage) : Prop
  | link {link} (hlink : link ∈ c.site.menu) (haction : s.action = .withPath link.follow)
  | declared {st} (hst : st ∈ c.decl.steps) (howner : s.owner = c.decl.name)
      (hname : s.name = st.stepName) (haction : s.action = .withArgs (Action.runAll · st.actions))

namespace SitePage
variable {c : SitePage}

theorem offers_of_mem (args : Args) (path : String) {s : Step SitePage}
    (hs : s ∈ (c.page args path).steps.list) : c.Offers s := by
  obtain ⟨link, hlink, rfl⟩ | ⟨st, hst, rfl⟩ := mem_steps_page.1 hs
  · exact .link hlink rfl
  · exact .declared hst rfl rfl rfl

/-- A declared step fails unclosed by one of its own templates; following the menu fills none. -/
theorem Offers.invoke_failsIn {s : Step SitePage} (h : c.Offers s) (hc : c.Listed site) (r : Rule)
    (dest : Page SitePage) (args : Args) : (r.invoke s dest args).FailsIn site.Blamed := by
  have hplain {cause : StepFault} (hcause : cause.unclosed? = none) :
      site.Blamed (s.failed cause) := fun t ht => nomatch hcause.symm.trans ht
  have hargs : (s.runWithArgs args).FailsIn fun cause => site.Blamed (s.failed cause) := by
    unfold Step.runWithArgs
    cases h with
    | link _ haction =>
      rw [haction]
      exact .throw (hplain rfl)
    | @declared st hst howner hname haction =>
      rw [haction]
      cases s.bind args with
      | error e => exact .throw (hplain rfl)
      | ok bound =>
        have hrun : (Action.runAll bound st.actions).FailsIn (StepFault.OpenIn st.templates) :=
          Action.runAll_failsIn fun _ => id
        refine hrun.mono fun cause hcause t ht => ?_
        obtain ⟨htemplate, hopen⟩ := hcause t ht
        rw [StepFault.eq_of_unclosed? ht, Step.failed, howner, hname]
        exact .step (SiteMap.mem_pages_of_listed hc) hst htemplate hopen
  have hpath : (s.runWithPath dest.path).FailsIn fun cause => site.Blamed (s.failed cause) := by
    unfold Step.runWithPath
    cases h with
    | @link link _ haction =>
      rw [haction]
      exact .adapt (.of_forall (fun _ => hplain rfl) _)
    | declared _ _ _ haction =>
      rw [haction]
      exact .throw (hplain rfl)
  cases r with
  | cls | className => exact .adapt hargs
  | href => exact .adapt hpath

end SitePage

inductive SiteMap.Has (site : SiteMap) : Page SitePage → Prop
  | page {c : SitePage} (hc : c.Listed site) (args : Args) (path : String) (notes : Notes) :
      Has site { c.page args path with notes }

namespace SiteMap

theorem Has.dispatch_failsIn {p : Page SitePage} (h : site.Has p) (rules : List Rule)
    (dest : Page SitePage) (args : Args) :
    (p.steps.dispatch rules dest args).FailsIn site.Blamed := by
  obtain ⟨hc, shown, path, notes⟩ := h
  unfold Steps.dispatch
  split
  · next r s hchoose =>
    have hoffers := SitePage.offers_of_mem shown path (Steps.mem_of_choose? hchoose)
    exact .bind (hoffers.invoke_failsIn hc r dest args) fun _ => .pure _
  · exact .throw nofun

theorem Has.prerequisite {p : Page SitePage} (h : site.Has p) {d : SitePage}
    (hreq : p.prerequisite = some d) : d.Listed site := by
  obtain ⟨hc, shown, path, notes⟩ := h
  obtain ⟨name, -, hd⟩ := Option.bind_eq_some_iff.1 hreq
  rw [hc.1] at hd
  exact SitePage.listed_of_class? hd

/-- The path of a page of an accepted map leaves no brace open. -/
theorem WellFormed.build_endsIn (hsite : site.WellFormed) {c : SitePage} (hc : c.Listed site)
    (args : Args) : EndsIn site.Has site.Blamed (PageFamily.build c args) := by
  cases hbuild : PageFamily.build c args with
  | ok p =>
    obtain ⟨path, -, rfl⟩ := SitePage.eq_page_of_build hbuild
    exact .ok (.page hc args path [])
  | error e =>
    obtain ⟨cause, hrender, rfl⟩ := SitePage.build_eq_error_iff.1 hbuild
    refine .error fun t ht => ?_
    cases cause with
    | missing => cases ht
    | unclosed t' =>
      have hopen := (Template.not_closed_of_render hrender).2
      exact absurd (hsite.sound _ (mem_pages_of_listed hc)).path hopen

theorem WellFormed.confined (hsite : site.WellFormed) (nav : Navigator) :
    Confined nav (SitePage.Listed site) site.Has site.Blamed where
  build c args hc := hsite.build_endsIn hc args
  cls p hp := by
    obtain ⟨hc⟩ := hp
    exact hc
  prerequisite p d hp := hp.prerequisite
  notes p ns hp := by
    obtain ⟨hc, shown, path, _⟩ := hp
    exact .page hc shown path ns
  dispatch p dest args hp := hp.dispatch_failsIn nav.rules dest args
  arrive p hp := by
    obtain ⟨hc⟩ := hp
    exact .pure _
  browser _ := nofun
  circle _ := nofun
  tooDeep _ _ := nofun
  stepNotFound _ _ _ := nofun
  nothingToOpen := nofun

theorem listed_of_get? {name : String} {c : SitePage} (h : site.catalog.get? name = some c) :
    c.Listed site := by
  rw [get?_catalog] at h
  exact SitePage.listed_of_class? h

theorem resolve_endsIn (site : SiteMap) (name : String) :
    EndsIn (SitePage.Listed site) site.Blamed (site.catalog.resolve name) := by
  unfold Catalog.resolve
  split
  · next c hc => exact .ok (listed_of_get? hc)
  · exact .error nofun

end SiteMap

inductive Errand (σ : Type) where
  | turn (t : Turn SitePage σ)
  | run (spec : Spec)

def Catalog.Holds (catalog : Catalog SitePage) (c : SitePage) : Prop :=
  ∃ name, catalog.get? name = some c

def Errand.Over (catalog : Catalog SitePage) : Errand σ → Prop
  | .turn (.navigate c _) => catalog.Holds c
  | .turn (.openPage c _ _) => ∀ d, c = some d → catalog.Holds d
  | .turn (.handle _) | .run _ => True

section
variable (nav : Navigator) (site : SiteMap) (b : Browser σ)

/-- The errand fails with this error: a turn as a whole, a spec with the step that ends its run or
with an assertion that cannot be decided in some state of the browser. -/
inductive Errand.Fails (m : Memory SitePage) (s : σ) (e : RouteError) : Errand σ → Prop
  | turn {t} (h : (t.take nav b m s).result = .error e) : Fails m s e (.turn t)
  | step {spec s₀ t} (hstart : spec.start b s = (.ok (), s₀))
      (ht : t ∈ Spec.trials nav site.catalog b 0 spec.steps m s₀) (h : t.led.result = .error e) :
      Fails m s e (.run spec)
  | assertion {spec step a s'} (hstep : step ∈ spec.steps) (ha : a ∈ step.assertions)
      (h : (Dialogue.run b (a.find site.catalog).run s').1 = .error e) : Fails m s e (.run spec)

def Errand.after (m : Memory SitePage) (s : σ) : Errand σ → Memory SitePage × σ
  | .turn t => ((t.take nav b m s).after, (t.take nav b m s).finish)
  | .run spec =>
    let o := Ran.of b m s (spec.run nav site.catalog)
    (o.memory, o.state)

def Errand.SomeFails (e : RouteError) : List (Errand σ) → Memory SitePage → σ → Prop
  | [], _, _ => False
  | x :: rest, m, s =>
    x.Fails nav site b m s e ∨
      SomeFails e rest (x.after nav site b m s).1 (x.after nav site b m s).2

end

namespace SiteMap.WellFormed
variable (hsite : site.WellFormed) {nav : Navigator} {b : Browser σ} {m : Memory SitePage} {s : σ}
include hsite

theorem buildPage_endsIn (page : String) (args : Args) :
    EndsIn site.Has site.Blamed (Assertion.buildPage site.catalog page args) :=
  (site.resolve_endsIn page).bind fun _ hc => hsite.build_endsIn hc args

theorem find_failsIn (a : Assertion) : (a.find site.catalog).FailsIn site.Blamed := by
  have hask (c : Call) : (Assertion.askPage c).FailsIn site.Blamed :=
    .adapt (.of_forall (fun _ => nofun) (ask c))
  cases a with
  | urlContains | urlEquals | elementVisible | elementCount =>
    exact .bind (hask _) fun _ => .pure _
  | elementText selector expected =>
    refine .bind (hask _) fun text => ?_
    cases text <;> exact .pure _
  | pageDisplayed page args =>
    have hbuild := hsite.buildPage_endsIn page args
    simp only [Assertion.find]
    cases hpage : Assertion.buildPage site.catalog page args with
    | ok p => exact .bind (.adapt (.of_forall (fun _ => nofun) p.isDisplayed)) fun _ => .pure _
    | error e =>
      rw [hpage] at hbuild
      exact .throw hbuild.of_error

theorem turn_endsIn (nav : Navigator) (b : Browser σ) (s : σ) {t : Turn SitePage σ}
    (ht : (Errand.turn t).Over site.catalog) (hm : m.Within (SitePage.Listed site)) :
    (t.take nav b m s).after.Within (SitePage.Listed site) ∧
      EndsIn (fun _ => True) site.Blamed (t.take nav b m s).result := by
  have hconfined := hsite.confined nav
  cases t with
  | navigate c args =>
    obtain ⟨name, hc⟩ := ht
    obtain ⟨hmemory, hresult⟩ := hconfined.navigate_keeps (listed_of_get? hc) args σ b m s hm
    exact ⟨hmemory, hresult.map fun _ _ => trivial⟩
  | openPage c url args =>
    have hc (d : SitePage) (hd : c = some d) : d.Listed site := by
      obtain ⟨name, hget⟩ := ht d hd
      exact listed_of_get? hget
    exact hconfined.openPage_keeps hc url args σ b m s hm
  | handle f => exact ⟨hm, .ok trivial⟩

theorem within_after {x : Errand σ} (hx : x.Over site.catalog)
    (hm : m.Within (SitePage.Listed site)) :
    (x.after nav site b m s).1.Within (SitePage.Listed site) := by
  cases x with
  | turn t => exact (hsite.turn_endsIn nav b s hx hm).1
  | run spec => exact (hsite.confined nav).run_within site.resolve_endsIn b spec s hm

theorem blamed_of_fails {x : Errand σ} (hx : x.Over site.catalog)
    (hm : m.Within (SitePage.Listed site)) {e : RouteError} (h : x.Fails nav site b m s e) :
    site.Blamed e := by
  cases h with
  | turn h =>
    have hends := (hsite.turn_endsIn nav b s hx hm).2
    rw [h] at hends
    exact hends.of_error
  | step _ ht h =>
    have hends := (hsite.confined nav).trials_end site.resolve_endsIn b _ 0 _ hm ht
    rw [h] at hends
    exact hends.of_error
  | @assertion _ _ a s' _ _ h =>
    have hends := hsite.find_failsIn a σ b s'
    rw [h] at hends
    exact hends.of_error

theorem blamed_of_someFails {errands : List (Errand σ)} (hover : ∀ x ∈ errands, x.Over site.catalog)
    (hm : m.Within (SitePage.Listed site)) {e : RouteError}
    (h : Errand.SomeFails nav site b e errands m s) : site.Blamed e := by
  induction errands generalizing m s with
  | nil => exact h.elim
  | cons x rest ih =>
    obtain ⟨hx, hrest⟩ := List.forall_mem_cons.1 hover
    obtain h | h := h
    · exact hsite.blamed_of_fails hx hm h
    · exact ih hrest (hsite.within_after hx hm) h

end SiteMap.WellFormed

/-- On an accepted site map, whatever a navigator is used for and with whatever arguments and
browser, a failure for want of a closing brace is that of a declared step which holds the template
in one of its actions. No page fails so, and neither does any check or assertion. -/
theorem unclosed_only_by_actions (site : SiteMap) (nav : Navigator) (b : Browser σ)
    (errands : List (Errand σ)) (s : σ) (e : RouteError) (template : String)
    (hvalid : site.validate = .ok ()) (hover : ∀ x ∈ errands, x.Over site.catalog)
    (hfails : Errand.SomeFails nav site b e errands {} s) (hopen : e.unclosed? = some template) :
    site.LeavesOpen template e :=
  have hsite := SiteMap.validate_eq_ok_iff.1 hvalid
  hsite.blamed_of_someFails hover (.of_none rfl) hfails template hopen

namespace Loft

theorem navigate_loft :
    ((Turn.navigate (⟨Loft.site, loft⟩ : SitePage) ∅).take {} House.lamp {} "#landing").result =
      .error stuck := by
  have hlanding : (Deed.look landingPage).carryOut {} House.lamp "#landing" =
      (.ok true, "#landing") := Deed.carryOut_look_of_run {} run_isDisplayed_landing
  have hloft : (Deed.look loftPage).carryOut {} House.lamp "#landing" =
      (.ok false, "#landing") := Deed.carryOut_look_of_run {} run_isDisplayed_loft
  have hhop : (Deed.hop landingPage loftPage ∅).carryOut {} House.lamp "#landing" =
      (.error stuck, "#landing") := run_dispatch
  have hnew : PageFamily.same loftPage.cls ⟨Loft.site, landing⟩ = false := rfl
  rw [Turn.take_navigate_result, Navigator.made_navigation]
  simp [Navigator.backtrace, Navigator.climb, Navigator.made_visit, Navigator.replay,
    Navigator.walk, Navigator.made_advance, build_loft, build_landing, prerequisite_loft, hloft,
    hlanding, hhop, hnew, Page.seen, PathChain.contains, PathChain.pages, PathChain.push,
    PathChain.forward, Except.map]

def errands : List (Errand String) := [.turn (.navigate ⟨Loft.site, loft⟩ ∅)]

theorem errands_over : ∀ x ∈ errands, x.Over Loft.site.catalog :=
  List.forall_mem_singleton.2 ⟨"Loft", rfl⟩

theorem errands_fail : Errand.SomeFails {} Loft.site House.lamp stuck errands {} "#landing" :=
  .inl (.turn navigate_loft)

end Loft

theorem ladder_leaves_brace_open :
    Loft.site.validate = .ok () ∧ (∀ x ∈ Loft.errands, x.Over Loft.site.catalog) ∧
    Errand.SomeFails {} Loft.site House.lamp Loft.stuck Loft.errands {} "#landing" ∧
    Loft.site.LeavesOpen "#ladder-\x7bside" Loft.stuck :=
  ⟨Loft.validate_site, Loft.errands_over, Loft.errands_fail,
    unclosed_only_by_actions Loft.site {} House.lamp Loft.errands "#landing" Loft.stuck _
      Loft.validate_site Loft.errands_over Loft.errands_fail rfl⟩

/-- Acceptance of a site map does not exclude that a navigation fails for want of a closing
brace. -/
theorem validation_misses_open_braces :
    ¬∀ (site : SiteMap) (errands : List (Errand String)) (s : String) (e : RouteError),
      site.validate = .ok () → (∀ x ∈ errands, x.Over site.catalog) →
      Errand.SomeFails {} site House.lamp e errands {} s → e.unclosed? = none := by
  intro h
  have hnone : Loft.stuck.unclosed? = none :=
    h Loft.site Loft.errands "#landing" Loft.stuck Loft.validate_site Loft.errands_over
      Loft.errands_fail
  cases hnone

end Wayfinder
