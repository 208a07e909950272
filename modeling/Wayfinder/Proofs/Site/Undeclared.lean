import Wayfinder.Proofs.Page.Binding
import Wayfinder.Proofs.Route.Likeness
import Wayfinder.Proofs.Route.Turns
import Wayfinder.Proofs.Site.Circles
import Wayfinder.Proofs.Site.Offered
import Wayfinder.Sample.Yard

/-! Arguments for which nobody asks. What a site map reads of the arguments of a navigation are the
placeholders of its paths and checks, to build pages, and the parameters of its steps, to take them.
Whatever else is given with them makes no difference. -/
namespace Wayfinder
variable {σ : Type} {args args' : Args}

def Check.template? : Check → Option String
  | .visible selector => some selector
  | .urlContains expected => some expected
  | .pathMatches => none

def ParamDef.name : ParamDef → String
  | .required name | .withDefault name _ => name

def StepDef.Declares (s : StepDef) (name : String) : Prop := ∃ d ∈ s.params, d.name = name

inductive PageDef.Reads (p : PageDef) : String → Prop
  | path {names name} (hpath : Template.placeholders p.path = .ok names) (hname : name ∈ names) :
      Reads p name
  | check {c template names name} (hc : c ∈ p.checks) (htemplate : c.template? = some template)
      (hnames : Template.placeholders template = .ok names) (hname : name ∈ names) : Reads p name
  | param {s name} (hs : s ∈ p.steps) (hname : s.Declares name) : Reads p name

namespace Check

theorem fillLoosely_congr {template : String} (h : Template.Agrees args args' template) :
    fillLoosely template args = fillLoosely template args' := by
  by_cases hclosed : Template.Closed template
  · simp only [fillLoosely, Template.render_congr hclosed h]
  · obtain ⟨e, he⟩ := Template.render_of_not_closed args hclosed
    obtain ⟨e', he'⟩ := Template.render_of_not_closed args' hclosed
    simp only [fillLoosely, he, he']

theorem holds_congr (path : String) {c : Check}
    (h : ∀ template, c.template? = some template → Template.Agrees args args' template) :
    c.holds path args = c.holds path args' := by
  cases c with
  | visible selector => rw [holds, holds, fillLoosely_congr (h selector rfl)]
  | urlContains expected => simp only [holds, fillLoosely_congr (h expected rfl)]
  | pathMatches => rfl

theorem allHold_congr (path : String) {cs : List Check}
    (h : ∀ c ∈ cs, ∀ template, c.template? = some template → Template.Agrees args args' template) :
    allHold path args cs = allHold path args' cs := by
  induction cs with
  | nil => rfl
  | cons c cs ih =>
    obtain ⟨hc, hcs⟩ := List.forall_mem_cons.1 h
    simp only [allHold, holds_congr path hc, ih hcs]

end Check

def Page.StepsAgree {ρ : Type} [PageFamily ρ] (args args' : Args) (p : Page ρ) : Prop :=
  ∀ s ∈ p.steps.list, ∀ q ∈ s.params, args.get? q.name = args'.get? q.name

theorem Rule.invoke_congr {ρ : Type} (r : Rule) {s : Step ρ} (dest : Page ρ)
    (h : ∀ q ∈ s.params, args.get? q.name = args'.get? q.name) :
    r.invoke s dest args = r.invoke s dest args' := by
  cases r with
  | cls | className =>
    exact Step.invokeWithArgs_congr h
  | href => rfl

section Dispatching
variable {ρ : Type} [PageFamily ρ]

theorem Page.StepsAgree.dispatch {p : Page ρ} (h : p.StepsAgree args args') (rules : List Rule)
    (dest : Page ρ) :
    p.steps.dispatch rules dest args = p.steps.dispatch rules dest args' := by
  unfold Steps.dispatch
  cases hchoose : p.steps.choose? rules dest with
  | none => rfl
  | some x =>
    obtain ⟨r, s⟩ := x
    simp only [r.invoke_congr dest (h s (Steps.mem_of_choose? hchoose))]

end Dispatching

namespace SitePage
variable {c : SitePage}

/-- Steps along the menu take no arguments; the others take those that the page declares. -/
theorem declared_of_param {p : Page SitePage} (hbuild : PageFamily.build c args = .ok p)
    {s : Step SitePage} (hs : s ∈ p.steps.list) {q : StepParam} (hq : q ∈ s.params) :
    ∃ st ∈ c.decl.steps, st.Declares q.name := by
  obtain ⟨path, -, rfl⟩ := eq_page_of_build hbuild
  obtain ⟨link, -, rfl⟩ | ⟨st, hst, rfl⟩ := mem_steps_page.1 hs
  · cases hq
  · obtain ⟨d, hd, rfl⟩ := List.mem_map.1 hq
    exact ⟨st, hst, d, hd, by cases d <;> rfl⟩

/-- A class reads of the arguments what its declaration reads. -/
theorem build_congr (hclosed : Template.Closed c.decl.path)
    (h : ∀ name, c.decl.Reads name → args.get? name = args'.get? name) :
    PageFamily.build c args = PageFamily.build c args' := by
  have hpath : Template.Agrees args args' c.decl.path :=
    fun _ hnames _ hname => h _ (.path hnames hname)
  have hchecks (path : String) :
      Check.allHold path args c.checks = Check.allHold path args' c.checks := by
    refine Check.allHold_congr path
      fun check hcheck template htemplate names hnames name hname => ?_
    unfold checks at hcheck
    split at hcheck
    · obtain rfl := List.mem_singleton.1 hcheck
      cases htemplate
    · exact h name (.check hcheck htemplate hnames hname)
  change c.build args = c.build args'
  simp only [build, Template.render_congr hclosed hpath, page, hchecks]

end SitePage

/-- The name is that of an argument which some page of the map reads, or a step of the page
remembered. -/
inductive SiteMap.Reads (site : SiteMap) (m : Memory SitePage) : String → Prop
  | page {p name} (hp : p ∈ site.pages) (hreads : p.Reads name) : Reads site m name
  | remembered {c shown s name} (hshown : m.lastDisplayed = some (c, shown)) (hs : s ∈ c.decl.steps)
      (hname : s.Declares name) : Reads site m name

theorem SiteMap.WellFormed.interchangeable {site : SiteMap} (hsite : site.WellFormed)
    (h : ∀ p ∈ site.pages, ∀ name, p.Reads name → args.get? name = args'.get? name) :
    Interchangeable (SitePage.Listed site) (Page.StepsAgree args args') args args' where
  build c hc := by
    have hmem := mem_pages_of_listed hc
    exact SitePage.build_congr (hsite.sound _ hmem).path (h _ hmem)
  cls c p hc hbuild := by
    rw [SitePage.cls_of_build hbuild]
    exact hc
  page c p hc hbuild := by
    intro s hs q hq
    obtain ⟨st, hst, hname⟩ := SitePage.declared_of_param hbuild hs hq
    exact h _ (mem_pages_of_listed hc) _ (.param hst hname)
  prerequisite c p d hc hbuild hreq := by
    have hcls : p.cls.Listed site := by
      rw [SitePage.cls_of_build hbuild]
      exact hc
    exact hcls.prerequisite (SitePage.built_of_build hbuild) hreq
  dispatch p hp := hp.dispatch
  notes p ns hp := hp

structure Episode.Alike (nav : Navigator) (b : Browser σ) (e e' : Episode SitePage σ) : Prop where
  calls : e.calls nav b = e'.calls nav b
  result : e.result = e'.result
  lastPath : e.after.lastPath = e'.after.lastPath
  finish : e.finish = e'.finish

/-- Arguments that a site map does not declare cannot influence a navigation: from maps of arguments
that agree on the names which are read there come the same calls, with the same operands, the same
page or the same error, and the same path. -/
theorem undeclared_arguments_are_ignored (site : SiteMap) (nav : Navigator) (b : Browser σ)
    (m : Memory SitePage) (s : σ) (name : String) (c : SitePage) (args args' : Args)
    (hvalid : site.validate = .ok ()) (hc : site.class? name = some c)
    (hagree : ∀ n, site.Reads m n → args.get? n = args'.get? n) :
    ((Turn.navigate c args).take nav b m s).Alike nav b
      ((Turn.navigate c args').take nav b m s) := by
  have hsite := SiteMap.validate_eq_ok_iff.1 hvalid
  have hargs := hsite.interchangeable fun p hp n hn => hagree n (.page hp hn)
  have hm : m.Alike True (Page.StepsAgree args args') m := by
    refine ⟨fun _ => rfl, rfl, fun p hp t ht q hq => ?_⟩
    cases hshown : m.lastDisplayed with
    | none =>
      rw [hshown] at hp
      cases hp
    | some d =>
      rw [hshown] at hp
      obtain ⟨q', hbuild, hq'⟩ := exists_of_map_eq_ok hp
      obtain rfl : q' = p := Option.some.inj hq'
      obtain ⟨st, hst, hname⟩ := SitePage.declared_of_param hbuild ht hq
      exact hagree _ (.remembered hshown hst hname)
  obtain ⟨hresult, hmemory, hstate, hcalls⟩ :=
    (hargs.navigation_alike nav (SitePage.listed_of_class? hc)).made hm b s
  rw [Turn.take_navigate, Turn.take_navigate]
  exact ⟨hcalls, congrArg (Except.map some) hresult.eq, hmemory.lastPath trivial, hstate⟩

namespace Yard

theorem declares {s : StepDef} {n : String} (hs : s ∈ gate.steps) (h : s.Declares n) :
    n = "key" := by
  obtain rfl := List.mem_singleton.1 hs
  obtain ⟨d, hd, rfl⟩ := h
  obtain rfl := List.mem_singleton.1 hd
  rfl

theorem gate_reads {n : String} (h : gate.Reads n) : n = "side" ∨ n = "key" := by
  have hpath : Template.placeholders gate.path = .ok ["side"] := rfl
  have hplain : Template.placeholders "#gate" = .ok [] := rfl
  cases h with
  | path hnames hname =>
    cases hpath.symm.trans hnames
    exact .inl (List.mem_singleton.1 hname)
  | check hc htemplate hnames hname =>
    obtain rfl := List.mem_singleton.1 hc
    cases htemplate
    cases hplain.symm.trans hnames
    simp at hname
  | param hs hname => exact .inr (declares hs hname)

theorem not_garden_reads {n : String} : ¬garden.Reads n := by
  have hpath : Template.placeholders garden.path = .ok [] := rfl
  have hplain : Template.placeholders "#garden" = .ok [] := rfl
  intro h
  cases h with
  | path hnames hname =>
    cases hpath.symm.trans hnames
    simp at hname
  | check hc htemplate hnames hname =>
    obtain rfl := List.mem_singleton.1 hc
    cases htemplate
    cases hplain.symm.trans hnames
    simp at hname
  | param hs => simp [garden] at hs

def atGate : Memory SitePage := { lastDisplayed := some (⟨site, gate⟩, west) }

theorem reads {n : String} (h : site.Reads atGate n) : n = "side" ∨ n = "key" := by
  cases h with
  | page hp hreads =>
    simp only [site, List.mem_cons, List.not_mem_nil, or_false] at hp
    obtain rfl | rfl := hp
    · exact gate_reads hreads
    · exact absurd hreads not_garden_reads
  | remembered hshown hs hname =>
    cases hshown
    exact .inr (declares hs hname)

end Yard

theorem mood_is_ignored :
    let moody := Yard.key.insert "mood" (.str "merry")
    Yard.site.validate = .ok () ∧ Yard.site.class? "Garden" = some ⟨Yard.site, Yard.garden⟩ ∧
    (∀ n, Yard.site.Reads Yard.atGate n → Yard.key.get? n = moody.get? n) ∧
    ((Turn.navigate ⟨Yard.site, Yard.garden⟩ Yard.key).take {} House.lamp Yard.atGate "#gate").Alike
      {} House.lamp
      ((Turn.navigate ⟨Yard.site, Yard.garden⟩ moody).take {} House.lamp Yard.atGate "#gate") := by
  intro moody
  have hagree (n : String) (hn : Yard.site.Reads Yard.atGate n) :
      Yard.key.get? n = moody.get? n := by
    rw [SortedMap.get?_insert, if_neg]
    rintro rfl
    simpa using Yard.reads hn
  exact ⟨Yard.validate_site, rfl, hagree, undeclared_arguments_are_ignored Yard.site {} House.lamp
    Yard.atGate "#gate" "Garden" _ Yard.key moody Yard.validate_site rfl hagree⟩

end Wayfinder
