import Mathlib.Data.List.Permutation
import Wayfinder.Page.Union
import Wayfinder.Proofs.Page.Rendering
import Wayfinder.Proofs.Route.Turns
import Wayfinder.Proofs.Site.Catalog
import Wayfinder.Sample.Stairwell

/-! Circles of prerequisites, as validation finds them in the declarations and as a navigation runs
into them page by page. On a map that is accepted no navigation meets one. On a map that is rejected
for one, a navigation to the page named first meets the same one, name for name, unless it stops
before at a page that is displayed. -/
namespace Wayfinder
variable {ρ σ : Type} {site : SiteMap} {nav : Navigator} {b : Browser σ} {args : Args}
  {m m' : Memory SitePage} {s : σ} {hs : List (Done SitePage)}

theorem Rule.failed_of_invoke [PageFamily ρ] {r : Rule} {step : Step ρ} {dest : Page ρ}
    {e : RouteError} (h : (Dialogue.run b (r.invoke step dest args).run s).1 = .error e) :
    ∃ cause, e = step.failed cause := by
  cases r with
  | cls | className | href => exact Dialogue.exists_of_run_adapt h

/-- A dispatch fails because it finds no step, or because the step fails. -/
theorem Steps.failed_of_dispatch [PageFamily ρ] {t : Steps ρ} {rules : List Rule} {dest : Page ρ}
    {e : RouteError} (h : (Dialogue.run b (t.dispatch rules dest args).run s).1 = .error e) :
    (t.choose? rules dest = none ∧ e = t.notFound dest) ∨
      ∃ (step : Step ρ) (cause : StepFault), e = step.failed cause := by
  cases hchoose : t.choose? rules dest with
  | none =>
    simp only [dispatch, hchoose, Dialogue.run_throw] at h
    exact .inl ⟨rfl, (Except.error.inj h).symm⟩
  | some x =>
    obtain ⟨r, step⟩ := x
    simp only [dispatch, hchoose, Dialogue.run_bind] at h
    cases hrun : Dialogue.run b (r.invoke step dest args).run s with
    | mk o s' =>
      cases o with
      | ok _ =>
        rw [hrun] at h
        cases h
      | error e' =>
        simp only [hrun, Except.error.injEq] at h
        obtain ⟨cause, rfl⟩ := Rule.failed_of_invoke (by rw [hrun])
        exact .inr ⟨step, cause, h.symm⟩

theorem Steps.choose?_of_stepNotFound [PageFamily ρ] {t : Steps ρ} {rules : List Rule}
    {dest : Page ρ} {current name : String} {labels : List String}
    (h : (Dialogue.run b (t.dispatch rules dest args).run s).1 =
      .error (.stepNotFound current name labels)) : t.choose? rules dest = none := by
  obtain ⟨hnone, -⟩ | ⟨step, cause, hfail⟩ := failed_of_dispatch h
  · exact hnone
  · cases hfail

/-- If pages arrive without fail, a deed fails for the browser, for a page that cannot be built, or
in a dispatch. -/
theorem Deed.failed_of_carryOut [PageFamily ρ] {d : Deed ρ} {e : RouteError}
    (harrive : ∀ p, d = .arrive p → ∃ notes, p.arrive = pure notes)
    (h : (d.carryOut nav b s).1 = .error e) :
    (∃ cause, e = .browser cause) ∨ (∃ c args, PageFamily.build (c : ρ) args = .error e) ∨
      ∃ p dest args, d = .hop p dest args ∧
        (Dialogue.run b (p.steps.dispatch nav.rules dest args).run s).1 = .error e := by
  cases d with
  | look p | recheck p | load url | loadPage p => exact .inl (Dialogue.exists_of_run_adapt h)
  | «recall» shown =>
    cases shown with
    | none => cases h
    | some x => exact .inr (.inl ⟨x.1, x.2, eq_error_of_map h⟩)
  | hop p dest args => exact .inr (.inr ⟨p, dest, args, rfl, h⟩)
  | arrive p =>
    obtain ⟨notes, hnotes⟩ := harrive p rfl
    rw [carryOut, attempt, hnotes, Dialogue.run_pure] at h
    cases h

namespace SitePage

theorem build_ne_circle (c : SitePage) (passed : List String) :
    PageFamily.build c args ≠ .error (.prerequisiteCycle passed) := by
  intro h
  obtain ⟨cause, -, he⟩ := build_eq_error_iff.1 h
  cases he

theorem arrive_of_built {p : Page SitePage} (hp : p.Built args) : p.arrive = pure p.notes := by
  obtain ⟨path, -, hpage⟩ := eq_page_of_build hp
  rw [hpage]
  rfl

end SitePage

theorem Deed.carryOut_ne_circle {d : Deed SitePage} (harrive : ∀ p, d = .arrive p → p.Built args)
    (passed : List String) : (d.carryOut nav b s).1 ≠ .error (.prerequisiteCycle passed) := by
  intro h
  obtain ⟨cause, hfail⟩ | ⟨c, given, hbuild⟩ | ⟨p, dest, given, -, hhop⟩ :=
    Deed.failed_of_carryOut (fun p hp => ⟨_, SitePage.arrive_of_built (harrive p hp)⟩) h
  · cases hfail
  · exact c.build_ne_circle passed hbuild
  · obtain ⟨-, hfail⟩ | ⟨step, cause, hfail⟩ := Steps.failed_of_dispatch hhop <;> cases hfail

namespace SiteMap

theorem mem_pages_of_listed {c : SitePage} (hc : c.Listed site) : c.decl ∈ site.pages := by
  obtain ⟨d, hd, hclass⟩ := Option.map_eq_some_iff.1 hc.2
  rw [← hclass]
  exact mem_of_page? hd

theorem requires_of_prerequisite {p : Page SitePage} {c : SitePage} (hp : p.cls.Listed site)
    (hbuilt : p.Built args) (hreq : p.prerequisite = some c) :
    site.Requires p.cls.decl c.decl := by
  have hc : c.Listed site := hp.prerequisite hbuilt hreq
  obtain ⟨path, -, hpage⟩ := SitePage.eq_page_of_build hbuilt
  rw [hpage] at hreq
  obtain ⟨name, hname, hclass⟩ := Option.bind_eq_some_iff.1 hreq
  exact ⟨mem_pages_of_listed hc, by rw [hname, (class?_eq_some hclass).1]⟩

end SiteMap

/-- The pages of the chain are pages of the map, built for the arguments, each of which requires
the next one. -/
structure PathChain.Along (site : SiteMap) (args : Args) (chain : PathChain SitePage) : Prop where
  listed : ∀ p ∈ chain.pages, p.cls.Listed site
  built : ∀ p ∈ chain.pages, p.Built args
  way : List.IsChain site.Requires (chain.pages.map (·.cls.decl))

namespace PathChain.Along
variable {chain : PathChain SitePage}

theorem target {c : SitePage} {p : Page SitePage} (hc : c.Listed site)
    (hbuild : PageFamily.build c args = .ok p) : PathChain.Along site args { target := p } where
  listed := by
    have hcls : p.cls = c := SitePage.cls_of_build hbuild
    simpa [pages, hcls] using hc
  built := by simpa [pages] using SitePage.built_of_build hbuild
  way := by simp [pages]

theorem listed_next (h : chain.Along site args) {c : SitePage}
    (hreq : chain.top.prerequisite = some c) : c.Listed site :=
  (h.listed _ (mem_top chain)).prerequisite (h.built _ (mem_top chain)) hreq

/-- The way goes on from the last page to the one that it requires. -/
theorem way_concat (h : chain.Along site args) {c : SitePage}
    (hreq : chain.top.prerequisite = some c) :
    List.IsChain site.Requires (chain.pages.map (·.cls.decl) ++ [c.decl]) := by
  have hnext := SiteMap.requires_of_prerequisite (h.listed _ (mem_top chain))
    (h.built _ (mem_top chain)) hreq
  refine h.way.append (.singleton _) fun x hx y hy => ?_
  simp only [pages_eq_concat_top, List.map_append, List.map_cons, List.map_nil,
    List.getLast?_concat, Option.mem_some_iff, List.head?_cons] at hx hy
  exact hx ▸ hy ▸ hnext

theorem push (h : chain.Along site args) {c : SitePage} {p : Page SitePage}
    (hreq : chain.top.prerequisite = some c) (hbuild : PageFamily.build c args = .ok p) :
    (chain.push p).Along site args := by
  have hcls : p.cls = c := SitePage.cls_of_build hbuild
  have hp : p.Built args := SitePage.built_of_build hbuild
  constructor
  · simpa [or_imp, forall_and, hcls] using ⟨h.listed, h.listed_next hreq⟩
  · simpa [or_imp, forall_and] using ⟨h.built, hp⟩
  · simpa [hcls] using h.way_concat hreq

/-- On a map without circles the next page is not yet in the chain. -/
theorem not_contains (h : chain.Along site args) (hsite : site.WellFormed) {c : SitePage}
    (hreq : chain.top.prerequisite = some c) : chain.contains c = false := by
  refine Bool.eq_false_iff.2 fun hin => ?_
  obtain ⟨p, hp, hsame⟩ := List.any_eq_true.1 hin
  have hpc : p.cls = c := (h.listed p hp).eq_of_same (h.listed_next hreq) hsame
  obtain ⟨before, after, hsplit⟩ := List.append_of_mem hp
  have hback : List.IsChain site.Requires (c.decl :: after.map (·.cls.decl) ++ [c.decl]) := by
    have hway := h.way_concat hreq
    rw [hsplit, List.map_append, List.map_cons, hpc, List.append_assoc] at hway
    exact hway.right_of_append
  have hrooted := hsite.rooted _ (SiteMap.mem_pages_of_listed (h.listed_next hreq))
  exact hrooted.not_requires_self hsite.distinct (SiteMap.transGen_of_way hback)

end PathChain.Along

theorem Climbed.along {limit room : Nat} {chain : PathChain SitePage} {shown : Bool}
    {r : Except RouteError (PathChain SitePage)}
    (h : Climbed limit args room chain shown m hs r m') (hchain : chain.Along site args) :
    ∀ chain', r = .ok chain' → chain'.Along site args := by
  induction h with
  | displayed | root =>
    intro chain' hr
    cases hr
    exact ⟨hchain.listed, hchain.built, hchain.way⟩
  | circle | tooDeep | unbuilt | unseen => simp
  | onward hreq _ hbuild _ ih => exact ih (hchain.push hreq hbuild)

theorem Climbed.ne_circle {limit room : Nat} {chain : PathChain SitePage} {shown : Bool}
    {r : Except RouteError (PathChain SitePage)} {passed : List String}
    (h : Climbed limit args room chain shown m hs r m') (hsite : site.WellFormed)
    (hchain : chain.Along site args) (hdeeds : ∀ d, ⟨d, .error (.prerequisiteCycle passed)⟩ ∉ hs) :
    r ≠ .error (.prerequisiteCycle passed) := by
  induction h with
  | displayed | root | tooDeep => simp
  | circle hreq hin => simp [hchain.not_contains hsite hreq] at hin
  | unbuilt _ _ hbuild =>
    intro he
    cases he
    exact SitePage.build_ne_circle _ _ hbuild
  | @unseen _ _ _ _ p =>
    intro he
    cases he
    exact hdeeds (.look p) (by simp)
  | onward hreq _ hbuild _ ih =>
    exact ih (hchain.push hreq hbuild) fun d hd => hdeeds d (List.mem_cons_of_mem _ hd)

namespace Backtraced
variable {c : SitePage} {r : Except RouteError (PathChain SitePage)}

theorem along (h : Backtraced nav c args m hs r m') (hc : c.Listed site) :
    ∀ chain, r = .ok chain → chain.Along site args := by
  cases h with
  | unbuilt | unseen => simp
  | begun hbuild hrest => exact hrest.along (.target hc hbuild)

theorem ne_circle {passed : List String} (h : Backtraced nav c args m hs r m')
    (hsite : site.WellFormed) (hc : c.Listed site)
    (hdeeds : ∀ d, ⟨d, .error (.prerequisiteCycle passed)⟩ ∉ hs) :
    r ≠ .error (.prerequisiteCycle passed) := by
  cases h with
  | unbuilt hbuild =>
    intro he
    cases he
    exact SitePage.build_ne_circle _ _ hbuild
  | @unseen p =>
    intro he
    cases he
    exact hdeeds (.look p) (by simp)
  | begun hbuild hrest =>
    exact hrest.ne_circle hsite (.target hc hbuild)
      fun d hd => hdeeds d (List.mem_cons_of_mem _ hd)

end Backtraced

theorem Replayed.ne_circle {chain : PathChain SitePage} {r : Except RouteError (Page SitePage)}
    {passed : List String} (h : Replayed args chain m hs r m')
    (hdeeds : ∀ d, ⟨d, .error (.prerequisiteCycle passed)⟩ ∉ hs) :
    r ≠ .error (.prerequisiteCycle passed) := by
  rintro rfl
  obtain ⟨d, hd⟩ | hadrift := h.failed
  · exact hdeeds d hd
  · cases hadrift

/-- Only pages of the chain arrive in a replay. -/
theorem Replayed.arrived {chain : PathChain SitePage} {r : Except RouteError (Page SitePage)}
    {q : Page SitePage} {o : Deed.Outcome (.arrive q)} (h : Replayed args chain m hs r m')
    (hq : ⟨.arrive q, o⟩ ∈ hs) : q ∈ chain.pages := by
  have hforward : ∀ p ∈ chain.top :: chain.forward.2, p ∈ chain.pages := by
    rw [chain.top_cons_forward]
    exact fun p => List.mem_reverse.1
  have hwalked {p rest r' m₁ hs'} (hwalk : Walked args p rest m hs' r' m₁)
      (hq : (⟨.arrive q, o⟩ : Done SitePage) ∈ hs') : q ∈ rest := by
    obtain ⟨_, _, _, hx⟩ | ⟨p, hp, _, hx⟩ := hwalk.hop_or_arrive _ hq
    · cases hx
    · cases hx
      exact hp
  cases h with
  | anchored _ hwalk => exact hforward q (List.mem_cons_of_mem _ (hwalked hwalk hq))
  | unbuilt | blank | unseen | gone => simp at hq
  | remembered _ _ hwalk =>
    simp only [List.mem_cons, Exchange.mk.injEq, reduceCtorEq, false_and, false_or] at hq
    exact hforward q (hwalked hwalk hq)

/-- On an accepted map no navigation fails for a circle. -/
theorem Navigator.navigation_ne_circle (nav : Navigator) (b : Browser σ) (m : Memory SitePage)
    (s : σ) {c : SitePage} (args : Args) (hsite : site.WellFormed) (hc : c.Listed site)
    (passed : List String) :
    ((nav.navigation c args).made nav b m s).result ≠ .error (.prerequisiteCycle passed) := by
  have hdeeds (d : Deed SitePage) (harrive : ∀ p, d = .arrive p → p.Built args) :
      ⟨d, .error (.prerequisiteCycle passed)⟩ ∉
        ((nav.navigation c args).made nav b m s).history := by
    intro hd
    obtain ⟨s', hs'⟩ := Trip.outcome_of_mem nav b m s hd
    exact d.carryOut_ne_circle harrive passed hs'.symm
  have haccount := nav.navigated_navigation b c args m s
  generalize (nav.navigation c args).made nav b m s = o at hdeeds haccount ⊢
  obtain ⟨r, m', hs, s'⟩ := o
  intro hr
  cases haccount with
  | lost hback =>
    cases hr
    refine hback.ne_circle hsite hc (fun d hd => hdeeds d ?_ hd) rfl
    rintro p rfl
    obtain ⟨_, _, hx⟩ := hback.look_of_mem _ hd
    cases hx
  | found hback hreplay =>
    refine hreplay.ne_circle (fun d hd => hdeeds d ?_ (List.mem_append_right _ hd)) hr
    rintro p rfl
    exact (hback.along hc _ rfl).built p (hreplay.arrived hd)

/-- As long as the browser is in one of these states, looking for the page succeeds, finds it
hidden, and leads to such a state again. -/
def Page.HiddenWhile (p : Page ρ) (b : Browser σ) (quiet : σ → Prop) : Prop :=
  ∀ s, quiet s → ∃ s', Dialogue.run b p.isDisplayed.run s = (.ok false, s') ∧ quiet s'

theorem Page.HiddenWhile.carryOut_look {p : Page SitePage} {quiet : σ → Prop}
    (h : p.HiddenWhile b quiet) (nav : Navigator) (hs : quiet s) :
    ∃ s', (Deed.look p).carryOut nav b s = (.ok false, s') ∧ quiet s' := by
  obtain ⟨s', hrun, hs'⟩ := h s hs
  exact ⟨s', Deed.carryOut_look_of_run nav hrun, hs'⟩

theorem PathChain.contains_iff {chain : PathChain SitePage} {c : SitePage} :
    chain.contains c = true ↔ c.decl.name ∈ chain.names := by
  have hsame (p : Page SitePage) : PageFamily.same p.cls c = true ↔ p.name = c.decl.name := by
    rw [PageFamily.same_iff]
    change ClassKey.declared p.cls.decl.name = .declared c.decl.name ↔ p.cls.decl.name = _
    simp
  simp [contains, names, hsame]

namespace SiteMap

theorem prerequisite_of_build (hdistinct : site.names.Nodup) {d q : PageDef} {p : Page SitePage}
    (hbuild : PageFamily.build (⟨site, d⟩ : SitePage) args = .ok p) (hreq : site.Requires d q) :
    p.prerequisite = some ⟨site, q⟩ := by
  rw [SitePage.prerequisite_eq hbuild, hreq.2, Option.bind_some, class?_name hdistinct hreq.1]

end SiteMap

def SitePage.Passable (c : SitePage) (args : Args) (b : Browser σ) (quiet : σ → Prop) : Prop :=
  ∃ p, PageFamily.build c args = .ok p ∧ p.HiddenWhile b quiet

namespace Navigator

/-- The climb passes the pages of the way, which are hidden, up to the one whose name comes again.
It needs room for as many pages as the way has. -/
theorem climb_circles (nav : Navigator) (limit : Nat) {way : List PageDef} {d q : PageDef}
    {quiet : σ → Prop} {room : Nat} {p : Page SitePage} (chain : PathChain SitePage)
    (m : Memory SitePage) (hdistinct : site.names.Nodup)
    (hbuild : PageFamily.build (⟨site, d⟩ : SitePage) args = .ok p)
    (hway : List.IsChain site.Requires (d :: way ++ [q]))
    (hnodup : (chain.names ++ way.map (·.name)).Nodup)
    (hagain : q.name ∈ chain.names ++ way.map (·.name)) (hroom : way.length ≤ room)
    (hpass : ∀ a ∈ way, (⟨site, a⟩ : SitePage).Passable args b quiet) (hs : quiet s) :
    ∃ m' hs s', (climb limit args room chain (p.seen false)).made nav b m s =
      ⟨.error (.prerequisiteCycle (chain.names ++ (way ++ [q]).map (·.name))), m', hs, s'⟩ := by
  induction way generalizing room chain d p m s with
  | nil =>
    have hreq := SiteMap.prerequisite_of_build hdistinct hbuild (by simpa using hway)
    have hin : chain.contains ⟨site, q⟩ = true := PathChain.contains_iff.2 (by simpa using hagain)
    refine ⟨m, [], s, ?_⟩
    cases room <;> simp [Page.seen, hreq, climb, hin]
  | cons a way ih =>
    obtain ⟨hnext, hrest⟩ := List.isChain_cons_cons.1 hway
    have hreq := SiteMap.prerequisite_of_build hdistinct hbuild hnext
    have hnew : chain.contains ⟨site, a⟩ = false := by
      refine Bool.eq_false_iff.2 fun hin => ?_
      exact (List.nodup_append.1 hnodup).2.2 a.name (PathChain.contains_iff.1 hin) a.name
        (by simp) rfl
    obtain ⟨pa, hbuilda, hhidden⟩ := hpass a (by simp)
    obtain ⟨s₁, hlook, hs₁⟩ := hhidden.carryOut_look nav hs
    have hnames : (chain.push pa).names = chain.names ++ [a.name] := by
      have hcls : pa.cls = ⟨site, a⟩ := SitePage.cls_of_build hbuilda
      simp [PathChain.names, Page.name, hcls]
    cases room with
    | zero => simp at hroom
    | succ room =>
      obtain ⟨m', hs', s', hmade⟩ := ih (chain.push pa) (m.visited pa args false) hbuilda hrest
        (by simpa [hnames] using hnodup) (by simpa [hnames] using hagain)
        (Nat.le_of_succ_le_succ hroom) (fun c hc => hpass c (List.mem_cons_of_mem a hc)) hs₁
      refine ⟨m', ⟨.look pa, .ok false⟩ :: hs', s', ?_⟩
      have hseen : p.seen false = (false, some ⟨site, a⟩) := by simp [Page.seen, hreq]
      rw [hseen]
      simp [climb, hnew, hbuilda, made_visit, hlook, hmade, hnames]

/-- A navigation along a way that comes to a name again fails with the names that it passed. -/
theorem navigation_circles (nav : Navigator) {passed : List String} {d : PageDef} {quiet : σ → Prop}
    (m : Memory SitePage) (hdistinct : site.names.Nodup) (hd : d ∈ site.pages)
    (hcircle : site.Circle d passed) (hdepth : passed.length - 1 ≤ nav.settings.maxBacktraceDepth)
    (hpass : ∀ a ∈ site.pages, a.name ∈ passed → (⟨site, a⟩ : SitePage).Passable args b quiet)
    (hs : quiet s) :
    ((nav.navigation ⟨site, d⟩ args).made nav b m s).result =
      .error (.prerequisiteCycle passed) := by
  obtain ⟨way, q, hway, hnodup, hagain, rfl⟩ := hcircle
  have hmem := SiteMap.mem_pages_of_way hd hway
  have hpassable : ∀ a ∈ d :: way, (⟨site, a⟩ : SitePage).Passable args b quiet := by
    intro a ha
    have ha' : a ∈ d :: way ++ [q] := List.mem_append_left [q] ha
    exact hpass a (hmem a ha') (List.mem_map_of_mem ha')
  obtain ⟨p, hbuild, hhidden⟩ := hpassable d (by simp)
  obtain ⟨s₁, hlook, hs₁⟩ := hhidden.carryOut_look nav hs
  have hcls : p.cls = ⟨site, d⟩ := SitePage.cls_of_build hbuild
  have hnames : ({ target := p } : PathChain SitePage).names = [d.name] := by
    simp [PathChain.names, PathChain.pages, Page.name, hcls]
  have hroom : way.length ≤ nav.settings.maxBacktraceDepth - 1 := by
    simp only [List.map_append, List.length_append, List.length_map, List.length_cons,
      List.length_nil] at hdepth
    omega
  obtain ⟨m', hs', s', hclimb⟩ := climb_circles nav nav.settings.maxBacktraceDepth { target := p }
    (m.next.visited p args false) hdistinct hbuild hway (by simpa [hnames] using hnodup)
    (by simpa [hnames] using hagain) hroom
    (fun a ha => hpassable a (List.mem_cons_of_mem d ha)) hs₁
  simp [made_navigation, backtrace, hbuild, made_visit, hlook, hclimb, hnames]

end Navigator

theorem SitePage.passable {d : PageDef} {quiet : σ → Prop} (hclosed : Template.Closed d.path)
    (hcovers : Template.Covers args d.path)
    (hhidden : ∀ p, PageFamily.build (⟨site, d⟩ : SitePage) args = .ok p →
      p.HiddenWhile b quiet) :
    (⟨site, d⟩ : SitePage).Passable args b quiet := by
  obtain ⟨path, hrender⟩ := Template.render_of_covers hclosed hcovers
  have hbuild : PageFamily.build (⟨site, d⟩ : SitePage) args =
      .ok ((⟨site, d⟩ : SitePage).page args path) := SitePage.build_eq_ok_iff.2 ⟨path, hrender, rfl⟩
  exact ⟨_, hbuild, hhidden _ hbuild⟩

/-- Validation and navigation find the same circles. On an accepted map no navigation to one of its
pages fails for a circle, whatever the browser does and however deep it may go. When a map is
rejected for one, a navigation to the page named first fails with the very same names, given
arguments for the paths of the pages named, room for these, and a browser in which they are hidden
and which looking keeps so. -/
theorem circles_agree (site : SiteMap) (nav : Navigator) (b : Browser σ) (args : Args)
    (m : Memory SitePage) (s : σ) :
    (site.validate = .ok () → ∀ name c, site.class? name = some c → ∀ passed,
      ((Turn.navigate c args).take nav b m s).result ≠ .error (.prerequisiteCycle passed)) ∧
    ∀ passed (quiet : σ → Prop), site.validate = .error (.prerequisiteCycle passed) →
      (∀ name ∈ passed, ∀ d, site.page? name = some d → Template.Covers args d.path) →
      (∀ name ∈ passed, ∀ c p, site.class? name = some c → PageFamily.build c args = .ok p →
        p.HiddenWhile b quiet) →
      quiet s → passed.length - 1 ≤ nav.settings.maxBacktraceDepth →
      ∃ c, passed.head?.bind site.class? = some c ∧
        ((Turn.navigate c args).take nav b m s).result = .error (.prerequisiteCycle passed) := by
  constructor
  · intro hvalid name c hclass passed hresult
    have hsite := SiteMap.validate_eq_ok_iff.1 hvalid
    have hc := SitePage.listed_of_class? hclass
    have hmade := nav.navigation_ne_circle b m s args hsite hc passed
    rw [Turn.take_navigate_result] at hresult
    exact hmade (eq_error_of_map hresult)
  · intro passed quiet hvalid hcovers hhidden hs hdepth
    cases SiteMap.validate_eq_error_iff.1 hvalid with
    | page _ _ _ hdefect => cases hdefect
    | @circle before d after _ hdistinct hsound hpages _ hcircle =>
      have hd : d ∈ site.pages := by simp [hpages]
      have hpass (a : PageDef) (ha : a ∈ site.pages) (hname : a.name ∈ passed) :
          (⟨site, a⟩ : SitePage).Passable args b quiet :=
        SitePage.passable (hsound a ha).path
          (hcovers _ hname a (SiteMap.page?_name hdistinct ha))
          (hhidden _ hname _ · (SiteMap.class?_name hdistinct ha))
      have hmade := nav.navigation_circles m hdistinct hd hcircle hdepth hpass hs
      have hhead : passed.head? = some d.name := by
        obtain ⟨way, q, -, -, -, rfl⟩ := hcircle
        rfl
      refine ⟨⟨site, d⟩, by rw [hhead, Option.bind_some, SiteMap.class?_name hdistinct hd], ?_⟩
      rw [Turn.take_navigate_result, hmade]
      rfl

theorem stair_leads_in_circles :
    let passed := ["Stair", "Landing", "Gallery", "Landing"]
    Stairwell.site.validate = .error (.prerequisiteCycle passed) ∧
    ∃ c, Stairwell.site.class? "Stair" = some c ∧
      ((Turn.navigate c Stairwell.args).take { settings := { maxBacktraceDepth := 3 } } House.lamp
        {} "").result = .error (.prerequisiteCycle passed) := by
  intro passed
  have hvalid : Stairwell.site.validate = .error (.prerequisiteCycle passed) := by
    cbv
  have hcovers : ∀ d ∈ Stairwell.site.pages, Template.Covers Stairwell.args d.path := by
    intro d hd names hnames
    simp only [Stairwell.site, List.mem_cons, List.not_mem_nil, or_false] at hd
    have hfloor : names = ["floor"] := by
      obtain rfl | rfl | rfl := hd <;> exact (Except.ok.inj hnames).symm
    rw [hfloor]
    decide
  refine ⟨hvalid, ?_⟩
  have hagree := (circles_agree Stairwell.site { settings := { maxBacktraceDepth := 3 } } House.lamp
    Stairwell.args {} "").2 passed (· = "") hvalid
  refine hagree ?_ ?_ rfl (by decide)
  · exact fun name _ d hd => hcovers d (SiteMap.mem_of_page? hd)
  · rintro name - c p hclass hbuild s rfl
    obtain ⟨path, -, rfl⟩ := SitePage.eq_page_of_build hbuild
    have hc := SiteMap.mem_pages_of_listed (SitePage.listed_of_class? hclass)
    exact ⟨"", Stairwell.run_isDisplayed c path hc, rfl⟩

end Wayfinder
