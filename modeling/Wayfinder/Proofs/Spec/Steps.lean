import Wayfinder.Proofs.Route.Reached
import Wayfinder.Proofs.Site.Catalog
import Wayfinder.Proofs.Spec.Led

/-! Single steps of a spec. What a step gathers does not depend on what was gathered before, it can
be read off the step, and it is gathered only if the step goes well. -/
namespace Wayfinder
variable {ρ σ : Type}

def Attempt.Gives {ε α : Type} (P : α → Prop) (a : Attempt ε α) : Prop :=
  ∀ (σ : Type) (b : Browser σ) (s : σ) (x : α), (Dialogue.run b a.run s).1 = .ok x → P x

namespace Attempt.Gives
variable {ε α β : Type} {P : β → Prop}

theorem pure {x : β} (h : P x) : Gives P (pure x : Attempt ε β) := by
  intro σ b s y hy
  cases hy
  exact h

theorem throw (e : ε) : Gives P (throw e : Attempt ε β) := by
  intro σ b s y hy
  cases hy

theorem bind {a : Attempt ε α} {f : α → Attempt ε β} (h : ∀ x, Gives P (f x)) :
    Gives P (a >>= f) := by
  intro σ b s y hy
  rw [Dialogue.run_bind] at hy
  cases hrun : Dialogue.run b a.run s with
  | mk r s' =>
    rw [hrun] at hy
    cases r with
    | ok x => exact h x σ b s' y hy
    | error e => cases hy

end Attempt.Gives

def Finding.Backed (f : Finding) : Prop := f.passed = true → f.actual.isSome = true

/-- A verdict has a message when its assertion does not hold, and says what was seen when it
does. -/
structure Verdict.Sound (v : Verdict) : Prop where
  message : v.message.isSome = true ↔ v.passed = false
  actual : v.passed = true → v.actual.isSome = true

def Verdict.place (v : Verdict) : Nat × Assertion := (v.stepIndex, v.assertion)

namespace Assertion
variable [PageFamily ρ] (catalog : Catalog ρ) (b : Browser σ) (s : σ) (a : Assertion) (i : Nat)

theorem find_backed : (a.find catalog).Gives Finding.Backed := by
  cases a with
  | urlContains | urlEquals | elementVisible | elementCount =>
    exact .bind fun _ => .pure fun _ => rfl
  | pageDisplayed page args =>
    simp only [find]
    cases buildPage catalog page args with
    | ok p => exact .bind fun _ => .pure fun _ => rfl
    | error e => exact .throw e
  | elementText selector expected =>
    refine .bind fun text => ?_
    cases text with
    | some text => exact .pure fun _ => rfl
    | none => exact .pure nofun

theorem verdict_sound {r : Except RouteError Finding} (h : ∀ f, r = .ok f → f.Backed) :
    (a.verdict i r).Sound := by
  cases r with
  | ok f =>
    refine ⟨?_, h f rfl⟩
    cases hpassed : f.passed <;> simp [verdict, hpassed]
  | error e => exact ⟨by simp [verdict], nofun⟩

theorem verdict_place (r : Except RouteError Finding) : (a.verdict i r).place = (i, a) := by
  cases r <;> rfl

theorem run_judge :
    Dialogue.run b (a.judge catalog i) s =
      (a.verdict i (Dialogue.run b (a.find catalog).run s).1,
        (Dialogue.run b (a.find catalog).run s).2) := by
  unfold judge Dialogue.run
  exact Script.run_bind b.answer _ _ s

theorem led_judge (m : Memory ρ) :
    ∃ v : Verdict, (Nav.led b m s (liftM (a.judge catalog i) : Nav ρ Verdict)).result = .ok v ∧
      v.place = (i, a) ∧ v.Sound := by
  rw [Nav.led_lift, run_judge]
  refine ⟨_, rfl, a.verdict_place i _, a.verdict_sound i fun f hf => ?_⟩
  exact a.find_backed catalog σ b s f hf

/-- Assertions are all judged, whatever comes of them. -/
theorem led_judges (m : Memory ρ) (as : List Assertion) :
    ∃ vs : List Verdict,
      (Nav.led b m s (as.mapM fun a => (liftM (a.judge catalog i) : Nav ρ Verdict))).result =
        .ok vs ∧
      vs.map Verdict.place = as.map (i, ·) ∧ ∀ v ∈ vs, v.Sound := by
  induction as generalizing m s with
  | nil => exact ⟨[], rfl, rfl, by simp⟩
  | cons a as ih =>
    obtain ⟨v, hv, hplace, hsound⟩ := a.led_judge catalog b s i m
    simp only [List.mapM_cons, Nav.led_bind, Nav.led_pure]
    cases hled : Nav.led b m s (liftM (a.judge catalog i) : Nav ρ Verdict) with
    | mk r m' calls s' =>
      rw [hled] at hv
      subst hv
      obtain ⟨vs, hvs, hplaces, hsounds⟩ := ih s' m'
      refine ⟨v :: vs, ?_, by simp [hplace, hplaces], List.forall_mem_cons.2 ⟨hsound, hsounds⟩⟩
      simp [Led.andThen, hvs]

end Assertion

namespace Catalog
variable [PageFamily ρ]

def Named (catalog : Catalog ρ) : Prop :=
  ∀ name c, catalog.get? name = some c → PageFamily.name c = name

theorem Named.name_of_resolve {catalog : Catalog ρ} (h : catalog.Named) {name : String} {c : ρ}
    (hc : catalog.resolve name = .ok c) : PageFamily.name c = name := by
  unfold resolve at hc
  split at hc
  · next hget =>
    cases hc
    exact h name c hget
  · cases hc

theorem Named.name_of_mapM {catalog : Catalog ρ} (h : catalog.Named) (b : Browser σ)
    {m : Memory ρ} {s : σ} {name : Option String} {c : Option ρ}
    (hc : (Nav.led b m s (name.mapM fun name => Nav.orThrow (catalog.resolve name))).result =
      .ok c) : c.map PageFamily.name = name := by
  cases name with
  | none =>
    cases hc
    rfl
  | some name =>
    simp only [Option.mapM_some, Nav.led_map, Nav.led_orThrow, Led.map] at hc
    cases hresolve : catalog.resolve name with
    | ok d =>
      rw [hresolve] at hc
      cases hc
      exact congrArg some (h.name_of_resolve hresolve)
    | error e =>
      rw [hresolve] at hc
      cases hc

end Catalog

theorem SiteMap.catalog_named (site : SiteMap) : site.catalog.Named := by
  intro name c hc
  rw [get?_catalog] at hc
  exact (class?_eq_some hc).1

theorem Trip.result_led_play [PageFamily ρ] {α : Type} (nav : Navigator) (b : Browser σ)
    (m : Memory ρ) (s : σ) (t : Trip ρ α) :
    (Nav.led b m s (t.play nav)).result = (t.made nav b m s).result := by
  rw [Nav.led, made_play]

namespace Navigator
variable [PageFamily ρ] [LawfulPageFamily ρ] (nav : Navigator) (b : Browser σ) {m : Memory ρ}
  {s : σ} {args : Args}

theorem name_of_navigate {c : ρ} {p : Page ρ}
    (h : (Nav.led b m s (nav.navigate c args)).result = .ok p) : p.name = PageFamily.name c := by
  rw [navigate, Trip.result_led_play] at h
  have haccount : Navigated nav c args m _ ((nav.navigation c args).made nav b m s).result _ :=
    nav.navigated_navigation b c args m s
  rw [h] at haccount
  exact haccount.name_eq

theorem name_of_openPage {c : Option ρ} {url : Option String} {p : Option (Page ρ)}
    (h : (Nav.led b m s (nav.openPage c url args)).result = .ok p) :
    p.map Page.name = c.map PageFamily.name := by
  rw [openPage, Trip.result_led_play] at h
  have haccount : Opened args m c url _ ((opening c url args).made nav b m s).result _ :=
    opened_opening nav b c url args m s
  rw [h] at haccount
  exact haccount.name_eq

end Navigator

def Progress.extend (p q : Progress) : Progress :=
  { p with pages := p.pages ++ q.pages, verdicts := p.verdicts ++ q.verdicts }

namespace SpecStep
variable [PageFamily ρ] (nav : Navigator) (catalog : Catalog ρ) (b : Browser σ)

def page? : SpecStep → Option String
  | .openPage page _ _ => page
  | .navigate page _ => some page
  | .click _ | .fill _ _ | .check _ => none

def assertions : SpecStep → List Assertion
  | .check as => as
  | .openPage _ _ _ | .navigate _ _ | .click _ | .fill _ _ => []

/-- What a step gathers is added to what was gathered before and does not depend on it. -/
theorem run_eq_map (step : SpecStep) (p : Progress) :
    step.run nav catalog p = p.extend <$> step.run nav catalog { stepIndex := p.stepIndex } := by
  cases step with
  | openPage page url args =>
    simp only [run, map_bind]
    refine bind_congr fun c => bind_congr fun opened => ?_
    cases opened <;> simp [Progress.extend, Progress.addPage]
  | navigate page args => simp [run, Progress.extend, Progress.addPage]
  | click hint => simp [run, Progress.extend]
  | fill hint value => simp [run, Progress.extend]
  | check as => simp [run, Progress.extend, Progress.addVerdicts]

/-- A step that only looks does not fail. -/
theorem result_check (p : Progress) (m : Memory ρ) (s : σ) (as : List Assertion) :
    ∃ vs : List Verdict,
      (Nav.led b m s ((SpecStep.check as).run nav catalog p)).result = .ok (p.addVerdicts vs) ∧
      vs.map Verdict.place = as.map (p.stepIndex, ·) ∧ ∀ v ∈ vs, v.Sound := by
  obtain ⟨vs, hvs, hplaces, hsounds⟩ := Assertion.led_judges catalog b s p.stepIndex m as
  refine ⟨vs, ?_, hplaces, hsounds⟩
  simp [run, Led.map, hvs, Except.map]

variable [LawfulPageFamily ρ]

/-- What a step gathers when it goes well. -/
theorem gathered (hcatalog : catalog.Named) {step : SpecStep} {i : Nat} {m : Memory ρ} {s : σ}
    {q : Progress} (h : (Nav.led b m s (step.run nav catalog { stepIndex := i })).result = .ok q) :
    q.pages = step.page?.toList ∧ q.verdicts.map Verdict.place = step.assertions.map (i, ·) ∧
      ∀ v ∈ q.verdicts, v.Sound := by
  cases step with
  | openPage page url args =>
    rw [run, Nav.led_bind] at h
    obtain ⟨c, hc, h⟩ := Led.exists_of_andThen h
    rw [Nav.led_bind] at h
    obtain ⟨opened, hopened, h⟩ := Led.exists_of_andThen h
    have hname : opened.map Page.name = page :=
      (nav.name_of_openPage b hopened).trans (hcatalog.name_of_mapM b hc)
    cases opened with
    | some p =>
      cases h
      exact ⟨congrArg Option.toList hname, rfl, by simp [Progress.addPage]⟩
    | none =>
      cases h
      exact ⟨congrArg Option.toList hname, rfl, by simp⟩
  | navigate page args =>
    rw [run, Nav.led_bind] at h
    obtain ⟨p, hp, h⟩ := Led.exists_of_andThen h
    rw [Navigator.navigateTo, Nav.led_bind, Nav.led_orThrow] at hp
    obtain ⟨c, hc, hp⟩ := Led.exists_of_andThen hp
    cases h
    have hname : p.name = page :=
      (nav.name_of_navigate b hp).trans (hcatalog.name_of_resolve hc)
    exact ⟨congrArg ([·]) hname, rfl, by simp [Progress.addPage]⟩
  | click hint | fill hint =>
    rw [run, Nav.led_bind] at h
    obtain ⟨-, -, h⟩ := Led.exists_of_andThen h
    cases h
    exact ⟨rfl, rfl, by simp⟩
  | check as =>
    obtain ⟨vs, hvs, hplaces, hsounds⟩ :=
      result_check nav catalog b { stepIndex := i } m s as
    rw [hvs] at h
    cases h
    exact ⟨rfl, hplaces, hsounds⟩

end SpecStep
end Wayfinder
