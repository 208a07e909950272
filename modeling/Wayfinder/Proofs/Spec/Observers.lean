import Wayfinder.Browser.Simulation
import Wayfinder.Proofs.Questions
import Wayfinder.Proofs.Spec.Ran
import Wayfinder.Sample.House

/-! Assertions observe and do nothing else. Where queries do not move the browser, a spec does with
its assertions what it does without them, and comes to the same end. -/
namespace Wayfinder
variable {ρ σ α β : Type}

def SpecStep.acts : SpecStep → Bool
  | .check _ => false
  | .openPage _ _ _ | .navigate _ _ | .click _ | .fill _ _ => true

def Spec.acting (spec : Spec) : Spec := { spec with steps := spec.steps.filter SpecStep.acts }

/-- Queries do not move the browser: they lead from a state to one that is the same, and states that
are the same are answered alike, by whatever call, and stay the same. -/
structure Browser.UnmovedByQueries (b : Browser σ) (same : σ → σ → Prop) : Prop where
  equivalence : Equivalence same
  answer : ∀ {s t}, same s t → ∀ c, (b.answer c s).1 = (b.answer c t).1
  next : ∀ {s t}, same s t → ∀ c, same (b.answer c s).2 (b.answer c t).2
  query : ∀ c s, c.query = true → same s (b.answer c s).2

namespace Browser.UnmovedByQueries
variable {b : Browser σ} {same : σ → σ → Prop} (hb : b.UnmovedByQueries same) {s t : σ}
include hb

/-- From states that are the same a dialogue takes the same course. -/
theorem dialogue (d : Dialogue α) (hst : same s t) :
    (Dialogue.run b d s).1 = (Dialogue.run b d t).1 ∧
      same (Dialogue.run b d s).2 (Dialogue.run b d t).2 ∧
      Script.history b.answer d s = Script.history b.answer d t := by
  induction d generalizing s t with
  | done a => exact ⟨rfl, hst, rfl⟩
  | ask c next ih =>
    obtain ⟨hresult, hstate, hcalls⟩ := ih (b.answer c t).1 (hb.next hst c)
    simp only [Dialogue.run, Script.run, Script.history, hb.answer hst c] at *
    exact ⟨hresult, hstate, by rw [hcalls]⟩

theorem queries {d : Dialogue α} (hd : Script.Asks (·.query = true) d) (s : σ) :
    same s (Dialogue.run b d s).2 := by
  induction d generalizing s with
  | done a => exact hb.equivalence.refl s
  | ask c next ih => exact hb.equivalence.trans (hb.query c s hd.1) (ih _ (hd.2 _) _)

end Browser.UnmovedByQueries

/-- From states that are the same a course comes to the same. -/
theorem Nav.led_same {b : Browser σ} {same : σ → σ → Prop} (hb : b.UnmovedByQueries same)
    (t : Nav ρ α) (m : Memory ρ) {s s' : σ} (hs : same s s') :
    ∃ r m' calls s₁ s₁', led b m s t = ⟨r, m', calls, s₁⟩ ∧ led b m s' t = ⟨r, m', calls, s₁'⟩ ∧
      same s₁ s₁' := by
  obtain ⟨hresult, hstate, hcalls⟩ := hb.dialogue (t.run.run m) hs
  refine ⟨_, _, _, _, _, rfl, ?_, hstate⟩
  simp only [led, hresult, hcalls]

/-- A course only puts queries: the memory stays as it is, and the browser in a state that is the
same. -/
structure Nav.Observes (b : Browser σ) (same : σ → σ → Prop) (t : Nav ρ α) : Prop where
  memory : ∀ m s, (led b m s t).memory = m
  calls : ∀ m s, ∀ x ∈ (led b m s t).calls, x.question.query = true
  state : ∀ m s, same s (led b m s t).state

namespace Nav.Observes
variable {b : Browser σ} {same : σ → σ → Prop} (hb : b.UnmovedByQueries same)
include hb

theorem pure (a : α) : Observes b same (pure a : Nav ρ α) where
  memory m s := by rw [led_pure]
  calls m s := by simp
  state m s := hb.equivalence.refl s

theorem lift {d : Dialogue α} (hd : Script.Asks (·.query = true) d) :
    Observes b same (liftM d : Nav ρ α) where
  memory m s := by rw [led_lift]
  calls m s := by
    rw [led_lift]
    exact fun x hx => hd.of_mem_history hx
  state m s := by
    rw [led_lift]
    exact hb.queries hd s

theorem bind {t : Nav ρ α} {f : α → Nav ρ β} (ht : Observes b same t)
    (hf : ∀ a, Observes b same (f a)) : Observes b same (t >>= f) := by
  have hcases (m : Memory ρ) (s : σ) : (led b m s (t >>= f)).memory = m ∧
      (∀ x ∈ (led b m s (t >>= f)).calls, x.question.query = true) ∧
      same s (led b m s (t >>= f)).state := by
    have hmemory := ht.memory m s
    have hcalls := ht.calls m s
    have hstate := ht.state m s
    rw [led_bind]
    cases h : led b m s t with
    | mk r m' calls s' =>
      rw [h] at hmemory hcalls hstate
      cases r with
      | error e => exact ⟨hmemory, hcalls, hstate⟩
      | ok a =>
        have hrest := hf a
        exact ⟨(hrest.memory m' s').trans hmemory,
          List.forall_mem_append.2 ⟨hcalls, hrest.calls m' s'⟩,
          hb.equivalence.trans hstate (hrest.state m' s')⟩
  exact ⟨fun m s => (hcases m s).1, fun m s => (hcases m s).2.1, fun m s => (hcases m s).2.2⟩

end Nav.Observes

section Assertions
variable (catalog : Catalog SitePage)

theorem Assertion.askPage_queries {c : Call} (h : c.query = true) :
    (askPage c).Asks (·.query = true) := .adapt (.ask h) RouteError.browser

/-- An assertion is decided by queries, whichever it is. -/
theorem Assertion.find_queries (a : Assertion) :
    (a.find catalog).Asks (·.query = true) := by
  cases a with
  | urlContains | urlEquals | elementVisible | elementCount =>
    exact .bind (askPage_queries rfl) fun _ => .pure _
  | elementText selector expected =>
    refine .bind (askPage_queries rfl) fun text => ?_
    cases text <;> exact .pure _
  | pageDisplayed page args =>
    simp only [find]
    cases hbuild : buildPage catalog page args with
    | error e => exact .throw e
    | ok p =>
      have hlook : p.isDisplayed.Asks (·.query = true) := by
        unfold buildPage at hbuild
        cases hresolve : catalog.resolve page with
        | error e =>
          rw [hresolve] at hbuild
          cases hbuild
        | ok c =>
          rw [hresolve] at hbuild
          exact (SitePage.isDisplayed_glances hbuild).mono Call.query_of_glance
      exact .bind (hlook.adapt _) fun _ => .pure _

theorem Assertion.judge_queries (i : Nat) (a : Assertion) :
    Script.Asks (·.query = true) (a.judge catalog i) :=
  .bind (a.find_queries catalog) fun _ => trivial

theorem SpecStep.check_observes {b : Browser σ} {same : σ → σ → Prop}
    (hb : b.UnmovedByQueries same) (nav : Navigator) (p : Progress) (as : List Assertion) :
    ((SpecStep.check as).run nav catalog p).Observes b same := by
  have hjudges : (as.mapM fun a =>
      (liftM (a.judge catalog p.stepIndex) : Nav SitePage Verdict)).Observes b same := by
    induction as with
    | nil => exact .pure hb []
    | cons a as ih =>
      rw [List.mapM_cons]
      exact .bind hb (.lift hb (a.judge_queries catalog p.stepIndex)) fun v =>
        .bind hb ih fun vs => .pure hb (v :: vs)
  exact .bind hb hjudges fun vs => .pure hb (p.addVerdicts vs)

/-- A step that only looks goes well and leaves everything as it was. -/
theorem SpecStep.led_check {b : Browser σ} {same : σ → σ → Prop} (hb : b.UnmovedByQueries same)
    (nav : Navigator) (p : Progress) (as : List Assertion) (m : Memory SitePage) (s : σ) :
    ∃ vs calls s', Nav.led b m s ((SpecStep.check as).run nav catalog p) =
        ⟨.ok (p.addVerdicts vs), m, calls, s'⟩ ∧
      (∀ x ∈ calls, x.question.query = true) ∧ same s s' := by
  obtain ⟨hmemory, hcalls, hstate⟩ := check_observes catalog hb nav p as
  specialize hmemory m s
  specialize hcalls m s
  specialize hstate m s
  obtain ⟨vs, hresult, -⟩ := result_check nav catalog b p m s as
  cases hled : Nav.led b m s ((SpecStep.check as).run nav catalog p) with
  | mk r m' calls s' =>
    rw [hled] at hresult hmemory hcalls hstate
    cases hresult
    cases hmemory
    exact ⟨vs, calls, s', rfl, hcalls, hstate⟩

end Assertions

section Runs
variable [PageFamily ρ] (nav : Navigator) (catalog : Catalog ρ) (b : Browser σ)

/-- What a step gathers that acts does not depend on where it stands. -/
theorem SpecStep.run_of_acts {step : SpecStep} (h : step.acts = true) (p : Progress) :
    step.run nav catalog p = p.extend <$> step.run nav catalog {} := by
  have hplace : step.run nav catalog { stepIndex := p.stepIndex } =
      (fun q => { q with stepIndex := p.stepIndex }) <$> step.run nav catalog {} := by
    cases step with
    | check => cases h
    | openPage page url args =>
      simp only [run, map_bind]
      refine bind_congr fun c => bind_congr fun opened => ?_
      cases opened <;> simp [Progress.addPage]
    | navigate | click | fill => simp [run, Progress.addPage]
  rw [step.run_eq_map, hplace, Functor.map_map]
  rfl

def doings (calls : List Called) : List Called := calls.filter fun x => !x.question.query

theorem doings_append (calls calls' : List Called) :
    doings (calls ++ calls') = doings calls ++ doings calls' := List.filter_append ..

theorem doings_eq_nil {calls : List Called} (h : ∀ x ∈ calls, x.question.query = true) :
    doings calls = [] :=
  List.filter_eq_nil_iff.2 fun x hx => by simp [h x hx]

structure Ran.Alike (same : σ → σ → Prop) (agree : α → α → Prop) (o o' : Ran ρ σ α) : Prop where
  outcome : agree o.outcome o'.outcome
  memory : o.memory = o'.memory
  doings : doings o.calls = doings o'.calls
  state : same o.state o'.state

namespace Spec

/-- Two counts of steps run, with what is said of a failure, that tell the same of steps counted
from `i` and of those of them that act, counted from `j`: nothing failed, or the start did, or the
same step for the same reason. -/
inductive EndAlike (steps : List SpecStep) (i j : Nat) :
    Nat × Option String → Nat × Option String → Prop
  | clean {k l} (hk : k = i + steps.length) (hl : l = j + (steps.filter SpecStep.acts).length) :
      EndAlike steps i j (k, none) (l, none)
  | unloaded {e : Fault} :
      EndAlike steps i j (0, some ("Failed to load start_url: " ++ e.message))
        (0, some ("Failed to load start_url: " ++ e.message))
  | failed {before step after k l} {e : RouteError} (hsteps : steps = before ++ step :: after)
      (hacts : step.acts = true) (hk : k = i + before.length)
      (hl : l = j + (before.filter SpecStep.acts).length) :
      EndAlike steps i j (k + 1, some (stepFailure k e)) (l + 1, some (stepFailure l e))

namespace EndAlike
variable {step : SpecStep} {rest : List SpecStep} {i j : Nat} {x y : Nat × Option String}

/-- The step in front is counted among those that act if it is one. -/
theorem cons (h : EndAlike rest (i + 1) (if step.acts then j + 1 else j) x y) :
    EndAlike (step :: rest) i j x y := by
  have hcount (steps : List SpecStep) :
      (if step.acts then j + 1 else j) + (steps.filter SpecStep.acts).length =
        j + ((step :: steps).filter SpecStep.acts).length := by
    rw [← List.countP_eq_length_filter, ← List.countP_eq_length_filter, List.countP_cons]
    split <;> omega
  cases h with
  | clean hk hl =>
    refine .clean ?_ (hl.trans (hcount rest))
    rw [hk, List.length_cons]
    omega
  | unloaded => exact .unloaded
  | @failed before acting after _ _ _ hsteps hacts hk hl =>
    refine .failed (?_ : step :: rest = (step :: before) ++ acting :: after) hacts ?_
      (hl.trans (hcount before))
    · rw [hsteps]
      rfl
    · rw [hk, List.length_cons]
      omega

end EndAlike
end Spec

/-- Two results tell of the same pages and of the same end, one of a spec and one of its steps that
act. -/
structure SpecResult.Agree (spec : Spec) (r r' : SpecResult) : Prop where
  pages : r.pages = r'.pages
  ending : Spec.EndAlike spec.steps 0 0 (r.stepsRun, r.error) (r'.stepsRun, r'.error)

end Runs

section SiteMaps
variable (nav : Navigator) (catalog : Catalog SitePage) {b : Browser σ} {same : σ → σ → Prop}

/-- The induction is on the steps: one that looks changes nothing in which the runs have to agree,
and one that acts does the same in both. -/
theorem Spec.runSteps_alike (hb : b.UnmovedByQueries same) (steps : List SpecStep) (i j : Nat)
    {p q : Progress} (hpq : p.pages = q.pages) (m : Memory SitePage) {s t : σ} (hst : same s t) :
    (Ran.of b m s (runSteps nav catalog i p steps)).Alike same
      (fun x y => x.1.pages = y.1.pages ∧ EndAlike steps i j x.2 y.2)
      (Ran.of b m t (runSteps nav catalog j q (steps.filter SpecStep.acts))) := by
  induction steps generalizing i j p q m s t with
  | nil => exact ⟨⟨hpq, .clean rfl rfl⟩, rfl, rfl, hst⟩
  | cons step rest ih =>
    cases hacts : step.acts with
    | false =>
      rw [List.filter_cons_of_neg (by simp [hacts])]
      cases step with
      | openPage | navigate | click | fill => cases hacts
      | check as =>
        let p' : Progress := { p with stepIndex := i }
        obtain ⟨vs, calls, s', hled, hcalls, hlook⟩ :=
          SpecStep.led_check catalog hb nav p' as m s
        have hsame := hb.equivalence.trans (hb.equivalence.symm hlook) hst
        obtain ⟨⟨hpages, hending⟩, hmemory, hdoings, hstate⟩ :=
          ih (i + 1) j (p := p'.addVerdicts vs) hpq m hsame
        rw [ran_of_ok nav catalog b rest hled]
        refine ⟨⟨hpages, hending.cons⟩, hmemory, ?_, hstate⟩
        rw [doings_append, doings_eq_nil hcalls, List.nil_append, hdoings]
    | true =>
      rw [List.filter_cons_of_pos hacts]
      let p' : Progress := { p with stepIndex := i }
      let q' : Progress := { q with stepIndex := j }
      obtain ⟨r, m', calls, s', t', hs, ht, hst'⟩ :=
        Nav.led_same hb (step.run nav catalog {}) m hst
      have hleds : Nav.led b m s (step.run nav catalog p') =
          ⟨r.map p'.extend, m', calls, s'⟩ := by
        rw [step.run_of_acts nav catalog hacts p', Nav.led_map, hs]
        rfl
      have hledt : Nav.led b m t (step.run nav catalog q') =
          ⟨r.map q'.extend, m', calls, t'⟩ := by
        rw [step.run_of_acts nav catalog hacts q', Nav.led_map, ht]
        rfl
      cases r with
      | ok x =>
        have hpages : (p'.extend x).pages = (q'.extend x).pages := congrArg (· ++ x.pages) hpq
        obtain ⟨⟨hpages, hending⟩, hmemory, hdoings, hstate⟩ := ih (i + 1) (j + 1) hpages m' hst'
        rw [ran_of_ok nav catalog b rest hleds, ran_of_ok nav catalog b _ hledt]
        refine ⟨⟨hpages, .cons (by rwa [hacts])⟩, hmemory, ?_, hstate⟩
        rw [doings_append, doings_append, hdoings]
      | error e =>
        rw [ran_of_error nav catalog b rest hleds, ran_of_error nav catalog b _ hledt]
        have hfirst : step :: rest = [] ++ step :: rest := rfl
        exact ⟨⟨hpq, .failed hfirst hacts rfl rfl⟩, rfl, rfl, hst'⟩

/-- Assertions are pure observers. With a browser that queries do not move, a spec and the spec
without its assertions reach the same pages, do the same to the browser, leave it in the same state
and the navigator with the same memory; and both end without error, or both fail to load the start
URL, or both fail at the same step for the same reason. -/
theorem assertions_only_observe (b : Browser σ) (same : σ → σ → Prop)
    (hb : b.UnmovedByQueries same) (spec : Spec) (m : Memory SitePage) (s : σ) :
    (Ran.of b m s (spec.run nav catalog)).Alike same (SpecResult.Agree spec)
      (Ran.of b m s (spec.acting.run nav catalog)) := by
  cases hload : spec.start b s with
  | mk r s₀ =>
    have hload' : spec.acting.start b s = (r, s₀) := hload
    have hsame := hb.equivalence.refl s₀
    cases r with
    | error e =>
      rw [Spec.ran_of_start_error nav catalog b hload, Spec.ran_of_start_error nav catalog b hload']
      exact ⟨⟨rfl, .unloaded⟩, rfl, rfl, hsame⟩
    | ok _ =>
      obtain ⟨⟨hpages, hending⟩, hmemory, hdoings, hstate⟩ :=
        Spec.runSteps_alike nav catalog hb spec.steps 0 0 (p := {}) (q := {}) rfl m hsame
      rw [Spec.ran_of_start_ok nav catalog b hload, Spec.ran_of_start_ok nav catalog b hload']
      refine ⟨⟨hpages, hending⟩, hmemory, ?_, hstate⟩
      rw [doings_append, doings_append]
      exact congrArg (doings (spec.startCalls b s) ++ ·) hdoings

end SiteMaps

namespace Simulation

def silent (s : Simulation) : Simulation := { s with received := [] }

def withLog (log : List Call) (s : Simulation) : Simulation := { s with received := log }

/-- What was logged before makes no difference to an answer. -/
theorem answer_withLog (c : Call) (log : List Call) (s : Simulation) :
    ∃ log', answer c (s.withLog log) = ((answer c s).1, (answer c s).2.withLog log') := by
  have hload (url : String) (log : List Call) (s : Simulation) :
      ∃ log', load url (s.withLog log) = ((load url s).1, (load url s).2.withLog log') := by
    simp only [load, receive, withLog]
    cases s.mishaps.get? (Call.load url).key <;> exact ⟨_, rfl⟩
  cases c with
  | load url => exact hload url log s
  | click hint =>
    simp only [answer, follow, receive, withLog]
    cases s.mishaps.get? (Call.click hint).key with
    | some mishap => exact ⟨_, rfl⟩
    | none =>
      simp only [target?]
      cases (s.links.get? hint.label).or (anchorPath? hint.label) with
      | none => exact ⟨_, rfl⟩
      | some target =>
        exact hload (resolve target) (.click hint :: log) (s.receive (.click hint)).2
  | currentUrl | fill | isVisible | textOf | count | settle => exact ⟨_, rfl⟩

theorem withLog_of_silent {s t : Simulation} (h : s.silent = t.silent) :
    t = s.withLog t.received := by
  cases s
  cases t
  simp only [silent, Simulation.mk.injEq] at h
  simp [withLog, h]

theorem unmovedByQueries : browser.UnmovedByQueries fun s t => s.silent = t.silent where
  equivalence := ⟨fun _ => rfl, Eq.symm, Eq.trans⟩
  answer {s t} hst c := by
    obtain ⟨_, h⟩ := answer_withLog c t.received s
    rw [withLog_of_silent hst]
    exact (congrArg Prod.fst h).symm
  next {s t} hst c := by
    obtain ⟨_, h⟩ := answer_withLog c t.received s
    rw [withLog_of_silent hst]
    exact (congrArg (·.2.silent) h).symm
  query c s hc := by
    cases c with
    | currentUrl | isVisible | textOf | count => rfl
    | load | click | fill | settle => cases hc

end Simulation

def House.visit : Spec where
  name := "Visit"
  steps :=
    [.check [.pageDisplayed "Hall" ∅, .pageDisplayed "Cellar" ∅], .navigate "Attic" ∅,
      .check [.elementVisible "#attic"]]

theorem visit_observed :
    let s : Simulation :=
      { url := "https://portal.test/hall", shown := SortedMap.ofPairs [("/hall", ["#hall"])] }
    Simulation.browser.UnmovedByQueries (fun s t => s.silent = t.silent) ∧
    (Ran.of Simulation.browser {} s (House.visit.run {} House.site.catalog)).Alike
      (fun s t => s.silent = t.silent) (SpecResult.Agree House.visit)
      (Ran.of Simulation.browser {} s (House.visit.acting.run {} House.site.catalog)) :=
  ⟨Simulation.unmovedByQueries, assertions_only_observe {} House.site.catalog Simulation.browser _
    Simulation.unmovedByQueries House.visit {} _⟩

end Wayfinder
