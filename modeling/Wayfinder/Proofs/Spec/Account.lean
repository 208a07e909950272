import Wayfinder.Proofs.Spec.Steps

/-! Runs of a spec. A run is told as the trials of its steps, one after another and none after the
first that fails; its result says of these what there is to say and nothing else. -/
namespace Wayfinder
variable {ρ σ : Type}

structure Trial (ρ σ : Type) where
  index : Nat
  step : SpecStep
  led : Led ρ σ Progress

namespace Trial

def succeeded (t : Trial ρ σ) : Bool := t.led.result.isOk

/-- What was gathered; nothing by a step that failed. -/
def gathered (t : Trial ρ σ) : Progress :=
  match t.led.result with
  | .ok p => p
  | .error _ => {}

def failure? (t : Trial ρ σ) : Option String :=
  match t.led.result with
  | .ok _ => none
  | .error e => some ("Step " ++ toString t.index ++ " failed: " ++ e.message)

section
variable {t : Trial ρ σ} {q : Progress} {e : RouteError}

theorem succeeded_of_ok (h : t.led.result = .ok q) : t.succeeded = true := by
  rw [succeeded, h]
  rfl

theorem gathered_of_ok (h : t.led.result = .ok q) : t.gathered = q := by
  rw [gathered, h]

theorem succeeded_of_error (h : t.led.result = .error e) : t.succeeded = false := by
  rw [succeeded, h]
  rfl

theorem gathered_of_error (h : t.led.result = .error e) : t.gathered = {} := by
  rw [gathered, h]

theorem failure?_of_error (h : t.led.result = .error e) :
    t.failure? = some ("Step " ++ toString t.index ++ " failed: " ++ e.message) := by
  rw [failure?, h]

end

theorem failure?_eq_none_iff {t : Trial ρ σ} : t.failure? = none ↔ t.succeeded = true := by
  unfold failure? succeeded
  cases t.led.result <;> simp [Except.isOk, Except.toBool]

structure Sound (t : Trial ρ σ) : Prop where
  pages : t.gathered.pages = if t.succeeded then t.step.page?.toList else []
  places : t.gathered.verdicts.map Verdict.place = t.step.assertions.map (t.index, ·)
  verdicts : ∀ v ∈ t.gathered.verdicts, v.Sound
  check : t.succeeded = false → ∀ as, t.step ≠ .check as

theorem pages_of_sound {ts : List (Trial ρ σ)} (h : ∀ t ∈ ts, t.Sound) :
    ts.flatMap (·.gathered.pages) = (ts.filter succeeded).filterMap (·.step.page?) := by
  induction ts with
  | nil => rfl
  | cons t ts ih =>
    obtain ⟨ht, hts⟩ := List.forall_mem_cons.1 h
    rw [List.flatMap_cons, ht.pages, ih hts]
    cases hok : t.succeeded with
    | true => cases hpage : t.step.page? <;> simp [hok, hpage]
    | false => simp [hok]

theorem places_of_sound {ts : List (Trial ρ σ)} (h : ∀ t ∈ ts, t.Sound) :
    (ts.flatMap (·.gathered.verdicts)).map Verdict.place =
      (ts.map fun t => (t.step, t.index)).flatMap fun x => x.1.assertions.map (x.2, ·) := by
  rw [List.map_flatMap, List.flatMap_map]
  exact congrArg List.flatten (List.map_congr_left fun t ht => (h t ht).places)

end Trial

variable [PageFamily ρ]

def SpecStep.trial (nav : Navigator) (catalog : Catalog ρ) (b : Browser σ) (i : Nat)
    (m : Memory ρ) (s : σ) (step : SpecStep) : Trial ρ σ where
  index := i
  step := step
  led := Nav.led b m s (step.run nav catalog { stepIndex := i })

namespace Spec

def trials (nav : Navigator) (catalog : Catalog ρ) (b : Browser σ) :
    Nat → List SpecStep → Memory ρ → σ → List (Trial ρ σ)
  | _, [], _, _ => []
  | i, step :: rest, m, s =>
    let t := step.trial nav catalog b i m s
    t :: if t.succeeded then trials nav catalog b (i + 1) rest t.led.memory t.led.state else []

end Spec

variable (nav : Navigator) (catalog : Catalog ρ) (b : Browser σ)

theorem SpecStep.trial_sound [LawfulPageFamily ρ] (hcatalog : catalog.Named) (i : Nat)
    (m : Memory ρ) (s : σ) (step : SpecStep) : (step.trial nav catalog b i m s).Sound := by
  cases h : (step.trial nav catalog b i m s).led.result with
  | ok q =>
    obtain ⟨hpages, hplaces, hsound⟩ := gathered nav catalog b hcatalog h
    constructor
    · rw [Trial.gathered_of_ok h, Trial.succeeded_of_ok h, if_pos rfl, hpages]
      rfl
    · rw [Trial.gathered_of_ok h]
      exact hplaces
    · rw [Trial.gathered_of_ok h]
      exact hsound
    · rw [Trial.succeeded_of_ok h]
      exact nofun
  | error e =>
    have hcheck (as : List Assertion) : step ≠ .check as := by
      rintro rfl
      obtain ⟨vs, hvs, -⟩ := result_check nav catalog b { stepIndex := i } m s as
      cases hvs.symm.trans h
    constructor
    · rw [Trial.gathered_of_error h, Trial.succeeded_of_error h]
      rfl
    · rw [Trial.gathered_of_error h]
      cases step with
      | check as => exact absurd rfl (hcheck as)
      | openPage | navigate | click | fill => rfl
    · rw [Trial.gathered_of_error h]
      simp
    · exact fun _ => hcheck

/-- A step taken with what was gathered before is the trial of it, and what that gathers added. -/
theorem SpecStep.led_run (p : Progress) (m : Memory ρ) (s : σ) (step : SpecStep) :
    Nav.led b m s (step.run nav catalog p) =
      (step.trial nav catalog b p.stepIndex m s).led.map p.extend := by
  rw [step.run_eq_map nav catalog p, Nav.led_map]
  rfl

namespace Spec

section
variable {i : Nat} {m m' : Memory ρ} {s s' : σ} {calls : List Called} {step : SpecStep}
  (rest : List SpecStep)

theorem trials_of_ok {q : Progress}
    (h : (step.trial nav catalog b i m s).led = ⟨.ok q, m', calls, s'⟩) :
    trials nav catalog b i (step :: rest) m s =
      step.trial nav catalog b i m s :: trials nav catalog b (i + 1) rest m' s' := by
  have hok : (step.trial nav catalog b i m s).succeeded = true := Trial.succeeded_of_ok (by rw [h])
  simp [trials, hok, h]

theorem trials_of_error {e : RouteError}
    (h : (step.trial nav catalog b i m s).led = ⟨.error e, m', calls, s'⟩) :
    trials nav catalog b i (step :: rest) m s = [step.trial nav catalog b i m s] := by
  have hfailed : (step.trial nav catalog b i m s).succeeded = false :=
    Trial.succeeded_of_error (by rw [h])
  simp [trials, hfailed]

end

theorem runSteps_cons (i : Nat) (p : Progress) (m : Memory ρ) (step : SpecStep)
    (rest : List SpecStep) :
    let p' : Progress := { p with stepIndex := i }
    (runSteps nav catalog i p (step :: rest)).run m =
      ((step.run nav catalog p').run.run m).bind fun x =>
        match x.1 with
        | .ok p => (runSteps nav catalog (i + 1) p rest).run x.2
        | .error e =>
          .done ((p', i + 1, some ("Step " ++ toString i ++ " failed: " ++ e.message)), x.2) := by
  intro p'
  change ((step.run nav catalog p').run.run m).bind _ = _
  congr 1
  funext x
  obtain ⟨r, m'⟩ := x
  cases r <;> rfl

/-- Running steps with what was gathered before comes to trying them one after another. -/
theorem run_runSteps (steps : List SpecStep) (i : Nat) (p : Progress) (m : Memory ρ) (s : σ) :
    let ts := trials nav catalog b i steps m s
    let d := (runSteps nav catalog i p steps).run m
    Script.history b.answer d s = ts.flatMap (·.led.calls) ∧
    ∃ p' m' s', Dialogue.run b d s = (((p', i + ts.length, ts.findSome? Trial.failure?), m'), s') ∧
      p'.pages = p.pages ++ ts.flatMap (·.gathered.pages) ∧
      p'.verdicts = p.verdicts ++ ts.flatMap (·.gathered.verdicts) := by
  induction steps generalizing i p m s with
  | nil => exact ⟨rfl, p, m, s, rfl, by simp [trials], by simp [trials]⟩
  | cons step rest ih =>
    let p' : Progress := { p with stepIndex := i }
    have hled := step.led_run nav catalog b p' m s
    have hrun : Script.run b.answer ((step.run nav catalog p').run.run m) s =
        (((Nav.led b m s (step.run nav catalog p')).result,
          (Nav.led b m s (step.run nav catalog p')).memory),
          (Nav.led b m s (step.run nav catalog p')).state) := rfl
    have hcalls : Script.history b.answer ((step.run nav catalog p').run.run m) s =
        (Nav.led b m s (step.run nav catalog p')).calls := rfl
    simp only [Dialogue.run, runSteps_cons, Script.run_bind, Script.history_bind]
    rw [hrun, hcalls, hled]
    cases h : (step.trial nav catalog b i m s).led with
    | mk r m₁ calls s₁ =>
      have hresult : (step.trial nav catalog b i m s).led.result = r := by rw [h]
      cases r with
      | ok q =>
        obtain ⟨hhistory, p₂, m₂, s₂, hrest, hpages, hverdicts⟩ := ih (i + 1) (p'.extend q) m₁ s₁
        rw [trials_of_ok nav catalog b rest h]
        refine ⟨?_, p₂, m₂, s₂, ?_, ?_, ?_⟩
        · rw [List.flatMap_cons, ← hhistory, h]
          rfl
        · refine hrest.trans ?_
          have hnone := Trial.failure?_eq_none_iff.2 (Trial.succeeded_of_ok hresult)
          rw [List.findSome?_cons, hnone, List.length_cons, Nat.add_right_comm, Nat.add_assoc]
        · rw [hpages, List.flatMap_cons, Trial.gathered_of_ok hresult, ← List.append_assoc]
          rfl
        · rw [hverdicts, List.flatMap_cons, Trial.gathered_of_ok hresult, ← List.append_assoc]
          rfl
      | error e =>
        rw [trials_of_error nav catalog b rest h]
        refine ⟨?_, p', m₁, s₁, ?_, ?_, ?_⟩
        · simp [h, Led.map, Except.map, Script.history]
        · have hfailure : (step.trial nav catalog b i m s).failure? =
              some ("Step " ++ toString i ++ " failed: " ++ e.message) :=
            Trial.failure?_of_error hresult
          simp [Led.map, Except.map, Script.run, hfailure, p']
        · simp [Trial.gathered_of_error hresult, p']
        · simp [Trial.gathered_of_error hresult, p']

theorem trials_places (steps : List SpecStep) (i : Nat) (m : Memory ρ) (s : σ) :
    let ts := trials nav catalog b i steps m s
    ts.map (fun t => (t.step, t.index)) = (steps.take ts.length).zipIdx i := by
  induction steps generalizing i m s with
  | nil => rfl
  | cons step rest ih =>
    cases h : (step.trial nav catalog b i m s).led with
    | mk r m₁ calls s₁ =>
      cases r with
      | ok q =>
        simp only [trials_of_ok nav catalog b rest h, List.map_cons, List.length_cons,
          List.take_succ_cons, List.zipIdx_cons, ih]
        rfl
      | error e =>
        rw [trials_of_error nav catalog b rest h]
        rfl

theorem sound_of_mem_trials [LawfulPageFamily ρ] (hcatalog : catalog.Named)
    {steps : List SpecStep} {i : Nat} {m : Memory ρ} {s : σ} :
    ∀ t ∈ trials nav catalog b i steps m s, t.Sound := by
  induction steps generalizing i m s with
  | nil => simp [trials]
  | cons step rest ih =>
    have hstep := step.trial_sound nav catalog b hcatalog i m s
    rw [trials]
    refine List.forall_mem_cons.2 ⟨hstep, ?_⟩
    split
    · exact ih
    · simp

/-- Either all steps go well or the trials end with the first that does not. -/
theorem trials_cases (steps : List SpecStep) (i : Nat) (m : Memory ρ) (s : σ) :
    let ts := trials nav catalog b i steps m s
    (ts.length = steps.length ∧ ∀ t ∈ ts, t.succeeded = true) ∨
      ∃ done t e, ts = done ++ [t] ∧ (∀ x ∈ done, x.succeeded = true) ∧
        t.led.result = .error e ∧ t.index = i + done.length := by
  induction steps generalizing i m s with
  | nil => exact .inl ⟨rfl, by simp [trials]⟩
  | cons step rest ih =>
    cases h : (step.trial nav catalog b i m s).led with
    | mk r m₁ calls s₁ =>
      cases r with
      | ok q =>
        have hstep : (step.trial nav catalog b i m s).succeeded = true :=
          Trial.succeeded_of_ok (by rw [h])
        rw [trials_of_ok nav catalog b rest h]
        obtain ⟨hlength, hall⟩ | ⟨done, t, e, hts, hdone, ht, hindex⟩ := ih (i + 1) m₁ s₁
        · exact .inl ⟨congrArg (· + 1) hlength, List.forall_mem_cons.2 ⟨hstep, hall⟩⟩
        · refine .inr ⟨_ :: done, t, e, ?_, List.forall_mem_cons.2 ⟨hstep, hdone⟩, ht, ?_⟩
          · rw [hts]
            rfl
          · rw [hindex, List.length_cons]
            omega
      | error e =>
        rw [trials_of_error nav catalog b rest h]
        exact .inr ⟨[], _, e, rfl, by simp, by rw [h], rfl⟩

def start (spec : Spec) (b : Browser σ) (s : σ) : Except Fault Unit × σ :=
  match spec.startUrl with
  | some url => b.answer (.load url) s
  | none => (.ok (), s)

def startCalls (spec : Spec) (b : Browser σ) (s : σ) : List Called :=
  match spec.startUrl with
  | some url => [⟨.load url, (b.answer (.load url) s).1⟩]
  | none => []

theorem run_loadStart (spec : Spec) (s : σ) :
    Dialogue.run b spec.loadStart.run s = spec.start b s ∧
      Script.history b.answer spec.loadStart.run s = spec.startCalls b s := by
  unfold loadStart start startCalls
  cases spec.startUrl <;> exact ⟨rfl, rfl⟩

/-- A run is the loading of the start URL, and if that goes well the steps. -/
theorem run_eq (spec : Spec) (m : Memory ρ) :
    (spec.run nav catalog).run m = Script.bind spec.loadStart.run fun
      | .error e =>
        .done (spec.finish {} 0 (some ("Failed to load start_url: " ++ e.message)), m)
      | .ok () => Script.bind ((runSteps nav catalog 0 {} spec.steps).run m) fun x =>
        .done (spec.finish x.1.1 x.1.2.1 x.1.2.2, x.2) := by
  change Script.bind (Script.bind spec.loadStart.run fun r => .done (r, m)) _ = _
  rw [Script.bind_assoc]
  congr 1
  funext r
  cases r <;> rfl

end Spec

/-- What a result says of the trials of a spec. -/
structure SpecResult.Accounts (r : SpecResult) (spec : Spec) (ts : List (Trial ρ σ)) : Prop where
  stepsRun : r.stepsRun = ts.length
  taken : ts.map (fun t => (t.step, t.index)) = (spec.steps.take r.stepsRun).zipIdx
  clean : r.error = none ↔ r.stepsRun = spec.steps.length ∧ ∀ t ∈ ts, t.succeeded = true
  failed : ∀ text, r.error = some text → ∃ done t e, ts = done ++ [t] ∧
    (∀ x ∈ done, x.succeeded = true) ∧ t.led.result = .error e ∧ (∀ as, t.step ≠ .check as) ∧
    r.stepsRun = t.index + 1 ∧ text = "Step " ++ toString t.index ++ " failed: " ++ e.message
  pages : r.pages = (ts.filter Trial.succeeded).filterMap (·.step.page?)
  places : r.verdicts.map Verdict.place =
    (spec.steps.take r.stepsRun).zipIdx.flatMap fun x => x.1.assertions.map (x.2, ·)
  verdicts : ∀ v ∈ r.verdicts, v.Sound

namespace Spec
variable {spec : Spec} {p : Progress} {m : Memory ρ} {s : σ}

/-- The result of a run whose steps have been gathered from their trials. -/
theorem finish_accounts [LawfulPageFamily ρ] (hcatalog : catalog.Named) {ts : List (Trial ρ σ)}
    (hts : trials nav catalog b 0 spec.steps m s = ts)
    (hpages : p.pages = ts.flatMap (·.gathered.pages))
    (hverdicts : p.verdicts = ts.flatMap (·.gathered.verdicts)) :
    (spec.finish p ts.length (ts.findSome? Trial.failure?)).Accounts spec ts := by
  have htaken := trials_places nav catalog b spec.steps 0 m s
  have hcases := trials_cases nav catalog b spec.steps 0 m s
  have hsound : ∀ t ∈ ts, t.Sound := hts ▸ sound_of_mem_trials nav catalog b hcatalog
  simp only [hts] at htaken hcases
  have herror : ts.findSome? Trial.failure? = none ↔ ∀ t ∈ ts, t.succeeded = true := by
    simp only [List.findSome?_eq_none_iff, Trial.failure?_eq_none_iff]
  constructor
  · rfl
  · exact htaken
  · refine herror.trans ⟨fun hall => ⟨?_, hall⟩, And.right⟩
    obtain ⟨hlength, -⟩ | ⟨done, t, e, hlast, -, ht, -⟩ := hcases
    · exact hlength
    · cases (hall t (by simp [hlast])).symm.trans (Trial.succeeded_of_error ht)
  · intro text htext
    change ts.findSome? Trial.failure? = some text at htext
    obtain ⟨-, hall⟩ | ⟨done, t, e, hlast, hdone, ht, hindex⟩ := hcases
    · rw [herror.2 hall] at htext
      cases htext
    · have hcheck := (hsound t (by simp [hlast])).check (Trial.succeeded_of_error ht)
      refine ⟨done, t, e, hlast, hdone, ht, hcheck, ?_, ?_⟩
      · change ts.length = t.index + 1
        simp [hlast, hindex]
      · have hnone : done.findSome? Trial.failure? = none :=
          List.findSome?_eq_none_iff.2 fun x hx => Trial.failure?_eq_none_iff.2 (hdone x hx)
        rw [hlast, List.findSome?_append, hnone, Option.none_or, List.findSome?_singleton,
          Trial.failure?_of_error ht] at htext
        exact (Option.some.inj htext).symm
  · exact hpages.trans (Trial.pages_of_sound hsound)
  · change p.verdicts.map Verdict.place = _
    rw [hverdicts, Trial.places_of_sound hsound, htaken]
    rfl
  · change ∀ v ∈ p.verdicts, v.Sound
    rw [hverdicts]
    intro v hv
    obtain ⟨t, ht, hv⟩ := List.mem_flatMap.1 hv
    exact (hsound t ht).verdicts v hv

theorem passed_finish (spec : Spec) (p : Progress) (n : Nat) (error : Option String) :
    (spec.finish p n error).passed = true ↔ error = none ∧ ∀ v ∈ p.verdicts, v.passed = true := by
  simp [finish, Progress.allPassed]

theorem run_of_start_error {e : Fault} {s₀ : σ} (h : spec.start b s = (.error e, s₀)) :
    Dialogue.run b ((spec.run nav catalog).run m) s =
      ((spec.finish {} 0 (some ("Failed to load start_url: " ++ e.message)), m), s₀) ∧
    Script.history b.answer ((spec.run nav catalog).run m) s = spec.startCalls b s := by
  obtain ⟨hrun, hcalls⟩ := run_loadStart b spec s
  rw [h, Dialogue.run] at hrun
  rw [run_eq, Dialogue.run, Script.run_bind, Script.history_bind, hrun, hcalls]
  exact ⟨rfl, List.append_nil _⟩

theorem run_of_start_ok {s₀ : σ} (h : spec.start b s = (.ok (), s₀)) :
    let ts := trials nav catalog b 0 spec.steps m s₀
    Script.history b.answer ((spec.run nav catalog).run m) s =
      spec.startCalls b s ++ ts.flatMap (·.led.calls) ∧
    ∃ p, (Dialogue.run b ((spec.run nav catalog).run m) s).1.1 =
        spec.finish p ts.length (ts.findSome? Trial.failure?) ∧
      p.pages = ts.flatMap (·.gathered.pages) ∧
      p.verdicts = ts.flatMap (·.gathered.verdicts) := by
  obtain ⟨hrun, hcalls⟩ := run_loadStart b spec s
  obtain ⟨hsteps, p, m', s', hran, hpages, hverdicts⟩ :=
    run_runSteps nav catalog b spec.steps 0 {} m s₀
  rw [h, Dialogue.run] at hrun
  rw [Dialogue.run] at hran
  rw [run_eq, Dialogue.run, Script.run_bind, Script.history_bind, hrun, hcalls]
  simp only [Script.run_bind, Script.history_bind, hran, hsteps]
  refine ⟨by simp [Script.history], p, ?_, hpages, hverdicts⟩
  simp [Script.run]

end Spec

/-- A run of a spec against a site map gives an exact account of itself. When the start URL cannot
be loaded nothing else is done. Otherwise the steps are tried up to the first that fails, no call
is made but theirs, and the result says of the trials what there is to say: how many there were,
why the last failed if it did, which pages were reached and what became of every assertion. -/
theorem run_accounts_for_itself (nav : Navigator) (site : SiteMap) (b : Browser σ) (spec : Spec)
    (m : Memory SitePage) (s : σ) :
    let run := (spec.run nav site.catalog).run m
    let result := (Dialogue.run b run s).1.1
    let calls := Script.history b.answer run s
    (result.specName = spec.name ∧
      (result.passed = true ↔ result.error = none ∧ ∀ v ∈ result.verdicts, v.passed = true)) ∧
    match spec.start b s with
    | (.error e, _) =>
      (result.stepsRun = 0 ∧ result.pages = [] ∧ result.verdicts = [] ∧
        result.error = some ("Failed to load start_url: " ++ e.message)) ∧
      calls = spec.startCalls b s
    | (.ok (), s₀) =>
      let ts := Spec.trials nav site.catalog b 0 spec.steps m s₀
      result.Accounts spec ts ∧ calls = spec.startCalls b s ++ ts.flatMap (·.led.calls) := by
  intro run result calls
  cases hload : spec.start b s with
  | mk r s₀ =>
    cases r with
    | error e =>
      obtain ⟨hrun, hcalls⟩ := Spec.run_of_start_error nav site.catalog b hload
      rw [show result = _ from congrArg (·.1.1) hrun]
      exact ⟨⟨rfl, Spec.passed_finish spec _ _ _⟩, ⟨rfl, rfl, rfl, rfl⟩, hcalls⟩
    | ok _ =>
      obtain ⟨hcalls, p, hresult, hpages, hverdicts⟩ :=
        Spec.run_of_start_ok nav site.catalog b hload
      rw [show result = _ from hresult]
      exact ⟨⟨rfl, Spec.passed_finish spec _ _ _⟩,
        Spec.finish_accounts nav site.catalog b site.catalog_named rfl hpages hverdicts, hcalls⟩

end Wayfinder
