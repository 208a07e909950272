import Wayfinder.Proofs.Spec.Account

/-! What running a spec comes to, step by step and as a whole: besides the result the memory, the
calls and the state of the browser, which later specs find. -/
namespace Wayfinder
variable {ρ σ α : Type}

structure Ran (ρ σ α : Type) where
  outcome : α
  memory : Memory ρ
  calls : List Called
  state : σ

def Ran.of (b : Browser σ) (m : Memory ρ) (s : σ) (t : StateT (Memory ρ) Dialogue α) :
    Ran ρ σ α where
  outcome := (Dialogue.run b (t.run m) s).1.1
  memory := (Dialogue.run b (t.run m) s).1.2
  calls := Script.history b.answer (t.run m) s
  state := (Dialogue.run b (t.run m) s).2

variable [PageFamily ρ] (nav : Navigator) (catalog : Catalog ρ) (b : Browser σ)

namespace Spec

def stepFailure (i : Nat) (e : RouteError) : String :=
  "Step " ++ toString i ++ " failed: " ++ e.message

section
variable {i : Nat} {p : Progress} {m m' : Memory ρ} {s s' : σ} {calls : List Called}
  {step : SpecStep} (rest : List SpecStep)

theorem ran_of_ok {q : Progress}
    (h : Nav.led b m s (step.run nav catalog { p with stepIndex := i }) = ⟨.ok q, m', calls, s'⟩) :
    Ran.of b m s (runSteps nav catalog i p (step :: rest)) =
      { Ran.of b m' s' (runSteps nav catalog (i + 1) q rest) with
        calls := calls ++ (Ran.of b m' s' (runSteps nav catalog (i + 1) q rest)).calls } := by
  obtain ⟨hresult, hmemory, hcalls, hstate⟩ := Led.mk.inj h
  have hrun : Script.run b.answer
      ((step.run nav catalog { p with stepIndex := i }).run.run m) s = ((.ok q, m'), s') :=
    Prod.ext (Prod.ext hresult hmemory) hstate
  simp only [Ran.of, runSteps_cons, Dialogue.run, Script.run_bind, Script.history_bind, hrun,
    hcalls]

theorem ran_of_error {e : RouteError}
    (h : Nav.led b m s (step.run nav catalog { p with stepIndex := i }) =
      ⟨.error e, m', calls, s'⟩) :
    Ran.of b m s (runSteps nav catalog i p (step :: rest)) =
      ⟨({ p with stepIndex := i }, i + 1, some (stepFailure i e)), m', calls, s'⟩ := by
  obtain ⟨hresult, hmemory, hcalls, hstate⟩ := Led.mk.inj h
  have hrun : Script.run b.answer
      ((step.run nav catalog { p with stepIndex := i }).run.run m) s = ((.error e, m'), s') :=
    Prod.ext (Prod.ext hresult hmemory) hstate
  simp only [Ran.of, runSteps_cons, Dialogue.run, Script.run_bind, Script.history_bind, hrun,
    hcalls, Script.run, Script.history, List.append_nil, stepFailure]

theorem ran_of_start_error {spec : Spec} {e : Fault} (h : spec.start b s = (.error e, s')) :
    Ran.of b m s (spec.run nav catalog) =
      ⟨spec.finish {} 0 (some ("Failed to load start_url: " ++ e.message)), m,
        spec.startCalls b s, s'⟩ := by
  obtain ⟨hrun, hcalls⟩ := run_of_start_error nav catalog b (m := m) h
  simp only [Ran.of, hrun, hcalls]

theorem ran_of_start_ok {spec : Spec} (h : spec.start b s = (.ok (), s')) :
    let o := Ran.of b m s' (runSteps nav catalog 0 {} spec.steps)
    Ran.of b m s (spec.run nav catalog) =
      ⟨spec.finish o.outcome.1 o.outcome.2.1 o.outcome.2.2, o.memory,
        spec.startCalls b s ++ o.calls, o.state⟩ := by
  obtain ⟨hrun, hcalls⟩ := run_loadStart b spec s
  rw [h, Dialogue.run] at hrun
  simp only [Ran.of, run_eq, Dialogue.run, Script.run_bind, Script.history_bind, hrun, hcalls,
    Script.run, Script.history, List.append_nil]

end

end Spec
end Wayfinder
