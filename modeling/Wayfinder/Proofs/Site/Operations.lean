import Mathlib.Data.List.Forall2
import Mathlib.Tactic.Choose
import Wayfinder.Proofs.Page.Binding
import Wayfinder.Proofs.Site.Filling
import Wayfinder.Proofs.Site.Undeclared

/-! What the declared steps of a page do to the browser. The actions of a step are filled one at a
time, while those before them have already been carried out. When their templates name nothing but
parameters of the step, binding has seen to it that each can be filled, and only the browser can
still put a stop to the step. -/
namespace Wayfinder
variable {σ : Type} {args bound : Args} {hint : Hint} {a : Action} {as : List Action}
  {st : StepDef} {t : String}

inductive Operation where
  | click (hint : Hint)
  | fill (hint : Hint) (value : String)
  | setPath (path : String)
deriving DecidableEq, Repr

def Operation.attempt : Operation → Attempt Fault Unit
  | .click hint => ask (.click hint)
  | .fill hint value => ask (.fill hint value)
  | .setPath path => loadPath path

inductive Action.Renders (args : Args) : Action → Operation → Prop where
  | click {hint filled : Hint} (h : hint.Renders args filled) :
    Renders args (.click hint) (.click filled)
  | fill {hint filled : Hint} {value text : String} (h : hint.Renders args filled)
    (hvalue : Template.render value args = .ok text) :
    Renders args (.fill hint value) (.fill filled text)
  | goto {path text : String} (hpath : Template.render path args = .ok text) :
    Renders args (.goto path) (.setPath text)

/-- Operations are carried out one after another, up to the first that fails. What is said is what
each of these says in turn. -/
inductive Performed (b : Browser σ) :
    List Operation → σ → List (Exchange Call fun c => Except Fault c.Reply) → Except Fault Unit →
      σ → Prop where
  | done (s : σ) : Performed b [] s [] (.ok ()) s
  | next {op ops s s' said outcome finish}
    (hop : Dialogue.run b op.attempt.run s = (.ok (), s'))
    (hrest : Performed b ops s' said outcome finish) :
    Performed b (op :: ops) s (Script.history b.answer op.attempt.run s ++ said) outcome finish
  | stop {op s e s'} (ops : List Operation)
    (hop : Dialogue.run b op.attempt.run s = (.error e, s')) :
    Performed b (op :: ops) s (Script.history b.answer op.attempt.run s) (.error e) s'

namespace Action

theorem Renders.run_eq {op : Operation} (h : a.Renders args op) :
    a.run args = op.attempt.adapt .browser := by
  cases h with
  | click h => rw [run, h.fillHint_eq, pure_bind]; rfl
  | fill h hvalue =>
    rw [run, h.fillHint_eq, pure_bind, fillTemplate_of_render hvalue, pure_bind]
    rfl
  | goto hpath =>
    rw [run, fillTemplate_of_render hpath, pure_bind]
    rfl

theorem runAll_performed {ops : List Operation} (h : List.Forall₂ (Renders args) as ops)
    (b : Browser σ) (s : σ) :
    ∃ outcome finish,
      Performed b ops s (Script.history b.answer (runAll args as).run s) outcome finish ∧
      Dialogue.run b (runAll args as).run s = (outcome.mapError .browser, finish) := by
  induction h generalizing s with
  | nil => exact ⟨.ok (), s, .done s, rfl⟩
  | @cons a op as ops ha has ih =>
    rw [runAll, ha.run_eq, Dialogue.history_andThen, Dialogue.run_bind, Dialogue.history_adapt,
      Dialogue.run_adapt]
    cases hop : Dialogue.run b op.attempt.run s with
    | mk outcome s' =>
      cases outcome with
      | ok u =>
        obtain ⟨outcome, finish, hperformed, hrun⟩ := ih s'
        exact ⟨outcome, finish, .next hop hperformed, hrun⟩
      | error e =>
        refine ⟨.error e, s', ?_, rfl⟩
        simpa [Except.mapError] using Performed.stop ops hop

end Action

def StepDef.Scopes (st : StepDef) (t : String) : Prop :=
  ∃ ns, Template.placeholders t = .ok ns ∧ ∀ n ∈ ns, st.Declares n

theorem StepDef.contains_of_bind {owner : String} (hbind : (st.step owner).bind args = .ok bound)
    {n : String} (hn : st.Declares n) : bound.contains n = true := by
  obtain ⟨d, hd, rfl⟩ := hn
  refine (contains_of_bindFrom hbind d.name).2 (.inl ⟨d.param, List.mem_map_of_mem hd, ?_⟩)
  cases d <;> rfl

theorem StepDef.Scopes.exists_render {owner : String}
    (hbind : (st.step owner).bind args = .ok bound) (h : st.Scopes t) :
    ∃ text, Template.render t bound = .ok text := by
  obtain ⟨ns, hplaceholders, hns⟩ := h
  obtain ⟨ps, hps, rfl⟩ := Template.spelt_of_placeholders hplaceholders
  exact hps.render_isOk_iff.2 fun n hn => StepDef.contains_of_bind hbind (hns n hn)

theorem Hint.exists_renders
    (h : ∀ t ∈ hint.templates, ∃ text, Template.render t bound = .ok text) :
    ∃ filled, hint.Renders bound filled := by
  choose! f hf using h
  exact ⟨hint.mapText f, renders_mapText hf⟩

theorem Action.exists_renders
    (h : ∀ t ∈ a.templates, ∃ text, Template.render t bound = .ok text) :
    ∃ op, a.Renders bound op := by
  cases a with
  | click hint =>
    obtain ⟨filled, hfilled⟩ := Hint.exists_renders h
    exact ⟨.click filled, .click hfilled⟩
  | fill hint value =>
    obtain ⟨hhint, hvalue⟩ := List.forall_mem_append.1 h
    obtain ⟨filled, hfilled⟩ := Hint.exists_renders hhint
    obtain ⟨text, htext⟩ := hvalue value List.mem_cons_self
    exact ⟨.fill filled text, .fill hfilled htext⟩
  | goto path =>
    obtain ⟨text, htext⟩ := h path List.mem_cons_self
    exact ⟨.setPath text, .goto htext⟩

theorem exists_operations
    (h : ∀ t ∈ as.flatMap Action.templates, ∃ text, Template.render t bound = .ok text) :
    ∃ ops, List.Forall₂ (Action.Renders bound) as ops := by
  induction as with
  | nil => exact ⟨[], .nil⟩
  | cons a as ih =>
    rw [List.flatMap_cons] at h
    obtain ⟨ha, has⟩ := List.forall_mem_append.1 h
    obtain ⟨op, hop⟩ := Action.exists_renders ha
    obtain ⟨ops, hops⟩ := ih has
    exact ⟨op :: ops, .cons hop hops⟩

/-- A declared step whose templates name only its parameters, once these are bound, carries out its
actions in order with every operand rendered, until the browser fails. That failure, if there is
one, is the cause that the step reports. -/
theorem scoped_step_fails_only_in_browser (c : SitePage) (shown args bound : Args)
    (p : Page SitePage) (st : StepDef) (b : Browser σ) (s : σ)
    (hbuild : PageFamily.build c shown = .ok p) (hst : st ∈ c.decl.steps)
    (hscoped : ∀ t ∈ st.templates, st.Scopes t)
    (hbind : (st.step c.decl.name).bind args = .ok bound) :
    let step := st.step c.decl.name
    step ∈ p.steps.list ∧
    ∃ ops outcome finish, List.Forall₂ (Action.Renders bound) st.actions ops ∧
      Performed b ops s (Script.history b.answer (step.invokeWithArgs args).run s) outcome finish ∧
      Dialogue.run b (step.invokeWithArgs args).run s =
        (outcome.mapError fun e => .stepFailed c.decl.name st.stepName (.browser e), finish) := by
  intro step
  obtain ⟨path, -, rfl⟩ := SitePage.eq_page_of_build hbuild
  obtain ⟨ops, hops⟩ := exists_operations fun t ht => (hscoped t ht).exists_render hbind
  obtain ⟨outcome, finish, hperformed, hrun⟩ := Action.runAll_performed hops b s
  have hinvoke : step.invokeWithArgs args =
      (Action.runAll bound st.actions).adapt step.failed := by
    rw [Step.invokeWithArgs, Step.runWithArgs, hbind]
    rfl
  refine ⟨SitePage.mem_steps_page.2 (.inr ⟨st, hst, rfl⟩), ops, outcome, finish, hops, ?_, ?_⟩
  · rw [hinvoke, Dialogue.history_adapt]
    exact hperformed
  · rw [hinvoke, Dialogue.run_adapt, hrun]
    cases outcome <;> rfl

namespace Yard

def unlock : StepDef :=
  { dest := "Garden", params := [.required "key"]
    actions := [.fill (.ofCss "#lock") "\x7bkey\x7d", .click (.ofCss "#garden")] }

theorem unlock_scoped : ∀ t ∈ unlock.templates, unlock.Scopes t := by
  have hplain (t : String) (h : Template.placeholders t = .ok []) : unlock.Scopes t :=
    ⟨[], h, List.forall_mem_nil _⟩
  have hkey : unlock.Scopes "\x7bkey\x7d" :=
    ⟨["key"], rfl, List.forall_mem_singleton.2 ⟨.required "key", List.mem_singleton_self _, rfl⟩⟩
  refine List.forall_mem_cons.2 ⟨hplain "#lock" rfl, List.forall_mem_cons.2 ⟨hkey, ?_⟩⟩
  exact List.forall_mem_singleton.2 (hplain "#garden" rfl)

theorem build_gate : PageFamily.build (⟨site, gate⟩ : SitePage) west =
    .ok (SitePage.page ⟨site, gate⟩ west "/gate/west") := rfl

theorem bind_unlock : (unlock.step "Gate").bind key = .ok key := rfl

end Yard

theorem gate_is_unlocked :
    let step := Yard.unlock.step "Gate"
    PageFamily.build (⟨Yard.site, Yard.gate⟩ : SitePage) Yard.west =
      .ok (SitePage.page ⟨Yard.site, Yard.gate⟩ Yard.west "/gate/west") ∧
    Yard.unlock ∈ Yard.gate.steps ∧ (∀ t ∈ Yard.unlock.templates, Yard.unlock.Scopes t) ∧
    step.bind Yard.key = .ok Yard.key ∧
    ∃ ops outcome finish,
      List.Forall₂ (Action.Renders Yard.key) Yard.unlock.actions ops ∧
      Performed House.lamp ops ""
        (Script.history House.lamp.answer (step.invokeWithArgs Yard.key).run "") outcome finish ∧
      Dialogue.run House.lamp (step.invokeWithArgs Yard.key).run "" =
        (outcome.mapError fun e => .stepFailed "Gate" Yard.unlock.stepName (.browser e), finish) := by
  have hmem : Yard.unlock ∈ Yard.gate.steps := List.mem_singleton_self _
  exact ⟨Yard.build_gate, hmem, Yard.unlock_scoped, Yard.bind_unlock,
    (scoped_step_fails_only_in_browser ⟨Yard.site, Yard.gate⟩ Yard.west Yard.key Yard.key _
      Yard.unlock House.lamp "" Yard.build_gate hmem Yard.unlock_scoped Yard.bind_unlock).2⟩

end Wayfinder
