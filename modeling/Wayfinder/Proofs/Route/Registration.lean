import Wayfinder.Proofs.Page.Binding
import Wayfinder.Proofs.Site.Offered

/-! Tables of steps as they are put together: a link with its handler, or a step to a page whose
parameters are declared one after another before its handler is given. Where a step leads and what
its handler takes are told in two places. In a table that is put together so the two agree, and no
rule hands a step what it does not take. -/
namespace Wayfinder
variable {ρ σ : Type}

inductive Registration (ρ : Type) where
  | href (name : String) (run : String → Attempt StepFault Unit)
  | toPage (name : String) (dest : ρ) (params : List ParamDef)
    (run : Args → Attempt StepFault Unit)
  | toNamed (name page : String) (params : List ParamDef) (run : Args → Attempt StepFault Unit)

namespace Registration

def enter (t : Steps ρ) : Registration ρ → Steps ρ
  | href name run => t.href name run
  | toPage name dest params run => t.add (params.foldl ParamDef.declare (.toPage name dest)) run
  | toNamed name page params run => t.add (params.foldl ParamDef.declare (.toNamed name page)) run

def table (owner : String) (regs : List (Registration ρ)) : Steps ρ :=
  regs.foldl enter (.empty owner)

def step (owner : String) : Registration ρ → Step ρ
  | href name run => ⟨owner, name, .href, [], .withPath run⟩
  | toPage name dest params run =>
    ⟨owner, name, .page dest, params.map ParamDef.param, .withArgs run⟩
  | toNamed name page params run =>
    ⟨owner, name, .named page, params.map ParamDef.param, .withArgs run⟩

theorem enter_eq (t : Steps ρ) (reg : Registration ρ) :
    enter t reg = { t with list := t.list ++ [reg.step t.owner] } := by
  cases reg with
  | href name run => rfl
  | toPage name dest params run =>
    rw [enter, ParamDef.foldl_declare]
    rfl
  | toNamed name page params run =>
    rw [enter, ParamDef.foldl_declare]
    rfl

theorem foldl_enter (regs : List (Registration ρ)) (t : Steps ρ) :
    regs.foldl enter t = { t with list := t.list ++ regs.map (·.step t.owner) } := by
  induction regs generalizing t with
  | nil => simp
  | cons reg regs ih =>
    rw [List.foldl_cons, ih, enter_eq]
    simp

theorem table_eq (owner : String) (regs : List (Registration ρ)) :
    table owner regs = ⟨owner, regs.map (·.step owner)⟩ := foldl_enter regs (.empty owner)

theorem enter_registered {t : Steps ρ} (h : t.Registered) (reg : Registration ρ) :
    (enter t reg).Registered := by
  cases reg with
  | href name run => exact .href h name run
  | toPage name dest params run =>
    refine .add h _ ?_ run
    rw [ParamDef.foldl_declare]
    nofun
  | toNamed name page params run =>
    refine .add h _ ?_ run
    rw [ParamDef.foldl_declare]
    nofun

theorem table_registered (owner : String) (regs : List (Registration ρ)) :
    (table owner regs).Registered :=
  List.foldlRecOn regs enter (.empty owner) fun _ h reg _ => enter_registered h reg

theorem agrees_step (owner : String) (reg : Registration ρ) : (reg.step owner).Agrees := by
  cases reg <;> exact trivial

end Registration

/-- A step leads along links exactly when its handler takes a path. -/
theorem Step.Agrees.href_iff {st : Step ρ} (h : st.Agrees) :
    st.destination = .href ↔ ∃ run, st.action = .withPath run := by
  obtain ⟨owner, name, leads, params, action⟩ := st
  cases leads <;> cases action <;> simp_all [Step.Agrees]

namespace Registration

/-- The handler itself ends with this fault, on what a dispatch to `dest` hands it: the path of the
page, or those of the arguments that are declared. -/
def EndsWith (reg : Registration ρ) (dest : Page ρ) (args : Args) (b : Browser σ) (s : σ)
    (fault : StepFault) : Prop :=
  match reg with
  | href _ run => (Dialogue.run b (run dest.path).run s).1 = .error fault
  | toPage _ _ params run | toNamed _ _ params run =>
    ∃ given, bindParams (params.map ParamDef.param) args = .ok given ∧
      (Dialogue.run b (run given).run s).1 = .error fault

variable {owner : String} {reg : Registration ρ} {regs : List (Registration ρ)} {dest : Page ρ}
  {args : Args} {b : Browser σ} {s : σ} {fault : StepFault}

/-- An invocation ends as the handler does, or for want of an argument before the handler runs. -/
theorem endsWith_of_handles {r : Rule} {a : Attempt StepFault Unit}
    (h : (reg.step owner).Handles r dest args a)
    (hfault : (Dialogue.run b a.run s).1 = .error fault) :
    reg.EndsWith dest args b s fault ∨ ∃ name, fault = .binding (.missingArgument name) := by
  cases h with
  | path hr haction =>
    cases reg with
    | href name run =>
      cases haction
      exact .inl hfault
    | toPage | toNamed => cases haction
  | bound hr haction hbind =>
    cases reg with
    | href => cases haction
    | toPage name leads params run | toNamed name leads params run =>
      cases haction
      exact .inl ⟨_, hbind, hfault⟩
  | unbound hr haction hbind =>
    obtain ⟨before, p, after, -, -, -, rfl⟩ := exists_unserved hbind
    cases hfault
    exact .inr ⟨p.name, rfl⟩

theorem endsWith_of_dispatch [PageFamily ρ] {rules : List Rule} {page name : String}
    (h : (Dialogue.run b ((table owner regs).dispatch rules dest args).run s).1 =
      .error (.stepFailed page name fault)) :
    (∃ r, ∃ reg ∈ regs, (table owner regs).choose? rules dest = some (r, reg.step owner) ∧
      (reg.step owner).name = name ∧ reg.EndsWith dest args b s fault) ∨
      ∃ name, fault = .binding (.missingArgument name) := by
  cases hchoose : (table owner regs).choose? rules dest with
  | none =>
    rw [Steps.dispatch, hchoose] at h
    cases h
  | some x =>
    obtain ⟨r, st⟩ := x
    have hst : st ∈ (table owner regs).list := Steps.mem_of_choose? hchoose
    rw [table_eq] at hst
    obtain ⟨reg, hreg, rfl⟩ := List.mem_map.1 hst
    have hhandled : ∃ a, (reg.step owner).Handles r dest args a ∧
        r.invoke (reg.step owner) dest args = a.adapt (reg.step owner).failed :=
      (agrees_step owner reg).handles (Steps.applies_of_choose? hchoose)
    obtain ⟨a, hhandles, hinvoke⟩ := hhandled
    rw [(Steps.dispatch_of_choose? b s hchoose hinvoke).2] at h
    rcases hrun : Dialogue.run b a.run s with ⟨cause | _, s'⟩
    · rw [hrun] at h
      cases h
      have hends := endsWith_of_handles hhandles (congrArg Prod.fst hrun)
      exact hends.imp_left fun hown => ⟨r, reg, hreg, rfl, rfl, hown⟩
    · rw [hrun] at h
      cases h

end Registration

/-- A table lists the steps that were registered, in that order and under the name of its owner, and
a step leads along links exactly when its handler takes a path. So in a dispatch no step is handed
what it does not take: no fault says that one was, unless the handler of the step that is chosen
itself ends with a fault that says so. -/
theorem registered_steps_fit_their_rules [PageFamily ρ] (owner : String)
    (regs : List (Registration ρ)) :
    let t := Registration.table owner regs
    t.owner = owner ∧ t.list = regs.map (·.step owner) ∧
    (∀ st ∈ t.list, st.destination = .href ↔ ∃ run, st.action = .withPath run) ∧
    ∀ (dest : Page ρ) (args : Args) (b : Browser σ) (s : σ) (page name : String) (e : BindError),
      (Dialogue.run b (t.dispatch Rule.inOrder dest args).run s).1 =
        .error (.stepFailed page name (.binding e)) →
      e ≠ .expectedPath ∧ e ≠ .expectedArguments ∨
        ∃ r, ∃ reg ∈ regs, t.choose? Rule.inOrder dest = some (r, reg.step owner) ∧
          (reg.step owner).name = name ∧ reg.EndsWith dest args b s (.binding e) := by
  intro t
  have hregistered : t.Registered := Registration.table_registered owner regs
  have htable : t = ⟨owner, regs.map (·.step owner)⟩ := Registration.table_eq owner regs
  refine ⟨congrArg Steps.owner htable, congrArg Steps.list htable, ?_, ?_⟩
  · intro st hst
    exact (hregistered.agrees st hst).href_iff
  · intro dest args b s page name e h
    obtain hends | ⟨missing, he⟩ := Registration.endsWith_of_dispatch h
    · exact .inr hends
    · cases he
      exact .inl ⟨nofun, nofun⟩

namespace House

example :
    Registration.table "Hall"
      [.href "link" fun path => askStep (.click (.linkTo path)),
        .toNamed "climb" "Attic" [] fun _ => askStep (.click (.ofCss "#stairs")),
        .toPage "lift" attic [] fun _ => askStep (.click (.ofCss "#attic"))] = ways := rfl

def surly : Registration SitePage := .href "link" fun _ => throw (.binding .expectedPath)

end House

/-- A handler may say of itself that it was not handed a path, and the dispatch then says so. -/
theorem surly_handler_ends_dispatch :
    (Dialogue.run House.lamp ((Registration.table "Hall" [House.surly]).dispatch Rule.inOrder
      House.atticPage ∅).run "#hall").1 =
      .error (.stepFailed "Hall" "link" (.binding .expectedPath)) := rfl

end Wayfinder
