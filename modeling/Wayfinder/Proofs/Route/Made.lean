import Wayfinder.Proofs.History
import Wayfinder.Route.Navigator

/-! What a trip comes to when it is made with a browser: its result, the memory, the history of its
deeds and the state of the browser. Each way of putting trips together has one equation here; the
later modules use these and do not open the transformers again. `made_play` ties them to the
dialogue that is really run. -/
namespace Wayfinder
variable {ρ σ α β : Type}

/-- A script that remembers and may fail goes on from a result and ends with an error. -/
theorem Script.run_exceptT_bind {Q ε μ : Type} {A : Q → Type}
    (t : ExceptT ε (StateT μ (Script Q A)) α)
    (f : α → ExceptT ε (StateT μ (Script Q A)) β) (m : μ) :
    (t >>= f).run.run m = (t.run.run m).bind fun p =>
      match p.1 with
      | .ok a => (f a).run.run p.2
      | .error e => .done (.error e, p.2) := by
  change (t.run.run m).bind _ = _
  congr 1
  funext p
  obtain ⟨r, m'⟩ := p
  cases r <;> rfl

abbrev Done (ρ : Type) := Exchange (Deed ρ) Deed.Outcome

structure Made (ρ σ α : Type) where
  result : Except RouteError α
  memory : Memory ρ
  history : List (Done ρ)
  state : σ

namespace Made

def after (o : Made ρ σ α) (earlier : List (Done ρ)) : Made ρ σ α :=
  { o with history := earlier ++ o.history }

def andThen (o : Made ρ σ α) (f : α → Memory ρ → σ → Made ρ σ β) : Made ρ σ β :=
  match o.result with
  | .ok a => (f a o.memory o.state).after o.history
  | .error e => ⟨.error e, o.memory, o.history, o.state⟩

@[simp] theorem andThen_ok (a : α) (m : Memory ρ) (hs : List (Done ρ)) (s : σ)
    (f : α → Memory ρ → σ → Made ρ σ β) :
    (Made.mk (.ok a) m hs s).andThen f = (f a m s).after hs := rfl

@[simp] theorem andThen_error (e : RouteError) (m : Memory ρ) (hs : List (Done ρ)) (s : σ)
    (f : α → Memory ρ → σ → Made ρ σ β) :
    (Made.mk (.error e) m hs s).andThen f = ⟨.error e, m, hs, s⟩ := rfl

@[simp] theorem after_mk (r : Except RouteError α) (m : Memory ρ) (hs earlier : List (Done ρ))
    (s : σ) : (Made.mk r m hs s).after earlier = ⟨r, m, earlier ++ hs, s⟩ := rfl

@[simp] theorem after_result (o : Made ρ σ α) (earlier : List (Done ρ)) :
    (o.after earlier).result = o.result := rfl

@[simp] theorem after_memory (o : Made ρ σ α) (earlier : List (Done ρ)) :
    (o.after earlier).memory = o.memory := rfl

@[simp] theorem after_nil (o : Made ρ σ α) : o.after [] = o := rfl

end Made

variable [PageFamily ρ]

def Deed.carryOut (nav : Navigator) (b : Browser σ) (d : Deed ρ) : σ → d.Outcome × σ :=
  Dialogue.run b (d.attempt nav).run

theorem Deed.carryOut_look (nav : Navigator) (p : Page ρ) (b : Browser σ) (s : σ) :
    (Deed.look p).carryOut nav b s =
      match Dialogue.run b p.isDisplayed.run s with
      | (.ok shown, s') => (.ok shown, s')
      | (.error e, s') => (.error (.browser e), s') := by
  rw [carryOut, attempt, Dialogue.run_adapt]
  rcases Dialogue.run b p.isDisplayed.run s with ⟨_ | _, _⟩ <;> rfl

theorem Deed.carryOut_look_of_run {p : Page ρ} {b : Browser σ} {s s' : σ} {shown : Bool}
    (nav : Navigator) (h : Dialogue.run b p.isDisplayed.run s = (.ok shown, s')) :
    (Deed.look p).carryOut nav b s = (.ok shown, s') := by
  rw [carryOut_look, h]

namespace Trip
variable (nav : Navigator) (b : Browser σ) (m : Memory ρ) (s : σ)

def made (t : Trip ρ α) : Made ρ σ α :=
  let course := t.run.run m
  let ((result, memory), state) := course.run (Deed.carryOut nav b) s
  { result, memory, history := course.history (Deed.carryOut nav b) s, state }

theorem made_play (t : Trip ρ α) :
    Dialogue.run b ((t.play nav).run.run m) s =
      (((t.made nav b m s).result, (t.made nav b m s).memory), (t.made nav b m s).state) :=
  Script.run_interpret b.answer (fun d : Deed ρ => (d.attempt nav).run) (t.run.run m) s

/-- What a trip says to the browser is what the deeds of its history say to it, one after another;
nothing is said between two deeds. -/
theorem calls_play (t : Trip ρ α) :
    ∃ deeds : List (Deed ρ × σ),
      deeds.map Prod.fst = (t.made nav b m s).history.map Exchange.question ∧
      Script.history b.answer ((t.play nav).run.run m) s =
        deeds.flatMap fun x => Script.history b.answer (x.1.attempt nav).run x.2 := by
  let course := t.run.run m
  refine ⟨course.asked (Deed.carryOut nav b) s, ?_, ?_⟩
  · exact Script.asked_questions (Deed.carryOut nav b) course s
  · exact Script.history_interpret b.answer (fun d : Deed ρ => (d.attempt nav).run) course s

theorem outcome_of_mem {t : Trip ρ α} {x : Done ρ} (hx : x ∈ (t.made nav b m s).history) :
    ∃ s', x.answer = (x.question.carryOut nav b s').1 :=
  Script.answer_of_mem_history hx

@[simp] theorem made_pure (a : α) : (pure a : Trip ρ α).made nav b m s = ⟨.ok a, m, [], s⟩ := rfl

@[simp] theorem made_throw (e : RouteError) :
    (throw e : Trip ρ α).made nav b m s = ⟨.error e, m, [], s⟩ := rfl

@[simp] theorem made_orThrow (r : Except RouteError α) :
    (orThrow r : Trip ρ α).made nav b m s = ⟨r, m, [], s⟩ := rfl

@[simp] theorem made_change (f : Memory ρ → Memory ρ) :
    (change f).made nav b m s = ⟨.ok (), f m, [], s⟩ := rfl

@[simp] theorem made_lastDisplayed :
    lastDisplayed.made nav b m s = ⟨.ok m.lastDisplayed, m, [], s⟩ := rfl

@[simp] theorem made_perform (d : Deed ρ) :
    (perform d).made nav b m s =
      ⟨(d.carryOut nav b s).1, m, [⟨d, (d.carryOut nav b s).1⟩], (d.carryOut nav b s).2⟩ := rfl

@[simp] theorem made_bind (t : Trip ρ α) (f : α → Trip ρ β) :
    (t >>= f).made nav b m s =
      (t.made nav b m s).andThen fun a m s => (f a).made nav b m s := by
  simp only [made, Script.run_exceptT_bind, Script.run_bind, Script.history_bind]
  cases h : (t.run.run m).run (Deed.carryOut nav b) s with
  | mk p s' =>
    obtain ⟨r, m'⟩ := p
    cases r with
    | ok a => rfl
    | error e => simp [Script.run, Script.history]

@[simp] theorem made_map (t : Trip ρ α) (f : α → β) :
    (f <$> t).made nav b m s =
      (t.made nav b m s).andThen fun a m s => ⟨.ok (f a), m, [], s⟩ := by
  rw [← bind_pure_comp, made_bind]
  rfl

end Trip
end Wayfinder
