import Wayfinder.Proofs.Route.Made
import Wayfinder.Spec.Run

/-! What a course of navigation comes to when it is led with a browser: its result, the memory, the
calls that were made and the state of the browser. There is one equation for each way of putting
courses together. -/
namespace Wayfinder
variable {ρ σ α β : Type}

abbrev Called := Exchange Call fun c => Except Fault c.Reply

structure Led (ρ σ α : Type) where
  result : Except RouteError α
  memory : Memory ρ
  calls : List Called
  state : σ

namespace Led

def andThen (o : Led ρ σ α) (f : α → Memory ρ → σ → Led ρ σ β) : Led ρ σ β :=
  match o.result with
  | .ok a => { f a o.memory o.state with calls := o.calls ++ (f a o.memory o.state).calls }
  | .error e => ⟨.error e, o.memory, o.calls, o.state⟩

theorem exists_of_andThen {o : Led ρ σ α} {f : α → Memory ρ → σ → Led ρ σ β} {x : β}
    (h : (o.andThen f).result = .ok x) :
    ∃ a, o.result = .ok a ∧ (f a o.memory o.state).result = .ok x := by
  obtain ⟨r, m, calls, s⟩ := o
  cases r with
  | ok a => exact ⟨a, rfl, h⟩
  | error e => cases h

theorem memory_of_andThen {o : Led ρ σ α} {a : α} (h : o.result = .ok a)
    (f : α → Memory ρ → σ → Led ρ σ β) :
    (o.andThen f).memory = (f a o.memory o.state).memory := by
  simp only [andThen, h]

def map (f : α → β) (o : Led ρ σ α) : Led ρ σ β :=
  ⟨o.result.map f, o.memory, o.calls, o.state⟩

end Led

namespace Nav
variable (b : Browser σ) (m : Memory ρ) (s : σ)

def led (t : Nav ρ α) : Led ρ σ α where
  result := (Dialogue.run b (t.run.run m) s).1.1
  memory := (Dialogue.run b (t.run.run m) s).1.2
  calls := Script.history b.answer (t.run.run m) s
  state := (Dialogue.run b (t.run.run m) s).2

@[simp] theorem led_pure (a : α) : led b m s (pure a : Nav ρ α) = ⟨.ok a, m, [], s⟩ := rfl

@[simp] theorem led_orThrow (r : Except RouteError α) :
    led b m s (orThrow r : Nav ρ α) = ⟨r, m, [], s⟩ := by
  cases r <;> rfl

@[simp] theorem led_bind (t : Nav ρ α) (f : α → Nav ρ β) :
    led b m s (t >>= f) = (led b m s t).andThen fun a m s => led b m s (f a) := by
  simp only [led, Dialogue.run, Script.run_exceptT_bind, Script.run_bind, Script.history_bind]
  cases h : Script.run b.answer (t.run.run m) s with
  | mk p s' =>
    obtain ⟨r, m'⟩ := p
    cases r with
    | ok a => rfl
    | error e => simp [Led.andThen, Script.run, Script.history]

@[simp] theorem led_map (t : Nav ρ α) (f : α → β) :
    led b m s (f <$> t) = (led b m s t).map f := by
  rw [← bind_pure_comp, led_bind]
  cases h : led b m s t with
  | mk r m' calls s' => cases r <;> simp [Led.andThen, Led.map, Except.map]

theorem run_lift (d : Dialogue α) :
    (liftM d : Nav ρ α).run.run m = d.bind fun a => .done (.ok a, m) := by
  change ((d.bind fun a => .done (a, m)).bind fun p => .done (Except.ok p.1, p.2)) = _
  rw [Script.bind_assoc]
  rfl

/-- A part of a course that cannot fail leaves the memory alone. -/
theorem led_lift (d : Dialogue α) :
    led b m s (liftM d : Nav ρ α) =
      ⟨.ok (Dialogue.run b d s).1, m, Script.history b.answer d s, (Dialogue.run b d s).2⟩ := by
  simp only [led, Dialogue.run, run_lift, Script.run_bind, Script.history_bind, Script.run,
    Script.history, List.append_nil]

end Nav
end Wayfinder
