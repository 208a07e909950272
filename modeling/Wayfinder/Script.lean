/-! A script is a program that asks its surroundings, as data: a tree with a question at each node
and below it what follows for every answer. Whoever answers over a state `σ` turns a script into a
function on `σ`. `run_bind` says that scripts run one after another, `run_interpret` that a script
whose questions are put by way of other scripts runs as if those answered. -/
namespace Wayfinder

inductive Script (Q : Type) (A : Q → Type) (α : Type) where
  | done (a : α)
  | ask (q : Q) (next : A q → Script Q A α)

namespace Script
variable {Q Q' : Type} {A : Q → Type} {A' : Q' → Type} {α β γ σ : Type}

def bind : Script Q A α → (α → Script Q A β) → Script Q A β
  | .done a, f => f a
  | .ask q next, f => .ask q fun r => (next r).bind f

instance : Monad (Script Q A) where
  pure := .done
  bind := bind

theorem bind_done (d : Script Q A α) : d.bind .done = d := by
  induction d with
  | done a => rfl
  | ask q next ih => simp only [bind]; congr 1; funext r; exact ih r

theorem bind_assoc (d : Script Q A α) (f : α → Script Q A β) (g : β → Script Q A γ) :
    (d.bind f).bind g = d.bind fun a => (f a).bind g := by
  induction d with
  | done a => rfl
  | ask q next ih => simp only [bind]; congr 1; funext r; exact ih r

instance : LawfulMonad (Script Q A) :=
  LawfulMonad.mk' (Script Q A) (fun d => bind_done d) (fun _ _ => rfl) bind_assoc

def run (answer : (q : Q) → σ → A q × σ) : Script Q A α → σ → α × σ
  | .done a, s => (a, s)
  | .ask q next, s => (next (answer q s).1).run answer (answer q s).2

theorem run_bind (answer : (q : Q) → σ → A q × σ) (d : Script Q A α) (f : α → Script Q A β)
    (s : σ) : (d.bind f).run answer s = (f (d.run answer s).1).run answer (d.run answer s).2 := by
  induction d generalizing s with
  | done a => rfl
  | ask q next ih => exact ih _ _

/-- Puts every question by way of a script of other questions. -/
def interpret (f : (q : Q) → Script Q' A' (A q)) : Script Q A α → Script Q' A' α
  | .done a => .done a
  | .ask q next => (f q).bind fun r => (next r).interpret f

theorem run_interpret (answer : (q : Q') → σ → A' q × σ) (f : (q : Q) → Script Q' A' (A q))
    (d : Script Q A α) (s : σ) :
    (d.interpret f).run answer s = d.run (fun q s => (f q).run answer s) s := by
  induction d generalizing s with
  | done a => rfl
  | ask q next ih =>
    rw [interpret, run_bind, ih]
    rfl

end Script
end Wayfinder
