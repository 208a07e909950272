import Wayfinder.Browser.Dialogue

/-! The history of a script that is run: its questions with their answers, in the order in which
they were put. -/
namespace Wayfinder
variable {Q Q' : Type} {A : Q → Type} {A' : Q' → Type} {α β σ : Type}

structure Exchange (Q : Type) (A : Q → Type) where
  question : Q
  answer : A question

namespace Script

def history (answer : (q : Q) → σ → A q × σ) : Script Q A α → σ → List (Exchange Q A)
  | .done _, _ => []
  | .ask q next, s => ⟨q, (answer q s).1⟩ :: (next (answer q s).1).history answer (answer q s).2

theorem history_bind (answer : (q : Q) → σ → A q × σ) (d : Script Q A α) (f : α → Script Q A β)
    (s : σ) :
    (d.bind f).history answer s =
      d.history answer s ++ (f (d.run answer s).1).history answer (d.run answer s).2 := by
  induction d generalizing s with
  | done a => rfl
  | ask q next ih => simp only [bind, history, run, ih, List.cons_append]

/-- Every answer is one that was given in some state. -/
theorem answer_of_mem_history {answer : (q : Q) → σ → A q × σ} {d : Script Q A α} {s : σ}
    {x : Exchange Q A} (hx : x ∈ d.history answer s) :
    ∃ s', x.answer = (answer x.question s').1 := by
  induction d generalizing s with
  | done a => simp [history] at hx
  | ask q next ih =>
    obtain rfl | hx := List.mem_cons.1 hx
    · exact ⟨s, rfl⟩
    · exact ih _ hx

def asked (answer : (q : Q) → σ → A q × σ) : Script Q A α → σ → List (Q × σ)
  | .done _, _ => []
  | .ask q next, s => (q, s) :: (next (answer q s).1).asked answer (answer q s).2

theorem asked_questions (answer : (q : Q) → σ → A q × σ) (d : Script Q A α) (s : σ) :
    (d.asked answer s).map Prod.fst = (d.history answer s).map Exchange.question := by
  induction d generalizing s with
  | done a => rfl
  | ask q next ih => simp only [asked, history, List.map_cons, ih]

/-- What is said in a script that is put by way of others is what is said in these, one after
another. -/
theorem history_interpret (answer : (q : Q') → σ → A' q × σ) (f : (q : Q) → Script Q' A' (A q))
    (d : Script Q A α) (s : σ) :
    (d.interpret f).history answer s =
      (d.asked (fun q s => (f q).run answer s) s).flatMap fun x => (f x.1).history answer x.2 := by
  induction d generalizing s with
  | done a => rfl
  | ask q next ih => rw [interpret, history_bind, ih, asked, List.flatMap_cons]

end Script

namespace Dialogue
variable {ε ε' : Type} (b : Browser σ)

theorem history_adapt (f : ε → ε') (a : Attempt ε α) (s : σ) :
    Script.history b.answer (a.adapt f).run s = Script.history b.answer a.run s := by
  have hmap : (a.adapt f).run = a.run.bind fun r => .done (r.mapError f) := rfl
  rw [hmap, Script.history_bind]
  exact List.append_nil _

theorem history_andThen (a : Attempt ε α) (f : α → Attempt ε β) (s : σ) :
    Script.history b.answer (a >>= f).run s = Script.history b.answer a.run s ++
      match Dialogue.run b a.run s with
      | (.ok x, s') => Script.history b.answer (f x).run s'
      | (.error _, _) => [] := by
  have hbind : (a >>= f).run = a.run.bind fun
      | .ok x => (f x).run
      | .error e => .done (.error e) := by
    change a.run.bind _ = _
    congr 1
    funext r
    cases r <;> rfl
  rw [hbind, Script.history_bind, Dialogue.run]
  rcases Script.run b.answer a.run s with ⟨_ | _, _⟩ <;> rfl

end Dialogue
end Wayfinder
