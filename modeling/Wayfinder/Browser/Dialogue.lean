import Wayfinder.Browser.Hint
import Wayfinder.Script
import Wayfinder.Url

/-! What a page or a navigation does with a browser, as data: a dialogue is a script whose questions
are calls. A browser over a state `σ` answers calls and so turns a dialogue into a function on `σ`.
-/
namespace Wayfinder

inductive Fault where
  | notStarted (script : String)
  | pipe (text : String)
  | unreadable (context : String)
  | refused (command reason : String)
  | element (selector reason : String)
  | invalidUrl (url : String)
deriving DecidableEq, Repr

def Fault.message : Fault → String
  | .notStarted script =>
    "Failed to spawn " ++ script ++ " (is Node.js installed?): no such program"
  | .pipe text => "Browser session I/O: " ++ text
  | .unreadable context => "JSON parse error (" ++ context ++ "): malformed reply"
  | .refused command reason => "Browser command '" ++ command ++ "' failed: " ++ reason
  | .element selector reason => "Element " ++ selector ++ " not actionable: " ++ reason
  | .invalidUrl url => "Invalid URL '" ++ url ++ "'"

inductive Call where
  | currentUrl
  | load (url : String)
  | click (hint : Hint)
  | fill (hint : Hint) (value : String)
  | isVisible (css : String)
  | textOf (css : String)
  | count (css : String)
  | settle
deriving DecidableEq, Repr

abbrev Call.Reply : Call → Type
  | .currentUrl => String
  | .load _ | .click _ | .fill _ _ | .settle => Unit
  | .isVisible _ => Bool
  | .textOf _ => Option String
  | .count _ => Nat

abbrev Dialogue : Type → Type := Script Call fun c => Except Fault c.Reply

structure Browser (σ : Type) where
  answer : (c : Call) → σ → Except Fault c.Reply × σ

def Dialogue.run (b : Browser σ) (d : Dialogue α) : σ → α × σ := Script.run b.answer d

abbrev Attempt (ε α : Type) := ExceptT ε Dialogue α

def ask (c : Call) : Attempt Fault c.Reply := ExceptT.mk (.ask c .done)

def loadPath (path : String) : Attempt Fault Unit := do
  let url ← ask .currentUrl
  match Url.origin? url with
  | some origin => ask (.load (Url.join origin path))
  | none => throw (.invalidUrl url)

def isAtPath (path : String) : Attempt Fault Bool := do
  return Url.path (← ask .currentUrl) == path

def Attempt.adapt (f : ε → ε') (a : Attempt ε α) : Attempt ε' α := ExceptT.adapt f a

namespace Dialogue
variable {σ α β ε ε' : Type} (b : Browser σ) (s : σ)

theorem run_pure (a : α) : Dialogue.run b (pure a : Attempt ε α).run s = (.ok a, s) := rfl

theorem run_throw (e : ε) : Dialogue.run b (throw e : Attempt ε α).run s = (.error e, s) := rfl

theorem run_ask (c : Call) : Dialogue.run b (ask c).run s = b.answer c s := rfl

theorem run_bind (a : Attempt ε α) (f : α → Attempt ε β) :
    Dialogue.run b (a >>= f).run s =
      match Dialogue.run b a.run s with
      | (.ok x, s') => Dialogue.run b (f x).run s'
      | (.error e, s') => (.error e, s') := by
  have hbind : (a >>= f).run = a.run.bind fun
      | .ok x => (f x).run
      | .error e => .done (.error e) := by
    change a.run.bind _ = _
    congr 1
    funext r
    cases r <;> rfl
  rw [Dialogue.run, hbind, Script.run_bind]
  cases h : Dialogue.run b a.run s with
  | mk r s' =>
    rw [Dialogue.run] at h
    rw [h]
    cases r <;> rfl

theorem run_adapt (f : ε → ε') (a : Attempt ε α) :
    Dialogue.run b (a.adapt f).run s =
      ((Dialogue.run b a.run s).1.mapError f, (Dialogue.run b a.run s).2) := by
  have hmap : (a.adapt f).run = a.run.bind fun r => .done (r.mapError f) := rfl
  rw [Dialogue.run, hmap, Script.run_bind]
  rfl

theorem exists_of_run_adapt {b : Browser σ} {s : σ} {f : ε → ε'} {a : Attempt ε α} {e : ε'}
    (h : (Dialogue.run b (a.adapt f).run s).1 = .error e) : ∃ cause, e = f cause := by
  rw [run_adapt] at h
  cases hr : (Dialogue.run b a.run s).1 with
  | ok x =>
    rw [hr] at h
    cases h
  | error cause =>
    rw [hr] at h
    exact ⟨cause, (Except.error.inj h).symm⟩

end Dialogue
end Wayfinder
