import Wayfinder.Proofs.History
import Wayfinder.Proofs.Site.Lineage

/-! Which questions a script can put, whatever it is answered. Among the calls to a browser the
queries only ask what it shows; a glance is a query by which a page is recognised. The checks of a
page of a site map are glances and nothing else. -/
namespace Wayfinder

namespace Script
variable {Q : Type} {A : Q → Type} {α β σ : Type} {P P' : Q → Prop}

def Asks (P : Q → Prop) : Script Q A α → Prop
  | .done _ => True
  | .ask q next => P q ∧ ∀ r, (next r).Asks P

theorem Asks.bind {d : Script Q A α} {f : α → Script Q A β} (hd : d.Asks P)
    (hf : ∀ a, (f a).Asks P) : (d.bind f).Asks P := by
  induction d with
  | done a => exact hf a
  | ask q next ih => exact ⟨hd.1, fun r => ih r (hd.2 r)⟩

theorem Asks.mono {d : Script Q A α} (h : d.Asks P) (hP : ∀ q, P q → P' q) : d.Asks P' := by
  induction d with
  | done a => trivial
  | ask q next ih => exact ⟨hP q h.1, fun r => ih r (h.2 r)⟩

theorem Asks.of_mem_history {answer : (q : Q) → σ → A q × σ} {d : Script Q A α} {s : σ}
    (h : d.Asks P) {x : Exchange Q A} (hx : x ∈ d.history answer s) : P x.question := by
  induction d generalizing s with
  | done a => simp [history] at hx
  | ask q next ih =>
    obtain rfl | hx := List.mem_cons.1 hx
    · exact h.1
    · exact ih _ (h.2 _) hx

end Script

namespace Call

def query : Call → Bool
  | .currentUrl | .isVisible _ | .textOf _ | .count _ => true
  | .load _ | .click _ | .fill _ _ | .settle => false

def glance : Call → Bool
  | .currentUrl | .isVisible _ => true
  | .load _ | .click _ | .fill _ _ | .textOf _ | .count _ | .settle => false

theorem query_of_glance (c : Call) (h : c.glance = true) : c.query = true := by
  cases c <;> first | rfl | cases h

theorem glance_iff {c : Call} : c.glance = true ↔ c = .currentUrl ∨ ∃ css, c = .isVisible css := by
  cases c <;> simp [glance]

end Call

def Attempt.Asks {ε α : Type} (P : Call → Prop) (a : Attempt ε α) : Prop := Script.Asks P a.run

namespace Attempt.Asks
variable {ε ε' α β : Type} {P : Call → Prop}

theorem pure (x : α) : Asks P (pure x : Attempt ε α) := trivial

theorem throw (e : ε) : Asks P (throw e : Attempt ε α) := trivial

theorem ask {c : Call} (h : P c) : Asks P (ask c) := ⟨h, fun _ => trivial⟩

theorem bind {a : Attempt ε α} {f : α → Attempt ε β} (ha : Asks P a) (hf : ∀ x, Asks P (f x)) :
    Asks P (a >>= f) := by
  refine Script.Asks.bind ha fun r => ?_
  cases r with
  | ok x => exact hf x
  | error e => trivial

theorem adapt {a : Attempt ε α} (ha : Asks P a) (f : ε → ε') : Asks P (a.adapt f) :=
  Script.Asks.bind ha fun _ => trivial

end Attempt.Asks

namespace Check

theorem holds_glances (path : String) (args : Args) (c : Check) :
    (c.holds path args).Asks (·.glance = true) := by
  cases c with
  | visible selector => exact .ask rfl
  | urlContains expected => exact .bind (.ask rfl) fun _ => .pure _
  | pathMatches => exact .bind (.ask rfl) fun _ => .pure _

theorem allHold_glances (path : String) (args : Args) (cs : List Check) :
    (allHold path args cs).Asks (·.glance = true) := by
  induction cs with
  | nil => exact .pure true
  | cons c cs ih =>
    refine .bind (c.holds_glances path args) fun held => ?_
    cases held with
    | true => exact ih
    | false => exact .pure false

end Check

/-- Looking whether a page of a site map is displayed asks for the URL and for what is visible. -/
theorem SitePage.isDisplayed_glances {c : SitePage} {args : Args} {p : Page SitePage}
    (h : PageFamily.build c args = .ok p) : p.isDisplayed.Asks (·.glance = true) := by
  obtain ⟨path, -, rfl⟩ := eq_page_of_build h
  exact Check.allHold_glances path args c.checks

end Wayfinder
