import Wayfinder.Page.Union
import Wayfinder.Proofs.Route.Account

/-! Navigations that cannot be told apart. Two scripts are alike when they put the same questions,
whatever they are answered, and end in related values; two courses, when they are so from related
memories and leave related memories behind. A navigation remains alike when its arguments are
replaced by others with which the pages on its way are built and stepped from in the same way, and
when the page remembered is replaced by one that is rebuilt as the same page. -/
namespace Wayfinder
variable {ρ σ α β γ δ : Type}

namespace Script
variable {Q Q' : Type} {A : Q → Type} {A' : Q' → Type}

inductive Alike (R : α → β → Prop) : Script Q A α → Script Q A β → Prop
  | done {a b} (h : R a b) : Alike R (.done a) (.done b)
  | ask {q next next'} (h : ∀ r, Alike R (next r) (next' r)) : Alike R (.ask q next) (.ask q next')

namespace Alike
variable {R : α → β → Prop} {R' : γ → δ → Prop}

theorem refl {R : α → α → Prop} (h : ∀ a, R a a) (d : Script Q A α) : Alike R d d := by
  induction d with
  | done a => exact .done (h a)
  | ask q next ih => exact .ask ih

theorem bind {d : Script Q A α} {d' : Script Q A β} (hd : Alike R d d') {f : α → Script Q A γ}
    {g : β → Script Q A δ} (hfg : ∀ a b, R a b → Alike R' (f a) (g b)) :
    Alike R' (d.bind f) (d'.bind g) := by
  induction hd with
  | done h => exact hfg _ _ h
  | ask _ ih => exact .ask ih

/-- Whoever answers, scripts that are alike have the same history and lead to the same state. -/
theorem run {d : Script Q A α} {d' : Script Q A β} (h : Alike R d d')
    (answer : (q : Q) → σ → A q × σ) (s : σ) :
    R (d.run answer s).1 (d'.run answer s).1 ∧ (d.run answer s).2 = (d'.run answer s).2 ∧
      d.history answer s = d'.history answer s := by
  induction h generalizing s with
  | done h => exact ⟨h, rfl, rfl⟩
  | @ask q _ _ _ ih =>
    obtain ⟨hresult, hstate, hhistory⟩ := ih (answer q s).1 (answer q s).2
    exact ⟨hresult, hstate, congrArg (_ :: ·) hhistory⟩

end Alike

theorem interpret_bind (f : (q : Q) → Script Q' A' (A q)) (d : Script Q A α)
    (g : α → Script Q A β) :
    (d.bind g).interpret f = (d.interpret f).bind fun a => (g a).interpret f := by
  induction d with
  | done a => rfl
  | ask q next ih =>
    simp only [Script.bind, interpret, bind_assoc]
    congr 1
    funext r
    exact ih r

end Script

inductive SameOutcome {ε : Type} (R : α → β → Prop) : Except ε α → Except ε β → Prop
  | ok {a b} (h : R a b) : SameOutcome R (.ok a) (.ok b)
  | error (e : ε) : SameOutcome R (.error e) (.error e)

theorem SameOutcome.refl {ε : Type} {R : α → α → Prop} (h : ∀ a, R a a) (r : Except ε α) :
    SameOutcome R r r := by
  cases r with
  | ok a => exact .ok (h a)
  | error e => exact .error e

theorem SameOutcome.eq {ε : Type} {r r' : Except ε α} (h : SameOutcome Eq r r') : r = r' := by
  cases h with
  | ok h => rw [h]
  | error e => rfl

namespace Nav

/-- From memories that are related by `S` the courses make the same calls, come to the same and
leave memories related by `S`. -/
def Alike (S : Memory ρ → Memory ρ → Prop) (R : α → β → Prop) (t : Nav ρ α) (t' : Nav ρ β) : Prop :=
  ∀ m m', S m m' →
    Script.Alike (fun x y => SameOutcome R x.1 y.1 ∧ S x.2 y.2) (t.run.run m) (t'.run.run m')

namespace Alike
variable {S : Memory ρ → Memory ρ → Prop} {R : α → β → Prop} {R' : γ → δ → Prop}

theorem pure {a : α} {b : β} (h : R a b) : Alike S R (pure a) (pure b) :=
  fun _ _ hm => .done ⟨.ok h, hm⟩

theorem throw (e : RouteError) : Alike S R (throw e : Nav ρ α) (throw e : Nav ρ β) :=
  fun _ _ hm => .done ⟨.error e, hm⟩

theorem bind {t : Nav ρ α} {t' : Nav ρ β} (ht : Alike S R t t') {f : α → Nav ρ γ}
    {g : β → Nav ρ δ} (hfg : ∀ a b, R a b → Alike S R' (f a) (g b)) :
    Alike S R' (t >>= f) (t' >>= g) := by
  intro m m' hm
  rw [Script.run_exceptT_bind, Script.run_exceptT_bind]
  refine (ht m m' hm).bind fun x y hxy => ?_
  obtain ⟨r, m₁⟩ := x
  obtain ⟨r', m₁'⟩ := y
  obtain ⟨houtcome, hm₁⟩ := hxy
  cases houtcome with
  | ok h => exact hfg _ _ h m₁ m₁' hm₁
  | error e => exact .done ⟨.error e, hm₁⟩

theorem orThrow (r : Except RouteError α) :
    Alike S (fun a b => a = b ∧ r = .ok a) (orThrow r) (orThrow r) := by
  cases r with
  | ok a => exact .pure ⟨rfl, rfl⟩
  | error e => exact .throw e

end Alike
end Nav

namespace Trip
variable [PageFamily ρ]

theorem play_bind (nav : Navigator) (t : Trip ρ α) (f : α → Trip ρ β) :
    (t >>= f).play nav = t.play nav >>= fun a => (f a).play nav := by
  refine ExceptT.ext (funext fun m => ?_)
  have hplay {γ : Type} (t : Trip ρ γ) (m : Memory ρ) :
      (t.play nav).run.run m = Course.play nav (t.run.run m) := rfl
  change ((t >>= f).play nav).run.run m = (t.play nav >>= fun a => (f a).play nav).run.run m
  rw [Script.run_exceptT_bind, hplay, hplay, Script.run_exceptT_bind, Course.play, Course.play,
    Script.interpret_bind]
  congr 1
  funext x
  obtain ⟨r, m'⟩ := x
  cases r <;> rfl

def Alike (nav : Navigator) (S : Memory ρ → Memory ρ → Prop) (R : α → β → Prop) (t : Trip ρ α)
    (t' : Trip ρ β) : Prop := Nav.Alike S R (t.play nav) (t'.play nav)

namespace Alike
variable {nav : Navigator} {S : Memory ρ → Memory ρ → Prop} {R : α → β → Prop} {R' : γ → δ → Prop}

theorem pure {a : α} {b : β} (h : R a b) : Alike nav S R (pure a) (pure b) := Nav.Alike.pure h

theorem throw (e : RouteError) : Alike nav S R (throw e : Trip ρ α) (throw e : Trip ρ β) :=
  Nav.Alike.throw e

theorem bind {t : Trip ρ α} {t' : Trip ρ β} (ht : Alike nav S R t t') {f : α → Trip ρ γ}
    {g : β → Trip ρ δ} (hfg : ∀ a b, R a b → Alike nav S R' (f a) (g b)) :
    Alike nav S R' (t >>= f) (t' >>= g) := by
  rw [Alike, play_bind, play_bind]
  exact Nav.Alike.bind ht hfg

theorem orThrow (r : Except RouteError α) :
    Alike nav S (fun a b => a = b ∧ r = .ok a) (orThrow r) (orThrow r) := by
  cases r with
  | ok a => exact .pure ⟨rfl, rfl⟩
  | error e => exact .throw e

theorem change {f g : Memory ρ → Memory ρ} (h : ∀ m m', S m m' → S (f m) (g m')) :
    Alike nav S (fun _ _ => True) (change f) (change g) :=
  fun m m' hm => .done ⟨.ok trivial, h m m' hm⟩

theorem lastDisplayed {R : Option (ρ × Args) → Option (ρ × Args) → Prop}
    (h : ∀ m m', S m m' → R m.lastDisplayed m'.lastDisplayed) :
    Alike nav S R lastDisplayed lastDisplayed :=
  fun m m' hm => .done ⟨.ok (h m m' hm), hm⟩

/-- Deeds are alike when they come to the same dialogue. -/
theorem perform {d d' : Deed ρ} {R : d.Reply → d'.Reply → Prop}
    (h : Script.Alike (SameOutcome R) (d.attempt nav).run (d'.attempt nav).run) :
    Alike nav S R (perform d) (perform d') :=
  fun _ _ hm => h.bind fun _ _ hr => .done ⟨hr, hm⟩

theorem perform_same (d : Deed ρ) : Alike nav S Eq (Trip.perform d) (Trip.perform d) :=
  perform (.refl (SameOutcome.refl fun _ => rfl) _)

/-- Made with the same browser, trips that are alike make the same calls and come to the same. -/
theorem made {t : Trip ρ α} {t' : Trip ρ β} (h : Alike nav S R t t') {m m' : Memory ρ}
    (hm : S m m') (b : Browser σ) (s : σ) :
    SameOutcome R (t.made nav b m s).result (t'.made nav b m' s).result ∧
      S (t.made nav b m s).memory (t'.made nav b m' s).memory ∧
      (t.made nav b m s).state = (t'.made nav b m' s).state ∧
      Script.history b.answer ((t.play nav).run.run m) s =
        Script.history b.answer ((t'.play nav).run.run m') s := by
  obtain ⟨⟨hresult, hmemory⟩, hstate, hcalls⟩ := (h m m' hm).run b.answer s
  have hplay : Script.run b.answer ((t.play nav).run.run m) s = _ := t.made_play nav b m s
  have hplay' : Script.run b.answer ((t'.play nav).run.run m') s = _ := t'.made_play nav b m' s
  rw [hplay, hplay'] at hresult hmemory hstate
  exact ⟨hresult, hmemory, hstate, hcalls⟩

end Alike
end Trip

variable [PageFamily ρ]

/-- What is remembered is rebuilt as the same page, one of those of `H`; if the paths count, they
are the same too. -/
structure Memory.Alike (paths : Prop) (H : Page ρ → Prop) (m m' : Memory ρ) : Prop where
  lastPath : paths → m.lastPath = m'.lastPath
  shown : Deed.rebuild m.lastDisplayed = Deed.rebuild m'.lastDisplayed
  page : ∀ p, Deed.rebuild m.lastDisplayed = .ok (some p) → H p

/-- Arguments that do the same for the classes of `K` and for stepping from the pages of `H`. -/
structure Interchangeable (K : ρ → Prop) (H : Page ρ → Prop) (args args' : Args) : Prop where
  build : ∀ c, K c → PageFamily.build c args = PageFamily.build c args'
  cls : ∀ c p, K c → PageFamily.build c args = .ok p → K p.cls
  page : ∀ c p, K c → PageFamily.build c args = .ok p → H p
  prerequisite : ∀ c p d, K c → PageFamily.build c args = .ok p → p.prerequisite = some d → K d
  dispatch : ∀ p, H p → ∀ rules dest,
    p.steps.dispatch rules dest args = p.steps.dispatch rules dest args'
  notes : ∀ p ns, H p → H { p with notes := ns }

variable {paths : Prop} {K : ρ → Prop} {H : Page ρ → Prop} {args args' : Args} {m m' : Memory ρ}

namespace Memory.Alike

theorem of_shown {n n' : Memory ρ} (h : m.Alike paths H m')
    (hpath : paths → n.lastPath = n'.lastPath) (hn : n.lastDisplayed = m.lastDisplayed)
    (hn' : n'.lastDisplayed = m'.lastDisplayed) : n.Alike paths H n' := by
  refine ⟨hpath, ?_, ?_⟩
  · rw [hn, hn']
    exact h.shown
  · rw [hn]
    exact h.page

theorem next (h : m.Alike paths H m') : m.next.Alike paths H m'.next :=
  h.of_shown h.lastPath rfl rfl

theorem log (h : m.Alike paths H m') (event : Nat → Event) :
    (m.log event).Alike paths H (m'.log event) := h.of_shown h.lastPath rfl rfl

theorem along (h : m.Alike paths H m') (path : List String) :
    (m.along path).Alike paths H (m'.along path) := h.of_shown (fun _ => rfl) rfl rfl

theorem forget (h : m.Alike paths H m') : m.forget.Alike paths H m'.forget :=
  ⟨h.lastPath, rfl, nofun⟩

theorem remember (h : m.Alike paths H m') (hargs : Interchangeable K H args args') {c : ρ}
    (hc : K c) : (m.remember c args).Alike paths H (m'.remember c args') := by
  refine ⟨h.lastPath, ?_, fun p hp => ?_⟩
  · simp only [lastDisplayed_remember, Deed.rebuild, hargs.build c hc]
  · obtain ⟨q, hq, hqp⟩ := exists_of_map_eq_ok hp
    cases hqp
    exact hargs.page c _ hc hq

end Memory.Alike

structure Page.Admitted (K : ρ → Prop) (H : Page ρ → Prop) (p : Page ρ) : Prop where
  cls : K p.cls
  page : H p
  prerequisite : ∀ d, p.prerequisite = some d → K d

namespace Interchangeable
variable (hargs : Interchangeable K H args args')
include hargs

theorem admitted {c : ρ} {p : Page ρ} (hc : K c) (hbuild : PageFamily.build c args = .ok p) :
    p.Admitted K H where
  cls := hargs.cls c p hc hbuild
  page := hargs.page c p hc hbuild
  prerequisite d := hargs.prerequisite c p d hc hbuild

theorem build_alike (nav : Navigator) {c : ρ} (hc : K c) :
    Trip.Alike nav (Memory.Alike paths H) (fun p q => p = q ∧ p.Admitted K H)
      (Trip.orThrow (PageFamily.build c args)) (Trip.orThrow (PageFamily.build c args')) := by
  rw [← hargs.build c hc]
  cases hbuild : PageFamily.build c args with
  | ok p => exact .pure ⟨rfl, hargs.admitted hc hbuild⟩
  | error e => exact .throw e

theorem visit_alike (nav : Navigator) {p : Page ρ} (hp : p.Admitted K H) :
    Trip.Alike nav (Memory.Alike paths H) (fun x y => x = y ∧ ∀ d, x.2 = some d → K d)
      (Navigator.visit p args) (Navigator.visit p args') := by
  refine .bind (.perform_same (.look p)) ?_
  rintro shown _ rfl
  refine .bind (.change fun _ _ hm => hm.log _) fun _ _ _ => ?_
  cases shown with
  | true =>
    refine .bind (.change fun _ _ hm => hm.remember hargs hp.cls) fun _ _ _ => ?_
    exact .pure ⟨rfl, nofun⟩
  | false => exact .pure ⟨rfl, hp.prerequisite⟩

theorem climb_alike (nav : Navigator) (limit room : Nat) {chain : PathChain ρ}
    {seen : Bool × Option ρ} (hseen : ∀ d, seen.2 = some d → K d)
    (hchain : ∀ p ∈ chain.pages, p.Admitted K H) :
    Trip.Alike nav (Memory.Alike paths H) (fun a b => a = b ∧ ∀ p ∈ a.pages, p.Admitted K H)
      (Navigator.climb limit args room chain seen)
      (Navigator.climb limit args' room chain seen) := by
  induction room generalizing chain seen with
  | zero =>
    obtain ⟨displayed, c⟩ := seen
    cases c with
    | none => exact .pure ⟨rfl, hchain⟩
    | some c =>
      simp only [Navigator.climb]
      split
      · exact .throw _
      · exact .throw _
  | succ room ih =>
    obtain ⟨displayed, c⟩ := seen
    cases c with
    | none => exact .pure ⟨rfl, hchain⟩
    | some c =>
      simp only [Navigator.climb]
      split
      · exact .throw _
      · refine .bind (hargs.build_alike nav (hseen c rfl)) ?_
        rintro p _ ⟨rfl, hp⟩
        refine .bind (hargs.visit_alike nav hp) ?_
        rintro seen _ ⟨rfl, hseen'⟩
        refine ih hseen' ?_
        rw [PathChain.pages_push]
        exact List.forall_mem_append.2 ⟨hchain, List.forall_mem_singleton.2 hp⟩

theorem backtrace_alike (nav : Navigator) {c : ρ} (hc : K c) :
    Trip.Alike nav (Memory.Alike paths H) (fun a b => a = b ∧ ∀ p ∈ a.pages, p.Admitted K H)
      (nav.backtrace c args) (nav.backtrace c args') := by
  refine .bind (hargs.build_alike nav hc) ?_
  rintro p _ ⟨rfl, hp⟩
  refine .bind (hargs.visit_alike nav hp) ?_
  rintro seen _ ⟨rfl, hseen⟩
  exact hargs.climb_alike nav _ _ hseen (List.forall_mem_singleton.2 hp)

theorem advance_alike (nav : Navigator) {p dest : Page ρ} (hp : H p) (hdest : dest.Admitted K H) :
    Trip.Alike nav (Memory.Alike paths H) (fun a b => a = b ∧ H a)
      (Navigator.advance args p dest) (Navigator.advance args' p dest) := by
  have hhop : Script.Alike (SameOutcome fun a b : Taken => a = b)
      ((Deed.hop p dest args).attempt nav).run ((Deed.hop p dest args').attempt nav).run := by
    simp only [Deed.attempt, hargs.dispatch p hp]
    exact .refl (SameOutcome.refl fun _ => rfl) _
  refine .bind (Trip.Alike.perform hhop) ?_
  rintro taken _ rfl
  refine .bind (.change fun _ _ hm => hm.log _) fun _ _ _ => ?_
  refine .bind (.perform_same (.arrive dest)) ?_
  rintro ns _ rfl
  refine .bind (.change fun _ _ hm => hm.remember hargs hdest.cls) fun _ _ _ => ?_
  exact .pure ⟨rfl, hargs.notes dest ns hdest.page⟩

theorem walk_alike (nav : Navigator) {p : Page ρ} {rest : List (Page ρ)} (hp : H p)
    (hrest : ∀ q ∈ rest, q.Admitted K H) :
    Trip.Alike nav (Memory.Alike paths H) Eq (Navigator.walk args p rest)
      (Navigator.walk args' p rest) := by
  induction rest generalizing p with
  | nil => exact .pure rfl
  | cons dest rest ih =>
    obtain ⟨hdest, hrest⟩ := List.forall_mem_cons.1 hrest
    refine .bind (hargs.advance_alike nav hp hdest) ?_
    rintro q _ ⟨rfl, hq⟩
    exact ih hq hrest

omit hargs in
theorem stillDisplayed_alike (nav : Navigator) :
    Trip.Alike nav (Memory.Alike paths H) (fun a b => a = b ∧ ∀ p : Page ρ, a = some p → H p)
      Navigator.stillDisplayed Navigator.stillDisplayed := by
  let remembered (d d' : Option (ρ × Args)) : Prop :=
    Deed.rebuild d = Deed.rebuild d' ∧ ∀ p, Deed.rebuild d = .ok (some p) → H p
  have hremembered : Trip.Alike nav (Memory.Alike paths H) remembered
      Trip.lastDisplayed Trip.lastDisplayed := .lastDisplayed fun _ _ hm => ⟨hm.shown, hm.page⟩
  refine .bind hremembered ?_
  rintro d d' ⟨hd, hpage⟩
  have hrecall : Script.Alike
      (SameOutcome fun a b : Option (Page ρ) => a = b ∧ ∀ p, a = some p → H p)
      ((Deed.recall d).attempt nav).run ((Deed.recall d').attempt nav).run := by
    change Script.Alike _ (.done (Deed.rebuild d)) (.done (Deed.rebuild d'))
    rw [← hd]
    cases hbuild : Deed.rebuild d with
    | error e => exact .done (.error e)
    | ok shown => exact .done (.ok ⟨rfl, fun p hp => hpage p (hp ▸ hbuild)⟩)
  refine .bind (Trip.Alike.perform hrecall) ?_
  rintro shown _ ⟨rfl, hshown⟩
  cases shown with
  | none => exact .pure ⟨rfl, nofun⟩
  | some p =>
    refine .bind (.perform_same (.recheck p)) ?_
    rintro still _ rfl
    refine .pure ⟨rfl, fun q hq => ?_⟩
    cases still with
    | true => exact hshown q hq
    | false => cases hq

theorem replay_alike (nav : Navigator) {chain : PathChain ρ}
    (hchain : ∀ p ∈ chain.pages, p.Admitted K H) :
    Trip.Alike nav (Memory.Alike paths H) Eq (Navigator.replay args chain)
      (Navigator.replay args' chain) := by
  have hforward : ∀ p ∈ chain.top :: chain.forward.2, p.Admitted K H := by
    rw [chain.top_cons_forward]
    exact fun p hp => hchain p (List.mem_reverse.1 hp)
  unfold Navigator.replay
  dsimp only
  split
  · exact hargs.walk_alike nav (hforward chain.top List.mem_cons_self).page
      fun p hp => hforward p (List.mem_cons_of_mem _ hp)
  · refine .bind (stillDisplayed_alike nav) ?_
    rintro shown _ ⟨rfl, hshown⟩
    cases shown with
    | some p => exact hargs.walk_alike nav (hshown p rfl) hforward
    | none => exact .bind (.change fun _ _ hm => hm.forget) fun _ _ _ => .throw _

theorem navigation_alike (nav : Navigator) {c : ρ} (hc : K c) :
    Trip.Alike nav (Memory.Alike paths H) Eq (nav.navigation c args) (nav.navigation c args') := by
  refine .bind (.change fun _ _ hm => hm.next) fun _ _ _ => ?_
  refine .bind (hargs.backtrace_alike nav hc) ?_
  rintro chain _ ⟨rfl, hchain⟩
  exact .bind (.change fun _ _ hm => hm.along _) fun _ _ _ => hargs.replay_alike nav hchain

end Interchangeable

end Wayfinder
