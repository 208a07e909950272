import Wayfinder.Page.Union
import Wayfinder.Proofs.Route.Footing
import Wayfinder.Proofs.Route.Trace

/-! Navigations that end for want of a step. Either some hop finds none, or there was no page
displayed to start from; the deeds of the navigation tell the two apart. All its pages come from the
class wanted, from what it requires, and from what is remembered. -/
namespace Wayfinder
variable {ρ : Type}

def Deed.StepsOn (H : Page ρ → Prop) : Deed ρ → Prop
  | .hop p _ _ | .arrive p => H p
  | _ => True

def RouteError.stepless : RouteError → Bool
  | .stepNotFound _ _ _ => true
  | _ => false

/-- There was no page displayed to start from, and so no hop. -/
structure Adrift (hs : List (Done ρ)) (e : RouteError) : Prop where
  error : ∃ dest, e = .stepNotFound "<none>" dest []
  missed : hs.any Done.misses = true
  dark : ∀ x ∈ hs, ∀ p, ¬x.Shows p
  unmoved : ∀ x ∈ hs, ¬x.IsHop

variable [PageFamily ρ] {nav : Navigator} {args : Args} {m m' : Memory ρ}
  {hs : List (Done ρ)} {K : ρ → Prop} {H : Page ρ → Prop}

theorem Walked.stepsOn {p : Page ρ} {rest : List (Page ρ)} {r : Except RouteError (Page ρ)}
    (h : Walked args p rest m hs r m') (hnotes : ∀ p ns, H p → H { p with notes := ns })
    (hp : H p) (hrest : ∀ q ∈ rest, H q) : ∀ x ∈ hs, x.question.StepsOn H := by
  induction h with
  | here => simp
  | stuck => exact List.forall_mem_singleton.2 hp
  | unarrived =>
    exact List.forall_mem_cons.2 ⟨hp, List.forall_mem_singleton.2 (hrest _ List.mem_cons_self)⟩
  | onward _ ih =>
    obtain ⟨hdest, hrest⟩ := List.forall_mem_cons.1 hrest
    exact List.forall_mem_cons.2 ⟨hp, List.forall_mem_cons.2 ⟨hdest, ih (hnotes _ _ hdest) hrest⟩⟩

theorem Replayed.stepsOn {chain : PathChain ρ} {r : Except RouteError (Page ρ)}
    (h : Replayed args chain m hs r m') (hnotes : ∀ p ns, H p → H { p with notes := ns })
    (hchain : ∀ p ∈ chain.pages, H p)
    (hrecall : chain.anchored = false → ∀ p, Deed.rebuild m.lastDisplayed = .ok (some p) → H p) :
    ∀ x ∈ hs, x.question.StepsOn H := by
  have hforward : ∀ p ∈ chain.top :: chain.forward.2, H p := by
    rw [chain.top_cons_forward]
    exact fun p hp => hchain p (List.mem_reverse.1 hp)
  cases h with
  | anchored _ hwalk =>
    exact hwalk.stepsOn hnotes (hforward _ List.mem_cons_self)
      fun p hp => hforward p (List.mem_cons_of_mem _ hp)
  | unbuilt | blank => exact List.forall_mem_singleton.2 trivial
  | unseen | gone => exact List.forall_mem_cons.2 ⟨trivial, List.forall_mem_singleton.2 trivial⟩
  | remembered hanchor hbuild hwalk =>
    exact List.forall_mem_cons.2 ⟨trivial, List.forall_mem_cons.2
      ⟨trivial, hwalk.stepsOn hnotes (hrecall hanchor _ hbuild) hforward⟩⟩

theorem Navigated.stepsOn {c : ρ} {r : Except RouteError (Page ρ)}
    (hbuild : ∀ c args p, K c → PageFamily.build c args = .ok p → H p)
    (hreq : ∀ p c, H p → p.prerequisite = some c → K c)
    (hnotes : ∀ p ns, H p → H { p with notes := ns })
    (h : Navigated nav c args m hs r m') (hc : K c)
    (hlast : ∀ c args, m.lastDisplayed = some (c, args) → K c) :
    ∀ x ∈ hs, x.question.StepsOn H := by
  have hlooks {hs r m'} (hback : Backtraced nav c args m.next hs r m') :
      ∀ x ∈ hs, x.question.StepsOn H := by
    intro x hx
    obtain ⟨p, o, rfl⟩ := hback.look_of_mem x hx
    trivial
  cases h with
  | lost hback => exact hlooks hback
  | @found _ chain m₁ _ _ _ hback hreplay =>
    have hpages := hback.all_pages (fun c p => hbuild c args p) hreq hc
    refine List.forall_mem_append.2 ⟨hlooks hback, hreplay.stepsOn hnotes hpages ?_⟩
    -- Without an anchor the backtrace has left alone what was remembered.
    intro hanchor p hp
    have hkept : (m₁.along chain.names).lastDisplayed = m.lastDisplayed := by
      rw [Memory.lastDisplayed_along, hback.unmoved hanchor, Memory.lastDisplayed_next]
    rw [hkept] at hp
    cases hd : m.lastDisplayed with
    | none =>
      rw [hd] at hp
      cases hp
    | some d =>
      rw [hd] at hp
      obtain ⟨q, hq, hqp⟩ := exists_of_map_eq_ok hp
      obtain rfl : q = p := Option.some.inj hqp
      exact hbuild d.1 d.2 q (hlast d.1 d.2 hd) hq

/-- A backtrace does not fail for want of a step. -/
theorem Climbed.not_stepless {limit room : Nat} {chain : PathChain ρ} {shown : Bool}
    {r : Except RouteError (PathChain ρ)} {e : RouteError}
    (hbuild : ∀ c e, PageFamily.build (c : ρ) args = .error e → e.stepless = false)
    (hdeeds : ∀ d e, ⟨d, .error e⟩ ∈ hs → e.stepless = false)
    (h : Climbed limit args room chain shown m hs r m') (hr : r = .error e) :
    e.stepless = false := by
  induction h with
  | displayed | root => cases hr
  | circle | tooDeep =>
    cases hr
    rfl
  | @unbuilt _ _ _ c _ _ _ he =>
    cases hr
    exact hbuild c e he
  | @unseen _ _ _ _ p =>
    cases hr
    exact hdeeds (.look p) e List.mem_cons_self
  | onward _ _ _ _ ih => exact ih (fun d e hd => hdeeds d e (List.mem_cons_of_mem _ hd)) hr

theorem Backtraced.not_stepless {c : ρ} {e : RouteError}
    (hbuild : ∀ c e, PageFamily.build (c : ρ) args = .error e → e.stepless = false)
    (hdeeds : ∀ d e, ⟨d, .error e⟩ ∈ hs → e.stepless = false)
    (h : Backtraced nav c args m hs (.error e) m') : e.stepless = false := by
  cases h with
  | unbuilt he => exact hbuild c e he
  | @unseen p => exact hdeeds (.look p) e List.mem_cons_self
  | begun _ hrest =>
    exact hrest.not_stepless hbuild (fun d e hd => hdeeds d e (List.mem_cons_of_mem _ hd)) rfl

/-- A replay fails for want of a step with one of its deeds or because it knows no page to start
from. -/
theorem Replayed.adrift {chain : PathChain ρ} {e : RouteError}
    (hdeeds : ∀ d e, ⟨d, .error e⟩ ∈ hs → e.stepless = false)
    (h : Replayed args chain m hs (.error e) m') (he : e.stepless = true) :
    chain.anchored = false ∧ Adrift hs e := by
  have hfailed : ¬∃ d, ⟨d, .error e⟩ ∈ hs := by
    rintro ⟨d, hd⟩
    simp [hdeeds d e hd] at he
  cases h with
  | anchored _ hwalk => exact absurd (hwalk.failed rfl) hfailed
  | unbuilt => exact absurd ⟨_, List.mem_singleton_self _⟩ hfailed
  | @unseen p => exact absurd ⟨.recheck p, by simp⟩ hfailed
  | remembered _ _ hwalk =>
    obtain ⟨d, hd⟩ := hwalk.failed rfl
    exact absurd ⟨d, by simp [hd]⟩ hfailed
  | blank hanchor =>
    refine ⟨hanchor, ⟨_, rfl⟩, rfl, ?_, ?_⟩
    · exact List.forall_mem_singleton.2 (Done.not_shows_recall _ _)
    · exact List.forall_mem_singleton.2 (Done.not_isHop_recall _ _)
  | gone hanchor =>
    refine ⟨hanchor, ⟨_, rfl⟩, rfl, ?_, ?_⟩
    · exact List.forall_mem_cons.2 ⟨Done.not_shows_recall _ _,
        List.forall_mem_singleton.2 (Done.not_shows_recheck _)⟩
    · exact List.forall_mem_cons.2 ⟨Done.not_isHop_recall _ _,
        List.forall_mem_singleton.2 (Done.not_isHop_recheck _ _)⟩

/-- The looks of a backtrace without an anchor have shown no page. -/
theorem Backtraced.dark {c : ρ} {chain : PathChain ρ}
    (h : Backtraced nav c args m hs (.ok chain) m')
    (hanchor : chain.anchored = false) : ∀ x ∈ hs, ∀ p, ¬x.Shows p := by
  obtain ⟨hanchor', -⟩ | ⟨-, hnone⟩ := h.remembers
  · simp [hanchor] at hanchor'
  have hno := List.filterMap_eq_nil_iff.1 (List.getLast?_eq_none_iff.1 hnone)
  intro x hx p hshows
  have hunreached := hno x hx
  obtain ⟨q, o, rfl⟩ := h.look_of_mem x hx
  obtain hlook | hrecheck := hshows
  · cases hlook
    cases hunreached
  · cases hrecheck

theorem Navigated.adrift {c : ρ} {e : RouteError}
    (hbuild : ∀ c e, PageFamily.build (c : ρ) args = .error e → e.stepless = false)
    (hdeeds : ∀ d e, ⟨d, .error e⟩ ∈ hs → e.stepless = false)
    (h : Navigated nav c args m hs (.error e) m') (he : e.stepless = true) : Adrift hs e := by
  cases h with
  | lost hback =>
    have hno := hback.not_stepless hbuild hdeeds
    simp [he] at hno
  | found hback hreplay =>
    obtain ⟨hanchor, hadrift⟩ := hreplay.adrift
      (fun d e hd => hdeeds d e (List.mem_append_right _ hd)) he
    refine ⟨hadrift.error, ?_, ?_, ?_⟩
    · rw [List.any_append, hadrift.missed, Bool.or_true]
    · exact List.forall_mem_append.2 ⟨hback.dark hanchor, hadrift.dark⟩
    · exact List.forall_mem_append.2 ⟨hback.no_hop, hadrift.unmoved⟩

end Wayfinder
