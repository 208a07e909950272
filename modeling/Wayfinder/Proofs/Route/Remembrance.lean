import Wayfinder.Proofs.Route.Turns
import Wayfinder.Proofs.Site.Lineage

/-! What a navigator remembers as displayed. It is the page that the deeds of a call found displayed
or reached last; a call that finds the page remembered before gone forgets it. What is remembered
can always be built again. -/
namespace Wayfinder
variable {ρ σ : Type}

namespace Done

/-- The page that a deed found displayed in a backtrace, or that arrived after a hop. -/
def reached? : Done ρ → Option (Page ρ)
  | ⟨.look p, .ok true⟩ => some p
  | ⟨.arrive p, .ok _⟩ => some p
  | _ => none

def misses : Done ρ → Bool
  | ⟨.recall _, .ok none⟩ => true
  | ⟨.recheck _, .ok false⟩ => true
  | _ => false

end Done

def lastReached? (hs : List (Done ρ)) : Option (Page ρ) := (hs.filterMap Done.reached?).getLast?

/-- What is remembered after some deeds, `d` being remembered before them. -/
def recalled (args : Args) (hs : List (Done ρ)) (d : Option (ρ × Args)) : Option (ρ × Args) :=
  ((lastReached? hs).map fun p => (p.cls, args)).or d

theorem lastReached?_append (hs hs' : List (Done ρ)) :
    lastReached? (hs ++ hs') = (lastReached? hs').or (lastReached? hs) := by
  simp [lastReached?]

theorem recalled_append (args : Args) (hs hs' : List (Done ρ)) (d : Option (ρ × Args)) :
    recalled args (hs ++ hs') d = recalled args hs' (recalled args hs d) := by
  simp only [recalled, lastReached?_append]
  cases lastReached? hs' <;> rfl

theorem recalled_cons (args : Args) (x : Done ρ) (hs : List (Done ρ)) (d : Option (ρ × Args)) :
    recalled args (x :: hs) d =
      recalled args hs ((x.reached?.map fun p => (p.cls, args)).or d) := by
  have hone : recalled args [x] d = (x.reached?.map fun p => (p.cls, args)).or d := by
    cases h : x.reached? <;> simp [recalled, lastReached?, h]
  rw [← hone, ← recalled_append, List.singleton_append]

variable [PageFamily ρ]
variable {nav : Navigator} {args : Args} {m m' : Memory ρ} {hs : List (Done ρ)}

theorem Walked.recalled {p : Page ρ} {rest : List (Page ρ)} {r : Except RouteError (Page ρ)}
    (h : Walked args p rest m hs r m') : m'.lastDisplayed = recalled args hs m.lastDisplayed := by
  induction h with
  | here => rfl
  | stuck => rfl
  | unarrived => rfl
  | onward _ ih =>
    rw [ih, recalled_cons, recalled_cons]
    rfl

theorem Climbed.recalled {limit room : Nat} {chain : PathChain ρ} {shown : Bool}
    {r : Except RouteError (PathChain ρ)} (h : Climbed limit args room chain shown m hs r m') :
    m'.lastDisplayed = recalled args hs m.lastDisplayed := by
  induction h with
  | @onward _ _ _ _ _ shown _ _ _ _ _ _ _ ih =>
    rw [ih, recalled_cons]
    cases shown <;> rfl
  | displayed | root | circle | tooDeep | unbuilt | unseen => rfl

theorem Walked.quiet {p : Page ρ} {rest : List (Page ρ)} {r : Except RouteError (Page ρ)}
    (h : Walked args p rest m hs r m') : hs.any Done.misses = false := by
  refine List.any_eq_false.2 fun x hx => ?_
  obtain ⟨p, dest, o, rfl⟩ | ⟨p, o, rfl⟩ := h.step_of_mem x hx <;> simp [Done.misses]

/-- A walk that comes to its end remembers the page on which it ends. -/
theorem Walked.remembers {p q : Page ρ} {rest : List (Page ρ)} {r : Except RouteError (Page ρ)}
    (h : Walked args p rest m hs r m') (hr : r = .ok q)
    (hstart : rest = [] → m.lastDisplayed = some (p.cls, args)) :
    m'.lastDisplayed = some (q.cls, args) := by
  induction h with
  | here =>
    cases hr
    exact hstart rfl
  | stuck | unarrived => cases hr
  | onward _ ih => exact ih hr fun _ => rfl

/-- An anchored chain ends on the page remembered; one without an anchor has found none. -/
theorem Climbed.remembers {limit room : Nat} {chain chain' : PathChain ρ} {shown : Bool}
    {r : Except RouteError (PathChain ρ)} (h : Climbed limit args room chain shown m hs r m')
    (hr : r = .ok chain') (htop : shown = true → m.lastDisplayed = some (chain.top.cls, args)) :
    (chain'.anchored = true ∧ m'.lastDisplayed = some (chain'.top.cls, args)) ∨
      (chain'.anchored = false ∧ shown = false ∧ lastReached? hs = none) := by
  induction h with
  | displayed =>
    cases hr
    exact .inl ⟨rfl, htop rfl⟩
  | root =>
    cases hr
    exact .inr ⟨rfl, rfl, rfl⟩
  | circle | tooDeep | unbuilt | unseen => cases hr
  | @onward _ _ m c p shown _ _ _ _ _ _ _ ih =>
    have hseen : shown = true → (m.visited p args shown).lastDisplayed = some (p.cls, args) := by
      rintro rfl
      rfl
    obtain h | ⟨hanchor, rfl, hnone⟩ := ih hr hseen
    · exact .inl h
    · exact .inr ⟨hanchor, rfl, hnone⟩

namespace Backtraced
variable {c : ρ} {r : Except RouteError (PathChain ρ)}

theorem recalled (h : Backtraced nav c args m hs r m') :
    m'.lastDisplayed = recalled args hs m.lastDisplayed := by
  cases h with
  | unbuilt | unseen => rfl
  | @begun p shown _ _ _ _ hrest =>
    rw [hrest.recalled, recalled_cons]
    cases shown <;> rfl

theorem quiet (h : Backtraced nav c args m hs r m') : hs.any Done.misses = false := by
  refine List.any_eq_false.2 fun x hx => ?_
  obtain ⟨p, o, rfl⟩ := h.look_of_mem x hx
  simp [Done.misses]

theorem remembers {chain : PathChain ρ} (h : Backtraced nav c args m hs (.ok chain) m') :
    (chain.anchored = true ∧ m'.lastDisplayed = some (chain.top.cls, args)) ∨
      (chain.anchored = false ∧ lastReached? hs = none) := by
  cases h with
  | @begun p shown _ _ _ _ hrest =>
    have hseen : shown = true → (m.visited p args shown).lastDisplayed = some (p.cls, args) := by
      rintro rfl
      rfl
    obtain h | ⟨hanchor, rfl, hnone⟩ := hrest.remembers rfl hseen
    · exact .inl h
    · exact .inr ⟨hanchor, hnone⟩

end Backtraced

namespace Replayed
variable {chain : PathChain ρ} {r : Except RouteError (Page ρ)}

theorem recalled (h : Replayed args chain m hs r m') :
    m'.lastDisplayed = if hs.any Done.misses then none else recalled args hs m.lastDisplayed := by
  cases h with
  | anchored _ hwalk => rw [hwalk.quiet, hwalk.recalled]; rfl
  | unbuilt | blank | unseen | gone => rfl
  | remembered _ _ hwalk =>
    rw [hwalk.recalled, recalled_cons, recalled_cons]
    simp [Done.misses, Done.reached?, hwalk.quiet]

/-- A replay that misses the page remembered reaches none. -/
theorem lastReached_of_misses (h : Replayed args chain m hs r m')
    (hmiss : hs.any Done.misses = true) : chain.anchored = false ∧ lastReached? hs = none := by
  cases h with
  | anchored _ hwalk => simp [hwalk.quiet] at hmiss
  | unbuilt hanchor | blank hanchor | unseen hanchor | gone hanchor => exact ⟨hanchor, rfl⟩
  | remembered _ _ hwalk => simp [Done.misses, hwalk.quiet] at hmiss

theorem remembers {q : Page ρ} (h : Replayed args chain m hs (.ok q) m')
    (htop : chain.anchored = true → m.lastDisplayed = some (chain.top.cls, args)) :
    m'.lastDisplayed = some (q.cls, args) := by
  cases h with
  | anchored hanchor hwalk => exact hwalk.remembers rfl fun _ => htop hanchor
  | remembered _ _ hwalk => exact hwalk.remembers rfl nofun

end Replayed

def afterFailure (args : Args) (hs : List (Done ρ)) (d : Option (ρ × Args)) : Option (ρ × Args) :=
  match lastReached? hs with
  | some p => some (p.cls, args)
  | none => if hs.any Done.misses then none else d

namespace Navigated
variable {c : ρ} {r : Except RouteError (Page ρ)}

theorem remembers {q : Page ρ} (h : Navigated nav c args m hs (.ok q) m') :
    m'.lastDisplayed = some (q.cls, args) := by
  cases h with
  | @found _ chain m₁ _ _ _ hback hreplay =>
    refine hreplay.remembers fun hanchor => ?_
    obtain ⟨-, htop⟩ | ⟨hno, -⟩ := hback.remembers
    · exact htop
    · simp [hanchor] at hno

theorem afterFailure (h : Navigated nav c args m hs r m') (hr : ∀ q, r ≠ .ok q) :
    m'.lastDisplayed = afterFailure args hs m.lastDisplayed := by
  cases h with
  | lost hback =>
    rw [hback.recalled]
    simp only [Wayfinder.afterFailure, hback.quiet, Wayfinder.recalled]
    cases lastReached? hs <;> rfl
  | @found hs chain m₁ hs' _ _ hback hreplay =>
    have hmem := hreplay.recalled
    simp only [Memory.lastDisplayed_along, hback.recalled, Memory.lastDisplayed_next] at hmem
    simp only [Wayfinder.afterFailure, List.any_append, hback.quiet, Bool.false_or,
      lastReached?_append, hmem]
    cases hmiss : hs'.any Done.misses with
    | true =>
      -- The page remembered is asked for only when the backtrace has found none.
      obtain ⟨hanchor, hnone'⟩ := hreplay.lastReached_of_misses hmiss
      obtain ⟨hanchor', -⟩ | ⟨-, hnone⟩ := hback.remembers
      · simp [hanchor] at hanchor'
      · simp [hnone, hnone']
    | false =>
      simp only [Wayfinder.recalled]
      cases lastReached? hs' <;> cases lastReached? hs <;> rfl

end Navigated

def Episode.remembered (e : Episode ρ σ) : Option (ρ × Args) :=
  match e.turn, e.result with
  | .navigate _ args, .ok (some p) => some (p.cls, args)
  | .navigate _ args, _ => afterFailure args e.history e.before.lastDisplayed
  | .openPage _ _ args, .ok (some p) => some (p.cls, args)
  | .openPage _ _ _, .ok none => none
  | .openPage _ _ _, .error _ => e.before.lastDisplayed
  | .handle _, _ => e.before.lastDisplayed

/-- What is remembered can be built again. -/
def Memory.Kept (m : Memory ρ) : Prop :=
  ∀ c args, m.lastDisplayed = some (c, args) → ∃ p, PageFamily.build c args = .ok p

namespace Memory.Kept

theorem of_eq (h : m.Kept) (he : m'.lastDisplayed = m.lastDisplayed) : m'.Kept := by
  rwa [Kept, he]

theorem of_none (he : m.lastDisplayed = none) : m.Kept := by
  simp [Kept, he]

theorem of_built {c : ρ} {args : Args} {p : Page ρ} (hbuild : PageFamily.build c args = .ok p)
    (he : m.lastDisplayed = some (c, args)) : m.Kept := by
  intro c' args' he'
  rw [he] at he'
  cases he'
  exact ⟨p, hbuild⟩

theorem rebuild_ne_error (h : m.Kept) (e : RouteError) :
    Deed.rebuild m.lastDisplayed ≠ .error e := by
  cases hd : m.lastDisplayed with
  | none => nofun
  | some d =>
    obtain ⟨p, hp⟩ := h d.1 d.2 hd
    simp [Deed.rebuild, hp, Except.map]

end Memory.Kept

theorem Walked.kept {p : Page ρ} {rest : List (Page ρ)} {r : Except RouteError (Page ρ)}
    (h : Walked args p rest m hs r m') (hrest : ∀ q ∈ rest, q.Built args) (hm : m.Kept) :
    m'.Kept := by
  induction h with
  | here | stuck => exact hm
  | unarrived => exact hm.of_eq rfl
  | @onward p dest rest m taken _ _ _ _ _ ih =>
    have hdest : dest.Built args := hrest dest (by simp)
    exact ih (fun q hq => hrest q (List.mem_cons_of_mem dest hq)) (.of_built hdest rfl)

section SiteMaps
variable {m m' : Memory SitePage} {hs : List (Done SitePage)}

theorem Memory.Kept.visited (h : m.Kept) {c : SitePage} {p : Page SitePage} {shown : Bool}
    (hbuild : PageFamily.build c args = .ok p) : (m.visited p args shown).Kept := by
  cases shown with
  | true => exact .of_built (SitePage.built_of_build hbuild) rfl
  | false => exact h.of_eq rfl

theorem Climbed.kept {limit room : Nat} {chain : PathChain SitePage} {shown : Bool}
    {r : Except RouteError (PathChain SitePage)}
    (h : Climbed limit args room chain shown m hs r m') (hm : m.Kept) : m'.Kept := by
  induction h with
  | displayed | root | circle | tooDeep | unbuilt | unseen => exact hm
  | onward _ _ hbuild _ ih => exact ih (hm.visited hbuild)

/-- The pages of a chain are those that their classes give. -/
theorem Backtraced.built {c : SitePage} {chain : PathChain SitePage}
    (h : Backtraced nav c args m hs (.ok chain) m') : ∀ p ∈ chain.pages, p.Built args :=
  h.all_pages (K := fun _ => True) (fun _ _ _ => SitePage.built_of_build) (fun _ _ _ _ => trivial)
    trivial

theorem Backtraced.kept {c : SitePage} {r : Except RouteError (PathChain SitePage)}
    (h : Backtraced nav c args m hs r m') (hm : m.Kept) : m'.Kept := by
  cases h with
  | unbuilt | unseen => exact hm
  | begun hbuild hrest => exact hrest.kept (hm.visited hbuild)

theorem Replayed.kept {chain : PathChain SitePage} {r : Except RouteError (Page SitePage)}
    (h : Replayed args chain m hs r m') (hm : m.Kept) (hpages : ∀ p ∈ chain.pages, p.Built args) :
    m'.Kept := by
  have hforward : ∀ p ∈ chain.top :: chain.forward.2, p.Built args := by
    rw [chain.top_cons_forward]
    exact fun p hp => hpages p (List.mem_reverse.1 hp)
  cases h with
  | anchored _ hwalk => exact hwalk.kept (fun p hp => hforward p (List.mem_cons_of_mem _ hp)) hm
  | unbuilt | unseen => exact hm
  | blank | gone => exact .of_none rfl
  | remembered _ _ hwalk => exact hwalk.kept hforward hm

/-- A replay rebuilds the page remembered without fail. -/
theorem Replayed.recall_ok {chain : PathChain SitePage} {r : Except RouteError (Page SitePage)}
    (h : Replayed args chain m hs r m') (hm : m.Kept) (d : Option (SitePage × Args))
    (e : RouteError) : ⟨.recall d, .error e⟩ ∉ hs := by
  have hwalked {p rest r' m₁ hs'} (hwalk : Walked args p rest m hs' r' m₁) :
      (⟨.recall d, .error e⟩ : Done SitePage) ∉ hs' := by
    intro hx
    obtain ⟨_, _, _, hx⟩ | ⟨_, _, hx⟩ := hwalk.step_of_mem _ hx <;> cases hx
  cases h with
  | anchored _ hwalk => exact hwalked hwalk
  | unbuilt _ hbuild => exact absurd hbuild (hm.rebuild_ne_error _)
  | blank | unseen | gone => simp
  | remembered _ _ hwalk => simpa using hwalked hwalk

theorem Navigated.kept {c : SitePage} {r : Except RouteError (Page SitePage)}
    (h : Navigated nav c args m hs r m') (hm : m.Kept) : m'.Kept := by
  have hnext : m.next.Kept := hm.of_eq rfl
  cases h with
  | lost hback => exact hback.kept hnext
  | found hback hreplay => exact hreplay.kept ((hback.kept hnext).of_eq rfl) hback.built

theorem Navigated.recall_ok {c : SitePage} {r : Except RouteError (Page SitePage)}
    (h : Navigated nav c args m hs r m') (hm : m.Kept) (d : Option (SitePage × Args))
    (e : RouteError) : ⟨.recall d, .error e⟩ ∉ hs := by
  have hlook {hs' r' m₁} (hback : Backtraced nav c args m.next hs' r' m₁) :
      (⟨.recall d, .error e⟩ : Done SitePage) ∉ hs' := by
    intro hx
    obtain ⟨_, _, hx⟩ := hback.look_of_mem _ hx
    cases hx
  have hnext : m.next.Kept := hm.of_eq rfl
  cases h with
  | lost hback => exact hlook hback
  | found hback hreplay =>
    have hkept : (Memory.along _ _).Kept := (hback.kept hnext).of_eq rfl
    exact fun hx => (List.mem_append.1 hx).elim (hlook hback) (hreplay.recall_ok hkept d e)

theorem Opened.kept {c : Option SitePage} {url : Option String}
    {r : Except RouteError (Option (Page SitePage))} (h : Opened args m c url hs r m')
    (hm : m.Kept) : m'.Kept := by
  cases h with
  | nothing => exact hm
  | unloaded | unbuilt | unopened | unarrived => exact hm.of_eq rfl
  | url => exact .of_none rfl
  | page hbuild => exact .of_built hbuild rfl

theorem Opened.recall_ok {c : Option SitePage} {url : Option String}
    {r : Except RouteError (Option (Page SitePage))} (h : Opened args m c url hs r m')
    (d : Option (SitePage × Args)) (e : RouteError) : ⟨.recall d, .error e⟩ ∉ hs := by
  have hloaded (u : Option String) (p : Option (Page SitePage)) :
      (⟨.recall d, .error e⟩ : Done SitePage) ∉ loaded u p := by
    cases u <;> cases p <;> simp [loaded]
  cases h with
  | nothing => simp
  | unloaded | unopened => simp
  | url | unbuilt => exact hloaded _ _
  | unarrived | page => simp [hloaded]

end SiteMaps

namespace Episode.Accounted
variable {e : Episode SitePage σ}

theorem kept (h : e.Accounted nav) (hm : e.before.Kept) : e.after.Kept := by
  cases h with
  | navigate h => exact h.kept hm
  | openPage h => exact h.kept hm
  | handle => exact hm

theorem recall_ok (h : e.Accounted nav) (hm : e.before.Kept) (d : Option (SitePage × Args))
    (err : RouteError) : ⟨.recall d, .error err⟩ ∉ e.history := by
  cases h with
  | navigate h => exact h.recall_ok hm d err
  | openPage h => exact h.recall_ok d err
  | handle => simp

theorem remembered (h : e.Accounted nav) : e.after.lastDisplayed = e.remembered := by
  cases h with
  | @navigate _ _ _ _ _ r _ _ h =>
    cases r with
    | ok p => exact h.remembers
    | error err => exact h.afterFailure nofun
  | openPage h =>
    cases h with
    | nothing | unloaded | url | unbuilt | unopened | unarrived => rfl
    | page hbuild =>
      have hcls := SitePage.cls_of_build hbuild
      simp [Episode.remembered, hcls]
  | handle => rfl

end Episode.Accounted

/-- In every run on a site map the page remembered is the one that the last call to speak of it
reached or lost, as `Episode.remembered` has it; it can always be built again, as a page of its own
class; and no navigation fails in building it. -/
theorem remembered_page_builds (nav : Navigator) (b : Browser σ) (turns : List (Turn SitePage σ))
    (s : σ) (e : Episode SitePage σ) (he : e ∈ nav.episodes b turns {} s) :
    e.after.lastDisplayed = e.remembered ∧
    (∀ c args, e.after.lastDisplayed = some (c, args) →
      ∃ p, PageFamily.build c args = .ok p ∧ p.cls = c) ∧
    ∀ d err, ⟨.recall d, .error err⟩ ∉ e.history := by
  have haccount := accounted_of_mem he
  have hstart : ({} : Memory SitePage).Kept := .of_none rfl
  have hkeep (t : Turn SitePage σ) (m : Memory SitePage) (s : σ) (hm : m.Kept) :
      (t.take nav b m s).after.Kept := (t.take_accounted nav b m s).kept (by simpa using hm)
  obtain ⟨hbefore, hafter⟩ := episodes_invariant hkeep hstart he
  refine ⟨haccount.remembered, fun c args hlast => ?_, haccount.recall_ok hbefore⟩
  obtain ⟨p, hbuild⟩ := hafter c args hlast
  exact ⟨p, hbuild, SitePage.cls_of_build hbuild⟩

theorem climb_remembers_attic :
    House.climbed {} ∈ Navigator.episodes {} House.lamp [.navigate House.attic ∅] {} "#hall" ∧
    (House.climbed {}).after.lastDisplayed = (House.climbed {}).remembered ∧
    ∃ p, PageFamily.build House.attic ∅ = .ok p ∧ p.cls = House.attic := by
  have he := House.climbed_mem {}
  obtain ⟨hremembered, hbuild, -⟩ := remembered_page_builds {} House.lamp _ "#hall" _ he
  exact ⟨he, hremembered, hbuild House.attic ∅ rfl⟩

end Wayfinder
