import Wayfinder.Proofs.Route.Account
import Wayfinder.Sample.House

/-! The course of a backtrace, told without its loop. The pages passed are those that were found
hidden and require another one; how the backtrace ends depends on them and on the class required
last. The states of the browser are threaded through the looks. -/
namespace Wayfinder
variable {ρ σ : Type}

def PathChain.of (anchored : Bool) (p : Page ρ) : List (Page ρ) → PathChain ρ
  | [] => { target := p, anchored }
  | target :: rest => { target, hops := p :: rest.reverse, anchored }

@[simp] theorem PathChain.pages_of (anchored : Bool) (p : Page ρ) (ps : List (Page ρ)) :
    (PathChain.of anchored p ps).pages = ps ++ [p] := by
  cases ps <;> simp [PathChain.of, pages]

theorem PathChain.anchor_of (anchored : Bool) (p : Page ρ) (ps : List (Page ρ)) :
    { PathChain.of false p ps with anchored } = PathChain.of anchored p ps := by
  cases ps <;> rfl

def glances (ps : List (Page ρ)) : List (Done ρ) := ps.map fun p => ⟨.look p, .ok false⟩

variable [PageFamily ρ]

/-- The pages are built one from the next, beginning with class `c`, and found hidden one after
another; the last requires class `d`. -/
def Passed (b : Browser σ) (args : Args) : List (Page ρ) → ρ → σ → ρ → σ → Prop
  | [], c, s, d, s' => d = c ∧ s' = s
  | p :: ps, c, s, d, s' => ∃ c₁ s₁, PageFamily.build c args = .ok p ∧
      Dialogue.run b p.isDisplayed.run s = (.ok false, s₁) ∧ p.prerequisite = some c₁ ∧
      Passed b args ps c₁ s₁ d s'

/-- No two pages are of one class, and there are no more than the limit allows; one page is always
allowed. -/
structure Climbable (limit : Nat) (ps : List (Page ρ)) : Prop where
  distinct : ps.Pairwise fun p q => PageFamily.same p.cls q.cls = false
  short : ps.length ≤ max limit 1

structure Addable (limit : Nat) (ps : List (Page ρ)) (d : ρ) : Prop where
  new : ∀ p ∈ ps, PageFamily.same p.cls d = false
  room : ps.length + 1 ≤ max limit 1

/-- How a backtrace ends, with the looks it takes. Each case begins with the pages passed. -/
inductive Surveyed (limit : Nat) (b : Browser σ) (args : Args) (c : ρ) (s : σ) :
    List (Done ρ) → Except RouteError (PathChain ρ) → σ → Prop
  | displayed {ps d s₁ p s₂} (hpassed : Passed b args ps c s d s₁)
      (hclimbable : Climbable limit ps) (hadd : Addable limit ps d)
      (hbuild : PageFamily.build d args = .ok p)
      (hlook : Dialogue.run b p.isDisplayed.run s₁ = (.ok true, s₂)) :
      Surveyed limit b args c s (glances ps ++ [⟨.look p, .ok true⟩]) (.ok (.of true p ps)) s₂
  | root {ps d s₁ p s₂} (hpassed : Passed b args ps c s d s₁)
      (hclimbable : Climbable limit ps) (hadd : Addable limit ps d)
      (hbuild : PageFamily.build d args = .ok p)
      (hlook : Dialogue.run b p.isDisplayed.run s₁ = (.ok false, s₂))
      (hroot : p.prerequisite = none) :
      Surveyed limit b args c s (glances ps ++ [⟨.look p, .ok false⟩]) (.ok (.of false p ps)) s₂
  | circle {ps d s₁} (hpassed : Passed b args ps c s d s₁) (hclimbable : Climbable limit ps)
      (hin : ∃ p ∈ ps, PageFamily.same p.cls d = true) :
      Surveyed limit b args c s (glances ps)
        (.error (.prerequisiteCycle (ps.map Page.name ++ [PageFamily.name d]))) s₁
  | tooDeep {ps d s₁} (hpassed : Passed b args ps c s d s₁) (hclimbable : Climbable limit ps)
      (hsome : ps ≠ []) (hnew : ∀ p ∈ ps, PageFamily.same p.cls d = false)
      (hfull : limit ≤ ps.length) :
      Surveyed limit b args c s (glances ps)
        (.error (.backtraceTooDeep limit (ps.map Page.name ++ [PageFamily.name d]))) s₁
  | unbuilt {ps d s₁ e} (hpassed : Passed b args ps c s d s₁) (hclimbable : Climbable limit ps)
      (hadd : Addable limit ps d) (hbuild : PageFamily.build d args = .error e) :
      Surveyed limit b args c s (glances ps) (.error e) s₁
  | unseen {ps d s₁ p e s₂} (hpassed : Passed b args ps c s d s₁)
      (hclimbable : Climbable limit ps) (hadd : Addable limit ps d)
      (hbuild : PageFamily.build d args = .ok p)
      (hlook : Dialogue.run b p.isDisplayed.run s₁ = (.error e, s₂)) :
      Surveyed limit b args c s (glances ps ++ [⟨.look p, .error (.browser e)⟩])
        (.error (.browser e)) s₂

variable {b : Browser σ} {args : Args} {c d : ρ} {s s₁ s₂ : σ} {ps : List (Page ρ)} {p : Page ρ}
  {limit : Nat}

theorem Passed.snoc {d' : ρ} (h : Passed b args ps c s d s₁)
    (hbuild : PageFamily.build d args = .ok p)
    (hlook : Dialogue.run b p.isDisplayed.run s₁ = (.ok false, s₂))
    (hreq : p.prerequisite = some d') : Passed b args (ps ++ [p]) c s d' s₂ := by
  induction ps generalizing c s with
  | nil =>
    obtain ⟨rfl, rfl⟩ := h
    exact ⟨d', s₂, hbuild, hlook, hreq, rfl, rfl⟩
  | cons q ps ih =>
    obtain ⟨c₁, s', hq, hhidden, hnext, hrest⟩ := h
    exact ⟨c₁, s', hq, hhidden, hnext, ih hrest⟩

theorem Climbable.nil : Climbable limit ([] : List (Page ρ)) := ⟨.nil, Nat.zero_le _⟩

theorem Climbable.snoc [LawfulPageFamily ρ] (h : Climbable limit ps) (hadd : Addable limit ps d)
    (hbuild : PageFamily.build d args = .ok p) : Climbable limit (ps ++ [p]) where
  distinct := by
    refine List.pairwise_append.2 ⟨h.distinct, List.pairwise_singleton _ _, fun q hq r hr => ?_⟩
    obtain rfl := List.mem_singleton.1 hr
    have hkey : PageFamily.key r.cls = PageFamily.key d := LawfulPageFamily.key_build hbuild
    simpa [PageFamily.same, hkey] using hadd.new q hq
  short := by
    rw [List.length_append]
    exact hadd.room

/-- Whatever the pages require, the search comes to an end. -/
theorem Passed.surveyed [LawfulPageFamily ρ] (hpassed : Passed b args ps c s d s₁)
    (hclimbable : Climbable limit ps) : ∃ hs r s', Surveyed limit b args c s hs r s' := by
  -- On the room left: each page passed on the way takes up some of it.
  induction hroom : max limit 1 - ps.length generalizing ps d s₁ with
  | zero =>
    by_cases hin : ∃ p ∈ ps, PageFamily.same p.cls d = true
    · exact ⟨_, _, _, .circle hpassed hclimbable hin⟩
    · have hnew : ∀ p ∈ ps, PageFamily.same p.cls d = false := by simpa using hin
      have hsome : ps ≠ [] := by
        rintro rfl
        simp at hroom
      exact ⟨_, _, _, .tooDeep hpassed hclimbable hsome hnew (by omega)⟩
  | succ room ih =>
    by_cases hin : ∃ p ∈ ps, PageFamily.same p.cls d = true
    · exact ⟨_, _, _, .circle hpassed hclimbable hin⟩
    · have hadd : Addable limit ps d := ⟨by simpa using hin, by omega⟩
      cases hbuild : PageFamily.build d args with
      | error e => exact ⟨_, _, _, .unbuilt hpassed hclimbable hadd hbuild⟩
      | ok p =>
        rcases hlook : Dialogue.run b p.isDisplayed.run s₁ with ⟨e | shown, s₂⟩
        · exact ⟨_, _, _, .unseen hpassed hclimbable hadd hbuild hlook⟩
        · cases shown with
          | true => exact ⟨_, _, _, .displayed hpassed hclimbable hadd hbuild hlook⟩
          | false =>
            cases hreq : p.prerequisite with
            | none => exact ⟨_, _, _, .root hpassed hclimbable hadd hbuild hlook hreq⟩
            | some d' =>
              refine ih (hpassed.snoc hbuild hlook hreq) (hclimbable.snoc hadd hbuild) ?_
              rw [List.length_append, List.length_singleton]
              omega

namespace Navigator
variable (nav : Navigator)

theorem climb_onward {room : Nat} {chain : PathChain ρ} {shown : Bool} (m : Memory ρ)
    (hnew : chain.contains c = false) (hbuild : PageFamily.build c args = .ok p)
    (hlook : Dialogue.run b p.isDisplayed.run s = (.ok shown, s₁)) :
    (climb limit args (room + 1) chain (false, some c)).made nav b m s =
      ((climb limit args room (chain.push p) (p.seen shown)).made nav b
        (m.visited p args shown) s₁).after [⟨.look p, .ok shown⟩] := by
  simp [climb, hnew, hbuild, made_visit, Deed.carryOut_look, hlook]

theorem backtrace_begun {shown : Bool} (m : Memory ρ) (hbuild : PageFamily.build c args = .ok p)
    (hlook : Dialogue.run b p.isDisplayed.run s = (.ok shown, s₁)) :
    let limit := nav.settings.maxBacktraceDepth
    (nav.backtrace c args).made nav b m s =
      ((climb limit args (limit - 1) { target := p } (p.seen shown)).made nav b
        (m.visited p args shown) s₁).after [⟨.look p, .ok shown⟩] := by
  simp [backtrace, hbuild, made_visit, Deed.carryOut_look, hlook]

omit nav in
theorem climb_circle {room : Nat} {chain : PathChain ρ} (hin : chain.contains c = true) :
    climb limit args room chain (false, some c) =
      throw (.prerequisiteCycle (chain.names ++ [PageFamily.name c])) := by
  cases room <;> simp [climb, hin]

variable [LawfulPageFamily ρ]

/-- The climb goes past the pages that are hidden. -/
theorem climb_passed {room : Nat} (chain : PathChain ρ) (m : Memory ρ)
    (hpassed : Passed b args ps c s d s₁) (hroom : ps.length ≤ room)
    (hdistinct : (chain.pages ++ ps).Pairwise fun p q => PageFamily.same p.cls q.cls = false) :
    ∃ m', (climb limit args room chain (false, some c)).made nav b m s =
      ((climb limit args (room - ps.length) { chain with hops := ps.reverse ++ chain.hops }
        (false, some d)).made nav b m' s₁).after (glances ps) := by
  induction ps generalizing room chain c s m with
  | nil =>
    obtain ⟨rfl, rfl⟩ := hpassed
    exact ⟨m, rfl⟩
  | cons p ps ih =>
    obtain ⟨c₁, s', hbuild, hlook, hreq, hrest⟩ := hpassed
    have hnew : chain.contains c = false := by
      have hkey : PageFamily.key p.cls = PageFamily.key c := LawfulPageFamily.key_build hbuild
      have happart := (List.pairwise_append.1 hdistinct).2.2
      simpa [PathChain.contains, PageFamily.same, hkey] using
        fun q hq => happart q hq p List.mem_cons_self
    have hpushed : ((chain.push p).pages ++ ps).Pairwise
        fun p q => PageFamily.same p.cls q.cls = false := by
      rw [PathChain.pages_push, List.append_assoc]
      exact hdistinct
    have hseen : p.seen false = (false, some c₁) := by simp [Page.seen, hreq]
    cases room with
    | zero => simp at hroom
    | succ room =>
      obtain ⟨m', hmade⟩ := ih (chain.push p) (m.visited p args false) hrest
        (Nat.le_of_succ_le_succ hroom) hpushed
      refine ⟨m', ?_⟩
      rw [climb_onward nav m hnew hbuild hlook, hseen, hmade, List.reverse_cons, List.append_assoc,
        List.length_cons, Nat.add_sub_add_right]
      rfl

theorem backtrace_passed (m : Memory ρ) (hpassed : Passed b args (p :: ps) c s d s₁)
    (hclimbable : Climbable nav.settings.maxBacktraceDepth (p :: ps)) :
    let limit := nav.settings.maxBacktraceDepth
    ∃ m', (nav.backtrace c args).made nav b m s =
      ((climb limit args (limit - 1 - ps.length) { target := p, hops := ps.reverse }
        (false, some d)).made nav b m' s₁).after (glances (p :: ps)) := by
  obtain ⟨c₁, s', hbuild, hlook, hreq, hrest⟩ := hpassed
  have hroom : ps.length ≤ nav.settings.maxBacktraceDepth - 1 := by
    have hshort := hclimbable.short
    rw [List.length_cons] at hshort
    omega
  have hseen : p.seen false = (false, some c₁) := by simp [Page.seen, hreq]
  obtain ⟨m', hmade⟩ := climb_passed nav { target := p } (m.visited p args false) hrest hroom
    hclimbable.distinct
  refine ⟨m', ?_⟩
  rw [backtrace_begun nav m hbuild hlook, hseen, hmade, List.append_nil]
  rfl

/-- Past the hidden pages, the backtrace goes on with the class required last. -/
theorem backtrace_adds (m : Memory ρ) (hpassed : Passed b args ps c s d s₁)
    (hclimbable : Climbable nav.settings.maxBacktraceDepth ps)
    (hadd : Addable nav.settings.maxBacktraceDepth ps d) :
    ∃ room m', (nav.backtrace c args).made nav b m s =
      ((do
        let p ← Trip.orThrow (PageFamily.build d args)
        let seen ← visit p args
        climb nav.settings.maxBacktraceDepth args room (.of false p ps) seen).made nav b m'
          s₁).after (glances ps) := by
  cases ps with
  | nil =>
    obtain ⟨rfl, rfl⟩ := hpassed
    exact ⟨_, m, rfl⟩
  | cons q ps =>
    obtain ⟨m', hmade⟩ := backtrace_passed nav m hpassed hclimbable
    have hnew : PathChain.contains { target := q, hops := ps.reverse } d = false := by
      simpa [PathChain.contains, PathChain.pages] using hadd.new
    obtain ⟨room, hroom⟩ : ∃ room, nav.settings.maxBacktraceDepth - 1 - ps.length = room + 1 := by
      have hlt := hadd.room
      rw [List.length_cons] at hlt
      exact ⟨nav.settings.maxBacktraceDepth - 2 - ps.length, by omega⟩
    refine ⟨room, m', ?_⟩
    rw [hmade, hroom, climb, hnew]
    rfl

end Navigator

/-- What is surveyed is what comes of the backtrace. -/
theorem Surveyed.made [LawfulPageFamily ρ] {nav : Navigator} {hs : List (Done ρ)}
    {r : Except RouteError (PathChain ρ)} {s' : σ}
    (h : Surveyed nav.settings.maxBacktraceDepth b args c s hs r s') (m : Memory ρ) :
    ∃ m', (nav.backtrace c args).made nav b m s = ⟨r, m', hs, s'⟩ := by
  cases h with
  | @displayed ps d s₁ p s₂ hpassed hclimbable hadd hbuild hlook =>
    obtain ⟨room, m', hmade⟩ := nav.backtrace_adds m hpassed hclimbable hadd
    refine ⟨m'.visited p args true, ?_⟩
    rw [hmade]
    simp [hbuild, Navigator.made_visit, Deed.carryOut_look, hlook, Page.seen, Navigator.climb,
      PathChain.anchor_of]
  | @root ps d s₁ p s₂ hpassed hclimbable hadd hbuild hlook hroot =>
    obtain ⟨room, m', hmade⟩ := nav.backtrace_adds m hpassed hclimbable hadd
    refine ⟨m'.visited p args false, ?_⟩
    rw [hmade]
    simp [hbuild, Navigator.made_visit, Deed.carryOut_look, hlook, Page.seen, hroot,
      Navigator.climb, PathChain.anchor_of]
  | @circle ps d s₁ hpassed hclimbable hin =>
    obtain _ | ⟨q, ps⟩ := ps
    · simp at hin
    · obtain ⟨m', hmade⟩ := nav.backtrace_passed m hpassed hclimbable
      have hcircle : PathChain.contains { target := q, hops := ps.reverse } d = true := by
        simpa [PathChain.contains, PathChain.pages] using hin
      refine ⟨m', ?_⟩
      rw [hmade, Navigator.climb_circle hcircle]
      simp [PathChain.names, PathChain.pages]
  | @tooDeep ps d s₁ hpassed hclimbable hsome hnew hfull =>
    obtain _ | ⟨q, ps⟩ := ps
    · exact absurd rfl hsome
    · obtain ⟨m', hmade⟩ := nav.backtrace_passed m hpassed hclimbable
      have hfresh : PathChain.contains { target := q, hops := ps.reverse } d = false := by
        simpa [PathChain.contains, PathChain.pages] using hnew
      have hroom : nav.settings.maxBacktraceDepth - 1 - ps.length = 0 := by
        rw [List.length_cons] at hfull
        omega
      refine ⟨m', ?_⟩
      rw [hmade, hroom, Navigator.climb, hfresh]
      simp [PathChain.names, PathChain.pages]
  | @unbuilt ps d _ e hpassed hclimbable hadd hbuild =>
    obtain ⟨room, m', hmade⟩ := nav.backtrace_adds m hpassed hclimbable hadd
    refine ⟨m', ?_⟩
    rw [hmade]
    simp [hbuild]
  | @unseen ps d s₁ p e s₂ hpassed hclimbable hadd hbuild hlook =>
    obtain ⟨room, m', hmade⟩ := nav.backtrace_adds m hpassed hclimbable hadd
    refine ⟨m', ?_⟩
    rw [hmade]
    simp [hbuild, Navigator.made_visit, Deed.carryOut_look, hlook]

theorem Surveyed.length_le {hs : List (Done ρ)} {r : Except RouteError (PathChain ρ)} {s' : σ}
    (h : Surveyed limit b args c s hs r s') : hs.length ≤ max limit 1 := by
  cases h with
  | displayed _ _ hadd | root _ _ hadd | unseen _ _ hadd => simpa [glances] using hadd.room
  | circle _ hclimbable | tooDeep _ hclimbable | unbuilt _ hclimbable =>
    simpa [glances] using hclimbable.short

theorem Surveyed.climbable [LawfulPageFamily ρ] {hs : List (Done ρ)} {chain : PathChain ρ}
    {s' : σ} (h : Surveyed limit b args c s hs (.ok chain) s') : Climbable limit chain.pages := by
  cases h with
  | displayed _ hclimbable hadd hbuild | root _ hclimbable hadd hbuild =>
    rw [PathChain.pages_of]
    exact hclimbable.snoc hadd hbuild

/-- A backtrace ends in exactly one way. It looks at each page once, and gathers no class twice and
no more pages than the limit allows. -/
theorem backtrace_surveys [LawfulPageFamily ρ] (nav : Navigator) (b : Browser σ) (c : ρ)
    (args : Args) (m : Memory ρ) (s : σ) :
    let limit := nav.settings.maxBacktraceDepth
    let o := (nav.backtrace c args).made nav b m s
    (∀ hs r s', Surveyed limit b args c s hs r s' ↔
      o.history = hs ∧ o.result = r ∧ o.state = s') ∧
    o.history.length ≤ max limit 1 ∧
    ∀ chain, o.result = .ok chain → Climbable limit chain.pages := by
  intro limit o
  have hbegun : Passed b args [] c s c s := ⟨rfl, rfl⟩
  obtain ⟨hs, r, s', hsurveyed⟩ := hbegun.surveyed (.nil : Climbable limit [])
  obtain ⟨m', hmade⟩ := hsurveyed.made m
  have ho : o = ⟨r, m', hs, s'⟩ := hmade
  rw [ho]
  refine ⟨fun hs' r' s'' => ⟨fun h => ?_, ?_⟩, hsurveyed.length_le, ?_⟩
  · obtain ⟨m'', hmade'⟩ := h.made m
    rw [hmade] at hmade'
    cases hmade'
    exact ⟨rfl, rfl, rfl⟩
  · rintro ⟨rfl, rfl, rfl⟩
    exact hsurveyed
  · rintro chain rfl
    exact hsurveyed.climbable

theorem attic_surveyed :
    let o := (({} : Navigator).backtrace House.attic ∅).made {} House.lamp {} "#hall"
    o.history = [⟨.look House.atticPage, .ok false⟩, ⟨.look House.hallPage, .ok true⟩] ∧
      o.result = .ok { target := House.atticPage, hops := [House.hallPage], anchored := true } ∧
      o.state = "#hall" := by
  have hpassed : Passed House.lamp ∅ [House.atticPage] House.attic "#hall" House.hall "#hall" :=
    ⟨House.hall, "#hall", House.build_attic, House.run_isDisplayed_attic "#hall",
      House.prerequisite_attic, rfl, rfl⟩
  have hclimbable : Climbable 32 [House.atticPage] := ⟨List.pairwise_singleton _ _, by decide⟩
  have hadd : Addable 32 [House.atticPage] House.hall :=
    ⟨List.forall_mem_singleton.2 (by decide), by decide⟩
  exact ((backtrace_surveys {} House.lamp House.attic ∅ {} "#hall").1 _ _ _).1
    (.displayed hpassed hclimbable hadd House.build_hall (House.run_isDisplayed_hall "#hall"))

end Wayfinder
