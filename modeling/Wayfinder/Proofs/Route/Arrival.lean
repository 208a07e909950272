import Wayfinder.Proofs.Route.Turns
import Wayfinder.Proofs.Site.Lineage

/-! Navigation on a site that behaves: checks only look, and a step from a page that is displayed
displays the page to which it leads. The backtrace then stops at the first page of the lineage that
is displayed, and the walk comes back down to the target, one hop for each page passed. -/
namespace Wayfinder
variable {ρ σ : Type}

namespace Page

def DisplayedIn (p : Page ρ) (b : Browser σ) (s : σ) : Prop :=
  (Dialogue.run b p.isDisplayed.run s).1 = .ok true

/-- Looking whether the page is displayed does not fail and leaves the browser as it is. -/
def OnlyLooks (p : Page ρ) (b : Browser σ) : Prop :=
  ∀ s, ∃ shown, Dialogue.run b p.isDisplayed.run s = (.ok shown, s)

end Page

def Done.hop? : Done ρ → Option (Page ρ × Page ρ)
  | ⟨.hop p dest _, _⟩ => some (p, dest)
  | _ => none

structure FirstDisplayed (b : Browser σ) (s : σ) (ps : List (Page ρ)) (i : Nat) : Prop where
  displayed : ∃ p, ps[i]? = some p ∧ p.DisplayedIn b s
  hidden : ∀ j p, j < i → ps[j]? = some p → ¬p.DisplayedIn b s

namespace FirstDisplayed
variable {b : Browser σ} {s : σ} {p : Page ρ} {ps : List (Page ρ)} {i : Nat}

theorem head (h : FirstDisplayed b s (p :: ps) 0) : p.DisplayedIn b s := by
  obtain ⟨q, hq, hshown⟩ := h.displayed
  cases hq
  exact hshown

theorem head_hidden (h : FirstDisplayed b s (p :: ps) (i + 1)) : ¬p.DisplayedIn b s :=
  h.hidden 0 p (Nat.succ_pos i) rfl

theorem tail (h : FirstDisplayed b s (p :: ps) (i + 1)) : FirstDisplayed b s ps i where
  displayed := h.displayed
  hidden j q hj hq := h.hidden (j + 1) q (Nat.succ_lt_succ hj) hq

end FirstDisplayed

variable [PageFamily ρ] {nav : Navigator} {b : Browser σ} {args : Args} {m : Memory ρ} {s : σ}

theorem carryOut_look_of_displayed {p : Page ρ} (hlook : p.OnlyLooks b) (hp : p.DisplayedIn b s) :
    (Deed.look p).carryOut nav b s = (.ok true, s) := by
  obtain ⟨shown, hrun⟩ := hlook s
  rw [Page.DisplayedIn, hrun] at hp
  cases hp
  exact Deed.carryOut_look_of_run nav hrun

theorem carryOut_look_of_hidden {p : Page ρ} (hlook : p.OnlyLooks b) (hp : ¬p.DisplayedIn b s) :
    (Deed.look p).carryOut nav b s = (.ok false, s) := by
  obtain ⟨shown, hrun⟩ := hlook s
  rw [Page.DisplayedIn, hrun] at hp
  cases shown with
  | true => exact absurd rfl hp
  | false => exact Deed.carryOut_look_of_run nav hrun

/-- From each of the first pages of the list, but the head, the default rules find a step that
displays the page before it, whatever else the browser shows. -/
def StepsDown (b : Browser σ) (args : Args) (ps : List (Page ρ)) (i : Nat) : Prop :=
  ∀ j p q s, j < i → ps[j + 1]? = some p → ps[j]? = some q → p.DisplayedIn b s →
    ∃ taken s', Dialogue.run b (p.steps.dispatch Rule.inOrder q args).run s = (.ok taken, s') ∧
      q.DisplayedIn b s'

theorem StepsDown.of_le {ps : List (Page ρ)} {i k : Nat} (h : StepsDown b args ps i) (hk : k ≤ i) :
    StepsDown b args ps k :=
  fun j p q s hj => h j p q s (Nat.lt_of_lt_of_le hj hk)

/-- A look at the first page tells whether the search ends there. -/
theorem FirstDisplayed.carryOut_look {p : Page ρ} {ps : List (Page ρ)} {i : Nat}
    (h : FirstDisplayed b s (p :: ps) i) (nav : Navigator) (hlook : p.OnlyLooks b) :
    (Deed.look p).carryOut nav b s = (.ok (i == 0), s) := by
  cases i with
  | zero => exact carryOut_look_of_displayed hlook h.head
  | succ i => exact carryOut_look_of_hidden hlook h.head_hidden

namespace Navigator

/-- The climb pushes the pages passed and stops at the one displayed. Each page on the way up is
new to the chain and finds room in it. -/
theorem climb_finds (nav : Navigator) (limit : Nat) (chain : PathChain ρ) (m : Memory ρ)
    {room i : Nat} {p : Page ρ} {rest : List (Page ρ)}
    (hlineage : Lineage args (p :: rest)) (hroom : rest.length ≤ room)
    (hdistinct : (chain.pages ++ rest).Pairwise fun q r => PageFamily.same q.cls r.cls = false)
    (hlook : ∀ q ∈ rest, q.OnlyLooks b) (hfirst : FirstDisplayed b s (p :: rest) i) :
    ∃ m' hs, (climb limit args room chain (p.seen (i == 0))).made nav b m s =
      ⟨.ok { chain with hops := (rest.take i).reverse ++ chain.hops, anchored := true }, m', hs,
        s⟩ := by
  induction i generalizing room chain p rest m with
  | zero =>
    refine ⟨m, [], ?_⟩
    cases room <;> simp [climb, Page.seen]
  | succ i ih =>
    cases rest with
    | nil =>
      obtain ⟨q, hq, -⟩ := hfirst.displayed
      simp at hq
    | cons q rest =>
      obtain ⟨-, hreq, hrest⟩ := hlineage
      have hbuild : PageFamily.build q.cls args = .ok q := hrest.built q (by simp)
      have hnew : chain.contains q.cls = false := by
        have happart := (List.pairwise_append.1 hdistinct).2.2
        simpa [PathChain.contains] using fun r hr => happart r hr q (by simp)
      have hlooked := hfirst.tail.carryOut_look nav (hlook q (by simp))
      -- For the longer chain this is the same list, so distinctness goes through as it stands.
      have hpushed : ((chain.push q).pages ++ rest).Pairwise
          fun q r => PageFamily.same q.cls r.cls = false := by
        rw [PathChain.pages_push, List.append_assoc]
        exact hdistinct
      cases room with
      | zero => simp at hroom
      | succ room =>
        obtain ⟨m', hs, hmade⟩ := ih (chain.push q) (m.visited q args (i == 0)) hrest
          (Nat.le_of_succ_le_succ hroom) hpushed (fun r hr => hlook r (by simp [hr])) hfirst.tail
        have hseen : p.seen (i + 1 == 0) = (false, some q.cls) := by simp [Page.seen, hreq]
        refine ⟨m', ⟨.look q, .ok (i == 0)⟩ :: hs, ?_⟩
        rw [hseen]
        simp [climb, hnew, hbuild, made_visit, hlooked, hmade]

theorem backtrace_finds {i : Nat} {target : Page ρ} {rest : List (Page ρ)}
    (hlineage : Lineage args (target :: rest))
    (hdepth : rest.length + 1 ≤ nav.settings.maxBacktraceDepth)
    (hdistinct : (target :: rest).Pairwise fun q r => PageFamily.same q.cls r.cls = false)
    (hlook : ∀ q ∈ target :: rest, q.OnlyLooks b) (hfirst : FirstDisplayed b s (target :: rest) i) :
    ∃ m' hs, (nav.backtrace target.cls args).made nav b m s =
      ⟨.ok { target, hops := (rest.take i).reverse, anchored := true }, m', hs, s⟩ := by
  have hbuild : PageFamily.build target.cls args = .ok target := hlineage.built target (by simp)
  have hlooked := hfirst.carryOut_look nav (hlook target (by simp))
  have hroom : rest.length ≤ nav.settings.maxBacktraceDepth - 1 := by omega
  obtain ⟨m', hs, hmade⟩ := climb_finds nav nav.settings.maxBacktraceDepth { target }
    (m.visited target args (i == 0)) hlineage hroom hdistinct
    (fun q hq => hlook q (List.mem_cons_of_mem target hq)) hfirst
  refine ⟨m', ⟨.look target, .ok (i == 0)⟩ :: hs, ?_⟩
  simp [backtrace, hbuild, made_visit, hlooked, hmade]

/-- The walk goes down the list from a page that is displayed, one hop for each page on the way. -/
theorem walk_arrives {ps : List (Page ρ)} {i : Nat} {p target : Page ρ}
    (hrules : nav.rules = Rule.inOrder) (harrive : ∀ q ∈ ps, q.arrive = pure q.notes)
    (hsteps : StepsDown b args ps i) (hp : ps[i]? = some p) (htarget : ps[0]? = some target)
    (hshown : p.DisplayedIn b s) :
    ∃ m' hs s', (walk args p (ps.take i).reverse).made nav b m s = ⟨.ok target, m', hs, s'⟩ ∧
      target.DisplayedIn b s' ∧ m'.lastPath = m.lastPath ∧
      hs.filterMap Done.hop? = (p :: (ps.take i).reverse).zip (ps.take i).reverse := by
  -- On the place: the first hop leads from it to the place below, where the induction goes on.
  induction i generalizing p m s with
  | zero =>
    rw [hp] at htarget
    cases htarget
    exact ⟨m, [], s, rfl, hshown, rfl, rfl⟩
  | succ i ih =>
    have hlength : i + 1 < ps.length := (List.getElem?_eq_some_iff.1 hp).1
    obtain ⟨q, hq⟩ : ∃ q, ps[i]? = some q := ⟨ps[i], List.getElem?_eq_getElem _⟩
    have htake : (ps.take (i + 1)).reverse = q :: (ps.take i).reverse := by
      simp [List.take_add_one, hq]
    obtain ⟨taken, s₁, hrun, hreached⟩ := hsteps i p q s (Nat.lt_succ_self i) hp hq hshown
    have hhop : (Deed.hop p q args).carryOut nav b s = (.ok taken, s₁) := by
      rw [Deed.carryOut, Deed.attempt, hrules]
      exact hrun
    have hnotes : (Deed.arrive q).carryOut nav b s₁ = (.ok q.notes, s₁) := by
      rw [Deed.carryOut, Deed.attempt, harrive q (List.mem_of_getElem? hq)]
      rfl
    obtain ⟨m', hs, s', hmade, htarget', hpath, hhops⟩ :=
      ih (m := (m.stepped p q taken).remember q.cls args)
        (hsteps.of_le (Nat.le_succ i)) hq hreached
    refine ⟨m', ⟨.hop p q args, .ok taken⟩ :: ⟨.arrive q, .ok q.notes⟩ :: hs, s', ?_,
      htarget', hpath, ?_⟩
    · rw [htake]
      simp [walk, made_advance, hhop, hnotes, hmade]
    · rw [htake, List.zip_cons_cons, ← hhops]
      rfl

theorem navigation_arrives {target : Page ρ} {above : List (Page ρ)} {i : Nat}
    (hrules : nav.rules = Rule.inOrder) (hlineage : Lineage args (target :: above))
    (hdepth : above.length + 1 ≤ nav.settings.maxBacktraceDepth)
    (hdistinct : (target :: above).Pairwise fun q r => PageFamily.same q.cls r.cls = false)
    (hlook : ∀ p ∈ target :: above, p.OnlyLooks b)
    (harrive : ∀ p ∈ target :: above, p.arrive = pure p.notes)
    (hfirst : FirstDisplayed b s (target :: above) i)
    (hsteps : StepsDown b args (target :: above) i) :
    let path := (target :: above).take (i + 1)
    ∃ m' hs s', (nav.navigation target.cls args).made nav b m s = ⟨.ok target, m', hs, s'⟩ ∧
      target.DisplayedIn b s' ∧ m'.lastPath = path.map Page.name ∧
      hs.filterMap Done.hop? = path.reverse.zip path.reverse.tail := by
  let chain : PathChain ρ := { target, hops := (above.take i).reverse, anchored := true }
  obtain ⟨m₁, hs₁, hback⟩ := backtrace_finds (m := m.next) hlineage hdepth hdistinct hlook hfirst
  obtain ⟨anchor, hanchor, hshown⟩ := hfirst.displayed
  have hpages : chain.pages = (target :: above).take (i + 1) := by simp [chain, PathChain.pages]
  -- What the backtrace pushed last is popped first: the walk goes down the path read backwards.
  have hforward : chain.top :: chain.forward.2 = anchor :: ((target :: above).take i).reverse := by
    rw [chain.top_cons_forward, hpages, List.take_add_one, hanchor]
    simp
  obtain ⟨htop, hrest⟩ := List.cons_eq_cons.1 hforward
  obtain ⟨m', hs₂, s', hwalk, htarget, hpath, hhops⟩ := walk_arrives (m := m₁.along chain.names)
    hrules harrive hsteps hanchor rfl hshown
  have hquiet : hs₁.filterMap Done.hop? = [] := by
    have haccount := nav.backtraced_backtrace b target.cls args m.next s
    rw [hback] at haccount
    refine List.filterMap_eq_nil_iff.2 fun x hx => ?_
    obtain ⟨p, o, rfl⟩ := haccount.look_of_mem x hx
    rfl
  have hreplay : replay args chain = walk args anchor ((target :: above).take i).reverse := by
    rw [← htop, ← hrest]
    rfl
  refine ⟨m', hs₁ ++ hs₂, s', ?_, htarget, ?_, ?_⟩
  · rw [made_navigation, hback, Made.andThen_ok, hreplay, hwalk, Made.after_mk]
  · rw [hpath, ← hpages]
    rfl
  · rw [List.filterMap_append, hquiet, List.nil_append, hhops, ← hpages, ← chain.top_cons_forward,
      hforward]
    rfl

end Navigator

/-- On a site map, whatever is remembered: when some page of the lineage of `t` is displayed and
each page before it is reached by the step that the default rules choose, navigation takes exactly
these steps and ends on `t`, which is then displayed. -/
theorem navigate_arrives (site : SiteMap) (t : String) (nav : Navigator) (b : Browser σ)
    (args : Args) (target : Page SitePage) (above : List (Page SitePage)) (i : Nat)
    (m : Memory SitePage) (s : σ) (hrules : nav.rules = Rule.inOrder)
    (hclass : site.class? t = some target.cls) (hlineage : Lineage args (target :: above))
    (hdepth : above.length + 1 ≤ nav.settings.maxBacktraceDepth)
    (hlook : ∀ p ∈ target :: above, p.OnlyLooks b)
    (hfirst : FirstDisplayed b s (target :: above) i)
    (hsteps : StepsDown b args (target :: above) i) :
    let path := (target :: above).take (i + 1)
    let e := (Turn.navigate target.cls args).take nav b m s
    e.result = .ok (some target) ∧ target.name = t ∧
      Template.render target.cls.decl.path args = .ok target.path ∧
      target.DisplayedIn b e.finish ∧
      e.history.filterMap Done.hop? = path.reverse.zip path.reverse.tail ∧
      (e.history.filterMap Done.hop?).length = i ∧ e.after.lastPath = path.map Page.name := by
  have hlisted := SitePage.listed_of_class? hclass
  have harrive : ∀ p ∈ target :: above, p.arrive = pure p.notes := by
    intro p hp
    obtain ⟨path, -, hpage⟩ := SitePage.eq_page_of_build (hlineage.built p hp)
    rw [hpage]
    rfl
  obtain ⟨m', hs, s', hmade, htarget, hpath, hhops⟩ := Navigator.navigation_arrives (m := m) hrules
    hlineage hdepth (hlineage.pairwise hlisted) hlook harrive hfirst hsteps
  have hplay := Trip.made_play nav b m s (nav.navigation target.cls args)
  simp only [Turn.take, Navigator.navigate, hplay, hmade]
  refine ⟨rfl, ?_, ?_, htarget, hhops, ?_, hpath⟩
  · exact (SiteMap.class?_eq_some hclass).1
  · obtain ⟨path, hrender, hpage⟩ := SitePage.eq_page_of_build (hlineage.built target (by simp))
    rw [hrender, hpage]
    rfl
  · have hlength : i < (target :: above).length := by
      obtain ⟨p, hp, -⟩ := hfirst.displayed
      exact (List.getElem?_eq_some_iff.1 hp).1
    rw [hhops, List.length_zip, List.length_tail, List.length_reverse, List.length_take]
    omega

theorem attic_reached_from_hall :
    let e := (Turn.navigate House.attic ∅).take {} House.lamp {} "#hall"
    e.result = .ok (some House.atticPage) ∧ House.atticPage.DisplayedIn House.lamp e.finish ∧
      e.history.filterMap Done.hop? = [(House.hallPage, House.atticPage)] ∧
      e.after.lastPath = ["Attic", "Hall"] := by
  have hlineage : Lineage ∅ [House.atticPage, House.hallPage] :=
    ⟨House.build_attic, House.prerequisite_attic, House.build_hall, House.prerequisite_hall⟩
  have hlook : ∀ p ∈ [House.atticPage, House.hallPage], p.OnlyLooks House.lamp := by
    intro p hp s
    simp only [List.mem_cons, List.not_mem_nil, or_false] at hp
    obtain rfl | rfl := hp
    · exact ⟨_, House.run_isDisplayed_attic s⟩
    · exact ⟨_, House.run_isDisplayed_hall s⟩
  have hfirst : FirstDisplayed House.lamp "#hall" [House.atticPage, House.hallPage] 1 := by
    refine ⟨⟨House.hallPage, rfl, ?_⟩, fun j p hj hp => ?_⟩
    · rw [Page.DisplayedIn, House.run_isDisplayed_hall]
      rfl
    · have hj : j = 0 := by omega
      subst hj
      cases hp
      rw [Page.DisplayedIn, House.run_isDisplayed_attic]
      nofun
  have hsteps : StepsDown House.lamp ∅ [House.atticPage, House.hallPage] 1 := by
    intro j p q s hj hp hq _
    have hj : j = 0 := by omega
    subst hj
    cases hp
    cases hq
    refine ⟨_, _, House.run_dispatch s, ?_⟩
    rw [Page.DisplayedIn, House.run_isDisplayed_attic]
    rfl
  obtain ⟨hresult, -, -, hshown, hhops, -, hpath⟩ := navigate_arrives House.site "Attic" {}
    House.lamp ∅ House.atticPage [House.hallPage] 1 {} "#hall" rfl House.class?_attic hlineage
    (by decide) hlook hfirst hsteps
  rw [House.cls_attic] at hresult hshown hhops hpath
  exact ⟨hresult, hshown, hhops, hpath⟩

end Wayfinder
