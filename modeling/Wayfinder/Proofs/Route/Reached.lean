import Wayfinder.Proofs.Route.Account

/-! What a navigation gives back when it goes well. Wherever it starts, the page reached is of the
class that was asked for; the page opened is of the class that was given, if one was. -/
namespace Wayfinder
variable {ρ σ : Type} [PageFamily ρ] {args : Args} {m m' : Memory ρ} {hs : List (Done ρ)}

/-- A walk ends with its last page, which may have noted something down. -/
theorem Walked.reached {p : Page ρ} {rest : List (Page ρ)} {r : Except RouteError (Page ρ)}
    (h : Walked args p rest m hs r m') {q : Page ρ} (hr : r = .ok q) :
    ((p :: rest).map Page.cls).getLast? = some q.cls := by
  induction h with
  | here =>
    cases hr
    rfl
  | stuck | unarrived => cases hr
  | onward _ ih => simpa using ih hr

theorem Climbed.target {limit room : Nat} {chain chain' : PathChain ρ} {shown : Bool}
    {r : Except RouteError (PathChain ρ)} (h : Climbed limit args room chain shown m hs r m')
    (hr : r = .ok chain') : chain'.target = chain.target := by
  induction h with
  | displayed | root =>
    cases hr
    rfl
  | circle | tooDeep | unbuilt | unseen => cases hr
  | onward _ _ _ _ ih => exact ih hr

theorem Backtraced.target {nav : Navigator} {c : ρ} {chain : PathChain ρ}
    (h : Backtraced nav c args m hs (.ok chain) m') :
    PageFamily.build c args = .ok chain.target := by
  cases h with
  | begun hbuild hrest => rw [hrest.target rfl, hbuild]

theorem Replayed.reached {chain : PathChain ρ} {q : Page ρ}
    (h : Replayed args chain m hs (.ok q) m') : q.cls = chain.target.cls := by
  have hlast : ((chain.top :: chain.forward.2).map Page.cls).getLast? = some chain.target.cls := by
    rw [chain.top_cons_forward]
    simp [PathChain.pages]
  cases h with
  | anchored _ hwalk => exact Option.some.inj ((hwalk.reached rfl).symm.trans hlast)
  | remembered _ _ hwalk =>
    have hcons := hwalk.reached rfl
    rw [List.map_cons, List.map_cons, List.getLast?_cons_cons, ← List.map_cons] at hcons
    exact Option.some.inj (hcons.symm.trans hlast)

variable [LawfulPageFamily ρ]

theorem PageFamily.name_of_build {c : ρ} {p : Page ρ} (h : build c args = .ok p) :
    p.name = name c :=
  congrArg ClassKey.name (LawfulPageFamily.key_build h)

theorem Navigated.name_eq {nav : Navigator} {c : ρ} {q : Page ρ}
    (h : Navigated nav c args m hs (.ok q) m') : q.name = PageFamily.name c := by
  cases h with
  | found hback hreplay =>
    rw [Page.name, hreplay.reached]
    exact PageFamily.name_of_build hback.target

theorem Opened.name_eq {c : Option ρ} {url : Option String} {q : Option (Page ρ)}
    (h : Opened args m c url hs (.ok q) m') : q.map Page.name = c.map PageFamily.name := by
  cases h with
  | url => rfl
  | page hbuild =>
    have hname := PageFamily.name_of_build hbuild
    exact congrArg some hname

end Wayfinder
