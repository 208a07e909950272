import Wayfinder.Proofs.Route.Turns

/-! Where a navigation steps from. Its first hop starts on a page that the deed just before has
found displayed; every later one starts on the page that the hop before it has led to, once that
page has arrived. A trip speaks with the browser only in its deeds, so nothing comes between two
that are neighbours in a history. -/
namespace Wayfinder
variable {ρ σ : Type}

namespace Done

def Shows (x : Done ρ) (p : Page ρ) : Prop :=
  x = ⟨.look p, .ok true⟩ ∨ x = ⟨.recheck p, .ok true⟩

def IsHop (x : Done ρ) : Prop := ∃ p dest args r, x = ⟨.hop p dest args, r⟩

theorem not_isHop_of_shows {x : Done ρ} {p : Page ρ} (h : x.Shows p) : ¬x.IsHop := by
  rintro ⟨q, dest, args, r, rfl⟩
  rcases h with h | h <;> cases h

theorem not_isHop {x : Done ρ} (h : ∀ p dest args, x.question ≠ .hop p dest args) : ¬x.IsHop := by
  rintro ⟨p, dest, args, r, rfl⟩
  exact h p dest args rfl

theorem not_isHop_look (p : Page ρ) (r : Except RouteError Bool) :
    ¬Done.IsHop (⟨.look p, r⟩ : Done ρ) := not_isHop nofun

theorem not_isHop_arrive (p : Page ρ) (r : Except RouteError Notes) :
    ¬Done.IsHop (⟨.arrive p, r⟩ : Done ρ) := not_isHop nofun

theorem not_isHop_recall (shown : Option (ρ × Args)) (r : Except RouteError (Option (Page ρ))) :
    ¬Done.IsHop (⟨.recall shown, r⟩ : Done ρ) := not_isHop nofun

theorem not_isHop_recheck (p : Page ρ) (r : Except RouteError Bool) :
    ¬Done.IsHop (⟨.recheck p, r⟩ : Done ρ) := not_isHop nofun

theorem not_shows_recall (d : Option (ρ × Args)) (r : Except RouteError (Option (Page ρ)))
    (p : Page ρ) : ¬Done.Shows ⟨.recall d, r⟩ p := by
  rintro (h | h) <;> cases h

theorem not_shows_recheck (q p : Page ρ) : ¬Done.Shows ⟨.recheck q, .ok false⟩ p := by
  rintro (h | h) <;> cases h

theorem no_hop_concat {hs : List (Done ρ)} {x : Done ρ} (h : ∀ y ∈ hs, ¬y.IsHop)
    (hx : ¬x.IsHop) : ∀ y ∈ hs ++ [x], ¬y.IsHop :=
  List.forall_mem_append.2 ⟨h, by simpa using hx⟩

theorem no_hop_nil : ∀ x ∈ ([] : List (Done ρ)), ¬x.IsHop := by simp

end Done
open Done

/-- After these deeds a step may be taken from the page. -/
inductive Footing (p : Page ρ) : List (Done ρ) → Prop
  | shown {earlier x} (hno : ∀ y ∈ earlier, ¬y.IsHop) (hx : x.Shows p) :
      Footing p (earlier ++ [x])
  | reached {earlier q dest args taken notes} (hp : p = { dest with notes }) :
      Footing p (earlier ++ [⟨.hop q dest args, .ok taken⟩, ⟨.arrive dest, .ok notes⟩])

def Footed (before : List (Done ρ)) : List (Done ρ) → Prop
  | [] => True
  | x :: rest =>
    (∀ p dest args r, x = ⟨.hop p dest args, r⟩ → Footing p before) ∧ Footed (before ++ [x]) rest

theorem footed_append {before hs hs' : List (Done ρ)} :
    Footed before (hs ++ hs') ↔ Footed before hs ∧ Footed (before ++ hs) hs' := by
  induction hs generalizing before with
  | nil => simp [Footed]
  | cons x hs ih => simp [Footed, ih, and_assoc]

theorem footed_hop {before hs : List (Done ρ)} {p dest : Page ρ} {args : Args}
    {r : Except RouteError Taken} (hp : Footing p before)
    (hrest : Footed (before ++ [⟨.hop p dest args, r⟩]) hs) :
    Footed before (⟨.hop p dest args, r⟩ :: hs) := by
  refine ⟨fun q dest' args' r' he => ?_, hrest⟩
  cases he
  exact hp

theorem footed_cons {before hs : List (Done ρ)} {x : Done ρ} (hx : ¬x.IsHop)
    (hrest : Footed (before ++ [x]) hs) : Footed before (x :: hs) :=
  ⟨fun p dest args r he => absurd ⟨p, dest, args, r, he⟩ hx, hrest⟩

theorem footed_of_no_hop {before hs : List (Done ρ)} (hno : ∀ x ∈ hs, ¬x.IsHop) :
    Footed before hs := by
  induction hs generalizing before with
  | nil => trivial
  | cons x hs ih =>
    obtain ⟨hx, hhs⟩ := List.forall_mem_cons.1 hno
    exact footed_cons hx (ih hhs)

theorem footing_of_split {pre post : List (Done ρ)} {p dest : Page ρ} {args : Args}
    {r : Except RouteError Taken}
    (h : Footed [] (pre ++ (⟨.hop p dest args, r⟩ : Done ρ) :: post)) : Footing p pre := by
  have hrest := (footed_append.1 h).2
  exact hrest.1 p dest args r rfl

/-- Without a page found displayed there is no first hop, hence none. -/
theorem no_hop_of_footed {before hs : List (Done ρ)} (h : Footed before hs)
    (hbefore : ∀ x ∈ before, ¬x.IsHop) (hdark : ∀ x ∈ before ++ hs, ∀ p, ¬x.Shows p) :
    ∀ x ∈ hs, ¬x.IsHop := by
  induction hs generalizing before with
  | nil => simp
  | cons x hs ih =>
    have hx : ¬x.IsHop := by
      rintro ⟨p, dest, args, r, rfl⟩
      -- Its footing is a page shown before it or a hop before it, and there is neither.
      cases h.1 p dest args r rfl with
      | shown hno hy => exact hdark _ (by simp) p hy
      | @reached _ q d a taken _ hp =>
        exact hbefore ⟨.hop q d a, .ok taken⟩ (by simp) ⟨q, d, a, .ok taken, rfl⟩
    have hrest := ih h.2 (no_hop_concat hbefore hx) (by simpa using hdark)
    exact List.forall_mem_cons.2 ⟨hx, hrest⟩

theorem loaded_no_hop (url : Option String) (p : Option (Page ρ)) :
    ∀ x ∈ loaded url p, ¬x.IsHop := by
  cases url with
  | none =>
    cases p with
    | none => exact no_hop_nil
    | some p => exact no_hop_concat no_hop_nil (not_isHop nofun)
  | some url => exact no_hop_concat no_hop_nil (not_isHop nofun)

variable [PageFamily ρ]
variable {nav : Navigator} {args : Args} {m m' : Memory ρ} {hs : List (Done ρ)}

theorem Walked.footed {p : Page ρ} {rest : List (Page ρ)} {r : Except RouteError (Page ρ)}
    (h : Walked args p rest m hs r m') {before : List (Done ρ)} (hp : Footing p before) :
    Footed before hs := by
  induction h generalizing before with
  | here => trivial
  | stuck => exact footed_hop hp trivial
  | unarrived => exact footed_hop hp (footed_cons (not_isHop_arrive _ _) trivial)
  | onward hrest ih =>
    refine footed_hop hp (footed_cons (not_isHop_arrive _ _) (ih ?_))
    simpa using Footing.reached rfl

/-- The last look of a backtrace shows the page on which an anchored chain ends. -/
theorem Climbed.footing {limit room : Nat} {chain chain' : PathChain ρ} {shown : Bool}
    {r : Except RouteError (PathChain ρ)} (h : Climbed limit args room chain shown m hs r m')
    (hr : r = .ok chain') (hanchor : chain'.anchored = true) {before : List (Done ρ)}
    (hno : ∀ x ∈ before, ¬x.IsHop) :
    Footing chain'.top (before ++ ⟨.look chain.top, .ok shown⟩ :: hs) := by
  induction h generalizing before with
  | displayed =>
    cases hr
    exact .shown hno (.inl rfl)
  | root =>
    cases hr
    cases hanchor
  | circle | tooDeep | unbuilt | unseen => cases hr
  | @onward room chain m c p shown hs r m' _ _ _ _ ih =>
    simpa using ih hr (no_hop_concat hno (not_isHop_look chain.top (.ok false)))

theorem Backtraced.no_hop {c : ρ} {r : Except RouteError (PathChain ρ)}
    (h : Backtraced nav c args m hs r m') : ∀ x ∈ hs, ¬x.IsHop := by
  intro x hx
  obtain ⟨p, o, rfl⟩ := h.look_of_mem x hx
  exact not_isHop_look p o

theorem Backtraced.footing {c : ρ} {chain : PathChain ρ}
    (h : Backtraced nav c args m hs (.ok chain) m') (hanchor : chain.anchored = true) :
    Footing chain.top hs := by
  cases h with
  | begun _ hrest => exact hrest.footing rfl hanchor no_hop_nil

theorem Replayed.footed {chain : PathChain ρ} {r : Except RouteError (Page ρ)}
    (h : Replayed args chain m hs r m') {before : List (Done ρ)} (hno : ∀ x ∈ before, ¬x.IsHop)
    (htop : chain.anchored = true → Footing chain.top before) : Footed before hs := by
  cases h with
  | anchored hanchor hwalk => exact hwalk.footed (htop hanchor)
  | unbuilt | blank => exact footed_cons (not_isHop_recall _ _) trivial
  | unseen | gone =>
    exact footed_cons (not_isHop_recall _ _) (footed_cons (not_isHop_recheck _ _) trivial)
  | remembered _ _ hwalk =>
    refine footed_cons (not_isHop_recall _ _) (footed_cons (not_isHop_recheck _ _) ?_)
    exact hwalk.footed (.shown (no_hop_concat hno (not_isHop_recall _ _)) (.inr rfl))

theorem Navigated.footed {c : ρ} {r : Except RouteError (Page ρ)}
    (h : Navigated nav c args m hs r m') : Footed [] hs := by
  cases h with
  | lost hback => exact footed_of_no_hop hback.no_hop
  | found hback hreplay =>
    have hfooted := hreplay.footed hback.no_hop hback.footing
    exact footed_append.2 ⟨footed_of_no_hop hback.no_hop, hfooted⟩

theorem Opened.no_hop {c : Option ρ} {url : Option String}
    {r : Except RouteError (Option (Page ρ))} (h : Opened args m c url hs r m') :
    ∀ x ∈ hs, ¬x.IsHop := by
  cases h with
  | nothing => exact no_hop_nil
  | unloaded | unopened => exact no_hop_concat no_hop_nil (not_isHop nofun)
  | url | unbuilt => exact loaded_no_hop _ _
  | unarrived | page => exact no_hop_concat (loaded_no_hop _ _) (not_isHop_arrive _ _)

theorem Episode.Accounted.footed {nav : Navigator} {e : Episode ρ σ} (h : e.Accounted nav) :
    Footed [] e.history := by
  cases h with
  | navigate h => exact h.footed
  | openPage h => exact footed_of_no_hop h.no_hop
  | handle => trivial

/-- In every episode of every run: the first hop starts on a page that the deed before it found
displayed; a later hop starts on the page that the hop before it led to, which has arrived since;
and where no page was found displayed there is no hop. What the episode says to the browser it says
in these deeds, one after another. -/
theorem hops_have_footing (nav : Navigator) (b : Browser σ) (turns : List (Turn ρ σ)) (s : σ)
    (e : Episode ρ σ) (he : e ∈ nav.episodes b turns {} s) :
    (∀ pre p dest args r post, e.history = pre ++ ⟨.hop p dest args, r⟩ :: post →
      (∀ x ∈ pre, ¬x.IsHop) → ∃ earlier x, pre = earlier ++ [x] ∧ x.Shows p) ∧
    (∀ pre p dest args r post, e.history = pre ++ ⟨.hop p dest args, r⟩ :: post →
      (∃ x ∈ pre, x.IsHop) → ∃ earlier q reached args' taken notes,
        pre = earlier ++ [⟨.hop q reached args', .ok taken⟩, ⟨.arrive reached, .ok notes⟩] ∧
          p = { reached with notes }) ∧
    ((∀ x ∈ e.history, ∀ p, ¬x.Shows p) → ∀ x ∈ e.history, ¬x.IsHop) ∧
    ∃ deeds : List (Deed ρ × σ), deeds.map Prod.fst = e.history.map Exchange.question ∧
      e.calls nav b = deeds.flatMap fun x => Script.history b.answer (x.1.attempt nav).run x.2 := by
  have hfooted := (accounted_of_mem he).footed
  have hcalls := e.turn.calls_take nav b e.before e.start
  rw [← eq_take_of_mem he] at hcalls
  refine ⟨?_, ?_, fun hdark => no_hop_of_footed hfooted no_hop_nil (by simpa using hdark), hcalls⟩
  · intro pre p dest args r post hsplit hfirst
    rw [hsplit] at hfooted
    cases footing_of_split hfooted with
    | @shown earlier x _ hx => exact ⟨earlier, x, rfl, hx⟩
    | @reached _ q d args' taken _ _ =>
      exact absurd ⟨q, d, args', .ok taken, rfl⟩ (hfirst ⟨.hop q d args', .ok taken⟩ (by simp))
  · rintro pre p dest args r post hsplit ⟨y, hy, hhop⟩
    rw [hsplit] at hfooted
    cases footing_of_split hfooted with
    | @shown earlier x hno hx =>
      obtain hy | hy := List.mem_append.1 hy
      · exact absurd hhop (hno y hy)
      · rw [List.mem_singleton.1 hy] at hhop
        exact absurd hhop (not_isHop_of_shows hx)
    | @reached earlier q d args' taken notes hp =>
      exact ⟨earlier, q, d, args', taken, notes, rfl, hp⟩

theorem climb_has_footing :
    House.climbed {} ∈ Navigator.episodes {} House.lamp [.navigate House.attic ∅] {} "#hall" ∧
    ∃ earlier x, [⟨.look House.atticPage, .ok false⟩, ⟨.look House.hallPage, .ok true⟩] =
      earlier ++ [x] ∧ Shows x House.hallPage := by
  have he := House.climbed_mem {}
  have hno : ∀ x ∈ ([⟨.look House.atticPage, .ok false⟩, ⟨.look House.hallPage, .ok true⟩] :
      List (Done SitePage)), ¬x.IsHop := by
    simpa using ⟨not_isHop_look _ _, not_isHop_look _ _⟩
  exact ⟨he, (hops_have_footing {} House.lamp _ "#hall" _ he).1 _ _ _ _ _ _ rfl hno⟩

end Wayfinder
