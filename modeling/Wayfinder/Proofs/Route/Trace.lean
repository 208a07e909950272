import Wayfinder.Proofs.Route.Remembrance

/-! What the events of a call record. The looks of a backtrace that completes are the names of the
last path, and the steps after them go along that path towards the target. All events of a call bear
one number, greater than that of any event before it. -/
namespace Wayfinder
variable {ρ σ : Type}

namespace Event

/-- Looks at pages of these names, of which only the last may be displayed. -/
def looks (n : Nat) (shown : Bool) : List String → List Event
  | [] => []
  | [name] => [looked n name shown]
  | name :: next :: rest => looked n name false :: looks n shown (next :: rest)

theorem looks_concat (n : Nat) (shown : Bool) (names : List String) (name : String) :
    looks n shown (names ++ [name]) = looks n false names ++ [looked n name shown] := by
  induction names with
  | nil => rfl
  | cons a names ih =>
    cases names with
    | nil => rfl
    | cons b names => exact congrArg (looked n a false :: ·) ih

/-- Steps from a page along a route of names, as far as they went. -/
structure Follow (start : Option String) (route : List String) (steps : List Event) : Prop where
  kind : ∀ x ∈ steps, x.kind = "step"
  dest : steps.map (·.dest) <+: route.map some
  page : steps.map (fun x => some x.page) <+: start :: route.map some

namespace Follow

theorem nil (start : Option String) (route : List String) : Follow start route [] where
  kind := nofun
  dest := List.nil_prefix
  page := List.nil_prefix

theorem cons {n : Nat} {page dest step rule : String} {route : List String} {steps : List Event}
    (h : Follow (some dest) route steps) :
    Follow (some page) (dest :: route) (stepped n page dest step rule :: steps) where
  kind := List.forall_mem_cons.2 ⟨rfl, h.kind⟩
  dest := List.cons_prefix_cons.2 ⟨rfl, h.dest⟩
  page := List.cons_prefix_cons.2 ⟨rfl, h.page⟩

end Follow
end Event
open Event

structure Memory.Logged (m m' : Memory ρ) (es : List Event) : Prop where
  events : m'.events = m.events ++ es
  navigation : m'.navigation = m.navigation
  number : ∀ x ∈ es, x.navigation = m.navigation

namespace Memory.Logged
variable {m m' m'' : Memory ρ} {es es' : List Event}

theorem same (hevents : m'.events = m.events) (hnavigation : m'.navigation = m.navigation) :
    m.Logged m' [] where
  events := by rw [hevents, List.append_nil]
  navigation := hnavigation
  number := nofun

theorem refl (m : Memory ρ) : m.Logged m [] := same rfl rfl

theorem trans (h : m.Logged m' es) (h' : m'.Logged m'' es') : m.Logged m'' (es ++ es') where
  events := by rw [h'.events, h.events, List.append_assoc]
  navigation := h'.navigation.trans h.navigation
  number := by
    refine List.forall_mem_append.2 ⟨h.number, fun x hx => ?_⟩
    rw [h'.number x hx, h.navigation]

theorem one {x : Event} (hevents : m'.events = m.events ++ [x])
    (hnavigation : m'.navigation = m.navigation) (hnumber : x.navigation = m.navigation) :
    m.Logged m' [x] where
  events := hevents
  navigation := hnavigation
  number := by simpa using hnumber

end Memory.Logged

structure Memory.Numbered (m m' : Memory ρ) (es : List Event) : Prop where
  events : m'.events = m.events ++ es
  number : ∀ x ∈ es, x.navigation = m.navigation + 1
  bound : ∀ x ∈ es, x.navigation ≤ m'.navigation
  mono : m.navigation ≤ m'.navigation

def Memory.Bounded (m : Memory ρ) : Prop := ∀ x ∈ m.events, x.navigation ≤ m.navigation

namespace Memory.Numbered
variable {m m' : Memory ρ} {es : List Event}

theorem refl (m : Memory ρ) : m.Numbered m [] where
  events := by rw [List.append_nil]
  number := nofun
  bound := nofun
  mono := Nat.le_refl _

theorem of_logged (h : m.next.Logged m' es) : m.Numbered m' es where
  events := h.events
  number := h.number
  bound := by
    intro x hx
    exact Nat.le_of_eq ((h.number x hx).trans h.navigation.symm)
  mono := by
    rw [h.navigation]
    exact Nat.le_succ _

theorem bounded (h : m.Numbered m' es) (hm : m.Bounded) : m'.Bounded := by
  rw [Memory.Bounded, h.events]
  exact List.forall_mem_append.2 ⟨fun x hx => Nat.le_trans (hm x hx) h.mono, h.bound⟩

end Memory.Numbered

variable [PageFamily ρ]
variable {nav : Navigator} {args : Args} {m m' : Memory ρ} {hs : List (Done ρ)}

theorem Memory.logged_visited (m : Memory ρ) (p : Page ρ) (args : Args) (shown : Bool) :
    m.Logged (m.visited p args shown) [.looked m.navigation p.name shown] := by
  cases shown <;> exact .one rfl rfl rfl

theorem Climbed.logged {limit room : Nat} {chain : PathChain ρ} {shown : Bool}
    {r : Except RouteError (PathChain ρ)} (h : Climbed limit args room chain shown m hs r m') :
    ∃ es, m.Logged m' es ∧ (∀ x ∈ es, x.kind = "backtrace") ∧
      ∀ chain', r = .ok chain' → looks m.navigation chain'.anchored chain'.names =
        looks m.navigation shown chain.names ++ es := by
  induction h with
  | displayed | root =>
    refine ⟨[], .refl _, by simp, fun chain' hr => ?_⟩
    cases hr
    simp [PathChain.names, PathChain.pages]
  | circle | tooDeep | unbuilt | unseen => exact ⟨[], .refl _, by simp, by simp⟩
  | @onward room chain m c p shown hs r m' _ _ _ _ ih =>
    obtain ⟨es, hlog, hkind, hlooks⟩ := ih
    have hvisit := m.logged_visited p args shown
    refine ⟨looked m.navigation p.name shown :: es, hvisit.trans hlog,
      List.forall_mem_cons.2 ⟨rfl, hkind⟩, fun chain' hr => ?_⟩
    -- Of the longer chain only the page looked at now may be displayed.
    have hchain := hlooks chain' hr
    rw [hvisit.navigation] at hchain
    have hnames : (chain.push p).names = chain.names ++ [p.name] := by simp [PathChain.names]
    rw [hchain, hnames, looks_concat, List.append_assoc]
    rfl

theorem Backtraced.logged {c : ρ} {r : Except RouteError (PathChain ρ)}
    (h : Backtraced nav c args m hs r m') :
    ∃ es, m.Logged m' es ∧ (∀ x ∈ es, x.kind = "backtrace") ∧
      ∀ chain, r = .ok chain → es = looks m.navigation chain.anchored chain.names := by
  cases h with
  | unbuilt | unseen => exact ⟨[], .refl _, by simp, by simp⟩
  | @begun p shown _ _ _ _ hrest =>
    obtain ⟨es, hlog, hkind, hlooks⟩ := hrest.logged
    have hvisit := m.logged_visited p args shown
    refine ⟨looked m.navigation p.name shown :: es, hvisit.trans hlog,
      List.forall_mem_cons.2 ⟨rfl, hkind⟩, fun chain hr => ?_⟩
    have hchain := hlooks chain hr
    rw [hvisit.navigation] at hchain
    exact hchain.symm

/-- A walk leaves one event for each hop that went well, in order. -/
theorem Walked.logged {p : Page ρ} {rest : List (Page ρ)} {r : Except RouteError (Page ρ)}
    (h : Walked args p rest m hs r m') :
    ∃ es, m.Logged m' es ∧ Follow (some p.name) (rest.map Page.name) es ∧
      m'.lastPath = m.lastPath ∧ ∀ q, r = .ok q → es.length = rest.length := by
  induction h with
  | here => exact ⟨[], .refl _, .nil _ _, rfl, fun _ _ => rfl⟩
  | stuck => exact ⟨[], .refl _, .nil _ _, rfl, by simp⟩
  | @unarrived p dest rest m taken e =>
    exact ⟨[stepped m.navigation p.name dest.name taken.step taken.rule.name], .one rfl rfl rfl,
      .cons (.nil _ _), rfl, by simp⟩
  | @onward p dest rest m taken notes hs r m' _ ih =>
    obtain ⟨es, hlog, hfollow, hpath, hlength⟩ := ih
    have hstep : m.Logged ((m.stepped p dest taken).remember dest.cls args)
        [stepped m.navigation p.name dest.name taken.step taken.rule.name] := .one rfl rfl rfl
    refine ⟨stepped m.navigation p.name dest.name taken.step taken.rule.name :: es,
      hstep.trans hlog, .cons hfollow, hpath, fun q hq => ?_⟩
    rw [List.length_cons, List.length_cons, hlength q hq]

namespace PathChain

def route (chain : PathChain ρ) : List String :=
  if chain.anchored then chain.names.reverse.tail else chain.names.reverse

def start (chain : PathChain ρ) (shown : Option (ρ × Args)) : Option String :=
  if chain.anchored then chain.names.getLast? else shown.map fun d => PageFamily.name d.1

theorem reverse_names (chain : PathChain ρ) :
    chain.names.reverse = (chain.top :: chain.forward.2).map Page.name := by
  rw [chain.top_cons_forward, names, List.map_reverse]

theorem getLast?_names (chain : PathChain ρ) : chain.names.getLast? = some chain.top.name := by
  rw [← List.head?_reverse, chain.reverse_names]
  rfl

end PathChain

theorem name_of_rebuild [LawfulPageFamily ρ] {shown : Option (ρ × Args)} {p : Page ρ}
    (h : Deed.rebuild shown = .ok (some p)) :
    shown.map (fun d => PageFamily.name d.1) = some p.name := by
  cases shown with
  | none => cases h
  | some d =>
    obtain ⟨c, args⟩ := d
    cases hbuild : PageFamily.build c args with
    | error e => simp [Deed.rebuild, hbuild, Except.map] at h
    | ok q =>
      have hkey : PageFamily.key q.cls = PageFamily.key c := LawfulPageFamily.key_build hbuild
      have hp : q = p := by simpa [Deed.rebuild, hbuild, Except.map] using h
      simp [Page.name, PageFamily.name, ← hp, hkey]

theorem Replayed.logged [LawfulPageFamily ρ] {chain : PathChain ρ}
    {r : Except RouteError (Page ρ)} (h : Replayed args chain m hs r m') :
    ∃ es, m.Logged m' es ∧ Follow (chain.start m.lastDisplayed) chain.route es ∧
      m'.lastPath = m.lastPath ∧ ∀ q, r = .ok q → es.length = chain.route.length := by
  cases h with
  | anchored hanchor hwalk =>
    obtain ⟨es, hlog, hfollow, hpath, hlength⟩ := hwalk.logged
    have hroute : chain.route = chain.forward.2.map Page.name := by
      simp [PathChain.route, hanchor, chain.reverse_names]
    have hstart : chain.start m.lastDisplayed = some chain.top.name := by
      simp [PathChain.start, hanchor, chain.getLast?_names]
    rw [hroute, hstart, List.length_map]
    exact ⟨es, hlog, hfollow, hpath, hlength⟩
  | unbuilt | unseen => exact ⟨[], .refl _, .nil _ _, rfl, by simp⟩
  | blank | gone => exact ⟨[], .same rfl rfl, .nil _ _, rfl, by simp⟩
  | @remembered p _ _ _ hanchor hbuild hwalk =>
    obtain ⟨es, hlog, hfollow, hpath, hlength⟩ := hwalk.logged
    have hroute : chain.route = (chain.top :: chain.forward.2).map Page.name := by
      simp [PathChain.route, hanchor, chain.reverse_names]
    have hstart : chain.start m.lastDisplayed = some p.name := by
      simpa [PathChain.start, hanchor] using name_of_rebuild hbuild
    rw [hroute, hstart, List.length_map]
    exact ⟨es, hlog, hfollow, hpath, hlength⟩

/-- A backtrace without an anchor remembers what was remembered before it. -/
theorem Backtraced.unmoved {c : ρ} {chain : PathChain ρ}
    (h : Backtraced nav c args m hs (.ok chain) m') (hanchor : chain.anchored = false) :
    m'.lastDisplayed = m.lastDisplayed := by
  obtain ⟨hanchor', -⟩ | ⟨-, hnone⟩ := h.remembers
  · simp [hanchor] at hanchor'
  · simp [h.recalled, Wayfinder.recalled, hnone]

def Episode.backtraced (nav : Navigator) (b : Browser σ) (e : Episode ρ σ) (c : ρ) (args : Args) :
    Except RouteError (PathChain ρ) :=
  ((nav.backtrace c args).made nav b e.before.next e.start).result

/-- What the events of an episode are, by the kind of its turn and by how far it came. -/
def Episode.Recorded (nav : Navigator) (b : Browser σ) (e : Episode ρ σ) (es : List Event) : Prop :=
  let n := e.before.navigation + 1
  match e.turn with
  | .navigate c args =>
    match e.backtraced nav b c args with
    | .error _ => ∀ x ∈ es, x.kind = "backtrace"
    | .ok chain =>
      e.after.lastPath = chain.names ∧
      ∃ steps, es = looks n chain.anchored e.after.lastPath ++ steps ∧
        Follow (chain.start e.before.lastDisplayed) chain.route steps ∧
        ∀ p, e.result = .ok p → steps.length = chain.route.length
  | .openPage c url _ =>
    match e.result with
    | .error _ => es = []
    | .ok _ => es = [.opened n ((c.map PageFamily.name).getD "") url]
  | .handle _ => es = []

theorem Opened.recorded {c : Option ρ} {url : Option String}
    {r : Except RouteError (Option (Page ρ))} (h : Opened args m c url hs r m') :
    (∃ e, r = .error e ∧ m.Numbered m' []) ∨
      ∃ p, r = .ok p ∧
        m.Numbered m' [.opened (m.navigation + 1) ((c.map PageFamily.name).getD "") url] := by
  cases h with
  | nothing => exact .inl ⟨_, rfl, .refl m⟩
  | unloaded | unbuilt | unopened | unarrived => exact .inl ⟨_, rfl, .of_logged (.refl m.next)⟩
  | url => exact .inr ⟨_, rfl, .of_logged (.one rfl rfl rfl)⟩
  | page => exact .inr ⟨_, rfl, .of_logged (.one rfl rfl rfl)⟩

namespace Turn
variable (nav : Navigator) (b : Browser σ)

theorem navigate_recorded [LawfulPageFamily ρ] (c : ρ) (args : Args) (m : Memory ρ) (s : σ) :
    let e := (Turn.navigate c args).take nav b m s
    ∃ es, m.Numbered e.after es ∧ e.Recorded nav b es := by
  have hplay := Trip.made_play nav b m s (nav.navigation c args)
  have hmade := Navigator.made_navigation nav b c args m s
  have hback := nav.backtraced_backtrace b c args m.next s
  simp only [Turn.take, Navigator.navigate, hplay, hmade, Episode.Recorded, Episode.backtraced]
  cases h : (nav.backtrace c args).made nav b m.next s with
  | mk r m₁ hs s₁ =>
    rw [h] at hback
    obtain ⟨looked, hlooked, hkind, hlooks⟩ := hback.logged
    cases r with
    | error err => exact ⟨looked, .of_logged hlooked, hkind⟩
    | ok chain =>
      simp only [Made.andThen_ok, Made.after_result, Made.after_memory]
      have hreplay := Navigator.replayed_replay nav b args chain (m₁.along chain.names) s₁
      generalize (Navigator.replay args chain).made nav b (m₁.along chain.names) s₁ = o at hreplay
      obtain ⟨steps, hsteps, hfollow, hpath, hlength⟩ := hreplay.logged
      have halong : m₁.Logged (m₁.along chain.names) [] := .same rfl rfl
      -- Without an anchor the backtrace has not touched what is remembered.
      have hstart : chain.start m₁.lastDisplayed = chain.start m.lastDisplayed := by
        cases hanchor : chain.anchored with
        | true => simp [PathChain.start, hanchor]
        | false => rw [hback.unmoved hanchor, Memory.lastDisplayed_next]
      have hnames : o.memory.lastPath = chain.names := hpath
      refine ⟨looked ++ steps, .of_logged (hlooked.trans (halong.trans hsteps)), hnames, steps, ?_⟩
      rw [hlooks chain rfl, ← hstart, hnames]
      refine ⟨rfl, hfollow, fun p hp => ?_⟩
      cases hr : o.result with
      | error err => simp [hr, Except.map] at hp
      | ok q => exact hlength q hr

theorem take_recorded [LawfulPageFamily ρ] (t : Turn ρ σ) (m : Memory ρ) (s : σ) :
    let e := t.take nav b m s
    ∃ es, m.Numbered e.after es ∧ e.Recorded nav b es := by
  cases t with
  | navigate c args => exact navigate_recorded nav b c args m s
  | openPage c url args =>
    have hplay := Trip.made_play nav b m s (Navigator.opening c url args)
    have hopen := Navigator.opened_opening nav b c url args m s
    simp only [Turn.take, Navigator.openPage, hplay, Episode.Recorded]
    generalize (Navigator.opening c url args).made nav b m s = o at hopen
    obtain ⟨err, hr, hnumbered⟩ | ⟨p, hr, hnumbered⟩ := hopen.recorded
    · exact ⟨[], hnumbered, by simp [hr]⟩
    · exact ⟨_, hnumbered, by simp [hr]⟩
  | handle f => exact ⟨[], .refl m, rfl⟩

end Turn

/-- In every run each call adds to the trace what it did: its events bear one number, greater than
that of every earlier event, and they are those that `Episode.Recorded` lists. -/
theorem trace_records_calls [LawfulPageFamily ρ] (nav : Navigator) (b : Browser σ)
    (turns : List (Turn ρ σ)) (s : σ) (e : Episode ρ σ) (he : e ∈ nav.episodes b turns {} s) :
    ∃ es, e.after.events = e.before.events ++ es ∧
      (∃ n, (∀ x ∈ es, x.navigation = n) ∧ ∀ x ∈ e.before.events, x.navigation < n) ∧
      e.Recorded nav b es := by
  have hkeep (t : Turn ρ σ) (m : Memory ρ) (s : σ) (hm : m.Bounded) :
      (t.take nav b m s).after.Bounded := by
    obtain ⟨es, hnumbered, -⟩ := t.take_recorded nav b m s
    exact hnumbered.bounded hm
  have hstart : ({} : Memory ρ).Bounded := by simp [Memory.Bounded]
  have hbound := (episodes_invariant hkeep hstart he).1
  obtain ⟨es, hnumbered, hrecorded⟩ := e.turn.take_recorded nav b e.before e.start
  rw [← eq_take_of_mem he] at hnumbered hrecorded
  refine ⟨es, hnumbered.events, ⟨e.before.navigation + 1, hnumbered.number, ?_⟩, hrecorded⟩
  intro x hx
  have hle := hbound x hx
  omega

theorem climb_recorded :
    House.climbed {} ∈ Navigator.episodes {} House.lamp [.navigate House.attic ∅] {} "#hall" ∧
    ∃ es, (House.climbed {}).after.events = (House.climbed {}).before.events ++ es ∧
      (∃ n, (∀ x ∈ es, x.navigation = n) ∧
        ∀ x ∈ (House.climbed {}).before.events, x.navigation < n) ∧
      (House.climbed {}).Recorded {} House.lamp es := by
  have he := House.climbed_mem {}
  exact ⟨he, trace_records_calls {} House.lamp _ "#hall" _ he⟩

end Wayfinder
