import Wayfinder.Proofs.Route.Made

/-! Accounts of a navigation. Each relation lists, case by case, everything that one part of a
navigation can do: the deeds it does, its result and what it leaves in the memory. The states of the
browser do not occur in them; only the answers to deeds decide. What holds of every navigation is
proved by induction on its account. -/
namespace Wayfinder
variable {ρ σ : Type}

namespace Memory

def opened (m : Memory ρ) (page : String) (url : Option String) : Memory ρ :=
  m.log fun n => .opened n page url

@[simp] theorem lastDisplayed_next (m : Memory ρ) : m.next.lastDisplayed = m.lastDisplayed := rfl

@[simp] theorem lastDisplayed_along (m : Memory ρ) (path : List String) :
    (m.along path).lastDisplayed = m.lastDisplayed := rfl

@[simp] theorem lastDisplayed_forget (m : Memory ρ) : m.forget.lastDisplayed = none := rfl

@[simp] theorem lastDisplayed_remember (m : Memory ρ) (c : ρ) (args : Args) :
    (m.remember c args).lastDisplayed = some (c, args) := rfl

@[simp] theorem lastDisplayed_opened (m : Memory ρ) (page : String) (url : Option String) :
    (m.opened page url).lastDisplayed = m.lastDisplayed := rfl

end Memory

namespace PathChain

def top (chain : PathChain ρ) : Page ρ := chain.forward.1

@[simp] theorem top_push (chain : PathChain ρ) (p : Page ρ) : (chain.push p).top = p := rfl

@[simp] theorem target_push (chain : PathChain ρ) (p : Page ρ) :
    (chain.push p).target = chain.target := rfl

@[simp] theorem hops_push (chain : PathChain ρ) (p : Page ρ) :
    (chain.push p).hops = p :: chain.hops := rfl

@[simp] theorem pages_push (chain : PathChain ρ) (p : Page ρ) :
    (chain.push p).pages = chain.pages ++ [p] := by
  simp [pages, push]

/-- The pages are stepped to in the reverse of the order in which they were found. -/
theorem top_cons_forward (chain : PathChain ρ) :
    chain.top :: chain.forward.2 = chain.pages.reverse := by
  unfold top forward pages
  cases chain.hops <;> simp

theorem pages_eq_concat_top (chain : PathChain ρ) :
    chain.pages = chain.forward.2.reverse ++ [chain.top] := by
  rw [← List.reverse_reverse chain.pages, ← chain.top_cons_forward, List.reverse_cons]

theorem mem_top (chain : PathChain ρ) : chain.top ∈ chain.pages := by
  simp [pages_eq_concat_top]

end PathChain

variable [PageFamily ρ]

def Page.seen (p : Page ρ) (shown : Bool) : Bool × Option ρ :=
  if shown then (true, none) else (false, p.prerequisite)

namespace Memory

def visited (m : Memory ρ) (p : Page ρ) (args : Args) (shown : Bool) : Memory ρ :=
  let m := m.log fun n => .looked n p.name shown
  if shown then m.remember p.cls args else m

def stepped (m : Memory ρ) (p dest : Page ρ) (taken : Taken) : Memory ρ :=
  m.log fun n => .stepped n p.name dest.name taken.step taken.rule.name

@[simp] theorem lastDisplayed_visited (m : Memory ρ) (p : Page ρ) (args : Args) (shown : Bool) :
    (m.visited p args shown).lastDisplayed =
      if shown then some (p.cls, args) else m.lastDisplayed := by
  cases shown <;> rfl

@[simp] theorem lastDisplayed_stepped (m : Memory ρ) (p dest : Page ρ) (taken : Taken) :
    (m.stepped p dest taken).lastDisplayed = m.lastDisplayed := rfl

end Memory

inductive Climbed (limit : Nat) (args : Args) :
    Nat → PathChain ρ → Bool → Memory ρ →
      List (Done ρ) → Except RouteError (PathChain ρ) → Memory ρ → Prop
  | displayed {room chain m} :
      Climbed limit args room chain true m [] (.ok { chain with anchored := true }) m
  | root {room chain m} (hroot : chain.top.prerequisite = none) :
      Climbed limit args room chain false m [] (.ok { chain with anchored := false }) m
  | circle {room chain m c} (hreq : chain.top.prerequisite = some c)
      (hin : chain.contains c = true) :
      Climbed limit args room chain false m []
        (.error (.prerequisiteCycle (chain.names ++ [PageFamily.name c]))) m
  | tooDeep {chain m c} (hreq : chain.top.prerequisite = some c)
      (hin : chain.contains c = false) :
      Climbed limit args 0 chain false m []
        (.error (.backtraceTooDeep limit (chain.names ++ [PageFamily.name c]))) m
  | unbuilt {room chain m c e} (hreq : chain.top.prerequisite = some c)
      (hin : chain.contains c = false) (hbuild : PageFamily.build c args = .error e) :
      Climbed limit args (room + 1) chain false m [] (.error e) m
  | unseen {room chain m c p e} (hreq : chain.top.prerequisite = some c)
      (hin : chain.contains c = false) (hbuild : PageFamily.build c args = .ok p) :
      Climbed limit args (room + 1) chain false m [⟨.look p, .error e⟩] (.error e) m
  | onward {room chain m c p shown hs r m'} (hreq : chain.top.prerequisite = some c)
      (hin : chain.contains c = false) (hbuild : PageFamily.build c args = .ok p)
      (hrest : Climbed limit args room (chain.push p) shown (m.visited p args shown) hs r m') :
      Climbed limit args (room + 1) chain false m (⟨.look p, .ok shown⟩ :: hs) r m'

inductive Backtraced (nav : Navigator) (c : ρ) (args : Args) (m : Memory ρ) :
    List (Done ρ) → Except RouteError (PathChain ρ) → Memory ρ → Prop
  | unbuilt {e} (hbuild : PageFamily.build c args = .error e) :
      Backtraced nav c args m [] (.error e) m
  | unseen {p e} (hbuild : PageFamily.build c args = .ok p) :
      Backtraced nav c args m [⟨.look p, .error e⟩] (.error e) m
  | begun {p shown hs r m'} (hbuild : PageFamily.build c args = .ok p)
      (hrest : Climbed nav.settings.maxBacktraceDepth args (nav.settings.maxBacktraceDepth - 1)
        { target := p } shown (m.visited p args shown) hs r m') :
      Backtraced nav c args m (⟨.look p, .ok shown⟩ :: hs) r m'

inductive Walked (args : Args) :
    Page ρ → List (Page ρ) → Memory ρ →
      List (Done ρ) → Except RouteError (Page ρ) → Memory ρ → Prop
  | here {p m} : Walked args p [] m [] (.ok p) m
  | stuck {p dest rest m e} :
      Walked args p (dest :: rest) m [⟨.hop p dest args, .error e⟩] (.error e) m
  | unarrived {p dest rest m taken e} :
      Walked args p (dest :: rest) m
        [⟨.hop p dest args, .ok taken⟩, ⟨.arrive dest, .error e⟩] (.error e)
        (m.stepped p dest taken)
  | onward {p dest rest m taken notes hs r m'}
      (hrest : Walked args { dest with notes } rest
        ((m.stepped p dest taken).remember dest.cls args) hs r m') :
      Walked args p (dest :: rest) m
        (⟨.hop p dest args, .ok taken⟩ :: ⟨.arrive dest, .ok notes⟩ :: hs) r m'

def PathChain.adrift (chain : PathChain ρ) : RouteError :=
  .stepNotFound "<none>" chain.top.name []

inductive Replayed (args : Args) (chain : PathChain ρ) (m : Memory ρ) :
    List (Done ρ) → Except RouteError (Page ρ) → Memory ρ → Prop
  | anchored {hs r m'} (hanchor : chain.anchored = true)
      (hwalk : Walked args chain.top chain.forward.2 m hs r m') :
      Replayed args chain m hs r m'
  | unbuilt {e} (hanchor : chain.anchored = false)
      (hbuild : Deed.rebuild m.lastDisplayed = .error e) :
      Replayed args chain m [⟨.recall m.lastDisplayed, .error e⟩] (.error e) m
  | blank (hanchor : chain.anchored = false)
      (hbuild : Deed.rebuild m.lastDisplayed = .ok none) :
      Replayed args chain m [⟨.recall m.lastDisplayed, .ok none⟩] (.error chain.adrift) m.forget
  | unseen {p e} (hanchor : chain.anchored = false)
      (hbuild : Deed.rebuild m.lastDisplayed = .ok (some p)) :
      Replayed args chain m [⟨.recall m.lastDisplayed, .ok (some p)⟩, ⟨.recheck p, .error e⟩]
        (.error e) m
  | gone {p} (hanchor : chain.anchored = false)
      (hbuild : Deed.rebuild m.lastDisplayed = .ok (some p)) :
      Replayed args chain m [⟨.recall m.lastDisplayed, .ok (some p)⟩, ⟨.recheck p, .ok false⟩]
        (.error chain.adrift) m.forget
  | remembered {p hs r m'} (hanchor : chain.anchored = false)
      (hbuild : Deed.rebuild m.lastDisplayed = .ok (some p))
      (hwalk : Walked args p (chain.top :: chain.forward.2) m hs r m') :
      Replayed args chain m
        (⟨.recall m.lastDisplayed, .ok (some p)⟩ :: ⟨.recheck p, .ok true⟩ :: hs) r m'

inductive Navigated (nav : Navigator) (c : ρ) (args : Args) (m : Memory ρ) :
    List (Done ρ) → Except RouteError (Page ρ) → Memory ρ → Prop
  | lost {hs e m'} (hback : Backtraced nav c args m.next hs (.error e) m') :
      Navigated nav c args m hs (.error e) m'
  | found {hs chain m' hs' r m''} (hback : Backtraced nav c args m.next hs (.ok chain) m')
      (hreplay : Replayed args chain (m'.along chain.names) hs' r m'') :
      Navigated nav c args m (hs ++ hs') r m''

/-- The loads of an opening that all went well, with the page once it is built. -/
def loaded : Option String → Option (Page ρ) → List (Done ρ)
  | some url, _ => [⟨.load url, .ok ()⟩]
  | none, some p => [⟨.loadPage p, .ok ()⟩]
  | none, none => []

inductive Opened (args : Args) (m : Memory ρ) :
    Option ρ → Option String →
      List (Done ρ) → Except RouteError (Option (Page ρ)) → Memory ρ → Prop
  | nothing : Opened args m none none [] (.error .nothingToOpen) m
  | unloaded {c url e} :
      Opened args m c (some url) [⟨.load url, .error e⟩] (.error e) m.next
  | url {url} :
      Opened args m none (some url) (loaded (some url) none) (.ok none)
        (m.next.forget.opened "" (some url))
  | unbuilt {c url e} (hbuild : PageFamily.build c args = .error e) :
      Opened args m (some c) url (loaded url none) (.error e) m.next
  | unopened {c p e} (hbuild : PageFamily.build c args = .ok p) :
      Opened args m (some c) none [⟨.loadPage p, .error e⟩] (.error e) m.next
  | unarrived {c url p e} (hbuild : PageFamily.build c args = .ok p) :
      Opened args m (some c) url (loaded url (some p) ++ [⟨.arrive p, .error e⟩]) (.error e) m.next
  | page {c url p notes} (hbuild : PageFamily.build c args = .ok p) :
      Opened args m (some c) url (loaded url (some p) ++ [⟨.arrive p, .ok notes⟩])
        (.ok (some { p with notes })) ((m.next.opened (PageFamily.name c) url).remember c args)

/-- A backtrace only looks at pages. -/
theorem Climbed.look_of_mem {limit room : Nat} {args : Args} {chain : PathChain ρ} {shown : Bool}
    {m m' : Memory ρ} {hs : List (Done ρ)} {r : Except RouteError (PathChain ρ)}
    (h : Climbed limit args room chain shown m hs r m') :
    ∀ x ∈ hs, ∃ p o, x = ⟨.look p, o⟩ := by
  induction h with
  | displayed | root | circle | tooDeep | unbuilt => simp
  | unseen => simp
  | @onward _ _ _ _ p shown _ _ _ _ _ _ _ ih =>
    exact List.forall_mem_cons.2 ⟨⟨p, .ok shown, rfl⟩, ih⟩

theorem Backtraced.look_of_mem {nav : Navigator} {c : ρ} {args : Args} {m m' : Memory ρ}
    {hs : List (Done ρ)} {r : Except RouteError (PathChain ρ)}
    (h : Backtraced nav c args m hs r m') : ∀ x ∈ hs, ∃ p o, x = ⟨.look p, o⟩ := by
  cases h with
  | unbuilt => simp
  | unseen => simp
  | @begun p shown _ _ _ _ hrest =>
    exact List.forall_mem_cons.2 ⟨⟨p, .ok shown, rfl⟩, hrest.look_of_mem⟩

/-- The pages of a chain are built from classes that pages below them require. -/
theorem Climbed.all_pages {K : ρ → Prop} {H : Page ρ → Prop} {limit room : Nat} {args : Args}
    {chain : PathChain ρ} {shown : Bool} {m m' : Memory ρ} {hs : List (Done ρ)}
    {r : Except RouteError (PathChain ρ)}
    (hbuild : ∀ c p, K c → PageFamily.build c args = .ok p → H p)
    (hreq : ∀ p c, H p → p.prerequisite = some c → K c)
    (h : Climbed limit args room chain shown m hs r m') (hchain : ∀ p ∈ chain.pages, H p) :
    ∀ chain', r = .ok chain' → ∀ p ∈ chain'.pages, H p := by
  induction h with
  | displayed | root =>
    intro chain' hr
    cases hr
    exact hchain
  | circle | tooDeep | unbuilt | unseen => simp
  | @onward _ chain _ c p _ _ _ _ htop _ hp _ ih =>
    refine ih ?_
    rw [PathChain.pages_push]
    have hc : K c := hreq _ c (hchain _ chain.mem_top) htop
    exact List.forall_mem_append.2 ⟨hchain, List.forall_mem_singleton.2 (hbuild c p hc hp)⟩

theorem Backtraced.all_pages {K : ρ → Prop} {H : Page ρ → Prop} {nav : Navigator} {c : ρ}
    {args : Args} {chain : PathChain ρ} {m m' : Memory ρ} {hs : List (Done ρ)}
    (hbuild : ∀ c p, K c → PageFamily.build c args = .ok p → H p)
    (hreq : ∀ p c, H p → p.prerequisite = some c → K c)
    (h : Backtraced nav c args m hs (.ok chain) m') (hc : K c) : ∀ p ∈ chain.pages, H p := by
  cases h with
  | @begun p _ _ _ _ hp hrest =>
    exact hrest.all_pages hbuild hreq (List.forall_mem_singleton.2 (hbuild c p hc hp)) chain rfl

/-- A walk hops and lets the pages on its way arrive. -/
theorem Walked.hop_or_arrive {args : Args} {p : Page ρ} {rest : List (Page ρ)} {m m' : Memory ρ}
    {hs : List (Done ρ)} {r : Except RouteError (Page ρ)} (h : Walked args p rest m hs r m') :
    ∀ x ∈ hs, (∃ p dest o, x = ⟨.hop p dest args, o⟩) ∨ ∃ q ∈ rest, ∃ o, x = ⟨.arrive q, o⟩ := by
  induction h with
  | here => simp
  | stuck => simp
  | unarrived => simp
  | @onward p dest rest m taken notes _ _ _ _ ih =>
    have harrive : ∃ q ∈ dest :: rest, ∃ o, (⟨.arrive dest, .ok notes⟩ : Done ρ) = ⟨.arrive q, o⟩ :=
      ⟨dest, by simp, .ok notes, rfl⟩
    refine List.forall_mem_cons.2 ⟨.inl ⟨p, dest, .ok taken, rfl⟩,
      List.forall_mem_cons.2 ⟨.inr harrive, fun x hx => (ih x hx).imp_right ?_⟩⟩
    rintro ⟨q, hq, hx⟩
    exact ⟨q, List.mem_cons_of_mem dest hq, hx⟩

theorem Walked.step_of_mem {args : Args} {p : Page ρ} {rest : List (Page ρ)} {m m' : Memory ρ}
    {hs : List (Done ρ)} {r : Except RouteError (Page ρ)} (h : Walked args p rest m hs r m') :
    ∀ x ∈ hs, (∃ p dest o, x = ⟨.hop p dest args, o⟩) ∨ ∃ p o, x = ⟨.arrive p, o⟩ := by
  intro x hx
  obtain hhop | ⟨q, -, harrive⟩ := h.hop_or_arrive x hx
  · exact .inl hhop
  · exact .inr ⟨q, harrive⟩

/-- A walk that fails does so with one of its deeds. -/
theorem Walked.failed {args : Args} {p : Page ρ} {rest : List (Page ρ)} {m m' : Memory ρ}
    {hs : List (Done ρ)} {r : Except RouteError (Page ρ)} {e : RouteError}
    (h : Walked args p rest m hs r m') (hr : r = .error e) : ∃ d, ⟨d, .error e⟩ ∈ hs := by
  induction h with
  | here => cases hr
  | @stuck p dest =>
    cases hr
    exact ⟨.hop p dest args, by simp⟩
  | @unarrived p dest =>
    cases hr
    exact ⟨.arrive dest, by simp⟩
  | onward _ ih =>
    obtain ⟨d, hd⟩ := ih hr
    exact ⟨d, by simp [hd]⟩

/-- A replay fails with one of its deeds, or for want of a page to start from. -/
theorem Replayed.failed {args : Args} {chain : PathChain ρ} {m m' : Memory ρ} {hs : List (Done ρ)}
    {e : RouteError} (h : Replayed args chain m hs (.error e) m') :
    (∃ d, ⟨d, .error e⟩ ∈ hs) ∨ e = chain.adrift := by
  cases h with
  | anchored _ hwalk => exact .inl (hwalk.failed rfl)
  | unbuilt => exact .inl ⟨.recall m.lastDisplayed, by simp⟩
  | blank | gone => exact .inr rfl
  | @unseen p => exact .inl ⟨.recheck p, by simp⟩
  | remembered _ _ hwalk =>
    obtain ⟨d, hd⟩ := hwalk.failed rfl
    exact .inl ⟨d, by simp [hd]⟩

namespace Navigator
variable (nav : Navigator) (b : Browser σ)

/-- A look either fails and leaves the memory alone, or is logged. -/
theorem made_visit (p : Page ρ) (args : Args) (m : Memory ρ) (s : σ) :
    (visit p args).made nav b m s =
      match (Deed.look p).carryOut nav b s with
      | (.ok shown, s') => ⟨.ok (p.seen shown), m.visited p args shown, [⟨.look p, .ok shown⟩], s'⟩
      | (.error e, s') => ⟨.error e, m, [⟨.look p, .error e⟩], s'⟩ := by
  have hlook := Trip.made_perform nav b m s (.look p)
  cases h : (Deed.look p).carryOut nav b s with
  | mk r s' =>
    cases r with
    | error e => simp [visit, hlook, h]
    | ok shown => cases shown <;> simp [visit, hlook, h, Page.seen, Memory.visited]

theorem climbed_climb (limit : Nat) (args : Args) (room : Nat) (chain : PathChain ρ)
    (shown : Bool) (m : Memory ρ) (s : σ) :
    let o := (climb limit args room chain (chain.top.seen shown)).made nav b m s
    Climbed limit args room chain shown m o.history o.result o.memory := by
  induction room generalizing chain shown m s with
  | zero =>
    cases shown with
    | true => exact .displayed
    | false =>
      cases hreq : chain.top.prerequisite with
      | none => simpa [climb, Page.seen, hreq] using .root hreq
      | some c =>
        cases hin : chain.contains c with
        | true => simpa [climb, Page.seen, hreq, hin] using .circle hreq hin
        | false => simpa [climb, Page.seen, hreq, hin] using .tooDeep hreq hin
  | succ room ih =>
    cases shown with
    | true => exact .displayed
    | false =>
      cases hreq : chain.top.prerequisite with
      | none => simpa [climb, Page.seen, hreq] using .root hreq
      | some c =>
        cases hin : chain.contains c with
        | true => simpa [climb, Page.seen, hreq, hin] using .circle hreq hin
        | false =>
          cases hbuild : PageFamily.build c args with
          | error e => simpa [climb, Page.seen, hreq, hin, hbuild] using .unbuilt hreq hin hbuild
          | ok p =>
            cases hlook : (Deed.look p).carryOut nav b s with
            | mk r s' =>
              cases r with
              | error e =>
                simpa [climb, Page.seen, hreq, hin, hbuild, made_visit, hlook]
                  using .unseen hreq hin hbuild
              | ok shown =>
                have hrest := ih (chain.push p) shown (m.visited p args shown) s'
                simpa [climb, Page.seen, hreq, hin, hbuild, made_visit, hlook]
                  using .onward hreq hin hbuild hrest

theorem backtraced_backtrace (c : ρ) (args : Args) (m : Memory ρ) (s : σ) :
    let o := (nav.backtrace c args).made nav b m s
    Backtraced nav c args m o.history o.result o.memory := by
  cases hbuild : PageFamily.build c args with
  | error e => simpa [backtrace, hbuild] using .unbuilt hbuild
  | ok p =>
    cases hlook : (Deed.look p).carryOut nav b s with
    | mk r s' =>
      cases r with
      | error e => simpa [backtrace, hbuild, made_visit, hlook] using .unseen hbuild
      | ok shown =>
        have hrest := climbed_climb nav b nav.settings.maxBacktraceDepth args
          (nav.settings.maxBacktraceDepth - 1) { target := p } shown (m.visited p args shown) s'
        simpa [backtrace, hbuild, made_visit, hlook] using .begun hbuild hrest

theorem made_advance (args : Args) (p dest : Page ρ) (m : Memory ρ) (s : σ) :
    (advance args p dest).made nav b m s =
      match (Deed.hop p dest args).carryOut nav b s with
      | (.error e, s₁) => ⟨.error e, m, [⟨.hop p dest args, .error e⟩], s₁⟩
      | (.ok taken, s₁) =>
        match (Deed.arrive dest).carryOut nav b s₁ with
        | (.error e, s₂) =>
          ⟨.error e, m.stepped p dest taken,
            [⟨.hop p dest args, .ok taken⟩, ⟨.arrive dest, .error e⟩], s₂⟩
        | (.ok notes, s₂) =>
          ⟨.ok { dest with notes }, (m.stepped p dest taken).remember dest.cls args,
            [⟨.hop p dest args, .ok taken⟩, ⟨.arrive dest, .ok notes⟩], s₂⟩ := by
  have hhop := Trip.made_perform nav b m s (.hop p dest args)
  have harrive (m : Memory ρ) (s : σ) := Trip.made_perform nav b m s (.arrive dest)
  cases h : (Deed.hop p dest args).carryOut nav b s with
  | mk r s₁ =>
    cases r with
    | error e => simp [advance, hhop, h]
    | ok taken =>
      cases h' : (Deed.arrive dest).carryOut nav b s₁ with
      | mk r' s₂ => cases r' <;> simp [advance, hhop, harrive, h, h', Memory.stepped]

theorem walked_walk (args : Args) (p : Page ρ) (rest : List (Page ρ)) (m : Memory ρ) (s : σ) :
    let o := (walk args p rest).made nav b m s
    Walked args p rest m o.history o.result o.memory := by
  induction rest generalizing p m s with
  | nil => exact .here
  | cons dest rest ih =>
    cases hhop : (Deed.hop p dest args).carryOut nav b s with
    | mk r s₁ =>
      cases r with
      | error e => simpa [walk, made_advance, hhop] using .stuck
      | ok taken =>
        cases harrive : (Deed.arrive dest).carryOut nav b s₁ with
        | mk r' s₂ =>
          cases r' with
          | error e => simpa [walk, made_advance, hhop, harrive] using .unarrived
          | ok notes =>
            let reached : Page ρ := { dest with notes }
            have hrest := ih reached ((m.stepped p dest taken).remember dest.cls args) s₂
            simpa [walk, made_advance, hhop, harrive] using .onward hrest

theorem replayed_replay (args : Args) (chain : PathChain ρ) (m : Memory ρ) (s : σ) :
    let o := (replay args chain).made nav b m s
    Replayed args chain m o.history o.result o.memory := by
  cases hanchor : chain.anchored with
  | true =>
    have hwalk := walked_walk nav b args chain.top chain.forward.2 m s
    simpa [replay, hanchor] using .anchored hanchor hwalk
  | false =>
    have hrecall := Trip.made_perform nav b m s (.recall m.lastDisplayed)
    have hanswer : (Deed.recall m.lastDisplayed).carryOut nav b s =
        (Deed.rebuild m.lastDisplayed, s) := rfl
    cases hbuild : Deed.rebuild m.lastDisplayed with
    | error e =>
      simpa [replay, stillDisplayed, hanchor, hrecall, hanswer, hbuild]
        using .unbuilt hanchor hbuild
    | ok shown =>
      cases shown with
      | none =>
        simpa [replay, stillDisplayed, hanchor, hrecall, hanswer, hbuild]
          using .blank hanchor hbuild
      | some p =>
        have hrecheck := Trip.made_perform nav b m s (.recheck p)
        cases hlook : (Deed.recheck p).carryOut nav b s with
        | mk r s' =>
          cases r with
          | error e =>
            simpa [replay, stillDisplayed, hanchor, hrecall, hanswer, hbuild, hrecheck, hlook]
              using .unseen hanchor hbuild
          | ok still =>
            cases still with
            | false =>
              simpa [replay, stillDisplayed, hanchor, hrecall, hanswer, hbuild, hrecheck, hlook]
                using .gone hanchor hbuild
            | true =>
              have hwalk := walked_walk nav b args p (chain.top :: chain.forward.2) m s'
              simpa [replay, stillDisplayed, hanchor, hrecall, hanswer, hbuild, hrecheck, hlook]
                using .remembered hanchor hbuild hwalk

theorem made_navigation (c : ρ) (args : Args) (m : Memory ρ) (s : σ) :
    (nav.navigation c args).made nav b m s =
      ((nav.backtrace c args).made nav b m.next s).andThen fun chain m s =>
        (replay args chain).made nav b (m.along chain.names) s := by
  simp [navigation]

theorem navigated_navigation (c : ρ) (args : Args) (m : Memory ρ) (s : σ) :
    let o := (nav.navigation c args).made nav b m s
    Navigated nav c args m o.history o.result o.memory := by
  have hback := backtraced_backtrace nav b c args m.next s
  rw [made_navigation]
  cases hmade : (nav.backtrace c args).made nav b m.next s with
  | mk r m' hs s' =>
    rw [hmade] at hback
    cases r with
    | error e => exact .lost hback
    | ok chain =>
      exact .found hback (replayed_replay nav b args chain (m'.along chain.names) s')

/-- From the page on, when what had to be loaded before it is loaded. -/
theorem opened_opening (c : Option ρ) (url : Option String) (args : Args) (m : Memory ρ) (s : σ) :
    let o := (opening c url args).made nav b m s
    Opened args m c url o.history o.result o.memory := by
  have harrive (p : Page ρ) (s : σ) := Trip.made_perform nav b m.next s (.arrive p)
  cases url with
  | none =>
    cases c with
    | none => simpa [opening] using .nothing
    | some c =>
      cases hbuild : PageFamily.build c args with
      | error e => simpa [opening, hbuild] using .unbuilt hbuild
      | ok p =>
        have hload := Trip.made_perform nav b m.next s (.loadPage p)
        cases h : (Deed.loadPage p).carryOut nav b s with
        | mk r s₁ =>
          cases r with
          | error e => simpa [opening, hbuild, hload, h] using .unopened hbuild
          | ok _ =>
            cases h' : (Deed.arrive p).carryOut nav b s₁ with
            | mk r' s₂ =>
              cases r' with
              | error e => simpa [opening, hbuild, hload, h, harrive, h'] using .unarrived hbuild
              | ok notes => simpa [opening, hbuild, hload, h, harrive, h'] using .page hbuild
  | some url =>
    have hload := Trip.made_perform nav b m.next s (.load url)
    cases h : (Deed.load url : Deed ρ).carryOut nav b s with
    | mk r s₁ =>
      cases r with
      | error e => simpa [opening, hload, h] using .unloaded
      | ok _ =>
        cases c with
        | none => simpa [opening, hload, h] using .url
        | some c =>
          cases hbuild : PageFamily.build c args with
          | error e => simpa [opening, hbuild, hload, h] using .unbuilt hbuild
          | ok p =>
            cases h' : (Deed.arrive p).carryOut nav b s₁ with
            | mk r' s₂ =>
              cases r' with
              | error e => simpa [opening, hbuild, hload, h, harrive, h'] using .unarrived hbuild
              | ok notes => simpa [opening, hbuild, hload, h, harrive, h'] using .page hbuild

end Navigator
end Wayfinder
