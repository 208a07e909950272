import Mathlib.Data.List.Chain
import Mathlib.Data.List.Nodup
import Mathlib.Data.List.Perm.Subperm
import Wayfinder.Proofs.Page.Placeholders
import Wayfinder.Site.Validity

/-! Which site maps are accepted, and which defect of one that is not is named. A map is well formed
when its pages form a forest: names are distinct, what pages refer to is declared, and from every
page the prerequisites lead to one that requires none. Among defects the order is that of the
checks: names, then each page by itself, then circles. -/
namespace Wayfinder.SiteMap
variable {site : SiteMap}

def names (site : SiteMap) : List String := site.pages.map (·.name)

def Requires (site : SiteMap) (p q : PageDef) : Prop :=
  q ∈ site.pages ∧ p.prerequisite = some q.name

def Rooted (site : SiteMap) (p : PageDef) : Prop :=
  ∃ root, Relation.ReflTransGen site.Requires p root ∧ root.prerequisite = none

/-- The names passed on the way from a page along its prerequisites, up to the first that comes
again. -/
def Circle (site : SiteMap) (p : PageDef) (passed : List String) : Prop :=
  ∃ (way : List PageDef) (q : PageDef), List.IsChain site.Requires (p :: way ++ [q]) ∧
    ((p :: way).map (·.name)).Nodup ∧ q.name ∈ (p :: way).map (·.name) ∧
    passed = (p :: way ++ [q]).map (·.name)

structure PageSound (site : SiteMap) (p : PageDef) : Prop where
  path : Template.Closed p.path
  prerequisite : ∀ name, p.prerequisite = some name → name ∈ site.names
  destinations : ∀ s ∈ p.steps, s.dest ∈ site.names

structure WellFormed (site : SiteMap) : Prop where
  distinct : site.names.Nodup
  sound : ∀ p ∈ site.pages, site.PageSound p
  rooted : ∀ p ∈ site.pages, site.Rooted p

/-- The first defect of a page: of its path, then of its prerequisite, then of its steps. -/
inductive PageDefect (site : SiteMap) (p : PageDef) : SiteDefect → Prop
  | path (hopen : ¬Template.Closed p.path) :
      PageDefect site p (.template p.name (.unclosed p.path))
  | prerequisite {name} (hpath : Template.Closed p.path) (hreq : p.prerequisite = some name)
      (hunknown : name ∉ site.names) :
      PageDefect site p (.unknownPrerequisite p.name name)
  | destination {before s after} (hpath : Template.Closed p.path)
      (hreq : ∀ name, p.prerequisite = some name → name ∈ site.names)
      (hsteps : p.steps = before ++ s :: after) (hbefore : ∀ t ∈ before, t.dest ∈ site.names)
      (hunknown : s.dest ∉ site.names) :
      PageDefect site p (.unknownDestination p.name s.dest)

inductive FirstDefect (site : SiteMap) : SiteDefect → Prop
  | duplicate {before name after} (hnames : site.names = before ++ name :: after)
      (hbefore : before.Nodup) (hagain : name ∈ before) :
      FirstDefect site (.duplicatePage name)
  | page {before p after d} (hdistinct : site.names.Nodup)
      (hpages : site.pages = before ++ p :: after) (hbefore : ∀ q ∈ before, site.PageSound q)
      (hp : site.PageDefect p d) :
      FirstDefect site d
  | circle {before p after passed} (hdistinct : site.names.Nodup)
      (hsound : ∀ q ∈ site.pages, site.PageSound q) (hpages : site.pages = before ++ p :: after)
      (hbefore : ∀ q ∈ before, ∀ passed, ¬site.Circle q passed) (hp : site.Circle p passed) :
      FirstDefect site (.prerequisiteCycle passed)

theorem firstRepeat?_eq_none_iff {seen ns : List String} :
    firstRepeat? seen ns = none ↔ ns.Nodup ∧ ∀ n ∈ ns, n ∉ seen := by
  induction ns generalizing seen with
  | nil => simp [firstRepeat?]
  | cons a ns ih =>
    by_cases ha : a ∈ seen
    · simp [firstRepeat?, ha]
    · rw [firstRepeat?, if_neg ha, ih, List.nodup_cons, List.forall_mem_cons]
      simp only [List.mem_cons, not_or]
      constructor
      · rintro ⟨hnodup, hns⟩
        exact ⟨⟨fun hmem => (hns a hmem).1 rfl, hnodup⟩, ha, fun n hn => (hns n hn).2⟩
      · rintro ⟨⟨hnew, hnodup⟩, -, hns⟩
        exact ⟨hnodup, fun n hn => ⟨fun he => hnew (he ▸ hn), hns n hn⟩⟩

theorem firstRepeat?_eq_some_iff {seen ns : List String} {name : String} :
    firstRepeat? seen ns = some name ↔ ∃ before after, ns = before ++ name :: after ∧
      before.Nodup ∧ (∀ n ∈ before, n ∉ seen) ∧ (name ∈ before ∨ name ∈ seen) := by
  induction ns generalizing seen with
  | nil => simp [firstRepeat?]
  | cons a ns ih =>
    by_cases ha : a ∈ seen
    · simp only [firstRepeat?, ha, if_true, Option.some.injEq]
      constructor
      · rintro rfl
        exact ⟨[], ns, rfl, .nil, by simp, .inr ha⟩
      · rintro ⟨before, after, hns, -, hbefore, -⟩
        cases before with
        | nil => exact (List.cons_eq_cons.1 hns).1
        | cons c before =>
          obtain ⟨rfl, -⟩ := List.cons_eq_cons.1 hns
          exact absurd ha (hbefore a (by simp))
    · simp only [firstRepeat?, ha, if_false, ih]
      constructor
      · rintro ⟨before, after, rfl, hnodup, hbefore, hagain⟩
        have hnew : a ∉ before := fun hmem => hbefore a hmem (by simp)
        refine ⟨a :: before, after, rfl, List.nodup_cons.2 ⟨hnew, hnodup⟩, ?_, ?_⟩
        · exact List.forall_mem_cons.2
            ⟨ha, fun n hn hseen => hbefore n hn (List.mem_cons_of_mem a hseen)⟩
        · simpa [or_left_comm, or_assoc] using hagain
      · rintro ⟨before, after, hns, hnodup, hbefore, hagain⟩
        cases before with
        | nil =>
          obtain ⟨rfl, -⟩ := List.cons_eq_cons.1 hns
          exact absurd (by simpa using hagain) ha
        | cons c before =>
          obtain ⟨rfl, rfl⟩ := List.cons_eq_cons.1 hns
          obtain ⟨hnew, hnodup⟩ := List.nodup_cons.1 hnodup
          refine ⟨before, after, rfl, hnodup, fun n hn => ?_, ?_⟩
          · have hne : n ≠ a := fun he => hnew (he ▸ hn)
            simpa [hne] using hbefore n (List.mem_cons_of_mem a hn)
          · simpa [or_left_comm, or_assoc] using hagain

theorem declares_iff {name : String} : site.declares name = true ↔ name ∈ site.names := by
  simp [declares, names]

theorem unclosedPath?_eq_none_iff {p : PageDef} :
    unclosedPath? p = none ↔ Template.Closed p.path := by
  by_cases h : Template.Closed p.path
  · simp [unclosedPath?, Template.placeholders_eq_ok_iff.2 ⟨h, rfl⟩, h]
  · simp [unclosedPath?, Template.placeholders_of_not_closed h, h]

theorem unclosedPath?_eq_some_iff {p : PageDef} {d : SiteDefect} :
    unclosedPath? p = some d ↔
      ¬Template.Closed p.path ∧ .template p.name (.unclosed p.path) = d := by
  by_cases h : Template.Closed p.path
  · simp [unclosedPath?, Template.placeholders_eq_ok_iff.2 ⟨h, rfl⟩, h]
  · simp [unclosedPath?, Template.placeholders_of_not_closed h, h]

theorem unknownPrerequisite?_eq_none_iff {p : PageDef} :
    site.unknownPrerequisite? p = none ↔
      ∀ name, p.prerequisite = some name → name ∈ site.names := by
  simp [unknownPrerequisite?, ← declares_iff]

theorem unknownPrerequisite?_eq_some_iff {p : PageDef} {d : SiteDefect} :
    site.unknownPrerequisite? p = some d ↔ ∃ name, p.prerequisite = some name ∧
      name ∉ site.names ∧ .unknownPrerequisite p.name name = d := by
  simp [unknownPrerequisite?, ← declares_iff, and_assoc]

theorem unknownDestination?_eq_none_iff {p : PageDef} :
    site.unknownDestination? p = none ↔ ∀ s ∈ p.steps, s.dest ∈ site.names := by
  simp [unknownDestination?, ← declares_iff]

theorem unknownDestination?_eq_some_iff {p : PageDef} {d : SiteDefect} :
    site.unknownDestination? p = some d ↔ ∃ before s after, p.steps = before ++ s :: after ∧
      (∀ t ∈ before, t.dest ∈ site.names) ∧ s.dest ∉ site.names ∧
      .unknownDestination p.name s.dest = d := by
  simp only [unknownDestination?, Option.map_eq_some_iff, List.find?_eq_some_iff_append,
    ← declares_iff]
  constructor
  · rintro ⟨s, ⟨hs, before, after, hsteps, hbefore⟩, rfl⟩
    exact ⟨before, s, after, hsteps, by simpa using hbefore, by simpa using hs, rfl⟩
  · rintro ⟨before, s, after, hsteps, hbefore, hs, rfl⟩
    exact ⟨s, ⟨by simpa using hs, before, after, hsteps, by simpa using hbefore⟩, rfl⟩

theorem pageDefect?_eq_none_iff {p : PageDef} : site.pageDefect? p = none ↔ site.PageSound p := by
  simp only [pageDefect?, Option.or_eq_none_iff, unclosedPath?_eq_none_iff,
    unknownPrerequisite?_eq_none_iff, unknownDestination?_eq_none_iff]
  exact ⟨fun ⟨hpath, hreq, hsteps⟩ => ⟨hpath, hreq, hsteps⟩,
    fun h => ⟨h.path, h.prerequisite, h.destinations⟩⟩

theorem pageDefect?_eq_some_iff {p : PageDef} {d : SiteDefect} :
    site.pageDefect? p = some d ↔ site.PageDefect p d := by
  simp only [pageDefect?, Option.or_eq_some_iff, unclosedPath?_eq_none_iff,
    unclosedPath?_eq_some_iff, unknownPrerequisite?_eq_none_iff, unknownPrerequisite?_eq_some_iff,
    unknownDestination?_eq_some_iff]
  constructor
  · rintro (⟨hopen, rfl⟩ | ⟨hpath, ⟨name, hreq, hunknown, rfl⟩ |
      ⟨hreq, before, s, after, hsteps, hbefore, hunknown, rfl⟩⟩)
    · exact .path hopen
    · exact .prerequisite hpath hreq hunknown
    · exact .destination hpath hreq hsteps hbefore hunknown
  · rintro (hopen | ⟨hpath, hreq, hunknown⟩ | ⟨hpath, hreq, hsteps, hbefore, hunknown⟩)
    · exact .inl ⟨hopen, rfl⟩
    · exact .inr ⟨hpath, .inl ⟨_, hreq, hunknown, rfl⟩⟩
    · exact .inr ⟨hpath, .inr ⟨hreq, _, _, _, hsteps, hbefore, hunknown, rfl⟩⟩

theorem requires_of_required? {p q : PageDef} (h : site.required? p = some q) :
    site.Requires p q := by
  obtain ⟨name, hreq, hq⟩ := Option.bind_eq_some_iff.1 h
  exact ⟨mem_of_page? hq, by rw [hreq, name_of_page? hq]⟩

theorem eq_of_name (hdistinct : site.names.Nodup) {p q : PageDef} (hp : p ∈ site.pages)
    (hq : q ∈ site.pages) (hname : p.name = q.name) : p = q :=
  List.inj_on_of_nodup_map hdistinct hp hq hname

theorem page?_name (hdistinct : site.names.Nodup) {p : PageDef} (hp : p ∈ site.pages) :
    site.page? p.name = some p := by
  cases hpage : site.page? p.name with
  | none => exact absurd (List.find?_eq_none.1 hpage p hp) (by simp)
  | some q => rw [eq_of_name hdistinct (mem_of_page? hpage) hp (name_of_page? hpage)]

theorem required?_of_requires (hdistinct : site.names.Nodup) {p q : PageDef}
    (h : site.Requires p q) : site.required? p = some q := by
  rw [required?, h.2, Option.bind_some, page?_name hdistinct h.1]

theorem prerequisite_of_required?_eq_none {p : PageDef} (hsound : site.PageSound p)
    (h : site.required? p = none) : p.prerequisite = none := by
  cases hreq : p.prerequisite with
  | none => rfl
  | some name =>
    obtain ⟨q, hq, hname⟩ := List.mem_map.1 (hsound.prerequisite name hreq)
    rw [required?, hreq, Option.bind_some] at h
    exact absurd (List.find?_eq_none.1 h q hq) (by simpa using hname)

/-- A way that ends without a circle ends at a root. -/
theorem rooted_of_circleFrom? (hsound : ∀ q ∈ site.pages, site.PageSound q) {chain : List String}
    {p : PageDef} (hp : p ∈ site.pages) (h : site.circleFrom? chain p = none) : site.Rooted p := by
  fun_induction circleFrom? site chain p with
  | case1 chain p hreq => exact ⟨p, .refl, prerequisite_of_required?_eq_none (hsound p hp) hreq⟩
  | case2 chain p q hreq hin => cases h
  | case3 chain p q hreq hnew ih =>
    obtain ⟨root, hway, hroot⟩ := ih (mem_of_required? hreq) h
    exact ⟨root, hway.head (requires_of_required? hreq), hroot⟩

theorem way_of_circleFrom? {chain passed : List String} {p : PageDef} (hnodup : chain.Nodup)
    (h : site.circleFrom? chain p = some passed) :
    ∃ (way : List PageDef) (q : PageDef), List.IsChain site.Requires (p :: way ++ [q]) ∧
      (chain ++ way.map (·.name)).Nodup ∧ q.name ∈ chain ++ way.map (·.name) ∧
      passed = chain ++ (way ++ [q]).map (·.name) := by
  fun_induction circleFrom? site chain p with
  | case1 chain p hreq => cases h
  | case2 chain p q hreq hin =>
    cases h
    exact ⟨[], q, by simpa using requires_of_required? hreq, by simpa using hnodup,
      by simpa using hin, rfl⟩
  | case3 chain p q hreq hnew ih =>
    have hlonger : (chain ++ [q.name]).Nodup := by
      simpa [List.nodup_append] using ⟨hnodup, fun a ha he => hnew (he ▸ ha)⟩
    obtain ⟨way, r, hway, hdistinct, hagain, rfl⟩ := ih hlonger h
    refine ⟨q :: way, r, ?_, ?_, ?_, ?_⟩
    · exact List.isChain_cons_cons.2 ⟨requires_of_required? hreq, hway⟩
    · simpa using hdistinct
    · simpa using hagain
    · simp

/-- The way from a page is followed up to the first name that comes again. -/
theorem circleFrom?_of_way (hdistinct : site.names.Nodup) {way : List PageDef} {p q : PageDef}
    {chain : List String} (hway : List.IsChain site.Requires (p :: way ++ [q]))
    (hnodup : (chain ++ way.map (·.name)).Nodup) (hagain : q.name ∈ chain ++ way.map (·.name)) :
    site.circleFrom? chain p = some (chain ++ (way ++ [q]).map (·.name)) := by
  induction way generalizing chain p with
  | nil =>
    have hreq : site.Requires p q := by simpa using hway
    have hin : q.name ∈ chain := by simpa using hagain
    rw [circleFrom?]
    split <;> simp_all [required?_of_requires hdistinct hreq]
  | cons a way ih =>
    obtain ⟨hreq, hrest⟩ := List.isChain_cons_cons.1 hway
    have hnew : a.name ∉ chain := by
      intro hin
      exact (List.nodup_append.1 hnodup).2.2 a.name hin a.name (by simp) rfl
    have hlonger : site.circleFrom? (chain ++ [a.name]) a =
        some (chain ++ [a.name] ++ (way ++ [q]).map (·.name)) :=
      ih hrest (by simpa using hnodup) (by simpa using hagain)
    have hrequired := required?_of_requires hdistinct hreq
    rw [circleFrom?]
    split
    · simp_all
    · next b hb =>
      obtain rfl : b = a := by simpa [hrequired] using hb.symm
      simp [hnew, hlonger]

theorem circle?_eq_some_iff (hdistinct : site.names.Nodup) {p : PageDef} {passed : List String} :
    site.circle? p = some passed ↔ site.Circle p passed := by
  constructor
  · intro h
    obtain ⟨way, q, hway, hnodup, hagain, hpassed⟩ := way_of_circleFrom? (by simp) h
    exact ⟨way, q, hway, by simpa using hnodup, by simpa using hagain, by simpa using hpassed⟩
  · rintro ⟨way, q, hway, hnodup, hagain, rfl⟩
    have h : site.circleFrom? [p.name] p = some ([p.name] ++ (way ++ [q]).map (·.name)) :=
      circleFrom?_of_way hdistinct hway (by simpa using hnodup) (by simpa using hagain)
    simpa [circle?] using h

/-- A page of which the prerequisites lead to a root is not among those that they pass. -/
theorem Rooted.not_requires_self {p : PageDef} (hdistinct : site.names.Nodup)
    (h : site.Rooted p) : ¬Relation.TransGen site.Requires p p := by
  obtain ⟨root, hway, hroot⟩ := h
  induction hway using Relation.ReflTransGen.head_induction_on with
  | refl =>
    intro hcircle
    obtain ⟨q, hreq, -⟩ := Relation.TransGen.head'_iff.1 hcircle
    rw [hreq.2] at hroot
    cases hroot
  | @head p q hreq _ ih =>
    intro hcircle
    obtain ⟨q', hreq', hback⟩ := Relation.TransGen.head'_iff.1 hcircle
    -- A page requires one other only, so the circle goes through the next page as well.
    have hname : q'.name = q.name := Option.some.inj (hreq'.2.symm.trans hreq.2)
    obtain rfl := eq_of_name hdistinct hreq'.1 hreq.1 hname
    exact ih (Relation.TransGen.tail' hback hreq)

theorem Rooted.of_requires {p q : PageDef} (hdistinct : site.names.Nodup) (h : site.Rooted p)
    (hreq : site.Requires p q) : site.Rooted q := by
  obtain ⟨root, hway, hroot⟩ := h
  obtain rfl | ⟨q', hreq', hrest⟩ := hway.cases_head
  · rw [hreq.2] at hroot
    cases hroot
  · have hname : q'.name = q.name := Option.some.inj (hreq'.2.symm.trans hreq.2)
    obtain rfl := eq_of_name hdistinct hreq'.1 hreq.1 hname
    exact ⟨root, hrest, hroot⟩

theorem Rooted.of_way {p : PageDef} {way : List PageDef} (hdistinct : site.names.Nodup)
    (h : site.Rooted p) (hway : List.IsChain site.Requires (p :: way)) :
    ∀ q ∈ p :: way, site.Rooted q := by
  induction way generalizing p with
  | nil => simpa using h
  | cons a way ih =>
    obtain ⟨hreq, hrest⟩ := List.isChain_cons_cons.1 hway
    exact List.forall_mem_cons.2 ⟨h, ih (h.of_requires hdistinct hreq) hrest⟩

theorem transGen_of_way {p q : PageDef} {way : List PageDef}
    (hway : List.IsChain site.Requires (p :: way ++ [q])) :
    Relation.TransGen site.Requires p q := by
  induction way generalizing p with
  | nil => exact .single (by simpa using hway)
  | cons a way ih =>
    obtain ⟨hreq, hrest⟩ := List.isChain_cons_cons.1 hway
    exact .head hreq (ih hrest)

theorem mem_pages_of_way {p : PageDef} {way : List PageDef} (hp : p ∈ site.pages)
    (hway : List.IsChain site.Requires (p :: way)) : ∀ q ∈ p :: way, q ∈ site.pages := by
  induction way generalizing p with
  | nil => simpa using hp
  | cons a way ih =>
    obtain ⟨hreq, hrest⟩ := List.isChain_cons_cons.1 hway
    exact List.forall_mem_cons.2 ⟨hp, ih hreq.1 hrest⟩

/-- A way that comes to a name again goes around for ever, so it leads to no root. -/
theorem not_circle_of_rooted {p : PageDef} {passed : List String} (hdistinct : site.names.Nodup)
    (hp : p ∈ site.pages) (h : site.Rooted p) : ¬site.Circle p passed := by
  rintro ⟨way, q, hway, -, hagain, -⟩
  have hmem := mem_pages_of_way hp hway
  obtain ⟨x, hx, hname⟩ := List.mem_map.1 hagain
  obtain rfl : x = q := eq_of_name hdistinct (hmem x (List.mem_append_left [q] hx))
    (hmem q (by simp)) hname
  have hrooted : site.Rooted x := h.of_way hdistinct hway x (List.mem_append_left [x] hx)
  obtain ⟨before, after, hsplit⟩ := List.append_of_mem hx
  have hback : List.IsChain site.Requires (x :: after ++ [x]) := by
    rw [hsplit, List.append_assoc] at hway
    exact hway.right_of_append
  exact hrooted.not_requires_self hdistinct (transGen_of_way hback)

theorem circle?_eq_none_iff (hdistinct : site.names.Nodup)
    (hsound : ∀ q ∈ site.pages, site.PageSound q) {p : PageDef} (hp : p ∈ site.pages) :
    site.circle? p = none ↔ site.Rooted p := by
  constructor
  · exact rooted_of_circleFrom? hsound hp
  · intro h
    refine Option.eq_none_iff_forall_ne_some.2 fun passed hpassed => ?_
    exact not_circle_of_rooted hdistinct hp h ((circle?_eq_some_iff hdistinct).1 hpassed)

theorem defect?_eq_none_iff : site.defect? = none ↔ site.WellFormed := by
  simp only [defect?, Option.or_eq_none_iff, Option.map_eq_none_iff, firstRepeat?_eq_none_iff,
    List.findSome?_eq_none_iff, pageDefect?_eq_none_iff]
  constructor
  · rintro ⟨⟨hdistinct, -⟩, hsound, hcircle⟩
    exact ⟨hdistinct, hsound,
      fun p hp => (circle?_eq_none_iff hdistinct hsound hp).1 (hcircle p hp)⟩
  · intro h
    exact ⟨⟨h.distinct, by simp⟩, h.sound,
      fun p hp => (circle?_eq_none_iff h.distinct h.sound hp).2 (h.rooted p hp)⟩

theorem defect?_eq_some_iff {d : SiteDefect} : site.defect? = some d ↔ site.FirstDefect d := by
  simp only [defect?, Option.or_eq_some_iff, Option.map_eq_some_iff, Option.map_eq_none_iff,
    firstRepeat?_eq_none_iff, firstRepeat?_eq_some_iff, List.findSome?_eq_none_iff,
    List.findSome?_eq_some_iff, pageDefect?_eq_none_iff, pageDefect?_eq_some_iff]
  constructor
  · rintro (⟨name, ⟨before, after, hnames, hbefore, -, hagain⟩, rfl⟩ |
      ⟨⟨hdistinct, -⟩, ⟨before, p, after, hpages, hp, hbefore⟩ |
        ⟨hsound, passed, ⟨before, p, after, hpages, hp, hbefore⟩, rfl⟩⟩)
    · exact .duplicate hnames hbefore (by simpa using hagain)
    · exact .page hdistinct hpages hbefore hp
    · refine .circle hdistinct hsound hpages (fun q hq passed hcircle => ?_)
        ((circle?_eq_some_iff hdistinct).1 hp)
      rw [← circle?_eq_some_iff hdistinct, hbefore q hq] at hcircle
      cases hcircle
  · rintro (⟨hnames, hbefore, hagain⟩ | ⟨hdistinct, hpages, hbefore, hp⟩ |
      ⟨hdistinct, hsound, hpages, hbefore, hp⟩)
    · exact .inl ⟨_, ⟨_, _, hnames, hbefore, by simp, .inl hagain⟩, rfl⟩
    · exact .inr ⟨⟨hdistinct, by simp⟩, .inl ⟨_, _, _, hpages, hp, hbefore⟩⟩
    · refine .inr ⟨⟨hdistinct, by simp⟩, .inr ⟨hsound, _, ⟨_, _, _, hpages,
        (circle?_eq_some_iff hdistinct).2 hp, fun q hq => ?_⟩, rfl⟩⟩
      refine Option.eq_none_iff_forall_ne_some.2 fun passed hpassed => ?_
      exact hbefore q hq passed ((circle?_eq_some_iff hdistinct).1 hpassed)

theorem validate_eq_ok_iff : site.validate = .ok () ↔ site.WellFormed := by
  rw [← defect?_eq_none_iff, validate]
  cases site.defect? <;> simp

theorem validate_eq_error_iff {d : SiteDefect} :
    site.validate = .error d ↔ site.FirstDefect d := by
  rw [← defect?_eq_some_iff, validate]
  cases site.defect? <;> simp

/-- A walk passes no page twice before it ends, so it is no longer than the map. -/
theorem Circle.length_le {p : PageDef} {passed : List String} (hp : p ∈ site.pages)
    (h : site.Circle p passed) : passed.length ≤ site.pages.length + 1 := by
  obtain ⟨way, q, hway, hnodup, -, rfl⟩ := h
  have hmem := mem_pages_of_way hp hway
  have hsub : (p :: way).map (·.name) ⊆ site.names := by
    intro name hname
    obtain ⟨x, hx, rfl⟩ := List.mem_map.1 hname
    exact List.mem_map_of_mem (hmem x (List.mem_append_left [q] hx))
  have hlength := (List.subperm_of_subset hnodup hsub).length_le
  simpa [names] using hlength

/-- Validation accepts the well-formed maps and no others. Of any other map it names the first
defect, and a walk that it reports has at most one name more than the map has pages. -/
theorem validate_decides (site : SiteMap) :
    (site.validate = .ok () ↔ site.WellFormed) ∧
    (∀ d, site.validate = .error d ↔ site.FirstDefect d) ∧
    ∀ passed, site.validate = .error (.prerequisiteCycle passed) →
      passed.length ≤ site.pages.length + 1 := by
  refine ⟨validate_eq_ok_iff, fun d => validate_eq_error_iff, fun passed h => ?_⟩
  cases validate_eq_error_iff.1 h with
  | page _ _ _ hdefect => cases hdefect
  | circle _ _ hpages _ hcircle => exact hcircle.length_le (by simp [hpages])

end Wayfinder.SiteMap
