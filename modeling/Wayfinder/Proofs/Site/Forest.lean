import Mathlib.Data.List.Flatten
import Wayfinder.Proofs.Site.Validity
import Wayfinder.Proofs.Text.Lines
import Wayfinder.Sample.Manor
import Wayfinder.Site.Forest

/-! The printed forest of a site map that is accepted. Drawing a page and then, one level deeper,
each page that requires it comes to an end, and what it gives has every page once: at the depth of
its prerequisites, under the page that it requires, and in the order of declaration among its like.
-/
namespace Wayfinder.SiteMap
variable {site : SiteMap}

inductive Depth (site : SiteMap) : PageDef → Nat → Prop
  | root {p} (h : p.prerequisite = none) : Depth site p 0
  | under {p q n} (hreq : site.Requires p q) (h : Depth site q n) : Depth site p (n + 1)

theorem mem_roots {p : PageDef} : p ∈ site.roots ↔ p ∈ site.pages ∧ p.prerequisite = none := by
  simp [roots, Option.isNone_iff_eq_none]

theorem mem_dependents {p q : PageDef} (hp : p ∈ site.pages) :
    q ∈ site.dependents p.name ↔ q ∈ site.pages ∧ site.Requires q p := by
  simp [dependents, Requires, hp]

theorem mem_pages_of_reflTransGen {p q : PageDef} (hp : p ∈ site.pages)
    (h : Relation.ReflTransGen site.Requires p q) : q ∈ site.pages := by
  obtain rfl | ⟨_, _, hlast⟩ := h.cases_tail
  · exact hp
  · exact hlast.1

theorem Requires.right_unique (hdistinct : site.names.Nodup) :
    Relator.RightUnique site.Requires := by
  intro p q r hq hr
  exact eq_of_name hdistinct hq.1 hr.1 (Option.some.inj (hq.2.symm.trans hr.2))

/-- The pages from one to its root are different pages of the map. -/
theorem Depth.exists_chain (h : site.WellFormed) {p : PageDef} {n : Nat} (hdepth : site.Depth p n)
    (hp : p ∈ site.pages) : ∃ chain : List PageDef, chain.length = n + 1 ∧ chain.Nodup ∧
      chain ⊆ site.pages ∧ ∀ q ∈ chain, Relation.ReflTransGen site.Requires p q := by
  induction hdepth with
  | @root p _ => exact ⟨[p], rfl, by simp, by simpa using hp, by simp [Relation.ReflTransGen.refl]⟩
  | @under p q n hreq _ ih =>
    obtain ⟨chain, hlength, hnodup, hpages, hway⟩ := ih hreq.1
    have hnew : p ∉ chain := fun hmem =>
      (h.rooted p hp).not_requires_self h.distinct (.head' hreq (hway p hmem))
    refine ⟨p :: chain, by simp [hlength], List.nodup_cons.2 ⟨hnew, hnodup⟩,
      List.cons_subset.2 ⟨hp, hpages⟩, List.forall_mem_cons.2 ⟨.refl, fun r hr => ?_⟩⟩
    exact (hway r hr).head hreq

theorem Depth.lt_length (h : site.WellFormed) {p : PageDef} {n : Nat} (hdepth : site.Depth p n)
    (hp : p ∈ site.pages) : n < site.pages.length := by
  obtain ⟨chain, hlength, hnodup, hpages, -⟩ := hdepth.exists_chain h hp
  have hle := (List.subperm_of_subset hnodup hpages).length_le
  omega

/-- Drawing a page and what is below it ends, and gives these pages with their levels. -/
inductive Drawing (site : SiteMap) : Nat → PageDef → List (Nat × PageDef) → Prop
  | page {depth p} (below : PageDef → List (Nat × PageDef))
      (h : ∀ q ∈ site.dependents p.name, Drawing site (depth + 1) q (below q)) :
      Drawing site depth p ((depth, p) :: (site.dependents p.name).flatMap below)

def drawnLines (drawn : List (Nat × PageDef)) : List String :=
  drawn.map fun x => treeLine x.1 x.2

/-- The room that the tree is given is enough for it. -/
theorem exists_drawing (h : site.WellFormed) {room depth : Nat} {p : PageDef}
    (hp : p ∈ site.pages) (hdepth : site.Depth p depth) (hroom : site.pages.length ≤ room + depth) :
    ∃ drawn, site.Drawing depth p drawn ∧ site.treeFrom room depth p = drawnLines drawn := by
  induction room generalizing depth p with
  | zero =>
    have hlt := hdepth.lt_length h hp
    omega
  | succ room ih =>
    have hbelow : ∀ q ∈ site.dependents p.name, ∃ drawn, site.Drawing (depth + 1) q drawn ∧
        site.treeFrom room (depth + 1) q = drawnLines drawn := by
      intro q hq
      obtain ⟨hq, hreq⟩ := (mem_dependents hp).1 hq
      exact ih hq (.under hreq hdepth) (by omega)
    choose! below hdrawing hlines using hbelow
    refine ⟨_, .page below hdrawing, ?_⟩
    rw [treeFrom, drawnLines, List.map_cons, List.map_flatMap]
    congr 1
    exact List.flatMap_congr hlines

/-- A page leads to one of several pages only, if there is no way from any of these to another. -/
theorem nodup_flatMap (hdistinct : site.names.Nodup) {ps : List PageDef}
    {below : PageDef → List (Nat × PageDef)} (hps : ps.Nodup)
    (hbelow : ∀ p ∈ ps, ((below p).map (·.2)).Nodup)
    (hways : ∀ p ∈ ps, ∀ x ∈ below p, Relation.ReflTransGen site.Requires x.2 p)
    (hapart : ∀ p ∈ ps, ∀ q ∈ ps, p ≠ q → ¬Relation.ReflTransGen site.Requires p q) :
    ((ps.flatMap below).map (·.2)).Nodup := by
  rw [List.map_flatMap, List.nodup_flatMap]
  refine ⟨hbelow, hps.pairwise_of_forall_ne fun p hp q hq hne y hyp hyq => ?_⟩
  obtain ⟨x, hx, rfl⟩ := List.mem_map.1 hyp
  obtain ⟨z, hz, hzx⟩ := List.mem_map.1 hyq
  have hwayq : Relation.ReflTransGen site.Requires x.2 q := hzx ▸ hways q hq z hz
  obtain hway | hway := Relation.ReflTransGen.total_of_right_unique
    (Requires.right_unique hdistinct) (hways p hp x hx) hwayq
  · exact hapart p hp q hq hne hway
  · exact hapart q hq p hp hne.symm hway

namespace Drawing
variable {depth : Nat} {p : PageDef} {drawn : List (Nat × PageDef)}

theorem exists_cons (h : site.Drawing depth p drawn) : ∃ rest, drawn = (depth, p) :: rest := by
  cases h with
  | page below _ => exact ⟨_, rfl⟩

theorem unique (h : site.Drawing depth p drawn) {other : List (Nat × PageDef)}
    (h' : site.Drawing depth p other) : drawn = other := by
  induction h generalizing other with
  | page below _ ih =>
    cases h' with
    | page below' hbelow' =>
      rw [List.flatMap_congr fun q hq => ih q hq (hbelow' q hq)]

/-- What holds of the first page, and of every page that requires one of which it holds, holds of
all that are drawn. -/
theorem forall_mem {P : Nat → PageDef → Prop} (h : site.Drawing depth p drawn)
    (hp : p ∈ site.pages) (hfirst : P depth p)
    (hnext : ∀ d q r, P d q → r ∈ site.pages → site.Requires r q → P (d + 1) r) :
    ∀ x ∈ drawn, P x.1 x.2 := by
  induction h with
  | page below _ ih =>
    refine List.forall_mem_cons.2 ⟨hfirst, fun x hx => ?_⟩
    obtain ⟨q, hq, hx⟩ := List.mem_flatMap.1 hx
    obtain ⟨hmem, hreq⟩ := (mem_dependents hp).1 hq
    exact ih q hq hmem (hnext _ _ _ hfirst hmem hreq) x hx

theorem mem_pages (h : site.Drawing depth p drawn) (hp : p ∈ site.pages) :
    ∀ x ∈ drawn, x.2 ∈ site.pages :=
  h.forall_mem (P := fun _ q => q ∈ site.pages) hp hp fun _ _ _ _ hr _ => hr

theorem depth_of_mem (h : site.Drawing depth p drawn) (hp : p ∈ site.pages)
    (hdepth : site.Depth p depth) : ∀ x ∈ drawn, site.Depth x.2 x.1 :=
  h.forall_mem (P := fun d q => site.Depth q d) hp hdepth fun _ _ _ hq _ hreq => .under hreq hq

theorem way_of_mem (h : site.Drawing depth p drawn) (hp : p ∈ site.pages) :
    ∀ x ∈ drawn, Relation.ReflTransGen site.Requires x.2 p :=
  h.forall_mem (P := fun _ q => Relation.ReflTransGen site.Requires q p) hp .refl
    fun _ _ _ hq _ hreq => hq.head hreq

theorem le_depth (h : site.Drawing depth p drawn) (hp : p ∈ site.pages) :
    ∀ x ∈ drawn, depth ≤ x.1 :=
  h.forall_mem (P := fun d _ => depth ≤ d) hp (Nat.le_refl _)
    fun _ _ _ hq _ _ => Nat.le_succ_of_le hq

/-- All pages from which one comes to the first are drawn. -/
theorem mem_of_way (h : site.Drawing depth p drawn) (hp : p ∈ site.pages) {q : PageDef}
    (hq : q ∈ site.pages) (hway : Relation.ReflTransGen site.Requires q p) :
    q ∈ drawn.map (·.2) := by
  induction h with
  | @page depth p below _ ih =>
    obtain rfl | ⟨r, hfront, hreq⟩ := hway.cases_tail
    · simp
    · have hr := mem_pages_of_reflTransGen hq hfront
      have hchild : r ∈ site.dependents p.name := (mem_dependents hp).2 ⟨hr, hreq⟩
      obtain ⟨x, hx, rfl⟩ := List.mem_map.1 (ih r hchild hr hfront)
      exact List.mem_map_of_mem (List.mem_cons_of_mem _ (List.mem_flatMap.2 ⟨r, hchild, hx⟩))

/-- No page is drawn below two that require the same one, for from one of these there is no way to
the other. -/
theorem nodup (h : site.Drawing depth p drawn) (hvalid : site.WellFormed) (hp : p ∈ site.pages) :
    (drawn.map (·.2)).Nodup := by
  induction h with
  | @page depth p below hbelow ih =>
    have hback : ∀ q, site.Requires q p → ¬Relation.ReflTransGen site.Requires p q :=
      fun q hreq hway => (hvalid.rooted p hp).not_requires_self hvalid.distinct (.tail' hway hreq)
    have hapart : ∀ q ∈ site.dependents p.name, ∀ r ∈ site.dependents p.name, q ≠ r →
        ¬Relation.ReflTransGen site.Requires q r := by
      intro q hq r hr hne hway
      obtain ⟨-, hreq⟩ := (mem_dependents hp).1 hq
      obtain ⟨-, hreq'⟩ := (mem_dependents hp).1 hr
      obtain rfl | ⟨c, hc, hrest⟩ := hway.cases_head
      · exact hne rfl
      · obtain rfl := Requires.right_unique hvalid.distinct hreq hc
        exact hback r hreq' hrest
    have hways : ∀ q ∈ site.dependents p.name, ∀ x ∈ below q,
        Relation.ReflTransGen site.Requires x.2 q :=
      fun q hq => (hbelow q hq).way_of_mem ((mem_dependents hp).1 hq).1
    have hpages : (site.dependents p.name).Nodup := (hvalid.distinct.of_map _).filter _
    rw [List.map_cons, List.nodup_cons]
    refine ⟨fun hmem => ?_, nodup_flatMap hvalid.distinct hpages
      (fun q hq => ih q hq ((mem_dependents hp).1 hq).1) hways hapart⟩
    obtain ⟨x, hx, hxp⟩ := List.mem_map.1 hmem
    obtain ⟨q, hq, hx⟩ := List.mem_flatMap.1 hx
    have hway := hways q hq x hx
    rw [hxp] at hway
    exact hback q ((mem_dependents hp).1 hq).2 hway

end Drawing

/-- One page is drawn behind another with only deeper ones than that between them. -/
def Hangs (drawn : List (Nat × PageDef)) (x : Nat × PageDef) (q : PageDef) : Prop :=
  ∃ before depth between after, drawn = before ++ (depth, q) :: (between ++ x :: after) ∧
    ∀ y ∈ between, depth < y.1

theorem Hangs.append {drawn : List (Nat × PageDef)} {x : Nat × PageDef} {q : PageDef}
    (h : Hangs drawn x q) (before after : List (Nat × PageDef)) :
    Hangs (before ++ (drawn ++ after)) x q := by
  obtain ⟨front, depth, between, rest, rfl, hbetween⟩ := h
  exact ⟨before ++ front, depth, between, rest ++ after, by simp, hbetween⟩

theorem hangs_flatMap {below : PageDef → List (Nat × PageDef)} {ps : List PageDef} {p : PageDef}
    (hp : p ∈ ps) {x : Nat × PageDef} {q : PageDef} (h : Hangs (below p) x q) :
    Hangs (ps.flatMap below) x q := by
  obtain ⟨before, after, rfl⟩ := List.append_of_mem hp
  simpa using h.append (before.flatMap below) (after.flatMap below)

theorem sublist_flatMap {α : Type} {f : α → List α} {l : List α} (h : ∀ a ∈ l, a ∈ f a) :
    l.Sublist (l.flatMap f) := by
  induction l with
  | nil => exact List.Sublist.refl _
  | cons a l ih =>
    obtain ⟨ha, hl⟩ := List.forall_mem_cons.1 h
    exact (List.singleton_sublist.2 ha).append (ih hl)

namespace Drawing
variable {depth : Nat} {p : PageDef} {drawn : List (Nat × PageDef)}

theorem hangs (h : site.Drawing depth p drawn) (hdistinct : site.names.Nodup)
    (hp : p ∈ site.pages) :
    ∀ x ∈ drawn, ∀ q, site.Requires x.2 q → x = (depth, p) ∨ Hangs drawn x q := by
  induction h with
  | @page depth p below hbelow ih =>
    intro x hx q hreq
    obtain rfl | hx := List.mem_cons.1 hx
    · exact .inl rfl
    · obtain ⟨c, hc, hx⟩ := List.mem_flatMap.1 hx
      obtain ⟨hmem, hcreq⟩ := (mem_dependents hp).1 hc
      obtain rfl | hhangs := ih c hc hmem x hx q hreq
      · obtain rfl := Requires.right_unique hdistinct hcreq hreq
        obtain ⟨before, after, hsplit⟩ := List.append_of_mem hc
        obtain ⟨rest, hrest⟩ := (hbelow c hc).exists_cons
        refine .inr ⟨[], depth, before.flatMap below, rest ++ after.flatMap below, ?_, ?_⟩
        · simp [hsplit, hrest]
        · intro y hy
          obtain ⟨b, hb, hy⟩ := List.mem_flatMap.1 hy
          have hb : b ∈ site.dependents p.name := by
            rw [hsplit]
            exact List.mem_append_left _ hb
          exact (hbelow b hb).le_depth ((mem_dependents hp).1 hb).1 y hy
      · have hfirst := (hangs_flatMap hc hhangs).append [(depth, p)] []
        rw [List.append_nil] at hfirst
        exact .inr hfirst

theorem dependents_sublist (h : site.Drawing depth p drawn) :
    ∀ x ∈ drawn, (site.dependents x.2.name).Sublist (drawn.map (·.2)) := by
  induction h with
  | @page depth p below hbelow ih =>
    rw [List.map_cons, List.map_flatMap]
    refine List.forall_mem_cons.2 ⟨?_, fun x hx => ?_⟩
    · refine (sublist_flatMap fun q hq => ?_).cons p
      obtain ⟨rest, hrest⟩ := (hbelow q hq).exists_cons
      simp [hrest]
    · obtain ⟨q, hq, hx⟩ := List.mem_flatMap.1 hx
      have hblock := (List.infix_flatMap_of_mem hq fun q => (below q).map (·.2)).sublist
      exact ((ih q hq x hx).trans hblock).cons p

end Drawing

theorem indent_chars (depth : Nat) :
    (List.replicate depth "  ").flatMap String.toList = List.replicate (2 * depth) ' ' := by
  induction depth with
  | zero => rfl
  | succ depth ih =>
    rw [List.replicate_succ, List.flatMap_cons, ih]
    rfl

/-- Two spaces for each level, the name, the path and, if there are steps, where they lead. -/
def lineChars (depth : Nat) (p : PageDef) : List Char :=
  List.replicate (2 * depth) ' ' ++ p.name.toList ++ ' ' :: p.path.toList ++
    if p.steps = [] then []
    else " -> [".toList ++ [',', ' '].intercalate (p.steps.map (·.dest.toList)) ++ [']']

theorem toList_treeLine (depth : Nat) (p : PageDef) :
    (treeLine depth p).toList = lineChars depth p := by
  by_cases hsteps : p.steps = []
  · simp [treeLine, lineChars, indent_chars, hsteps]
  · simp [treeLine, lineChars, indent_chars, hsteps, String.toList_intercalate, Function.comp_def]

def OneLine (site : SiteMap) : Prop :=
  ∀ p ∈ site.pages, '\n' ∉ p.name.toList ∧ '\n' ∉ p.path.toList

theorem newline_not_mem_treeLine (h : site.WellFormed) (hline : site.OneLine) (depth : Nat)
    {p : PageDef} (hp : p ∈ site.pages) : '\n' ∉ (treeLine depth p).toList := by
  have hdest : ∀ s ∈ p.steps, '\n' ∉ s.dest.toList := by
    intro s hs
    obtain ⟨q, hq, hname⟩ := List.mem_map.1 ((h.sound p hp).destinations s hs)
    rw [← hname]
    exact (hline q hq).1
  obtain ⟨hname, hpath⟩ := hline p hp
  have hsteps : '\n' ∉ [',', ' '].intercalate (p.steps.map (·.dest.toList)) := by
    intro hmem
    obtain hsep | ⟨piece, hpiece, hin⟩ := Text.mem_of_mem_intercalate hmem
    · simp at hsep
    · obtain ⟨s, hs, rfl⟩ := List.mem_map.1 hpiece
      exact hdest s hs hin
  rw [toList_treeLine, lineChars]
  split <;> simp [hname, hpath, hsteps]

/-- What is drawn of a map: every page once, in its depth, under the page that it requires with
only deeper ones between, and in the order of declaration among the roots and among the pages that
require the same one. -/
structure Forest (site : SiteMap) (drawn : List (Nat × PageDef)) : Prop where
  ends : ∃ below, drawn = site.roots.flatMap below ∧
    ∀ root ∈ site.roots, site.Drawing 0 root (below root)
  once : (drawn.map (·.2)).Perm site.pages
  depth : ∀ x ∈ drawn, site.Depth x.2 x.1
  hangs : ∀ x ∈ drawn, ∀ q, site.Requires x.2 q → Hangs drawn x q
  roots : site.roots.Sublist (drawn.map (·.2))
  siblings : ∀ q ∈ site.pages, (site.dependents q.name).Sublist (drawn.map (·.2))

theorem Forest.of_drawing (h : site.WellFormed) {below : PageDef → List (Nat × PageDef)}
    (hbelow : ∀ root ∈ site.roots, site.Drawing 0 root (below root)) :
    site.Forest (site.roots.flatMap below) := by
  have hroot : ∀ root ∈ site.roots, root ∈ site.pages ∧ root.prerequisite = none :=
    fun root hroot => mem_roots.1 hroot
  have hnodup : ((site.roots.flatMap below).map (·.2)).Nodup := by
    refine nodup_flatMap h.distinct ((h.distinct.of_map _).filter _)
      (fun root hr => (hbelow root hr).nodup h (hroot root hr).1)
      (fun root hr => (hbelow root hr).way_of_mem (hroot root hr).1) ?_
    intro p hp q _ hne hway
    obtain rfl | ⟨c, hreq, -⟩ := hway.cases_head
    · exact hne rfl
    · have hnone := (hroot p hp).2
      rw [hreq.2] at hnone
      cases hnone
  have hdrawn : ∀ x ∈ site.roots.flatMap below, ∃ root ∈ site.roots, x ∈ below root :=
    fun x hx => List.mem_flatMap.1 hx
  have hall : ∀ p ∈ site.pages, ∃ x ∈ site.roots.flatMap below, x.2 = p := by
    intro p hp
    obtain ⟨root, hway, hnone⟩ := h.rooted p hp
    have hmem := mem_pages_of_reflTransGen hp hway
    have hr := mem_roots.2 ⟨hmem, hnone⟩
    obtain ⟨x, hx, hxp⟩ := List.mem_map.1 ((hbelow root hr).mem_of_way hmem hp hway)
    exact ⟨x, List.mem_flatMap.2 ⟨root, hr, hx⟩, hxp⟩
  refine ⟨⟨below, rfl, hbelow⟩, ?once, ?depth, ?hangs, ?roots, ?siblings⟩
  case once =>
    refine (List.perm_ext_iff_of_nodup hnodup (h.distinct.of_map _)).2 fun p => ?_
    refine ⟨fun hp => ?_, fun hp => List.mem_map.2 (hall p hp)⟩
    obtain ⟨x, hx, rfl⟩ := List.mem_map.1 hp
    obtain ⟨root, hr, hx⟩ := hdrawn x hx
    exact (hbelow root hr).mem_pages (hroot root hr).1 x hx
  case depth =>
    intro x hx
    obtain ⟨root, hr, hx⟩ := hdrawn x hx
    exact (hbelow root hr).depth_of_mem (hroot root hr).1 (.root (hroot root hr).2) x hx
  case hangs =>
    intro x hx q hreq
    obtain ⟨root, hr, hx⟩ := hdrawn x hx
    obtain rfl | hhangs := (hbelow root hr).hangs h.distinct (hroot root hr).1 x hx q hreq
    · have hnone := (hroot root hr).2
      rw [hreq.2] at hnone
      cases hnone
    · exact hangs_flatMap hr hhangs
  case roots =>
    rw [List.map_flatMap]
    refine sublist_flatMap fun root hr => ?_
    obtain ⟨rest, hrest⟩ := (hbelow root hr).exists_cons
    simp [hrest]
  case siblings =>
    intro q hq
    obtain ⟨x, hx, rfl⟩ := hall q hq
    obtain ⟨root, hr, hx⟩ := hdrawn x hx
    have hblock := (List.infix_flatMap_of_mem hr fun q => (below q).map (·.2)).sublist
    rw [List.map_flatMap]
    exact ((hbelow root hr).dependents_sublist x hx).trans hblock

theorem exists_forest (h : site.WellFormed) :
    ∃ drawn, site.Forest drawn ∧ site.treeLines = drawnLines drawn := by
  have hroots : ∀ root ∈ site.roots, ∃ drawn, site.Drawing 0 root drawn ∧
      site.treeFrom site.pages.length 0 root = drawnLines drawn := by
    intro root hroot
    obtain ⟨hmem, hnone⟩ := mem_roots.1 hroot
    exact exists_drawing h hmem (.root hnone) (by omega)
  choose! below hbelow hlines using hroots
  refine ⟨site.roots.flatMap below, .of_drawing h hbelow, ?_⟩
  rw [treeLines, List.flatMap_congr hlines, drawnLines, List.map_flatMap]
  rfl

/-- The tree of an accepted map whose names and paths run over no lines is a forest of all its
pages, one line for each: two spaces for every prerequisite in its chain, the name, the path and
where its steps lead. -/
theorem tree_complete_and_exact (site : SiteMap) (hvalid : site.validate = .ok ())
    (hline : site.OneLine) : ∃ drawn, site.Forest drawn ∧
      site.tree = String.join (drawn.map fun x => treeLine x.1 x.2 ++ "\n") ∧
      Text.lines site.tree = drawn.map (fun x => treeLine x.1 x.2) ∧
      ∀ x ∈ drawn, (treeLine x.1 x.2).toList = lineChars x.1 x.2 := by
  have h := validate_eq_ok_iff.1 hvalid
  obtain ⟨drawn, hforest, hlines⟩ := exists_forest h
  have hbreaks : ∀ l ∈ drawnLines drawn, '\n' ∉ l.toList := by
    intro l hl
    obtain ⟨x, hx, rfl⟩ := List.mem_map.1 hl
    have hpage : x.2 ∈ site.pages := hforest.once.mem_iff.1 (List.mem_map_of_mem hx)
    exact newline_not_mem_treeLine h hline x.1 hpage
  refine ⟨drawn, hforest, ?_, ?_, fun x _ => toList_treeLine x.1 x.2⟩
  · rw [tree, hlines, drawnLines, List.map_map]
    rfl
  · rw [tree, hlines]
    exact Text.lines_join hbreaks

theorem tree_of_manor : Manor.site.validate = .ok () ∧ Manor.site.OneLine ∧
    ∃ drawn, Manor.site.Forest drawn ∧
      Manor.site.tree = String.join (drawn.map fun x => treeLine x.1 x.2 ++ "\n") ∧
      Text.lines Manor.site.tree = drawn.map (fun x => treeLine x.1 x.2) ∧
      ∀ x ∈ drawn, (treeLine x.1 x.2).toList = lineChars x.1 x.2 := by
  have hline : Manor.site.OneLine := by
    unfold OneLine
    decide
  exact ⟨Manor.validate_site, hline, tree_complete_and_exact _ Manor.validate_site hline⟩

example : Manor.site.tree =
    "Gate /gate -> [Hall]\n" ++
    "Hall /hall -> [Attic, Cellar]\n" ++
    "  Cellar /cellar\n" ++
    "    Vault /vault/\x7bkey\x7d\n" ++
    "  Attic /attic\n" := by cbv

end Wayfinder.SiteMap
