import Wayfinder.Site.Pages

/-! The lineage of a page: the page, the one that it requires, and so on up to one that requires
none. The classes of a site map are known by their names, so a lineage never comes to a name twice.
-/
namespace Wayfinder
variable {ρ : Type} [PageFamily ρ] {args : Args}

def Page.Built (args : Args) (p : Page ρ) : Prop := PageFamily.build p.cls args = .ok p

theorem Page.Built.eq_of_cls {p q : Page ρ} (hp : p.Built args) (hq : q.Built args)
    (hcls : p.cls = q.cls) : p = q := by
  have hbuild : PageFamily.build q.cls args = .ok p := hcls ▸ hp
  rw [Page.Built, hbuild] at hq
  simpa using hq

/-- Pages each of which requires the next one, the last none. -/
def Lineage (args : Args) : List (Page ρ) → Prop
  | [] => False
  | [p] => p.Built args ∧ p.prerequisite = none
  | p :: q :: rest => p.Built args ∧ p.prerequisite = some q.cls ∧ Lineage args (q :: rest)

namespace Lineage

theorem built {ps : List (Page ρ)} (h : Lineage args ps) : ∀ p ∈ ps, p.Built args := by
  induction ps with
  | nil => exact h.elim
  | cons p rest ih =>
    cases rest with
    | nil => simpa using h.1
    | cons q rest =>
      obtain ⟨hp, -, hrest⟩ := h
      exact List.forall_mem_cons.2 ⟨hp, ih hrest⟩

theorem of_append (ps : List (Page ρ)) {q : Page ρ} {rest : List (Page ρ)}
    (h : Lineage args (ps ++ q :: rest)) : Lineage args (q :: rest) := by
  induction ps with
  | nil => exact h
  | cons p ps ih =>
    cases ps with
    | nil => exact h.2.2
    | cons a ps => exact ih h.2.2

/-- A page has one lineage. -/
theorem unique {p : Page ρ} {ps qs : List (Page ρ)} (h : Lineage args (p :: ps))
    (h' : Lineage args (p :: qs)) : ps = qs := by
  induction ps generalizing p qs with
  | nil =>
    cases qs with
    | nil => rfl
    | cons q qs =>
      have hreq := h'.2.1
      rw [h.2] at hreq
      cases hreq
  | cons a ps ih =>
    obtain ⟨-, hreq, hrest⟩ := h
    cases qs with
    | nil =>
      rw [h'.2] at hreq
      cases hreq
    | cons q qs =>
      obtain ⟨-, hreq', hrest'⟩ := h'
      rw [hreq] at hreq'
      have hcls : a.cls = q.cls := Option.some.inj hreq'
      have haq : a = q := (hrest.built a (by simp)).eq_of_cls (hrest'.built q (by simp)) hcls
      subst haq
      rw [ih hrest hrest']

/-- A page does not come again in its lineage. -/
theorem not_mem {p : Page ρ} {ps : List (Page ρ)} (h : Lineage args (p :: ps)) : p ∉ ps := by
  intro hmem
  obtain ⟨before, after, rfl⟩ := List.append_of_mem hmem
  -- What follows the second place would be a shorter lineage of the same page.
  have hsuffix : Lineage args (p :: after) := of_append (p :: before) h
  have hlength := congrArg List.length (h.unique hsuffix)
  simp only [List.length_append, List.length_cons] at hlength
  omega

end Lineage

namespace SiteMap

theorem class?_eq_some {site : SiteMap} {name : String} {c : SitePage}
    (h : site.class? name = some c) : c.decl.name = name ∧ site.class? c.decl.name = some c := by
  obtain ⟨d, hd, rfl⟩ := Option.map_eq_some_iff.1 h
  have hname : d.name = name := name_of_page? hd
  exact ⟨hname, by rw [hname]; exact h⟩

end SiteMap

namespace SitePage

@[simp] theorem name_eq (c : SitePage) : PageFamily.name c = c.decl.name := rfl

theorem build_eq_ok_iff {c : SitePage} {p : Page SitePage} :
    PageFamily.build c args = .ok p ↔
      ∃ path, Template.render c.decl.path args = .ok path ∧ p = c.page args path := by
  change c.build args = .ok p ↔ _
  unfold build
  cases Template.render c.decl.path args <;> simp [eq_comm]

theorem build_eq_error_iff {c : SitePage} {e : RouteError} :
    PageFamily.build c args = .error e ↔
      ∃ cause, Template.render c.decl.path args = .error cause ∧
        e = .pageConstruction c.decl.name cause := by
  change c.build args = .error e ↔ _
  unfold build
  cases Template.render c.decl.path args <;> simp [eq_comm]

theorem eq_page_of_build {c : SitePage} {p : Page SitePage} (h : PageFamily.build c args = .ok p) :
    ∃ path, Template.render c.decl.path args = .ok path ∧ p = c.page args path :=
  build_eq_ok_iff.1 h

theorem built_of_build {c : SitePage} {p : Page SitePage} (h : PageFamily.build c args = .ok p) :
    p.Built args := by
  have hcls : p.cls = c := cls_of_build h
  rw [Page.Built, hcls]
  exact h

def Listed (site : SiteMap) (c : SitePage) : Prop :=
  c.site = site ∧ site.class? c.decl.name = some c

theorem listed_of_class? {site : SiteMap} {name : String} {c : SitePage}
    (h : site.class? name = some c) : c.Listed site := by
  refine ⟨?_, (SiteMap.class?_eq_some h).2⟩
  obtain ⟨d, -, rfl⟩ := Option.map_eq_some_iff.1 h
  rfl

theorem Listed.eq_of_same {site : SiteMap} {c d : SitePage} (hc : c.Listed site)
    (hd : d.Listed site) (hsame : PageFamily.same c d = true) : c = d := by
  have hkey : ClassKey.declared c.decl.name = .declared d.decl.name := PageFamily.same_iff.1 hsame
  have hname : c.decl.name = d.decl.name := by simpa using hkey
  have hclass := hc.2
  rw [hname, hd.2] at hclass
  exact (Option.some.inj hclass).symm

theorem Listed.prerequisite {site : SiteMap} {p : Page SitePage} {d : SitePage}
    (hc : p.cls.Listed site) (hp : p.Built args) (hreq : p.prerequisite = some d) :
    d.Listed site := by
  obtain ⟨path, -, hpage⟩ := eq_page_of_build hp
  rw [hpage] at hreq
  obtain ⟨name, -, hd⟩ := Option.bind_eq_some_iff.1 hreq
  rw [hc.1] at hd
  exact listed_of_class? hd

end SitePage

namespace Lineage

theorem listed {site : SiteMap} {p : Page SitePage} {ps : List (Page SitePage)}
    (h : Lineage args (p :: ps)) (hp : p.cls.Listed site) : ∀ q ∈ p :: ps, q.cls.Listed site := by
  induction ps generalizing p with
  | nil => simpa using hp
  | cons q ps ih =>
    obtain ⟨hbuilt, hreq, hrest⟩ := h
    exact List.forall_mem_cons.2 ⟨hp, ih hrest (hp.prerequisite hbuilt hreq)⟩

/-- No two pages of a lineage are of one class. -/
theorem pairwise {site : SiteMap} {p : Page SitePage} {ps : List (Page SitePage)}
    (h : Lineage args (p :: ps)) (hp : p.cls.Listed site) :
    (p :: ps).Pairwise fun q r => PageFamily.same q.cls r.cls = false := by
  induction ps generalizing p with
  | nil => simp
  | cons q ps ih =>
    have hlisted := h.listed hp
    have hrest : Lineage args (q :: ps) := h.2.2
    refine List.pairwise_cons.2 ⟨fun r hr => ?_, ih hrest (hlisted q (by simp))⟩
    cases hsame : PageFamily.same p.cls r.cls with
    | false => rfl
    | true =>
      have hcls := hp.eq_of_same (hlisted r (List.mem_cons_of_mem p hr)) hsame
      have hbuilt : r.Built args := h.built r (List.mem_cons_of_mem p hr)
      have heq : p = r := h.1.eq_of_cls hbuilt hcls
      rw [heq] at h
      exact absurd hr h.not_mem

end Lineage
end Wayfinder
