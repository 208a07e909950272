import Wayfinder.Proofs.Page.Rendering
import Wayfinder.Proofs.Site.Lineage
import Wayfinder.Proofs.Site.Validity
import Wayfinder.Sample.Manor

/-! The catalog of a site map beside its declarations and the pages that are built from them. A name
is looked up in three places: in the catalog, among the declarations, and by a page that asks for
the page it requires. On a map that has been accepted they all come to the same class. -/
namespace Wayfinder
variable {site : SiteMap} {args : Args}

namespace SiteMap
variable {name : String} {c : SitePage}

theorem isSome_class?_iff : (site.class? name).isSome = true ↔ name ∈ site.names := by
  simp [class?, page?, names]

def enlist (site : SiteMap) (catalog : Catalog SitePage) (p : PageDef) : Catalog SitePage :=
  match site.class? p.name with
  | some c => catalog.register c
  | none => catalog

theorem get?_enlist (site : SiteMap) (catalog : Catalog SitePage) (p : PageDef) (name : String) :
    (site.enlist catalog p).get? name =
      (if p.name = name then site.class? name else none).or (catalog.get? name) := by
  unfold enlist
  split
  · next c hc =>
    have hname : PageFamily.name c = p.name := (class?_eq_some hc).1
    rw [Catalog.register, SortedMap.get?_insert, hname]
    by_cases h : p.name = name
    · rw [if_pos h, if_pos h, ← h, hc, Option.some_or]
    · rw [if_neg h, if_neg h, Option.none_or]
  · next hc =>
    by_cases h : p.name = name
    · rw [if_pos h, ← h, hc, Option.none_or]
    · rw [if_neg h, Option.none_or]

/-- What a name comes to does not depend on how often it is registered, nor on the order. -/
theorem get?_foldl_enlist (ps : List PageDef) (catalog : Catalog SitePage) :
    (ps.foldl site.enlist catalog).get? name =
      (if name ∈ ps.map (·.name) then site.class? name else none).or (catalog.get? name) := by
  induction ps generalizing catalog with
  | nil => rfl
  | cons p ps ih =>
    rw [List.foldl_cons, ih, get?_enlist, ← Option.or_assoc, List.map_cons]
    congr 1
    by_cases hp : p.name = name
    · by_cases hps : name ∈ ps.map (·.name)
      · rw [if_pos hps, if_pos hp, if_pos (List.mem_cons_of_mem _ hps), Option.or_self]
      · rw [if_neg hps, if_pos hp, if_pos (List.mem_cons.2 (.inl hp.symm)), Option.none_or]
    · simp only [hp, if_false, Option.or_none, List.mem_cons, Ne.symm hp, false_or]

/-- The catalog has the classes of the map, and no others. -/
theorem get?_catalog (site : SiteMap) (name : String) :
    site.catalog.get? name = site.class? name := by
  have hfold : site.catalog = site.pages.foldl site.enlist ∅ := rfl
  have hempty : (∅ : Catalog SitePage).get? name = none := rfl
  rw [hfold, get?_foldl_enlist, hempty, Option.or_none]
  by_cases h : name ∈ site.names
  · exact if_pos h
  · rw [← isSome_class?_iff, Option.not_isSome_iff_eq_none] at h
    rw [h, ite_self]

theorem mem_keys_catalog : name ∈ site.catalog.keys ↔ name ∈ site.names := by
  rw [SortedMap.mem_keys, SortedMap.contains, get?_catalog, isSome_class?_iff]

theorem resolve_eq_ok_iff : site.catalog.resolve name = .ok c ↔ site.class? name = some c := by
  rw [Catalog.resolve, get?_catalog]
  cases site.class? name <;> simp

theorem exists_resolve_iff : (∃ c, site.catalog.resolve name = .ok c) ↔ name ∈ site.names := by
  simp only [resolve_eq_ok_iff]
  rw [← Option.isSome_iff_exists, isSome_class?_iff]

theorem class?_name (hdistinct : site.names.Nodup) {p : PageDef} (hp : p ∈ site.pages) :
    site.class? p.name = some ⟨site, p⟩ := by
  rw [class?, page?_name hdistinct hp]
  rfl

/-- The page that a sound declaration requires is found. -/
theorem PageSound.exists_required {p : PageDef} (h : site.PageSound p)
    (hreq : p.prerequisite = some name) :
    ∃ d, site.class? name = some d ∧ p.prerequisite.bind site.class? = some d := by
  have hname := isSome_class?_iff.2 (h.prerequisite name hreq)
  obtain ⟨d, hd⟩ := Option.isSome_iff_exists.1 hname
  exact ⟨d, hd, by rw [hreq, Option.bind_some, hd]⟩

end SiteMap

namespace SitePage
variable {c : SitePage} {p : Page SitePage} {ns : List String}

theorem build_isOk_iff :
    (∃ p, PageFamily.build c args = .ok p) ↔
      ∃ path, Template.render c.decl.path args = .ok path := by
  simp only [build_eq_ok_iff]
  exact ⟨fun ⟨p, path, hpath, _⟩ => ⟨path, hpath⟩, fun ⟨path, hpath⟩ => ⟨_, path, hpath, rfl⟩⟩

theorem build_eq_error_iff_absent {ps : List Template.Piece}
    (h : Template.Spelt ps c.decl.path.toList) {e : RouteError} :
    PageFamily.build c args = .error e ↔
      ∃ n, Template.firstAbsent? args (Template.names ps) = some n ∧
        e = .pageConstruction c.decl.name (.missing c.decl.path n) := by
  simp only [build_eq_error_iff, h.render_eq_error_iff]
  constructor
  · rintro ⟨_, ⟨n, hn, rfl⟩, rfl⟩
    exact ⟨n, hn, rfl⟩
  · rintro ⟨n, hn, rfl⟩
    exact ⟨_, ⟨n, hn, rfl⟩, rfl⟩

/-- A page asks its map for the class of the page it requires. -/
theorem prerequisite_eq (h : PageFamily.build c args = .ok p) :
    p.prerequisite = c.decl.prerequisite.bind c.site.class? := by
  obtain ⟨path, -, rfl⟩ := eq_page_of_build h
  rfl

end SitePage

/-- On a map that is accepted, the catalog has the declared pages under their names and in the order
of these. The class that it gives for a page builds the page if every placeholder of its path is
given, and otherwise the first one is named that is not. A page that is built is of that class, lies
at the path that is rendered, and asks for the page it requires by the class that the catalog has
for it. -/
theorem catalog_serves_declarations (site : SiteMap) (hvalid : site.validate = .ok ()) :
    (site.catalog.keys.Pairwise (· < ·) ∧
      ∀ name, name ∈ site.catalog.keys ↔ ∃ p ∈ site.pages, p.name = name) ∧
    (∀ name, (∃ c, site.catalog.resolve name = .ok c) ↔ ∃ p ∈ site.pages, p.name = name) ∧
    ∀ p ∈ site.pages, ∃ c ns, site.catalog.resolve p.name = .ok c ∧
      Template.placeholders p.path = .ok ns ∧
      ∀ args : Args,
        ((∃ page, PageFamily.build c args = .ok page) ↔ ∀ n ∈ ns, args.contains n = true) ∧
        (∀ e, PageFamily.build c args = .error e ↔
          ∃ n, Template.firstAbsent? args ns = some n ∧
            e = .pageConstruction p.name (.missing p.path n)) ∧
        ∀ page, PageFamily.build c args = .ok page →
          page.name = p.name ∧ page.cls = c ∧ Template.render p.path args = .ok page.path ∧
          (page.prerequisite = none ↔ p.prerequisite = none) ∧
          ∀ q, p.prerequisite = some q →
            ∃ d, site.catalog.resolve q = .ok d ∧ page.prerequisite = some d := by
  have hsite := SiteMap.validate_eq_ok_iff.1 hvalid
  refine ⟨⟨SortedMap.keys_sorted _, fun name => ?_⟩, fun name => ?_, fun p hp => ?_⟩
  · rw [SiteMap.mem_keys_catalog, SiteMap.names, List.mem_map]
  · rw [SiteMap.exists_resolve_iff, SiteMap.names, List.mem_map]
  have hsound := hsite.sound p hp
  have hclass := SiteMap.class?_name hsite.distinct hp
  obtain ⟨ps, hps⟩ := Template.closed_iff_spelt.1 hsound.path
  refine ⟨⟨site, p⟩, Template.names ps, SiteMap.resolve_eq_ok_iff.2 hclass, hps.placeholders_eq,
    fun args => ⟨SitePage.build_isOk_iff.trans hps.render_isOk_iff,
      fun e => SitePage.build_eq_error_iff_absent hps, fun page hbuild => ?_⟩⟩
  have hprerequisite := SitePage.prerequisite_eq hbuild
  obtain ⟨path, hrender, rfl⟩ := SitePage.eq_page_of_build hbuild
  refine ⟨rfl, rfl, hrender, ⟨fun hnone => ?_, fun hnone => ?_⟩, fun q hq => ?_⟩
  · -- What is required is found, so a page that asks for nothing requires nothing.
    refine Option.eq_none_iff_forall_ne_some.2 fun q hq => ?_
    obtain ⟨d, -, hd⟩ := hsound.exists_required hq
    cases hnone.symm.trans (hprerequisite.trans hd)
  · rw [hprerequisite, hnone, Option.bind_none]
  · obtain ⟨d, hd, hrequired⟩ := hsound.exists_required hq
    exact ⟨d, SiteMap.resolve_eq_ok_iff.2 hd, hprerequisite.trans hrequired⟩

namespace Manor

def vault : PageDef :=
  { name := "Vault", path := "/vault/\x7bkey\x7d", prerequisite := some "Cellar" }

def key : Args := SortedMap.ofPairs [("key", .str "brass")]

end Manor

theorem vault_is_served :
    Manor.site.validate = .ok () ∧ Manor.vault ∈ Manor.site.pages ∧
    ∃ c, Manor.site.catalog.resolve "Vault" = .ok c ∧
      PageFamily.build c ∅ =
        .error (.pageConstruction "Vault" (.missing "/vault/\x7bkey\x7d" "key")) ∧
      ∃ page d, PageFamily.build c Manor.key = .ok page ∧ page.path = "/vault/brass" ∧
        Manor.site.catalog.resolve "Cellar" = .ok d ∧ page.prerequisite = some d := by
  have hmem : Manor.vault ∈ Manor.site.pages := List.mem_cons_self
  obtain ⟨-, -, hserved⟩ := catalog_serves_declarations Manor.site Manor.validate_site
  obtain ⟨c, ns, hc, hns, hbuild⟩ := hserved Manor.vault hmem
  have hkey : Template.placeholders Manor.vault.path = .ok ["key"] := rfl
  obtain rfl : ["key"] = ns := Except.ok.inj (hkey.symm.trans hns)
  obtain ⟨-, hmissing, -⟩ := hbuild ∅
  obtain ⟨hgiven, -, hpage⟩ := hbuild Manor.key
  obtain ⟨page, hbuilt⟩ := hgiven.2 (by decide)
  obtain ⟨-, -, hpath, -, hrequired⟩ := hpage page hbuilt
  obtain ⟨d, hd, hpre⟩ := hrequired "Cellar" rfl
  have hrender : Template.render Manor.vault.path Manor.key = .ok "/vault/brass" := rfl
  have hunbuilt := (hmissing _).2 ⟨"key", rfl, rfl⟩
  refine ⟨Manor.validate_site, hmem, c, hc, hunbuilt, page, d, hbuilt, ?_, hd, hpre⟩
  exact Except.ok.inj (hpath.symm.trans hrender)

end Wayfinder
