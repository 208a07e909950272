import Wayfinder.Site.Pages

/-! What the pages of a site map offer: the links of the menu, and after them the steps that the
page itself declares. -/
namespace Wayfinder

def ParamDef.param : ParamDef → StepParam
  | .required name => { name }
  | .withDefault name default => { name, default := some default }

def StepDef.step (owner : String) (st : StepDef) : Step SitePage :=
  ⟨owner, st.stepName, .named st.dest, st.params.map ParamDef.param,
    .withArgs (Action.runAll · st.actions)⟩

def MenuLink.step (owner : String) (link : MenuLink) : Step SitePage :=
  ⟨owner, link.name, .href, [], .withPath link.follow⟩

/-- Parameters enter a draft in the order in which they are declared. -/
theorem ParamDef.foldl_declare {ρ : Type} (ds : List ParamDef) (draft : StepDraft ρ) :
    ds.foldl ParamDef.declare draft =
      { draft with params := draft.params ++ ds.map ParamDef.param } := by
  induction ds generalizing draft with
  | nil => simp
  | cons d ds ih =>
    rw [List.foldl_cons, ih]
    cases d <;> simp [ParamDef.declare, StepDraft.param, StepDraft.paramOr, ParamDef.param]

theorem StepDef.draft_eq {ρ : Type} (st : StepDef) :
    (st.draft : StepDraft ρ) =
      { name := st.stepName, destination := .named st.dest
        params := st.params.map ParamDef.param } :=
  ParamDef.foldl_declare st.params (.toNamed st.stepName st.dest)

theorem SitePage.steps_page (c : SitePage) (args : Args) (path : String) :
    (c.page args path).steps =
      ⟨c.decl.name, c.site.menu.map (·.step c.decl.name) ++
        c.decl.steps.map (·.step c.decl.name)⟩ := by
  have hmenu (links : List MenuLink) (t : Steps SitePage) :
      links.foldl (fun t link => t.href link.name link.follow) t =
        { t with list := t.list ++ links.map (·.step t.owner) } := by
    induction links generalizing t with
    | nil => simp
    | cons link links ih =>
      rw [List.foldl_cons, ih]
      simp [Steps.href, MenuLink.step]
  have hsteps (sts : List StepDef) (t : Steps SitePage) :
      sts.foldl (fun t st => t.add st.draft (Action.runAll · st.actions)) t =
        { t with list := t.list ++ sts.map (·.step t.owner) } := by
    induction sts generalizing t with
    | nil => simp
    | cons st sts ih =>
      rw [List.foldl_cons, ih]
      simp [Steps.add, StepDef.step, StepDef.draft_eq]
  change c.declareSteps (.empty c.decl.name) = _
  rw [SitePage.declareSteps, hmenu, hsteps]
  rfl

/-- A step that a page offers goes along the menu or is declared. -/
theorem SitePage.mem_steps_page {c : SitePage} {args : Args} {path : String} {s : Step SitePage} :
    s ∈ (c.page args path).steps.list ↔
      (∃ link ∈ c.site.menu, link.step c.decl.name = s) ∨
      ∃ st ∈ c.decl.steps, st.step c.decl.name = s := by
  rw [steps_page, List.mem_append, List.mem_map, List.mem_map]

end Wayfinder
