import Wayfinder.Proofs.Page.Rendering
import Wayfinder.Proofs.Site.Offered
import Wayfinder.Proofs.Site.Unclosed
import Wayfinder.Sample.Terrace

/-! Filling the hints of a site map. An action fills its hint by rendering, a link of the menu by
looking for its one placeholder and replacing it. Where both apply, they come to the same hint. -/
namespace Wayfinder
variable {ps : List Template.Piece} {cs : List Char} {args : Args} {t : String} {hint filled : Hint}

namespace Template

/-- Every brace that opens begins the one placeholder, so replacing misses none and hits nothing
else; what has been put in is not looked at again. -/
theorem Spelt.replace_eq (h : Spelt ps cs) {key : String} (hkey : ∀ n ∈ names ps, n = key)
    (sub : String) :
    Text.replace ("\x7b" ++ key ++ "\x7d").toList sub.toList cs =
      ps.flatMap (Piece.put fun _ => sub) := by
  have hpattern : ("\x7b" ++ key ++ "\x7d").toList = '\x7b' :: (key.toList ++ ['\x7d']) := by simp
  rw [hpattern, Text.replace, if_neg nofun]
  induction h with
  | nil => rfl
  | letter hc h ih =>
    rw [Text.replaceFrom_other (Ne.symm hc), ih hkey]
    rfl
  | @slot name ps cs hname h ih =>
    obtain ⟨hslot, hrest⟩ := List.forall_mem_cons.1 hkey
    have hname' : name = key.toList := by rw [← hslot, String.toList_ofList]
    have hread : name ++ '\x7d' :: cs = (key.toList ++ ['\x7d']) ++ cs := by simp [hname']
    rw [hread, Text.replaceFrom_occurrence, ih hrest]
    rfl

theorem render_eq_replaceText {ns : List String} {key : String} {v : Json}
    (h : placeholders t = .ok ns) (hns : ∀ n ∈ ns, n = key) (hv : args.get? key = some v) :
    render t args = .ok (replaceText ("\x7b" ++ key ++ "\x7d") (argText v) t) := by
  obtain ⟨ps, hps, rfl⟩ := spelt_of_placeholders h
  have hvalue : ∀ n ∈ names ps, args.get? n = some v := fun n hn => by rw [hns n hn, hv]
  rw [hps.render_of_given hvalue, replaceText, hps.replace_eq hns]

end Template

structure Hint.Renders (args : Args) (hint filled : Hint) : Prop where
  css : Option.Rel (fun t text => Template.render t args = .ok text) hint.css filled.css
  name : Option.Rel (fun t text => Template.render t args = .ok text) hint.name filled.name
  others : filled = { hint with css := filled.css, name := filled.name }

theorem fillTemplate_of_render {text : String} (h : Template.render t args = .ok text) :
    fillTemplate t args = pure text := by
  rw [fillTemplate, h]

theorem fillOptional_of_rel {o o' : Option String}
    (h : Option.Rel (fun t text => Template.render t args = .ok text) o o') :
    fillOptional args o = pure o' := by
  cases h with
  | none => rfl
  | some h => rw [fillOptional, fillTemplate_of_render h, map_pure]

theorem Hint.Renders.fillHint_eq (h : hint.Renders args filled) :
    fillHint hint args = pure filled := by
  rw [fillHint, fillOptional_of_rel h.css, pure_bind, fillOptional_of_rel h.name, pure_bind,
    ← h.others]

theorem rel_map_of_forall {α β : Type} {r : α → β → Prop} {f : α → β} {o : Option α}
    (h : ∀ a ∈ o.toList, r a (f a)) : Option.Rel r o (o.map f) := by
  cases o with
  | none => exact .none
  | some a => exact .some (h a (List.mem_singleton_self a))

theorem Hint.renders_mapText {f : String → String}
    (h : ∀ t ∈ hint.templates, Template.render t args = .ok (f t)) :
    hint.Renders args (hint.mapText f) := by
  obtain ⟨hcss, hname⟩ := List.forall_mem_append.1 h
  exact ⟨rel_map_of_forall hcss, rel_map_of_forall hname, rfl⟩

def linkArgs (path : String) : Args := SortedMap.ofPairs [("path", Json.str path)]

theorem get?_linkArgs (path : String) : (linkArgs path).get? "path" = some (.str path) := by
  change (SortedMap.empty.insert "path" (Json.str path)).get? "path" = _
  rw [SortedMap.get?_insert, if_pos rfl]

theorem Hint.renders_link
    (h : ∀ t ∈ hint.templates, ∃ ns, Template.placeholders t = .ok ns ∧ ∀ n ∈ ns, n = "path")
    (path : String) :
    hint.Renders (linkArgs path) (hint.mapText (replaceText "\x7bpath\x7d" path)) := by
  refine renders_mapText fun t ht => ?_
  obtain ⟨ns, hplaceholders, hns⟩ := h t ht
  have hpattern : "\x7bpath\x7d" = "\x7b" ++ "path" ++ "\x7d" := rfl
  rw [Template.render_eq_replaceText hplaceholders hns (get?_linkArgs path), ← hpattern]
  rfl

theorem MenuLink.hintFor_anchor (name path : String) :
    hintFor { name } path =
      hintFor { name, selector := some (.ofCss "a[href='\x7bpath\x7d']") } path := by
  have hanchor : replaceText "\x7bpath\x7d" path "a[href='\x7bpath\x7d']" =
      "a[href='" ++ path ++ "']" := by
    apply String.toList_inj.1
    simp only [replaceText, String.toList_ofList, String.toList_append]
    rfl
  simp only [hintFor, Hint.mapText, Hint.ofCss, Hint.linkTo, Option.map_some, Option.map_none,
    hanchor]

/-- A link whose templates hold no placeholder but its path is filled by replacing as it would be by
rendering. Without a hint of its own it is the link that has the anchor for its hint. -/
theorem links_fill_as_rendered :
    (∀ (hint : Hint) (name path : String),
      (∀ t ∈ hint.templates, ∃ ns, Template.placeholders t = .ok ns ∧ ∀ n ∈ ns, n = "path") →
      let filled := MenuLink.hintFor { name, selector := some hint } path
      filled = hint.mapText (replaceText "\x7bpath\x7d" path) ∧
      fillHint hint (linkArgs path) = pure filled ∧
      filled.role = hint.role ∧ filled.tag = hint.tag ∧ filled.inputType = hint.inputType ∧
      filled.formId = hint.formId) ∧
    ∀ name : String,
      let link : MenuLink := { name, selector := some (.ofCss "a[href='\x7bpath\x7d']") }
      (∀ path, MenuLink.hintFor { name } path = link.hintFor path) ∧
      (∀ path, MenuLink.follow { name } path = link.follow path) ∧
      ∀ owner, MenuLink.step owner { name } = link.step owner := by
  refine ⟨fun hint name path h => ?_, fun name => ?_⟩
  · exact ⟨rfl, (Hint.renders_link h path).fillHint_eq, rfl, rfl, rfl, rfl⟩
  · have hfollow (path : String) : MenuLink.follow { name } path =
        MenuLink.follow { name, selector := some (.ofCss "a[href='\x7bpath\x7d']") } path := by
      rw [MenuLink.follow, MenuLink.follow, MenuLink.hintFor_anchor]
    refine ⟨MenuLink.hintFor_anchor name, hfollow, fun owner => ?_⟩
    rw [MenuLink.step, MenuLink.step, funext hfollow]

namespace Terrace

def signpost : Hint :=
  { css := some "a[href='\x7bpath\x7d'] \x7d", role := some "link", name := some "To \x7bpath\x7d" }

theorem signpost_templates :
    ∀ t ∈ signpost.templates, ∃ ns, Template.placeholders t = .ok ns ∧ ∀ n ∈ ns, n = "path" := by
  refine List.forall_mem_cons.2 ⟨⟨["path"], rfl, by simp⟩, ?_⟩
  exact List.forall_mem_singleton.2 ⟨["path"], rfl, by simp⟩

end Terrace

/-- A path that looks like the placeholder itself is put in once. -/
theorem signpost_is_filled :
    (∀ t ∈ Terrace.signpost.templates,
      ∃ ns, Template.placeholders t = .ok ns ∧ ∀ n ∈ ns, n = "path") ∧
    fillHint Terrace.signpost (linkArgs "/\x7bpath\x7d") =
      pure { css := some "a[href='/\x7bpath\x7d'] \x7d", role := some "link"
             name := some "To /\x7bpath\x7d" } := by
  obtain ⟨hfilled, hfill, -⟩ := links_fill_as_rendered.1 Terrace.signpost "sign" "/\x7bpath\x7d"
    Terrace.signpost_templates
  refine ⟨Terrace.signpost_templates, hfill.trans ?_⟩
  rw [hfilled]
  rfl

end Wayfinder
