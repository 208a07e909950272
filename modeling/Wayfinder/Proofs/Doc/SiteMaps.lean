import Wayfinder.Proofs.Doc.Thinning
import Wayfinder.Proofs.Pipe.Framing
import Wayfinder.Site.Codec

/-! Site maps survive being written out, and the loss of what they would have by default. -/
namespace Wayfinder
open Thinning

namespace Hint

def thinning : Thinning := record fun _ => .nullable

theorem left_text {s : Option String} {o : Option Json}
    (h : Member.nullable.Left (s.map .str) o) :
    Doc.optional Doc.text? (o.map .json) = some s := by
  cases s with
  | none =>
    cases h
    rfl
  | some s => exact Member.Left.nullableText (s := some s) h

theorem spares (h : Hint) : thinning.Spares decode? h.encode h := by
  intro j' hj'
  have hnodup : (h.fields.map (·.1)).Nodup := by simp [fields]
  obtain ⟨l, rfl, hl, hleft⟩ := record_left hj' ((Json.keys_present h.fields).nodup hnodup)
  have hfield : ∀ k, Member.nullable.Left (h.fields.lookup k).join (l.lookup k) :=
    fun k => Json.lookup_present hnodup ▸ hleft k
  simp [decode?, fieldNames, Doc.fields?_members, hl, left_text (hfield "css"),
    left_text (hfield "role"), left_text (hfield "name"), left_text (hfield "tag"),
    left_text (hfield "type"), left_text (hfield "formId")]

theorem optional_spares (o : Option Hint) :
    thinning.Spares (Doc.optional? decode?) (.ofOption encode o) o := by
  refine Thinning.optional_spares (fun h hleaves => ?_) (fun j hleaves => ?_) spares o
  · cases hleaves
  · cases hleaves
    rfl

end Hint

namespace Check

def thinning : Thinning := tagged "check" fun _ _ => {}

theorem spares (c : Check) : thinning.Spares decode? c.encode c := by
  intro j' hj'
  cases c with
  | visible selector =>
    obtain ⟨l, rfl, hl, hleft⟩ := tagged_left hj' (by simp) rfl
    have hkind := (hleft "check").whole
    have hselector := (hleft "selector").text
    simp [decode?, kinds, Doc.variant?_members hl hkind, Doc.fields?_others, hl, hselector]
  | urlContains expected =>
    obtain ⟨l, rfl, hl, hleft⟩ := tagged_left hj' (by simp) rfl
    have hkind := (hleft "check").whole
    have hexpected := (hleft "expected").text
    simp [decode?, kinds, Doc.variant?_members hl hkind, Doc.fields?_others, hl, hexpected]
  | pathMatches =>
    obtain ⟨l, rfl, hl, hleft⟩ := tagged_left hj' (by simp) rfl
    have hkind := (hleft "check").whole
    simp [decode?, kinds, Doc.variant?_members hl hkind, Doc.others]

end Check

namespace ParamDef

def thinning : Thinning := record fun _ => {}

theorem spares (p : ParamDef) : thinning.Spares decode? p.encode p := by
  intro j' hj'
  cases p with
  | required name =>
    cases hj'
    rfl
  | withDefault name default =>
    obtain ⟨l, rfl, hl, hleft⟩ := record_left hj' (by simp)
    have hname := (hleft "name").text
    have hdefault : Doc.required Doc.json? _ = some default :=
      (hleft "default").required rfl (spares_whole rfl)
    simp [decode?, Doc.settle, Doc.fields?_members, hl, hname, hdefault]

end ParamDef

namespace Action

def members : String → String → Member
  | "click", "selector" | "fill", "selector" => { thinning := Hint.thinning }
  | _, _ => {}

def thinning : Thinning := tagged "action" members

theorem spares (a : Action) : thinning.Spares decode? a.encode a := by
  intro j' hj'
  cases a with
  | click hint =>
    obtain ⟨l, rfl, hl, hleft⟩ := tagged_left hj' (by simp) rfl
    have hkind := (hleft "action").whole
    have hselector := (hleft "selector").required rfl hint.spares
    simp [decode?, kinds, Doc.variant?_members hl hkind, Doc.fields?_others, hl, hselector]
  | fill hint value =>
    obtain ⟨l, rfl, hl, hleft⟩ := tagged_left hj' (by simp) rfl
    have hkind := (hleft "action").whole
    have hselector := (hleft "selector").required rfl hint.spares
    have hvalue := (hleft "value").text
    simp [decode?, kinds, Doc.variant?_members hl hkind, Doc.fields?_others, hl, hselector, hvalue]
  | goto path =>
    obtain ⟨l, rfl, hl, hleft⟩ := tagged_left hj' (by simp) rfl
    have hkind := (hleft "action").whole
    have hpath := (hleft "path").text
    simp [decode?, kinds, Doc.variant?_members hl hkind, Doc.fields?_others, hl, hpath]

end Action

namespace StepDef

def members : String → Member
  | "name" => .nullable
  | "params" => .list ParamDef.thinning
  | "actions" => { thinning := .each Action.thinning }
  | _ => {}

def thinning : Thinning := record members

theorem spares (s : StepDef) : thinning.Spares decode? s.encode s := by
  intro j' hj'
  obtain ⟨l, rfl, hl, hleft⟩ := record_left hj' (by simp)
  have hdest := (hleft "to").text
  have hname := (hleft "name").nullableText
  have hparams := (hleft "params").list fun p _ => p.spares
  have hactions := (hleft "actions").required rfl (each_spares fun a _ => a.spares)
  simp [decode?, Doc.fields?_members, hl, hdest, hname, hparams, hactions]

end StepDef

namespace MenuLink

def members : String → Member
  | "selector" => .nullable Hint.thinning
  | _ => {}

def thinning : Thinning := record members

theorem spares (link : MenuLink) : thinning.Spares decode? link.encode link := by
  intro j' hj'
  obtain ⟨l, rfl, hl, hleft⟩ := record_left hj' (by simp)
  have hname := (hleft "name").text
  have hselector := (hleft "selector").nullable (fun _ => nofun) (Hint.optional_spares _)
  simp [decode?, Doc.fields?_members, hl, hname, hselector]

end MenuLink

namespace PageDef

def members : String → Member
  | "prerequisite" => .nullable
  | "checks" => .list Check.thinning
  | "steps" => .list StepDef.thinning
  | _ => {}

def thinning : Thinning := record members

theorem spares (p : PageDef) : thinning.Spares decode? p.encode p := by
  intro j' hj'
  obtain ⟨l, rfl, hl, hleft⟩ := record_left hj' (by simp)
  have hname := (hleft "name").text
  have hpath := (hleft "path").text
  have hprerequisite := (hleft "prerequisite").nullableText
  have hchecks := (hleft "checks").list fun c _ => c.spares
  have hsteps := (hleft "steps").list fun s _ => s.spares
  simp [decode?, Doc.fields?_members, hl, hname, hpath, hprerequisite, hchecks, hsteps]

end PageDef

namespace SiteMap

def members : String → Member
  | "menu" => .list MenuLink.thinning
  | "pages" => { thinning := .each PageDef.thinning }
  | _ => {}

def thinning : Thinning := record members

theorem spares (site : SiteMap) : thinning.Spares decode? site.encode site := by
  intro j' hj'
  obtain ⟨l, rfl, hl, hleft⟩ := record_left hj' (by simp)
  have hname := (hleft "name").text
  have hmenu := (hleft "menu").list fun link _ => link.spares
  have hpages := (hleft "pages").required rfl (each_spares fun p _ => p.spares)
  simp [decode?, Doc.fields?_members, hl, hname, hmenu, hpages]

end SiteMap
end Wayfinder
