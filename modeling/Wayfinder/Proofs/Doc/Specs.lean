import Wayfinder.Proofs.Doc.SiteMaps
import Wayfinder.Sample.House
import Wayfinder.Spec.Codec

/-! Specs and results survive being written out, and the loss of what they would have by default.
Numbers must be within their types: counts have 32 bits, indices 64. -/
namespace Wayfinder
open Thinning

namespace Thinning

theorem flag_spares (b : Bool) : whole.Spares Doc.flag? (.bool b) b := spares_whole rfl

theorem natUpTo_spares {bound n : Nat} (h : n ≤ bound) :
    whole.Spares (Doc.natUpTo? bound) (.ofNat n) n := by
  refine spares_whole ?_
  simp [Json.ofNat, Doc.natUpTo?, h]

theorem texts_spares (l : List String) : whole.Spares (Doc.listOf Doc.text?) (.ofStrings l) l :=
  spares_whole (each_spares fun s _ => text_spares s).reads

end Thinning

namespace Assertion

def Fits : Assertion → Prop
  | .elementCount _ expected => expected ≤ maxCount
  | _ => True

def members : String → String → Member
  | "page_displayed", "args" => .map
  | _, _ => {}

def thinning : Thinning := tagged "type" members

theorem spares (a : Assertion) (hfits : a.Fits) : thinning.Spares decode? a.encode a := by
  intro j' hj'
  cases a with
  | urlContains expected =>
    obtain ⟨l, rfl, hl, hleft⟩ := tagged_left hj' (by simp) rfl
    have hkind := (hleft "type").whole
    have hexpected := (hleft "expected").text
    simp [decode?, kinds, Doc.variant?_members hl hkind, Doc.fields?_others, hl, hexpected]
  | urlEquals expected =>
    obtain ⟨l, rfl, hl, hleft⟩ := tagged_left hj' (by simp) rfl
    have hkind := (hleft "type").whole
    have hexpected := (hleft "expected").text
    simp [decode?, kinds, Doc.variant?_members hl hkind, Doc.fields?_others, hl, hexpected]
  | pageDisplayed page args =>
    obtain ⟨l, rfl, hl, hleft⟩ := tagged_left hj' (by simp) rfl
    have hkind := (hleft "type").whole
    have hpage := (hleft "page").text
    have hargs := (hleft "args").map
    simp [decode?, kinds, Doc.variant?_members hl hkind, Doc.fields?_others, hl, hpage, hargs]
  | elementText selector expected =>
    obtain ⟨l, rfl, hl, hleft⟩ := tagged_left hj' (by simp) rfl
    have hkind := (hleft "type").whole
    have hselector := (hleft "selector").text
    have hexpected := (hleft "expected").text
    simp [decode?, kinds, Doc.variant?_members hl hkind, Doc.fields?_others, hl, hselector,
      hexpected]
  | elementVisible selector =>
    obtain ⟨l, rfl, hl, hleft⟩ := tagged_left hj' (by simp) rfl
    have hkind := (hleft "type").whole
    have hselector := (hleft "selector").text
    simp [decode?, kinds, Doc.variant?_members hl hkind, Doc.fields?_others, hl, hselector]
  | elementCount selector expected =>
    obtain ⟨l, rfl, hl, hleft⟩ := tagged_left hj' (by simp) rfl
    have hkind := (hleft "type").whole
    have hselector := (hleft "selector").text
    have hexpected := (hleft "expected").required rfl (natUpTo_spares hfits)
    simp [decode?, kinds, Doc.variant?_members hl hkind, Doc.fields?_others, hl, hselector,
      hexpected]

end Assertion

namespace SpecStep

def Fits : SpecStep → Prop
  | .check assertions => ∀ a ∈ assertions, a.Fits
  | _ => True

def members : String → String → Member
  | "open", "page" | "open", "url" => .nullable
  | "open", "args" | "navigate", "args" => .map
  | "click", "selector" | "fill", "selector" => { thinning := Hint.thinning }
  | "assert", "assertions" => { thinning := .each Assertion.thinning }
  | _, _ => {}

def thinning : Thinning := tagged "action" members

theorem spares (s : SpecStep) (hfits : s.Fits) : thinning.Spares decode? s.encode s := by
  intro j' hj'
  cases s with
  | openPage page url args =>
    obtain ⟨l, rfl, hl, hleft⟩ := tagged_left hj' (by simp) rfl
    have hkind := (hleft "action").whole
    have hpage := (hleft "page").nullableText
    have hurl := (hleft "url").nullableText
    have hargs := (hleft "args").map
    simp [decode?, kinds, Doc.variant?_members hl hkind, Doc.fields?_others, hl, hpage, hurl,
      hargs]
  | navigate page args =>
    obtain ⟨l, rfl, hl, hleft⟩ := tagged_left hj' (by simp) rfl
    have hkind := (hleft "action").whole
    have hpage := (hleft "page").text
    have hargs := (hleft "args").map
    simp [decode?, kinds, Doc.variant?_members hl hkind, Doc.fields?_others, hl, hpage, hargs]
  | click hint =>
    obtain ⟨l, rfl, hl, hleft⟩ := tagged_left hj' (by simp) rfl
    have hkind := (hleft "action").whole
    have hselector := (hleft "selector").required rfl hint.spares
    simp [decode?, kinds, Doc.variant?_members hl hkind, Doc.fields?_others, hl, hselector]
  | fill hint value =>
    obtain ⟨l, rfl, hl, hleft⟩ := tagged_left hj' (by simp) rfl
    have hkind := (hleft "action").whole
    have hselector := (hleft "selector").required rfl hint.spares
    have hvalue := (hleft "value").text
    simp [decode?, kinds, Doc.variant?_members hl hkind, Doc.fields?_others, hl, hselector, hvalue]
  | check assertions =>
    obtain ⟨l, rfl, hl, hleft⟩ := tagged_left hj' (by simp) rfl
    have hkind := (hleft "action").whole
    have hassertions := (hleft "assertions").required rfl
      (each_spares fun a ha => a.spares (hfits a ha))
    simp [decode?, kinds, Doc.variant?_members hl hkind, Doc.fields?_others, hl, hassertions]

end SpecStep

namespace Spec

def Fits (s : Spec) : Prop := ∀ step ∈ s.steps, step.Fits

def members : String → Member
  | "start_url" => .nullable
  | "steps" => { thinning := .each SpecStep.thinning }
  | _ => {}

def thinning : Thinning := record members

theorem spares (s : Spec) (hfits : s.Fits) : thinning.Spares decode? s.encode s := by
  intro j' hj'
  obtain ⟨l, rfl, hl, hleft⟩ := record_left hj' (by simp)
  have hname := (hleft "name").text
  have hstartUrl := (hleft "start_url").nullableText
  have hsteps := (hleft "steps").required rfl
    (each_spares fun step hstep => step.spares (hfits step hstep))
  simp [decode?, Doc.fields?_members, hl, hname, hstartUrl, hsteps]

end Spec

namespace Verdict

structure Fits (v : Verdict) : Prop where
  stepIndex : v.stepIndex ≤ maxWord
  assertion : v.assertion.Fits

def members : String → Member
  | "spec" => { thinning := Assertion.thinning }
  | _ => {}

def thinning : Thinning := record members

theorem spares (v : Verdict) (hfits : v.Fits) : thinning.Spares decode? v.encode v := by
  intro j' hj'
  obtain ⟨l, rfl, hl, hleft⟩ := record_left hj' (by simp)
  have hstepIndex := (hleft "step_index").required rfl (natUpTo_spares hfits.stepIndex)
  have hassertion := (hleft "spec").required rfl (v.assertion.spares hfits.assertion)
  have hpassed := (hleft "passed").required rfl (flag_spares _)
  have hactual := (hleft "actual").optionalText
  have hmessage := (hleft "message").optionalText
  simp [decode?, Doc.fields?_members, hl, hstepIndex, hassertion, hpassed, hactual, hmessage]

end Verdict

namespace SpecResult

structure Fits (r : SpecResult) : Prop where
  stepsRun : r.stepsRun ≤ maxWord
  verdicts : ∀ v ∈ r.verdicts, v.Fits

def members : String → Member
  | "assertion_results" => { thinning := .each Verdict.thinning }
  | _ => {}

def thinning : Thinning := record members

theorem spares (r : SpecResult) (hfits : r.Fits) : thinning.Spares decode? r.encode r := by
  intro j' hj'
  obtain ⟨l, rfl, hl, hleft⟩ := record_left hj' (by simp)
  have hspecName := (hleft "spec_name").text
  have hpassed := (hleft "passed").required rfl (flag_spares _)
  have hstepsRun := (hleft "steps_run").required rfl (natUpTo_spares hfits.stepsRun)
  have hpages := (hleft "pages").required rfl (texts_spares _)
  have hverdicts := (hleft "assertion_results").required rfl
    (each_spares fun v hv => v.spares (hfits.verdicts v hv))
  have herror := (hleft "error").optionalText
  simp [decode?, Doc.fields?_members, hl, hspecName, hpassed, hstepsRun, hpages, hverdicts, herror]

end SpecResult

/-- Whatever is left of a site map, a spec or a result that was written out is read as what it
was. -/
theorem documents_survive_thinning (site : SiteMap) (spec : Spec) (result : SpecResult)
    (hspec : spec.Fits) (hresult : result.Fits) :
    (SiteMap.decode? (.json site.encode) = some site ∧
      ∀ j, SiteMap.thinning.Leaves site.encode j → SiteMap.decode? (.json j) = some site) ∧
    (Spec.decode? (.json spec.encode) = some spec ∧
      ∀ j, Spec.thinning.Leaves spec.encode j → Spec.decode? (.json j) = some spec) ∧
    (SpecResult.decode? (.json result.encode) = some result ∧
      ∀ j, SpecResult.thinning.Leaves result.encode j →
        SpecResult.decode? (.json j) = some result) :=
  ⟨⟨site.spares.reads, site.spares⟩, ⟨(spec.spares hspec).reads, spec.spares hspec⟩,
    (result.spares hresult).reads, result.spares hresult⟩

namespace House

def tour : Spec :=
  { name := "Tour"
    steps :=
      [.openPage (some "Hall") none ∅, .navigate "Attic" ∅,
        .check [.pageDisplayed "Attic" ∅, .elementCount "#lamp" 1]] }

def toured : SpecResult :=
  { specName := "Tour", passed := false, stepsRun := 3, pages := ["Hall", "Attic"]
    verdicts := [⟨2, .pageDisplayed "Attic" ∅, false, some "false", none⟩], error := none }

def bareSite : Json :=
  .obj [("pages", .arr
      [.obj [("path", .str "/hall"), ("name", .str "Hall"),
          ("checks", .arr [.obj [("check", .str "visible"), ("selector", .str "#hall")]]),
          ("steps", .arr [.obj [("to", .str "Attic"), ("name", .str "climb"),
            ("actions", .arr [.obj [("action", .str "click"),
              ("selector", .obj [("css", .str "#attic")])]])]])],
        .obj [("name", .str "Attic"), ("path", .str "/attic"), ("prerequisite", .str "Hall"),
          ("checks", .arr [.obj [("check", .str "visible"), ("selector", .str "#attic")]])]]),
    ("name", .str "House")]

def bareTour : Json :=
  .obj [("name", .str "Tour"), ("steps", .arr
    [.obj [("action", .str "open"), ("page", .str "Hall")],
      .obj [("action", .str "navigate"), ("page", .str "Attic")],
      .obj [("action", .str "assert"), ("assertions", .arr
        [.obj [("type", .str "page_displayed"), ("page", .str "Attic")],
          .obj [("type", .str "element_count"), ("selector", .str "#lamp"),
            ("expected", .ofNat 1)]])]])]

def bareToured : Json :=
  .obj [("spec_name", .str "Tour"), ("passed", .bool false), ("steps_run", .ofNat 3),
    ("pages", .ofStrings ["Hall", "Attic"]),
    ("assertion_results", .arr [.obj [("step_index", .ofNat 2),
      ("spec", .obj [("page", .str "Attic"), ("type", .str "page_displayed")]),
      ("passed", .bool false), ("actual", .str "false"), ("message", .null)]]),
    ("error", .null)]

theorem leaves_bareSite : SiteMap.thinning.Leaves site.encode bareSite := by
  have hstep : ∀ s, StepDef.thinning.Leaves (StepDef.encode ⟨"Attic", some "climb", [], s⟩)
      (.obj [("to", .str "Attic"), ("name", .str "climb"),
        ("actions", .arr (s.map Action.encode))]) :=
    fun _ => .members (.keep rfl (.keep rfl (.drop rfl (.keep (.whole _) .nil)))) (.refl _)
  refine .members (.keep rfl (.drop rfl (.keep (.items (.cons ?_ (.cons ?_ .nil))) .nil)))
    (.swap _ _ _)
  · exact .members (.keep rfl (.keep rfl (.drop rfl (.keep (.whole _)
      (.keep (.items (.cons (hstep _) .nil)) .nil))))) (.swap _ _ _)
  · exact .members (.keep rfl (.keep rfl (.keep rfl (.keep (.whole _) (.drop rfl .nil))))) (.refl _)

theorem leaves_displayed {l : List (String × Json)}
    (h : [("type", .str "page_displayed"), ("page", .str "Attic")].Perm l) :
    Assertion.thinning.Leaves (Assertion.encode (.pageDisplayed "Attic" ∅)) (.obj l) :=
  .members (.keep rfl (.keep rfl (.drop rfl .nil))) h

theorem leaves_bareTour : Spec.thinning.Leaves tour.encode bareTour := by
  refine .members (.keep rfl (.drop rfl (.keep (.items
    (.cons ?_ (.cons ?_ (.cons ?_ .nil)))) .nil))) (.refl _)
  · exact .members (.keep rfl (.keep rfl (.drop rfl (.drop rfl .nil)))) (.refl _)
  · exact .members (.keep rfl (.keep rfl (.drop rfl .nil))) (.refl _)
  · exact .members (.keep rfl (.keep (.items (.cons (leaves_displayed (.refl _))
      (.cons (.whole _) .nil))) .nil)) (.refl _)

theorem leaves_bareToured : SpecResult.thinning.Leaves toured.encode bareToured := by
  refine .members (.keep rfl (.keep rfl (.keep rfl (.keep rfl (.keep (.items (.cons ?_ .nil))
    (.keep rfl .nil)))))) (.refl _)
  exact .members (.keep rfl (.keep (leaves_displayed (.swap _ _ _)) (.keep rfl (.keep rfl
    (.keep rfl .nil))))) (.refl _)

theorem fits_tour : tour.Fits := by
  simp [Spec.Fits, tour, SpecStep.Fits, Assertion.Fits, Assertion.maxCount]

theorem fits_toured : toured.Fits :=
  ⟨by decide, List.forall_mem_singleton.2 ⟨by decide, trivial⟩⟩

end House

theorem house_documents_survive :
    House.tour.Fits ∧ House.toured.Fits ∧
    SiteMap.decode? (.json House.bareSite) = some House.site ∧
    Spec.decode? (.json House.bareTour) = some House.tour ∧
    SpecResult.decode? (.json House.bareToured) = some House.toured := by
  obtain ⟨⟨-, hsite⟩, ⟨-, hspec⟩, -, hresult⟩ := documents_survive_thinning House.site House.tour
    House.toured House.fits_tour House.fits_toured
  exact ⟨House.fits_tour, House.fits_toured, hsite _ House.leaves_bareSite,
    hspec _ House.leaves_bareTour, hresult _ House.leaves_bareToured⟩

end Wayfinder
