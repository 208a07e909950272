import Wayfinder.Host.Basic
import Wayfinder.Site.Codec
import Wayfinder.Site.Validity

/-! Where site maps come from: a YAML text, or a file that holds one. A map that has a defect is
refused. -/
namespace Wayfinder

inductive SiteError where
  | defect (d : SiteDefect)
  | malformed
  | unreadable (path : String) (fault : FileFault)
deriving DecidableEq, Repr

def SiteError.message : SiteError → String
  | .defect d => d.message
  | .malformed => "invalid site map: malformed YAML"
  | .unreadable path fault => "cannot read site map " ++ path ++ ": " ++ fault.message

namespace SiteMap

def checked (site : SiteMap) : Except SiteError SiteMap :=
  match site.validate with
  | .ok () => .ok site
  | .error d => .error (.defect d)

def ofYaml (text : String) : Except SiteError SiteMap :=
  match (Yaml.document? text).bind SiteMap.decode? with
  | some site => site.checked
  | none => .error .malformed

def load {m : Type → Type} [Monad m] [Host m] (path : String) : m (Except SiteError SiteMap) := do
  match ← Host.readText path with
  | .ok text => return ofYaml text
  | .error fault => return .error (.unreadable path fault)

theorem validate_of_ofYaml {text : String} {site : SiteMap} (h : ofYaml text = .ok site) :
    site.validate = .ok () := by
  unfold ofYaml checked at h
  split at h
  · split at h
    · next hv => cases h; exact hv
    · cases h
  · cases h

end SiteMap
end Wayfinder
