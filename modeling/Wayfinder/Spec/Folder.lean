import Wayfinder.Host.Basic
import Wayfinder.Spec.Codec
import Wayfinder.Text.Split
import Wayfinder.Yaml.Document

/-! Where specs come from: a YAML file, or the YAML files of a directory. Specs of a directory come
in order of their names, those of one name as the directory lists them. -/
namespace Wayfinder

inductive SpecError where
  | malformed
  | unreadable (fault : FileFault)
deriving DecidableEq, Repr

def SpecError.message : SpecError → String
  | .malformed => "malformed YAML"
  | .unreadable fault => fault.message

def extension? (name : String) : Option String :=
  match (Text.split '.' name.toList).reverse with
  | [] | [_] | [_, []] => none
  | last :: _ => some (String.ofList last)

def isYamlName (name : String) : Bool :=
  extension? name == some "yaml" || extension? name == some "yml"

namespace Spec

def ofYaml? (text : String) : Option Spec := (Yaml.document? text).bind Spec.decode?

def ofFile (content : Except FileFault String) : Except SpecError Spec :=
  match content with
  | .error fault => .error (.unreadable fault)
  | .ok text =>
    match ofYaml? text with
    | some s => .ok s
    | none => .error .malformed

abbrev FolderEntry := String × Except FileFault String

def sortByName (specs : List Spec) : List Spec := specs.mergeSort (·.name ≤ ·.name)

/-- The specs of a directory; a file of another kind is passed over. -/
def ofFolder (entries : List FolderEntry) : Except SpecError (List Spec) :=
  sortByName <$> (entries.filter (isYamlName ·.1)).mapM fun e => ofFile e.2

variable {m : Type → Type} [Monad m] [Host m]

def pathWithin (directory name : String) : String :=
  if directory.endsWith "/" then directory ++ name else directory ++ "/" ++ name

def readFolder (directory : String) (names : List String) : m (List FolderEntry) :=
  (names.filter isYamlName).mapM fun name => do
    return (name, ← Host.readText (pathWithin directory name))

def load (path : String) : m (Except SpecError (List Spec)) := do
  match ← Host.names path with
  | .error fault => return .error (.unreadable fault)
  | .ok (some names) => return ofFolder (← readFolder path names)
  | .ok none => return (ofFile (← Host.readText path)).map ([·])

end Spec
end Wayfinder
