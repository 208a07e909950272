import Wayfinder.Browser.Hint
import Wayfinder.Doc.Basic

/-! Reading a hint from a document. -/
namespace Wayfinder.Hint

def fieldNames : List String := ["css", "role", "name", "tag", "type", "formId"]

def decode? : Decoder Hint := fun d => do
  match ← d.fields? fieldNames with
  | [css, role, name, tag, inputType, formId] =>
    return {
      css := ← Doc.optional Doc.text? css
      role := ← Doc.optional Doc.text? role
      name := ← Doc.optional Doc.text? name
      tag := ← Doc.optional Doc.text? tag
      inputType := ← Doc.optional Doc.text? inputType
      formId := ← Doc.optional Doc.text? formId }
  | _ => none

end Wayfinder.Hint
