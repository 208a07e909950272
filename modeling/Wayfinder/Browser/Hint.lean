import Wayfinder.Json.Basic
import Wayfinder.Text.Quoted
import Wayfinder.Text.Search

/-! Hints by which the browser finds an element. A CSS selector decides alone; without one the
element is looked up by role, accessible name and tag. -/
namespace Wayfinder

structure Hint where
  css : Option String := none
  role : Option String := none
  name : Option String := none
  tag : Option String := none
  inputType : Option String := none
  formId : Option String := none
deriving DecidableEq, Repr

namespace Hint

def ofCss (selector : String) : Hint := { css := some selector }

def ofRole (role name : String) : Hint := { role := some role, name := some name }

def linkTo (path : String) : Hint := ofCss ("a[href='" ++ path ++ "']")

/-- The texts that may hold placeholders are the selector and the accessible name. -/
def mapText (f : String → String) (h : Hint) : Hint :=
  { h with css := h.css.map f, name := h.name.map f }

def parts (h : Hint) : List String :=
  [h.role.map ("role=" ++ ·), h.name.map fun n => "name=" ++ Text.quoted n,
    h.tag.map ("tag=" ++ ·), h.formId.map ("form=" ++ ·)].filterMap id

def label (h : Hint) : String :=
  match h.css with
  | some css => css
  | none => "[" ++ String.intercalate " " h.parts ++ "]"

def encode (h : Hint) : Json :=
  .obj <| Json.present
    [("css", h.css.map .str), ("role", h.role.map .str), ("name", h.name.map .str),
      ("tag", h.tag.map .str), ("type", h.inputType.map .str), ("formId", h.formId.map .str)]

end Hint

def replaceText (pat sub s : String) : String :=
  String.ofList (Text.replace pat.toList sub.toList s.toList)

end Wayfinder
