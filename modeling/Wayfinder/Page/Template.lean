import Wayfinder.Json.Basic
import Wayfinder.SortedMap

/-! Path and selector templates. A placeholder is a name in braces; it is filled with the text of
the argument of that name, which is not looked through for further placeholders. -/
namespace Wayfinder

abbrev Args := SortedMap Json

/-- A string stands for itself, any other value for its JSON text. -/
def argText : Json → String
  | .str s => s
  | j => j.text

inductive TemplateError where
  | missing (template placeholder : String)
  | unclosed (template : String)
deriving DecidableEq, Repr

def TemplateError.message : TemplateError → String
  | .missing template placeholder =>
    "no value for placeholder '\x7b" ++ placeholder ++ "\x7d' in '" ++ template ++ "'"
  | .unclosed template => "unclosed placeholder in '" ++ template ++ "'"

namespace Template

inductive Piece where
  | letter (c : Char)
  | slot (name : List Char)
  | unclosed
deriving DecidableEq, Repr

/-- `name` holds the characters of the placeholder that is open, the last one first. -/
def scan : Option (List Char) → List Char → List Piece
  | none, [] => []
  | some _, [] => [.unclosed]
  | none, c :: rest => if c = '\x7b' then scan (some []) rest else .letter c :: scan none rest
  | some name, c :: rest =>
    if c = '\x7d' then .slot name.reverse :: scan none rest else scan (some (c :: name)) rest

def pieces (template : String) : List Piece := scan none template.toList

def slots : List Piece → List String × Bool
  | [] => ([], true)
  | .letter _ :: rest => slots rest
  | .slot name :: rest => ((String.ofList name) :: (slots rest).1, (slots rest).2)
  | .unclosed :: _ => ([], false)

inductive Gap where
  | missing (name : String)
  | unclosed
deriving DecidableEq, Repr

def Gap.inTemplate (template : String) : Gap → TemplateError
  | .missing name => .missing template name
  | .unclosed => .unclosed template

def fill (args : Args) : List Piece → Except Gap (List Char)
  | [] => .ok []
  | .letter c :: rest => (fill args rest).map (c :: ·)
  | .slot name :: rest =>
    match args.get? (String.ofList name) with
    | some value => (fill args rest).map ((argText value).toList ++ ·)
    | none => .error (.missing (String.ofList name))
  | .unclosed :: _ => .error .unclosed

def placeholders (template : String) : Except TemplateError (List String) :=
  match slots (pieces template) with
  | (names, true) => .ok names
  | (_, false) => .error (.unclosed template)

def render (template : String) (args : Args) : Except TemplateError String :=
  match fill args (pieces template) with
  | .ok cs => .ok (String.ofList cs)
  | .error gap => .error (gap.inTemplate template)

end Template
end Wayfinder
