import Wayfinder.Text.Search

/-! The parts of a URL that navigation looks at. An origin is everything up to the first slash
behind `://`; a path is what follows the origin, without query and fragment. -/
namespace Wayfinder.Url

def schemeEnd : List Char := [':', '/', '/']

def splitOrigin (url : List Char) : Option (List Char) × List Char :=
  match Text.cut? schemeEnd url with
  | some (scheme, rest) =>
    (some (scheme ++ schemeEnd ++ rest.takeWhile (· != '/')), rest.dropWhile (· != '/'))
  | none => (none, url)

def endsPath (c : Char) : Bool := c == '?' || c == '#'

def pathChars (url : List Char) : List Char :=
  match (splitOrigin url).2.takeWhile (!endsPath ·) with
  | [] => ['/']
  | path => path

def joinChars (origin path : List Char) : List Char :=
  let origin := (origin.reverse.dropWhile (· == '/')).reverse
  match path with
  | '/' :: _ => origin ++ path
  | _ => origin ++ '/' :: path

def origin? (url : String) : Option String := (splitOrigin url.toList).1.map String.ofList

/-- The path of a URL, `/` when it is empty. -/
def path (url : String) : String := String.ofList (pathChars url.toList)

def join (origin path : String) : String := String.ofList (joinChars origin.toList path.toList)

/-- The origin and what follows it make up the URL. -/
theorem splitOrigin_append (url : List Char) :
    (splitOrigin url).1.getD [] ++ (splitOrigin url).2 = url := by
  unfold splitOrigin
  split
  · next scheme rest h =>
    simpa [List.takeWhile_append_dropWhile] using (Text.eq_append_of_cut? h).symm
  · simp

end Wayfinder.Url
