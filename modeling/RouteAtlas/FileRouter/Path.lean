import RouteAtlas.Route.Segment

set_option autoImplicit false

namespace RouteAtlas.FileRouter

/-- The components below a directory at the top of the project or right under `src`. -/
def below? (dir : List (List Char)) (components : List (List Char)) : Option (List (List Char)) :=
  let rest := match components with
    | first :: more => if first = "src".toList then more else components
    | [] => []
  if dir.isPrefixOf rest then some (rest.drop dir.length) else none

def stem? (fileName : List Char) : Option (List Char) := (Text.splitLast? '.' fileName).map (·.1)

def dirsAndStem? (dir : List (List Char)) (path : String) :
    Option (List (List Char) × List Char) := do
  let rest ← below? dir (RoutePath.components path)
  let fileName ← rest.getLast?
  return (rest.dropLast, ← stem? fileName)

/-- Directories in parentheses or with a leading at sign group files without a name in the
route. -/
def isGroup (dir : List Char) : Bool :=
  (dir.head? = some '(' && dir.getLast? = some ')') || dir.head? = some '@'

def isPrivate (dir : List Char) : Bool := dir.head? = some '_'

def appRoute? (path : String) : Option String := do
  let (dirs, stem) ← dirsAndStem? ["app".toList] path
  if stem ≠ "route".toList then none
  else
    let named := dirs.filter fun d => !isGroup d
    if named.any isPrivate then none
    else some (RoutePath.join (named.map fun d => String.ofList (Segment.normalizeChars d)))

def isReservedChars (s : List Char) : Bool := Segment.isReserved (String.ofList s)

def pagesRoute? (path : String) : Option String := do
  let (dirs, stem) ← dirsAndStem? ["pages".toList, "api".toList] path
  if isReservedChars stem || dirs.any isReservedChars then none
  else
    let file := if stem = "index".toList then [] else [stem]
    some (RoutePath.join ("api" ::
      (dirs ++ file).map fun d => String.ofList (Segment.normalizeChars d)))

end RouteAtlas.FileRouter
