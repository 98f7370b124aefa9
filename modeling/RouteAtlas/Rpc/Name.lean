import RouteAtlas.Text.Case
import RouteAtlas.Text.Split

set_option autoImplicit false

namespace RouteAtlas.Rpc

def isSeparator (c : Char) : Bool := c = '_' || c = '-' || c = '.' || c = ' '

/-- Whether a new word begins at `c`, which stands between `before` and `after`: after a lower
case letter or a digit, and at the last capital of a run that a lower case letter follows. -/
def beginsWord (before c : Char) (after : Option Char) : Bool :=
  Text.isUpper c &&
    (Text.isLower before || before.isDigit ||
      (Text.isUpper before && (after.map Text.isLower).getD false))

def wordsFrom (before : Char) (current : List Char) : List Char → List (List Char)
  | [] => [current]
  | c :: cs =>
    if beginsWord before c cs.head? then current :: wordsFrom c (Text.lowerExpansion c) cs
    else wordsFrom c (current ++ Text.lowerExpansion c) cs

def caseWords : List Char → List (List Char)
  | [] => []
  | c :: cs => wordsFrom c (Text.lowerExpansion c) cs

def splitWords (name : List Char) : List (List Char) :=
  (Text.splitBy isSeparator name).flatMap caseWords

def capitalize : List Char → List Char
  | [] => []
  | c :: cs => Text.upperExpansion c ++ cs

def camelCase : List (List Char) → List Char
  | [] => []
  | w :: ws => w ++ ws.flatMap capitalize

def makingWords : List (List Char) := ["create".toList, "make".toList, "build".toList]

def routerWords : List (List Char) := ["router".toList, "routes".toList, "factory".toList]

/-- The words of a name without one leading word of making and all trailing words for
routers. -/
def coreWords (words : List (List Char)) : List (List Char) :=
  let rest := match words with
    | w :: ws => if makingWords.contains w then ws else words
    | [] => []
  (rest.reverse.dropWhile routerWords.contains).reverse

/-- The name of a router in its routes. Names made for routers without one stay as they are. -/
def routerName (name : String) : String :=
  if "router@".toList.isPrefixOf name.toList then name
  else String.ofList (camelCase (coreWords (splitWords name.toList)))

end RouteAtlas.Rpc
