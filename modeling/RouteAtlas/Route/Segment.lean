import RouteAtlas.Text.Split

set_option autoImplicit false

namespace RouteAtlas

structure DynamicSegment where
  name : String
  isCatchAll : Bool
  isOptional : Bool
  deriving DecidableEq, Repr

namespace Segment

def enclosed? (opening closing s : List Char) : Option (List Char) :=
  (Text.afterLead? opening s).bind (Text.beforeTail? closing)

/-- The route spelling of one component. The longest bracket form is tried first, since each
shorter form also encloses it. -/
def normalizeChars (s : List Char) : List Char :=
  match enclosed? ['[', '[', '.', '.', '.'] [']', ']'] s with
  | some name => ':' :: (name ++ ['*'])
  | none =>
    match enclosed? ['[', '.', '.', '.'] [']'] s with
    | some name => ':' :: (name ++ ['+'])
    | none =>
      match enclosed? ['['] [']'] s with
      | some name => ':' :: name
      | none => s

def normalize (s : String) : String := String.ofList (normalizeChars s.toList)

def unmark (s : List Char) : List Char × Bool × Bool :=
  match Text.beforeTail? ['*'] s with
  | some n => (n, true, true)
  | none =>
    match Text.beforeTail? ['+'] s with
    | some n => (n, true, false)
    | none =>
      match Text.beforeTail? ['?'] s with
      | some n => (n, false, true)
      | none => (s, false, false)

/-- The parameter that a component stands for, in either spelling. -/
def dynamicChars? (s : List Char) : Option DynamicSegment :=
  match Text.afterLead? [':'] (normalizeChars s) with
  | none => none
  | some rest =>
    let (name, isCatchAll, isOptional) := unmark rest
    if name.isEmpty then none else some ⟨String.ofList name, isCatchAll, isOptional⟩

def dynamic? (s : String) : Option DynamicSegment := dynamicChars? s.toList

def reserved : List String := ["_app", "_document", "_error", "404", "500"]

def isReserved (s : String) : Bool := reserved.contains s

end Segment

namespace RoutePath

def components (s : String) : List (List Char) := Text.split '/' s.toList

def normalize (path : String) : String :=
  String.ofList (Text.join '/' ((components path).map Segment.normalizeChars))

def parameters (path : String) : List DynamicSegment :=
  (components path).filterMap Segment.dynamicChars?

/-- The components of all parts that are not empty, in order. -/
def parts (pieces : List String) : List (List Char) :=
  pieces.flatMap fun p => (components p).filter fun c => !c.isEmpty

/-- Joins fragments into one route: a single leading slash, no empty component and no trailing
slash. -/
def join (pieces : List String) : String :=
  String.ofList ('/' :: Text.join '/' (parts pieces))

def joinNormalized (pieces : List String) : String :=
  join ((parts pieces).map fun c => String.ofList (Segment.normalizeChars c))

end RoutePath

end RouteAtlas
