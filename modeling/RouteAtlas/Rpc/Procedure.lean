import RouteAtlas.Route.Method
import RouteAtlas.Rpc.Name

set_option autoImplicit false

namespace RouteAtlas.Rpc

inductive ProcedureKind where
  | query
  | mutation
  | subscription
  deriving DecidableEq, Repr

def ProcedureKind.ofName? : String → Option ProcedureKind
  | "query" => some .query
  | "mutation" => some .mutation
  | "subscription" => some .subscription
  | _ => none

/-- How the verb of a procedure is found from its whole name and its kind. -/
structure Classifier where
  classify : String → ProcedureKind → Method

def readingWords : List (List Char) :=
  ["get", "list", "find", "fetch", "search", "count", "by"].map String.toList

def lastPart (name : List Char) : List Char := ((Text.split '.' name).getLast?).getD []

namespace Classifier

def kind : Classifier where
  classify
    | _, .query => .get
    | _, .subscription => .get
    | _, .mutation => .post

def name : Classifier where
  classify procedure _ :=
    match splitWords (lastPart procedure.toList) with
    | w :: _ => if readingWords.contains w then .get else .post
    | [] => .post

end Classifier

end RouteAtlas.Rpc
