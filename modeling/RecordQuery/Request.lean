import RecordQuery.Text.Ascii
import RecordQuery.Text.Cut
import RecordQuery.Text.Percent
import RecordQuery.Text.Quoted

/-!
# Query texts in requests

A request carries the query text as its query string, in one parameter of it, or in a header. A
resolver knows where, and may undo an encoding of its own. What is missing is an empty text.
-/

namespace RecordQuery

open Text

structure Request where
  /-- The query string, with or without a question mark in front. -/
  query : String := ""
  headers : List (String × String) := []

namespace Request

def header? (request : Request) (name : String) : Option String := lookup request.headers name

/-- The pairs of the query string, decoded; a pair without an equals sign has an empty value. -/
def parameters (request : Request) : List (String × String) :=
  let query := match request.query.toList with
    | '?' :: cs => String.ofList cs
    | _ => request.query
  (splitAll '&' query).map fun pair =>
    let (key, value) := cut '=' pair
    (Percent.decode key, Percent.decode (value.getD ""))

def parameter? (request : Request) (name : String) : Option String :=
  request.parameters.lookup name

end Request

inductive QueryLocation
  | queryString
  | parameter (name : String)
  | header (name : String)
deriving DecidableEq

structure Resolver where
  location : QueryLocation := .queryString
  decoder : Option (String → String) := none

namespace Resolver

def locate (location : QueryLocation) (request : Request) : String :=
  match location with
  | .queryString => request.query
  | .parameter name => (request.parameter? name).getD ""
  | .header name => (request.header? name).getD ""

def resolve (resolver : Resolver) (request : Request) : String :=
  let text := locate resolver.location request
  match resolver.decoder with
  | none => text
  | some decode => decode text

def locationDiagnostic : QueryLocation → String
  | .queryString => "QueryString \x7b parameter: None \x7d"
  | .parameter name => s!"QueryString \x7b parameter: Some({quoted name}) \x7d"
  | .header name => s!"Header \x7b name: {quoted name} \x7d"

def diagnostic (resolver : Resolver) : String :=
  let decoder := if resolver.decoder.isSome then "Some(\"<fn>\")" else "None"
  s!"QueryResolver \x7b from: {locationDiagnostic resolver.location}, decode: {decoder} \x7d"

end Resolver

end RecordQuery
