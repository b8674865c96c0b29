/-
  TaskQuery — the command that checks a query.

  * `checkQuery` is what the command prints: the tree of the query, with its tokens
    in front if they are asked for, or a caret under the token at fault;
  * `checkJson` is the same as JSON.
-/
import TaskQuery.Command.Outcome

namespace TaskQuery

/-- Tokens as a JSON value. -/
def tokensJson (tokens : List Token) : Json :=
  .array <| tokens.mapIdx fun index t =>
    .object [("index", .integer index), ("text", .string t.text), ("quoted", .bool t.quoted)]

/-- An accepted query as a JSON value, with its tokens if they are asked for. -/
def checkJson (query : String) (filter : Option Expression) (tokens : Option (List Token)) : Json :=
  .object <|
    [("query", .string query), ("valid", .bool true)]
    ++ Json.optionalMember "normalized" (filter.map fun e => .string e.toText)
    ++ [("expression", (filter.map Expression.toJson).getD .null)]
    ++ Json.optionalMember "tokens" (tokens.map tokensJson)

/-- The drawing of an accepted query. -/
def checkText (colors : Bool) : Option Expression → String
  | some e => drawTree colors e
  | none => "(empty filter: matches every task)\n"

/-- The tokens of a query with a heading and an empty line below. -/
def tokenSection (tokens : List Token) : String :=
  "Tokens:\n" ++ tokenListing tokens ++ "\n"

/-- What the command that checks a query prints. -/
def checkQuery (ctx : Context) (query : String) (showTokens : Bool) : Outcome :=
  let tokens := tokenize query
  let shownTokens := if showTokens then tokenSection tokens else ""
  match parseQuery query ctx.now with
  | .ok filter =>
    if ctx.json then .printJson (checkJson query filter (if showTokens then some tokens else none))
    else if ctx.quiet then {}
    else .print (shownTokens ++ checkText ctx.colors filter)
  | .error rejection =>
    let fault := CommandFault.filter rejection
    if ctx.json || ctx.quiet then .fail fault
    else
      { output := shownTokens
        notice := errorMarker ctx.colors rejection.position tokens
        fault := some fault }

end TaskQuery
