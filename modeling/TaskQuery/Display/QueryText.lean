/-
  TaskQuery — queries as they are shown: the drawing of an expression as a tree, tokens
  and rejections.

  Every node of a tree has a line, before those of its two branches.  A branch is
  drawn with a tee, or with a corner if it is the last; below a branch that is not
  the last one a bar goes on.

  * `Limb` is the way a node hangs below the one above it;
  * `drawTree colors e` is the drawing of an expression;
  * `tokenListing tokens` lists the tokens with their indexes;
  * `errorMarker colors position tokens` writes the query again, one blank
    between tokens, with a caret under the first character of a token, or just
    after the last one;
  * `rejectionReport colors r tokens` is the message with the marker below it.
-/
import TaskQuery.Display.Style
import TaskQuery.Query.Expression
import TaskQuery.Query.Rejection
import TaskQuery.Query.Token
import TaskQuery.Text.Quoted

namespace TaskQuery

/-! ## Trees -/

/-- How a node hangs below the one above it. -/
inductive Limb where
  /-- It is the root. -/
  | root
  /-- It is the first branch. -/
  | first
  /-- It is the last branch. -/
  | last

/-- What is drawn just before the label of a node. -/
def Limb.joint : Limb → String
  | root => ""
  | first => "├── "
  | last => "└── "

/-- What is drawn in the lines below a node, before its branches. -/
def Limb.stem : Limb → String
  | root => ""
  | first => "│   "
  | last => "    "

/-- The lines of a node and everything below it, after the margin of the node. -/
def treeLines (colors : Bool) (margin : String) (limb : Limb) : Expression → List String
  | .condition c => [margin ++ limb.joint ++ c.toText]
  | .joined connective left right =>
    (margin ++ limb.joint ++ paint colors [.cyan, .bold] connective.symbol)
      :: treeLines colors (margin ++ limb.stem) .first left
      ++ treeLines colors (margin ++ limb.stem) .last right

/-- The drawing of an expression. -/
def drawTree (colors : Bool) (e : Expression) : String :=
  unlines (treeLines colors "" .root e)

/-! ## Tokens and rejections -/

/-- Blanks in front of a text up to a width. -/
def padLeft (width : Nat) (text : String) : String :=
  String.ofList (List.replicate (width - text.length) ' ') ++ text

/-- A token as it is written: literals are quoted. -/
def Token.render (t : Token) : String :=
  if t.quoted then Text.quote t.text else t.text

/-- The lines of the tokens from an index on. -/
def tokenLines (index : Nat) : List Token → List String
  | [] => []
  | t :: rest =>
    (padLeft 3 (toString index) ++ "  " ++ t.render ++ (if t.quoted then " (quoted)" else ""))
      :: tokenLines (index + 1) rest

/-- The listing of tokens, one in each line. -/
def tokenListing (tokens : List Token) : String :=
  unlines (tokenLines 0 tokens)

/-- The column of the caret for a position. -/
def caretColumn (position : Nat) (tokens : List Token) : Nat :=
  (tokens.take position).foldr (fun t column => t.render.length + 1 + column) 0

/-- The query written again with a caret under the token at a position. -/
def errorMarker (colors : Bool) (position : Nat) (tokens : List Token) : String :=
  let line := " ".intercalate (tokens.map Token.render)
  let caret := padLeft (caretColumn position tokens + 1) "^"
  unlines ["  " ++ line, "  " ++ paint colors [.red, .bold] caret]

/-- The message of a rejection with the query and the caret below it. -/
def rejectionReport (colors : Bool) (r : Rejection) (tokens : List Token) : String :=
  unlines [paint colors [.red] (r.message ++ " (at token " ++ toString r.position ++ ")")]
    ++ errorMarker colors r.position tokens

end TaskQuery
