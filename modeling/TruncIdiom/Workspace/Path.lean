/-!
Paths as texts.

A path in a workspace may be written with slashes or backslashes. It is taken from the root unless
it is absolute itself.
-/

namespace TruncIdiom.Workspace

def withSlashes (path : String) : String := path.map fun c => if c = '\\' then '/' else c

def isAbsolute (path : String) : Bool := path.toList.head? = some '/'

/-- The path that a path names when it is taken from a root. -/
def joinPath (root path : String) : String :=
  if isAbsolute path then path
  else if root = "" || root.toList.getLast? = some '/' then root ++ path
  else root ++ "/" ++ path

/-- The place of a file of the workspace with a root. -/
def resolvePath (root path : String) : String := joinPath root (withSlashes path)

/-- The pieces of a path between its slashes, as lists of characters. -/
def pathPieces : List Char → List (List Char)
  | [] => [[]]
  | c :: rest =>
    if c = '/' then [] :: pathPieces rest
    else
      match pathPieces rest with
      | [] => [[c]]
      | piece :: pieces => (c :: piece) :: pieces

/-- The names in a path. An empty one stands for two slashes in a row or a slash at an end. -/
def namesOf (path : String) : List String := (pathPieces path.toList).map String.ofList

end TruncIdiom.Workspace
