import TruncIdiom.Script.Token
import TruncIdiom.Syntax.Parentheses

/-!
Pieces of a syntax tree, each with the comments in front of it.

A node covers its parts from the first byte of the first to the last byte of the last. Comments
between two parts become children of the node; those in front of the first part stay in front of
the node, so that no node begins or ends with a comment.
-/

namespace TruncIdiom.Script

open Syntax

/-- A tree and the comments in front of it. -/
structure Piece where
  comments : List Tree := []
  tree : Tree
  deriving Repr

def commentTree (span : Nat × Nat) : Tree :=
  .node { kind := comment, start := span.1, stop := span.2 } []

namespace Piece

/-- A token as a node without children. -/
def leaf (kind : String) (named : Bool) (t : Token) : Piece where
  comments := t.comments.map commentTree
  tree := .node { kind := kind, start := t.start, stop := t.stop, named := named } []

def fixed (t : Token) : Piece := leaf t.text false t

def trees (p : Piece) : List Tree := p.comments ++ [p.tree]

def branch (kind : String) (first : Piece) (rest : List Piece) : Piece where
  comments := first.comments
  tree := .node {
    kind := kind
    start := first.tree.info.start
    stop := ((rest.getLast?).getD first).tree.info.stop
  } (first.tree :: rest.flatMap trees)

/-- The piece as the one that fills a field. -/
def inField (field : String) (p : Piece) : Piece :=
  match p.tree with
  | .node info children => { p with tree := .node { info with field := some field } children }

def kind (p : Piece) : String := p.tree.kind

end Piece

/-! ## Whole sources -/

/-- The root over the pieces of a source. It reaches from its first child to the end. -/
def programTree (size : Nat) (statements : List Piece) (atEnd : List Tree) : Tree :=
  let children := statements.flatMap Piece.trees ++ atEnd
  let start := (children.head?.map (·.info.start)).getD size
  .node { kind := "program", start := start, stop := size } children

/-- The root for a source that is not well formed, with an error where reading stopped. -/
def faultTree (size offset : Nat) : Tree :=
  .node { kind := "program", start := 0, stop := size } [
    .node { kind := "ERROR", start := offset, stop := size } []]

end TruncIdiom.Script
