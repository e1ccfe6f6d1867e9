/-!
# Trees over a source text

A tree names a stretch of source characters by its first character and the one after its last, and
holds the trees of its parts. Comments are parts too: a comment belongs to the smallest tree that
has a token on both sides of it. A `Piece` is a tree together with the comments read just before it,
which is all that is needed to place them.
-/

namespace LocaleCatalogue.Script

/-- A construct of the source: its kind, its stretch of characters and its parts. Tokens that are
only punctuation or keywords are not named. -/
structure Tree where
  kind : String
  named : Bool
  role : Option String
  start : Nat
  stop : Nat
  parts : List Tree
deriving Repr

/-- A tree and the comments between it and the token before it. -/
structure Piece where
  comments : List Tree
  tree : Tree

namespace Piece

/-- The same piece, known under a role in its parent. -/
def under (role : String) (p : Piece) : Piece := { p with tree := { p.tree with role := some role } }

/-- A named tree around pieces that follow each other. The comments before the first piece stay
outside; those before the others become parts. -/
def around (kind : String) (first : Piece) (others : List Piece) : Piece where
  comments := first.comments
  tree :=
    { kind
      named := true
      role := none
      start := first.tree.start
      stop := (others.getLastD first).tree.stop
      parts := first.tree :: others.flatMap fun p => p.comments ++ [p.tree] }

end Piece

end LocaleCatalogue.Script
