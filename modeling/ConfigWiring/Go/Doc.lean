import ConfigWiring.Go.Grammar
import ConfigWiring.Text.Split

/-!
# Documentation comments

The documentation of a declaration is the group of comments that ends on the line
directly above it.  Comments are looked at from the declaration upwards: a blank
line ends the group, and a comment that follows other code on its own line takes
the whole group away from the declaration.
-/

namespace ConfigWiring
namespace Go

open Text

/-- What can stand beside a declaration in the same list. -/
inductive Sibling where
  | comment (comment : Comment)
  /-- Code that ends on the given row. -/
  | code (endRow : Nat)
  deriving DecidableEq, Repr

namespace Comment

/-- The text without any number of repetitions of a leading part. -/
def dropLeading (leading : List Char) : Nat -> List Char -> List Char
  | 0, text => text
  | bound + 1, text =>
      match behind? leading text with
      | some rest => dropLeading leading bound rest
      | none => text

/-- The lines of a comment without its marks and surrounding blanks; blank lines
of a block fall away. -/
def lines (comment : Comment) : List (List Char) :=
  match comment.text with
  | '/' :: '/' :: rest => [trim rest]
  | text =>
      let opened := dropLeading ['/', '*'] text.length text
      let body := (dropLeading ['/', '*'] opened.length opened.reverse).reverse
      ((Text.lines body).map trim).filter (!·.isEmpty)

end Comment

namespace Sibling

/-- Whether code ends on the given row. -/
def endsOn (row : Nat) : Sibling -> Bool
  | code endRow => endRow == row
  | comment _ => false

end Sibling

namespace Doc

/-- The lines of the comments directly above a row, from the siblings above it,
the nearest first; nothing if the group begins behind other code. -/
def linesAbove (row : Nat) : List Sibling -> Option (List (List Char))
  | [] => some []
  | .code _ :: _ => some []
  | .comment comment :: above =>
      if comment.endRow + 1 < row then some []
      else if above.head?.any (Sibling.endsOn comment.startRow) then none
      else (linesAbove comment.startRow above).map (· ++ comment.lines)

/-- The documentation of a declaration that begins on a row. -/
def above (row : Nat) (siblings : List Sibling) : String :=
  String.ofList (joinAll '\n' ((linesAbove row siblings).getD []))

/-- The comments in front of a tree, put on top of the siblings above it. -/
def withComments (tree : Tree) (siblings : List Sibling) : List Sibling :=
  match tree.first? with
  | some token => token.comments.foldl (fun above comment => .comment comment :: above) siblings
  | none => siblings

/-- Each node of a list of trees with the siblings above it, the nearest first. -/
def withSiblings (siblings : List Sibling) : List Tree -> List (Tree × List Sibling)
  | [] => []
  | .leaf token :: rest => withSiblings (withComments (.leaf token) siblings) rest
  | .node kind children :: rest =>
      let tree := Tree.node kind children
      let above := withComments tree siblings
      (tree, above) :: withSiblings (.code ((tree.last?.map Token.endRow).getD 0) :: above) rest

end Doc
end Go
end ConfigWiring
