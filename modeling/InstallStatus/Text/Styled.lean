import InstallStatus.Text.Terminal

/-!
Lines of which some pieces stand out. A terminal is told so by a control sequence before the piece and
one behind it; other output shows the same line without any control sequence.
-/

namespace InstallStatus.Text

/-- What a piece of a line is shown as. -/
inductive Emphasis
  | none
  | title
  /-- Words to be typed as they are. -/
  | literal
  /-- The word that announces a mistake. -/
  | alarm
  /-- Input that is refused. -/
  | refused
  deriving DecidableEq, Repr

/-- The display attributes by number: bold is 1, underlined 4, red 31 and yellow 33. -/
def Emphasis.attributes : Emphasis → List Nat
  | .none => []
  | .title => [1, 4]
  | .literal => [1]
  | .alarm => [1, 31]
  | .refused => [33]

structure Piece where
  text : String
  emphasis : Emphasis
  deriving DecidableEq, Repr

/-- The sequence that sets one display attribute; zero takes all of them back. -/
def attributeSequence (number : Nat) : String := "\x1b[" ++ toString number ++ "m"

/-- A piece as a terminal is sent it. -/
def Piece.marked (piece : Piece) : String :=
  match piece.emphasis.attributes with
  | [] => piece.text
  | attributes =>
    String.join (attributes.map attributeSequence) ++ piece.text ++ attributeSequence 0

/-- A line as its pieces, from left to right. -/
structure Styled where
  pieces : List Piece
  deriving DecidableEq, Repr

namespace Styled

instance : Append Styled := ⟨fun a b => ⟨a.pieces ++ b.pieces⟩⟩

def empty : Styled := ⟨[]⟩

def ofText (text : String) (emphasis : Emphasis) : Styled := ⟨[⟨text, emphasis⟩]⟩

def raw (text : String) : Styled := ofText text .none

def title (text : String) : Styled := ofText text .title

def literal (text : String) : Styled := ofText text .literal

def marked (line : Styled) : String := String.join (line.pieces.map Piece.marked)

/-- The line for other output. Control sequences inside of the pieces are left out as well. -/
def plain (line : Styled) : String := Terminal.plain line.marked

end Styled

end InstallStatus.Text
