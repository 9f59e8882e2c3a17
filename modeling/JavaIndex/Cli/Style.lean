/-!
# Styled text

Text for a terminal: lines of pieces, each with a style of its own. Where colours
are wanted, a styled piece stands between escape sequences; elsewhere it is plain.

## Main definitions

* `Style`, `Piece`, `Line` — how a piece looks, the piece, and a line of them
* `Line.render` — the line as it is written
-/

namespace JavaIndex.Cli

/-- The colours in use. -/
inductive Colour where
  | red
  | green
  | yellow
  | blue
  | cyan
  | white
  deriving DecidableEq, Repr

/-- The number that selects a colour. -/
def Colour.code : Colour → String
  | red => "31"
  | green => "32"
  | yellow => "33"
  | blue => "34"
  | cyan => "36"
  | white => "37"

/-- How a piece of text looks. -/
structure Style where
  bold : Bool := false
  dimmed : Bool := false
  italic : Bool := false
  colour : Option Colour := none
  deriving DecidableEq, Repr

/-- The numbers that select a style, attributes before the colour. -/
def Style.codes (style : Style) : List String :=
  (if style.bold then ["1"] else []) ++ (if style.dimmed then ["2"] else []) ++
    (if style.italic then ["3"] else []) ++ (style.colour.map Colour.code).toList

/-- Text in one style. -/
structure Piece where
  text : String
  style : Style := {}
  deriving DecidableEq, Repr

/-- A line of text. -/
abbrev Line := List Piece

/-- The piece as it is written, with escape sequences if it is styled and colours are wanted. -/
def Piece.render (coloured : Bool) (piece : Piece) : String :=
  if coloured && !piece.style.codes.isEmpty then
    "\x1b[" ++ ";".intercalate piece.style.codes ++ "m" ++ piece.text ++ "\x1b[0m"
  else piece.text

/-- The line as it is written. -/
def Line.render (coloured : Bool) (line : Line) : String :=
  String.join (line.map (Piece.render coloured))

/-- Text without a style. -/
def plain (text : String) : Piece := { text }

/-- Text that stands back. -/
def dimmed (text : String) : Piece := { text, style := { dimmed := true } }

/-- Text in a colour. -/
def coloured (colour : Colour) (text : String) : Piece :=
  { text, style := { colour := some colour } }

/-- Bold text in a colour. -/
def strong (colour : Colour) (text : String) : Piece :=
  { text, style := { bold := true, colour := some colour } }

end JavaIndex.Cli
