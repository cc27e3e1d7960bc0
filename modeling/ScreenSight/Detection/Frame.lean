import ScreenSight.Detection.Detector

/-!
# Frames

A frame is a rectangle drawn with the glyphs of one style.  Its top edge may hold a title and its
left edge may have gaps; of the other edges only the corners count.  Every frame is reported, inner
ones too, as far as the grid is scanned.
-/

namespace ScreenSight

/-- The glyphs that frames of a style are drawn with. -/
structure FrameStyle where
  name : String
  topLeft : Char
  topRight : Char
  bottomLeft : Char
  bottomRight : Char
  horizontal : Char
  vertical : Char
  deriving DecidableEq, Inhabited

namespace FrameStyle

/-- All styles, in the order in which they are tried. -/
def all : List FrameStyle :=
  [⟨"light", '┌', '┐', '└', '┘', '─', '│'⟩,
    ⟨"heavy", '┏', '┓', '┗', '┛', '━', '┃'⟩,
    ⟨"double", '╔', '╗', '╚', '╝', '═', '║'⟩,
    ⟨"rounded", '╭', '╮', '╰', '╯', '─', '│'⟩,
    ⟨"ascii", '+', '+', '+', '+', '-', '|'⟩]

def glyphs (style : FrameStyle) : List Char :=
  [style.topLeft, style.topRight, style.bottomLeft, style.bottomRight, style.horizontal,
    style.vertical]

def isGlyph (style : FrameStyle) (c : Char) : Bool :=
  style.glyphs.contains c

/-- The column of the first top right corner in a row, among some columns. -/
def findRight? (style : FrameStyle) (grid : Grid) (y : Coordinate) (columns : List Coordinate) :
    Option Coordinate :=
  columns.find? fun x => grid.get? x y == some style.topRight

/-- The row of the first bottom left corner in a column, going down some rows over nothing but
vertical glyphs and blanks. -/
def findBottom? (style : FrameStyle) (grid : Grid) (x : Coordinate) :
    List Coordinate → Option Coordinate
  | [] => none
  | y :: below =>
      match grid.get? x y with
      | none => none
      | some c =>
          if c = style.bottomLeft then some y
          else if c = style.vertical ∨ c = blank then findBottom? style grid x below
          else none

/-- The columns of a scan to the right of one. -/
def columnsAfter (grid : Grid) (x : Coordinate) : List Coordinate :=
  (Coordinate.scanned grid.width).filter (x < ·)

/-- The rows of a scan below one. -/
def rowsAfter (grid : Grid) (y : Coordinate) : List Coordinate :=
  (Coordinate.scanned grid.height).filter (y < ·)

/-- The box of the frame whose top left corner is a given cell. -/
def trace? (style : FrameStyle) (grid : Grid) (corner : Point) : Option Box := do
  let right ← style.findRight? grid corner.y (columnsAfter grid corner.x)
  let bottom ← style.findBottom? grid corner.x (rowsAfter grid corner.y)
  if grid.get? right bottom = some style.bottomRight then
    some (Box.ofCorners corner.x corner.y right bottom)
  else none

/-- Read a title off the characters of a top edge.  It begins with the first character that is
neither blank nor horizontal, and ends at the first horizontal glyph behind something visible. -/
def readTitle (style : FrameStyle) (title : List Char) : List Char → List Char
  | [] => title
  | c :: rest =>
      if c = style.horizontal then
        if (Text.dropBlankEnds title).isEmpty then readTitle style title rest else title
      else if c = blank ∧ title = [] then readTitle style title rest
      else readTitle style (title ++ [c]) rest

/-- The characters between the top corners of a box. -/
def topEdge (grid : Grid) (box : Box) : List Char :=
  (Coordinate.upTo box.left box.right).filterMap fun x =>
    if box.left < x ∧ x < box.right then grid.get? x box.top else none

def title? (style : FrameStyle) (grid : Grid) (box : Box) : Option String :=
  let title := Text.dropBlankEnds (style.readTitle [] (topEdge grid box))
  if title.isEmpty then none else some (String.ofList title)

def properties (style : FrameStyle) (grid : Grid) (box : Box) : Properties :=
  SortedMap.ofList
    ([("shape", .text "frame"), ("style", .text style.name)] ++
      (style.title? grid box).toList.map fun title => ("title", .text title))

/-- The component of a frame.  Its border are the glyphs on the edge of the box, without the
title. -/
def component (style : FrameStyle) (grid : Grid) (box : Box) : Component :=
  let isDrawn (cell : Point) : Bool :=
    match grid.at? cell with
    | some c => style.isGlyph c
    | none => false
  { id := ""
    box := some box
    boundary := SortedSet.ofList (box.perimeter.filter isDrawn)
    interior := SortedSet.ofList (box.cells.filter fun cell => !box.onPerimeter cell)
    properties := style.properties grid box }

/-- The frames of all styles whose top left corner is a given cell. -/
def framesAt (grid : Grid) (corner : Point) : List Detected :=
  match grid.at? corner with
  | none => []
  | some c =>
      (all.filter fun style => style.topLeft == c).filterMap fun style =>
        (style.trace? grid corner).map fun box => ⟨style.component grid box, .high⟩

end FrameStyle

/-- The cells that a scan of a grid comes to, in reading order. -/
def Grid.points (grid : Grid) : List Point :=
  (Coordinate.scanned grid.height).flatMap fun y =>
    (Coordinate.scanned grid.width).map fun x => ⟨x, y⟩

/-- Finds frames.  A claimed cell is no top left corner. -/
def Detector.frame : Detector where
  name := "frame"
  priority := 100
  detect grid claimed :=
    (grid.points.filter fun corner => !claimed.contains corner).flatMap
      (FrameStyle.framesAt grid)

end ScreenSight
