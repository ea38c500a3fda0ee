import CursorThemes.Builtin.Bitmap

/-! # The built-in cursors

The cursors that a theme shows when it has none of its own. They are drawn once for each shape; the
sides and corners of a window come from one side and one corner. -/

namespace CursorThemes.Builtin

/-- An arrow that points to the upper left. -/
def arrow : Bitmap :=
  ⟨[
    "#...........",
    "##..........",
    "#o#.........",
    "#oo#........",
    "#ooo#.......",
    "#oooo#......",
    "#ooooo#.....",
    "#oooooo#....",
    "#ooooooo#...",
    "#oooooooo#..",
    "#ooooooooo#.",
    "#oooooo#####",
    "#ooo#oo#....",
    "#oo##oo#....",
    "#o#..#oo#...",
    "##...#oo#...",
    "#.....#oo#..",
    "......#oo#..",
    ".......##..."
  ].map String.toList, (0, 0)⟩

/-- A beam between the letters of a text. -/
def beam : Bitmap :=
  ⟨[
    "###.###",
    "#oo#oo#",
    "###o###",
    "..#o#..",
    "..#o#..",
    "..#o#..",
    "..#o#..",
    "..#o#..",
    "..#o#..",
    "..#o#..",
    "..#o#..",
    "..#o#..",
    "..#o#..",
    "###o###",
    "#oo#oo#",
    "###.###"
  ].map String.toList, (3, 8)⟩

/-- A hand with a stretched finger. -/
def hand : Bitmap :=
  ⟨[
    ".....##.........",
    "....#oo#........",
    "....#oo#........",
    "....#oo#........",
    "....#oo###......",
    "....#oo#oo###...",
    "..###oo#oo#oo##.",
    ".#oo#oooooo#oo#.",
    ".#ooooooooooooo#",
    "..#oooooooooooo#",
    "..#ooooooooooo#.",
    "...#oooooooooo#.",
    "...#ooooooooo#..",
    "....#oooooooo#..",
    "....#oooooooo#..",
    "....##########.."
  ].map String.toList, (5, 0)⟩

/-- A hand that holds something. -/
def fist : Bitmap :=
  ⟨[
    "................",
    "................",
    "................",
    "....##.##.##....",
    "...#oo#oo#oo##..",
    "...#oo#oo#oo#o#.",
    ".###oooooooooo#.",
    "#oo#oooooooooo#.",
    "#ooooooooooooo#.",
    ".#oooooooooooo#.",
    ".#ooooooooooo#..",
    "..#oooooooooo#..",
    "...#oooooooo#...",
    "...#oooooooo#...",
    "...##########...",
    "................"
  ].map String.toList, (8, 8)⟩

/-- A wrist watch. -/
def watch : Bitmap :=
  ⟨[
    ".....######.....",
    ".....#oooo#.....",
    "....########....",
    "...#oooooooo#...",
    "..#ooooo#oooo#..",
    ".#oooooo#ooooo#.",
    ".#oooooo#ooooo#.",
    ".#oooooo#ooooo#.",
    ".#oooooo####oo#.",
    ".#oooooooooooo#.",
    "..#oooooooooo#..",
    "...#oooooooo#...",
    "....########....",
    ".....#oooo#.....",
    ".....######.....",
    "................"
  ].map String.toList, (8, 8)⟩

/-- An arrow against the left side of a window. -/
def side : Bitmap :=
  ⟨[
    "................",
    "................",
    "................",
    "#...............",
    "#....#..........",
    "#...##..........",
    "#..#o#..........",
    "#.#oo#########..",
    "##ooooooooooo#..",
    "#.#oo#########..",
    "#..#o#..........",
    "#...##..........",
    "#....#..........",
    "#...............",
    "................",
    "................"
  ].map String.toList, (0, 8)⟩

/-- An arrow into the upper left corner of a window. -/
def corner : Bitmap :=
  ⟨[
    "##########......",
    "#...............",
    "#.#######.......",
    "#.#ooooo#.......",
    "#.#oooo#........",
    "#.#ooooo#.......",
    "#.#oo#ooo#......",
    "#.#o#.#ooo#.....",
    "#.##...#ooo#....",
    "#.......#ooo#...",
    "#........#ooo#..",
    "..........#oo#..",
    "...........##...",
    "................",
    "................",
    "................"
  ].map String.toList, (0, 0)⟩

/-- The built-in cursors: the name of each, its drawing and the way it is turned. -/
def entries : List (String × Bitmap × Transform) := [
    ("left_ptr", arrow, .identity),
    ("xterm", beam, .identity),
    ("hand1", hand, .identity),
    ("grabbing", fist, .identity),
    ("watch", watch, .identity),
    ("left_side", side, .identity),
    ("right_side", side, .flipX),
    ("top_side", side, .transpose),
    ("bottom_side", side, .transposeFlipY),
    ("top_left_corner", corner, .identity),
    ("top_right_corner", corner, .flipX),
    ("bottom_left_corner", corner, .flipY),
    ("bottom_right_corner", corner, .flipXY)
  ]

/-- **The built-in cursors**, each with a single frame. -/
def sprites : List Sprite :=
  entries.map fun (name, bitmap, transform) => ⟨name, [bitmap.rasterize transform]⟩

end CursorThemes.Builtin
