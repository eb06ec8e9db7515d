import NoteQuery.Console
import NoteQuery.Display.Wrap
import NoteQuery.Number.Double

/-!
# Tables

Tables drawn with lines: a centred title, a header in heavy lines and rows in light
ones. A column is as wide as its widest cell. Where there is too little room, the widest
columns give way first, and their cells are wrapped.
-/
namespace NoteQuery

namespace Table

/-! ## Widths -/

/-- The cells beside the text of a cell. -/
def padding : Nat := 2

/-- The widths of the columns where there is room for all: those of their widest cells. -/
def naturalWidths (t : Table) : List Nat :=
  let cellWidth (s : Text) : Nat := Wrap.widest s + padding
  t.rows.foldl (fun ws row => List.zipWith max ws (row.map cellWidth))
    (t.columns.map fun c => cellWidth c.title)

/-- Takes `total` cells away from the widths that are marked by a share, each giving up at
most its limit. `shares` is the sum of the shares that are left. -/
def reduceFrom (total shares : Nat) : List (Nat × Nat × Nat) → List Nat
  | [] => []
  | (share, limit, width) :: rest =>
    if share == 0 || shares == 0 then width :: reduceFrom total shares rest
    else
      let taken := min limit (Double.roundDiv (share * total) shares)
      (width - taken) :: reduceFrom (total - taken) (shares - share) rest

/-- Takes cells away from widths; a width with a limit of zero gives up nothing. -/
def reduce (total : Nat) (parts : List (Nat × Nat × Nat)) : List Nat :=
  let parts := parts.map fun (share, limit, width) =>
    (if limit == 0 then 0 else share, limit, width)
  reduceFrom total (Text.total (parts.map (·.1))) parts

/-- The widest columns cut down to the next widest ones until all fit into `room`. The first
argument bounds the number of steps. -/
def collapse (room : Nat) : Nat → List Nat → List Nat
  | 0, ws => ws
  | steps + 1, ws =>
    let excess := Text.total ws - room
    let widest := ws.foldl max 0
    let second := (ws.filter (· != widest)).foldl max 0
    if excess == 0 || widest == second then ws
    else
      let limit := min excess (widest - second)
      collapse room steps
        (reduce excess (ws.map fun w => (if w == widest then 1 else 0, limit, w)))

def widths (room : Nat) (t : Table) : List Nat :=
  let natural := t.naturalWidths
  let ws := natural.map (min room)
  if Text.total ws ≤ room then ws
  else
    let ws := collapse room (Text.total ws) ws
    let ws :=
      if Text.total ws ≤ room then ws
      else reduce (Text.total ws - room) (ws.map fun w => (1, w, w))
    List.zipWith min ws natural

/-! ## Lines -/

/-- A horizontal line of the frame. -/
def rule (left fill joint right : Char) (ws : List Nat) : Text :=
  [left] ++ Text.join [joint] (ws.map fun w => List.replicate w fill) ++ [right]

def cellLines (flushRight : Bool) (w : Nat) (s : Text) : List Text :=
  let room := w - padding
  (Wrap.lines .ellipsis (if flushRight then .right else .left) room s).map fun line =>
    [' '] ++ line ++ Text.spaces (room - Text.width line) ++ [' ']

/-- The lines of a row, of which its highest cell has all. Lower cells are filled up below,
those of a header above. -/
def rowLines (edge : Char) (isHeader : Bool) (t : Table) (ws : List Nat) (row : List Text) :
    List Text :=
  let columns := ws.zip t.columns
  let cells := List.zipWith (fun (w, c) s => (w, cellLines c.flushRight w s)) columns row
  let height := (cells.map fun (_, lines) => lines.length).foldl max 1
  let filled := cells.map fun (w, lines) =>
    let blank := List.replicate (height - lines.length) (Text.spaces w)
    if isHeader then blank ++ lines else lines ++ blank
  (List.range height).map fun i =>
    [edge] ++ Text.join [edge] (filled.map fun lines => lines.getD i []) ++ [edge]

/-- The lines of a table that is at most `room` cells wide. -/
def lines (room : Nat) (t : Table) : List Text :=
  let frame := t.columns.length + 1
  let ws := t.widths (room - frame)
  (if t.title.isEmpty then [] else Wrap.lines .fold .centre (Text.total ws + frame) t.title)
    ++ [rule '┏' '━' '┳' '┓' ws]
    ++ rowLines '┃' true t ws (t.columns.map (·.title))
    ++ [rule '┡' '━' '╇' '┩' ws]
    ++ t.rows.flatMap (rowLines '│' false t ws)
    ++ [rule '└' '─' '┴' '┘' ws]

end Table

end NoteQuery
