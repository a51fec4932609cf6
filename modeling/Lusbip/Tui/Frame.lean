import Mathlib.Data.List.Forall2
import Lusbip.Lib.Terminal
import Lusbip.Tui.ActionList

/-!
# A frame

What `draw_items` writes: a box of lines, each as wide as the terminal, with a window of the rows in
it that always has the selected one. Widths are counted in characters, as the source counts them: on
the terminal a line has its width if each of its characters takes one cell.

`lines` has the operations of each line, `cells` what they put on the terminal. A frame without a
message has one line less than the terminal has rows; with a message it has one line more, and what
does not fit is scrolled away at the top.
-/

namespace Lusbip
namespace Tui

open Lib
open Lib.Fields
open Lib.Terminal
open Agent (TuiItem)

/-! ## Texts of a width -/

/-- What does not fit into the width gives way to three dots, or to as many as fit. -/
def truncateToWidth (value : Text) (width : Nat) : Text :=
  if value.length ≤ width then value
  else if width = 0 then []
  else if width ≤ 3 then List.replicate width '.'
  else value.take (width - 3) ++ "...".toList

/-- Blanks up to the width. -/
def padToWidth (value : Text) (width : Nat) : Text :=
  let value := truncateToWidth value width
  value ++ List.replicate (width - value.length) ' '

theorem length_truncateToWidth (value : Text) (width : Nat) :
    (truncateToWidth value width).length = min value.length width := by
  unfold truncateToWidth
  split
  · rename_i h
    exact (Nat.min_eq_left h).symm
  · rename_i h
    split
    · rename_i hzero
      rw [hzero, Nat.min_zero]
      rfl
    · split
      · rw [List.length_replicate, Nat.min_eq_right (Nat.le_of_not_le h)]
      · rw [List.length_append, List.length_take]
        show min (width - 3) value.length + 3 = _
        omega

/-- The characters that are written by the source itself: ASCII, the lines of the box, the arrows. -/
def isOwn (c : Char) : Bool :=
  (32 ≤ c.toNat && c.toNat < 127) || "┌─┐└┘├┤│↑↓".toList.contains c

/-- A terminal that gives one cell to each of them. -/
def Narrow (charWidth : Char → Nat) : Prop := ∀ c, isOwn c = true → charWidth c = 1

theorem isPrintable_of_isOwn {c : Char} (h : isOwn c = true) : isPrintable c = true := by
  rcases Bool.or_eq_true_iff.mp h with hascii | hbox
  · obtain ⟨hlow, hhigh⟩ := Bool.and_eq_true_iff.mp hascii
    have hlow := of_decide_eq_true hlow
    have hhigh := of_decide_eq_true hhigh
    unfold isPrintable
    rw [Bool.and_eq_true, Bool.not_eq_true', Bool.and_eq_false_iff, decide_eq_true_iff,
      decide_eq_false_iff_not, decide_eq_false_iff_not]
    omega
  · have hall : "┌─┐└┘├┤│↑↓".toList.all isPrintable = true := by decide
    exact List.all_eq_true.mp hall c (List.contains_iff_mem.mp hbox)

variable {charWidth : Char → Nat}

theorem Narrow.plain (h : Narrow charWidth) {text : Text} (htext : text.all isOwn = true) :
    Plain charWidth text := by
  intro c hc
  have hown : isOwn c = true := List.all_eq_true.mp htext c hc
  exact ⟨isPrintable_of_isOwn hown, h c hown⟩

theorem Narrow.plain_replicate (h : Narrow charWidth) {c : Char} (hc : isOwn c = true) (n : Nat) :
    Plain charWidth (List.replicate n c) :=
  h.plain (List.all_eq_true.mpr fun _ hd => List.eq_of_mem_replicate hd ▸ hc)

theorem Narrow.plain_truncateToWidth (hnarrow : Narrow charWidth) {value : Text}
    (h : Plain charWidth value) (width : Nat) : Plain charWidth (truncateToWidth value width) := by
  unfold truncateToWidth
  split
  · exact h
  · split
    · exact fun _ hc => nomatch hc
    · split
      · exact hnarrow.plain_replicate rfl width
      · exact (h.subset (List.take_subset _ _)).append (hnarrow.plain (by decide))

/-- **A padded text is exactly as wide as it has to be.** -/
theorem length_padToWidth (value : Text) (width : Nat) : (padToWidth value width).length = width := by
  unfold padToWidth
  rw [List.length_append, List.length_replicate, length_truncateToWidth]
  omega

theorem Narrow.plain_padToWidth (hnarrow : Narrow charWidth) {value : Text}
    (h : Plain charWidth value) (width : Nat) : Plain charWidth (padToWidth value width) :=
  (hnarrow.plain_truncateToWidth h width).append (hnarrow.plain_replicate rfl _)

/-! ## Lines -/

/-- The colours of crossterm that the source uses. -/
inductive Color where
  | darkGrey
  | darkRed
  | red
  | green
  | yellow
  | white
  | grey
  | rgb (r g b : UInt8)
  deriving DecidableEq, Repr

/-- What is queued for the terminal. -/
abbrev Draw := List (Op Color)

/-- One of four strokes, in turn. -/
def spinnerFrame (frame : UInt64) : Text :=
  match frame.toNat % 4 with
  | 0 => "|".toList
  | 1 => "/".toList
  | 2 => "-".toList
  | _ => "\\".toList

/-- The label of a row that is processed. -/
def labelWithSpinner (label : Text) (frame : UInt64) : Text :=
  label ++ "  ".toList ++ spinnerFrame frame

/-- The colour of a row is read off its label: green where a port is attached, red where somebody
    else has the device. -/
def rowColorForLabel (label : Text) (isProcessing : Bool) : Color :=
  if isProcessing then .yellow
  else if (stripPrefix "[x]".toList label).isSome then .green
  else if (stripPrefix "[!]".toList label).isSome ||
      (splitOnce "occupied by".toList label).isSome || (splitOnce "locked by".toList label).isSome
  then .darkRed
  else .white

/-- `top_border`, without the end of the line. -/
def topBorder (title : Text) (width : Nat) : Text :=
  let title := truncateToWidth title (width - 6)
  let start := "┌ ".toList ++ title ++ " ".toList
  start ++ List.replicate (width - (start.length + 1)) '─' ++ "┐".toList

/-- `bottom_border`, without the end of the line. -/
def bottomBorder (width : Nat) : Text :=
  "└".toList ++ List.replicate (width - 2) '─' ++ "┘".toList

/-- The line between two parts of the box, without its end. -/
def separator (width : Nat) : Text := "├".toList ++ List.replicate (width - 2) '─' ++ "┤".toList

/-- A line of the box itself. -/
def drawBorder (text : Text) : Draw :=
  [.foreground .darkGrey, .print (text ++ Display.lineEnd), .reset]

/-- The separator, drawn. -/
def drawSeparator (width : Nat) : Draw := drawBorder (separator width)

/-- A line of text inside the box, with its own colours between the two bars. -/
def drawContentLine (text : Text) (width : Nat) (foreground : Color) (background : Option Color) :
    Draw :=
  [.foreground .darkGrey, .print "│".toList, .foreground foreground] ++
    (match background with
      | some background => [.background background]
      | none => []) ++
    [.print (padToWidth text width), .reset, .foreground .darkGrey,
      .print ("│".toList ++ Display.lineEnd), .reset]

/-- The keys, as the status bar tells them. -/
def statusControls : Text :=
  "  ↑↓/j/k Move  Space Attach/Detach  Esc Background  Ctrl+C Detach & Quit".toList

/-- The status bar: eight columns for the name, the rest for the keys. -/
def drawStatusBar (width : Nat) : Draw :=
  let labelWidth := min width 8
  let controlsWidth := width - labelWidth
  [.foreground .darkGrey, .print "│".toList, .background (.rgb 99 102 241), .foreground .white,
    .print (padToWidth " LUSBIP".toList labelWidth), .background (.rgb 30 30 40), .foreground .white,
    .print (padToWidth statusControls controlsWidth), .reset, .foreground .darkGrey,
    .print ("│".toList ++ Display.lineEnd), .reset]

/-! ## The frame -/

/-- What `draw_items` is called with. -/
structure View where
  title : Text
  items : List TuiItem
  selected : Nat
  chosen : List Nat := []
  showCheckboxes : Bool := false
  message : Option Text := none
  processing : Option ProcessingIndicator := none
  deriving DecidableEq, Repr

/-- A frame has four columns at least, whatever the terminal has. -/
def frameWidth (cols : UInt16) : Nat := max cols.toNat 4

/-- The rows of the window: seven lines less than the terminal has, and at least one. -/
def listHeight (rows : UInt16) : Nat := max (rows.toNat - 7) 1

/-- The first row of the window. -/
def firstShown (selected listHeight : Nat) : Nat :=
  if listHeight ≤ selected then selected + 1 - listHeight else 0

namespace View

/-- The line above the rows. -/
def summary (v : View) : Text :=
  if v.items = [] then " No USB devices are currently exported. Waiting for hotplug...".toList
  else
    " ".toList ++ decimal v.items.length
      ++ " device(s) exported. Space toggles the selected port.".toList

/-- An action is running for the row. -/
def isProcessing (v : View) (item : TuiItem) : Bool :=
  v.processing.any fun processing => processing.ids.contains item.id

/-- The label, with the spinner behind it while the row is processed. -/
def label (v : View) (item : TuiItem) : Text :=
  match v.processing with
  | some processing =>
      if v.isProcessing item then labelWithSpinner item.label processing.frame else item.label
  | none => item.label

/-- The text of a row: the marker of the selected one, the box where rows are ticked, the label. -/
def itemText (v : View) (index : Nat) (item : TuiItem) : Text :=
  let marker := if v.selected = index then ">".toList else " ".toList
  let checked :=
    if !v.showCheckboxes then [] else if v.chosen.contains index then "[x] ".toList
    else "[ ] ".toList
  " ".toList ++ marker ++ " ".toList ++ checked ++ v.label item

/-- The colour is that of the label without its spinner. -/
def itemColor (v : View) (item : TuiItem) : Color :=
  rowColorForLabel item.label (v.isProcessing item)

/-- The selected row has a background of its own, no other line has it. -/
def itemBackground (v : View) (index : Nat) : Option Color :=
  if v.selected = index then some .darkGrey else none

/-- The rows of the window, each with its index. -/
def visibleItems (v : View) (rows : UInt16) : List (TuiItem × Nat) :=
  (v.items.zipIdx.drop (firstShown v.selected (listHeight rows))).take (listHeight rows)

/-- A message that tells of an error is red. -/
def messageColor (message : Text) : Color := if isError (some message) then .red else .yellow

/-- The lines for a message, if there is one. -/
def messageLines (v : View) (width : Nat) : List Draw :=
  match v.message with
  | some message =>
      [drawSeparator width,
        drawContentLine (" ".toList ++ message) (width - 2) (messageColor message) none]
  | none => []

/-- The lines of the box, from the top. -/
def lines (v : View) (cols rows : UInt16) : List Draw :=
  let width := frameWidth cols
  let innerWidth := width - 2
  let visibleItems := v.visibleItems rows
  [drawBorder (topBorder v.title width), drawContentLine v.summary innerWidth .darkGrey none,
      drawSeparator width] ++
    (visibleItems.map fun (item, index) =>
      drawContentLine (v.itemText index item) innerWidth (v.itemColor item)
        (v.itemBackground index)) ++
    List.replicate (listHeight rows - visibleItems.length)
      (drawContentLine [] innerWidth .grey none) ++
    v.messageLines width ++
    [drawSeparator width, drawStatusBar innerWidth, drawBorder (bottomBorder width)]

end View

/-- `draw_items`, on a terminal of this size. -/
def drawItems (v : View) (cols rows : UInt16) : Draw :=
  [.clear, .moveTo 0 0] ++ (v.lines cols rows).flatten

/-! ## What a line shows -/

/-- A character of the box. -/
def boxCell (c : Char) : Cell Color := ⟨c, { foreground := some .darkGrey }⟩

/-- The cells of a line of text: the text between two bars, in its colours. -/
def contentCells (text : Text) (width : Nat) (foreground : Color) (background : Option Color) :
    List (Cell Color) :=
  boxCell '│' ::
    (padToWidth text width).map (fun c => ⟨c, { foreground := some foreground, background }⟩) ++
    [boxCell '│']

/-- The cells of the status bar. -/
def statusBarCells (width : Nat) : List (Cell Color) :=
  boxCell '│' ::
    (padToWidth " LUSBIP".toList (min width 8)).map
      (fun c => ⟨c, { foreground := some .white, background := some (.rgb 99 102 241) }⟩) ++
    (padToWidth statusControls (width - min width 8)).map
      (fun c => ⟨c, { foreground := some .white, background := some (.rgb 30 30 40) }⟩) ++
    [boxCell '│']

theorem writesLine_border {text : Text} {width : Nat} (h : Plain charWidth text)
    (hw : text.length = width) :
    Display.WritesLine charWidth width (drawBorder text) (text.map boxCell) := by
  have hcells : cells {} ([.foreground Color.darkGrey] ++ [.print text]) = text.map boxCell :=
    List.append_nil _
  rw [← hcells]
  refine Display.writesLine_of_inline (fun op hop => ?_) h ?_
  · exact List.mem_singleton.mp hop ▸ trivial
  · rw [hcells, List.length_map, hw]

theorem length_contentCells (text : Text) (width : Nat) (foreground : Color)
    (background : Option Color) :
    (contentCells text width foreground background).length = width + 2 := by
  rw [contentCells, List.length_append, List.length_cons, List.length_map, length_padToWidth]
  rfl

theorem Narrow.writesLine_content (hnarrow : Narrow charWidth) {text : Text}
    (h : Plain charWidth text) (width : Nat) (foreground : Color) (background : Option Color) :
    Display.WritesLine charWidth (width + 2) (drawContentLine text width foreground background)
      (contentCells text width foreground background) := by
  have hline : ∀ colors : Draw,
      (colors = [] ∧ background = none ∨
        ∃ color, colors = [.background color] ∧ background = some color) →
      Display.WritesLine charWidth (width + 2)
        ([.foreground .darkGrey, .print "│".toList, .foreground foreground] ++ colors ++
          [.print (padToWidth text width), .reset, .foreground .darkGrey] ++
          [.print ("│".toList ++ Display.lineEnd), .reset])
        (contentCells text width foreground background) := by
    intro colors hcolors
    have hcells : cells {} ([.foreground .darkGrey, .print "│".toList, .foreground foreground] ++
        colors ++ [.print (padToWidth text width), .reset, .foreground .darkGrey] ++
        [.print "│".toList]) = contentCells text width foreground background := by
      rcases hcolors with ⟨rfl, rfl⟩ | ⟨color, rfl, rfl⟩
      · rfl
      · rfl
    rw [← hcells]
    refine Display.writesLine_of_inline (fun op hop => ?_) (hnarrow.plain (by decide)) ?_
    · simp only [List.mem_append, List.mem_cons, List.not_mem_nil, or_false] at hop
      rcases hop with ((rfl | rfl | rfl) | hop) | rfl | rfl | rfl
      · trivial
      · exact (hnarrow.plain (by decide) : Plain charWidth "│".toList)
      · trivial
      · rcases hcolors with ⟨rfl, -⟩ | ⟨color, rfl, -⟩
        · exact nomatch hop
        · exact List.mem_singleton.mp hop ▸ trivial
      · exact hnarrow.plain_padToWidth h width
      · trivial
      · trivial
    · rw [hcells, length_contentCells]
  unfold drawContentLine
  cases background with
  | none => exact hline [] (Or.inl ⟨rfl, rfl⟩)
  | some color => exact hline [.background color] (Or.inr ⟨color, rfl, rfl⟩)

theorem length_statusBarCells (width : Nat) : (statusBarCells width).length = width + 2 := by
  rw [statusBarCells, List.length_append, List.length_append, List.length_cons, List.length_map,
    List.length_map, length_padToWidth, length_padToWidth]
  show min width 8 + 1 + (width - min width 8) + 1 = width + 2
  omega

theorem Narrow.plain_statusControls (hnarrow : Narrow charWidth) :
    Plain charWidth statusControls := hnarrow.plain (by decide)

theorem Narrow.writesLine_statusBar (hnarrow : Narrow charWidth) (width : Nat) :
    Display.WritesLine charWidth (width + 2) (drawStatusBar width) (statusBarCells width) := by
  have hcells : cells {} ([.foreground .darkGrey, .print "│".toList,
      .background (.rgb 99 102 241), .foreground .white,
      .print (padToWidth " LUSBIP".toList (min width 8)), .background (.rgb 30 30 40),
      .foreground .white,
      .print (padToWidth statusControls (width - min width 8)), .reset,
      .foreground .darkGrey] ++ [.print "│".toList]) = statusBarCells width := by
    unfold statusBarCells
    rw [List.append_assoc]
    rfl
  rw [← hcells]
  refine @Display.writesLine_of_inline _ charWidth _ "│".toList _ (fun op hop => ?_)
    (hnarrow.plain (by decide)) ?_
  · simp only [List.mem_cons, List.not_mem_nil, or_false] at hop
    rcases hop with rfl | rfl | rfl | rfl | rfl | rfl | rfl | rfl | rfl | rfl
    · trivial
    · exact (hnarrow.plain (by decide) : Plain charWidth "│".toList)
    · trivial
    · trivial
    · exact hnarrow.plain_padToWidth (hnarrow.plain (by decide)) _
    · trivial
    · trivial
    · exact hnarrow.plain_padToWidth hnarrow.plain_statusControls _
    · trivial
    · trivial
  · rw [hcells, length_statusBarCells]

theorem length_topBorder (title : Text) {width : Nat} (h : 4 ≤ width) :
    (topBorder title width).length = width := by
  unfold topBorder
  simp only [List.length_append, List.length_replicate, length_truncateToWidth]
  show 2 + _ + 1 + (width - (2 + _ + 1 + 1)) + 1 = width
  omega

theorem length_bottomBorder {width : Nat} (h : 4 ≤ width) : (bottomBorder width).length = width := by
  unfold bottomBorder
  rw [List.length_append, List.length_append, List.length_replicate]
  show 1 + (width - 2) + 1 = width
  omega

theorem length_separator {width : Nat} (h : 4 ≤ width) : (separator width).length = width := by
  unfold separator
  rw [List.length_append, List.length_append, List.length_replicate]
  show 1 + (width - 2) + 1 = width
  omega

theorem Narrow.plain_topBorder (hnarrow : Narrow charWidth) {title : Text}
    (h : Plain charWidth title) (width : Nat) : Plain charWidth (topBorder title width) := by
  have hopened : Plain charWidth ("┌ ".toList ++ truncateToWidth title (width - 6)) :=
    (hnarrow.plain (by decide)).append (hnarrow.plain_truncateToWidth h _)
  have hstart := hopened.append (hnarrow.plain (by decide) : Plain charWidth " ".toList)
  exact (hstart.append (hnarrow.plain_replicate rfl _)).append (hnarrow.plain (by decide))

theorem Narrow.plain_bottomBorder (hnarrow : Narrow charWidth) (width : Nat) :
    Plain charWidth (bottomBorder width) :=
  ((hnarrow.plain (by decide)).append (hnarrow.plain_replicate rfl _)).append
    (hnarrow.plain (by decide))

theorem Narrow.plain_separator (hnarrow : Narrow charWidth) (width : Nat) :
    Plain charWidth (separator width) :=
  ((hnarrow.plain (by decide)).append (hnarrow.plain_replicate rfl _)).append
    (hnarrow.plain (by decide))

/-! ## What a frame shows -/

namespace View

/-- Nothing in the texts moves the cursor by more or less than one cell. -/
structure Printable (charWidth : Char → Nat) (v : View) : Prop where
  own : Narrow charWidth
  title : Plain charWidth v.title
  items : ∀ item ∈ v.items, Plain charWidth item.label
  message : ∀ message ∈ v.message, Plain charWidth message

/-- The cells of the line of a row. -/
def itemCells (v : View) (innerWidth : Nat) (item : TuiItem) (index : Nat) : List (Cell Color) :=
  contentCells (v.itemText index item) innerWidth (v.itemColor item) (v.itemBackground index)

/-- The cells of a separator. -/
def separatorCells (width : Nat) : List (Cell Color) := (separator width).map boxCell

/-- The lines above the window. -/
def headCells (v : View) (width : Nat) : List (List (Cell Color)) :=
  [(topBorder v.title width).map boxCell, contentCells v.summary (width - 2) .darkGrey none,
    separatorCells width]

/-- The cells of the lines for a message, if there is one. -/
def messageCells (v : View) (width : Nat) : List (List (Cell Color)) :=
  match v.message with
  | some message =>
      [separatorCells width,
        contentCells (" ".toList ++ message) (width - 2) (messageColor message) none]
  | none => []

/-- The lines below the rows of the window. -/
def tailCells (v : View) (cols rows : UInt16) : List (List (Cell Color)) :=
  let width := frameWidth cols
  List.replicate (listHeight rows - (v.visibleItems rows).length)
      (contentCells [] (width - 2) .grey none) ++
    v.messageCells width ++
    [separatorCells width, statusBarCells (width - 2), (bottomBorder width).map boxCell]

/-- The cells of the whole frame, line by line from the top. -/
def cells (v : View) (cols rows : UInt16) : List (List (Cell Color)) :=
  v.headCells (frameWidth cols) ++
    (v.visibleItems rows).map (fun (item, index) =>
      v.itemCells (frameWidth cols - 2) item index) ++
    v.tailCells cols rows

/-- The row of the window at each place. -/
theorem getElem?_visibleItems (v : View) (rows : UInt16) (j : Nat) :
    (v.visibleItems rows)[j]? =
      if j < listHeight rows then
        (v.items[firstShown v.selected (listHeight rows) + j]?).map
          fun item => (item, firstShown v.selected (listHeight rows) + j)
      else none := by
  rw [visibleItems, List.getElem?_take]
  split
  · rw [List.getElem?_drop, List.getElem?_zipIdx, Nat.zero_add]
  · rfl

theorem length_visibleItems_le (v : View) (rows : UInt16) :
    (v.visibleItems rows).length ≤ listHeight rows := List.length_take_le _ _

theorem mem_of_mem_visibleItems {v : View} {rows : UInt16} {item : TuiItem} {index : Nat}
    (h : (item, index) ∈ v.visibleItems rows) : item ∈ v.items := by
  obtain ⟨j, hj⟩ := List.getElem?_of_mem h
  rw [getElem?_visibleItems] at hj
  split at hj
  · obtain ⟨other, hother, heq⟩ := Option.map_eq_some_iff.mp hj
    cases heq
    exact List.mem_of_getElem? hother
  · cases hj

variable {v : View}

theorem isOwn_spinnerFrame (frame : UInt64) : (spinnerFrame frame).all isOwn = true := by
  unfold spinnerFrame
  split
  · decide
  · decide
  · decide
  · decide

theorem Printable.itemText (h : v.Printable charWidth) {item : TuiItem} (hitem : item ∈ v.items)
    (index : Nat) : Plain charWidth (v.itemText index item) := by
  have hlabel : Plain charWidth (v.label item) := by
    unfold View.label
    split
    · split
      · exact ((h.items item hitem).append (h.own.plain (by decide))).append
          (h.own.plain (isOwn_spinnerFrame _))
      · exact h.items item hitem
    · exact h.items item hitem
  have hmarker : (if v.selected = index then ">".toList else " ".toList).all isOwn = true := by
    split
    · decide
    · decide
  have hchecked : (if !v.showCheckboxes then [] else if v.chosen.contains index then
      "[x] ".toList else "[ ] ".toList).all isOwn = true := by
    split
    · decide
    · split
      · decide
      · decide
  have hfront : Plain charWidth (" ".toList ++ _ ++ " ".toList) :=
    ((h.own.plain (by decide)).append (h.own.plain hmarker)).append (h.own.plain (by decide))
  exact (hfront.append (h.own.plain hchecked)).append hlabel

theorem isOwn_of_isDigit {c : Char} (h : c.isDigit = true) : isOwn c = true := by
  have hrange : 48 ≤ c.toNat ∧ c.toNat ≤ 57 := by
    unfold Char.isDigit at h
    rw [Bool.and_eq_true, decide_eq_true_iff, decide_eq_true_iff] at h
    exact ⟨h.1, h.2⟩
  refine Bool.or_eq_true_iff.mpr (Or.inl (Bool.and_eq_true_iff.mpr ⟨?_, ?_⟩))
  · exact decide_eq_true (by omega)
  · exact decide_eq_true (by omega)

theorem Printable.summary (h : v.Printable charWidth) : Plain charWidth v.summary := by
  unfold View.summary
  split
  · exact h.own.plain (by decide)
  · have hcount : Plain charWidth (decimal v.items.length) :=
      h.own.plain (List.all_eq_true.mpr fun c hc => isOwn_of_isDigit (isDigit_of_mem_decimal hc))
    exact ((h.own.plain (by decide)).append hcount).append (h.own.plain (by decide))

theorem four_le_frameWidth (cols : UInt16) : 4 ≤ frameWidth cols := Nat.le_max_right _ _

/-- A content line inside the box. -/
theorem writesLine_inner (hnarrow : Narrow charWidth) {text : Text} (h : Plain charWidth text)
    (cols : UInt16) (foreground : Color) (background : Option Color) :
    Display.WritesLine charWidth (frameWidth cols)
      (drawContentLine text (frameWidth cols - 2) foreground background)
      (contentCells text (frameWidth cols - 2) foreground background) := by
  have hwidth : frameWidth cols - 2 + 2 = frameWidth cols := by
    have := four_le_frameWidth cols
    omega
  have hline := hnarrow.writesLine_content h (frameWidth cols - 2) foreground background
  rwa [hwidth] at hline

theorem writesLine_separator (hnarrow : Narrow charWidth) (cols : UInt16) :
    Display.WritesLine charWidth (frameWidth cols) (drawSeparator (frameWidth cols))
      (separatorCells (frameWidth cols)) :=
  writesLine_border (hnarrow.plain_separator _) (length_separator (four_le_frameWidth cols))

theorem writesLine_status (hnarrow : Narrow charWidth) (cols : UInt16) :
    Display.WritesLine charWidth (frameWidth cols) (drawStatusBar (frameWidth cols - 2))
      (statusBarCells (frameWidth cols - 2)) := by
  have hwidth : frameWidth cols - 2 + 2 = frameWidth cols := by
    have := four_le_frameWidth cols
    omega
  have hline := hnarrow.writesLine_statusBar (frameWidth cols - 2)
  rwa [hwidth] at hline

/-- **Every line of the box is as wide as the terminal**, and shows its cells. -/
theorem Printable.writesLines (h : v.Printable charWidth) (cols rows : UInt16) :
    List.Forall₂ (Display.WritesLine charWidth (frameWidth cols)) (v.lines cols rows)
      (v.cells cols rows) := by
  -- The frame is drawn in five parts, each line of which writes its own cells.
  have hhead : List.Forall₂ (Display.WritesLine charWidth (frameWidth cols))
      [drawBorder (topBorder v.title (frameWidth cols)),
        drawContentLine v.summary (frameWidth cols - 2) .darkGrey none,
        drawSeparator (frameWidth cols)] (v.headCells (frameWidth cols)) :=
    .cons (writesLine_border (h.own.plain_topBorder h.title _)
        (length_topBorder _ (four_le_frameWidth cols)))
      (.cons (writesLine_inner h.own h.summary cols _ _)
        (.cons (writesLine_separator h.own cols) .nil))
  have hitems : List.Forall₂ (Display.WritesLine charWidth (frameWidth cols))
      ((v.visibleItems rows).map fun (item, index) =>
        drawContentLine (v.itemText index item) (frameWidth cols - 2) (v.itemColor item)
          (v.itemBackground index))
      ((v.visibleItems rows).map fun (item, index) =>
        v.itemCells (frameWidth cols - 2) item index) := by
    rw [List.forall₂_map_left_iff, List.forall₂_map_right_iff, List.forall₂_same]
    rintro ⟨item, index⟩ hmem
    exact writesLine_inner h.own (h.itemText (mem_of_mem_visibleItems hmem) index) cols _ _
  have hblank : List.Forall₂ (Display.WritesLine charWidth (frameWidth cols))
      (List.replicate (listHeight rows - (v.visibleItems rows).length)
        (drawContentLine [] (frameWidth cols - 2) .grey none))
      (List.replicate (listHeight rows - (v.visibleItems rows).length)
        (contentCells [] (frameWidth cols - 2) .grey none)) := by
    induction listHeight rows - (v.visibleItems rows).length with
    | zero => exact .nil
    | succ n ih =>
      exact .cons (writesLine_inner h.own (fun c hc => absurd hc List.not_mem_nil) cols _ _) ih
  have hmessage : List.Forall₂ (Display.WritesLine charWidth (frameWidth cols))
      (v.messageLines (frameWidth cols)) (v.messageCells (frameWidth cols)) := by
    unfold messageLines messageCells
    cases hm : v.message with
    | none => exact .nil
    | some message =>
      have hplain : Plain charWidth (" ".toList ++ message) :=
        (h.own.plain (by decide)).append (h.message message hm)
      exact .cons (writesLine_separator h.own cols)
        (.cons (writesLine_inner h.own hplain cols _ _) .nil)
  have htail : List.Forall₂ (Display.WritesLine charWidth (frameWidth cols))
      [drawSeparator (frameWidth cols), drawStatusBar (frameWidth cols - 2),
        drawBorder (bottomBorder (frameWidth cols))]
      [separatorCells (frameWidth cols), statusBarCells (frameWidth cols - 2),
        (bottomBorder (frameWidth cols)).map boxCell] :=
    .cons (writesLine_separator h.own cols)
      (.cons (writesLine_status h.own cols)
        (.cons (writesLine_border (h.own.plain_bottomBorder _)
          (length_bottomBorder (four_le_frameWidth cols))) .nil))
  have hall := List.rel_append (List.rel_append (List.rel_append (List.rel_append hhead hitems)
    hblank) hmessage) htail
  rw [cells, tailCells]
  simp only [List.append_assoc] at hall ⊢
  simpa only [lines, List.append_assoc] using hall

theorem length_messageCells (v : View) (width : Nat) :
    (v.messageCells width).length = if v.message.isSome then 2 else 0 := by
  unfold messageCells
  cases v.message with
  | none => rfl
  | some message => rfl

/-- The lines of a frame: seven with the first row, two more for a message. -/
theorem length_cells (v : View) (cols rows : UInt16) :
    (v.cells cols rows).length = listHeight rows + 6 + if v.message.isSome then 2 else 0 := by
  have hle := length_visibleItems_le v rows
  rw [cells, tailCells, headCells]
  simp only [List.length_append, List.length_map, List.length_replicate, length_messageCells,
    List.length_cons, List.length_nil]
  omega

/-- **What the terminal shows**: the last lines of the frame. -/
theorem Printable.showing {cols rows : UInt16} {d : Display Color} (h : v.Printable d.charWidth)
    (hwidth : d.width = cols.toNat) (hcols : 4 ≤ cols.toNat) (hstyle : d.style = {}) :
    Display.Showing (v.cells cols rows) (d.execAll (drawItems v cols rows)) := by
  have hclear := Display.showing_clear d
  have hsame : ({ d with style := {} } : Display Color) = d := by
    rw [← hstyle]
  rw [hsame] at hclear
  have hframe : frameWidth cols = (d.execAll [.clear, .moveTo 0 0]).width :=
    (Nat.max_eq_left hcols).trans hwidth.symm
  have hlines := h.writesLines cols rows
  rw [hframe] at hlines
  have hshown := hclear.writeLines hlines
  rw [List.nil_append] at hshown
  rw [drawItems, Display.execAll_append]
  exact hshown

/-! ## The selected row -/

/-- A line with the background of the selected row. -/
def Highlighted (line : List (Cell Color)) : Prop :=
  ∃ cell ∈ line, cell.style.background = some .darkGrey

theorem not_highlighted_border (text : Text) : ¬Highlighted (text.map boxCell) := by
  rintro ⟨cell, hcell, hbackground⟩
  obtain ⟨c, -, rfl⟩ := List.mem_map.mp hcell
  cases hbackground

theorem highlighted_contentCells {text : Text} {width : Nat} {foreground : Color}
    {background : Option Color} (hwidth : 0 < width) :
    Highlighted (contentCells text width foreground background) ↔ background = some .darkGrey := by
  constructor
  · rintro ⟨cell, hcell, hbackground⟩
    rcases List.mem_append.mp hcell with hcell | hcell
    · rcases List.mem_cons.mp hcell with rfl | hcell
      · cases hbackground
      · obtain ⟨c, -, rfl⟩ := List.mem_map.mp hcell
        exact hbackground
    · rw [List.mem_singleton.mp hcell] at hbackground
      cases hbackground
  · intro hbackground
    have hne : padToWidth text width ≠ [] := by
      rw [← List.length_pos_iff, length_padToWidth]
      exact hwidth
    obtain ⟨c, hc⟩ := List.exists_mem_of_ne_nil _ hne
    exact ⟨_, List.mem_append_left _ (List.mem_cons_of_mem _ (List.mem_map_of_mem hc)), hbackground⟩

theorem not_highlighted_statusBar (width : Nat) : ¬Highlighted (statusBarCells width) := by
  rintro ⟨cell, hcell, hbackground⟩
  simp only [statusBarCells, List.mem_append, List.mem_cons, List.mem_map, List.not_mem_nil,
    or_false] at hcell
  rcases hcell with ((rfl | ⟨c, -, rfl⟩) | ⟨c, -, rfl⟩) | rfl
  · cases hbackground
  · cases hbackground
  · cases hbackground
  · cases hbackground

theorem inner_pos (cols : UInt16) : 0 < frameWidth cols - 2 := by
  have := four_le_frameWidth cols
  omega

theorem not_highlighted_head {v : View} {cols : UInt16} :
    ∀ line ∈ v.headCells (frameWidth cols), ¬Highlighted line := by
  intro line hline
  simp only [headCells, List.mem_cons, List.not_mem_nil, or_false] at hline
  rcases hline with rfl | rfl | rfl
  · exact not_highlighted_border _
  · exact fun h => nomatch (highlighted_contentCells (inner_pos cols)).mp h
  · exact not_highlighted_border _

theorem not_highlighted_tail {v : View} {cols rows : UInt16} :
    ∀ line ∈ v.tailCells cols rows, ¬Highlighted line := by
  intro line hline
  have hcontent : ∀ (text : Text) (color : Color),
      ¬Highlighted (contentCells text (frameWidth cols - 2) color none) := fun text color h =>
    nomatch (highlighted_contentCells (inner_pos cols)).mp h
  rw [tailCells] at hline
  rcases List.mem_append.mp hline with hline | hline
  · rcases List.mem_append.mp hline with hline | hline
    · rw [List.eq_of_mem_replicate hline]
      exact hcontent _ _
    · unfold messageCells at hline
      cases hm : v.message with
      | none =>
        rw [hm] at hline
        exact nomatch hline
      | some message =>
        rw [hm] at hline
        simp only [List.mem_cons, List.not_mem_nil, or_false] at hline
        rcases hline with rfl | rfl
        · exact not_highlighted_border _
        · exact hcontent _ _
  · simp only [List.mem_cons, List.not_mem_nil, or_false] at hline
    rcases hline with rfl | rfl | rfl
    · exact not_highlighted_border _
    · exact not_highlighted_statusBar _
    · exact not_highlighted_border _

/-- The line of the selected row in the frame. -/
def selectedLine (v : View) (rows : UInt16) : Nat :=
  3 + (v.selected - firstShown v.selected (listHeight rows))

/-- The lines of the frame that are scrolled away. -/
def scrolled (v : View) (cols rows : UInt16) : Nat := (v.cells cols rows).length - (rows.toNat - 1)

/-- The window has the selected row. -/
theorem firstShown_le_selected (selected height : Nat) (h : 0 < height) :
    firstShown selected height ≤ selected ∧ selected < firstShown selected height + height := by
  unfold firstShown
  split
  · omega
  · omega

theorem listHeight_pos (rows : UInt16) : 0 < listHeight rows := Nat.le_max_right _ _

theorem visibleItems_selected {v : View} {item : TuiItem}
    (hitem : v.items[v.selected]? = some item) (rows : UInt16) :
    (v.visibleItems rows)[v.selected - firstShown v.selected (listHeight rows)]? =
      some (item, v.selected) := by
  obtain ⟨hfirst, hlast⟩ :=
    firstShown_le_selected v.selected (listHeight rows) (listHeight_pos rows)
  rw [getElem?_visibleItems, if_pos (by omega), Nat.add_sub_cancel' hfirst, hitem]
  rfl

theorem getElem?_selectedLine {v : View} {item : TuiItem}
    (hitem : v.items[v.selected]? = some item) (cols rows : UInt16) :
    (v.cells cols rows)[v.selectedLine rows]? =
      some (v.itemCells (frameWidth cols - 2) item v.selected) := by
  have hat := visibleItems_selected hitem rows
  have hlength := (List.getElem?_eq_some_iff.mp hat).1
  have hhead : (v.headCells (frameWidth cols)).length = 3 := rfl
  rw [cells, List.append_assoc, selectedLine,
    List.getElem?_append_right (by rw [hhead]; exact Nat.le_add_right _ _), hhead,
    Nat.add_sub_cancel_left, List.getElem?_append_left (by rw [List.length_map]; exact hlength),
    List.getElem?_map, hat]
  rfl

/-- **The line of the selected row is the highlighted one.** -/
theorem highlighted_line_iff {v : View} {cols rows : UInt16} {item : TuiItem}
    (hitem : v.items[v.selected]? = some item) {i : Nat} {line : List (Cell Color)}
    (hline : (v.cells cols rows)[i]? = some line) :
    Highlighted line ↔ i = v.selectedLine rows := by
  obtain ⟨hfirst, -⟩ :=
    firstShown_le_selected v.selected (listHeight rows) (listHeight_pos rows)
  have hlength := (List.getElem?_eq_some_iff.mp (visibleItems_selected hitem rows)).1
  have hhead : (v.headCells (frameWidth cols)).length = 3 := rfl
  rw [cells, List.append_assoc] at hline
  unfold selectedLine
  -- The border, the summary and the separator carry no highlight.
  rcases Nat.lt_or_ge i 3 with hi | hi
  · rw [List.getElem?_append_left (by rw [hhead]; exact hi)] at hline
    exact iff_of_false (not_highlighted_head line (List.mem_of_getElem? hline)) (by omega)
  · rw [List.getElem?_append_right (by rw [hhead]; exact hi), hhead] at hline
    rcases Nat.lt_or_ge (i - 3) (v.visibleItems rows).length with hj | hj
    · rw [List.getElem?_append_left (by rw [List.length_map]; exact hj), List.getElem?_map,
        Option.map_eq_some_iff] at hline
      -- A line of the list carries one exactly when its item is the selected one.
      obtain ⟨⟨shown, index⟩, hshown, rfl⟩ := hline
      have hindex : index = firstShown v.selected (listHeight rows) + (i - 3) := by
        rw [getElem?_visibleItems] at hshown
        split at hshown
        · obtain ⟨_, -, heq⟩ := Option.map_eq_some_iff.mp hshown
          cases heq
          rfl
        · cases hshown
      have hback : Highlighted (v.itemCells (frameWidth cols - 2) shown index) ↔
          v.selected = index := by
        unfold itemCells
        rw [highlighted_contentCells (inner_pos cols)]
        unfold itemBackground
        split
        · rename_i heq
          exact iff_of_true rfl heq
        · rename_i hne
          exact iff_of_false (fun h => nomatch h) hne
      show Highlighted (v.itemCells (frameWidth cols - 2) shown index) ↔ _
      rw [hback, hindex]
      constructor
      · intro heq
        omega
      · intro heq
        omega
    · rw [List.getElem?_append_right (by rw [List.length_map]; exact hj)] at hline
      -- Nor does what stands below the list.
      exact iff_of_false (not_highlighted_tail line (List.mem_of_getElem? hline)) (by omega)

end View

/-- A row of the terminal has the background of the selected row. -/
def HighlightedRow (d : Display Color) (row : Nat) : Prop :=
  ∃ column cell, d.cell row column = some cell ∧ cell.style.background = some .darkGrey

/-- The row of the terminal shows the line. -/
def ShowsLine (d : Display Color) (row : Nat) (drawn : List (Cell Color)) : Prop :=
  ∀ column, d.cell row column = drawn[column]?

theorem ShowsLine.highlighted {d : Display Color} {row : Nat} {line : List (Cell Color)}
    (h : ShowsLine d row line) : HighlightedRow d row ↔ View.Highlighted line := by
  constructor
  · rintro ⟨column, cell, hcell, hback⟩
    rw [h column] at hcell
    exact ⟨cell, List.mem_of_getElem? hcell, hback⟩
  · rintro ⟨cell, hcell, hback⟩
    obtain ⟨column, hcolumn⟩ := List.getElem?_of_mem hcell
    exact ⟨column, cell, (h column).trans hcolumn, hback⟩

/-- The rows of the terminal that a frame needs for its selected row to be on it. -/
def rowsNeeded (v : View) : Nat := if v.message.isSome then 7 else 5

/-- What the user sees of the selected row: it is highlighted, nothing else is, and it is on the
    terminal unless that has too few rows. -/
structure SelectionShown (v : View) (item : TuiItem) (cols rows : UInt16) (d : Display Color) :
    Prop where
  /-- The colours are as before. -/
  style : d.style = {}
  highlighted : ∀ row < rows.toNat,
    HighlightedRow d row ↔ row + v.scrolled cols rows = v.selectedLine rows
  line : ∀ row < rows.toNat, HighlightedRow d row →
    ShowsLine d row (v.itemCells (frameWidth cols - 2) item v.selected)
  visible : (∃ row < rows.toNat, HighlightedRow d row) ↔ rowsNeeded v ≤ rows.toNat

/-- **A frame shows the selected row**, and marks no other one. -/
theorem drawItems_shows_selection {v : View} {item : TuiItem} {cols rows : UInt16}
    {d : Display Color} (h : v.Printable d.charWidth) (hitem : v.items[v.selected]? = some item)
    (hwidth : d.width = cols.toNat) (hheight : d.height = rows.toNat) (hcols : 4 ≤ cols.toNat)
    (hstyle : d.style = {}) :
    SelectionShown v item cols rows (d.execAll (drawItems v cols rows)) := by
  have hshowing : Display.Showing (v.cells cols rows) (d.execAll (drawItems v cols rows)) :=
    h.showing hwidth hcols hstyle
  have hlength := v.length_cells cols rows
  have hselected : v.selectedLine rows < listHeight rows + 3 := by
    have := View.firstShown_le_selected v.selected (listHeight rows) (View.listHeight_pos rows)
    unfold View.selectedLine
    omega
  have hthree : 3 ≤ v.selectedLine rows := Nat.le_add_right _ _
  -- What a row shows is the line drawn that many lines above, less those scrolled away.
  have hshows : ∀ row < rows.toNat, ∀ column,
      (d.execAll (drawItems v cols rows)).cell row column =
        ((v.cells cols rows)[row + v.scrolled cols rows]?).bind fun drawn => drawn[column]? := by
    intro row hrow column
    have hh : (d.execAll (drawItems v cols rows)).height = rows.toNat :=
      (Display.size_execAll d _).2.trans hheight
    have hcell := hshowing.cell row column (by rw [hh]; exact hrow)
    rwa [hh] at hcell
  have hline : ∀ row < rows.toNat, row + v.scrolled cols rows = v.selectedLine rows →
      ShowsLine (d.execAll (drawItems v cols rows)) row
        (v.itemCells (frameWidth cols - 2) item v.selected) := by
    intro row hrow heq column
    rw [hshows row hrow column, heq, View.getElem?_selectedLine hitem]
    rfl
  -- A row is highlighted exactly when it shows the line of the selected item.
  have hiff : ∀ row < rows.toNat, HighlightedRow (d.execAll (drawItems v cols rows)) row ↔
      row + v.scrolled cols rows = v.selectedLine rows := by
    intro row hrow
    cases hat : (v.cells cols rows)[row + v.scrolled cols rows]? with
    | none =>
      refine iff_of_false ?_ fun heq => ?_
      · rintro ⟨column, cell, hcell, -⟩
        rw [hshows row hrow column, hat] at hcell
        cases hcell
      · rw [heq, View.getElem?_selectedLine hitem] at hat
        cases hat
    | some line =>
      have hshown : ShowsLine (d.execAll (drawItems v cols rows)) row line := fun column => by
        rw [hshows row hrow column, hat]
        rfl
      rw [hshown.highlighted, View.highlighted_line_iff hitem hat]
  refine ⟨hshowing.style, hiff, fun row hrow hhigh => hline row hrow ((hiff row hrow).mp hhigh), ?_⟩
  unfold View.scrolled at hiff
  rw [hlength] at hiff
  unfold rowsNeeded
  constructor
  · rintro ⟨row, hrow, hhigh⟩
    -- Its line is among those not scrolled away.
    have heq := (hiff row hrow).mp hhigh
    unfold listHeight at heq hselected
    split
    · rename_i hm
      rw [if_pos hm] at heq
      omega
    · rename_i hm
      rw [if_neg hm] at heq
      omega
  · intro hneeded
    -- With rows enough its line is not scrolled away.
    have hrows : v.selectedLine rows -
        (listHeight rows + 6 + (if v.message.isSome = true then 2 else 0) - (rows.toNat - 1)) <
          rows.toNat ∧
        listHeight rows + 6 + (if v.message.isSome = true then 2 else 0) - (rows.toNat - 1) ≤
          v.selectedLine rows := by
      unfold listHeight at hselected ⊢
      split at hneeded
      · rename_i hm
        rw [if_pos hm]
        omega
      · rename_i hm
        rw [if_neg hm]
        omega
    exact ⟨_, hrows.1, (hiff _ hrows.1).mpr (Nat.sub_add_cancel hrows.2)⟩

/-- Two rows, the second one of them selected, on a terminal of the usual size. -/
def twoRows : View where
  title := "LUSBIP".toList
  items :=
    [{ id := "1-1".toList, label := "[x] port 00 | 1-1".toList },
      { id := "1-2".toList, label := "[ ] | 1-2".toList }]
  selected := 1

theorem twoRows_shows_selection :
    SelectionShown twoRows { id := "1-2".toList, label := "[ ] | 1-2".toList } 80 24
      (({ width := 80, height := 24 } : Display Color).execAll (drawItems twoRows 80 24)) :=
  drawItems_shows_selection
    ⟨fun _ _ => rfl, by decide, by decide, fun _ h => by cases h⟩ rfl rfl rfl (by decide) rfl

end Tui
end Lusbip
