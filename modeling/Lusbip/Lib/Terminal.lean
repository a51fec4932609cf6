import Mathlib.Data.List.Basic
import Lusbip.Lib.Text

/-!
# A terminal

A grid of cells, a cursor, and the style that is set. How many cells a character takes is the
terminal's own affair (`charWidth`): most take one, a wide one two, and one that goes with the
character before it none. It moves the cursor on by as many; behind the last column that waits for
the line to be broken. A line feed on the last row moves everything up by one row.

A program that clears the terminal and then writes one line after the other leaves the last lines
standing: `Showing` says which of them stands in which row. What a line puts into its cells is
computed from its operations alone (`cells`), and `execAll_line` is the step from one to the other.
-/

namespace Lib
namespace Terminal

variable {κ : Type*}

/-- The colours that are set, or those of the terminal itself. -/
structure Style (κ : Type*) where
  foreground : Option κ := none
  background : Option κ := none
  deriving DecidableEq, Repr

/-- A cell of the grid, with the colours that were set when it was written. -/
structure Cell (κ : Type*) where
  char : Char
  style : Style κ
  deriving DecidableEq, Repr

/-- What a program asks of the terminal. -/
inductive Op (κ : Type*) where
  | clear
  | moveTo (column row : Nat)
  | foreground (color : κ)
  | background (color : κ)
  | reset
  | print (text : Text)
  deriving DecidableEq, Repr

/-- The terminal: its grid, its cursor, and the style for what comes next. -/
structure Display (κ : Type*) where
  width : Nat
  height : Nat
  /-- The cells that a character takes. -/
  charWidth : Char → Nat := fun _ => 1
  /-- What stands in a row and a column. -/
  cell : Nat → Nat → Option (Cell κ) := fun _ _ => none
  row : Nat := 0
  column : Nat := 0
  style : Style κ := {}

namespace Display

@[ext] theorem ext {d e : Display κ} (hw : d.width = e.width) (hh : d.height = e.height)
    (hchar : d.charWidth = e.charWidth)
    (hcell : ∀ row column, d.cell row column = e.cell row column) (hr : d.row = e.row)
    (hc : d.column = e.column) (hs : d.style = e.style) : d = e := by
  obtain ⟨_, _, _, cell, _, _, _⟩ := d
  obtain ⟨_, _, _, cell', _, _, _⟩ := e
  obtain rfl : cell = cell' := funext fun row => funext fun column => hcell row column
  cases hw
  cases hh
  cases hchar
  cases hr
  cases hc
  cases hs
  rfl

/-- The cursor goes down a row; on the last row everything else goes up instead. -/
def lineFeed (d : Display κ) : Display κ :=
  if d.row + 1 < d.height then { d with row := d.row + 1 }
  else
    { d with
      cell := fun row column => if row + 1 < d.height then d.cell (row + 1) column else none }

/-- A character at the cursor, on the next row where this one has no room for it. -/
def put (d : Display κ) (c : Char) : Display κ :=
  let d :=
    if d.column + d.charWidth c ≤ d.width then d else { d.lineFeed with column := 0 }
  { d with
    cell := fun row column =>
      if row = d.row ∧ d.column ≤ column ∧ column < d.column + d.charWidth c then
        some ⟨c, d.style⟩
      else d.cell row column
    column := d.column + d.charWidth c }

/-- One character, of those that a line has. -/
def write (d : Display κ) (c : Char) : Display κ :=
  if c = '\r' then { d with column := 0 } else if c = '\n' then d.lineFeed else d.put c

/-- One operation. -/
def exec (d : Display κ) : Op κ → Display κ
  | .clear => { d with cell := fun _ _ => none }
  | .moveTo column row => { d with column, row }
  | .foreground color => { d with style := { d.style with foreground := some color } }
  | .background color => { d with style := { d.style with background := some color } }
  | .reset => { d with style := {} }
  | .print text => text.foldl write d

/-- One operation after another. -/
def execAll (d : Display κ) (ops : List (Op κ)) : Display κ := ops.foldl exec d

@[simp] theorem execAll_nil (d : Display κ) : d.execAll [] = d := rfl

@[simp] theorem execAll_cons (d : Display κ) (op : Op κ) (ops : List (Op κ)) :
    d.execAll (op :: ops) = (d.exec op).execAll ops := rfl

theorem execAll_append (d : Display κ) (ops ops' : List (Op κ)) :
    d.execAll (ops ++ ops') = (d.execAll ops).execAll ops' := List.foldl_append

theorem exec_print_append (d : Display κ) (text text' : Text) :
    d.exec (.print (text ++ text')) = (d.exec (.print text)).exec (.print text') :=
  List.foldl_append

end Display

/-! ## What stays on a line -/

/-- A character that is drawn, and does nothing else. -/
def isPrintable (c : Char) : Bool :=
  32 ≤ c.toNat && !(127 ≤ c.toNat && c.toNat < 160)

/-- Every character is drawn, and takes one cell. -/
def Plain (charWidth : Char → Nat) (text : Text) : Prop :=
  ∀ c ∈ text, isPrintable c = true ∧ charWidth c = 1

instance (charWidth : Char → Nat) (text : Text) : Decidable (Plain charWidth text) :=
  List.decidableBAll (fun c => isPrintable c = true ∧ charWidth c = 1) text

section

variable {charWidth : Char → Nat} {text text' : Text}

theorem Plain.append (h : Plain charWidth text) (h' : Plain charWidth text') :
    Plain charWidth (text ++ text') := fun c hc => (List.mem_append.mp hc).elim (h c) (h' c)

theorem Plain.subset (h : Plain charWidth text) (hs : text' ⊆ text) : Plain charWidth text' :=
  fun c hc => h c (hs hc)

end

theorem ne_of_isPrintable {c : Char} (h : isPrintable c = true) : c ≠ '\r' ∧ c ≠ '\n' :=
  ⟨fun heq => absurd h (by rw [heq]; decide), fun heq => absurd h (by rw [heq]; decide)⟩

/-- An operation that the cursor does not leave the row with, where there is room. -/
def Op.Inline (charWidth : Char → Nat) : Op κ → Prop
  | .print text => Plain charWidth text
  | .foreground _ | .background _ | .reset => True
  | .clear | .moveTo _ _ => False

/-- The cells that the operations of a line fill, one after the other. -/
def cells : Style κ → List (Op κ) → List (Cell κ)
  | _, [] => []
  | style, .print text :: ops => text.map (⟨·, style⟩) ++ cells style ops
  | style, .foreground color :: ops => cells { style with foreground := some color } ops
  | style, .background color :: ops => cells { style with background := some color } ops
  | _, .reset :: ops => cells {} ops
  | style, .clear :: ops => cells style ops
  | style, .moveTo _ _ :: ops => cells style ops

/-- The style that is set behind them. -/
def styleAfter : Style κ → List (Op κ) → Style κ
  | style, [] => style
  | style, .foreground color :: ops => styleAfter { style with foreground := some color } ops
  | style, .background color :: ops => styleAfter { style with background := some color } ops
  | _, .reset :: ops => styleAfter {} ops
  | style, _ :: ops => styleAfter style ops

namespace Display

/-- The cells stand on the row, from the cursor on. -/
def overlay (d : Display κ) (drawn : List (Cell κ)) : Display κ :=
  { d with
    cell := fun row column =>
      if row = d.row ∧ d.column ≤ column ∧ column < d.column + drawn.length then
        drawn[column - d.column]?
      else d.cell row column
    column := d.column + drawn.length }

@[simp] theorem overlay_nil (d : Display κ) : d.overlay [] = d := by
  refine Display.ext rfl rfl rfl (fun row column => if_neg ?_) rfl rfl rfl
  rintro ⟨-, hle, hlt⟩
  exact absurd hlt (Nat.not_lt.mpr hle)

theorem overlay_overlay (d : Display κ) (drawn drawn' : List (Cell κ)) :
    (d.overlay drawn).overlay drawn' = d.overlay (drawn ++ drawn') := by
  refine Display.ext rfl rfl rfl (fun row column => ?_) rfl ?_ rfl
  · show (if row = d.row ∧ d.column + drawn.length ≤ column ∧
        column < d.column + drawn.length + drawn'.length then
        drawn'[column - (d.column + drawn.length)]?
      else if row = d.row ∧ d.column ≤ column ∧ column < d.column + drawn.length then
        drawn[column - d.column]? else d.cell row column) =
      if row = d.row ∧ d.column ≤ column ∧ column < d.column + (drawn ++ drawn').length then
        (drawn ++ drawn')[column - d.column]? else d.cell row column
    rw [List.length_append]
    by_cases hrow : row = d.row
    · by_cases hlt : column < d.column + drawn.length
      · rw [if_neg fun h => absurd hlt (Nat.not_lt.mpr h.2.1)]
        by_cases hle : d.column ≤ column
        · rw [if_pos ⟨hrow, hle, hlt⟩, if_pos ⟨hrow, hle, by omega⟩,
            List.getElem?_append_left (by omega)]
        · rw [if_neg fun h => hle h.2.1, if_neg fun h => hle h.2.1]
      · by_cases hlt' : column < d.column + drawn.length + drawn'.length
        · rw [if_pos ⟨hrow, Nat.not_lt.mp hlt, hlt'⟩, if_pos ⟨hrow, by omega, by omega⟩,
            List.getElem?_append_right (by omega), Nat.sub_sub]
        · rw [if_neg fun h => hlt' h.2.2, if_neg fun h => hlt h.2.2,
            if_neg fun h => hlt' (by have := h.2.2; omega)]
    · rw [if_neg fun h => hrow h.1, if_neg fun h => hrow h.1, if_neg fun h => hrow h.1]
  · show d.column + drawn.length + drawn'.length = d.column + (drawn ++ drawn').length
    rw [List.length_append, Nat.add_assoc]

theorem write_eq_overlay {d : Display κ} {c : Char} (h : isPrintable c = true)
    (hone : d.charWidth c = 1) (hroom : d.column < d.width) :
    d.write c = d.overlay [⟨c, d.style⟩] := by
  obtain ⟨hr, hn⟩ := ne_of_isPrintable h
  have hfits : d.column + d.charWidth c ≤ d.width := by
    rw [hone]
    exact hroom
  unfold write put
  rw [if_neg hr, if_neg hn, if_pos hfits]
  dsimp only
  rw [hone]
  refine Display.ext rfl rfl rfl (fun row column => ?_) rfl rfl rfl
  show (if row = d.row ∧ d.column ≤ column ∧ column < d.column + 1 then _ else _) =
    if row = d.row ∧ d.column ≤ column ∧ column < d.column + 1 then _ else _
  split
  · rename_i hat
    have heq : column = d.column := by omega
    rw [heq, Nat.sub_self]
    rfl
  · rfl

/-- A printed text stands where the cursor was, if there is room for it. -/
theorem exec_print {d : Display κ} {text : Text} (h : Plain d.charWidth text)
    (hroom : d.column + text.length ≤ d.width) :
    d.exec (.print text) = d.overlay (text.map (⟨·, d.style⟩)) := by
  induction text generalizing d with
  | nil => exact (overlay_nil d).symm
  | cons c text ih =>
    rw [List.length_cons] at hroom
    show (d.write c).exec (.print text) = _
    obtain ⟨hprintable, hone⟩ := h c List.mem_cons_self
    rw [write_eq_overlay hprintable hone (by omega),
      ih (d := d.overlay [⟨c, d.style⟩]) (fun e he => h e (List.mem_cons_of_mem c he)) (by
        show d.column + 1 + text.length ≤ d.width
        omega), overlay_overlay]
    rfl

/-- **The operations of a line fill its cells**, as long as there is room. -/
theorem exec_inline {d : Display κ} {ops : List (Op κ)}
    (h : ∀ op ∈ ops, op.Inline d.charWidth)
    (hroom : d.column + (cells d.style ops).length ≤ d.width) :
    d.execAll ops =
      { d.overlay (cells d.style ops) with style := styleAfter d.style ops } := by
  induction ops generalizing d with
  | nil =>
    show d = { d.overlay [] with style := d.style }
    rw [overlay_nil]
  | cons op ops ih =>
    have hops : ∀ op ∈ ops, op.Inline d.charWidth :=
      fun op hop => h op (List.mem_cons_of_mem _ hop)
    rw [execAll_cons]
    cases op with
    | clear => exact (h _ List.mem_cons_self).elim
    | moveTo column row => exact (h _ List.mem_cons_self).elim
    | foreground color => exact ih hops hroom
    | background color => exact ih hops hroom
    | reset => exact ih hops hroom
    | print text =>
      rw [cells, List.length_append, List.length_map] at hroom
      let e := d.overlay (text.map (⟨·, d.style⟩))
      have hrest : e.column + (cells e.style ops).length ≤ e.width := by
        show d.column + (text.map fun c => (⟨c, d.style⟩ : Cell κ)).length +
          (cells d.style ops).length ≤ d.width
        rw [List.length_map]
        omega
      rw [exec_print (h (.print text) List.mem_cons_self) (by omega), ih (d := e) hops hrest]
      show { (d.overlay _).overlay (cells d.style ops) with style := styleAfter d.style ops } = _
      rw [overlay_overlay]
      rfl

/-! ## Lines -/

/-- How a line is ended while the terminal is in raw mode. -/
def lineEnd : Text := ['\r', '\n']

/-- The line stands on the row of the cursor, and the cursor at the front of the next one. -/
def showLine (d : Display κ) (drawn : List (Cell κ)) : Display κ :=
  { ({ d.overlay drawn with column := 0 } : Display κ).lineFeed with style := {} }

theorem exec_lineEnd (d : Display κ) :
    d.exec (.print lineEnd) = ({ d with column := 0 } : Display κ).lineFeed := rfl

/-- A line that is ended, and leaves no style behind. -/
theorem execAll_line {d : Display κ} {ops : List (Op κ)} {text : Text}
    (hops : ∀ op ∈ ops, op.Inline d.charWidth) (htext : Plain d.charWidth text)
    (hcolumn : d.column = 0) (hstyle : d.style = {})
    (hroom : (cells {} (ops ++ [.print text])).length ≤ d.width) :
    d.execAll (ops ++ [.print (text ++ lineEnd), .reset]) =
      d.showLine (cells {} (ops ++ [.print text])) := by
  have hinline : ∀ op ∈ ops ++ [.print text], op.Inline d.charWidth := by
    intro op hop
    rcases List.mem_append.mp hop with hop | hop
    · exact hops op hop
    · exact List.mem_singleton.mp hop ▸ htext
  have hrun : d.execAll (ops ++ [.print text]) = _ := exec_inline hinline (by
    rw [hcolumn, hstyle, Nat.zero_add]
    exact hroom)
  have hsplit : d.execAll (ops ++ [.print (text ++ lineEnd), .reset]) =
      ((d.execAll (ops ++ [.print text])).exec (.print lineEnd)).exec .reset := by
    rw [execAll_append, execAll_append, execAll_cons, exec_print_append]
    rfl
  rw [hsplit, hrun, exec_lineEnd, hstyle]
  unfold showLine lineFeed exec
  dsimp only
  split
  · rfl
  · rfl

/-- The last of the lines stand in the rows above the cursor, which is on a row of its own. -/
structure Showing (lines : List (List (Cell κ))) (d : Display κ) : Prop where
  row : d.row = min lines.length (d.height - 1)
  column : d.column = 0
  style : d.style = {}
  cell : ∀ row column, row < d.height →
    d.cell row column =
      (lines[row + (lines.length - (d.height - 1))]?).bind fun drawn => drawn[column]?

theorem showing_clear (d : Display κ) :
    Showing [] (({ d with style := {} } : Display κ).execAll [.clear, .moveTo 0 0]) where
  row := (Nat.zero_min _).symm
  column := rfl
  style := rfl
  cell _ _ _ := rfl

theorem getElem?_concat {α : Type*} (l : List α) (a : α) (i : Nat) :
    (l ++ [a])[i]? = if i = l.length then some a else l[i]? := by
  split
  · rename_i h
    rw [h, List.getElem?_concat_length]
  · rename_i h
    rcases Nat.lt_or_gt_of_ne h with h | h
    · exact List.getElem?_append_left h
    · rw [List.getElem?_eq_none (by rw [List.length_append]; exact h),
        List.getElem?_eq_none (Nat.le_of_lt h)]

/-- One more line. -/
theorem Showing.showLine {lines : List (List (Cell κ))} {d : Display κ} (h : Showing lines d)
    (drawn : List (Cell κ)) :
    Showing (lines ++ [drawn]) (d.showLine drawn) := by
  have hcells : ∀ row column, row < d.height → (d.overlay drawn).cell row column =
      ((lines ++ [drawn])[row + (lines.length - (d.height - 1))]?).bind fun l => l[column]? := by
    intro row column hrow
    show (if row = d.row ∧ d.column ≤ column ∧ column < d.column + drawn.length then
      drawn[column - d.column]? else d.cell row column) = _
    rw [h.column, Nat.sub_zero, Nat.zero_add, h.cell row column hrow, getElem?_concat, h.row]
    -- The line is drawn into the cursor's row, and that is the one that shows the last line.
    by_cases hat : row + (lines.length - (d.height - 1)) = lines.length
    · have hrow : row = min lines.length (d.height - 1) := by omega
      rw [if_pos hat, List.getElem?_eq_none (Nat.le_of_eq hat.symm)]
      show _ = drawn[column]?
      by_cases hcolumn : column < drawn.length
      · rw [if_pos ⟨hrow, Nat.zero_le _, hcolumn⟩]
      · rw [if_neg fun hc => hcolumn hc.2.2, List.getElem?_eq_none (Nat.not_lt.mp hcolumn)]
        rfl
    · rw [if_neg hat, if_neg]
      rintro ⟨hrow, -⟩
      omega
  have hlength : (lines ++ [drawn]).length = lines.length + 1 := List.length_append
  have hrow := h.row
  unfold Display.showLine Display.lineFeed
  dsimp only
  split
  · rename_i hlt
    have hlt : d.row + 1 < d.height := hlt
    refine ⟨?_, rfl, rfl, fun row column hr => ?_⟩
    · show d.row + 1 = min (lines ++ [drawn]).length (d.height - 1)
      omega
    · show (d.overlay drawn).cell row column = _
      rw [hcells row column hr, hlength]
      have hoffset : lines.length - (d.height - 1) = lines.length + 1 - (d.height - 1) := by omega
      rw [hoffset]
      rfl
  · rename_i hge
    -- At the bottom the line feed scrolls: each row shows what stood below it.
    have hge : ¬d.row + 1 < d.height := hge
    refine ⟨?_, rfl, rfl, fun row column hr => ?_⟩
    · show d.row = min (lines ++ [drawn]).length (d.height - 1)
      omega
    · show (if row + 1 < d.height then (d.overlay drawn).cell (row + 1) column else none) =
        ((lines ++ [drawn])[row + ((lines ++ [drawn]).length - (d.height - 1))]?).bind _
      rw [hlength]
      split
      · rename_i hlt
        rw [hcells (row + 1) column hlt]
        have hindex : row + 1 + (lines.length - (d.height - 1)) =
            row + (lines.length + 1 - (d.height - 1)) := by omega
        rw [hindex]
      · rename_i hlast
        rw [List.getElem?_eq_none (by
          have hr : row < d.height := hr
          omega)]
        rfl

/-! ## The size stays -/

@[simp] theorem width_lineFeed (d : Display κ) : d.lineFeed.width = d.width := by
  unfold lineFeed
  split
  · rfl
  · rfl

@[simp] theorem height_lineFeed (d : Display κ) : d.lineFeed.height = d.height := by
  unfold lineFeed
  split
  · rfl
  · rfl

@[simp] theorem charWidth_lineFeed (d : Display κ) : d.lineFeed.charWidth = d.charWidth := by
  unfold lineFeed
  split
  · rfl
  · rfl

@[simp] theorem charWidth_showLine (d : Display κ) (drawn : List (Cell κ)) :
    (d.showLine drawn).charWidth = d.charWidth :=
  charWidth_lineFeed _

@[simp] theorem width_showLine (d : Display κ) (drawn : List (Cell κ)) :
    (d.showLine drawn).width = d.width :=
  width_lineFeed _

@[simp] theorem height_showLine (d : Display κ) (drawn : List (Cell κ)) :
    (d.showLine drawn).height = d.height :=
  height_lineFeed _

theorem size_put (d : Display κ) (c : Char) :
    (d.put c).width = d.width ∧ (d.put c).height = d.height := by
  unfold put
  dsimp only
  split
  · exact ⟨rfl, rfl⟩
  · exact ⟨width_lineFeed d, height_lineFeed d⟩

theorem size_write (d : Display κ) (c : Char) :
    (d.write c).width = d.width ∧ (d.write c).height = d.height := by
  unfold write
  split
  · exact ⟨rfl, rfl⟩
  · split
    · exact ⟨width_lineFeed d, height_lineFeed d⟩
    · exact size_put d c

theorem size_exec (d : Display κ) (op : Op κ) :
    (d.exec op).width = d.width ∧ (d.exec op).height = d.height := by
  cases op with
  | print text =>
    show (text.foldl write d).width = d.width ∧ (text.foldl write d).height = d.height
    induction text generalizing d with
    | nil => exact ⟨rfl, rfl⟩
    | cons c text ih =>
      obtain ⟨hw, hh⟩ := size_write d c
      obtain ⟨hw', hh'⟩ := ih (d.write c)
      exact ⟨hw'.trans hw, hh'.trans hh⟩
  | clear => exact ⟨rfl, rfl⟩
  | moveTo column row => exact ⟨rfl, rfl⟩
  | foreground color => exact ⟨rfl, rfl⟩
  | background color => exact ⟨rfl, rfl⟩
  | reset => exact ⟨rfl, rfl⟩

/-- Nothing that is written changes the size of the terminal. -/
theorem size_execAll (d : Display κ) (ops : List (Op κ)) :
    (d.execAll ops).width = d.width ∧ (d.execAll ops).height = d.height := by
  induction ops generalizing d with
  | nil => exact ⟨rfl, rfl⟩
  | cons op ops ih =>
    obtain ⟨hw, hh⟩ := size_exec d op
    obtain ⟨hw', hh'⟩ := ih (d.exec op)
    exact ⟨hw'.trans hw, hh'.trans hh⟩

/-! ## Programs that write lines -/

/-- A program that writes a line of the given width and ends it, on a terminal that gives the
    characters so many cells. -/
def WritesLine (charWidth : Char → Nat) (width : Nat) (ops : List (Op κ))
    (drawn : List (Cell κ)) : Prop :=
  drawn.length = width ∧
    ∀ d : Display κ, d.column = 0 → d.style = {} → d.width = width → d.charWidth = charWidth →
      d.execAll ops = d.showLine drawn

theorem writesLine_of_inline {charWidth : Char → Nat} {ops : List (Op κ)} {text : Text}
    {width : Nat} (hops : ∀ op ∈ ops, op.Inline charWidth) (htext : Plain charWidth text)
    (hwidth : (cells {} (ops ++ [.print text])).length = width) :
    WritesLine charWidth width (ops ++ [.print (text ++ lineEnd), .reset])
      (cells {} (ops ++ [.print text])) := by
  refine ⟨hwidth, fun d hc hs hw hchar => ?_⟩
  subst hchar
  exact execAll_line hops htext hc hs (Nat.le_of_eq (hwidth.trans hw.symm))

/-- Lines written one after the other stand below one another. -/
theorem Showing.writeLines {lines written : List (List (Cell κ))} {opss : List (List (Op κ))}
    {d : Display κ} (h : Showing lines d)
    (hw : List.Forall₂ (WritesLine d.charWidth d.width) opss written) :
    Showing (lines ++ written) (d.execAll opss.flatten) := by
  induction opss generalizing lines written d with
  | nil =>
    cases hw
    rw [List.append_nil]
    exact h
  | cons ops opss ih =>
    cases hw with
    | cons hop hops =>
      rename_i drawn written
      rw [List.flatten_cons, execAll_append, hop.2 d h.column h.style rfl rfl]
      have hnext := ih (h.showLine drawn) (by rw [charWidth_showLine, width_showLine]; exact hops)
      rwa [List.append_assoc] at hnext

end Display
end Terminal
end Lib
