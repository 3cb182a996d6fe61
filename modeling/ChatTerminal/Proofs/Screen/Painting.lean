import ChatTerminal.Screen.Widget
/-!
# Painting lines

A line of text is painted into one row of the canvas, and what comes there depends on nothing but
that row.  So a text painted into an area can be read off row by row: each row of the area holds one
line, painted as if it were painted alone.  And a row can be read off cell by cell: each glyph that
takes a column stands in the first column it takes.
-/

namespace ChatTerminal.Screen

namespace Canvas

def row? (k : Canvas) (y : Nat) : Option (Array Cell) := k.rows[y]?

def symbol? (k : Canvas) (x y : Nat) : Option (List Char) := (k.cell? x y).map Cell.symbol

variable {k k' : Canvas} {x x' y z : Nat}

theorem cell?_of_row? (h : k'.row? y = k.row? y) (x : Nat) : k'.cell? x y = k.cell? x y :=
  congrArg (·.bind (·[x]?)) h

theorem symbol?_of_row? (h : k'.row? y = k.row? y) (x : Nat) : k'.symbol? x y = k.symbol? x y :=
  congrArg (Option.map Cell.symbol) (cell?_of_row? h x)

theorem row?_modify (k : Canvas) (x y : Nat) (f : Cell → Cell) (z : Nat) :
    (k.modify x y f).row? z = if y = z then (k.row? z).map (·.modify x f) else k.row? z := by
  rw [row?, modify, Array.getElem?_modify]
  rfl

theorem cell?_modify (k : Canvas) (x y : Nat) (f : Cell → Cell) (x' : Nat) :
    (k.modify x y f).cell? x' y = if x = x' then (k.cell? x' y).map f else k.cell? x' y := by
  change ((k.modify x y f).row? y).bind (·[x']?) = if x = x' then ((k.row? y).bind (·[x']?)).map f
    else (k.row? y).bind (·[x']?)
  rw [row?_modify, if_pos rfl]
  cases k.row? y with
  | none => simp
  | some row => exact Array.getElem?_modify

theorem cell?_modify_of_ne (h : x ≠ x') (k : Canvas) (f : Cell → Cell) :
    (k.modify x y f).cell? x' y = k.cell? x' y := by
  rw [cell?_modify, if_neg h]

theorem symbol?_modify {f : Cell → Cell} (edit : List Char → List Char)
    (hf : ∀ c, (f c).symbol = edit c.symbol) (k : Canvas) (x y x' : Nat) :
    (k.modify x y f).symbol? x' y =
      (k.symbol? x' y).map fun old => if x = x' then edit old else old := by
  rw [symbol?, cell?_modify, symbol?, Option.map_map]
  split
  · rw [Option.map_map]
    exact congrArg (Option.map · _) (funext hf)
  · rfl

/-! ## Painters of one row -/

/-- A painter of one row leaves the other rows alone, and what it paints depends on its own row
alone.  It neither adds cells to the row nor takes any away. -/
structure KeepsRow (paint : Canvas → Nat → Canvas) : Prop where
  other : ∀ k {y z}, z ≠ y → (paint k y).row? z = k.row? z
  own : ∀ {k k' y}, k'.row? y = k.row? y → (paint k' y).row? y = (paint k y).row? y
  cells : ∀ k x y, ((paint k y).cell? x y).isSome = (k.cell? x y).isSome

namespace KeepsRow

variable {paint more : Canvas → Nat → Canvas}

theorem nothing : KeepsRow fun k _ => k := ⟨fun _ _ _ _ => rfl, fun h => h, fun _ _ _ => rfl⟩

theorem cell (x : Nat) (f : Cell → Cell) : KeepsRow fun k y => k.modify x y f where
  other k y z hz := by rw [row?_modify, if_neg (Ne.symm hz)]
  own h := by rw [row?_modify, row?_modify, h]
  cells k x' y := by
    rw [cell?_modify]
    split <;> simp

theorem andThen (h : KeepsRow paint) (hmore : KeepsRow more) :
    KeepsRow fun k y => more (paint k y) y where
  other k _ _ hz := (hmore.other _ hz).trans (h.other k hz)
  own hrow := hmore.own (h.own hrow)
  cells k x y := (hmore.cells _ x y).trans (h.cells k x y)

theorem either {p : Prop} [Decidable p] (h : KeepsRow paint) (hmore : KeepsRow more) :
    KeepsRow fun k y => if p then paint k y else more k y := by
  by_cases hp : p
  · simpa only [if_pos hp] using h
  · simpa only [if_neg hp] using hmore

theorem glyphs (x : Nat) (gs : List Glyph) : KeepsRow fun k y => k.paintGlyphs x y gs := by
  induction gs generalizing x with
  | nil => exact nothing
  | cons g gs ih =>
      simp only [paintGlyphs]
      exact (ih x).either ((cell x _).andThen (ih _))

end KeepsRow

/-! ## Rows one below the other -/

section Each

variable {α : Type} {paint : α → Canvas → Nat → Canvas} (keeps : ∀ a, KeepsRow (paint a))

/-- Paints items one below the other, each into a row of its own. -/
def paintEach (paint : α → Canvas → Nat → Canvas) (k : Canvas) (y : Nat) (items : List α) :
    Canvas :=
  (items.zipIdx y).foldl (fun k (a, y) => paint a k y) k

theorem paintEach_cons (k : Canvas) (y : Nat) (a : α) (items : List α) :
    k.paintEach paint y (a :: items) = (paint a k y).paintEach paint (y + 1) items := rfl

include keeps

/-- Rows above the first one and below the last one stay. -/
theorem row?_paintEach_of_apart (k : Canvas) (y : Nat) (items : List α)
    (hz : z < y ∨ y + items.length ≤ z) : (k.paintEach paint y items).row? z = k.row? z := by
  induction items generalizing k y with
  | nil => rfl
  | cons a items ih =>
      rw [List.length_cons] at hz
      rw [paintEach_cons, ih _ _ (by omega), (keeps a).other k (by omega)]

theorem row?_paintEach (k : Canvas) (y : Nat) (items : List α) {i : Nat} {a : α}
    (ha : items[i]? = some a) :
    (k.paintEach paint y items).row? (y + i) = (paint a k (y + i)).row? (y + i) := by
  induction items generalizing k y i with
  | nil => simp at ha
  | cons first items ih =>
      rw [paintEach_cons]
      cases i with
      | zero =>
          obtain rfl : first = a := by simpa using ha
          exact row?_paintEach_of_apart keeps _ (y + 1) items (by omega)
      | succ i =>
          have hrow : y + (i + 1) = y + 1 + i := by omega
          rw [hrow, ih _ _ (by simpa using ha)]
          exact (keeps a).own ((keeps first).other k (by omega))

end Each

/-! ## Lines of text -/

theorem cell?_paintGlyphs_of_lt (hx : x' < x) (k : Canvas) (y : Nat) (gs : List Glyph) :
    (k.paintGlyphs x y gs).cell? x' y = k.cell? x' y := by
  induction gs generalizing k x with
  | nil => rfl
  | cons g gs ih =>
      rw [paintGlyphs]
      split
      · exact ih hx k
      · rw [ih (by omega), put, cell?_modify_of_ne (by omega)]

/-- A glyph stands behind the columns of those before it. -/
theorem symbol?_paintGlyphs (k : Canvas) (x y : Nat) (before : List Glyph) {g : Glyph}
    (hwide : 0 < g.width) (after : List Glyph) :
    (k.paintGlyphs x y (before ++ g :: after)).symbol? (x + widthOf before) y =
      (k.symbol? (x + widthOf before) y).map fun _ => g.symbol := by
  induction before generalizing k x with
  | nil =>
      rw [List.nil_append, paintGlyphs, if_neg (by omega), symbol?,
        cell?_paintGlyphs_of_lt (by rw [widthOf, List.foldr_nil]; omega), ← symbol?, put,
        symbol?_modify (fun _ => g.symbol) fun _ => rfl]
      exact congrArg (Option.map · _) (funext fun _ => if_pos rfl)
  | cons b before ih =>
      have hcolumn : x + widthOf (b :: before) = x + b.width + widthOf before :=
        (Nat.add_assoc ..).symm
      rw [List.cons_append, paintGlyphs]
      split
      · rename_i hnone
        rw [hcolumn, hnone]
        exact ih k x
      · rename_i hsome
        have hother : x ≠ x + b.width + widthOf before := by omega
        rw [hcolumn, ih, symbol?, put, cell?_modify_of_ne hother, ← symbol?]

theorem paintGlyphs_cut_zero (k : Canvas) (x y : Nat) (gs : List Glyph) :
    k.paintGlyphs x y (Screen.cut 0 gs) = k := by
  unfold Screen.cut
  induction gs with
  | nil => rfl
  | cons g gs ih =>
      rw [cutFrom]
      by_cases hwide : 0 < g.width
      · rw [if_pos hwide, ih]
      · have hnone : g.width = 0 := by omega
        rw [if_neg hwide, if_neg (by omega), hnone, paintGlyphs, if_pos hnone, ih]

/-- The canvas `k'` is `k` with lines in an area: they stand on the rows of the area, from its top
on, each cut to the width of the area, as many as there are rows for; the other rows are those of
`k`.  Each glyph of a line stands in the first column it takes. -/
structure Shows (a : Area) (lines : List Line) (k k' : Canvas) : Prop where
  line : ∀ i l, i < a.height → lines[i]? = some l →
    k'.row? (a.y + i) = (k.paintGlyphs a.x (a.y + i) (Screen.cut a.width l.glyphs)).row? (a.y + i)
  glyph : ∀ i l, i < a.height → lines[i]? = some l → ∀ before g after,
    Screen.cut a.width l.glyphs = before ++ g :: after → 0 < g.width →
      k'.symbol? (a.x + widthOf before) (a.y + i) =
        (k.symbol? (a.x + widthOf before) (a.y + i)).map fun _ => g.symbol
  rest : ∀ z, z < a.y ∨ a.y + min lines.length a.height ≤ z → k'.row? z = k.row? z

theorem Shows.of_rows {a : Area} {lines : List Line}
    (line : ∀ i l, i < a.height → lines[i]? = some l → k'.row? (a.y + i) =
      (k.paintGlyphs a.x (a.y + i) (Screen.cut a.width l.glyphs)).row? (a.y + i))
    (rest : ∀ z, z < a.y ∨ a.y + min lines.length a.height ≤ z → k'.row? z = k.row? z) :
    Shows a lines k k' where
  line := line
  glyph i l hi hl before g after hcut hwide := by
    rw [symbol?_of_row? (line i l hi hl), hcut]
    exact symbol?_paintGlyphs k a.x (a.y + i) before hwide after
  rest := rest

/-- A text that is cut to its area shows its lines. -/
theorem shows_paintText (k : Canvas) (a : Area) (lines : List Line) :
    Shows a lines k (k.paintText a lines .cut) := by
  by_cases hempty : a.isEmpty
  · rw [paintText, if_pos hempty]
    refine .of_rows (fun i l hi _ => ?_) fun _ _ => rfl
    have hwidth : a.width = 0 := by
      rw [Area.isEmpty, Bool.or_eq_true, beq_iff_eq, beq_iff_eq] at hempty
      omega
    rw [hwidth, paintGlyphs_cut_zero]
  · have hpainted : k.paintText a lines .cut =
        k.paintEach (fun gs k y => k.paintGlyphs a.x y gs) a.y
          ((lines.take a.height).map fun l => Screen.cut a.width l.glyphs) := by
      rw [paintText, if_neg hempty, List.map_take]
      rfl
    rw [hpainted]
    apply Shows.of_rows
    · intro i l hi hl
      apply row?_paintEach (KeepsRow.glyphs a.x)
      rw [List.getElem?_map, List.getElem?_take, if_pos hi, hl]
      rfl
    · intro z hz
      apply row?_paintEach_of_apart (KeepsRow.glyphs a.x)
      rw [List.length_map, List.length_take]
      omega

end Canvas

def Scene.over (s : Scene) (k : Canvas) : Canvas :=
  s.widgets.foldl (fun k (a, w) => k.paint a w) k

theorem Scene.over_above (upper lower : Scene) (k : Canvas) :
    (upper.above lower).over k = upper.over (lower.over k) :=
  List.foldl_append

end ChatTerminal.Screen
