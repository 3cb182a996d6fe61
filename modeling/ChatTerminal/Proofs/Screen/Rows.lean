import ChatTerminal.Proofs.Screen.Cells
/-!
# Lists of rows

A row of a list is a line of spans, painted into one row of the canvas from a column on.  So a list
can be read off row by row.  No widget paints above its area or below it.
-/

namespace ChatTerminal.Screen

namespace Canvas

variable {k k' : Canvas} {a : Area} {x y z right : Nat}

/-! ## Lists -/

/-- The canvas `k'` is `k` with rows of spans in an area: they stand on the rows of the area, from
its top on, as many as there are rows for, and the rows of the area below them are those of `k`. -/
structure Lists (a : Area) (lines : List Line) (k k' : Canvas) : Prop where
  line : ∀ i l, i < a.height → lines[i]? = some l →
    k'.row? (a.y + i) = (k.paintSpans a.x (a.y + i) a.right l).row? (a.y + i)
  rest : ∀ i, i < a.height → lines.length ≤ i → k'.row? (a.y + i) = k.row? (a.y + i)

theorem paintSpans_of_full (h : right ≤ x) (k : Canvas) (y : Nat) (l : Line) :
    k.paintSpans x y right l = k := by
  induction l with
  | nil => rfl
  | cons s l ih => rw [paintSpans, ih, if_pos h, ite_self]

theorem lists_paintRows (k : Canvas) (a : Area) (lines : List Line) :
    Lists a lines k (k.paintRows a lines) := by
  by_cases hempty : a.isEmpty
  · rw [paintRows, if_pos hempty]
    refine ⟨fun i l hi _ => ?_, fun _ _ _ => rfl⟩
    have hright : a.right ≤ a.x := by
      rw [Area.isEmpty, Bool.or_eq_true, beq_iff_eq, beq_iff_eq] at hempty
      rw [Area.right]
      omega
    rw [paintSpans_of_full hright]
  · have hpainted : k.paintRows a lines =
        k.paintEach (fun l k y => k.paintSpans a.x y a.right l) a.y (lines.take a.height) := by
      rw [paintRows, if_neg hempty]
      rfl
    rw [hpainted]
    constructor
    · intro i l hi hl
      apply row?_paintEach (KeepsRow.spans a.x a.right)
      rw [List.getElem?_take, if_pos hi, hl]
    · intro i _ hi
      apply row?_paintEach_of_apart (KeepsRow.spans a.x a.right)
      rw [List.length_take]
      omega

theorem Lists.spells {lines : List Line} (h : Lists a lines k k') {i : Nat} {before after : Line}
    {s : Span} (hi : i < a.height) (hl : lines[i]? = some (before ++ s :: after)) (hs : 0 < s.width)
    {limit : Nat} (hright : limit ≤ a.right)
    (hnext : after = [] ∨ limit ≤ a.x + Line.width before + s.width) :
    Spells k k' (a.x + Line.width before) (a.y + i) limit s.text := by
  intro shown rest j hvisible hfits hj
  rw [symbol?_of_row? (h.line i _ hi hl)]
  exact spells_paintSpans k a.x (a.y + i) before hs hright hnext shown rest j hvisible hfits hj

/-! ## Widgets and the rows of their areas -/

theorem row?_modifyArea_of_apart (k : Canvas) (a : Area) (f : Cell → Cell)
    (hz : z < a.y ∨ a.bottom ≤ z) : (k.modifyArea a f).row? z = k.row? z := by
  have hrows : ∀ (ys : List Nat) (rows : Array (Array Cell)) (g : Array Cell → Array Cell),
      z ∉ ys → (ys.foldl (fun rows y => rows.modify y g) rows)[z]? = rows[z]? := by
    intro ys rows g hys
    induction ys generalizing rows with
    | nil => rfl
    | cons y ys ih =>
        rw [List.mem_cons, not_or] at hys
        rw [List.foldl_cons, ih _ hys.2, Array.getElem?_modify, if_neg (Ne.symm hys.1)]
  refine hrows _ _ _ fun hmem => ?_
  rw [List.mem_range'_1] at hmem
  rw [Area.bottom] at hz
  omega

theorem row?_paintBox_of_apart (k : Canvas) (a : Area) (title : Line) (border : Style)
    (hz : z < a.y ∨ a.bottom ≤ z) : (k.paintBox a title border).row? z = k.row? z := by
  rw [paintBox]
  by_cases hempty : a.isEmpty
  · rw [if_pos hempty]
  · rw [if_neg hempty]
    rw [Area.isEmpty, Bool.or_eq_true, beq_iff_eq, beq_iff_eq, not_or] at hempty
    rw [Area.bottom] at hz
    have htop : z ≠ a.y := by omega
    have hbottom : z ≠ a.bottom - 1 := by rw [Area.bottom]; omega
    have hput : ∀ (k : Canvas) (x y : Nat) (symbol : List Char), z ≠ y →
        (k.put x y symbol border).row? z = k.row? z :=
      fun k x _ _ hne => (KeepsRow.cell x _).other k hne
    dsimp only
    rw [(KeepsRow.spans _ _ _).other _ htop, hput _ _ _ _ htop, hput _ _ _ _ hbottom,
      hput _ _ _ _ htop, hput _ _ _ _ hbottom]
    rw [row?_modifyArea_of_apart, row?_modifyArea_of_apart, row?_modifyArea_of_apart,
      row?_modifyArea_of_apart]
    all_goals
      simp only [Area.bottom]
      omega

/-- A widget leaves the rows above and below its area alone. -/
theorem row?_paint_of_apart (k : Canvas) (a : Area) (w : Widget) (hz : z < a.y ∨ a.bottom ≤ z) :
    (k.paint a w).row? z = k.row? z := by
  have hrest : ∀ {n}, n ≤ a.height → z < a.y ∨ a.y + n ≤ z := by
    intro n hn
    rw [Area.bottom] at hz
    omega
  cases w with
  | clear => exact row?_modifyArea_of_apart k a _ hz
  | tint style => exact row?_modifyArea_of_apart k a _ hz
  | box title border => exact row?_paintBox_of_apart k a title border hz
  | text lines fit =>
      rw [paint, paintText]
      split
      · rfl
      · exact row?_paintEach_of_apart
          (fun gs => KeepsRow.glyphs (a.x + offsetOf fit a.width gs) gs) k a.y _
          (hrest (List.length_take_le _ _))
  | rows lines =>
      rw [paint, paintRows]
      split
      · rfl
      · exact row?_paintEach_of_apart (KeepsRow.spans a.x a.right) k a.y _
          (hrest (List.length_take_le _ _))

end Canvas

end ChatTerminal.Screen
