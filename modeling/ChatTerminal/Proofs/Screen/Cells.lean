import ChatTerminal.Proofs.Screen.Painting
/-!
# Spans cell by cell

The clusters of a span stand side by side in its row.  A cluster stands in the first column it takes
and leaves a blank in each further one; a cluster that takes no column joins what stands before it.
So the text of a span can be read off the row, as far as the row and the next span leave room.
-/

namespace ChatTerminal.Screen

open Text

variable {j used : Nat}

/-! ## What stands in a column -/

def visible (text : String) : List (List Char) :=
  (clusters text.toList).filter fun symbol => !symbol.any isControl

/-- The columns that symbols take side by side. -/
def spread : List (List Char) → Nat
  | [] => 0
  | symbol :: more => columns symbol + spread more

/-- What symbols put into the column `j`, where the first of them begins in the column `used`. -/
def inColumn (j used : Nat) : List (List Char) → List Char
  | [] => []
  | symbol :: more =>
    (if (if columns symbol = 0 then used - 1 else used) = j then symbol
      else if used < j ∧ j < used + columns symbol then [' ']
      else []) ++ inColumn j (used + columns symbol) more

theorem symbols_glyphs (s : Span) : s.glyphs.map Glyph.symbol = visible s.text := by
  rw [Span.glyphs, List.map_map]
  exact List.map_id _

theorem spread_of_narrow {symbols : List (List Char)} (h : ∀ s ∈ symbols, columns s = 1) :
    spread symbols = symbols.length := by
  induction symbols with
  | nil => rfl
  | cons s more ih =>
      rw [spread, h s List.mem_cons_self, ih fun t ht => h t (List.mem_cons_of_mem _ ht),
        List.length_cons, Nat.add_comm]

theorem inColumn_of_past (symbols : List (List Char)) (h : j + 1 < used) :
    inColumn j used symbols = [] := by
  induction symbols generalizing used with
  | nil => rfl
  | cons symbol more ih =>
      rw [inColumn, ih (by omega), if_neg (by split <;> omega), if_neg (by omega)]
      rfl

/-- Only a symbol that takes no column reaches back. -/
theorem inColumn_of_solid {symbols : List (List Char)} (h : j < used)
    (hsolid : ∀ s, symbols.head? = some s → 0 < columns s) : inColumn j used symbols = [] := by
  cases symbols with
  | nil => rfl
  | cons symbol more =>
      have hwide : 0 < columns symbol := hsolid symbol rfl
      have hbegins : ¬ (if columns symbol = 0 then used - 1 else used) = j := by
        rw [if_neg (by omega)]
        omega
      rw [inColumn, inColumn_of_past more (by omega), if_neg hbegins, if_neg (by omega)]
      rfl

/-- Symbols of one column each stand in the columns of their numbers. -/
theorem inColumn_of_narrow {symbols : List (List Char)} (h : ∀ s ∈ symbols, columns s = 1)
    (hj : used ≤ j) : inColumn j used symbols = symbols[j - used]?.getD [] := by
  induction symbols generalizing used with
  | nil => rfl
  | cons symbol more ih =>
      obtain ⟨hone, hmore⟩ := List.forall_mem_cons.mp h
      rw [inColumn, hone, if_neg Nat.one_ne_zero]
      obtain rfl | hbehind := Nat.eq_or_lt_of_le hj
      · have hmoreWide : ∀ s, more.head? = some s → 0 < columns s := fun s hs =>
          hmore s (List.mem_of_mem_head? hs) ▸ Nat.one_pos
        rw [if_pos rfl, inColumn_of_solid (Nat.lt_succ_self used) hmoreWide, List.append_nil,
          Nat.sub_self]
        rfl
      · have hnext : j - used = j - (used + 1) + 1 := by omega
        rw [if_neg (by omega), if_neg (by omega), ih hmore hbehind, hnext]
        rfl

namespace Canvas

variable {k : Canvas} {left right x x' y : Nat} {first : Bool}

/-! ## Painters of spans -/

namespace KeepsRow

theorem erased (columns : List Nat) :
    KeepsRow fun k y => columns.foldl (fun k x => k.erase x y) k := by
  induction columns with
  | nil => exact nothing
  | cons x columns ih => exact (cell x _).andThen ih

theorem spanFrom (left x right : Nat) (first : Bool) (gs : List Glyph) :
    KeepsRow fun k y => k.paintSpanFrom left x y right first gs := by
  induction gs generalizing x first with
  | nil => exact nothing
  | cons g gs ih =>
      simp only [paintSpanFrom]
      refine nothing.either (andThen (andThen ?_ (erased _)) (ih _ _))
      exact (cell _ _).either ((cell _ _).either ((cell _ _).either (cell _ _)))

theorem spans (x right : Nat) (l : Line) : KeepsRow fun k y => k.paintSpans x y right l := by
  induction l generalizing x with
  | nil => exact nothing
  | cons s l ih =>
      simp only [paintSpans]
      exact (ih _).either (nothing.either ((spanFrom _ _ _ _ _).andThen (ih _)))

end KeepsRow

theorem symbol?_erased (k : Canvas) (columns : List Nat) (x' y : Nat) :
    (columns.foldl (fun k x => k.erase x y) k).symbol? x' y =
      (k.symbol? x' y).map fun old => if x' ∈ columns then [' '] else old := by
  induction columns generalizing k with
  | nil => simp
  | cons x columns ih =>
      rw [List.foldl_cons, ih, erase, symbol?_modify (fun _ => [' ']) fun _ => rfl,
        Option.map_map]
      congr 1
      funext old
      simp only [Function.comp, List.mem_cons]
      grind

/-! ## One glyph -/

/-- The columns of a span that hold something already.  Something stands in the first of them as
soon as a glyph is painted, even one of no width. -/
def written (first : Bool) (used : Nat) : Nat := if first then 0 else max 1 used

/-- The column that a glyph stands in. -/
def columnOf (g : Glyph) (used : Nat) : Nat := if g.width = 0 then used - 1 else used

/-- The row with one more glyph. -/
def withGlyph (k : Canvas) (left x y : Nat) (first : Bool) (g : Glyph) : Canvas :=
  (List.range' (x + 1) (g.width - 1)).foldl (fun k x => k.erase x y)
    (if first then k.put x y g.symbol g.style
      else if x = left then k.append x y g.symbol g.style
      else if g.width = 0 then k.append (x - 1) y g.symbol g.style
      else k.put x y g.symbol g.style)

theorem paintSpanFrom_cons (k : Canvas) (left x y right : Nat) (first : Bool) (g : Glyph)
    (gs : List Glyph) : k.paintSpanFrom left x y right first (g :: gs) =
      if right < x + g.width then k
      else (k.withGlyph left x y first g).paintSpanFrom left (x + g.width) y right false gs := rfl

/-- A glyph is written behind what its column holds. -/
theorem withGlyph_eq (hfirst : first = true → used = 0) (k : Canvas) (left y : Nat) (g : Glyph) :
    k.withGlyph left (left + used) y first g =
      (List.range' (left + used + 1) (g.width - 1)).foldl (fun k x => k.erase x y)
        (k.modify (left + columnOf g used) y fun c => { c.styled g.style with
          symbol := (if columnOf g used < written first used then c.symbol else []) ++ g.symbol }) := by
  unfold withGlyph columnOf written
  congr 1
  cases first with
  | true =>
      obtain rfl := hfirst rfl
      simp [put]
  | false =>
      by_cases hnone : used = 0
      · subst hnone
        simp [append]
      · have hnext : ¬ left + used = left := by omega
        by_cases hwidth : g.width = 0
        · have hback : left + used - 1 = left + (used - 1) := by omega
          have hheld : used - 1 < max 1 used := by omega
          simp [append, hnone, hwidth, hback, hheld]
        · have hfree : ¬ used < max 1 used := by omega
          simp [put, hnone, hwidth, hfree]

theorem symbol?_withGlyph (hfirst : first = true → used = 0) (k : Canvas) (y j : Nat) (g : Glyph) :
    (k.withGlyph left (left + used) y first g).symbol? (left + j) y =
      (k.symbol? (left + j) y).map fun old =>
        if columnOf g used = j then (if j < written first used then old else []) ++ g.symbol
        else if used < j ∧ j < used + g.width then [' '] else old := by
  rw [withGlyph_eq hfirst, symbol?_erased, symbol?_modify (fun old =>
    (if columnOf g used < written first used then old else []) ++ g.symbol) fun _ => rfl,
    Option.map_map]
  congr 1
  funext old
  simp only [Function.comp, List.mem_range'_1]
  unfold columnOf
  grind

/-! ## Spans -/

theorem lt_written (hfirst : first = true → used = 0) (hj : j < used) : j < written first used := by
  cases first with
  | true => exact absurd (hfirst rfl) (by omega)
  | false => exact Nat.lt_of_lt_of_le hj (Nat.le_max_right 1 used)

/-- What stays where no more glyphs are painted. -/
theorem symbol?_unpainted {symbols : List (List Char)} (hfirst : first = true → used = 0)
    (hj : j < used) (hnone : inColumn j used symbols = []) (k : Canvas) (x y : Nat) :
    k.symbol? x y = (k.symbol? x y).map fun old =>
      (if j < written first used then old else []) ++ inColumn j used symbols := by
  simp [lt_written hfirst hj, hnone]

theorem shown_of_full {g : Glyph} {gs : List Glyph} {shown rest : List (List Char)}
    (hsymbols : (g :: gs).map Glyph.symbol = shown ++ rest)
    (hfits : left + used + spread shown ≤ right) (hfull : right < left + used + g.width) :
    shown = [] := by
  cases shown with
  | nil => rfl
  | cons symbol shown =>
      obtain ⟨rfl, -⟩ := List.cons.inj hsymbols
      rw [spread] at hfits
      exact absurd hfull (by unfold Glyph.width; omega)

/-- Behind a glyph that fits, the rest of what is shown fits. -/
theorem exists_later {g : Glyph} {gs : List Glyph} {shown rest : List (List Char)}
    (hsymbols : (g :: gs).map Glyph.symbol = shown ++ rest)
    (hfits : left + used + spread shown ≤ right) (hj : j < used + spread shown)
    (hroom : ¬ right < left + used + g.width) : ∃ later behind,
      gs.map Glyph.symbol = later ++ behind ∧ left + (used + g.width) + spread later ≤ right ∧
        j < used + g.width + spread later := by
  cases shown with
  | nil =>
      rw [spread] at hj
      exact ⟨[], _, rfl, by rw [spread]; omega, by omega⟩
  | cons symbol shown =>
      obtain ⟨rfl, hmore⟩ := List.cons.inj hsymbols
      rw [spread] at hfits hj
      exact ⟨shown, rest, hmore, by unfold Glyph.width; omega, by unfold Glyph.width; omega⟩

/-- As far as glyphs fit, each column of theirs holds what they put there. -/
theorem symbol?_paintSpanFrom {gs : List Glyph} {shown rest : List (List Char)}
    (hsymbols : gs.map Glyph.symbol = shown ++ rest) (hfits : left + used + spread shown ≤ right)
    (hj : j < used + spread shown) (hfirst : first = true → used = 0) (k : Canvas) (y : Nat) :
    (k.paintSpanFrom left (left + used) y right first gs).symbol? (left + j) y =
      (k.symbol? (left + j) y).map fun old =>
        (if j < written first used then old else []) ++ inColumn j used (gs.map Glyph.symbol) := by
  induction gs generalizing k used first shown rest with
  | nil =>
      obtain ⟨rfl, -⟩ := List.append_eq_nil_iff.mp hsymbols.symm
      exact symbol?_unpainted hfirst hj rfl k _ y
  | cons g gs ih =>
      rw [paintSpanFrom_cons]
      by_cases hfull : right < left + used + g.width
      · obtain rfl := shown_of_full hsymbols hfits hfull
        have hwide : 0 < g.width := by
          rw [spread] at hfits
          omega
        have hsolid : ∀ s, ((g :: gs).map Glyph.symbol).head? = some s → 0 < columns s := by
          intro s hs
          exact Option.some.inj hs ▸ hwide
        rw [if_pos hfull]
        exact symbol?_unpainted hfirst hj (inColumn_of_solid hj hsolid) k _ y
      · obtain ⟨later, behind, hlater, hroom, hcolumn⟩ := exists_later hsymbols hfits hj hfull
        have hnext := ih hlater hroom hcolumn (fun h => absurd h Bool.false_ne_true)
          (k.withGlyph left (left + used) y first g)
        rw [if_neg hfull, Nat.add_assoc, hnext, symbol?_withGlyph hfirst, Option.map_map]
        congr 1
        funext old
        simp only [Function.comp, List.map_cons, inColumn, written, columnOf, Glyph.width]
        rw [← List.append_assoc]
        congr 1
        grind

theorem cell?_paintSpanFrom_of_lt (hx : x' < left) (hleft : left ≤ x) (k : Canvas) (y right : Nat)
    (first : Bool) (gs : List Glyph) :
    (k.paintSpanFrom left x y right first gs).cell? x' y = k.cell? x' y := by
  have herased : ∀ (columns : List Nat) (k : Canvas), (∀ z ∈ columns, x' < z) →
      (columns.foldl (fun k x => k.erase x y) k).cell? x' y = k.cell? x' y := by
    intro columns k hcolumns
    induction columns generalizing k with
    | nil => rfl
    | cons z columns ih =>
        obtain ⟨hz, hmore⟩ := List.forall_mem_cons.mp hcolumns
        rw [List.foldl_cons, ih _ hmore, erase, cell?_modify_of_ne (Nat.ne_of_gt hz)]
  induction gs generalizing k x first with
  | nil => rfl
  | cons g gs ih =>
      rw [paintSpanFrom_cons]
      split
      · rfl
      · rw [ih (by omega), withGlyph, herased _ _ fun z hz => ?_]
        · repeat' split
          all_goals exact cell?_modify_of_ne (by omega) _ _
        · rw [List.mem_range'_1] at hz
          omega

theorem cell?_paintSpans_of_lt (hx : x' < x) (k : Canvas) (y right : Nat) (l : Line) :
    (k.paintSpans x y right l).cell? x' y = k.cell? x' y := by
  induction l generalizing k x with
  | nil => rfl
  | cons s l ih =>
      rw [paintSpans]
      split
      · exact ih hx k
      · split
        · rfl
        · rw [ih (by omega), cell?_paintSpanFrom_of_lt hx (Nat.le_refl x)]

/-! ## Reading a row -/

/-- The row `y` of `k'`, which has the cells of `k`, reads as a text from the column `x` on: as far
as the clusters of the text end before the column `right`, each of their columns holds what they put
there. -/
def Spells (k k' : Canvas) (x y right : Nat) (text : String) : Prop :=
  ∀ shown rest j, visible text = shown ++ rest → x + spread shown ≤ right → j < spread shown →
    k'.symbol? (x + j) y = (k.symbol? (x + j) y).map fun _ => inColumn j 0 (visible text)

theorem Spells.of_cells {text : String} {k₁ k' : Canvas} (h : Spells k₁ k' x y right text)
    (hcells : ∀ x, (k₁.cell? x y).isSome = (k.cell? x y).isSome) : Spells k k' x y right text := by
  intro shown rest j hvisible hfits hj
  have hsame := hcells (x + j)
  rw [h shown rest j hvisible hfits hj, symbol?, symbol?]
  cases hcell₁ : k₁.cell? (x + j) y <;> cases hcell : k.cell? (x + j) y <;> simp_all

/-- The symbols of a text that take one column each stand in one cell each. -/
theorem Spells.narrow {text : String} {k' : Canvas} (h : Spells k k' x y right text)
    (hnarrow : ∀ s ∈ visible text, columns s = 1) {j : Nat} {symbol : List Char}
    (hsymbol : (visible text)[j]? = some symbol) (hroom : x + j < right) :
    k'.symbol? (x + j) y = (k.symbol? (x + j) y).map fun _ => symbol := by
  obtain ⟨hj, -⟩ := List.getElem?_eq_some_iff.mp hsymbol
  have hspread : spread ((visible text).take (j + 1)) = j + 1 := by
    rw [spread_of_narrow fun s hs => hnarrow s (List.mem_of_mem_take hs), List.length_take]
    omega
  rw [h _ _ j (List.take_append_drop (j + 1) _).symm (by omega) (by omega),
    inColumn_of_narrow hnarrow (Nat.zero_le j), Nat.sub_zero, hsymbol, Option.getD_some]

theorem spells_paintSpanFrom (k : Canvas) (x y right : Nat) (s : Span) :
    Spells k (k.paintSpanFrom x x y right true s.glyphs) x y right s.text := by
  intro shown rest j hvisible hfits hj
  rw [← symbols_glyphs] at hvisible ⊢
  have hcolumn : (k.paintSpanFrom x (x + 0) y right true s.glyphs).symbol? (x + j) y =
      (k.symbol? (x + j) y).map fun _ => [] ++ inColumn j 0 (s.glyphs.map Glyph.symbol) :=
    symbol?_paintSpanFrom hvisible hfits (by omega) (fun _ => rfl) k y
  exact hcolumn

/-- A span of a line can be read off the row, up to the edge or up to the next span. -/
theorem spells_paintSpans (k : Canvas) (x y : Nat) (before : Line) {s : Span} (hs : 0 < s.width)
    {after : Line} {limit right : Nat} (hright : limit ≤ right)
    (hnext : after = [] ∨ limit ≤ x + Line.width before + s.width) :
    Spells k (k.paintSpans x y right (before ++ s :: after)) (x + Line.width before) y limit
      s.text := by
  induction before generalizing k x with
  | nil =>
      intro shown rest j hvisible hfits hj
      change x + spread shown ≤ limit at hfits
      change after = [] ∨ limit ≤ x + s.width at hnext
      change (k.paintSpans x y right (s :: after)).symbol? (x + j) y = _
      have hspan := spells_paintSpanFrom k x y right s shown rest j hvisible (by omega) hj
      rw [paintSpans, if_neg (by omega), if_neg (by omega)]
      obtain rfl | hbefore := hnext
      · exact hspan
      · rw [symbol?, cell?_paintSpans_of_lt (by omega), ← symbol?]
        exact hspan
  | cons b before ih =>
      have hcolumn : x + Line.width (b :: before) = x + b.width + Line.width before :=
        (Nat.add_assoc ..).symm
      rw [hcolumn] at hnext ⊢
      rw [List.cons_append, paintSpans]
      split
      · rename_i hnone
        rw [hnone] at hnext ⊢
        exact ih k x hnext
      · split
        · -- There is no room left, not even for this span.
          intro shown rest j hvisible hfits hj
          omega
        · exact (ih _ _ hnext).of_cells fun x' => (KeepsRow.spanFrom _ _ _ _ _).cells k x' y

end Canvas

end ChatTerminal.Screen
