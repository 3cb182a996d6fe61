import ChatTerminal.Proofs.Client.Rows
import ChatTerminal.Proofs.Screen.Rows
/-!
# The window on the sidebar

The list of the sidebar shows as many rows as it has room for, the landing page before the channels
in the order of the directory.  Where they do not all fit, the window ends with the row of the
cursor or, while the cursor is further up, begins with the landing page.  The mark at the front of a
row stands at the row of the cursor and nowhere else.
-/

namespace ChatTerminal.View

open Screen

variable {c : Client}

/-! ## Rows -/

/-- A row of the sidebar by its number, with the id that it stands for: the landing page, and below
it the channels in the order of the directory. -/
inductive RowOf (c : Client) : Nat → Nat → SidebarRow → Prop where
  | landing : RowOf c 0 homeId ⟨"Home", c.activeId == some homeId || c.activeId.isNone, false⟩
  | channel {n : Nat} {k : Channel} : c.directory.channels[n]? = some k →
      RowOf c (n + 1) k.id ⟨k.label c.userName, c.activeId == some k.id, k.isOwnedBy c.userName⟩

theorem length_sidebarRows (c : Client) : (sidebarRows c).length = c.rows := by
  simp [sidebarRows, Client.rows, Directory.size]

theorem getElem?_sidebarRows {n : Nat} {row : SidebarRow} :
    (sidebarRows c)[n]? = some row ↔ ∃ id, RowOf c n id row := by
  cases n with
  | zero =>
      constructor
      · intro h
        obtain rfl := Option.some.inj h
        exact ⟨_, .landing⟩
      · rintro ⟨_, ⟨⟩⟩
        rfl
  | succ n =>
      rw [sidebarRows, List.getElem?_cons_succ, List.getElem?_map, Option.map_eq_some_iff]
      constructor
      · rintro ⟨k, hk, rfl⟩
        exact ⟨_, .channel hk⟩
      · rintro ⟨_, h⟩
        cases h with
        | channel hk => exact ⟨_, hk, rfl⟩

theorem RowOf.idAt? {n id : Nat} {row : SidebarRow} (h : RowOf c (n + 1) id row) :
    c.directory.idAt? n = some id := by
  cases h with
  | channel hk => rw [Directory.idAt?, hk, Option.map_some]

theorem RowOf.underCursor {id : Nat} {row : SidebarRow} (h : RowOf c c.cursor id row) :
    c.underCursor = id := by
  unfold Client.underCursor
  generalize c.cursor = n at h ⊢
  cases n with
  | zero =>
      cases h
      rfl
  | succ n => simp only [h.idAt?, Option.getD_some]

theorem exists_rowOf {n : Nat} (h : n < c.rows) : ∃ id row, RowOf c n id row := by
  rw [← length_sidebarRows] at h
  obtain ⟨id, hid⟩ := getElem?_sidebarRows.mp (List.getElem?_eq_getElem h)
  exact ⟨id, _, hid⟩

/-! ## The window -/

section Window

variable {height : Nat}

theorem sidebarStart_eq {cursor : Nat} (hheight : 1 ≤ height) :
    sidebarStart cursor height = cursor + 1 - height := by
  have hbelow : (decide (0 < height) && decide (height ≤ cursor)) = true ↔ height ≤ cursor := by
    rw [Bool.and_eq_true, decide_eq_true_eq, decide_eq_true_eq,
      and_iff_right (show 0 < height from hheight)]
  rw [sidebarStart]
  by_cases h : height ≤ cursor
  · rw [if_pos (hbelow.mpr h)]
    omega
  · rw [if_neg (hbelow.not.mpr h)]
    omega

theorem getElem?_sidebarWindow (hheight : 1 ≤ height) {i : Nat} (hi : i < height) :
    (sidebarWindow c height)[i]? = (sidebarRows c)[sidebarStart c.cursor height + i]?.map
      (·, sidebarStart c.cursor height + i) := by
  rw [sidebarWindow, Nat.max_eq_left hheight, List.getElem?_take, if_pos hi, List.getElem?_drop,
    List.getElem?_zipIdx, Nat.zero_add]

theorem length_sidebarWindow (hheight : 1 ≤ height) (hwithin : c.cursor < c.rows) :
    (sidebarWindow c height).length = min height c.rows := by
  rw [sidebarWindow, Nat.max_eq_left hheight, List.length_take, List.length_drop,
    List.length_zipIdx, length_sidebarRows, sidebarStart_eq hheight]
  omega

theorem length_sidebarLines (hheight : 1 ≤ height) (hwithin : c.cursor < c.rows) :
    (sidebarLines c height).length =
      min height c.rows + (if c.directory.isEmpty then 1 else 0) := by
  rw [sidebarLines, List.length_append, List.length_map, length_sidebarWindow hheight hwithin]
  split <;> rfl

theorem getElem?_sidebarLines (hheight : 1 ≤ height) (hwithin : c.cursor < c.rows) {i : Nat}
    (hi : i < min height c.rows) : ∃ id row,
      RowOf c (sidebarStart c.cursor height + i) id row ∧ (sidebarLines c height)[i]? =
        some (sidebarLine c row (sidebarStart c.cursor height + i)) := by
  have hlength := length_sidebarWindow hheight hwithin
  have hsome : sidebarStart c.cursor height + i < (sidebarRows c).length := by
    rw [length_sidebarRows, sidebarStart_eq hheight]
    omega
  have hrow := List.getElem?_eq_getElem hsome
  obtain ⟨id, hid⟩ := getElem?_sidebarRows.mp hrow
  refine ⟨id, _, hid, ?_⟩
  rw [sidebarLines, List.getElem?_append_left (by rw [List.length_map, hlength]; exact hi),
    List.getElem?_map, getElem?_sidebarWindow hheight (by omega), hrow]
  rfl

/-- Without channels the landing page is the only row, with a note below it. -/
theorem getElem?_sidebarLines_of_isEmpty (hempty : c.directory.isEmpty)
    (hwithin : c.cursor < c.rows) (hheight : 1 < height) : (sidebarLines c height)[1]? =
      some (Line.styled "  No channels yet" (.colored .darkGray)) := by
  have hrows : c.rows = 1 := by
    rw [Client.rows, Directory.size]
    simpa [Directory.isEmpty] using hempty
  have hwindow : (sidebarWindow c height).length = 1 := by
    rw [length_sidebarWindow (Nat.le_of_lt hheight) hwithin, hrows]
    exact Nat.min_eq_right (Nat.le_of_lt hheight)
  rw [sidebarLines, if_pos hempty, List.getElem?_append_right, List.length_map, hwindow]
  · rfl
  · exact Nat.le_of_eq ((List.length_map _).trans hwindow)

end Window

/-! ## The area of the list -/

def listArea (area : Area) (c : Client) : Area :=
  Area.nth (area.splitRows [.atLeast 3, .length (if (sidebarBanner c).isSome then 3 else 0)]) 0

def listFrame (k : Canvas) (area : Area) (c : Client) : Canvas :=
  k.paintBox (listArea area c) (Line.plain " Channels ") (borderOf (c.panel == .sidebar))

/-- Of two areas one below the other the lower one begins where the upper one ends, or below. -/
theorem bottom_le_of_splitRows (a : Area) (p q : Share) :
    (Area.nth (a.splitRows [p, q]) 0).bottom ≤ (Area.nth (a.splitRows [p, q]) 1).y := by
  obtain ⟨first, second, hsizes⟩ : ∃ first second, Share.sizes a.height [p, q] = [first, second] :=
    ⟨_, _, rfl⟩
  rw [Area.splitRows, Share.stretches, hsizes]
  change a.y + (0 + 50) / 100 + ((0 + first + 50) / 100 - (0 + 50) / 100) ≤
    a.y + (0 + first + 50) / 100
  omega

theorem row_lt_bottom {a : Area} {i : Nat} (hi : i < a.inner.height) :
    a.inner.y + i < a.bottom := by
  simp only [Area.inner, Area.bottom] at hi ⊢
  omega

theorem row?_over_banner {area : Area} {text : String} {color : Color} {k : Canvas} {z : Nat}
    (hz : z < area.y) : ((banner area text color).over k).row? z = k.row? z := by
  have hinner : z < area.inner.y := by
    simp only [Area.inner, Area.bottom]
    omega
  rw [banner, Scene.over, List.foldl_cons, List.foldl_cons, List.foldl_cons, List.foldl_nil]
  rw [Canvas.row?_paint_of_apart _ _ _ (.inl hinner), Canvas.row?_paint_of_apart _ _ _ (.inl hz),
    Canvas.row?_paint_of_apart _ _ _ (.inl hz)]

def listScene (area : Area) (c : Client) : Scene where
  widgets := [
    (listArea area c, .box (Line.plain " Channels ") (borderOf (c.panel == .sidebar))),
    ((listArea area c).inner, .rows (sidebarLines c (listArea area c).inner.height))]

theorem over_listScene (k : Canvas) (area : Area) (c : Client) :
    (listScene area c).over k = (listFrame k area c).paintRows (listArea area c).inner
      (sidebarLines c (listArea area c).inner.height) := by
  simp only [Scene.over, listScene, listFrame, List.foldl_cons, List.foldl_nil, Canvas.paint]

/-- The banner, where there is one, leaves the rows of the list as they are. -/
theorem row?_over_sidebar (k : Canvas) (area : Area) (c : Client) {i : Nat}
    (hi : i < (listArea area c).inner.height) :
    ((sidebar area c).over k).row? ((listArea area c).inner.y + i) =
      ((listScene area c).over k).row? ((listArea area c).inner.y + i) := by
  cases hbanner : sidebarBanner c with
  | none =>
      have halone : sidebar area c = listScene area c := by
        simp only [sidebar, listScene, listArea, hbanner]
      rw [halone]
  | some shown =>
      obtain ⟨text, color⟩ := shown
      have hbelow : sidebar area c = (banner (Area.nth
          (area.splitRows [.atLeast 3, .length 3]) 1) text color).above (listScene area c) := by
        simp only [sidebar, listScene, listArea, hbanner, Option.isSome_some, if_true]
      rw [hbelow, Scene.over_above]
      refine row?_over_banner (Nat.lt_of_lt_of_le (row_lt_bottom hi) ?_)
      have hends := bottom_le_of_splitRows area (.atLeast 3) (.length 3)
      rw [listArea, hbanner]
      exact hends

/-- The sidebar shows the lines of its window in its list. -/
theorem lists_sidebar (k : Canvas) (area : Area) (c : Client) :
    Canvas.Lists (listArea area c).inner (sidebarLines c (listArea area c).inner.height)
      (listFrame k area c) ((sidebar area c).over k) := by
  have hlist := Canvas.lists_paintRows (listFrame k area c) (listArea area c).inner
    (sidebarLines c (listArea area c).inner.height)
  rw [← over_listScene] at hlist
  exact ⟨fun i l hi hl => (row?_over_sidebar k area c hi).trans (hlist.line i l hi hl),
    fun i hi hrest => (row?_over_sidebar k area c hi).trans (hlist.rest i hi hrest)⟩

/-! ## The mark of the cursor -/

def Marked (l : Line) : Prop := ∃ style rest, l = ⟨"▸ ", style⟩ :: rest

/-- The row of the cursor is marked while the keys go to the sidebar, and no other row is. -/
theorem marked_sidebarLine {row : SidebarRow} {n : Nat} :
    Marked (sidebarLine c row n) ↔ n = c.cursor ∧ c.panel = .sidebar := by
  have hmark : (n == c.cursor && c.panel == .sidebar) = true ↔
      n = c.cursor ∧ c.panel = .sidebar := by
    rw [Bool.and_eq_true, beq_iff_eq, beq_iff_eq]
  rw [← hmark]
  unfold sidebarLine
  dsimp only
  constructor
  · rintro ⟨style, rest, hline⟩
    by_contra hunmarked
    rw [if_neg hunmarked] at hline
    have hblank : "  " = "▸ " := congrArg Span.text (List.cons.inj hline).1
    exact absurd hblank (by decide)
  · intro hmarked
    rw [if_pos hmarked]
    exact ⟨_, _, rfl⟩

/-! ## The cells of a row -/

/-- A row of the sidebar is its mark, its label and the sign of a channel of one's own. -/
theorem texts_sidebarLine (c : Client) (row : SidebarRow) (n : Nat) :
    (sidebarLine c row n).map Span.text =
      (if n = c.cursor ∧ c.panel = .sidebar then "▸ " else "  ") :: row.label ::
        if row.owned then ["  ×"] else [] := by
  have hmark : (n == c.cursor && c.panel == .sidebar) = true ↔
      n = c.cursor ∧ c.panel = .sidebar := by
    rw [Bool.and_eq_true, beq_iff_eq, beq_iff_eq]
  simp only [sidebarLine, hmark, List.map_append, List.map_cons, List.map_nil]
  cases row.owned <;> rfl

/-- The cells of row `n` of the sidebar on the row `y` of the canvas: the mark or a blank in its
place, a blank, the label up to the sign or to the edge, and the sign. -/
structure ReadsRow (c : Client) (list : Area) (n : Nat) (row : SidebarRow) (y : Nat)
    (k k' : Canvas) : Prop where
  mark : 1 ≤ list.width → k'.symbol? list.x y = (k.symbol? list.x y).map fun _ =>
    if n = c.cursor ∧ c.panel = .sidebar then ['▸'] else [' ']
  gap : 2 ≤ list.width → k'.symbol? (list.x + 1) y = (k.symbol? (list.x + 1) y).map fun _ => [' ']
  label : 0 < Text.columns row.label.toList → Canvas.Spells k k' (list.x + 2) y
    (if row.owned then min list.right (list.x + 2 + Text.columns row.label.toList)
      else list.right) row.label
  sign : row.owned → Canvas.Spells k k' (list.x + 2 + Text.columns row.label.toList) y list.right
    "  ×"

theorem exists_spans_sidebarLine (c : Client) (row : SidebarRow) (n : Nat) : ∃ mark label tail,
    sidebarLine c row n = mark :: label :: tail ∧
      mark.text = (if n = c.cursor ∧ c.panel = .sidebar then "▸ " else "  ") ∧ mark.width = 2 ∧
      label.text = row.label ∧ tail.map Span.text = if row.owned then ["  ×"] else [] := by
  have htexts := texts_sidebarLine c row n
  generalize sidebarLine c row n = line at htexts ⊢
  obtain ⟨mark, _, rfl, hmark, htexts⟩ := List.map_eq_cons_iff.mp htexts
  obtain ⟨label, tail, rfl, hlabel, htail⟩ := List.map_eq_cons_iff.mp htexts
  refine ⟨mark, label, tail, rfl, hmark, ?_, hlabel, htail⟩
  rw [Span.width, hmark]
  split <;> decide +kernel

/-- A cell for the mark and one for the gap behind it. -/
theorem symbol?_mark {marked : Prop} [Decidable marked] {x y right : Nat} {k k' : Canvas}
    (h : Canvas.Spells k k' x y right (if marked then "▸ " else "  ")) :
    (x < right → k'.symbol? x y = (k.symbol? x y).map fun _ =>
      if marked then ['▸'] else [' ']) ∧
    (x + 1 < right → k'.symbol? (x + 1) y = (k.symbol? (x + 1) y).map fun _ => [' ']) := by
  have hvisible : visible (if marked then "▸ " else "  ") =
      [if marked then ['▸'] else [' '], [' ']] := by
    split <;> decide +kernel
  have hnarrow : ∀ s ∈ visible (if marked then "▸ " else "  "), Text.columns s = 1 := by
    split <;> decide +kernel
  constructor
  · intro hroom
    have hfirst : (visible (if marked then "▸ " else "  "))[0]? =
        some (if marked then ['▸'] else [' ']) := by
      rw [hvisible]
      rfl
    exact h.narrow hnarrow hfirst hroom
  · intro hroom
    have hsecond : (visible (if marked then "▸ " else "  "))[1]? = some [' '] := by
      rw [hvisible]
      rfl
    exact h.narrow hnarrow hsecond hroom

theorem readsRow_of_lists {list : Area} {lines : List Line} {k k' : Canvas}
    (h : Canvas.Lists list lines k k') {i n : Nat} {row : SidebarRow} (hi : i < list.height)
    (hl : lines[i]? = some (sidebarLine c row n)) :
    ReadsRow c list n row (list.y + i) k k' := by
  obtain ⟨mark, label, tail, hline, hmark, hwidth, hlabel, htail⟩ := exists_spans_sidebarLine c row n
  rw [hline] at hl
  have hedge : list.right = list.x + list.width := rfl
  have hfront : Canvas.Spells k k' list.x (list.y + i) (min list.right (list.x + 2)) mark.text := by
    change Canvas.Spells k k' (list.x + Line.width []) _ _ _
    refine h.spells hi hl (by omega) (Nat.min_le_left _ _) (.inr ?_)
    rw [hwidth]
    exact Nat.min_le_right _ _
  rw [hmark] at hfront
  have hat : list.x + 2 = list.x + Line.width [mark] := by
    rw [← hwidth]
    rfl
  have hlabelWidth : label.width = Text.columns row.label.toList := by rw [Span.width, hlabel]
  constructor
  case mark =>
      intro hroom
      exact (symbol?_mark hfront).1 (Nat.lt_min.mpr ⟨by omega, by omega⟩)
  case gap =>
      intro hroom
      exact (symbol?_mark hfront).2 (Nat.lt_min.mpr ⟨by omega, by omega⟩)
  case label =>
      intro hwide
      have hsplit : lines[i]? = some ([mark] ++ label :: tail) := hl
      rw [← hlabel, hat]
      split at htail
      · rename_i howned
        rw [if_pos howned]
        refine h.spells hi hsplit (by omega) (Nat.min_le_left _ _) (.inr ?_)
        rw [Span.width]
        exact Nat.min_le_right _ _
      · rename_i hothers
        rw [if_neg hothers]
        exact h.spells hi hsplit (by omega) (Nat.le_refl _) (.inl (List.map_eq_nil_iff.mp htail))
  case sign =>
      intro howned
      rw [if_pos howned] at htail
      obtain ⟨sign, _, rfl, hsign, hnone⟩ := List.map_eq_cons_iff.mp htail
      obtain rfl := List.map_eq_nil_iff.mp hnone
      have hbehind : list.x + 2 + Text.columns row.label.toList =
          list.x + Line.width [mark, label] := by
        rw [hat, ← hlabelWidth, Nat.add_assoc]
        rfl
      have hsplit : lines[i]? = some ([mark, label] ++ sign :: []) := hl
      have hwide : 0 < sign.width := by
        rw [Span.width, hsign]
        decide +kernel
      rw [← hsign, hbehind]
      exact h.spells hi hsplit hwide (Nat.le_refl _) (.inl rfl)

theorem ReadsRow.mark_eq {list : Area} {n y : Nat} {row : SidebarRow} {k k' : Canvas}
    (h : ReadsRow c list n row y k k') (hroom : 1 ≤ list.width)
    (hcell : (k.symbol? list.x y).isSome) : k'.symbol? list.x y =
      some (if n = c.cursor ∧ c.panel = .sidebar then ['▸'] else [' ']) := by
  obtain ⟨old, hold⟩ := Option.isSome_iff_exists.mp hcell
  rw [h.mark hroom, hold, Option.map_some]

theorem ReadsRow.letter_eq {list : Area} {n y : Nat} {row : SidebarRow} {k k' : Canvas}
    (h : ReadsRow c list n row y k k') (hothers : row.owned = false)
    (hnarrow : ∀ s ∈ visible row.label, Text.columns s = 1)
    (hwide : 0 < Text.columns row.label.toList) {j : Nat} {symbol : List Char}
    (hsymbol : (visible row.label)[j]? = some symbol) (hroom : list.x + 2 + j < list.right)
    (hcell : (k.symbol? (list.x + 2 + j) y).isSome) :
    k'.symbol? (list.x + 2 + j) y = some symbol := by
  have hlabel := h.label hwide
  rw [hothers] at hlabel
  obtain ⟨old, hold⟩ := Option.isSome_iff_exists.mp hcell
  rw [hlabel.narrow hnarrow hsymbol hroom, hold, Option.map_some]

/-- In the area `list` the canvas `k'` is `k` with the rows of the sidebar from row `first` on, as
many as there are or as there is room for, each to be read off its cells.  The row of the cursor is
one of them, and the only one with the mark while the keys go to the sidebar. -/
structure ShowsRows (c : Client) (list : Area) (first : Nat) (k k' : Canvas) : Prop where
  within : first + min list.height c.rows ≤ c.rows
  cursor : first ≤ c.cursor ∧ c.cursor < first + min list.height c.rows
  whole : c.rows ≤ list.height → first = 0
  row : ∀ i, i < min list.height c.rows → ∃ id row, RowOf c (first + i) id row ∧
    (Marked (sidebarLine c row (first + i)) ↔ first + i = c.cursor ∧ c.panel = .sidebar) ∧
    (first + i = c.cursor → c.underCursor = id) ∧
    ReadsRow c list (first + i) row (list.y + i) k k' ∧
    k'.row? (list.y + i) = (k.paintSpans list.x (list.y + i) list.right
      (sidebarLine c row (first + i))).row? (list.y + i)
  /-- Where there are no channels the row below the landing page says so. -/
  placeholder : c.directory.isEmpty → 1 < list.height →
    Canvas.Spells k k' list.x (list.y + 1) list.right "  No channels yet" ∧
    k'.row? (list.y + 1) = (k.paintSpans list.x (list.y + 1) list.right
      (Line.styled "  No channels yet" (.colored .darkGray))).row? (list.y + 1)
  rest : ∀ i, i < list.height → c.rows + (if c.directory.isEmpty then 1 else 0) ≤ i →
    k'.row? (list.y + i) = k.row? (list.y + i)

/-- The sidebar shows the row of the cursor, however many channels there are. -/
theorem showsRows_sidebar (k : Canvas) {area : Area} (hroom : 1 ≤ (listArea area c).inner.height)
    (hwithin : c.cursor < c.rows) :
    ShowsRows c (listArea area c).inner (sidebarStart c.cursor (listArea area c).inner.height)
      (listFrame k area c) ((sidebar area c).over k) := by
  have hstart : sidebarStart c.cursor (listArea area c).inner.height =
      c.cursor + 1 - (listArea area c).inner.height := sidebarStart_eq hroom
  have hlists := lists_sidebar k area c
  constructor
  case within => omega
  case cursor => omega
  case whole => omega
  case row =>
      intro i hi
      obtain ⟨id, row, hrow, hline⟩ := getElem?_sidebarLines hroom hwithin hi
      have hheight : i < (listArea area c).inner.height := by omega
      refine ⟨id, row, hrow, marked_sidebarLine, ?_, readsRow_of_lists hlists hheight hline,
        hlists.line i _ hheight hline⟩
      intro hcursor
      rw [hcursor] at hrow
      exact hrow.underCursor
  case placeholder =>
      intro hempty hroom'
      have hline := getElem?_sidebarLines_of_isEmpty hempty hwithin hroom'
      have hsplit : (sidebarLines c (listArea area c).inner.height)[1]? =
          some ([] ++ ⟨"  No channels yet", .colored .darkGray⟩ :: []) := hline
      have hwide : 0 < Span.width ⟨"  No channels yet", .colored .darkGray⟩ := by decide +kernel
      exact ⟨hlists.spells hroom' hsplit hwide (Nat.le_refl _) (.inl rfl),
        hlists.line 1 _ hroom' hline⟩
  case rest =>
      intro i hi hrest
      apply hlists.rest i hi
      rw [length_sidebarLines hroom hwithin]
      omega

end ChatTerminal.View
