import ChatTerminal.TextField
/-!
# Editing a text field

A field keeps its text in one string and its cursor as a number of bytes.  An editor keeps the
characters before the cursor and those after it.  A field to which some edits are done is always
the field of the editor to which the same edits are done.  The edits can be done with byte
positions alone, and no position that is used ever lies inside a character or beyond the end.
-/

namespace ChatTerminal

namespace Text

theorem byteLength_eq (s : List Char) : byteLength s = (String.ofList s).utf8ByteSize := by
  induction s with
  | nil => rfl
  | cons c s ih =>
      rw [byteLength_cons, ih, String.ofList_cons, String.utf8ByteSize_append,
        String.utf8ByteSize_singleton]

/-! ## Byte positions -/

/-- A text cut in two at a byte position.  A position inside a character or beyond the end cuts no
text. -/
def cut? : Nat → List Char → Option (List Char × List Char)
  | 0, s => some ([], s)
  | _ + 1, [] => none
  | n + 1, c :: s =>
    if c.utf8Size ≤ n + 1 then
      (cut? (n + 1 - c.utf8Size) s).map fun (before, after) => (c :: before, after)
    else none

def insertAt? (n : Nat) (c : Char) (s : List Char) : Option (List Char) :=
  (cut? n s).map fun (before, after) => before ++ c :: after

def removeAt? (n : Nat) (s : List Char) : Option (List Char) :=
  (cut? n s).bind fun (before, after) =>
    match after with
    | [] => none
    | _ :: rest => some (before ++ rest)

variable {n : Nat} {s before after : List Char}

theorem cut?_cons (hn : 0 < n) (c : Char) (s : List Char) :
    cut? n (c :: s) =
      if c.utf8Size ≤ n then
        (cut? (n - c.utf8Size) s).map fun (before, after) => (c :: before, after)
      else none := by
  obtain ⟨m, rfl⟩ : ∃ m, n = m + 1 := ⟨n - 1, by omega⟩
  rfl

theorem cut?_append (before after : List Char) :
    cut? (byteLength before) (before ++ after) = some (before, after) := by
  induction before with
  | nil => cases after <;> rfl
  | cons c before ih =>
      have hpos : 0 < byteLength (c :: before) := by
        have := Char.utf8Size_pos c
        rw [byteLength_cons]
        omega
      have hrest : byteLength (c :: before) - c.utf8Size = byteLength before := by
        rw [byteLength_cons]
        omega
      rw [List.cons_append, cut?_cons hpos, if_pos (by rw [byteLength_cons]; omega), hrest, ih]
      rfl

theorem cut?_eq_some_iff : cut? n s = some (before, after) ↔
    s = before ++ after ∧ byteLength before = n := by
  constructor
  · intro h
    induction s generalizing n before with
    | nil =>
        cases n with
        | zero =>
            cases h
            exact ⟨rfl, rfl⟩
        | succ n => cases h
    | cons c s ih =>
        by_cases hn : n = 0
        · subst hn
          cases h
          exact ⟨rfl, rfl⟩
        · rw [cut?_cons (by omega)] at h
          split at h
          · rename_i hfits
            obtain ⟨⟨before', after'⟩, hcut, heq⟩ := Option.map_eq_some_iff.mp h
            cases heq
            obtain ⟨rfl, hlength⟩ := ih hcut
            refine ⟨rfl, ?_⟩
            rw [byteLength_cons]
            omega
          · cases h
  · rintro ⟨rfl, rfl⟩
    exact cut?_append before after

theorem insertAt?_append (before after : List Char) (c : Char) :
    insertAt? (byteLength before) c (before ++ after) = some (before ++ c :: after) := by
  rw [insertAt?, cut?_append]
  rfl

theorem removeAt?_append (before after : List Char) (c : Char) :
    removeAt? (byteLength before) (before ++ c :: after) = some (before ++ after) := by
  rw [removeAt?, cut?_append]
  rfl

theorem byteLength_concat (s : List Char) (c : Char) :
    byteLength (s ++ [c]) = byteLength s + c.utf8Size := by
  rw [byteLength_append, byteLength_cons, byteLength_nil, Nat.add_zero]

end Text

namespace TextField

open Text

/-! ## Edits -/

inductive Edit where
  | insert (c : Char)
  | backspace
  | left
  | right
  | set (text : String)
  | clear
  | take

def edit (f : TextField) : Edit → TextField
  | .insert c => f.insert c
  | .backspace => f.backspace
  | .left => f.left
  | .right => f.right
  | .set text => f.set text
  | .clear => f.clear
  | .take => f.take.2

/-! ## Edits with byte positions -/

def sizeBefore? (f : TextField) : Option Nat :=
  (cut? f.cursor f.value.toList).map fun (before, _) => (before.getLast?.map Char.utf8Size).getD 0

def sizeAfter? (f : TextField) : Option Nat :=
  (cut? f.cursor f.value.toList).map fun (_, after) => (after.head?.map Char.utf8Size).getD 0

def insert? (f : TextField) (c : Char) : Option TextField := do
  let value ← insertAt? f.cursor c f.value.toList
  pure { f with value := String.ofList value, cursor := f.cursor + c.utf8Size }

def backspace? (f : TextField) : Option TextField :=
  if 0 < f.cursor then do
    let size ← f.sizeBefore?
    let value ← removeAt? (f.cursor - size) f.value.toList
    pure { f with value := String.ofList value, cursor := f.cursor - size }
  else some f

def left? (f : TextField) : Option TextField :=
  if 0 < f.cursor then do
    let size ← f.sizeBefore?
    pure { f with cursor := f.cursor - size }
  else some f

def right? (f : TextField) : Option TextField :=
  if f.cursor < f.value.utf8ByteSize then do
    let size ← f.sizeAfter?
    pure { f with cursor := f.cursor + size }
  else some f

/-- An edit done with byte positions alone.  It comes to nothing if one of them does not cut the
text. -/
def edit? (f : TextField) : Edit → Option TextField
  | .insert c => f.insert? c
  | .backspace => f.backspace?
  | .left => f.left?
  | .right => f.right?
  | .set text => some { f with value := text, cursor := text.utf8ByteSize }
  | .clear | .take => some { f with value := "", cursor := 0 }

def column? (f : TextField) : Option Nat :=
  (cut? f.cursor f.value.toList).map fun (before, _) => before.length % 65536

/-! ## The editor -/

/-- The characters before the cursor and those after it. -/
structure Editor where
  before : List Char := []
  after : List Char := []

namespace Editor

def text (e : Editor) : List Char := e.before ++ e.after

def edit (e : Editor) : Edit → Editor
  | .insert c => { e with before := e.before ++ [c] }
  | .backspace => { e with before := e.before.dropLast }
  | .left =>
    match e.before.getLast? with
    | some c => ⟨e.before.dropLast, c :: e.after⟩
    | none => e
  | .right =>
    match e.after with
    | c :: rest => ⟨e.before ++ [c], rest⟩
    | [] => e
  | .set text => ⟨text.toList, []⟩
  | .clear | .take => {}

def field (masked : Bool) (e : Editor) : TextField :=
  ⟨String.ofList e.text, byteLength e.before, masked⟩

variable (masked : Bool) (e : Editor)

theorem toList_field : (e.field masked).value.toList = e.before ++ e.after :=
  String.toList_ofList

@[simp] theorem split_field : (e.field masked).split = (e.before, e.after) := by
  rw [split, toList_field]
  exact splitAtByte_append e.before e.after

theorem cut?_field :
    cut? (e.field masked).cursor (e.field masked).value.toList = some (e.before, e.after) :=
  cut?_eq_some_iff.mpr ⟨toList_field masked e, rfl⟩

theorem field_withCursor {masked : Bool} {e e' : Editor} (htext : e'.text = e.text) :
    { e.field masked with cursor := byteLength e'.before } = e'.field masked := by
  rw [field, field, htext]

/-! ## Edits of fields -/

theorem text_left (e : Editor) : (e.edit .left).text = e.text := by
  unfold edit
  dsimp only
  split
  · rename_i c hlast
    obtain ⟨before, hbefore⟩ := List.getLast?_eq_some_iff.mp hlast
    simp [text, hbefore]
  · rfl

theorem before_left (e : Editor) : (e.edit .left).before = e.before.dropLast := by
  unfold edit
  dsimp only
  split
  · rfl
  · rename_i hnone
    rw [List.getLast?_eq_none_iff.mp hnone]
    rfl

theorem text_right (e : Editor) : (e.edit .right).text = e.text := by
  obtain ⟨before, after⟩ := e
  cases after with
  | nil => rfl
  | cons c after => simp [edit, text]

theorem before_right (e : Editor) : (e.edit .right).before = e.before ++ e.after.take 1 := by
  obtain ⟨before, after⟩ := e
  cases after with
  | nil => simp [edit]
  | cons c after => simp [edit]

theorem edit_field (d : Edit) : (e.field masked).edit d = (e.edit d).field masked := by
  cases d with
  | insert c =>
      simp only [TextField.edit, insert, split_field]
      rfl
  | backspace =>
      simp only [TextField.edit, backspace, split_field]
      rfl
  | left =>
      simp only [TextField.edit, left, split_field]
      rw [← before_left, field_withCursor (text_left e)]
  | right =>
      simp only [TextField.edit, right, split_field]
      rw [← before_right, field_withCursor (text_right e)]
  | set text =>
      simp [TextField.edit, set, edit, field, Editor.text]
  | clear => rfl
  | take => rfl

theorem sizeBefore?_field :
    (e.field masked).sizeBefore? = some ((e.before.getLast?.map Char.utf8Size).getD 0) := by
  rw [sizeBefore?, cut?_field]
  rfl

theorem sizeAfter?_field :
    (e.field masked).sizeAfter? = some ((e.after.head?.map Char.utf8Size).getD 0) := by
  rw [sizeAfter?, cut?_field]
  rfl

theorem cursor_pos_iff : 0 < (e.field masked).cursor ↔ e.before ≠ [] := by
  cases hbefore : e.before with
  | nil => simp [field, hbefore]
  | cons c before =>
      have := Char.utf8Size_pos c
      simp only [field, hbefore, byteLength_cons, ne_eq, reduceCtorEq, not_false_eq_true, iff_true]
      omega

theorem cursor_lt_iff :
    (e.field masked).cursor < (e.field masked).value.utf8ByteSize ↔ e.after ≠ [] := by
  have hlength : (e.field masked).value.utf8ByteSize =
      (e.field masked).cursor + byteLength e.after := by
    simp only [field, text, ← byteLength_eq, byteLength_append]
  rw [hlength]
  cases hafter : e.after with
  | nil => simp
  | cons c after =>
      have := Char.utf8Size_pos c
      simp only [byteLength_cons, ne_eq, reduceCtorEq, not_false_eq_true, iff_true]
      omega

/-- The size of the character before the cursor is what the text before it ends in. -/
theorem cursor_sub_size :
    (e.field masked).cursor - (e.before.getLast?.map Char.utf8Size).getD 0 =
      byteLength e.before.dropLast := by
  obtain ⟨before, after⟩ := e
  rcases List.eq_nil_or_concat before with rfl | ⟨before, c, rfl⟩
  · rfl
  · simp [field, byteLength_concat]

theorem insert?_field (c : Char) :
    (e.field masked).insert? c = some ((e.edit (.insert c)).field masked) := by
  have hvalue : insertAt? (e.field masked).cursor c (e.field masked).value.toList =
      some (e.before ++ c :: e.after) := by
    rw [toList_field]
    exact insertAt?_append e.before e.after c
  rw [insert?, hvalue]
  simp [field, edit, text, byteLength_concat]

/-- Before the last character of the text in front of the cursor, that character can be taken out. -/
theorem removeAt?_field {before : List Char} {c : Char} (hbefore : e.before = before ++ [c]) :
    removeAt? (byteLength before) (e.field masked).value.toList = some (before ++ e.after) := by
  rw [toList_field, hbefore, List.append_assoc]
  exact removeAt?_append before e.after c

theorem backspace?_field :
    (e.field masked).backspace? = some ((e.edit .backspace).field masked) := by
  by_cases hbefore : e.before = []
  · have hself : e.edit .backspace = e := by
      obtain ⟨before, after⟩ := e
      obtain rfl : before = [] := hbefore
      rfl
    rw [backspace?, if_neg (by simp [cursor_pos_iff, hbefore]), hself]
  · have hlast : e.before = e.before.dropLast ++ [e.before.getLast hbefore] :=
      (List.dropLast_concat_getLast hbefore).symm
    rw [backspace?, if_pos ((cursor_pos_iff masked e).mpr hbefore), sizeBefore?_field]
    simp only [Option.bind_eq_bind, Option.bind_some, cursor_sub_size,
      removeAt?_field masked e hlast, Option.pure_def]
    rfl

theorem left?_field : (e.field masked).left? = some ((e.edit .left).field masked) := by
  by_cases hbefore : e.before = []
  · have hself : e.edit .left = e := by
      rw [edit, hbefore]
      rfl
    rw [left?, if_neg (by simp [cursor_pos_iff, hbefore]), hself]
  · rw [left?, if_pos ((cursor_pos_iff masked e).mpr hbefore), sizeBefore?_field]
    simp only [Option.bind_eq_bind, Option.bind_some, Option.pure_def, cursor_sub_size,
      ← before_left, field_withCursor (text_left e)]

theorem right?_field : (e.field masked).right? = some ((e.edit .right).field masked) := by
  by_cases hafter : e.after = []
  · have hself : e.edit .right = e := by
      rw [edit, hafter]
    rw [right?, if_neg (by simp [cursor_lt_iff, hafter]), hself]
  · have hcursor : (e.field masked).cursor + (e.after.head?.map Char.utf8Size).getD 0 =
        byteLength (e.edit .right).before := by
      rw [before_right, byteLength_append]
      cases e.after with
      | nil => rfl
      | cons c after => simp [field]
    rw [right?, if_pos ((cursor_lt_iff masked e).mpr hafter), sizeAfter?_field]
    simp only [Option.bind_eq_bind, Option.bind_some, Option.pure_def, hcursor,
      field_withCursor (text_right e)]

theorem edit?_field (d : Edit) : (e.field masked).edit? d = some ((e.edit d).field masked) := by
  cases d with
  | insert c => exact insert?_field masked e c
  | backspace => exact backspace?_field masked e
  | left => exact left?_field masked e
  | right => exact right?_field masked e
  | set text => simp [edit?, edit, field, Editor.text, byteLength_eq]
  | clear => rfl
  | take => rfl

/-! ## What is read off a field -/

theorem column_field : (e.field masked).column = e.before.length % 65536 := by
  rw [column, split_field]

theorem column?_field : (e.field masked).column? = some (e.before.length % 65536) := by
  rw [column?, cut?_field]
  rfl

theorem display_field : (e.field masked).display =
    String.ofList (if masked then List.replicate e.text.length bullet else e.text) := by
  cases masked with
  | true => simp [display, field]
  | false => rfl

end Editor

/-! ## Runs of edits -/

def edited (f : TextField) (edits : List Edit) : TextField := edits.foldl edit f

def edited? (f : TextField) (edits : List Edit) : Option TextField := edits.foldlM edit? f

def Editor.edited (e : Editor) (edits : List Edit) : Editor := edits.foldl Editor.edit e

theorem edited_field (masked : Bool) (e : Editor) (edits : List Edit) :
    (e.field masked).edited edits = (e.edited edits).field masked := by
  induction edits generalizing e with
  | nil => rfl
  | cons d more ih =>
      rw [edited, List.foldl_cons, Editor.edit_field]
      exact ih (e.edit d)

theorem edited?_field (masked : Bool) (e : Editor) (edits : List Edit) :
    (e.field masked).edited? edits = some ((e.edited edits).field masked) := by
  induction edits generalizing e with
  | nil => rfl
  | cons d more ih =>
      rw [edited?, List.foldlM_cons, Editor.edit?_field]
      exact ih (e.edit d)

/-- Whatever is done to an empty field, masked or not, is done by byte positions that all cut the
text, and the field shows what the editor holds. -/
theorem edits_follow_editor (masked : Bool) (edits : List Edit) :
    let f := edited { masked := masked } edits
    let e := Editor.edited {} edits
    edited? { masked := masked } edits = some f ∧
      f.column? = some f.column ∧
      f.value = String.ofList (e.before ++ e.after) ∧
      f.cursor = (String.ofList e.before).utf8ByteSize ∧
      f.column = e.before.length % 65536 ∧
      f.display = String.ofList (if masked then List.replicate (e.before ++ e.after).length '•'
        else e.before ++ e.after) ∧
      f.take = (String.ofList (e.before ++ e.after), { masked := masked }) := by
  intro f e
  have hempty : Editor.field masked {} = { masked := masked } := rfl
  have hfield : f = e.field masked := by
    rw [← edited_field, hempty]
  have hbytes : edited? { masked := masked } edits = some (e.field masked) := by
    rw [← edited?_field, hempty]
  rw [hbytes, hfield]
  refine ⟨rfl, ?_, rfl, ?_, ?_, ?_, rfl⟩
  · rw [Editor.column?_field, Editor.column_field]
  · exact byteLength_eq e.before
  · exact Editor.column_field masked e
  · exact Editor.display_field masked e

/-- Characters of one to four bytes, typed, walked over and taken out. -/
example : edited? {} [.insert 'a', .insert 'é', .left, .insert '語', .insert '😀', .left, .left,
    .backspace, .right, .backspace] = some ⟨"😀é", 0, false⟩ := by
  decide

end TextField

end ChatTerminal
