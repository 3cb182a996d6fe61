import ChatTerminal.Proofs.Screen.Painting
import ChatTerminal.Proofs.Text.Pieces
import ChatTerminal.View.Messages
/-!
# The window on the messages

The panel of a channel shows a window of the lines of its messages.  The window ends at the newest
line, or as many lines above it as the user scrolled back.  A screen counts the lines it leaves out
on 16 bits, so the window stands where it should as long as there are fewer than 65536 lines above
it; of a longer conversation the panel shows lines that are 65536 lines older, or a multiple of
that.
-/

namespace ChatTerminal

/-! ## Lines of a message -/

/-- Line feeds at the front are as many empty lines, and what follows them is one line more. -/
theorem Text.lines_feeds (n : Nat) {last : List Char} (hlast : last ≠ []) (hflat : '\n' ∉ last) :
    Text.lines (List.replicate n '\n' ++ last) = List.replicate n [] ++ [last] := by
  have hpieces : Text.pieces (· == '\n') (List.replicate n '\n' ++ last) =
      List.replicate n [] ++ [last] := by
    induction n with
    | zero =>
        apply Text.pieces_of_unmarked
        intro c hc
        exact beq_eq_false_iff_ne.mpr fun heq => hflat (heq ▸ hc)
    | succ n ih =>
        rw [List.replicate_succ, List.cons_append, Text.pieces_cons_mark rfl, ih,
          List.replicate_succ, List.cons_append]
  have hended : (List.replicate n ([] : List Char)).map Text.dropReturn = List.replicate n [] :=
    List.map_replicate
  obtain ⟨c, rest, rfl⟩ := List.exists_cons_of_ne_nil hlast
  simp only [Text.lines, hpieces, List.getLast?_concat, List.dropLast_concat, hended]

namespace View

open Screen

variable {c : Client}

theorem length_messageLines (me : String) (m : Message) :
    (messageLines me m).length = (Text.lines m.content.toList).length + 2 := by
  simp [messageLines]

def lineCount (ms : List Message) : Nat :=
  ms.foldr (fun m total => (Text.lines m.content.toList).length + 2 + total) 0

theorem length_conversation (me : String) (ms : List Message) :
    (conversation me ms).length = lineCount ms := by
  induction ms with
  | nil => rfl
  | cons m ms ih =>
      have hfirst := length_messageLines me m
      simp only [conversation, lineCount, List.flatMap_cons, List.foldr_cons,
        List.length_append] at ih ⊢
      omega

def contentLine (l : List Char) : Line := Line.styled ("  " ++ String.ofList l) (.colored .white)

theorem conversation_feeds (me : String) (n : Nat) {last : List Char} (hlast : last ≠ [])
    (hflat : '\n' ∉ last) (sender : String) (stamp : Stamp) :
    let m : Message := ⟨sender, String.ofList (List.replicate n '\n' ++ last), stamp⟩
    conversation me [m] =
      (messageHeader me m :: List.replicate n (contentLine [])) ++ [contentLine last, []] := by
  intro m
  have hcontent : Text.lines m.content.toList = List.replicate n [] ++ [last] := by
    rw [String.toList_ofList]
    exact Text.lines_feeds n hlast hflat
  simp [conversation, messageLines, hcontent, contentLine]

/-! ## The window -/

def frame (k : Canvas) (area : Area) (c : Client) : Canvas :=
  k.paintBox area (Line.plain (" " ++ c.title ++ " ")) (borderOf (c.panel == .messages))

theorem over_messages (k : Canvas) (area : Area) (hsome : c.session.messages ≠ []) :
    (messages area c).over k = (frame k area c).paintText area.inner
      (windowLines (conversation c.userName c.session.messages) area.inner.height c.scroll)
      .cut := by
  have hfull : ¬ c.session.messages.isEmpty := by
    rw [List.isEmpty_iff]
    exact hsome
  rw [messages, if_neg hfull]
  rfl

/-- What the panel of a channel shows of its messages: the lines from the start of the window on, as
many as it has rows for, and so the newest ones if the user has not scrolled back.  This needs fewer
than 65536 lines above the window; with more of them the panel shows lines further above. -/
theorem window_shown (k : Canvas) (area : Area) (c : Client) (hsome : c.session.messages ≠ []) :
    let lines := conversation c.userName c.session.messages
    let height := area.inner.height
    let last := lines.length - height
    let start := last - min c.scroll last
    let shown := (messages area c).over k
    lines.length = lineCount c.session.messages ∧
      (start < 65536 → Canvas.Shows area.inner (lines.drop start) (frame k area c) shown ∧
        (c.scroll = 0 → (lines.drop start).length = min lines.length height)) ∧
      (65536 ≤ start → start % 65536 + 65536 ≤ start ∧
        Canvas.Shows area.inner (lines.drop (start % 65536)) (frame k area c) shown) := by
  intro lines height last start shown
  have hshown : Canvas.Shows area.inner (lines.drop (start % 65536)) (frame k area c) shown := by
    simp only [shown, over_messages k area hsome]
    exact Canvas.shows_paintText _ _ _
  refine ⟨length_conversation _ _, fun hnear => ⟨?_, fun hnewest => ?_⟩, fun hfar => ⟨?_, hshown⟩⟩
  · rwa [Nat.mod_eq_of_lt hnear] at hshown
  · rw [List.length_drop]
    omega
  · omega

/-- A message without text and one of three lines, with room for four lines and scrolled back by
one. -/
theorem window_shown_scrolled_back :
    let ms : List Message := [⟨"ann", "", .sent 0⟩, ⟨"bob", "a\nb\nc", .sent 60⟩]
    let c : Client := { session := { messages := ms }, scroll := 1 }
    let area : Area := ⟨0, 0, 10, 6⟩
    let k := Canvas.blank 10 6
    c.session.messages ≠ [] ∧ Canvas.Shows area.inner ((conversation c.userName ms).drop 2)
      (frame k area c) ((messages area c).over k) := by
  intro ms c area k
  have hsome : c.session.messages ≠ [] := List.cons_ne_nil _ _
  have hlength : (conversation c.userName c.session.messages).length = 7 := by decide +kernel
  have hheight : area.inner.height = 4 := rfl
  have hscroll : c.scroll = 1 := rfl
  obtain ⟨-, hnear, -⟩ := window_shown k area c hsome
  simp only [hlength, hheight, hscroll] at hnear
  exact ⟨hsome, (hnear (by decide)).1⟩

/-- A message of 65536 lines, the last of which is due on the first row of the panel.  The panel
shows the sender there, from 65536 lines above. -/
theorem newest_unseen :
    let content := String.ofList (List.replicate 65535 '\n' ++ "newest".toList)
    let c : Client := { session := { messages := [⟨"ann", content, .sent 0⟩] } }
    let area : Area := ⟨0, 0, 10, 4⟩
    let k := Canvas.blank 10 4
    let lines := conversation c.userName c.session.messages
    let last := lines.length - area.inner.height
    c.session.messages ≠ [] ∧ c.scroll = 0 ∧
      ¬ Canvas.Shows area.inner (lines.drop (last - min c.scroll last)) (frame k area c)
        ((messages area c).over k) := by
  intro content c area k lines last
  let header : Line := messageHeader c.userName ⟨"ann", content, .sent 0⟩
  let above : List Line := header :: List.replicate 65535 (contentLine [])
  have hlines : lines = above ++ [contentLine "newest".toList, []] :=
    conversation_feeds c.userName 65535 (by decide) (by decide) "ann" (.sent 0)
  have habove : above.length = 65536 := by
    rw [List.length_cons, List.length_replicate]
  have hlast : last = 65536 := by
    have hlength : lines.length = above.length + 2 := by rw [hlines, List.length_append]; rfl
    have hheight : area.inner.height = 2 := rfl
    omega
  have hstart : last - min c.scroll last = 65536 := by
    have hscroll : c.scroll = 0 := rfl
    omega
  have hwindow : windowLines lines area.inner.height c.scroll = lines := by
    change lines.drop ((last - min c.scroll last) % skipLimit) = lines
    rw [hstart]
    rfl
  have hpainted : Canvas.Shows area.inner lines (frame k area c) ((messages area c).over k) := by
    rw [over_messages k area (List.cons_ne_nil _ _), hwindow]
    exact Canvas.shows_paintText _ _ _
  refine ⟨List.cons_ne_nil _ _, rfl, fun hclaimed => ?_⟩
  have hshown := hpainted.line 0 header (by decide) (by rw [hlines]; rfl)
  have hdue := hclaimed.line 0 (contentLine "newest".toList) (by decide) (by
    rw [hstart, hlines, ← habove, List.drop_left]
    rfl)
  have hparted : ((frame k area c).paintGlyphs 1 1 (cut 8 header.glyphs)).row? 1 ≠
      ((frame k area c).paintGlyphs 1 1 (cut 8 (contentLine "newest".toList).glyphs)).row? 1 := by
    decide +kernel
  exact hparted (hshown.symm.trans hdue)

end View

end ChatTerminal
