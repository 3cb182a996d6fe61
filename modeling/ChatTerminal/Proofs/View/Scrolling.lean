import ChatTerminal.Proofs.View.Window
import Mathlib.Data.List.Induction
/-!
# Scrolling through the messages

Scrolling moves the window on the messages by three lines, or by fewer where there are not as many.
The client counts the lines it is scrolled back without knowing how many there are, so the count
goes on behind the first line, and as many steps downwards show nothing until it is back.  It does
not get there as long as the user scrolls up only while there are lines above the window.
-/

namespace ChatTerminal

inductive Scroll where
  | up
  | down
deriving Repr, DecidableEq

def Client.scrolled (c : Client) : Scroll → Client
  | .up => c.scrollUp
  | .down => c.scrollDown

namespace View

open Screen

/-! ## The start of the window -/

section Start

variable {total height scroll : Nat}

theorem windowStart_eq_zero_iff :
    windowStart total height scroll = 0 ↔ total - height ≤ scroll := by
  rw [windowStart]
  omega

/-- Upwards there is nothing in the way but the first line. -/
theorem windowStart_up (habove : 0 < windowStart total height scroll) :
    ∃ n, 1 ≤ n ∧ n ≤ 3 ∧
      windowStart total height (scroll + 3) + n = windowStart total height scroll := by
  rw [windowStart] at habove
  refine ⟨min 3 (total - height - scroll), ?_, ?_, ?_⟩
  · omega
  · omega
  · rw [windowStart, windowStart]
    omega

/-- Downwards the window moves unless the count is three or more behind the first line. -/
theorem windowStart_down (hbelow : windowStart total height scroll + height < total)
    (hcount : scroll < total - height + 3) :
    ∃ n, 1 ≤ n ∧ n ≤ 3 ∧
      windowStart total height (scroll - 3) = windowStart total height scroll + n := by
  rw [windowStart] at hbelow
  refine ⟨min (total - height) scroll - min (total - height) (scroll - 3), ?_, ?_, ?_⟩
  · omega
  · omega
  · rw [windowStart, windowStart]
    omega

theorem windowStart_stuck (hcount : total - height + 3 ≤ scroll) :
    windowStart total height (scroll - 3) = windowStart total height scroll := by
  rw [windowStart, windowStart]
  omega

end Start

/-! ## The window of a client -/

variable {c : Client} {area : Area}

def linesAbove (area : Area) (c : Client) : Nat :=
  windowStart (lineCount c.session.messages) area.inner.height c.scroll

def linesAboveNewest (area : Area) (c : Client) : Nat :=
  lineCount c.session.messages - area.inner.height

def ShowsFrom (k : Canvas) (area : Area) (c : Client) (start : Nat) : Prop :=
  Canvas.Shows area.inner ((conversation c.userName c.session.messages).drop start)
    (frame k area c) ((messages area c).over k)

theorem showsFrom_linesAbove (k : Canvas) (hsome : c.session.messages ≠ [])
    (hnear : linesAbove area c < 65536) : ShowsFrom k area c (linesAbove area c) := by
  rw [linesAbove, ← length_conversation c.userName] at hnear ⊢
  have hwindow : windowLines (conversation c.userName c.session.messages) area.inner.height
      c.scroll = (conversation c.userName c.session.messages).drop
        (windowStart (conversation c.userName c.session.messages).length area.inner.height
          c.scroll) := by
    rw [windowLines, skipLimit, Nat.mod_eq_of_lt hnear]
  rw [ShowsFrom, over_messages k area hsome, hwindow]
  exact Canvas.shows_paintText _ _ _

/-- A step downwards that leaves the window where it is changes nothing in the panel. -/
theorem messages_scrollDown (hstuck : linesAbove area c.scrollDown = linesAbove area c) :
    messages area c.scrollDown = messages area c := by
  have hwindow : windowLines (conversation c.userName c.session.messages) area.inner.height
      c.scrollDown.scroll =
      windowLines (conversation c.userName c.session.messages) area.inner.height c.scroll := by
    have hstart : windowStart (lineCount c.session.messages) area.inner.height
        c.scrollDown.scroll = linesAbove area c := hstuck
    rw [windowLines, windowLines, length_conversation, hstart, linesAbove]
  unfold messages
  dsimp only
  rw [show c.scrollDown.session = c.session from rfl,
    show c.scrollDown.userName = c.userName from rfl, hwindow]
  rfl

theorem messages_ne_nil_of_above (h : 0 < linesAbove area c) : c.session.messages ≠ [] := by
  intro hnone
  rw [linesAbove, hnone, windowStart] at h
  simp [lineCount] at h

theorem messages_ne_nil_of_below
    (h : linesAbove area c + area.inner.height < lineCount c.session.messages) :
    c.session.messages ≠ [] := by
  intro hnone
  rw [hnone, lineCount, List.foldr_nil] at h
  exact absurd h (Nat.not_lt_zero _)

/-! ## Histories -/

theorem session_scrolled (c : Client) (steps : List Scroll) :
    (steps.foldl Client.scrolled c).session = c.session := by
  induction steps generalizing c with
  | nil => rfl
  | cons step steps ih =>
      rw [List.foldl_cons, ih]
      cases step <;> rfl

theorem linesAboveNewest_scrolled (area : Area) (c : Client) (steps : List Scroll) :
    linesAboveNewest area (steps.foldl Client.scrolled c) = linesAboveNewest area c := by
  rw [linesAboveNewest, session_scrolled, linesAboveNewest]

def StopsAtFirst (area : Area) (c : Client) (steps : List Scroll) : Prop :=
  ∀ before after, steps = before ++ .up :: after →
    0 < linesAbove area (before.foldl Client.scrolled c)

theorem scroll_lt_of_stopsAtFirst {steps : List Scroll} (h : StopsAtFirst area c steps)
    (hstart : c.scroll < linesAboveNewest area c + 3) :
    (steps.foldl Client.scrolled c).scroll < linesAboveNewest area c + 3 := by
  induction steps using List.reverseRecOn with
  | nil => exact hstart
  | append_singleton steps step ih =>
      have hearlier : StopsAtFirst area c steps := by
        rintro before after rfl
        exact h before (after ++ [step]) (by simp)
      have hbefore := ih hearlier
      rw [List.foldl_append, List.foldl_cons, List.foldl_nil]
      cases step with
      | down => exact lt_of_le_of_lt (Nat.sub_le _ _) hbefore
      | up =>
          have habove : 0 < linesAbove area (steps.foldl Client.scrolled c) := h steps [] rfl
          have hcount : (steps.foldl Client.scrolled c).scroll < linesAboveNewest area c := by
            rw [← linesAboveNewest_scrolled area c steps]
            by_contra hbeyond
            exact habove.ne' (windowStart_eq_zero_iff.mpr (not_lt.mp hbeyond))
          exact Nat.add_lt_add_right hcount 3

/-- After any steps, a step upwards moves the window if there are lines above it, and a step
downwards if there are lines below it and the count is fewer than three lines behind the first one;
either moves it by one to three lines.  The count is there unless some step upwards was made while
the window began at the first line; then the next step downwards changes nothing on the screen.
What the panel shows of a window is its lines as long as there are fewer than 65536 above it. -/
theorem scrolling_responds (k : Canvas) (area : Area) (c : Client) (steps : List Scroll) :
    let d := steps.foldl Client.scrolled c
    let start := linesAbove area d
    (0 < start → start < 65536 →
      ∃ n, 1 ≤ n ∧ n ≤ 3 ∧ linesAbove area d.scrollUp + n = start ∧
        ShowsFrom k area d start ∧ ShowsFrom k area d.scrollUp (start - n)) ∧
    (start + area.inner.height < lineCount d.session.messages →
      d.scroll < linesAboveNewest area d + 3 → ∃ n, 1 ≤ n ∧ n ≤ 3 ∧
        linesAbove area d.scrollDown = start + n ∧
        (start + n < 65536 → ShowsFrom k area d start ∧
          ShowsFrom k area d.scrollDown (start + n))) ∧
    (linesAboveNewest area d + 3 ≤ d.scroll →
      (messages area d.scrollDown).over k = (messages area d).over k) ∧
    (StopsAtFirst area c steps → c.scroll < linesAboveNewest area c + 3 →
      d.scroll < linesAboveNewest area d + 3) := by
  intro d start
  refine ⟨fun habove hnear => ?_, fun hbelow hcount => ?_, fun hcount => ?_, fun h hstart => ?_⟩
  · have hsome : d.session.messages ≠ [] := messages_ne_nil_of_above habove
    obtain ⟨n, hleast, hmost, hmoved⟩ := windowStart_up habove
    have hup : linesAbove area d.scrollUp + n = start := hmoved
    have htarget : linesAbove area d.scrollUp = start - n := by omega
    have hshown : ShowsFrom k area d.scrollUp (start - n) := by
      rw [← htarget]
      exact showsFrom_linesAbove k hsome (by omega)
    exact ⟨n, hleast, hmost, hup, showsFrom_linesAbove k hsome hnear, hshown⟩
  · have hsome : d.session.messages ≠ [] := messages_ne_nil_of_below hbelow
    obtain ⟨n, hleast, hmost, hmoved⟩ := windowStart_down hbelow hcount
    have hdown : linesAbove area d.scrollDown = start + n := hmoved
    refine ⟨n, hleast, hmost, hdown, fun hnear => ⟨showsFrom_linesAbove k hsome (by omega), ?_⟩⟩
    rw [← hdown] at hnear ⊢
    exact showsFrom_linesAbove k hsome hnear
  · have hstuck : linesAbove area d.scrollDown = linesAbove area d := windowStart_stuck hcount
    rw [messages_scrollDown hstuck]
  · rw [linesAboveNewest_scrolled]
    exact scroll_lt_of_stopsAtFirst h hstart

/-- Seven lines on a panel of four rows: a step upwards takes the window from the newest line to the
first one, and a step downwards takes it back. -/
theorem scrolling_responds_on_two_messages :
    let ms : List Message := [⟨"ann", "", .sent 0⟩, ⟨"bob", "a\nb\nc", .sent 60⟩]
    let c : Client := { session := { messages := ms } }
    let area : Area := ⟨0, 0, 10, 6⟩
    let k := Canvas.blank 10 6
    ShowsFrom k area c 3 ∧ ShowsFrom k area c.scrollUp 0 ∧
      ShowsFrom k area c.scrollUp.scrollDown 3 := by
  intro ms c area k
  have hnewest : linesAbove area c = 3 := by decide +kernel
  have hfirst : linesAbove area c.scrollUp = 0 := by decide +kernel
  have hback : linesAbove area c.scrollUp.scrollDown = 3 := by decide +kernel
  have hstops : StopsAtFirst area c [.up] := by
    rintro before after hsplit
    obtain rfl : before = [] := by
      rcases before with _ | ⟨step, before⟩
      · rfl
      · simp at hsplit
    exact hnewest ▸ Nat.zero_lt_succ 2
  obtain ⟨hup, -⟩ := scrolling_responds k area c []
  obtain ⟨-, hdown, -, hcount⟩ := scrolling_responds k area c [.up]
  obtain ⟨n, -, -, hmoved, hshown, hshownUp⟩ := hup (by rw [List.foldl_nil, hnewest]; decide)
    (by rw [List.foldl_nil, hnewest]; decide)
  obtain ⟨m, -, -, hmovedDown, hshownDown⟩ := hdown (by decide +kernel)
    (hcount hstops (by decide +kernel))
  simp only [List.foldl_nil, List.foldl_cons, Client.scrolled, hnewest, hfirst, hback] at *
  obtain rfl : n = 3 := by omega
  obtain rfl : m = 3 := by omega
  exact ⟨hshown, hshownUp, (hshownDown (by decide)).2⟩

/-- Seven lines on a panel of four rows: after two steps upwards the next step downwards does not
move the window. -/
theorem scroll_unanswered :
    let ms : List Message := [⟨"ann", "", .sent 0⟩, ⟨"bob", "a\nb\nc", .sent 60⟩]
    let c : Client := { session := { messages := ms } }
    let d := [Scroll.up, .up].foldl Client.scrolled c
    let area : Area := ⟨0, 0, 10, 6⟩
    let k := Canvas.blank 10 6
    linesAbove area d + area.inner.height < lineCount d.session.messages ∧
      ∀ n, 1 ≤ n → n ≤ 3 → ¬ ShowsFrom k area d.scrollDown (linesAbove area d + n) := by
  intro ms c d area k
  have hbefore : linesAbove area d = 0 := by decide +kernel
  have hafter : linesAbove area d.scrollDown = 0 := by decide +kernel
  refine ⟨by decide +kernel, fun n hleast hmost hclaimed => ?_⟩
  have hshown : ShowsFrom k area d.scrollDown 0 := by
    rw [← hafter]
    exact showsFrom_linesAbove k (List.cons_ne_nil _ _) (by rw [hafter]; decide)
  rw [hbefore, Nat.zero_add] at hclaimed
  let row (l : Line) := ((frame k area d).paintGlyphs 1 1 (cut 8 l.glyphs)).row? 1
  let header : Line := messageHeader d.userName ⟨"ann", "", .sent 0⟩
  have hparted : ∀ l, ((conversation d.userName ms).drop n)[0]? = some l → row header = row l :=
    fun l hl => (hshown.line 0 header (by decide) rfl).symm.trans (hclaimed.line 0 l (by decide) hl)
  obtain rfl | rfl | rfl : n = 1 ∨ n = 2 ∨ n = 3 := by omega
  · exact absurd (hparted [] rfl) (by decide +kernel)
  · exact absurd (hparted (messageHeader d.userName ⟨"bob", "a\nb\nc", .sent 60⟩) rfl)
      (by decide +kernel)
  · exact absurd (hparted (contentLine ['a']) rfl) (by decide +kernel)

end View

end ChatTerminal
