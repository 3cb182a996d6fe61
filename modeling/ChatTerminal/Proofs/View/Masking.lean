import ChatTerminal.Proofs.Client.Masked
import ChatTerminal.View
/-!
# What a screen shows of masked fields

Of a masked field a screen shows as many bullets as there are characters, and the cursor behind
those of them that stand before it.  Two clients whose masked fields agree in these two numbers,
and which agree in everything else, cannot be told apart on any screen.
-/

namespace ChatTerminal

structure TextField.Twin (f g : TextField) : Prop where
  masked : g.masked = f.masked
  length : g.value.length = f.value.length
  before : g.split.1.length = f.split.1.length

theorem TextField.Twin.display {f g : TextField} (h : f.Twin g) (hidden : f.masked = true) :
    g.display = f.display := by
  rw [TextField.display, TextField.display, h.masked, hidden, h.length]
  rfl

theorem TextField.Twin.column {f g : TextField} (h : f.Twin g) : g.column = f.column := by
  rw [TextField.column, TextField.column, h.before]

def SignIn.Twin (f g : SignIn) : Prop :=
  ∃ password newPassword confirmPassword : TextField,
    f.password.Twin password ∧ f.newPassword.Twin newPassword ∧
      f.confirmPassword.Twin confirmPassword ∧
      g = { f with
        password := password
        newPassword := newPassword
        confirmPassword := confirmPassword }

def Profile.Twin (p q : Profile) : Prop :=
  ∃ password : TextField, p.password.Twin password ∧ q = { p with password := password }

def Client.Twin (c d : Client) : Prop :=
  ∃ signIn profile, c.signIn.Twin signIn ∧ Option.Rel Profile.Twin c.profile profile ∧
    d = { c with signIn := signIn, profile := profile }

namespace View

open Screen

/-! ## Forms -/

def Entry.look (e : Entry) : String × Bool × String × Nat :=
  (e.label, e.focused, e.field.display, e.field.column)

theorem Entry.lines_of_look {e e' : Entry} (h : e'.look = e.look) : e'.lines = e.lines := by
  obtain ⟨hlabel, hfocused, hdisplay, -⟩ : e'.label = e.label ∧ e'.focused = e.focused ∧
      e'.field.display = e.field.display ∧ e'.field.column = e.field.column := by
    simpa [Entry.look] using h
  rw [Entry.lines, Entry.lines, Entry.style, Entry.style, hlabel, hfocused, hdisplay]

section Looks

variable {es es' : List Entry} (h : es'.map Entry.look = es.map Entry.look)

include h

theorem lines_of_looks : es'.flatMap Entry.lines = es.flatMap Entry.lines := by
  induction es generalizing es' with
  | nil => rw [List.map_eq_nil_iff.mp h]
  | cons e es ih =>
      obtain ⟨e', es', rfl, hlook, hrest⟩ := List.map_eq_cons_iff.mp h
      rw [List.flatMap_cons, List.flatMap_cons, Entry.lines_of_look hlook, ih hrest]

theorem cursorOf_of_looks (inner : Area) (first : Nat) :
    cursorOf inner first es' = cursorOf inner first es := by
  -- The focused entry is found, and its cursor placed, by the looks of the entries alone.
  have hlook : ∀ es : List Entry, cursorOf inner first es =
      ((((es.map Entry.look).zipIdx.filter fun (l, _) => l.2.1).getLast?).map fun (l, i) =>
        (inner.x + 2 + l.2.2.2, inner.y + first + 2 * i + 1)) := by
    intro es
    rw [cursorOf, List.zipIdx_map, List.filter_map, List.getLast?_map, Option.map_map]
    rfl
  rw [hlook, hlook, h]

end Looks

theorem signIn_twin {f g : SignIn} (h : f.Twin g) (hidden : f.Masked) (screen : Area) :
    signIn screen g = signIn screen f := by
  obtain ⟨password, newPassword, confirmPassword, hold, hnew, hagain, rfl⟩ := h
  have hlooks : (signInEntries { f with
      password := password
      newPassword := newPassword
      confirmPassword := confirmPassword }).map Entry.look =
      (signInEntries f).map Entry.look := by
    unfold signInEntries
    dsimp only
    split
    · simp [Entry.look, SignIn.field, hold.display hidden.password, hold.column]
    · simp [Entry.look, SignIn.field, hnew.display hidden.newPassword, hnew.column,
        hagain.display hidden.confirmPassword, hagain.column]
  unfold signIn signInLines
  dsimp only
  rw [lines_of_looks hlooks, cursorOf_of_looks hlooks]

theorem profile_twin {p q : Profile} (h : p.Twin q) (hidden : p.Masked)
    (screen : Area) : profile screen q = profile screen p := by
  obtain ⟨password, hpassword, rfl⟩ := h
  have hlooks : (profileEntries { p with password := password }).map Entry.look =
      (profileEntries p).map Entry.look := by
    simp [profileEntries, Entry.look, Profile.field, hpassword.display hidden, hpassword.column]
  unfold profile profileLines
  dsimp only
  rw [lines_of_looks hlooks, cursorOf_of_looks hlooks]

/-! ## Pages -/

/-- The chat page shows nothing of the form, and of the overlay, below it, whether it is open. -/
theorem body_twin (c : Client) (f : SignIn) {overlay : Option Profile}
    (h : overlay.isNone = c.profile.isNone) (area : Area) :
    body area { c with signIn := f, profile := overlay } = body area c := by
  have hdraft : ∀ area, draft area { c with signIn := f, profile := overlay } = draft area c := by
    intro area
    unfold draft
    dsimp only
    rw [h]
    rfl
  unfold body channelPage
  simp only [hdraft]
  rfl

theorem chat_twin {c d : Client} (h : c.Twin d) (hidden : c.Masked) (screen : Area) :
    chat screen d = chat screen c := by
  obtain ⟨f, overlay, -, hoverlay, rfl⟩ := h
  have hbody : ∀ area, body area { c with signIn := f, profile := overlay } = body area c := by
    refine body_twin c f ?_
    generalize c.profile = overlay' at hoverlay ⊢
    cases hoverlay <;> rfl
  unfold chat
  simp only [hbody]
  generalize hopen : c.profile = overlay' at hoverlay
  cases hoverlay with
  | none => rfl
  | some hp =>
      dsimp only
      rw [profile_twin hp (hidden.profile _ hopen)]
      rfl

/-- No screen tells two clients apart that differ in the texts of hidden passwords. -/
theorem draw_twin {c d : Client} (h : c.Twin d) (hidden : c.Masked) (width height : Nat) :
    draw d width height = draw c width height := by
  have hscene : scene d width height = scene c width height := by
    have hchat := chat_twin h hidden
    obtain ⟨f, overlay, hform, -, rfl⟩ := h
    unfold scene
    dsimp only
    split
    · rfl
    · exact signIn_twin hform hidden.signIn _
    · exact hchat _
  rw [draw, draw, hscene]

end View

end ChatTerminal
