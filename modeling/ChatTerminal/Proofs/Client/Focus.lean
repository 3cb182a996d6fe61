import ChatTerminal.Client
import ChatTerminal.Key
/-!
# The text field with the keyboard

What is on display decides which text field the keys go to, if they go to one at all.  The client
is then that field and the rest: the field can be read and replaced on its own.
-/

namespace ChatTerminal

open Text

namespace TextField

def typed (f : TextField) (text : List Char) : TextField :=
  f.withSplit (f.split.1 ++ text) f.split.2

variable {f : TextField}

instance : Decidable f.WellPlaced := inferInstanceAs (Decidable (_ = _))

theorem toList_typed (f : TextField) (text : List Char) :
    (f.typed text).value.toList = f.split.1 ++ text ++ f.split.2 :=
  String.toList_ofList

theorem split_typed (f : TextField) (text : List Char) :
    (f.typed text).split = (f.split.1 ++ text, f.split.2) := by
  rw [split, toList_typed]
  exact splitAtByte_append _ _

theorem cursor_typed (f : TextField) (text : List Char) :
    (f.typed text).cursor = byteLength f.split.1 + byteLength text :=
  byteLength_append _ _

theorem insert_typed (f : TextField) (text : List Char) (c : Char) :
    (f.typed text).insert c = f.typed (text ++ [c]) := by
  unfold insert
  simp only [split_typed, List.append_assoc]
  rfl

theorem insert_eq_typed (f : TextField) (c : Char) : f.insert c = f.typed [c] := rfl

theorem toList_value (f : TextField) : f.value.toList = f.split.1 ++ f.split.2 :=
  (splitAtByte_join f.cursor f.value.toList).symm

/-- `g` is `f` with a text put in at the cursor, and the cursor of `g` is right behind the text. -/
structure Typed (text : List Char) (f g : TextField) : Prop where
  value : g.value.toList = f.split.1 ++ text ++ f.split.2
  split : g.split = (f.split.1 ++ text, f.split.2)
  cursor : f.WellPlaced → g.cursor = f.cursor + byteLength text
  masked : g.masked = f.masked

theorem Typed.nil (f : TextField) : Typed [] f f where
  value := by rw [List.append_nil, ← toList_value]
  split := by rw [List.append_nil]
  cursor _ := rfl
  masked := rfl

/-- Where the cursor stands between characters, this says all of `g`. -/
theorem Typed.eq_typed {text : List Char} {g : TextField} (h : Typed text f g)
    (hplaced : f.WellPlaced) : g = f.typed text := by
  obtain ⟨value, cursor, masked⟩ := g
  obtain ⟨hvalue, -, hcursor, rfl⟩ := h
  obtain rfl : cursor = (f.typed text).cursor := by
    rw [cursor_typed, hplaced]
    exact hcursor hplaced
  obtain rfl : value = (f.typed text).value :=
    String.toList_injective (hvalue.trans (f.toList_typed text).symm)
  rfl

theorem typed_spec (f : TextField) (text : List Char) : Typed text f (f.typed text) where
  value := f.toList_typed text
  split := f.split_typed text
  cursor hplaced := by rw [cursor_typed, hplaced]
  masked := rfl

end TextField

namespace SignIn

variable (f : SignIn) (which : Field)

@[simp] theorem field_setField (t : TextField) : (f.setField which t).field which = t := by
  cases which <;> rfl

@[simp] theorem setField_field : f.setField which (f.field which) = f := by
  cases which <;> rfl

@[simp] theorem setField_setField (t u : TextField) :
    (f.setField which t).setField which u = f.setField which u := by
  cases which <;> rfl

@[simp] theorem focus_setField (t : TextField) : (f.setField which t).focus = f.focus := by
  cases which <;> rfl

@[simp] theorem loading_setField (t : TextField) : (f.setField which t).loading = f.loading := by
  cases which <;> rfl

end SignIn

namespace Profile

def withdrawn (p : Profile) : Profile :=
  { p with armed := false, error := if p.armed then "" else p.error }

theorem cancelDelete_eq (p : Profile) : p.cancelDelete = p.withdrawn := by
  cases p with
  | mk name email password focus error message loading savedName savedEmail armed =>
      cases armed <;> rfl

@[simp] theorem focus_withdrawn (p : Profile) : p.withdrawn.focus = p.focus := rfl

variable (p : Profile) (which : Field)

@[simp] theorem field_setField (t : TextField) : (p.setField which t).field which = t := by
  cases which <;> rfl

@[simp] theorem setField_field : p.setField which (p.field which) = p := by
  cases which <;> rfl

@[simp] theorem setField_setField (t u : TextField) :
    (p.setField which t).setField which u = p.setField which u := by
  cases which <;> rfl

@[simp] theorem focus_setField (t : TextField) : (p.setField which t).focus = p.focus := by
  cases which <;> rfl

@[simp] theorem loading_setField (t : TextField) : (p.setField which t).loading = p.loading := by
  cases which <;> rfl

@[simp] theorem field_withdrawn : p.withdrawn.field which = p.field which := by
  cases which <;> rfl

@[simp] theorem withdrawn_setField (t : TextField) :
    (p.setField which t).withdrawn = p.withdrawn.setField which t := by
  cases which <;> rfl

@[simp] theorem withdrawn_withdrawn : p.withdrawn.withdrawn = p.withdrawn := by
  simp [withdrawn]

end Profile

namespace Client

inductive Focus where
  | signIn (which : SignIn.Field)
  | overlay (which : Profile.Field)
  | prompt (which : Prompt)
  | draft
deriving Repr, DecidableEq

/-- The field that the keys go to: on the sign-in page and in the overlay the one with the focus,
unless these wait for the server; else that of the open prompt; else the draft, if its panel has the
keyboard. -/
def focus? (c : Client) : Option Focus :=
  match c.page with
  | .loading _ => none
  | .signIn => if c.signIn.loading then none else some (.signIn c.signIn.focus)
  | .chat =>
    match c.profile, c.prompt with
    | some p, _ => if p.loading then none else some (.overlay p.focus)
    | none, some prompt => some (.prompt prompt)
    | none, none => if c.panel = .input then some .draft else none

def fieldOf (c : Client) : Focus → TextField
  | .signIn which => c.signIn.field which
  | .overlay which => (c.profile.map (·.field which)).getD {}
  | .prompt .newChannel => c.newChannelName
  | .prompt .search => c.searchQuery
  | .draft => c.draft

def withField (c : Client) (focus : Focus) (f : TextField) : Client :=
  match focus with
  | .signIn which => c.onSignIn (·.setField which f)
  | .overlay which => c.onProfile (·.setField which f)
  | .prompt .newChannel => { c with newChannelName := f }
  | .prompt .search => { c with searchQuery := f }
  | .draft => { c with draft := f }

/-- What a key into a field does to the rest of the client: in the overlay it withdraws a pending
confirmation, elsewhere nothing. -/
def withdrawn (c : Client) : Focus → Client
  | .overlay _ => c.onProfile Profile.withdrawn
  | _ => c

variable {c : Client} {focus : Focus}

/-! ## What has the keyboard -/

theorem focus?_eq_signIn_iff {which : SignIn.Field} : c.focus? = some (.signIn which) ↔
    c.page = .signIn ∧ c.signIn.loading = false ∧ c.signIn.focus = which := by
  unfold focus?
  grind

theorem focus?_eq_overlay_iff {which : Profile.Field} : c.focus? = some (.overlay which) ↔
    c.page = .chat ∧ ∃ p, c.profile = some p ∧ p.loading = false ∧ p.focus = which := by
  unfold focus?
  grind

theorem focus?_eq_prompt_iff {which : Prompt} : c.focus? = some (.prompt which) ↔
    c.page = .chat ∧ c.profile = none ∧ c.prompt = some which := by
  unfold focus?
  grind

theorem focus?_eq_draft_iff : c.focus? = some .draft ↔
    c.page = .chat ∧ c.profile = none ∧ c.prompt = none ∧ c.panel = .input := by
  unfold focus?
  grind

/-! ## The field and the rest -/

@[simp] theorem focus?_withField (c : Client) (focus : Focus) (f : TextField) :
    (c.withField focus f).focus? = c.focus? := by
  cases focus with
  | signIn which =>
      unfold withField onSignIn focus?
      simp only [SignIn.loading_setField, SignIn.focus_setField]
  | overlay which => cases hprofile : c.profile <;> simp [withField, onProfile, focus?, hprofile]
  | prompt which => cases which <;> rfl
  | draft => rfl

@[simp] theorem focus?_withdrawn (c : Client) (focus : Focus) :
    (c.withdrawn focus).focus? = c.focus? := by
  cases focus with
  | overlay which =>
      cases hprofile : c.profile <;>
        simp [withdrawn, Profile.withdrawn, onProfile, focus?, hprofile]
  | _ => rfl

@[simp] theorem withField_fieldOf (c : Client) (focus : Focus) :
    c.withField focus (c.fieldOf focus) = c := by
  cases focus with
  | signIn which => simp [withField, onSignIn, fieldOf]
  | overlay which =>
      have hsame : c.profile.map (·.setField which (c.fieldOf (.overlay which))) = c.profile := by
        cases hprofile : c.profile <;> simp [fieldOf, hprofile]
      rw [withField, onProfile, hsame]
  | prompt which => cases which <;> rfl
  | draft => rfl

@[simp] theorem withField_withField (c : Client) (focus : Focus) (f g : TextField) :
    (c.withField focus f).withField focus g = c.withField focus g := by
  cases focus with
  | signIn which => simp [withField, onSignIn]
  | overlay which => simp [withField, onProfile, Function.comp_def]
  | prompt which => cases which <;> rfl
  | draft => rfl

@[simp] theorem withdrawn_withField (c : Client) (focus : Focus) (f : TextField) :
    (c.withField focus f).withdrawn focus = (c.withdrawn focus).withField focus f := by
  cases focus with
  | overlay which => simp [withField, withdrawn, onProfile, Function.comp_def]
  | _ => rfl

@[simp] theorem withdrawn_withdrawn (c : Client) (focus : Focus) :
    (c.withdrawn focus).withdrawn focus = c.withdrawn focus := by
  cases focus with
  | overlay which => simp [withdrawn, onProfile, Function.comp_def]
  | _ => rfl

/-- What was put into the field with the keyboard is in it.  Only the overlay has fields that are
not there at times. -/
theorem fieldOf_withField (hfocus : c.focus? = some focus) (f : TextField) :
    (c.withField focus f).fieldOf focus = f := by
  cases focus with
  | signIn which => simp [withField, onSignIn, fieldOf]
  | overlay which =>
      obtain ⟨-, p, hopen, -⟩ := focus?_eq_overlay_iff.mp hfocus
      simp [withField, onProfile, fieldOf, hopen]
  | prompt which => cases which <;> rfl
  | draft => rfl

/-! ## Typing -/

def typed (c : Client) (focus : Focus) (text : List Char) : Client :=
  if text = [] then c else (c.withdrawn focus).withField focus ((c.fieldOf focus).typed text)

@[simp] theorem focus?_typed (c : Client) (focus : Focus) (text : List Char) :
    (c.typed focus text).focus? = c.focus? := by
  unfold typed
  split <;> simp

theorem fieldOf_typed (hfocus : c.focus? = some focus) {text : List Char} (hsome : text ≠ []) :
    (c.typed focus text).fieldOf focus = (c.fieldOf focus).typed text := by
  have hthere : (c.withdrawn focus).focus? = some focus := by rw [focus?_withdrawn, hfocus]
  rw [typed, if_neg hsome, fieldOf_withField hthere]

/-- One more character.  A pending confirmation is withdrawn with the first one, and none is pending
when the others come. -/
theorem typed_typed (hfocus : c.focus? = some focus) (text : List Char) (ch : Char) :
    (c.typed focus text).typed focus [ch] = c.typed focus (text ++ [ch]) := by
  by_cases hsome : text = []
  · rw [hsome]
    rfl
  · have hrest : (c.typed focus text).withdrawn focus = c.typed focus text := by
      rw [typed, if_neg hsome, withdrawn_withField, withdrawn_withdrawn]
    have hfield : ((c.typed focus text).fieldOf focus).typed [ch] =
        (c.fieldOf focus).typed (text ++ [ch]) := by
      rw [fieldOf_typed hfocus hsome, ← TextField.insert_eq_typed, TextField.insert_typed]
    calc (c.typed focus text).typed focus [ch]
        = (c.typed focus text).withField focus ((c.fieldOf focus).typed (text ++ [ch])) := by
          rw [typed, if_neg (List.cons_ne_nil ch []), hrest, hfield]
      _ = c.typed focus (text ++ [ch]) := by
          rw [typed, if_neg hsome, withField_withField, typed, if_neg (by simp)]

theorem editPrompt_insert {which : Prompt} (hprompt : c.prompt = some which) (ch : Char) :
    c.editPrompt (·.insert ch) = c.typed (.prompt which) [ch] := by
  cases c
  cases hprompt
  cases which <;> rfl

/-- A character for the overlay.  A pending confirmation is taken back first. -/
theorem editOverlay_insert {p : Profile} (hopen : c.profile = some p) (ch : Char) :
    c.onProfile ((·.edit (·.insert ch)) ∘ Profile.cancelDelete) =
      c.typed (.overlay p.focus) [ch] := by
  have hedit : p.cancelDelete.edit (·.insert ch) =
      p.withdrawn.setField p.focus ((p.field p.focus).typed [ch]) := by
    rw [Profile.cancelDelete_eq, Profile.edit, Profile.focus_withdrawn, Profile.field_withdrawn,
      TextField.insert_eq_typed]
  simp [onProfile, typed, withdrawn, withField, fieldOf, hopen, hedit]

theorem typed_field (hfocus : c.focus? = some focus) (text : List Char) :
    TextField.Typed text (c.fieldOf focus) ((c.typed focus text).fieldOf focus) := by
  by_cases hsome : text = []
  · rw [hsome]
    exact TextField.Typed.nil _
  · rw [fieldOf_typed hfocus hsome]
    exact TextField.typed_spec _ text

theorem typed_rest (hfocus : c.focus? = some focus) (text : List Char) :
    c.typed focus text = (if text = [] then c else c.withdrawn focus).withField focus
      ((c.typed focus text).fieldOf focus) := by
  by_cases hsome : text = []
  · rw [hsome, if_pos rfl]
    exact (withField_fieldOf c focus).symm
  · rw [fieldOf_typed hfocus hsome, if_neg hsome, typed, if_neg hsome]

end Client

end ChatTerminal
