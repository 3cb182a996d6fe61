import ChatTerminal.Key
import ChatTerminal.Profile
import ChatTerminal.Proofs.Text.Pieces
/-!
# What the profile overlay holds and sends

A text of the overlay changes when a key is typed into its field, or when the overlay is filled.
The texts are compared with what the server knows after their surrounding blanks are taken off,
while what the server knows is kept as it came.  So a profile that nobody edited counts as unchanged
exactly if the server's texts have no blanks around them.
-/

namespace ChatTerminal

def Key.Types (k : Key) : Prop :=
  k.control = false ∧ ((∃ c, k.code = .char c) ∨ k.code = .backspace)

theorem TextField.value_press (t : TextField) {code : Key.Code}
    (h : ¬ ((∃ c, code = .char c) ∨ code = .backspace)) : (t.press code).value = t.value := by
  cases code with
  | char c => exact absurd (.inl ⟨c, rfl⟩) h
  | backspace => exact absurd (.inr rfl) h
  | _ => rfl

def UserRecord.text? (u : UserRecord) : Profile.Field → Option String
  | .name => u.name
  | .email => u.email
  | .password => none

namespace Profile

variable {p q : Profile} {f : Field} {name email : String} {sent : Update}

/-! ## Texts -/

def text (p : Profile) (f : Field) : String := (p.field f).value

theorem text_eq (hname : q.name = p.name) (hemail : q.email = p.email)
    (hpassword : q.password = p.password) (f : Field) : q.text f = p.text f := by
  cases f with
  | name => exact congrArg TextField.value hname
  | email => exact congrArg TextField.value hemail
  | password => exact congrArg TextField.value hpassword

theorem text_cancelDelete (p : Profile) (f : Field) : p.cancelDelete.text f = p.text f := by
  unfold cancelDelete
  split
  · exact text_eq rfl rfl rfl f
  · rfl

theorem focus_cancelDelete (p : Profile) : p.cancelDelete.focus = p.focus := by
  unfold cancelDelete
  split <;> rfl

theorem field_edit (p : Profile) (change : TextField → TextField) (f : Field) :
    (p.edit change).field f = if f = p.focus then change (p.field f) else p.field f := by
  unfold edit setField
  cases hfocus : p.focus <;> cases f <;> rfl

theorem text_edit_of_ne (change : TextField → TextField) (h : f ≠ p.focus) :
    (p.edit change).text f = p.text f := by
  rw [text, field_edit, if_neg h]
  rfl

/-- A key that types nothing leaves all texts alone. -/
theorem text_edit_press {code : Key.Code} (h : ¬ ((∃ c, code = .char c) ∨ code = .backspace))
    (f : Field) : (p.edit (·.press code)).text f = p.text f := by
  rw [text, field_edit]
  split
  · exact TextField.value_press _ h
  · rfl

theorem text_load (record : UserRecord) (hf : f ≠ .password) :
    (p.load record).text f = (record.text? f).getD "" := by
  cases f with
  | name => rfl
  | email => rfl
  | password => exact absurd rfl hf

/-! ## Updates -/

def draft (p : Profile) : Update :=
  let password := Text.trim p.password.value
  ⟨Text.trim p.name.value, Text.trim p.email.value,
    if password.isEmpty then none else some password⟩

def Unchanged (p : Profile) : Prop :=
  Text.trim p.name.value = p.savedName ∧ Text.trim p.email.value = p.savedEmail ∧
    Text.trim p.password.value = ""

theorem update_of_unchanged (h : p.Unchanged) : p.update = .error .nothingChanged := by
  obtain ⟨hname, hemail, hpassword⟩ := h
  exact if_pos ⟨hname, hemail, by rw [hpassword]; rfl⟩

theorem update_of_changed (h : ¬ p.Unchanged) : p.update = .ok p.draft := by
  refine if_neg fun hsame => h ⟨hsame.1, hsame.2.1, ?_⟩
  simpa using hsame.2.2

theorem update_eq_nothingChanged_iff : p.update = .error .nothingChanged ↔ p.Unchanged := by
  by_cases h : p.Unchanged
  · exact iff_of_true (update_of_unchanged h) h
  · refine iff_of_false (fun hrefused => ?_) h
    cases hrefused.symm.trans (update_of_changed h)

theorem eq_draft_of_update (h : p.update = .ok sent) : sent = p.draft := by
  by_cases hsame : p.Unchanged
  · cases h.symm.trans (update_of_unchanged hsame)
  · exact Except.ok.inj (h.symm.trans (update_of_changed hsame))

theorem trimmed_of_update (h : p.update = .ok sent) :
    Text.trim sent.name = sent.name ∧ Text.trim sent.email = sent.email := by
  rw [eq_draft_of_update h]
  exact ⟨Text.trim_trim _, Text.trim_trim _⟩

/-- The password is sent only if it is not blank. -/
theorem password_draft (p : Profile) :
    p.draft.password = some (Text.trim p.password.value) ∧ Text.trim p.password.value ≠ "" ∨
      p.draft.password = none ∧ Text.trim p.password.value = "" := by
  unfold draft
  dsimp only
  split
  · rename_i hempty
    exact .inr ⟨rfl, String.isEmpty_iff.mp hempty⟩
  · rename_i hpresent
    exact .inl ⟨rfl, fun hempty => hpresent (String.isEmpty_iff.mpr hempty)⟩

def Update.text (sent : Update) : Field → String
  | .name => sent.name
  | .email => sent.email
  | .password => sent.password.getD ""

theorem text_draft (p : Profile) (f : Field) : p.draft.text f = Text.trim (p.text f) := by
  cases f with
  | name => rfl
  | email => rfl
  | password =>
      unfold Update.text draft
      dsimp only
      split
      · rename_i hempty
        exact (String.isEmpty_iff.mp hempty).symm
      · rfl

/-- What the answer to a save says of a field, if it names a user and does not leave the field
out. -/
def answered? (answer : Option UserRecord) (f : Field) : Option String :=
  (answer.filter (·.identity?.isSome)).bind (·.text? f)

theorem text_saved (sent : Update) (answer : Option UserRecord) (hf : f ≠ .password) :
    (p.saved sent answer).text f = (answered? answer f).getD (sent.text f) := by
  unfold saved afterSave answered?
  cases answer.filter (·.identity?.isSome) with
  | none =>
      cases f with
      | name => rfl
      | email => rfl
      | password => exact absurd rfl hf
  | some record =>
      cases f with
      | name => rfl
      | email => rfl
      | password => exact absurd rfl hf

/-! ## Profiles that nobody edited -/

/-- The overlay as the server's record, or the answer to a save, has left it, with the name and the
email that it was filled with. -/
inductive Filled : Profile → String → String → Prop where
  | loaded (record : UserRecord) :
      Filled (({} : Profile).load record) (record.name.getD "") (record.email.getD "")
  | saved (p : Profile) (sent : Update) (answer : Option UserRecord) :
      Filled (p.saved sent answer) (afterSave sent answer).1 (afterSave sent answer).2

/-- The texts of `q` are those of `p` up to blanks around them, and so is the password. -/
structure Reblanked (p q : Profile) : Prop where
  name : Text.trim q.name.value = Text.trim p.name.value
  email : Text.trim q.email.value = Text.trim p.email.value
  password : Text.trim q.password.value = Text.trim p.password.value
  savedName : q.savedName = p.savedName
  savedEmail : q.savedEmail = p.savedEmail

/-- What is filled in is also what is kept to compare with. -/
theorem Filled.texts (h : p.Filled name email) :
    p.name.value = name ∧ p.email.value = email ∧ p.password.value = "" ∧ p.savedName = name ∧
      p.savedEmail = email := by
  cases h with
  | loaded record => exact ⟨rfl, rfl, rfl, rfl, rfl⟩
  | saved p sent answer => exact ⟨rfl, rfl, rfl, rfl, rfl⟩

theorem Filled.blank (h : p.Filled name email) (hq : p.Reblanked q) :
    Text.trim q.password.value = "" := by
  obtain ⟨-, -, hpassword, -, -⟩ := h.texts
  rw [hq.password, hpassword]
  rfl

theorem Filled.unchanged_iff (h : p.Filled name email) (hq : p.Reblanked q) :
    q.Unchanged ↔ Text.trim name = name ∧ Text.trim email = email := by
  obtain ⟨hname, hemail, -, hsavedName, hsavedEmail⟩ := h.texts
  unfold Unchanged
  rw [hq.name, hq.email, hq.savedName, hq.savedEmail, hname, hemail, hsavedName, hsavedEmail]
  exact ⟨fun hsame => ⟨hsame.1, hsame.2.1⟩, fun hsame => ⟨hsame.1, hsame.2, h.blank hq⟩⟩

/-- If it is sent after all, then without the blanks that the server had around its texts. -/
theorem Filled.draft_eq (h : p.Filled name email) (hq : p.Reblanked q) :
    q.draft = ⟨Text.trim name, Text.trim email, none⟩ := by
  obtain ⟨hname, hemail, -, -, -⟩ := h.texts
  unfold draft
  rw [h.blank hq, hq.name, hq.email, hname, hemail]
  rfl

end Profile

end ChatTerminal
