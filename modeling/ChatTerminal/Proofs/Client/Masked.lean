import ChatTerminal.Client
import ChatTerminal.Key
/-!
# Masked fields stay masked

A field is masked or not from the start: typing, filling and clearing it leave the mark alone.  The
passwords of the sign-in page and of the profile overlay are masked.
-/

namespace ChatTerminal

theorem TextField.masked_press (t : TextField) (code : Key.Code) :
    (t.press code).masked = t.masked := by
  cases code <;> rfl

namespace SignIn

structure Masked (f : SignIn) : Prop where
  password : f.password.masked = true
  newPassword : f.newPassword.masked = true
  confirmPassword : f.confirmPassword.masked = true

theorem masked_fresh : ({} : SignIn).Masked := ⟨rfl, rfl, rfl⟩

theorem Masked.setMode {f : SignIn} (h : f.Masked) (mode : Mode) : (f.setMode mode).Masked :=
  ⟨h.password, h.newPassword, h.confirmPassword⟩

theorem Masked.nextField {f : SignIn} (h : f.Masked) : f.nextField.Masked :=
  ⟨h.password, h.newPassword, h.confirmPassword⟩

theorem Masked.previousField {f : SignIn} (h : f.Masked) : f.previousField.Masked :=
  ⟨h.password, h.newPassword, h.confirmPassword⟩

theorem Masked.edit {f : SignIn} (h : f.Masked) {change : TextField → TextField}
    (hchange : ∀ t, (change t).masked = t.masked) : (f.edit change).Masked := by
  unfold SignIn.edit SignIn.setField SignIn.field
  split <;> constructor <;> simp [hchange, h.password, h.newPassword, h.confirmPassword]

end SignIn

namespace Profile

def Masked (p : Profile) : Prop := p.password.masked = true

theorem Masked.edit {p : Profile} (h : p.Masked) {change : TextField → TextField}
    (hchange : ∀ t, (change t).masked = t.masked) : (p.edit change).Masked := by
  unfold Profile.edit Profile.setField Profile.field
  split
  · exact h
  · exact h
  · exact (hchange p.password).trans h

theorem Masked.cancelDelete {p : Profile} (h : p.Masked) : p.cancelDelete.Masked := by
  unfold Profile.cancelDelete
  split
  · exact h
  · exact h

end Profile

structure Client.Masked (c : Client) : Prop where
  signIn : c.signIn.Masked
  profile : ∀ p, c.profile = some p → p.Masked

namespace Client

variable {c d : Client}

theorem masked_fresh : ({} : Client).Masked := ⟨SignIn.masked_fresh, nofun⟩

theorem Masked.of_eq (h : c.Masked) (hsignIn : d.signIn = c.signIn)
    (hprofile : d.profile = c.profile) : d.Masked := by
  constructor
  · rw [hsignIn]
    exact h.signIn
  · rw [hprofile]
    exact h.profile

theorem Masked.onSignIn (h : c.Masked) {change : SignIn → SignIn}
    (hchange : ∀ f, f.Masked → (change f).Masked) : (c.onSignIn change).Masked :=
  ⟨hchange _ h.signIn, h.profile⟩

theorem Masked.onProfile (h : c.Masked) {change : Profile → Profile}
    (hchange : ∀ p, p.Masked → (change p).Masked) : (c.onProfile change).Masked := by
  refine ⟨h.signIn, fun q hq => ?_⟩
  obtain ⟨p, hp, rfl⟩ := Option.map_eq_some_iff.mp hq
  exact hchange p (h.profile p hp)

theorem Masked.closeOverlay (h : c.Masked) : { c with profile := none }.Masked :=
  ⟨h.signIn, nofun⟩

theorem Masked.openOverlay (h : c.Masked) {p : Profile} (hp : p.Masked) :
    { c with profile := some p }.Masked := by
  refine ⟨h.signIn, fun q hq => ?_⟩
  obtain rfl : p = q := Option.some.inj hq
  exact hp

theorem masked_signOut (c : Client) : c.signOut.1.Masked := by
  have hsignIn : c.signOut.1.signIn = {} := rfl
  have hprofile : c.signOut.1.profile = none := rfl
  constructor
  · rw [hsignIn]
    exact SignIn.masked_fresh
  · rw [hprofile]
    exact nofun

end Client

end ChatTerminal
