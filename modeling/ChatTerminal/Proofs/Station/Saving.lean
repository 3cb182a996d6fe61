import ChatTerminal.Proofs.Client.Overlay
import ChatTerminal.Proofs.Station.Deletion
import ChatTerminal.Proofs.Station.Failures
/-!
# Saving the profile

A save sends the texts of the overlay without the blanks around them, or nothing if they are those
that the server knows.  A text stays as it was put into the overlay until a key is typed into its
field or the server gives another one; so what the user did not type is sent as it was put there.
-/

namespace ChatTerminal.Station

variable {server : Server} {base : String} {s t : Station} {turn : Turn} {p q : Profile}
  {f : Profile.Field} {v : String}

/-! ## Overlays that can be used -/

/-- The overlay is disarmed or armed; in either case it waits for nothing. -/
def Attended (s : Station) : Prop := s.client.Disarmed ∨ ∃ p, s.client.Armed p

theorem Attended.overlay (h : s.Attended) (hopen : s.client.profile = some p) :
    s.client.page = .chat ∧ p.loading = false := by
  rcases h with hdisarmed | ⟨q, harmed⟩
  · refine ⟨?_, (hdisarmed.resting p hopen).1⟩
    by_contra hapart
    exact nomatch hopen.symm.trans (hdisarmed.apart hapart)
  · obtain rfl : p = q := Option.some.inj (hopen.symm.trans harmed.overlay)
    exact ⟨harmed.onChat, harmed.idle⟩

theorem Attended.afterTurn (h : s.Attended) (server : Server) (turn : Turn) :
    (s.afterTurn server turn).Attended := by
  rcases h with hdisarmed | ⟨p, harmed⟩
  · rcases turn_of_disarmed server hdisarmed turn with hstill | ⟨-, harmed⟩
    · exact .inl hstill
    · exact .inr harmed
  · by_cases hturn : turn = .key .deletion
    · exact .inl (hturn ▸ (deletion_spends server harmed).2)
    · rcases turn_of_armed server harmed hturn with hdisarmed | ⟨-, hstill⟩
      · exact .inl hdisarmed
      · exact .inr ⟨p, hstill⟩

theorem Attended.afterTurns (h : s.Attended) (server : Server) (turns : List Turn) :
    (s.afterTurns server turns).Attended := by
  induction turns generalizing s with
  | nil => exact h
  | cons turn more ih => exact ih (h.afterTurn server turn)

/-! ## What a turn does to the overlay -/

def Opens (server : Server) (s : Station) (turn : Turn) : Prop :=
  s.client.profile = none ∧ s.afterTurn server turn = s.openProfile server

def Saves (s : Station) (turn : Turn) (sent : Profile.Update) : Prop :=
  turn = .key .saving ∧ ∃ p, s.client.profile = some p ∧ p.update = .ok sent

def Types (s : Station) (turn : Turn) (f : Profile.Field) : Prop :=
  ∃ k p, turn = .key k ∧ k.Types ∧ s.client.profile = some p ∧ p.focus = f

inductive Handles (server : Server) (s : Station) (turn : Turn) (p : Profile) (t : Station) :
    Prop where
  | closed (h : t.client.profile = none)
  | kept (q : Profile) (hq : t.client.profile = some q) (htexts : ∀ f, q.text f = p.text f)
  | typed (q : Profile) (hq : t.client.profile = some q) (htypes : Types s turn p.focus)
      (htexts : ∀ f, f ≠ p.focus → q.text f = p.text f)
  | saved (sent : Profile.Update) (answer : Option UserRecord) (q : Profile)
      (hq : t.client.profile = some q) (hsaves : Saves s turn sent)
      (hreply : (s.ask server (.updateMe sent)).2.value? UserRecord.ofAnswer? = .ok answer)
      (htexts : ∀ f, f ≠ .password →
        q.text f = (Profile.answered? answer f).getD (sent.text f))

theorem profile_onProfile (hopen : s.client.profile = some p) (change : Profile → Profile) :
    (s.onProfile change).client.profile = some (change p) :=
  congrArg (Option.map change) hopen

theorem Handles.of_onProfile (hopen : t.client.profile = some q)
    (htexts : ∀ f, q.text f = p.text f) {change : Profile → Profile}
    (hchange : ∀ f, (change q).text f = q.text f) :
    Handles server s turn p (t.onProfile change) :=
  .kept _ (profile_onProfile hopen change) fun f => (hchange f).trans (htexts f)

theorem deleteAccount_handles (server : Server) (hopen : s.client.profile = some p) :
    Handles server s turn p (s.deleteAccount server).1 := by
  rw [deleteAccount_eq server hopen]
  split
  · have hclient := client_ask server s .deleteMe
    generalize s.ask server .deleteMe = answer at hclient ⊢
    obtain ⟨t, reply⟩ := answer
    dsimp only at hclient ⊢
    rw [← hclient] at hopen
    split <;> dsimp only
    · exact .closed (signOut_closes server _)
    · exact .of_onProfile hopen (fun _ => rfl) fun f => Profile.text_eq rfl rfl rfl f
  · exact .of_onProfile hopen (fun _ => rfl) fun f => Profile.text_eq rfl rfl rfl f

theorem Handles.forget (h : Handles server s turn p t) : Handles server s turn p t.forget := by
  cases h with
  | closed hclosed => exact .closed (forget_closes hclosed)
  | kept q hq htexts => exact .kept q hq htexts
  | typed q hq htypes htexts => exact .typed q hq htypes htexts
  | saved sent answer q hq hsaves hreply htexts =>
      exact .saved sent answer q hq hsaves hreply htexts

/-- What is saved is the overlay without its order to delete, which has the same texts. -/
theorem afterTurn_saving (server : Server) (onChat : s.client.page = .chat)
    (hopen : s.client.profile = some p) (hidle : p.loading = false) :
    s.afterTurn server (.key .saving) =
      (s.onProfile Profile.cancelDelete).saveAndRemember server := by
  rw [afterTurn_key onChat hopen]
  simp [pressOnProfile, Key.saving, hidle]

theorem saveAndRemember_fills (server : Server) {sent : Profile.Update}
    {answer : Option UserRecord} (hopen : s.client.profile = some p) (hsent : p.update = .ok sent)
    (hreply : (s.ask server (.updateMe sent)).2.value? UserRecord.ofAnswer? = .ok answer) :
    ((s.onProfile Profile.cancelDelete).saveAndRemember server).client.profile =
      some (p.cancelDelete.settled.saved sent answer) := by
  have hcancelled := profile_onProfile hopen Profile.cancelDelete
  unfold saveAndRemember
  rw [saveProfile_eq server hcancelled, p.update_cancelDelete, hsent]
  dsimp only
  rw [onProfile, ask_onClient]
  generalize s.ask server (.updateMe sent) = asked at hreply ⊢
  obtain ⟨t, reply⟩ := asked
  dsimp only at hreply ⊢
  rw [hreply]
  dsimp only
  rw [client_remember]
  rfl

theorem saveAndRemember_handles (server : Server) (hopen : s.client.profile = some p) :
    Handles server s (.key .saving) p
      ((s.onProfile Profile.cancelDelete).saveAndRemember server) := by
  have hcancelled := profile_onProfile hopen Profile.cancelDelete
  cases hsent : p.update with
  | error r =>
      unfold saveAndRemember
      rw [saveProfile_eq server hcancelled, p.update_cancelDelete, hsent]
      exact .of_onProfile hcancelled p.text_cancelDelete fun f => Profile.text_eq rfl rfl rfl f
  | ok sent =>
      cases hreply : (s.ask server (.updateMe sent)).2.value? UserRecord.ofAnswer? with
      | error e =>
          have hclient := client_ask server s (.updateMe sent)
          unfold saveAndRemember
          rw [saveProfile_eq server hcancelled, p.update_cancelDelete, hsent]
          dsimp only
          rw [onProfile, ask_onClient, ← onProfile]
          generalize s.ask server (.updateMe sent) = asked at hclient hreply ⊢
          obtain ⟨t, reply⟩ := asked
          dsimp only at hclient hreply ⊢
          rw [hreply]
          have hstill : t.client.profile = some p := hclient ▸ hopen
          have hcancelled := profile_onProfile hstill Profile.cancelDelete
          exact .of_onProfile hcancelled p.text_cancelDelete fun f => Profile.text_eq rfl rfl rfl f
      | ok answer =>
          exact .saved sent answer _ (saveAndRemember_fills server hopen hsent hreply)
            ⟨rfl, p, hopen, hsent⟩ hreply fun f => Profile.text_saved sent answer

theorem pressOnProfile_handles (server : Server) (hopen : s.client.profile = some p)
    (hidle : p.loading = false) (k : Key) :
    Handles server s (.key k) p (s.pressOnProfile server p k) := by
  have hcancelled := profile_onProfile hopen Profile.cancelDelete
  obtain ⟨code, control⟩ := k
  unfold pressOnProfile
  split
  · unfold pressControlOnProfile
    dsimp only
    split
    · exact .closed (forget_closes (signOut_closes server s))
    · have hdeleted : Handles server s (.key ⟨.char 'd', control⟩) p (s.deleteAccount server).1 :=
        deleteAccount_handles server hopen
      generalize s.deleteAccount server = answer at hdeleted ⊢
      obtain ⟨t, deleted⟩ := answer
      cases deleted with
      | true => exact hdeleted.forget
      | false => exact hdeleted
    · exact .kept p hopen fun _ => rfl
  · rename_i hcontrol
    obtain rfl : control = false := eq_false_of_ne_true hcontrol
    split
    · exact .closed rfl
    · rw [if_neg (by simp [hidle])]
      dsimp only
      split
      · exact .of_onProfile hcancelled p.text_cancelDelete fun f => Profile.text_eq rfl rfl rfl f
      · exact .of_onProfile hcancelled p.text_cancelDelete fun f => Profile.text_eq rfl rfl rfl f
      · exact .of_onProfile hcancelled p.text_cancelDelete fun f => Profile.text_eq rfl rfl rfl f
      · exact .of_onProfile hcancelled p.text_cancelDelete fun f => Profile.text_eq rfl rfl rfl f
      · exact saveAndRemember_handles server hopen
      · by_cases htypes : (∃ c, code = .char c) ∨ code = .backspace
        · refine .typed _ (profile_onProfile hcancelled _)
            ⟨⟨code, false⟩, p, rfl, ⟨rfl, htypes⟩, hopen, rfl⟩ fun f hf => ?_
          rw [Profile.text_edit_of_ne _ (p.focus_cancelDelete.symm ▸ hf), p.text_cancelDelete]
        · exact .of_onProfile hcancelled p.text_cancelDelete
            (Profile.text_edit_press htypes)

theorem Attended.handles (h : s.Attended) (server : Server) (hopen : s.client.profile = some p)
    (turn : Turn) : Handles server s turn p (s.afterTurn server turn) := by
  obtain ⟨onChat, hidle⟩ := h.overlay hopen
  cases turn with
  | link e =>
      have hlink : Confined server (fun _ => True) Client.account s (s.onLink server e) :=
        onLink_confined server s e fun _ => trivial
      exact .kept p ((Client.profile_eq_of_surface hlink.surface).trans hopen) fun _ => rfl
  | key k =>
      rw [afterTurn_key onChat hopen]
      exact pressOnProfile_handles server hopen hidle k

theorem opens_of_closed (server : Server) (hclosed : s.client.profile = none) (turn : Turn) :
    (s.afterTurn server turn).client.profile = none ∨ Opens server s turn := by
  rcases (turn_deed server s turn).opens hclosed with hstill | ⟨-, hopened⟩
  · exact .inl hstill
  · exact .inr ⟨hclosed, hopened⟩

/-! ## Where a text comes from -/

/-- The turn brings a text of a field from the server: the overlay is opened and loaded, or the
answer to a save names a user and does not leave the field out. -/
inductive Tells (server : Server) (s : Station) (turn : Turn) (f : Profile.Field) :
    String → Prop where
  | loaded (record : UserRecord) (hopens : Opens server s turn)
      (hreply : (s.ask server .me).2.value? UserRecord.ofTree? = .ok record) :
      Tells server s turn f ((record.text? f).getD "")
  | answered (sent : Profile.Update) (answer : Option UserRecord) (v : String)
      (hsaves : Saves s turn sent)
      (hreply : (s.ask server (.updateMe sent)).2.value? UserRecord.ofAnswer? = .ok answer)
      (hv : Profile.answered? answer f = some v) : Tells server s turn f v

/-- The turn puts a text into a field: what the server tells of it; nothing, where the overlay is
opened and does not load; or what was sent, where the answer to a save leaves the field out. -/
inductive Puts (server : Server) (s : Station) (turn : Turn) (f : Profile.Field) :
    String → Prop where
  | told (v : String) (h : Tells server s turn f v) : Puts server s turn f v
  | unloaded (hopens : Opens server s turn)
      (hfails : (s.ask server .me).2.Fails UserRecord.ofTree?) : Puts server s turn f ""
  | taken (sent : Profile.Update) (answer : Option UserRecord) (hsaves : Saves s turn sent)
      (hreply : (s.ask server (.updateMe sent)).2.value? UserRecord.ofAnswer? = .ok answer)
      (hleft : Profile.answered? answer f = none) : Puts server s turn f (sent.text f)

/-- The overlay is open, and a field of it shows a text, up to blanks around it. -/
def Shows (s : Station) (f : Profile.Field) (v : String) : Prop :=
  ∃ p, s.client.profile = some p ∧ Text.trim (p.text f) = Text.trim v

theorem openProfile_loads (server : Server) {record : UserRecord}
    (hreply : (s.ask server .me).2.value? UserRecord.ofTree? = .ok record) :
    (s.openProfile server).client.profile = some (({} : Profile).load record) := by
  rw [openProfile_eq]
  generalize s.ask server .me = answer at hreply ⊢
  obtain ⟨t, reply⟩ := answer
  dsimp only at hreply ⊢
  rw [hreply]
  rfl

theorem openProfile_fails (server : Server)
    (hfails : (s.ask server .me).2.Fails UserRecord.ofTree?) :
    (s.openProfile server).client.profile = some (({} : Profile).refused Profile.loadFailed) := by
  obtain ⟨e, hreply⟩ := Reply.fails_iff.mp hfails
  rw [openProfile_eq]
  generalize s.ask server .me = answer at hreply ⊢
  obtain ⟨t, reply⟩ := answer
  dsimp only at hreply ⊢
  rw [hreply]
  rfl

/-- Opening the overlay fills each field with what the server tells of it, or with nothing. -/
theorem Opens.fills (h : Opens server s turn) :
    (∃ record, (s.ask server .me).2.value? UserRecord.ofTree? = .ok record ∧
      ∀ f, Tells server s turn f ((record.text? f).getD "")) ∨
    (s.ask server .me).2.Fails UserRecord.ofTree? ∧ ∀ f, Puts server s turn f "" := by
  cases hreply : (s.ask server .me).2.value? UserRecord.ofTree? with
  | ok record => exact .inl ⟨record, rfl, fun f => .loaded record h hreply⟩
  | error e =>
      have hfails := Reply.fails_iff.mpr ⟨e, hreply⟩
      exact .inr ⟨hfails, fun f => .unloaded h hfails⟩

theorem Attended.fills (h : s.Attended) {sent : Profile.Update} {answer : Option UserRecord}
    (hsaves : Saves s turn sent)
    (hreply : (s.ask server (.updateMe sent)).2.value? UserRecord.ofAnswer? = .ok answer)
    (hf : f ≠ .password) :
    Shows (s.afterTurn server turn) f ((Profile.answered? answer f).getD (sent.text f)) := by
  obtain ⟨rfl, p, hopen, hsent⟩ := hsaves
  obtain ⟨onChat, hidle⟩ := h.overlay hopen
  rw [afterTurn_saving server onChat hopen hidle]
  refine ⟨_, saveAndRemember_fills server hopen hsent hreply, ?_⟩
  rw [Profile.text_saved sent answer hf]

theorem Puts.shows (h : Puts server s turn f v) (hs : s.Attended) (hf : f ≠ .password) :
    Shows (s.afterTurn server turn) f v := by
  cases h with
  | told v htells =>
      cases htells with
      | loaded record hopens hreply =>
          rw [hopens.2]
          refine ⟨_, openProfile_loads server hreply, ?_⟩
          rw [Profile.text_load record hf]
      | answered sent answer v hsaves hreply hv =>
          have hshows := hs.fills hsaves hreply hf
          rwa [hv] at hshows
  | unloaded hopens hfails =>
      rw [hopens.2]
      refine ⟨_, openProfile_fails server hfails, ?_⟩
      cases f <;> rfl
  | taken sent answer hsaves hreply hleft =>
      have hshows := hs.fills hsaves hreply hf
      rwa [hleft] at hshows

/-- A text stays, up to blanks around it, while the overlay is open and neither the user types in
its field nor the server tells another one; a save may take the blanks off. -/
theorem Shows.afterTurn (h : Shows s f v) (hs : s.Attended) (hf : f ≠ .password)
    (hopen : (s.afterTurn server turn).client.profile ≠ none) (huntyped : ¬ Types s turn f)
    (huntold : ∀ w, ¬ Tells server s turn f w) : Shows (s.afterTurn server turn) f v := by
  obtain ⟨p, hp, hv⟩ := h
  cases hs.handles server hp turn with
  | closed hclosed => exact absurd hclosed hopen
  | kept q hq htexts => exact ⟨q, hq, by rw [htexts f, hv]⟩
  | typed q hq htypes htexts =>
      have hne : f ≠ p.focus := fun hfocus => huntyped (hfocus ▸ htypes)
      exact ⟨q, hq, by rw [htexts f hne, hv]⟩
  | saved sent answer q hq hsaves hreply htexts =>
      refine ⟨q, hq, ?_⟩
      cases htold : Profile.answered? answer f with
      | some w => exact absurd (.answered sent answer w hsaves hreply htold) (huntold w)
      | none =>
          obtain ⟨-, p', hp', hsent⟩ := hsaves
          obtain rfl : p = p' := Option.some.inj (hp.symm.trans hp')
          rw [htexts f hf, htold, Option.getD_none, Profile.eq_draft_of_update hsent,
            Profile.text_draft, Text.trim_trim, hv]

/-! ## Requests -/

def PutsNothing (s t : Station) : Prop :=
  ∃ asked, t.requests = s.requests ++ asked ∧ ∀ r ∈ asked, r.method ≠ .put

/-- An update is sent, once, or not at all where its address cannot be asked. -/
def Sends (s t : Station) (sent : Profile.Update) : Prop :=
  ∃ asked, t.requests = s.requests ++ asked ∧ asked.length ≤ 1 ∧
    ∀ r ∈ asked, r.method = .put ∧ r.body = some sent.fields

theorem Sends.of_requests {u : Station} {sent : Profile.Update} (h : Sends s t sent)
    (hrequests : u.requests = t.requests) : Sends s u sent := by
  obtain ⟨asked, hasked, hone, hput⟩ := h
  exact ⟨asked, hrequests.trans hasked, hone, hput⟩

theorem Asks.putsNothing (h : Asks (·.method ≠ .put) base s t) : PutsNothing s t := by
  obtain ⟨asked, hasked, hsent⟩ := h.requests
  refine ⟨asked, hasked, fun r hr => ?_⟩
  obtain ⟨c, hc, a, now, u, -, -, rfl⟩ := hsent r hr
  exact hc

theorem Call.Plain.method_ne_put {c : Call} (h : c.Plain) : c.method ≠ .put := by
  cases c with
  | updateMe update => exact h.elim
  | _ => nofun

theorem requests_remember (s : Station) : s.remember.requests = s.requests := by
  unfold remember
  split <;> rfl

theorem requests_saveAndRemember (server : Server) (s : Station) :
    (s.saveAndRemember server).requests = (s.saveProfile server).1.requests := by
  unfold saveAndRemember
  generalize s.saveProfile server = answer
  obtain ⟨t, saved⟩ := answer
  cases saved with
  | true => exact requests_remember t
  | false => rfl

theorem requests_saveProfile (server : Server) {sent : Profile.Update}
    (hopen : s.client.profile = some p) (hsent : p.update = .ok sent) :
    (s.saveProfile server).1.requests = (s.ask server (.updateMe sent)).1.requests := by
  rw [saveProfile_eq server hopen, hsent]
  dsimp only
  generalize s.ask server (.updateMe sent) = asked
  obtain ⟨t, reply⟩ := asked
  dsimp only
  split <;> rfl

theorem sends_ask (server : Server) (s : Station) (sent : Profile.Update) :
    Sends s (s.ask server (.updateMe sent)).1 sent := by
  refine ⟨_, requests_ask server s (.updateMe sent), ?_, fun r hr => ?_⟩
  · cases s.agent.urlOf? (.updateMe sent) with
    | none => exact Nat.zero_le 1
    | some u => exact Nat.le_refl 1
  · obtain ⟨u, -, rfl⟩ := List.mem_map.mp hr
    exact ⟨rfl, rfl⟩

theorem Attended.sends (h : s.Attended) (server : Server) {sent : Profile.Update}
    (hsaves : Saves s turn sent) : Sends s (s.afterTurn server turn) sent := by
  obtain ⟨rfl, p, hopen, hsent⟩ := hsaves
  obtain ⟨onChat, hidle⟩ := h.overlay hopen
  have hcancelled := profile_onProfile hopen Profile.cancelDelete
  refine (sends_ask server s sent).of_requests ?_
  rw [afterTurn_saving server onChat hopen hidle, requests_saveAndRemember,
    requests_saveProfile server hcancelled (p.update_cancelDelete.trans hsent), onProfile,
    ask_onClient]
  generalize s.ask server (.updateMe sent) = asked
  rfl

theorem Attended.putsNothing (h : s.Attended) (server : Server)
    (hunsaved : ∀ sent, ¬ Saves s turn sent) : PutsNothing s (s.afterTurn server turn) := by
  have hconfined : Confined server (·.method ≠ .put) (fun _ => ()) s (s.afterTurn server turn) := by
    cases hopen : s.client.profile with
    | none =>
        exact (turn_deed server s turn).confined (fun _ => Call.Plain.method_ne_put)
          (fun hne => absurd hopen hne) fun _ _ _ => nofun
    | some p =>
        obtain ⟨onChat, hidle⟩ := h.overlay hopen
        cases turn with
        | link e =>
            have hlink : Confined server (·.method ≠ .put) Client.account s (s.onLink server e) :=
              onLink_confined server s e fun _ => nofun
            exact hlink.weaken fun _ _ _ => rfl
        | key k =>
            rw [afterTurn_key onChat hopen]
            refine pressOnProfile_confined server hopen nofun (fun _ => nofun) ?_
            rintro rfl update hsent
            exact absurd ⟨rfl, p, hopen, hsent⟩ (hunsaved update)
  exact (hconfined.asked rfl).putsNothing

/-! ## Profiles that nobody edited -/

theorem saveProfile_of_unchanged (server : Server) (hopen : s.client.profile = some p)
    (h : p.Unchanged) :
    s.saveProfile server = (s.onProfile fun p =>
      { p with message := "", error := Refusal.nothingChanged.message }, false) := by
  rw [saveProfile_eq server hopen, Profile.update_of_unchanged h]

theorem saveProfile_sends (server : Server) (hopen : s.client.profile = some p)
    (h : ¬ p.Unchanged) : Sends s (s.saveProfile server).1 p.draft :=
  (sends_ask server s p.draft).of_requests
    (requests_saveProfile server hopen (Profile.update_of_changed h))

/-- An overlay that the server's record or the answer to a save has filled, and around whose texts
at most blanks were added or taken away, counts as unchanged exactly if the texts it was filled with
have no blanks around them.  Then a save makes no request; else it sends these texts without their
blanks.  The texts that a save sends have none, so they count as unchanged when they are taken. -/
theorem unedited_profile_unsent (server : Server) {name email : String}
    (hfilled : p.Filled name email) (hedited : p.Reblanked q) :
    (q.update = .error .nothingChanged ↔ Text.trim name = name ∧ Text.trim email = email) ∧
    (∀ s : Station, s.client.profile = some q →
      (Text.trim name = name ∧ Text.trim email = email →
        s.saveProfile server = (s.onProfile fun p =>
          { p with message := "", error := Refusal.nothingChanged.message }, false) ∧
        (s.saveProfile server).1.requests = s.requests) ∧
      (¬ (Text.trim name = name ∧ Text.trim email = email) →
        Sends s (s.saveProfile server).1 ⟨Text.trim name, Text.trim email, none⟩)) ∧
    ∀ r sent, Profile.update r = .ok sent →
      Text.trim sent.name = sent.name ∧ Text.trim sent.email = sent.email := by
  have hunchanged := hfilled.unchanged_iff hedited
  refine ⟨Profile.update_eq_nothingChanged_iff.trans hunchanged, fun s hopen => ⟨?_, ?_⟩,
    fun r sent => Profile.trimmed_of_update⟩
  · intro htrimmed
    have hrefused := saveProfile_of_unchanged server hopen (hunchanged.mpr htrimmed)
    exact ⟨hrefused, by rw [hrefused]; rfl⟩
  · intro huntrimmed
    rw [← hfilled.draft_eq hedited]
    exact saveProfile_sends server hopen (mt hunchanged.mp huntrimmed)

/-- Blanks that the user typed around the name, and blanks for a password. -/
theorem unedited_profile_unsent_with_blanks_typed :
    let p : Profile := ({} : Profile).load ⟨1, some "ann", some "ann@example.com"⟩
    let q : Profile := { p with name := p.name.set "  ann ", password := p.password.set "   " }
    p.Filled "ann" "ann@example.com" ∧ p.Reblanked q ∧ q.update = .error .nothingChanged := by
  intro p q
  have hfilled : p.Filled "ann" "ann@example.com" :=
    .loaded ⟨1, some "ann", some "ann@example.com"⟩
  have hedited : p.Reblanked q := ⟨by decide +kernel, rfl, by decide +kernel, rfl, rfl⟩
  have htrimmed : Text.trim "ann" = "ann" ∧ Text.trim "ann@example.com" = "ann@example.com" :=
    ⟨by decide +kernel, by decide +kernel⟩
  exact ⟨hfilled, hedited,
    (unedited_profile_unsent (fun _ _ => .dropped) hfilled hedited).1.mpr htrimmed⟩

/-- A name that the server has with blanks around it: saved as it was loaded, it is sent. -/
theorem unedited_profile_sent :
    let p : Profile := ({} : Profile).load ⟨1, some " ann ", some "ann@example.com"⟩
    let agent : Agent := ⟨"http://[::1]", { scheme := "http".toList }, {}⟩
    let s : Station := { agent := agent, client := { profile := some p } }
    p.update = .ok ⟨"ann", "ann@example.com", none⟩ ∧
      (s.saveProfile fun _ _ => .dropped).1.requests.map (·.method) = [.put] := by
  decide +kernel

/-! ## Runs -/

/-- While the turns are taken the overlay is open, the user does not type in a field of it, and the
server tells nothing of that field. -/
def Rests (server : Server) (s : Station) (turns : List Turn) (f : Profile.Field) : Prop :=
  ∀ before turn after, turns = before ++ turn :: after →
    let u := s.afterTurns server before
    (u.afterTurn server turn).client.profile ≠ none ∧ ¬ Types u turn f ∧
      ∀ w, ¬ Tells server u turn f w

theorem Shows.afterTurns {turns : List Turn} (h : Shows s f v) (hs : s.Attended)
    (hf : f ≠ .password) (hrests : Rests server s turns f) :
    Shows (s.afterTurns server turns) f v := by
  induction turns generalizing s with
  | nil => exact h
  | cons turn more ih =>
      obtain ⟨hopen, huntyped, huntold⟩ := hrests [] turn more rfl
      refine ih (h.afterTurn hs hf hopen huntyped huntold) (hs.afterTurn server turn) ?_
      rintro before next after rfl
      exact hrests (turn :: before) next after rfl

structure OpenSince (server : Server) (s : Station) (earlier : List Turn) (opening : Turn)
    (between : List Turn) : Prop where
  opens : Opens server (s.afterTurns server earlier) opening
  standing : ∀ since, since <+: between →
    (s.afterTurns server (earlier ++ opening :: since)).client.profile ≠ none

theorem OpenSince.concat {earlier between : List Turn} {opening : Turn}
    (h : OpenSince server s earlier opening between)
    (hopen : (s.afterTurns server (earlier ++ opening :: (between ++ [turn]))).client.profile ≠
      none) : OpenSince server s earlier opening (between ++ [turn]) := by
  refine ⟨h.opens, fun since hsince => ?_⟩
  rcases List.prefix_concat_iff.mp hsince with rfl | hsince
  · exact hopen
  · exact h.standing since hsince

theorem exists_openSince (server : Server) (hclosed : s.client.profile = none) (turns : List Turn)
    (hopen : (s.afterTurns server turns).client.profile ≠ none) :
    ∃ earlier opening between, turns = earlier ++ opening :: between ∧
      OpenSince server s earlier opening between := by
  induction turns using List.reverseRecOn with
  | nil => exact absurd hclosed hopen
  | append_singleton turns turn ih =>
      by_cases hbefore : (s.afterTurns server turns).client.profile = none
      · rw [afterTurns_concat] at hopen
        have hopens := (opens_of_closed server hbefore turn).resolve_left hopen
        refine ⟨turns, turn, [], rfl, hopens, fun since hsince => ?_⟩
        rw [List.prefix_nil.mp hsince, afterTurns_concat]
        exact hopen
      · obtain ⟨earlier, opening, between, rfl, hsince⟩ := ih hbefore
        refine ⟨earlier, opening, between ++ [turn], by simp, hsince.concat ?_⟩
        rwa [List.append_assoc, List.cons_append] at hopen

/-- In every run, whatever the server replies, nothing but a save puts anything, and a save sends
the update of the overlay once.  The overlay was opened by a turn that asked the server who the user
is; if the server told, each field was filled with what it told, and else with nothing.  The overlay
has been open ever since.  The password is sent exactly if the one typed is not blank.  And a name
or an email that has been left alone since it was put into the overlay is sent as it was put there,
up to blanks around it. -/
theorem unedited_fields_kept (server : Server) (bypass : Bool) (agent : Agent)
    (kept : Option String) (now : Int) (turns : List Turn) (turn : Turn) :
    let fresh : Station := { agent := agent, kept := kept, now := now }
    let first := (fresh.start server bypass).2
    let s := first.afterTurns server turns
    let t := s.afterTurn server turn
    PutsNothing fresh first ∧ (PutsNothing s t ∨ ∃ sent, Saves s turn sent) ∧
    ∀ sent, Saves s turn sent → Sends s t sent ∧
      (∃ earlier opening between, turns = earlier ++ opening :: between ∧
        OpenSince server first earlier opening between ∧
        let u := first.afterTurns server earlier
        ((∃ record, (u.ask server .me).2.value? UserRecord.ofTree? = .ok record ∧
            ∀ f, Tells server u opening f ((record.text? f).getD "")) ∨
          (u.ask server .me).2.Fails UserRecord.ofTree? ∧ ∀ f, Puts server u opening f "")) ∧
      (∀ p, s.client.profile = some p →
        sent.password = some (Text.trim p.password.value) ∧ Text.trim p.password.value ≠ "" ∨
        sent.password = none ∧ Text.trim p.password.value = "") ∧
      ∀ f v earlier put between, f ≠ .password → turns = earlier ++ put :: between →
        Puts server (first.afterTurns server earlier) put f v →
        Rests server (first.afterTurns server (earlier ++ [put])) between f →
        sent.text f = Text.trim v := by
  intro fresh first s t
  have hstart : Asks (·.method ≠ .put) agent.base fresh first :=
    (start_confined server bypass fresh fun _ => Call.Plain.method_ne_put).asked rfl
  have hclosed : first.client.profile = none := start_closes server bypass rfl
  have hfirst : first.Attended := .inl (Client.disarmed_of_closed hclosed)
  have hs : s.Attended := hfirst.afterTurns server turns
  refine ⟨hstart.putsNothing, ?_, fun sent hsaves => ⟨hs.sends server hsaves, ?_, ?_, ?_⟩⟩
  · by_cases hsaves : ∃ sent, Saves s turn sent
    · exact .inr hsaves
    · exact .inl (hs.putsNothing server (not_exists.mp hsaves))
  · obtain ⟨-, p, hopen, -⟩ := hsaves
    obtain ⟨earlier, opening, between, hturns, hsince⟩ :=
      exists_openSince server hclosed turns (hopen ▸ Option.some_ne_none p)
    exact ⟨earlier, opening, between, hturns, hsince, hsince.opens.fills⟩
  · intro p hopen
    obtain ⟨-, q, hq, hsent⟩ := hsaves
    obtain rfl : p = q := Option.some.inj (hopen.symm.trans hq)
    rw [Profile.eq_draft_of_update hsent]
    exact p.password_draft
  · rintro f v earlier put between hf rfl hput hrests
    have hbefore : (first.afterTurns server earlier).Attended := hfirst.afterTurns server earlier
    have hshows := hput.shows hbefore hf
    rw [← afterTurns_concat] at hshows
    have hafter : (first.afterTurns server (earlier ++ [put])).Attended :=
      hfirst.afterTurns server _
    obtain ⟨p, hp, htext⟩ := hshows.afterTurns hafter hf hrests
    rw [← afterTurns_append, List.append_assoc, List.singleton_append] at hp
    obtain ⟨-, q, hq, hsent⟩ := hsaves
    obtain rfl : p = q := Option.some.inj (hp.symm.trans hq)
    rw [Profile.eq_draft_of_update hsent, Profile.text_draft, htext]

/-- A server that drops everything: the overlay does not load, and a save after one key sends an
empty email. -/
theorem unloaded_profile_saved :
    let server : Server := fun _ _ => .dropped
    let agent : Agent := ⟨"http://[::1]", { scheme := "http".toList }, {}⟩
    let first := (start server true { agent := agent }).2
    let s := first.afterTurns server [.key ⟨.char 'p', false⟩, .key ⟨.char 'x', false⟩]
    let t := s.afterTurn server (.key .saving)
    (first.ask server .me).2 = .dropped ∧ first.client.profile = none ∧
      t.requests.map (·.method) = s.requests.map (·.method) ++ [.put] ∧
      t.requests.map (·.body) = s.requests.map (·.body) ++
        [some [("name", "x"), ("email", "")]] := by
  decide +kernel

end ChatTerminal.Station
