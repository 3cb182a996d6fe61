import ChatTerminal.Proofs.Station.Confined
/-!
# Deleting the account

The account is deleted by a key that is pressed twice.  The first press arms the overlay, which
then shows a text that asks for the second press; the second press takes the order, whatever comes
of it.  Until then the overlay is either armed and as it was when it was armed, or it is disarmed
again: nothing else is to be known of it, whatever is pressed and whatever the links report.
-/

namespace ChatTerminal

def Key.deletion : Key := ⟨.char 'd', true⟩

def Key.saving : Key := ⟨.enter, false⟩

/-- An event of a link, or a key with Control other than the one that deletes. -/
def Turn.Harmless : Turn → Prop
  | .key k => k.control = true ∧ k ≠ .deletion
  | .link _ => True

/-- Only the deletion of the account is a DELETE of its path. -/
theorem Call.eq_deleteMe_iff {c : Call} :
    c = .deleteMe ↔ c.method = .delete ∧ c.path = Call.deleteMe.path := by
  constructor
  · rintro rfl
    exact ⟨rfl, rfl⟩
  · rintro ⟨hmethod, hpath⟩
    cases c with
    | deleteMe => rfl
    | deleteChannel id =>
        have hchars : "/api/channels/".toList ++ (toString id).toList = "/api/me".toList := by
          rw [← String.toList_append]
          exact congrArg String.toList hpath
        have hsixth : 'c' = 'm' := by
          have hthere := congrArg (·[5]?) hchars
          rw [List.getElem?_append_left (by decide)] at hthere
          exact Option.some.inj hthere
        cases hsixth
    | _ => cases hmethod

namespace Client

variable {c d : Client} {p : Profile}

/-- There is no overlay, or one that waits for nothing and is not armed; off the chat page there is
none. -/
structure Disarmed (c : Client) : Prop where
  apart : c.page ≠ .chat → c.profile = none
  resting : ∀ p, c.profile = some p → p.loading = false ∧ p.armed = false

structure Armed (c : Client) (p : Profile) : Prop where
  onChat : c.page = .chat
  overlay : c.profile = some p
  armed : p.armed = true
  idle : p.loading = false
  asking : p.error = Profile.confirmationText

theorem profile_eq_of_surface (hsurface : d.surface = c.surface) : d.profile = c.profile :=
  congrArg Prod.snd hsurface

theorem Disarmed.of_surface (h : c.Disarmed) (hsurface : d.surface = c.surface) : d.Disarmed := by
  obtain ⟨hpage, hprofile⟩ := Prod.mk.inj hsurface
  constructor
  · rw [hpage, hprofile]
    exact h.apart
  · rw [hprofile]
    exact h.resting

theorem Armed.of_surface (h : c.Armed p) (hsurface : d.surface = c.surface) : d.Armed p := by
  obtain ⟨hpage, hprofile⟩ := Prod.mk.inj hsurface
  exact ⟨hpage.trans h.onChat, hprofile.trans h.overlay, h.armed, h.idle, h.asking⟩

theorem disarmed_of_closed (hclosed : c.profile = none) : c.Disarmed :=
  ⟨fun _ => hclosed, fun _ hp => nomatch hclosed.symm.trans hp⟩

theorem disarmed_of_open (onChat : c.page = .chat) (hopen : c.profile = some p)
    (hidle : p.loading = false) (hunarmed : p.armed = false) : c.Disarmed := by
  refine ⟨fun hapart => absurd onChat hapart, fun q hq => ?_⟩
  obtain rfl : p = q := Option.some.inj (hopen.symm.trans hq)
  exact ⟨hidle, hunarmed⟩

theorem Disarmed.onProfile {change : Profile → Profile} (hapart : c.page ≠ .chat → c.profile = none)
    (hchange : ∀ p, c.profile = some p → (change p).loading = false ∧ (change p).armed = false) :
    (c.onProfile change).Disarmed := by
  constructor
  · intro hpage
    rw [Client.onProfile, hapart hpage]
    rfl
  · intro q hq
    obtain ⟨p, hp, rfl⟩ := Option.map_eq_some_iff.mp hq
    exact hchange p hp

end Client

namespace Profile

theorem loading_edit (p : Profile) (change : TextField → TextField) :
    (p.edit change).loading = p.loading := by
  unfold edit setField
  split <;> rfl

theorem armed_edit (p : Profile) (change : TextField → TextField) :
    (p.edit change).armed = p.armed := by
  unfold edit setField
  split <;> rfl

theorem loading_cancelDelete (p : Profile) : p.cancelDelete.loading = p.loading := by
  unfold cancelDelete
  split <;> rfl

theorem armed_cancelDelete (p : Profile) : p.cancelDelete.armed = false := by
  unfold cancelDelete
  split
  · rfl
  · rename_i hunarmed
    exact Bool.eq_false_iff.mpr hunarmed

theorem update_cancelDelete (p : Profile) : p.cancelDelete.update = p.update := by
  unfold cancelDelete
  split <;> rfl

end Profile

namespace Station

variable {server : Server} {base : String} {s t : Station} {p : Profile}

/-! ## What leaves the overlay disarmed -/

theorem Confined.surface (h : Confined server (fun _ => True) Client.account s t) :
    t.client.surface = s.client.surface :=
  Client.surface_eq_of_account h.kept

theorem enterChat_closes (server : Server) (s : Station) (who : Identity) :
    (s.enterChat server who).client.profile = none := by
  have hloaded : Confined server (fun _ => True) Client.account (s.onClient (·.enterChat who))
      (s.enterChat server who) := loadChannels_confined server _ trivial trivial
  exact (Client.profile_eq_of_surface hloaded.surface).trans rfl

theorem signOut_closes (server : Server) (s : Station) :
    (s.signOut server).client.profile = none := by
  have hreleased : Confined server (fun _ => True) Client.account
      ((s.ask server .logout).1.onClient fun c => c.signOut.1) (s.signOut server) :=
    release_confined server _
  exact (Client.profile_eq_of_surface hreleased.surface).trans rfl

theorem submit_closes (server : Server) (hclosed : s.client.profile = none) :
    (s.submit server).client.profile = none := by
  unfold submit
  split
  · have hregister : Confined server (fun _ => True) Client.surface s (s.register server) :=
      register_confined server s fun _ => trivial
    exact (Client.profile_eq_of_surface hregister.kept).trans hclosed
  · have hsign : Confined server (fun _ => True) Client.surface s (s.signIn server).1 :=
      signIn_confined server s fun _ => trivial
    generalize s.signIn server = answer at hsign ⊢
    obtain ⟨t, who⟩ := answer
    cases who with
    | none => exact (Client.profile_eq_of_surface hsign.kept).trans hclosed
    | some who =>
        dsimp only
        exact enterChat_closes server _ who

theorem openProfile_disarmed (server : Server) (onChat : s.client.page = .chat) :
    (s.openProfile server).client.Disarmed := by
  have hclient := client_ask server s .me
  rw [openProfile_eq]
  generalize s.ask server .me = answer at hclient ⊢
  obtain ⟨t, reply⟩ := answer
  dsimp only at hclient ⊢
  rw [← hclient] at onChat
  split
  · exact Client.disarmed_of_open onChat rfl rfl rfl
  · exact Client.disarmed_of_open onChat rfl rfl rfl

theorem saveProfile_disarmed (server : Server) (h : s.client.Disarmed) :
    (s.saveProfile server).1.client.Disarmed := by
  cases hopen : s.client.profile with
  | none =>
      rw [saveProfile_of_none server hopen]
      exact h
  | some p =>
      have onChat : s.client.page = .chat := by
        by_contra hapart
        exact nomatch hopen.symm.trans (h.apart hapart)
      rw [saveProfile_eq server hopen]
      split
      · exact Client.Disarmed.onProfile h.apart h.resting
      · rename_i update _
        have hclient := client_ask server s (.updateMe update)
        generalize s.ask server (.updateMe update) = answer at hclient ⊢
        obtain ⟨t, reply⟩ := answer
        dsimp only at hclient ⊢
        rw [← hclient] at h onChat
        split <;> dsimp only
        · exact Client.disarmed_of_open onChat rfl rfl (h.resting p (hclient ▸ hopen)).2
        · exact Client.Disarmed.onProfile h.apart fun q hq => ⟨rfl, (h.resting q hq).2⟩

theorem saveAndRemember_disarmed (server : Server) (h : s.client.Disarmed) :
    (s.saveAndRemember server).client.Disarmed := by
  have hsave := saveProfile_disarmed server h
  unfold saveAndRemember
  generalize s.saveProfile server = answer at hsave ⊢
  obtain ⟨t, saved⟩ := answer
  cases saved with
  | true =>
      dsimp only
      rw [client_remember]
      exact hsave
  | false => exact hsave

theorem forget_disarmed (h : s.client.Disarmed) : s.forget.client.Disarmed := h

theorem signOut_disarmed (server : Server) (s : Station) : (s.signOut server).client.Disarmed :=
  Client.disarmed_of_closed (signOut_closes server s)

theorem forget_closes (h : s.client.profile = none) : s.forget.client.profile = none := h

/-- Without an overlay a turn leaves none, or it opens one. -/
theorem Deed.opens (h : Deed server s t) (hclosed : s.client.profile = none) :
    t.client.profile = none ∨ s.client.page = .chat ∧ t = s.openProfile server := by
  have hflow : ∀ {u}, Confined server (fun _ => True) Client.account s u →
      u.client.profile = none ∨ s.client.page = .chat ∧ u = s.openProfile server :=
    fun hu => .inl ((Client.profile_eq_of_surface hu.surface).trans hclosed)
  have hunfilled : ∀ change, (s.onProfile change).client.profile = none :=
    fun change => congrArg (Option.map change) hclosed
  cases h with
  | rest => exact .inl hclosed
  | link e => exact hflow (onLink_confined server s e fun _ => trivial)
  | fill _ _ => exact .inl hclosed
  | submit _ => exact .inl (submit_closes server hclosed)
  | fillOverlay _ _ => exact .inl (hunfilled _)
  | closeOverlay => exact .inl rfl
  | save =>
      unfold saveAndRemember
      rw [saveProfile_of_none server (hunfilled _)]
      exact .inl (hunfilled _)
  | signOut _ => exact .inl (forget_closes (signOut_closes server s))
  | undeleted _ =>
      rw [deleteAccount_of_none server hclosed]
      exact .inl hclosed
  | deleted _ =>
      rw [deleteAccount_of_none server hclosed]
      exact .inl hclosed
  | closePrompt => exact .inl hclosed
  | createChannel _ => exact hflow (createChannel_confined server s fun _ => trivial)
  | joinChannel _ =>
      exact hflow (joinChannel_confined server s (fun _ => trivial) (fun _ => trivial)
        fun _ => trivial)
  | @browse change hcore _ =>
      have hsurface : (change s.client).core.surface = s.client.core.surface :=
        congrArg Client.surface (hcore s.client)
      exact .inl ((Client.profile_eq_of_surface hsurface).trans hclosed)
  | ask _ _ prompt => exact .inl hclosed
  | openProfile onChat _ => exact .inr ⟨onChat, rfl⟩
  | home _ => exact hflow (Confined.selects .refl _)
  | newest _ => exact hflow (openNewest_confined server s)
  | load _ => exact hflow (loadChannels_confined server s trivial trivial)
  | openUnderCursor _ => exact hflow (openUnderCursor_confined server s)
  | delete _ id => exact hflow (deleteChannel_confined server s id trivial)
  | send => exact hflow (sendDraft_confined server s)

theorem Deed.disarmed (h : Deed server s t) (hclosed : s.client.profile = none) :
    t.client.Disarmed := by
  rcases h.opens hclosed with hstill | ⟨onChat, hopened⟩
  · exact Client.disarmed_of_closed hstill
  · rw [hopened]
    exact openProfile_disarmed server onChat

/-! ## Keys in the overlay -/

theorem afterTurn_key (onChat : s.client.page = .chat) (hopen : s.client.profile = some p)
    (k : Key) : s.afterTurn server (.key k) = s.pressOnProfile server p k := by
  unfold afterTurn press
  rw [onChat]
  unfold pressOnChat
  rw [hopen]

/-- Typing, moving between the fields, saving and closing all take the order back. -/
theorem pressOnProfile_disarmed (server : Server) {k : Key} (hk : k.control = false)
    (onChat : s.client.page = .chat) (hopen : s.client.profile = some p)
    (hidle : p.loading = false) : (s.pressOnProfile server p k).client.Disarmed := by
  have hcancelled : (s.onProfile Profile.cancelDelete).client.Disarmed := by
    refine Client.Disarmed.onProfile (fun hapart => absurd onChat hapart) fun q hq => ?_
    obtain rfl : p = q := Option.some.inj (hopen.symm.trans hq)
    exact ⟨p.loading_cancelDelete.trans hidle, p.armed_cancelDelete⟩
  unfold pressOnProfile
  rw [if_neg (by simp [hk])]
  split
  · exact Client.disarmed_of_closed rfl
  · rw [if_neg (by simp [hidle])]
    dsimp only
    split
    · exact Client.Disarmed.onProfile hcancelled.apart hcancelled.resting
    · exact Client.Disarmed.onProfile hcancelled.apart hcancelled.resting
    · exact Client.Disarmed.onProfile hcancelled.apart hcancelled.resting
    · exact Client.Disarmed.onProfile hcancelled.apart hcancelled.resting
    · exact saveAndRemember_disarmed server hcancelled
    · refine Client.Disarmed.onProfile hcancelled.apart fun q hq => ?_
      have hresting := hcancelled.resting q hq
      exact ⟨(q.loading_edit _).trans hresting.1, (q.armed_edit _).trans hresting.2⟩

/-- No key but the one that deletes asks for the deletion, and none but the one that saves asks for
a change. -/
theorem pressOnProfile_confined (server : Server) (hopen : s.client.profile = some p) {k : Key}
    {may : Call → Prop} (hlogout : may .logout) (hdelete : k = .deletion → may .deleteMe)
    (hupdate : k = .saving → ∀ update, p.update = .ok update → may (.updateMe update)) :
    Confined server may (fun _ => ()) s (s.pressOnProfile server p k) := by
  have hcancel : Confined server may (fun _ => ()) s (s.onProfile Profile.cancelDelete) :=
    Confined.onProfile .refl _ rfl
  obtain ⟨code, control⟩ := k
  unfold pressOnProfile
  split
  · rename_i hcontrol
    obtain rfl : control = true := hcontrol
    unfold pressControlOnProfile
    dsimp only
    split
    · exact (signOut_confined server s hlogout).forgets
    · have hdeleted : Confined server may (fun _ => ()) s (s.deleteAccount server).1 :=
        deleteAccount_confined server s (fun _ _ _ => hdelete rfl) hlogout
      generalize s.deleteAccount server = answer at hdeleted ⊢
      obtain ⟨t, deleted⟩ := answer
      cases deleted with
      | true => exact Confined.forgets hdeleted
      | false => exact hdeleted
    · exact .refl
  · rename_i hcontrol
    obtain rfl : control = false := eq_false_of_ne_true hcontrol
    split
    · exact .single (.shows _ rfl)
    · split
      · exact .refl
      · dsimp only
        split
        · exact hcancel.onProfile _ rfl
        · exact hcancel.onProfile _ rfl
        · exact hcancel.onProfile _ rfl
        · exact hcancel.onProfile _ rfl
        · have hsave : Confined server may Client.page (s.onProfile Profile.cancelDelete)
              ((s.onProfile Profile.cancelDelete).saveAndRemember server) := by
            refine saveAndRemember_confined server _ fun q update hq hsent => ?_
            obtain rfl : p.cancelDelete = q := by
              rw [onProfile, onClient, Client.onProfile, hopen] at hq
              exact Option.some.inj hq
            exact hupdate rfl update (p.update_cancelDelete ▸ hsent)
          exact hcancel.trans (hsave.weaken fun _ _ _ => rfl)
        · exact hcancel.onProfile _ rfl

theorem deletion_arms (server : Server) (h : s.client.Disarmed)
    (hopen : s.client.profile = some p) :
    (s.pressOnProfile server p .deletion).client.Armed
      { p with armed := true, message := "", error := Profile.confirmationText } := by
  have onChat : s.client.page = .chat := by
    by_contra hapart
    exact nomatch hopen.symm.trans (h.apart hapart)
  obtain ⟨hidle, hunarmed⟩ := h.resting p hopen
  have hpress : s.pressOnProfile server p .deletion = s.onProfile fun p =>
      { p with armed := true, message := "", error := Profile.confirmationText } := by
    unfold pressOnProfile pressControlOnProfile Key.deletion
    simp only [if_true, deleteAccount_eq server hopen, hunarmed, Bool.false_eq_true, if_false]
  rw [hpress]
  exact ⟨onChat, congrArg (Option.map _) hopen, rfl, hidle, rfl⟩

/-- The second press asks the server once, before anything else is asked, and leaves no overlay
armed. -/
theorem deletion_spends (server : Server) (h : s.client.Armed p) :
    Confined server (· ≠ .deleteMe) (fun _ => ()) (s.ask server .deleteMe).1
        (s.afterTurn server (.key .deletion)) ∧
      (s.afterTurn server (.key .deletion)).client.Disarmed := by
  have hpress : s.afterTurn server (.key .deletion) = s.pressControlOnProfile server (.char 'd') :=
    afterTurn_key h.onChat h.overlay .deletion
  rw [hpress, pressControlOnProfile, deleteAccount_eq server h.overlay, if_pos h.armed]
  have hclient := client_ask server s .deleteMe
  generalize s.ask server .deleteMe = answer at hclient ⊢
  obtain ⟨t, reply⟩ := answer
  dsimp only at hclient ⊢
  have onChat : t.client.page = .chat := hclient ▸ h.onChat
  cases reply.content? with
  | ok _ =>
      have hsettled : Confined server (· ≠ .deleteMe) (fun _ => ()) t
          (t.onProfile fun p => { p.settled with armed := false }) :=
        Confined.onProfile .refl _ rfl
      have hout := hsettled.trans (signOut_confined server _ nofun)
      exact ⟨Confined.forgets hout, forget_disarmed (signOut_disarmed server _)⟩
  | error _ =>
      exact ⟨Confined.onProfile .refl _ rfl, Client.Disarmed.onProfile
        (fun hapart => absurd onChat hapart) fun _ _ => ⟨rfl, rfl⟩⟩

/-- The other keys with Control close the overlay or leave everything as it is. -/
theorem pressOnProfile_of_control (server : Server) (s : Station) (p : Profile) {k : Key}
    (hcontrol : k.control = true) (hk : k ≠ .deletion) :
    (s.pressOnProfile server p k).client.Disarmed ∨ s.pressOnProfile server p k = s := by
  obtain ⟨code, control⟩ := k
  obtain rfl : control = true := hcontrol
  unfold pressOnProfile
  rw [if_pos rfl]
  unfold pressControlOnProfile
  dsimp only
  split
  · exact .inl (forget_disarmed (signOut_disarmed server s))
  · exact absurd rfl hk
  · exact .inr rfl

/-! ## Turns -/

/-- Without an armed overlay a turn arms one only where the key that deletes is pressed on it. -/
theorem turn_of_disarmed (server : Server) (h : s.client.Disarmed) (turn : Turn) :
    (s.afterTurn server turn).client.Disarmed ∨
      turn = .key .deletion ∧ ∃ p, (s.afterTurn server turn).client.Armed p := by
  cases hopen : s.client.profile with
  | none => exact .inl ((turn_deed server s turn).disarmed hopen)
  | some p =>
      have onChat : s.client.page = .chat := by
        by_contra hapart
        exact nomatch hopen.symm.trans (h.apart hapart)
      cases turn with
      | link e =>
          have hlink : Confined server (fun _ => True) Client.account s (s.onLink server e) :=
            onLink_confined server s e fun _ => trivial
          exact .inl (h.of_surface hlink.surface)
      | key k =>
          rw [afterTurn_key onChat hopen]
          cases hcontrol : k.control with
          | false =>
              exact .inl (pressOnProfile_disarmed server hcontrol onChat hopen
                (h.resting p hopen).1)
          | true =>
              by_cases hk : k = .deletion
              · exact .inr ⟨congrArg Turn.key hk, _, hk ▸ deletion_arms server h hopen⟩
              · rcases pressOnProfile_of_control server s p hcontrol hk with hclosed | hsame
                · exact .inl hclosed
                · exact .inl (hsame.symm ▸ h)

/-- An armed overlay stays as it is or is disarmed, and it stays armed only if the turn is
harmless. -/
theorem turn_of_armed (server : Server) (h : s.client.Armed p) {turn : Turn}
    (hturn : turn ≠ .key .deletion) :
    (s.afterTurn server turn).client.Disarmed ∨
      turn.Harmless ∧ (s.afterTurn server turn).client.Armed p := by
  cases turn with
  | link e =>
      have hlink : Confined server (fun _ => True) Client.account s (s.onLink server e) :=
        onLink_confined server s e fun _ => trivial
      exact .inr ⟨trivial, h.of_surface hlink.surface⟩
  | key k =>
      have hk : k ≠ .deletion := fun hk => hturn (congrArg Turn.key hk)
      rw [afterTurn_key h.onChat h.overlay]
      cases hcontrol : k.control with
      | false => exact .inl (pressOnProfile_disarmed server hcontrol h.onChat h.overlay h.idle)
      | true =>
          rcases pressOnProfile_of_control server s p hcontrol hk with hclosed | hsame
          · exact .inl hclosed
          · exact .inr ⟨⟨hcontrol, hk⟩, hsame.symm ▸ h⟩

/-- No turn asks for the deletion but the second press. -/
theorem turn_confined (server : Server) (turn : Turn)
    (h : s.client.Disarmed ∨ turn ≠ .key .deletion ∧ ∃ p, s.client.Armed p) :
    Confined server (· ≠ .deleteMe) (fun _ => ()) s (s.afterTurn server turn) := by
  rcases h with h | ⟨hturn, p, h⟩
  · refine (turn_deed server s turn).confined (fun _ hplain => hplain.ne_deleteMe)
      (fun _ _ => nofun) fun p hopen harmed => ?_
    exact absurd harmed (Bool.eq_false_iff.mp (h.resting p hopen).2)
  · cases turn with
    | link e =>
        have hlink : Confined server (· ≠ .deleteMe) Client.account s (s.onLink server e) :=
          onLink_confined server s e fun _ => nofun
        exact hlink.weaken fun _ _ _ => rfl
    | key k =>
        rw [afterTurn_key h.onChat h.overlay]
        exact pressOnProfile_confined server h.overlay nofun
          (fun hk => absurd (congrArg Turn.key hk) hturn) fun _ _ _ => nofun

/-! ## Requests -/

/-- A call makes one request, or none where its address cannot be asked. -/
theorem requests_ask (server : Server) (s : Station) (c : Call) :
    (s.ask server c).1.requests =
      s.requests ++ (s.agent.urlOf? c).toList.map (s.agent.requestTo s.now c) := by
  unfold ask
  cases s.agent.urlOf? c with
  | none => exact (List.append_nil _).symm
  | some u => rfl

def Deletes (base : String) (s t : Station) : Prop :=
  ∃ others, t.requests =
      s.requests ++ (s.agent.urlOf? .deleteMe).toList.map (s.agent.requestTo s.now .deleteMe) ++
        others ∧
    ∀ r ∈ others, ∃ c : Call, c ≠ .deleteMe ∧ c.Sends base r

theorem deletion_deletes (server : Server) (hbase : s.agent.base = base) (h : s.client.Armed p) :
    Deletes base s (s.afterTurn server (.key .deletion)) := by
  have hasked : Asks (· = .deleteMe) base s (s.ask server .deleteMe).1 :=
    asks_ask server hbase rfl
  obtain ⟨others, hothers, hsent⟩ := ((deletion_spends server h).1.asked hasked.below).requests
  refine ⟨others, ?_, hsent⟩
  rw [hothers, requests_ask]

/-! ## Runs -/

/-- The key that deletes was pressed on an overlay that was not armed.  It armed the overlay, and
one and the same armed overlay has been there ever since, with nothing pressed on it but keys with
Control. -/
structure ArmedSince (server : Server) (s : Station) (earlier between : List Turn) (p : Profile) :
    Prop where
  unarmed : (s.afterTurns server earlier).client.Disarmed
  harmless : ∀ turn ∈ between, turn.Harmless
  standing : ∀ since, since <+: between →
    (s.afterTurns server (earlier ++ .key .deletion :: since)).client.Armed p

theorem ArmedSince.armed {earlier between : List Turn} (h : ArmedSince server s earlier between p) :
    (s.afterTurns server (earlier ++ .key .deletion :: between)).client.Armed p :=
  h.standing between (List.prefix_refl between)

theorem armedSince_press {earlier : List Turn} (h : (s.afterTurns server earlier).client.Disarmed)
    (harmed : (s.afterTurns server (earlier ++ [.key .deletion])).client.Armed p) :
    ArmedSince server s earlier [] p := by
  refine ⟨h, nofun, fun since hsince => ?_⟩
  rw [List.prefix_nil.mp hsince]
  exact harmed

theorem ArmedSince.concat {earlier between : List Turn} {turn : Turn}
    (h : ArmedSince server s earlier between p) (hturn : turn.Harmless)
    (harmed : (s.afterTurns server (earlier ++ .key .deletion :: (between ++ [turn]))).client.Armed
      p) : ArmedSince server s earlier (between ++ [turn]) p := by
  refine ⟨h.unarmed, ?_, fun since hsince => ?_⟩
  · intro other hother
    rcases List.mem_append.mp hother with hother | hother
    · exact h.harmless other hother
    · exact List.mem_singleton.mp hother ▸ hturn
  · rcases List.prefix_concat_iff.mp hsince with rfl | hsince
    · exact harmed
    · exact h.standing since hsince

/-- After any turns the overlay is disarmed, or it has been armed since a press of the key that
deletes. -/
theorem disarmed_or_armedSince (server : Server) (h : s.client.Disarmed) (turns : List Turn) :
    (s.afterTurns server turns).client.Disarmed ∨
      ∃ earlier between p, turns = earlier ++ .key .deletion :: between ∧
        ArmedSince server s earlier between p := by
  induction turns using List.reverseRecOn with
  | nil => exact .inl h
  | append_singleton turns turn ih =>
      rcases ih with hdisarmed | ⟨earlier, between, p, rfl, hsince⟩
      · rcases turn_of_disarmed server hdisarmed turn with hstill | ⟨rfl, p, harmed⟩
        · rw [afterTurns_concat]
          exact .inl hstill
        · rw [← afterTurns_concat] at harmed
          exact .inr ⟨turns, [], p, rfl, armedSince_press hdisarmed harmed⟩
      · by_cases hturn : turn = .key .deletion
        · subst hturn
          rw [afterTurns_concat]
          exact .inl (deletion_spends server hsince.armed).2
        · rcases turn_of_armed server hsince.armed hturn with hstill | ⟨hharmless, harmed⟩
          · rw [afterTurns_concat]
            exact .inl hstill
          · rw [← afterTurns_concat, List.append_assoc, List.cons_append] at harmed
            refine .inr ⟨earlier, between ++ [turn], p, ?_, hsince.concat hharmless harmed⟩
            rw [List.append_assoc, List.cons_append]

theorem disarmed_turns (server : Server) (h : s.client.Disarmed) {turns : List Turn}
    (hunpressed : .key .deletion ∉ turns) : (s.afterTurns server turns).client.Disarmed := by
  rcases disarmed_or_armedSince server h turns with hdisarmed | ⟨earlier, between, p, rfl, -⟩
  · exact hdisarmed
  · exact absurd (List.mem_append_right earlier List.mem_cons_self) hunpressed

theorem start_closes (server : Server) (bypass : Bool) (hclosed : s.client.profile = none) :
    (s.start server bypass).2.client.profile = none := by
  have hresolve : ((s.showLoading checking).resolveIdentity server bypass).1.client.profile =
      none := by
    unfold resolveIdentity
    split
    · exact hclosed
    · have hclient := client_ask server (s.showLoading checking) .me
      generalize (s.showLoading checking).ask server .me = answer at hclient ⊢
      obtain ⟨t, reply⟩ := answer
      dsimp only at hclient ⊢
      rw [hclient]
      exact hclosed
  unfold start
  dsimp only
  generalize (s.showLoading checking).resolveIdentity server bypass = answer at hresolve ⊢
  obtain ⟨t, who⟩ := answer
  cases who with
  | none => exact hresolve
  | some who =>
      dsimp only
      exact enterChat_closes server _ who

theorem base_afterTurns (server : Server) (hbase : s.agent.base = base) (turns : List Turn) :
    (s.afterTurns server turns).agent.base = base := by
  induction turns generalizing s with
  | nil => exact hbase
  | cons turn more ih =>
      have hturn : Confined server (fun _ => True) (fun _ => ()) s (s.afterTurn server turn) :=
        (turn_deed server s turn).confined (fun _ _ => trivial) (fun _ _ => trivial)
          fun _ _ _ => trivial
      exact ih (hturn.asked hbase).below

/-- In every run, whatever the server replies and the links report, the deletion of the account is
asked for by nothing but a press of its key on an overlay that an earlier press of that key has
armed and that has asked for the confirmation ever since, with no keys pressed on it but some with
Control.  The request uses the arming up: to make another takes another press that arms.  Every
other turn leaves the overlay disarmed, or it is harmless and leaves an armed overlay as it is. -/
theorem deletion_confirmed_twice (server : Server) (bypass : Bool) (agent : Agent)
    (kept : Option String) (now : Int) (turns : List Turn) (turn : Turn) :
    let fresh : Station := { agent := agent, kept := kept, now := now }
    let first := (fresh.start server bypass).2
    let s := first.afterTurns server turns
    let t := s.afterTurn server turn
    Asks (· ≠ .deleteMe) agent.base fresh first ∧
    (Asks (· ≠ .deleteMe) agent.base s t ∨
      turn = .key .deletion ∧ Deletes agent.base s t ∧ t.client.Disarmed ∧
        ∃ earlier between p, turns = earlier ++ .key .deletion :: between ∧
          ArmedSince server first earlier between p) ∧
    (∀ earlier later p, turns = earlier ++ .key .deletion :: later →
      (first.afterTurns server earlier).client.Armed p → .key .deletion ∉ later →
      s.client.Disarmed) ∧
    (t.client.Disarmed ∨
      turn = .key .deletion ∧ s.client.Disarmed ∧ (∃ p, t.client.Armed p) ∨
      turn.Harmless ∧ ∃ p, s.client.Armed p ∧ t.client.Armed p) := by
  intro fresh first s t
  have hstart : Asks (· ≠ .deleteMe) agent.base fresh first :=
    (start_confined server bypass fresh fun _ hplain => hplain.ne_deleteMe).asked rfl
  have hbase : s.agent.base = agent.base := base_afterTurns server hstart.below turns
  have hfirst : first.client.Disarmed :=
    Client.disarmed_of_closed (start_closes server bypass rfl)
  have hspent : ∀ earlier later p, turns = earlier ++ .key .deletion :: later →
      (first.afterTurns server earlier).client.Armed p → .key .deletion ∉ later →
      s.client.Disarmed := by
    intro earlier later p hturns harmed hunpressed
    have hlater := disarmed_turns server (deletion_spends server harmed).2 hunpressed
    rwa [← afterTurns_concat, ← afterTurns_append, List.append_assoc, List.singleton_append,
      ← hturns] at hlater
  rcases disarmed_or_armedSince server hfirst turns with
    hdisarmed | ⟨earlier, between, p, hturns, hsince⟩
  · have hasked := (turn_confined server turn (.inl hdisarmed)).asked hbase
    refine ⟨hstart, .inl hasked, hspent, ?_⟩
    rcases turn_of_disarmed server hdisarmed turn with hstill | ⟨hturn, harmed⟩
    · exact .inl hstill
    · exact .inr (.inl ⟨hturn, hdisarmed, harmed⟩)
  · have harmed : s.client.Armed p := by
      have hstanding := hsince.armed
      rwa [← hturns] at hstanding
    by_cases hturn : turn = .key .deletion
    · subst hturn
      have hdisarmed := (deletion_spends server harmed).2
      exact ⟨hstart, .inr ⟨rfl, deletion_deletes server hbase harmed, hdisarmed, earlier, between, p,
        hturns, hsince⟩, hspent, .inl hdisarmed⟩
    · have hasked := (turn_confined server turn (.inr ⟨hturn, p, harmed⟩)).asked hbase
      refine ⟨hstart, .inl hasked, hspent, ?_⟩
      rcases turn_of_armed server harmed hturn with hstill | ⟨hharmless, hstanding⟩
      · exact .inl hstill
      · exact .inr (.inr ⟨hharmless, p, harmed, hstanding⟩)

end Station

end ChatTerminal
