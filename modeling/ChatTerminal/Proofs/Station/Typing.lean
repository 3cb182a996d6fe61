import ChatTerminal.Proofs.Client.Focus
import ChatTerminal.Proofs.Station.Deeds
/-!
# Typing

The same letters are typed into text fields and used as shortcuts, and what is on display decides
which they are.  Where a text field has the keyboard they are typed: a text that is keyed in goes
into the field, and the station is otherwise left alone.
-/

namespace ChatTerminal.Station

variable {server : Server} {s : Station} {focus : Client.Focus}

theorem pressOnProfile_ofChar (server : Server) {p : Profile} (hopen : s.client.profile = some p)
    (hidle : p.loading = false) (ch : Char) :
    s.pressOnProfile server p (.ofChar ch) = s.onClient (·.typed (.overlay p.focus) [ch]) := by
  have hpress : s.pressOnProfile server p (.ofChar ch) =
      s.onProfile ((·.edit (·.insert ch)) ∘ Profile.cancelDelete) := by
    rw [← onProfile_onProfile]
    simp only [pressOnProfile, Key.ofChar, hidle]
    rfl
  rw [hpress, onProfile, onClient, Client.editOverlay_insert hopen, onClient]

theorem pressOnPrompt_ofChar (server : Server) {which : Prompt}
    (hprompt : s.client.prompt = some which) (ch : Char) :
    s.pressOnPrompt server which (.ofChar ch) = s.onClient (·.typed (.prompt which) [ch]) := by
  have hpress : s.pressOnPrompt server which (.ofChar ch) =
      s.onClient (·.editPrompt (·.insert ch)) := by
    cases which <;> rfl
  rw [hpress, onClient, Client.editPrompt_insert hprompt, onClient]

theorem press_ofChar (server : Server) (hfocus : s.client.focus? = some focus) (ch : Char) :
    s.press server (.ofChar ch) = (s.onClient (·.typed focus [ch]), .stay) := by
  cases focus with
  | signIn which =>
      obtain ⟨hpage, hidle, rfl⟩ := Client.focus?_eq_signIn_iff.mp hfocus
      simp only [press, hpage, pressOnSignIn, hidle]
      rfl
  | overlay which =>
      obtain ⟨hpage, p, hopen, hidle, rfl⟩ := Client.focus?_eq_overlay_iff.mp hfocus
      simp only [press, hpage, pressOnChat, hopen, pressOnProfile_ofChar server hopen hidle]
  | prompt which =>
      obtain ⟨hpage, hclosed, hprompt⟩ := Client.focus?_eq_prompt_iff.mp hfocus
      simp only [press, hpage, pressOnChat, hclosed, hprompt, pressOnPrompt_ofChar server hprompt]
  | draft =>
      obtain ⟨hpage, hclosed, hunasked, hpanel⟩ := Client.focus?_eq_draft_iff.mp hfocus
      simp only [press, hpage, pressOnChat, hclosed, hunasked, hpanel]
      rfl

theorem turn_ofChar (server : Server) (s : Station) (ch : Char) :
    s.turn server (.key (.ofChar ch)) = s.press server (.ofChar ch) :=
  if_neg (by simp [Key.ofChar, Key.interrupt])

def typing (text : List Char) : List Turn := text.map fun ch => .key (.ofChar ch)

theorem typing_concat (text : List Char) (ch : Char) :
    typing (text ++ [ch]) = typing text ++ [.key (.ofChar ch)] := by
  simp [typing]

/-- A text that is keyed in, by induction on its end: the field still has the keyboard when the last
character comes. -/
theorem afterTurns_typing (server : Server) (hfocus : s.client.focus? = some focus)
    (text : List Char) :
    s.afterTurns server (typing text) = s.onClient (·.typed focus text) := by
  induction text using List.reverseRecOn with
  | nil => rfl
  | append_singleton text ch ih =>
      have hthere : (s.onClient (·.typed focus text)).client.focus? = some focus :=
        (Client.focus?_typed s.client focus text).trans hfocus
      calc s.afterTurns server (typing (text ++ [ch]))
          = (s.onClient (·.typed focus text)).afterTurn server (.key (.ofChar ch)) := by
            rw [typing_concat, afterTurns_concat, ih]
        _ = (s.onClient (·.typed focus text)).onClient (·.typed focus [ch]) :=
            congrArg Prod.fst (press_ofChar server hthere ch)
        _ = s.onClient (·.typed focus (text ++ [ch])) := by
            simp only [onClient, Client.typed_typed hfocus]

/-- What is typed into a text field goes into that field and nowhere else, letters that are
shortcuts elsewhere included.  The field holds the text where its cursor was, with the cursor right
behind it; in the overlay a pending confirmation is withdrawn together with its text; nothing is
asked of the server or of the links, the kept session stays, and no key ends the run. -/
theorem typing_is_inert (server : Server) (s : Station) {focus : Client.Focus}
    (hfocus : s.client.focus? = some focus) (text : List Char) :
    let t := s.afterTurns server (typing text)
    TextField.Typed text (s.client.fieldOf focus) (t.client.fieldOf focus) ∧
      t = s.onClient (fun c => (if text = [] then c else c.withdrawn focus).withField focus
        (t.client.fieldOf focus)) ∧
      t.requests = s.requests ∧ t.linkCalls = s.linkCalls ∧ t.kept = s.kept ∧
      ∀ earlier ch later, text = earlier ++ ch :: later →
        ((s.afterTurns server (typing earlier)).turn server (.key (.ofChar ch))).2 = .stay := by
  intro t
  have ht : t = s.onClient (·.typed focus text) := afterTurns_typing server hfocus text
  have hrest : t = s.onClient (fun c => (if text = [] then c else c.withdrawn focus).withField focus
      (t.client.fieldOf focus)) := by
    rw [ht]
    exact congrArg (fun c => { s with client := c }) (Client.typed_rest hfocus text)
  refine ⟨?_, hrest, ?_, ?_, ?_, ?_⟩
  · rw [ht]
    exact Client.typed_field hfocus text
  · rw [ht, onClient]
  · rw [ht, onClient]
  · rw [ht, onClient]
  · intro earlier ch later _
    have hthere : (s.onClient (·.typed focus earlier)).client.focus? = some focus :=
      (Client.focus?_typed s.client focus earlier).trans hfocus
    rw [afterTurns_typing server hfocus earlier, turn_ofChar, press_ofChar server hthere ch]

/-- Letters that are shortcuts, typed into the middle of a name while the deletion of the account
waits for its confirmation. -/
theorem typing_is_inert_beside_deletion :
    let p : Profile :=
      { name := ⟨"aé語", 3, false⟩, armed := true, error := Profile.confirmationText }
    let s : Station :=
      { client := { page := .chat, profile := some p, prompt := some .search }
        agent := ⟨"http://[::1]", { scheme := "http".toList }, {}⟩ }
    let t := s.afterTurns (fun _ _ => .dropped) (typing "qdcphejk/r".toList)
    s.client.focus? = some (.overlay .name) ∧
      t.client.profile =
        some { p with name := ⟨"aéqdcphejk/r語", 13, false⟩, armed := false, error := "" } ∧
      t.client.prompt = some .search ∧ t.requests = [] ∧ t.linkCalls = [] := by
  intro p s t
  have hfocus : s.client.focus? = some (.overlay .name) := rfl
  obtain ⟨hfield, hrest, hrequests, hlinkCalls, -, -⟩ :=
    typing_is_inert (fun _ _ => .dropped) s hfocus "qdcphejk/r".toList
  have hname : t.client.fieldOf (.overlay .name) = ⟨"aéqdcphejk/r語", 13, false⟩ :=
    (hfield.eq_typed (by decide)).trans (by decide)
  have hclient : t.client = (s.client.withdrawn (.overlay .name)).withField (.overlay .name)
      ⟨"aéqdcphejk/r語", 13, false⟩ := by
    have hsome : "qdcphejk/r".toList ≠ [] := by decide
    simp only [if_neg hsome] at hrest
    rw [← hname]
    exact congrArg Station.client hrest
  refine ⟨hfocus, ?_, ?_, hrequests, hlinkCalls⟩
  · rw [hclient]
    rfl
  · rw [hclient]
    rfl

end ChatTerminal.Station
