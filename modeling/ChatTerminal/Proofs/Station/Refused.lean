import ChatTerminal.Proofs.Json.Document
import ChatTerminal.Proofs.Json.Writing
import ChatTerminal.Proofs.Station.Banners
/-!
# Refused credentials and accounts

The body of an error answer may tell the user why: in the last member `error` of a document that is
an object, or in its last member `message` if there is no string under `error`.  A refused sign-in
and a refused account show this text as it is, and a text of their own for every other body.
-/

namespace ChatTerminal

open Json

/-! ## What a body tells -/

/-- The body is an object whose last member `error` is the string `text`, or it has no string there
and its last member `message` is. -/
def ErrorText (body text : String) : Prop :=
  ∃ members, Document (.object members) body.toList ∧
    (LastText "error" members text ∨
      (¬ ∃ other, LastText "error" members other) ∧ LastText "message" members text)

theorem textUnder_iff {members : List (List Piece × Tree)} {name text : String}
    (hnarrow : Tree.Narrow (.object members)) :
    ((Tree.object members).lastMember? name.toList).bind Tree.text? = some text ↔
      LastText name members text := by
  rw [Option.bind_eq_some_iff, LastText]
  refine exists_congr fun v => ?_
  rw [lastMember?_eq_some_iff hnarrow]
  refine and_congr_right fun hlast => Tree.text?_eq_some_iff ?_
  obtain ⟨before, key, after, rfl, -, -⟩ := hlast
  have hmem : (key, v) ∈ before ++ (key, v) :: after := by simp
  exact hnarrow.value hmem

theorem serverMessage?_eq (body : String) :
    serverMessage? body = (Tree.ofDocument? body.toList).bind fun t =>
      ((t.lastMember? "error".toList).bind Tree.text?).or
        ((t.lastMember? "message".toList).bind Tree.text?) := by
  unfold serverMessage?
  refine congrArg _ (funext fun t => ?_)
  cases (t.lastMember? "error".toList).bind Tree.text? <;> rfl

theorem lastMember?_of_not_object {t : Tree} (h : ∀ members, t ≠ .object members)
    (name : List Char) : t.lastMember? name = none := by
  cases t with
  | object members => exact absurd rfl (h members)
  | null | boolean | number | string | array => rfl

theorem serverMessage?_eq_some_iff {body text : String} :
    serverMessage? body = some text ↔ ErrorText body text := by
  rw [serverMessage?_eq, Option.bind_eq_some_iff]
  simp only [ofDocument?_eq_some_iff, Option.or_eq_some_iff, Option.eq_none_iff_forall_ne_some]
  constructor
  · rintro ⟨t, hdocument, htexts⟩
    obtain ⟨members, rfl⟩ : ∃ members, t = .object members := by
      by_contra hother
      have hnone := lastMember?_of_not_object (not_exists.mp hother)
      rcases htexts with hread | ⟨-, hread⟩
      · exact nomatch (hnone _ ▸ hread)
      · exact nomatch (hnone _ ▸ hread)
    simp only [ne_eq, textUnder_iff hdocument.spelled.narrow, ← not_exists] at htexts
    exact ⟨members, hdocument, htexts⟩
  · rintro ⟨members, hdocument, htexts⟩
    refine ⟨.object members, hdocument, ?_⟩
    simp only [ne_eq, textUnder_iff hdocument.spelled.narrow, ← not_exists]
    exact htexts

theorem exists_errorText (text : String) : ∃ body, ErrorText body text := by
  let key := "error".toList.map Piece.of
  let ps := text.toList.map Piece.of
  let t : Tree := .object [(key, .string ps)]
  have htokens : t.tokens = [.leftBrace, .string key, .colon, .string ps, .rightBrace] := rfl
  have hspelled : ∃ s, t.Spelled s := by
    refine Laid.of_writable fun token htoken => ?_
    simp only [htokens, List.mem_cons, List.not_mem_nil, or_false] at htoken
    rcases htoken with rfl | rfl | rfl | rfl | rfl
    · exact ⟨_, rfl⟩
    · exact writable_string _
    · exact ⟨_, rfl⟩
    · exact writable_string _
    · exact ⟨_, rfl⟩
  obtain ⟨s, hs⟩ := hspelled
  refine ⟨String.ofList s, [(key, .string ps)], ⟨?_, ?_, ?_, ?_⟩, .inl ⟨.string ps, ?_, ?_⟩⟩
  · rwa [String.toList_ofList]
  · exact (by decide : 1 ≤ 127)
  · intro n hn
    change _ ∈ t.tokens at hn
    simp [htokens] at hn
  · intro qs hqs
    change _ ∈ t.tokens at hqs
    simp only [htokens, List.mem_cons, Token.string.injEq, reduceCtorEq, List.not_mem_nil,
      or_false, false_or] at hqs
    rcases hqs with rfl | rfl
    · exact ⟨_, .of _⟩
    · exact ⟨_, .of _⟩
  · exact ⟨[], key, [], rfl, .of _, List.forall_mem_nil _⟩
  · exact ⟨ps, rfl, .of _⟩

namespace Station

/-! ## What the form shows -/

inductive FormCall (f : SignIn) : Call → String → Prop where
  | login (hmode : f.mode = .login) : FormCall f (.login f.loginRequest) SignIn.loginFailed
  | register (hmode : f.mode = .register) {account : Fields}
      (haccount : f.registerRequest = .ok account) :
      FormCall f (.register account) SignIn.registerFailed

def received (status : Nat) (body : String) : String := if isBodiless status then "" else body

variable {server : Server} {s : Station} {call : Call} {fallback body : String} {status : Nat}
  {cookies : List String}

theorem value?_refused {α : Type} (read : Json.Tree → Option α) (body : String)
    (cookies : List String) (hstatus : ¬ (200 ≤ status ∧ status < 300)) :
    (Reply.answered status body cookies).value? read =
      .error (.refused status (serverMessage? (received status body))) := by
  have hno : ¬ (decide (200 ≤ status) && decide (status < 300)) = true := by
    simpa using hstatus
  rw [Reply.value?, Reply.content?, if_neg hno]
  rfl

theorem userText_refused (status : Nat) (message : Option String) (fallback : String) :
    (Failure.refused status message).userText fallback = message.getD fallback := by
  cases message <;> rfl

/-- The form shows the message of a refusal, and its own text where there is none. -/
theorem banners?_submit (h : FormCall s.client.signIn call fallback)
    (hreply : (s.ask server call).2 = .answered status body cookies)
    (hstatus : ¬ (200 ≤ status ∧ status < 300)) :
    (s.submit server).client.banners? .signIn =
      some ⟨(serverMessage? (received status body)).getD fallback, ""⟩ := by
  rw [submit]
  cases h with
  | login hmode =>
      rw [hmode]
      dsimp only
      rw [signIn_eq]
      dsimp only
      rw [hreply, value?_refused _ _ _ hstatus]
      dsimp only
      rw [userText_refused]
      rfl
  | register hmode haccount =>
      rw [hmode]
      dsimp only
      rw [register_eq, haccount]
      dsimp only
      rw [hreply, value?_refused _ _ _ hstatus]
      dsimp only
      rw [userText_refused]
      rfl

/-- The message of an error answer is the text that its body tells, and every text can be told.  A
sign-in or an account that the server answers with an error status is explained in the form by that
text as it is, and by the fixed text of the form if the body tells none. -/
theorem refusal_shown :
    (∀ body text, serverMessage? body = some text ↔ ErrorText body text) ∧
    (∀ text, ∃ body, ErrorText body text) ∧
    ∀ (server : Server) (s : Station) {call : Call} {fallback body : String} {status : Nat}
      {cookies : List String}, FormCall s.client.signIn call fallback →
      (s.ask server call).2 = .answered status body cookies →
      ¬ (200 ≤ status ∧ status < 300) →
      (∀ text, ErrorText (received status body) text →
        (s.submit server).client.banners? .signIn = some ⟨text, ""⟩) ∧
      ((¬ ∃ text, ErrorText (received status body) text) →
        (s.submit server).client.banners? .signIn = some ⟨fallback, ""⟩) := by
  refine ⟨fun _ _ => serverMessage?_eq_some_iff, exists_errorText, ?_⟩
  intro server s call fallback body status cookies hcall hreply hstatus
  rw [banners?_submit hcall hreply hstatus]
  constructor
  · intro text htext
    rw [serverMessage?_eq_some_iff.mpr htext]
    rfl
  · intro hnone
    have hsilent : serverMessage? (received status body) = none := by
      rw [Option.eq_none_iff_forall_ne_some]
      exact fun text htext => hnone ⟨text, serverMessage?_eq_some_iff.mp htext⟩
    rw [hsilent]
    rfl

/-- A body with two members `error`, the second of which is a string with an escape. -/
theorem refusal_shown_with_repeated_error :
    let body := "\x7b\"message\":\"m\", \"error\":1, \"error\":\"no\\u0020entry\", \"x\":[[]]\x7d"
    let server : Server := fun _ _ => .answered 401 body []
    let agent : Agent := ⟨"http://[::1]", { scheme := "http".toList }, {}⟩
    let s : Station := { agent := agent }
    ErrorText body "no entry" ∧
      (s.submit server).client.banners? .signIn = some ⟨"no entry", ""⟩ := by
  intro body server agent s
  have htext : ErrorText body "no entry" := (refusal_shown.1 _ _).mp (by decide +kernel)
  have hreply : (s.ask server (.login s.client.signIn.loginRequest)).2 = .answered 401 body [] := by
    decide +kernel
  exact ⟨htext, (refusal_shown.2.2 server s (.login rfl) hreply (by decide)).1 _ htext⟩

end Station

end ChatTerminal
