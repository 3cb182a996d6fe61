import ChatTerminal.Proofs.Station.Holdings
import ChatTerminal.Proofs.Station.Loading
/-!
# A user who takes another name

Whose a channel is shows in a name alone, so a user who saves another name takes the owned channels
along.  Nothing is confused by that unless the new name is already that of another owner: the same
channels are one's own, the same ones are not, and all of them are labelled as before.
-/

namespace ChatTerminal

/-! ## One channel -/

def Channel.renamed (c : Channel) (old new : String) : Channel :=
  if c.isOwnedBy old then { c with ownerName := some new } else c

namespace Channel

variable {c : Channel} {old new : String}

@[simp] theorem core_renamed (c : Channel) (old new : String) :
    (c.renamed old new).core = c.core := by
  unfold renamed
  split <;> rfl

theorem renamed_of_other (h : c.isOwnedBy old = false) : c.renamed old new = c := by
  rw [renamed, h]
  rfl

theorem isOwnedBy_renamed (hfree : c.ownerName = some new → c.ownerName = some old) :
    (c.renamed old new).isOwnedBy new = c.isOwnedBy old := by
  unfold renamed
  split
  · rename_i hmine
    rw [hmine]
    simp [isOwnedBy]
  · rename_i hother
    rw [Bool.eq_false_iff.mpr hother]
    simpa [isOwnedBy] using fun hnew => hother (beq_iff_eq.mpr (hfree hnew))

theorem label_renamed (hfree : c.ownerName = some new → c.ownerName = some old) :
    (c.renamed old new).label new = c.label old := by
  have hname : (c.renamed old new).name = c.name := congrArg (·.2.1) (c.core_renamed old new)
  unfold label
  rw [isOwnedBy_renamed hfree, hname]
  cases hmine : c.isOwnedBy old with
  | true => rfl
  | false => rw [renamed_of_other hmine]

end Channel

/-! ## All channels -/

namespace Directory

variable {d : Directory} {old new : String}

theorem channels_renameOwner (d : Directory) (old new : String) :
    (d.renameOwner old new).channels = d.channels.map (·.renamed old new) := rfl

theorem owned_renameOwner
    (hfree : ∀ c ∈ d.channels, c.ownerName = some new → c.ownerName = some old) :
    (d.renameOwner old new).owned new = (d.owned old).map (·.renamed old new) := by
  unfold owned
  rw [channels_renameOwner, List.filter_map]
  exact congrArg _ (List.filter_congr fun c hc => Channel.isOwnedBy_renamed (hfree c hc))

theorem joined_renameOwner
    (hfree : ∀ c ∈ d.channels, c.ownerName = some new → c.ownerName = some old) :
    (d.renameOwner old new).joined new = d.joined old := by
  have hothers : ∀ c ∈ d.channels.filter (! ·.isOwnedBy old), c.renamed old new = c := by
    intro c hc
    exact Channel.renamed_of_other (by simpa using (List.mem_filter.mp hc).2)
  have hkept : d.channels.filter ((! ·.isOwnedBy new) ∘ (·.renamed old new)) =
      d.channels.filter (! ·.isOwnedBy old) :=
    List.filter_congr fun c hc => congrArg (! ·) (Channel.isOwnedBy_renamed (hfree c hc))
  unfold joined
  rw [channels_renameOwner, List.filter_map, hkept, List.map_congr_left hothers, List.map_id']

theorem map_label_renameOwner
    (hfree : ∀ c ∈ d.channels, c.ownerName = some new → c.ownerName = some old) :
    (d.renameOwner old new).channels.map (·.label new) = d.channels.map (·.label old) := by
  rw [channels_renameOwner, List.map_map]
  exact List.map_congr_left fun c hc => Channel.label_renamed (hfree c hc)

/-- The same channels belong to the user under the new name as under the old one. -/
structure Renamed (d e : Directory) (old new : String) : Prop where
  cores : e.channels.map (·.core) = d.channels.map (·.core)
  owned : (e.owned new).map (·.id) = (d.owned old).map (·.id)
  others : e.joined new = d.joined old
  labels : e.channels.map (·.label new) = d.channels.map (·.label old)

theorem renamed_renameOwner
    (hfree : ∀ c ∈ d.channels, c.ownerName = some new → c.ownerName = some old) :
    d.Renamed (d.renameOwner old new) old new where
  cores := by
    rw [channels_renameOwner, List.map_map]
    exact List.map_congr_left fun c _ => c.core_renamed old new
  owned := by
    rw [owned_renameOwner hfree, List.map_map]
    exact List.map_congr_left fun c _ => congrArg Prod.fst (c.core_renamed old new)
  others := joined_renameOwner hfree
  labels := map_label_renameOwner hfree

end Directory

namespace Station

variable {server : Server} {s t : Station}

/-! ## Loading afterwards -/

def Settled (s : Station) : Prop :=
  ∀ server, ∀ c ∈ s.client.directory.channels,
    (s.loadChannels server).client.directory.get? c.id = some c

theorem settled_of_nodup (hsingle : s.client.directory.ids.Nodup) : s.Settled := by
  intro server c hc
  by_cases hfails : Flow.loadChannels.Fails server s
  · have hfollow := sidebar_follow_of_nothing (.inr hfails)
    have hkept : (s.loadChannels server).client.sidebar = s.client.sidebar := hfollow
    have hdirectory : (s.loadChannels server).client.directory = s.client.directory :=
      directory_of_sidebar hkept
    rw [hdirectory]
    exact Directory.get?_of_mem hsingle hc
  · obtain ⟨owned, joined, hfetched⟩ := fetches_of_not_fails hfails
    rw [directory_loadChannels hfetched]
    exact (Directory.merged_merge hsingle owned joined s.client.userName).held c hc

/-! ## Saving -/

theorem stocked_saveProfile (h : s.Stocked) (server : Server) :
    (s.saveProfile server).1.Stocked := by
  have hshift : Shift server s (s.saveProfile server).1 := by
    rcases sidebar_saveProfile server s with hkept | ⟨who, hrenamed⟩
    · exact .kept hkept
    · exact .renamed who hrenamed
  exact h.of_restocks hshift.restocks

/-- The server took the update of the overlay, and this is its answer. -/
structure Accepts (server : Server) (s : Station) (sent : Profile.Update)
    (answer : Option UserRecord) : Prop where
  offered : s.client.profile.map (·.update) = some (.ok sent)
  taken : (s.ask server (.updateMe sent)).2.value? UserRecord.ofAnswer? = .ok answer

theorem saveProfile_of_accepted (h : (s.saveProfile server).2 = true) :
    ∃ p sent answer, Accepts server s sent answer ∧
      (p.name.value, p.email.value) = Profile.afterSave sent answer ∧
      (s.saveProfile server).1.client =
        { s.client with profile := some p }.adopt ⟨p.name.value, p.email.value⟩ := by
  cases hopen : s.client.profile with
  | none =>
      rw [saveProfile_of_none server hopen] at h
      cases h
  | some p =>
      rw [saveProfile_eq server hopen] at h ⊢
      cases hsent : p.update with
      | error r =>
          rw [hsent] at h
          cases h
      | ok sent =>
          have hclient := client_ask server s (.updateMe sent)
          have haccepts : ∀ answer, (s.ask server (.updateMe sent)).2.value? UserRecord.ofAnswer? =
              .ok answer → Accepts server s sent answer :=
            fun answer hanswer => ⟨by rw [hopen, Option.map_some, hsent], hanswer⟩
          rw [hsent] at h
          dsimp only at h ⊢
          generalize s.ask server (.updateMe sent) = asked at *
          obtain ⟨t, reply⟩ := asked
          dsimp only at *
          cases hanswer : reply.value? UserRecord.ofAnswer? with
          | error e =>
              rw [hanswer] at h
              cases h
          | ok answer =>
              refine ⟨p.settled.saved sent answer, sent, answer, haccepts answer hanswer, rfl, ?_⟩
              rw [← hclient]
              rfl

/-- A save that the server takes makes the identity that of the overlay, as the answer tells it.
Where the new name is that of no other owner, the same channels stay one's own and the labels stay
the same; and no load changes a channel that is held, then or later. -/
theorem rename_keeps_ownership (haccepted : (s.saveProfile server).2 = true)
    (hfree : ∀ c ∈ s.client.directory.channels,
      c.ownerName = some (s.saveProfile server).1.client.userName →
        c.ownerName = some s.client.userName) :
    let t := (s.saveProfile server).1
    (∃ p sent answer, Accepts server s sent answer ∧ t.client.profile = some p ∧
      t.client.identity = some ⟨p.name.value, p.email.value⟩ ∧
      (p.name.value, p.email.value) = Profile.afterSave sent answer) ∧
    s.client.directory.Renamed t.client.directory s.client.userName t.client.userName ∧
    (s.client.directory.ids.Nodup → t.Settled) ∧
    (s.Stocked → ∀ later turns, (t.afterTurns later turns).Settled) := by
  intro t
  obtain ⟨p, sent, answer, haccepts, hsaved, hclient⟩ := saveProfile_of_accepted haccepted
  have hdirectory : t.client.directory =
      s.client.directory.renameOwner s.client.userName t.client.userName := by
    simp only [t, hclient]
    rfl
  refine ⟨⟨p, sent, answer, haccepts, by simp only [t, hclient]; rfl, ?_, hsaved⟩, ?_, ?_, ?_⟩
  · simp only [t, hclient]
    rfl
  · rw [hdirectory]
    exact Directory.renamed_renameOwner hfree
  · intro hsingle
    refine settled_of_nodup ?_
    rw [hdirectory, Directory.ids_renameOwner]
    exact hsingle
  · intro hstocked later turns
    exact settled_of_nodup ((stocked_saveProfile hstocked server).turns later turns).tidy.single

theorem rename_keeps_ownership_of_ann :
    let server : Server := fun _ _ =>
      .answered 200 "\x7b\"user\":\x7b\"name\":\"Ann\",\"email\":\"ann@x.io\"\x7d\x7d" []
    let overlay : Profile := ({} : Profile).fill "anna" "ann@x.io"
    let client : Client :=
      { page := .chat
        identity := some ⟨"ann", "ann@x.io"⟩
        directory := ⟨[⟨7, "den", 0, some "ann"⟩, ⟨9, "hall", 0, some "bob"⟩]⟩
        profile := some { overlay with savedName := "ann" } }
    let s : Station :=
      { client := client, agent := ⟨"http://[::1]", { scheme := "http".toList }, {}⟩ }
    (s.saveProfile server).1.client.userName = "Ann" ∧
      s.client.directory.Renamed (s.saveProfile server).1.client.directory "ann" "Ann" ∧
      (s.saveProfile server).1.Settled := by
  intro server overlay client s
  have haccepted : (s.saveProfile server).2 = true := by decide +kernel
  have hname : (s.saveProfile server).1.client.userName = "Ann" := by decide +kernel
  have hsingle : s.client.directory.ids.Nodup := by decide
  have hfree : ∀ c ∈ s.client.directory.channels,
      c.ownerName = some (s.saveProfile server).1.client.userName →
        c.ownerName = some s.client.userName := by
    rw [hname]
    decide
  obtain ⟨-, hrenamed, hsettled, -⟩ := rename_keeps_ownership haccepted hfree
  rw [hname] at hrenamed
  exact ⟨hname, hrenamed, hsettled hsingle⟩

end Station

end ChatTerminal
