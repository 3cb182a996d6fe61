import ChatTerminal.Client
import ChatTerminal.Proofs.Client.Rows
import Mathlib.Data.List.Perm.Subperm
import Mathlib.Order.Bounds.Defs
/-!
# The newest channels

The directory lists channels in the order in which they came, while the server numbers them in the
order in which they were made.  The newest ones are sorted out of the directory by their ids; the
newest of all is opened by its id, and its row in the sidebar is found in the other order again.
-/

namespace ChatTerminal

namespace Directory

variable {d : Directory} {limit : Nat} {first other : List Channel}

/-! ## What the newest channels are -/

/-- As many channels as asked for, or all there are, each newer than the ones behind it, and every
channel that is left out older than all of them. -/
structure Newest (d : Directory) (limit : Nat) (first : List Channel) : Prop where
  length : first.length = min limit d.size
  listed : ∀ c ∈ first, c ∈ d.channels
  descending : first.Pairwise (·.id > ·.id)
  leftOut : ∀ c ∈ d.channels, c ∉ first → ∀ newer ∈ first, c.id < newer.id

theorem Newest.nodup (h : d.Newest limit first) : first.Nodup := by
  apply h.descending.imp
  rintro a _ hnewer rfl
  exact Nat.lt_irrefl a.id hnewer

/-- A channel of one such list is in every other one.  If it were not, that other list, being as
long, would have one that the first list lacks, and each of the two would be older than the
other. -/
theorem Newest.subset (h : d.Newest limit first) (h' : d.Newest limit other) : first ⊆ other := by
  intro c hc
  by_contra hout
  obtain ⟨k, hk, hkout⟩ : ∃ k ∈ other, k ∉ first := by
    by_contra hnone
    push Not at hnone
    have hwithin : other.Subperm first := List.subperm_of_subset h'.nodup hnone
    have hlength : first.length = other.length := h.length.trans h'.length.symm
    have hsame : other.Perm first := hwithin.perm_of_length_le (Nat.le_of_eq hlength)
    exact hout (hsame.mem_iff.mpr hc)
  have holder : c.id < k.id := h'.leftOut c (h.listed c hc) hout k hk
  have hnewer : k.id < c.id := h.leftOut k (h'.listed k hk) hkout c hc
  omega

theorem Newest.unique (h : d.Newest limit first) (h' : d.Newest limit other) : first = other := by
  have hperm : first.Perm other := (List.perm_ext_iff_of_nodup h.nodup h'.nodup).mpr fun _ =>
    ⟨fun hc => h.subset h' hc, fun hc => h'.subset h hc⟩
  refine hperm.eq_of_pairwise (fun a b _ _ hab hba => ?_) h.descending h'.descending
  exact absurd hab (Nat.lt_asymm hba)

/-! ## Sorting them out -/

theorem length_recent (d : Directory) (limit : Nat) :
    (d.recent limit).length = min limit d.size := by
  rw [recent, List.length_take, List.length_mergeSort, size]

/-- The recent channels with the older ones behind them are the directory, the greatest id first. -/
theorem exists_older (d : Directory) (limit : Nat) : ∃ older,
    (d.recent limit ++ older).Perm d.channels ∧
      (d.recent limit ++ older).Pairwise (·.id ≥ ·.id) := by
  have hsorted : (d.channels.mergeSort fun a b => b.id ≤ a.id).Pairwise
      fun a b => decide (b.id ≤ a.id) = true := by
    apply List.pairwise_mergeSort
    · intro a b c hab hbc
      simp only [decide_eq_true_eq] at hab hbc ⊢
      omega
    · intro a b
      simp only [Bool.or_eq_true, decide_eq_true_eq]
      omega
  refine ⟨(d.channels.mergeSort fun a b => b.id ≤ a.id).drop limit, ?_, ?_⟩
  · rw [recent, List.take_append_drop]
    exact List.mergeSort_perm ..
  · rw [recent, List.take_append_drop]
    exact hsorted.imp of_decide_eq_true

theorem newest_recent (hsingle : d.ids.Nodup) (limit : Nat) :
    d.Newest limit (d.recent limit) := by
  obtain ⟨older, hperm, hsorted⟩ := d.exists_older limit
  have hapart : (d.recent limit ++ older).Pairwise (·.id ≠ ·.id) := by
    have hids : ((d.recent limit ++ older).map Channel.id).Nodup :=
      (hperm.map Channel.id).nodup_iff.mpr hsingle
    exact List.pairwise_map.mp hids
  have hstrict : (d.recent limit ++ older).Pairwise (·.id > ·.id) :=
    hsorted.imp₂ (fun a b hge hne => Nat.lt_of_le_of_ne hge hne.symm) hapart
  obtain ⟨hdescending, -, hbehind⟩ := List.pairwise_append.mp hstrict
  refine ⟨d.length_recent limit, fun c hc => ?_, hdescending, fun c hc hout newer hnewer => ?_⟩
  · exact hperm.mem_iff.mp (List.mem_append_left older hc)
  · rcases List.mem_append.mp (hperm.mem_iff.mpr hc) with hrecent | holder
    · exact absurd hrecent hout
    · exact hbehind newer hnewer c holder

theorem recent_of_empty (hempty : d.channels = []) (limit : Nat) : d.recent limit = [] := by
  rw [recent, hempty, List.mergeSort_nil, List.take_nil]

/-- One channel is the most recent, and no id is greater than its own.  Here an id may be listed
twice. -/
theorem exists_recent_one (hsome : d.channels ≠ []) :
    ∃ newest, d.recent 1 = [newest] ∧ IsGreatest {id | id ∈ d.ids} newest.id := by
  have hone : (d.recent 1).length = 1 := by
    have hsize : 0 < d.size := List.length_pos_iff.mpr hsome
    rw [length_recent]
    omega
  obtain ⟨newest, hnewest⟩ := List.length_eq_one_iff.mp hone
  obtain ⟨older, hperm, hsorted⟩ := d.exists_older 1
  rw [hnewest] at hperm hsorted
  have hlisted : newest.id ∈ d.ids :=
    mem_ids.mpr ⟨newest, hperm.mem_iff.mp List.mem_cons_self, rfl⟩
  refine ⟨newest, hnewest, hlisted, fun id hid => ?_⟩
  obtain ⟨c, hc, rfl⟩ := mem_ids.mp hid
  rcases List.mem_cons.mp (hperm.mem_iff.mpr hc) with rfl | holder
  · exact Nat.le_refl c.id
  · exact List.rel_of_pairwise_cons hsorted holder

end Directory

namespace Client

/-! ## Opening the newest of all -/

variable {c : Client}

theorem openNewest_of_empty (hempty : c.directory.channels = []) : c.openNewest = (c, []) := by
  rw [openNewest, Directory.recent_of_empty hempty]

theorem exists_openNewest (hsome : c.directory.channels ≠ []) :
    ∃ id, IsGreatest {id | id ∈ c.directory.ids} id ∧ c.openNewest = c.select (some id) := by
  obtain ⟨newest, hone, hgreatest⟩ := Directory.exists_recent_one hsome
  refine ⟨newest.id, hgreatest, ?_⟩
  rw [openNewest, hone]

/-- The channel on display has the greatest id, and the cursor is on its row. -/
structure ShowsNewest (c : Client) (newest : Channel) : Prop where
  greatest : IsGreatest {id | id ∈ c.directory.ids} newest.id
  active : c.activeId = some newest.id
  displayed : c.activeChannel? = some newest
  onRow : ∃ row, c.directory.channels[row]? = some newest ∧ c.cursor = row + 1

theorem showsNewest_select {id : Nat} (hlive : id ≠ homeId)
    (hgreatest : IsGreatest {id | id ∈ c.directory.ids} id) :
    ∃ newest, newest.id = id ∧ (c.select (some id)).1.ShowsNewest newest := by
  have hlisted : id ∈ c.directory.ids := hgreatest.1
  obtain ⟨newest, hnewest⟩ := Option.isSome_iff_exists.mp (Directory.get?_isSome_iff.mpr hlisted)
  obtain rfl : newest.id = id := by
    have hid := List.find?_some hnewest
    exact beq_iff_eq.mp hid
  obtain ⟨row, hcursor, -, hrow⟩ := exists_row hlive hlisted
  have hactive : (c.select (some newest.id)).1.activeId = some newest.id := c.activeId_select _
  refine ⟨newest, rfl, hgreatest, hactive, ?_, row, hrow.trans hnewest, hcursor⟩
  rw [activeChannel?, hactive]
  exact hnewest

/-- The recent channels of a directory that lists each id once are the newest ones, and no other
list is.  Where the directory has channels, and not the landing page among them, a client selects
the newest of all and comes to its row, wherever that is; without channels it does nothing. -/
theorem newest_first (d : Directory) (limit : Nat) (c : Client) :
    (d.ids.Nodup → d.Newest limit (d.recent limit) ∧ (d.recent limit).Nodup ∧
      ∀ first, d.Newest limit first → first = d.recent limit) ∧
    (c.directory.channels ≠ [] → homeId ∉ c.directory.ids →
      ∃ newest, c.openNewest = c.select (some newest.id) ∧
        c.openNewest.1.directory = c.directory ∧ c.openNewest.1.ShowsNewest newest) ∧
    (c.directory.channels = [] → c.openNewest = (c, [])) := by
  refine ⟨fun hsingle => ?_, fun hsome hnumbered => ?_, openNewest_of_empty⟩
  · have hnewest := Directory.newest_recent hsingle limit
    exact ⟨hnewest, hnewest.nodup, fun first hfirst => hfirst.unique hnewest⟩
  · obtain ⟨id, hgreatest, hopened⟩ := exists_openNewest hsome
    have hlive : id ≠ homeId := by
      rintro rfl
      exact hnumbered hgreatest.1
    obtain ⟨newest, rfl, hshows⟩ := showsNewest_select hlive hgreatest
    refine ⟨newest, hopened, ?_, ?_⟩
    · rw [hopened]
      rfl
    · rw [hopened]
      exact hshows

/-- Three channels, the newest of which came second. -/
theorem newest_first_of_three :
    let den : Channel := ⟨4, "den", 0, none⟩
    let hall : Channel := ⟨9, "hall", 0, some "bob"⟩
    let hut : Channel := ⟨2, "hut", 0, none⟩
    let d : Directory := ⟨[den, hall, hut]⟩
    let c : Client := { page := .chat, directory := d }
    d.ids.Nodup ∧ d.recent 2 = [hall, den] ∧ c.directory.channels ≠ [] ∧ homeId ∉ c.directory.ids ∧
      c.openNewest.1.activeId = some 9 ∧ c.openNewest.1.cursor = 2 ∧
      ({} : Client).directory.channels = [] ∧ ({} : Client).openNewest = ({}, []) := by
  intro den hall hut d c
  have hsingle : d.ids.Nodup := by decide
  have hsome : c.directory.channels ≠ [] := nofun
  have hnumbered : homeId ∉ c.directory.ids := by decide
  obtain ⟨hrecent, hopens, -⟩ := newest_first d 2 c
  obtain ⟨-, -, hstill⟩ := newest_first {} 0 {}
  have htwo : d.Newest 2 [hall, den] := by
    refine ⟨rfl, ?_, by decide, ?_⟩
    · simp [d]
    · simp [d, den, hall, hut]
  obtain ⟨newest, hopened, hdirectory, hshows⟩ := hopens hsome hnumbered
  have hnine : newest.id = 9 := by
    have hids : c.openNewest.1.directory.ids = [4, 9, 2] := congrArg Directory.ids hdirectory
    obtain ⟨hlisted, hupper⟩ := hshows.greatest
    rw [hids] at hlisted hupper
    have hamong : newest.id ∈ [4, 9, 2] := hlisted
    have hatLeast : 9 ≤ newest.id := hupper (by decide : 9 ∈ [4, 9, 2])
    simp only [List.mem_cons, List.not_mem_nil, or_false] at hamong
    omega
  refine ⟨hsingle, ?_, hsome, hnumbered, ?_, ?_, rfl, hstill rfl⟩
  · exact ((hrecent hsingle).2.2 _ htwo).symm
  · rw [hshows.active, hnine]
  · rw [hopened, hnine]
    rfl

end Client

end ChatTerminal
