import ChatTerminal.Proofs.Client.Listed
import ChatTerminal.Proofs.Session.Run
import ChatTerminal.View.Sidebar
import Mathlib.Data.List.Nodup
/-!
# Rows of the sidebar

Row 0 of the sidebar is the landing page, and each row below it is a channel, in the order of the
directory.  The cursor is a row and the channel on display an id; where the directory lists each id
once, and never that of the landing page, the one can be told from the other.
-/

namespace ChatTerminal

namespace Directory

variable {d : Directory} {id row : Nat}

theorem size_eq (d : Directory) : d.size = d.ids.length := (List.length_map _).symm

theorem getElem?_ids (d : Directory) (row : Nat) : d.ids[row]? = d.idAt? row := List.getElem?_map

theorem idAt?_of_position? (h : d.position? id = some row) : d.idAt? row = some id := by
  obtain ⟨hrow, hid, -⟩ := List.findIdx?_eq_some_iff_getElem.mp h
  rw [idAt?, List.getElem?_eq_getElem hrow, Option.map_some, beq_iff_eq.mp hid]

theorem getElem?_of_position? (h : d.position? id = some row) :
    d.channels[row]? = d.get? id := by
  obtain ⟨hrow, hid, hfirst⟩ := List.findIdx?_eq_some_iff_getElem.mp h
  have hfound : d.get? id = some d.channels[row] := List.find?_eq_some_iff_getElem.mpr
    ⟨hid, row, hrow, rfl, fun j hj => by simpa using hfirst j hj⟩
  rw [hfound, List.getElem?_eq_getElem hrow]

theorem position?_lt (h : d.position? id = some row) : row < d.size :=
  (List.findIdx?_eq_some_iff_getElem.mp h).1

theorem exists_position? (h : id ∈ d.ids) : ∃ row, d.position? id = some row := by
  obtain ⟨c, hc, hid⟩ := mem_ids.mp h
  refine Option.isSome_iff_exists.mp ?_
  rw [position?, List.findIdx?_isSome]
  exact List.any_eq_true.mpr ⟨c, hc, beq_iff_eq.mpr hid⟩

theorem position?_of_idAt? (hsingle : d.ids.Nodup) (h : d.idAt? row = some id) :
    d.position? id = some row := by
  rw [← getElem?_ids] at h
  obtain ⟨first, hfirst⟩ := exists_position? (List.mem_of_getElem? h)
  have hthere := idAt?_of_position? hfirst
  rw [← getElem?_ids] at hthere
  obtain ⟨hrow, hid⟩ := List.getElem?_eq_some_iff.mp h
  obtain ⟨hrow', hid'⟩ := List.getElem?_eq_some_iff.mp hthere
  rw [hfirst, hsingle.getElem_inj_iff.mp (hid'.trans hid.symm)]

/-- Where each id stands once, the channel that is taken away by the id of a row is that of the
row. -/
theorem channels_erase_of_idAt? (hsingle : d.ids.Nodup) (h : d.idAt? row = some id) :
    (d.erase id).channels = d.channels.eraseIdx row := by
  have hposition : d.channels.findIdx? (·.id == id) = some row := position?_of_idAt? hsingle h
  rw [erase, List.eraseP_eq_eraseIdx, hposition]

end Directory

namespace Client

variable {c : Client}

/-! ## The cursor -/

theorem rowOf_le_size (d : Directory) (channel : Option Nat) : rowOf d channel ≤ d.size := by
  unfold rowOf
  split
  · split
    · exact Nat.zero_le _
    · cases hrow : d.position? _ with
      | none => exact Nat.zero_le _
      | some row => exact Directory.position?_lt hrow
  · exact Nat.zero_le _

/-- A listed channel has a row below the landing page. -/
theorem exists_row {d : Directory} {id : Nat} (hlive : id ≠ homeId) (hlisted : id ∈ d.ids) :
    ∃ row, rowOf d (some id) = row + 1 ∧ d.idAt? row = some id ∧ d.channels[row]? = d.get? id := by
  obtain ⟨row, hrow⟩ := Directory.exists_position? hlisted
  refine ⟨row, ?_, Directory.idAt?_of_position? hrow, Directory.getElem?_of_position? hrow⟩
  simp only [rowOf, if_neg hlive, hrow, Option.map_some, Option.getD_some]

theorem activeId_select (c : Client) (channel : Option Nat) :
    (c.select channel).1.activeId = channel :=
  c.session.active_select channel

def OnRow (c : Client) : Prop := c.underCursor = c.activeId.getD homeId

theorem onRow_of_rowOf (hcursor : c.cursor = rowOf c.directory c.activeId)
    (hdisplayed : ∀ id, c.activeId = some id → id ≠ homeId → id ∈ c.directory.ids) : c.OnRow := by
  unfold OnRow underCursor
  rw [hcursor]
  cases hactive : c.activeId with
  | none => rfl
  | some id =>
      by_cases hhome : id = homeId
      · rw [hhome]
        rfl
      · obtain ⟨row, hrow, hid, -⟩ := exists_row hhome (hdisplayed id hactive hhome)
        simp only [hrow, hid, Option.getD_some]

structure Follows (c : Client) : Prop where
  channel : ∀ id, c.activeId = some id → id ≠ homeId →
    ∃ row, c.cursor = row + 1 ∧ c.directory.ids[row]? = some id
  home : isLive c.activeId = false → c.cursor = 0

theorem follows_of_rowOf (hcursor : c.cursor = rowOf c.directory c.activeId)
    (hdisplayed : ∀ id, c.activeId = some id → id ≠ homeId → id ∈ c.directory.ids) : c.Follows where
  channel id hactive hlive := by
    obtain ⟨row, hrow, hid, -⟩ := exists_row hlive (hdisplayed id hactive hlive)
    refine ⟨row, ?_, ?_⟩
    · rw [hcursor, hactive, hrow]
    · rw [Directory.getElem?_ids, hid]
  home hparked := by
    rw [hcursor]
    cases hactive : c.activeId with
    | none => rfl
    | some id =>
        rw [hactive] at hparked
        obtain rfl : id = homeId := by simpa [isLive] using hparked
        rfl

/-! ## The marked row -/

def Marks (c : Client) (n : Nat) : Prop :=
  ∃ row, (View.sidebarRows c)[n]? = some row ∧ row.current = true

theorem marks_zero : c.Marks 0 ↔ c.activeId = some homeId ∨ c.activeId = none := by
  simp [Marks, View.sidebarRows]

theorem marks_succ {n : Nat} : c.Marks (n + 1) ↔ ∃ id, c.directory.ids[n]? = some id ∧
    c.activeId = some id := by
  simp [Marks, View.sidebarRows, Directory.ids]

theorem existsUnique_marks (hsingle : c.directory.ids.Nodup) (hnumbered : homeId ∉ c.directory.ids)
    (hdisplayed : ∀ id, c.activeId = some id → id ≠ homeId → id ∈ c.directory.ids) :
    ∃! n, c.Marks n := by
  by_cases hhome : c.activeId = some homeId ∨ c.activeId = none
  · refine ⟨0, marks_zero.mpr hhome, fun n hn => ?_⟩
    cases n with
    | zero => rfl
    | succ n =>
        obtain ⟨id, hid, hactive⟩ := marks_succ.mp hn
        rcases hhome with hhome | hnone
        · obtain rfl : id = homeId := Option.some.inj (hactive.symm.trans hhome)
          exact absurd (List.mem_of_getElem? hid) hnumbered
        · exact nomatch hactive.symm.trans hnone
  · obtain ⟨hlive, hsome⟩ := not_or.mp hhome
    obtain ⟨id, hactive⟩ := Option.ne_none_iff_exists'.mp hsome
    have hlisted : id ∈ c.directory.ids :=
      hdisplayed id hactive fun hid => hlive (hid ▸ hactive)
    obtain ⟨n, hn, hid⟩ := List.getElem_of_mem hlisted
    refine ⟨n + 1, marks_succ.mpr ⟨id, hid ▸ List.getElem?_eq_getElem hn, hactive⟩, fun m hm => ?_⟩
    cases m with
    | zero => exact absurd (marks_zero.mp hm) hhome
    | succ m =>
        obtain ⟨other, hother, hsame⟩ := marks_succ.mp hm
        obtain rfl : other = id := Option.some.inj (hsame.symm.trans hactive)
        obtain ⟨hm', hother⟩ := List.getElem?_eq_some_iff.mp hother
        exact congrArg Nat.succ ((hsingle.getElem_inj_iff).mp (hother.trans hid.symm))

/-! ## What it comes to -/

/-- The cursor is on a row of the sidebar, below the landing page it stands for the channel of its
row, and one row of the sidebar is marked. -/
structure Pointed (c : Client) : Prop where
  within : c.cursor ≤ c.directory.size
  resolved : ∀ n, c.cursor = n + 1 → ∃ channel, c.directory.channels[n]? = some channel ∧
    c.underCursor = channel.id ∧ channel.id ≠ homeId
  marked : ∃! n, c.Marks n

theorem pointed_of_within (hwithin : c.cursor ≤ c.directory.size)
    (hsingle : c.directory.ids.Nodup) (hnumbered : homeId ∉ c.directory.ids)
    (hdisplayed : ∀ id, c.activeId = some id → id ≠ homeId → id ∈ c.directory.ids) : c.Pointed := by
  refine ⟨hwithin, fun n hn => ?_, existsUnique_marks hsingle hnumbered hdisplayed⟩
  have hrow : n < c.directory.channels.length := by
    rw [hn] at hwithin
    exact hwithin
  refine ⟨c.directory.channels[n], List.getElem?_eq_getElem hrow, ?_, fun hhome => ?_⟩
  · simp [underCursor, hn, Directory.idAt?, List.getElem?_eq_getElem hrow]
  · exact hnumbered (Directory.mem_ids.mpr ⟨_, List.getElem_mem hrow, hhome⟩)

end Client

end ChatTerminal
