import ChatTerminal.Directory
import Mathlib.Tactic.Tauto
/-!
# Which channels a directory lists

Every change of a directory is known by the ids that it lists afterwards; what the channels are
called and who owns them plays no part in it.
-/

namespace ChatTerminal.Directory

variable {d : Directory} {id : Nat}

theorem mem_ids : id ∈ d.ids ↔ ∃ c ∈ d.channels, c.id = id := List.mem_map

theorem get?_isSome_iff : (d.get? id).isSome ↔ id ∈ d.ids := by
  rw [mem_ids]
  simp [get?, List.find?_isSome]

@[simp] theorem ids_empty : empty.ids = [] := rfl

/-! ## Adding channels -/

theorem mem_ids_put (held : List Channel) (c : Channel) :
    id ∈ (put held c).map (·.id) ↔ id ∈ held.map (·.id) ∨ id = c.id := by
  induction held with
  | nil => simp [put]
  | cons first more ih =>
      unfold put
      split
      · rename_i hsame
        simp only [List.map_cons, List.mem_cons, hsame]
        tauto
      · simp only [List.map_cons, List.mem_cons, ih]
        tauto

theorem mem_ids_putAll (d : Directory) (incoming : List Channel) :
    id ∈ (d.putAll incoming).ids ↔ id ∈ d.ids ∨ id ∈ incoming.map (·.id) := by
  unfold putAll ids
  generalize d.channels = held
  induction incoming generalizing held with
  | nil => simp
  | cons c more ih =>
      simp only [List.foldl_cons, ih, mem_ids_put, List.map_cons, List.mem_cons]
      tauto

theorem mem_ids_merge (d : Directory) (owned joined : List Channel) :
    id ∈ (d.merge owned joined).ids ↔
      id ∈ owned.map (·.id) ∨ id ∈ joined.map (·.id) ∨ id ∈ d.ids := by
  simp only [merge, ofList, mem_ids_putAll, ids_empty, List.map_append, List.mem_append,
    List.not_mem_nil, false_or, or_assoc]
  rfl

theorem mem_ids_insertNew (d : Directory) (c : Channel) :
    id ∈ (d.insertNew c).ids ↔ id ∈ d.ids ∨ id = c.id := by
  unfold insertNew
  split
  · rename_i hheld
    have hlisted : c.id ∈ d.ids := get?_isSome_iff.mp hheld
    constructor
    · exact .inl
    · rintro (hid | rfl)
      · exact hid
      · exact hlisted
  · simp [ids]

@[simp] theorem map_id_ownedOf (records : List ChannelRecord) (me : String) :
    (ownedOf records me).map (·.id) = records.map (·.id) := by
  simp [ownedOf, ChannelRecord.toChannel]

@[simp] theorem map_id_joinedOf (records : List ChannelRecord) :
    (joinedOf records).map (·.id) = records.map (·.id) := by
  simp [joinedOf, ChannelRecord.toChannel]

/-! ## Renaming and taking away -/

@[simp] theorem ids_renameOwner (d : Directory) (old new : String) :
    (d.renameOwner old new).ids = d.ids := by
  unfold renameOwner ids
  rw [List.map_map]
  refine List.map_congr_left fun c _ => ?_
  dsimp only [Function.comp]
  split <;> rfl

theorem mem_ids_of_erase {gone : Nat} (h : id ∈ (d.erase gone).ids) : id ∈ d.ids := by
  obtain ⟨c, hc, rfl⟩ := mem_ids.mp h
  exact mem_ids.mpr ⟨c, List.mem_of_mem_eraseP hc, rfl⟩

theorem mem_ids_erase_of_ne {gone : Nat} (hne : id ≠ gone) (h : id ∈ d.ids) :
    id ∈ (d.erase gone).ids := by
  obtain ⟨c, hc, rfl⟩ := mem_ids.mp h
  exact mem_ids.mpr ⟨c, (List.mem_eraseP_of_neg (by simpa using hne)).mpr hc, rfl⟩

/-! ## Picking a channel -/

theorem mem_ids_of_idAt? {row : Nat} (h : d.idAt? row = some id) : id ∈ d.ids := by
  obtain ⟨c, hc, rfl⟩ := Option.map_eq_some_iff.mp h
  exact mem_ids.mpr ⟨c, List.mem_of_getElem? hc, rfl⟩

end ChatTerminal.Directory
