import ChatTerminal.Client
import ChatTerminal.Proofs.Client.Listed
import Mathlib.Data.List.Nodup
/-!
# What a directory holds

A directory lists each id once, and the owner of a channel has a name or is left out.  A channel
that is held stays, with its name and the number of its owner, whatever is listed, added or renamed
afterwards; only taking its own id away drops it.
-/

namespace ChatTerminal

/-! ## Names of owners -/

def Channel.core (c : Channel) : Nat × String × Nat := (c.id, c.name, c.ownerId)

def Channel.Attributed (c : Channel) : Prop := c.ownerName ≠ some ""

theorem ne_empty_of_filter {name? : Option String} {name : String}
    (h : name?.filter (! ·.isEmpty) = some name) : name ≠ "" := by
  have hpresent := (Option.filter_eq_some_iff.mp h).2
  simpa using hpresent

theorem ChannelRecord.ownerName?_ne_empty (r : ChannelRecord) : r.ownerName? ≠ some "" := by
  unfold ownerName?
  split
  · rename_i name hembedded
    intro hempty
    exact ne_empty_of_filter hembedded (Option.some.inj hempty)
  · exact fun hempty => ne_empty_of_filter hempty rfl

theorem ChannelRecord.attributed_toChannel (r : ChannelRecord) {fallback : Option String}
    (hfallback : fallback ≠ some "") : (r.toChannel fallback).Attributed := by
  unfold Channel.Attributed toChannel
  dsimp only
  have hnamed := r.ownerName?_ne_empty
  cases howner : r.ownerName? with
  | none => exact hfallback
  | some name =>
      rw [howner] at hnamed
      exact hnamed

theorem Identity.displayName_ne_empty (who : Identity) : who.displayName ≠ "" := by
  unfold displayName
  split
  · decide
  · simpa using ‹¬ who.name.isEmpty = true›

theorem Client.userName_ne_empty (c : Client) : c.userName ≠ "" := by
  unfold userName
  cases c.identity with
  | none => decide
  | some who => exact who.displayName_ne_empty

theorem Search.owner_ne_empty {typed : String} {search : Search}
    (h : Search.parse typed = .ok search) : search.owner ≠ "" := by
  unfold parse at h
  split at h
  · rename_i owner channel _
    split at h
    · cases h
    · rename_i hpresent
      obtain rfl := Except.ok.inj h
      intro hempty
      have hnil : owner = [] := by simpa using hempty
      simp [hnil] at hpresent
  · cases h

namespace Directory

variable {d d' d'' : Directory} {c : Channel} {id : Nat}

structure Tidy (d : Directory) : Prop where
  single : d.ids.Nodup
  attributed : ∀ c ∈ d.channels, c.Attributed

def Holds (d : Directory) (c : Channel) : Prop := ∃ held ∈ d.channels, held.core = c.core

theorem tidy_empty : empty.Tidy := ⟨List.nodup_nil, nofun⟩

theorem holds_of_mem (h : c ∈ d.channels) : d.Holds c := ⟨c, h, rfl⟩

/-! ## Putting channels in -/

theorem mem_put_self (held : List Channel) (c : Channel) : c ∈ put held c := by
  induction held with
  | nil => exact List.mem_singleton.mpr rfl
  | cons first more ih =>
      unfold put
      split
      · exact List.mem_cons_self
      · exact List.mem_cons_of_mem _ ih

theorem mem_put_of_ne {held : List Channel} {other : Channel} (h : c ∈ held)
    (hne : c.id ≠ other.id) : c ∈ put held other := by
  induction held with
  | nil => cases h
  | cons first more ih =>
      unfold put
      rcases List.mem_cons.mp h with rfl | h
      · rw [if_neg hne]
        exact List.mem_cons_self
      · split
        · exact List.mem_cons_of_mem _ h
        · exact List.mem_cons_of_mem _ (ih h)

theorem eq_or_mem_of_mem_put {held : List Channel} {other : Channel} (h : c ∈ put held other) :
    c = other ∨ c ∈ held := by
  induction held with
  | nil => exact .inl (List.mem_singleton.mp h)
  | cons first more ih =>
      unfold put at h
      split at h
      · rcases List.mem_cons.mp h with rfl | h
        · exact .inl rfl
        · exact .inr (List.mem_cons_of_mem _ h)
      · rcases List.mem_cons.mp h with rfl | h
        · exact .inr List.mem_cons_self
        · exact (ih h).imp_right (List.mem_cons_of_mem _)

theorem nodup_put {held : List Channel} (h : (held.map (·.id)).Nodup) (c : Channel) :
    ((put held c).map (·.id)).Nodup := by
  induction held with
  | nil => exact List.nodup_cons.mpr ⟨List.not_mem_nil, List.nodup_nil⟩
  | cons first more ih =>
      rw [List.map_cons, List.nodup_cons] at h
      unfold put
      split
      · rename_i hsame
        rw [List.map_cons, ← hsame]
        exact List.nodup_cons.mpr h
      · rename_i hne
        rw [List.map_cons, List.nodup_cons, mem_ids_put]
        refine ⟨fun hmem => ?_, ih h.2⟩
        exact hmem.elim h.1 hne

theorem Tidy.putAll (h : d.Tidy) {incoming : List Channel}
    (hattributed : ∀ c ∈ incoming, c.Attributed) : (d.putAll incoming).Tidy := by
  induction incoming generalizing d with
  | nil => exact h
  | cons first more ih =>
      have hput : Tidy ⟨put d.channels first⟩ := by
        refine ⟨nodup_put h.single first, fun c hc => ?_⟩
        rcases eq_or_mem_of_mem_put hc with rfl | hheld
        · exact hattributed c List.mem_cons_self
        · exact h.attributed c hheld
      exact ih hput fun c hc => hattributed c (List.mem_cons_of_mem _ hc)

theorem mem_putAll_of_ne {incoming : List Channel} (h : c ∈ d.channels)
    (hne : ∀ other ∈ incoming, c.id ≠ other.id) : c ∈ (d.putAll incoming).channels := by
  induction incoming generalizing d with
  | nil => exact h
  | cons first more ih =>
      have hput : c ∈ put d.channels first := mem_put_of_ne h (hne first List.mem_cons_self)
      exact ih (d := ⟨put d.channels first⟩) hput fun other hother =>
        hne other (List.mem_cons_of_mem _ hother)

/-- Of channels with different ids that are put in one after another none is lost. -/
theorem mem_putAll {incoming : List Channel} (hsingle : (incoming.map (·.id)).Nodup)
    (h : c ∈ incoming) : c ∈ (d.putAll incoming).channels := by
  induction incoming generalizing d with
  | nil => cases h
  | cons first more ih =>
      rw [List.map_cons, List.nodup_cons] at hsingle
      rcases List.mem_cons.mp h with rfl | h
      · refine mem_putAll_of_ne (d := ⟨put d.channels c⟩) (mem_put_self _ c) fun other hother => ?_
        exact fun hsame => hsingle.1 (List.mem_map.mpr ⟨other, hother, hsame.symm⟩)
      · exact ih (d := ⟨put d.channels first⟩) hsingle.2 h

/-! ## Changes that lose nothing -/

/-- A tidy directory stays tidy on the way from `d` to `d'`, and no channel is lost. -/
structure Grows (d d' : Directory) : Prop where
  tidy : d.Tidy → d'.Tidy
  holds : d.Tidy → ∀ c ∈ d.channels, d'.Holds c

theorem Grows.refl (d : Directory) : d.Grows d := ⟨id, fun _ _ => holds_of_mem⟩

theorem Grows.still_holds (h : d.Grows d') (htidy : d.Tidy) (hc : d.Holds c) : d'.Holds c := by
  obtain ⟨held, hheld, hcore⟩ := hc
  obtain ⟨kept, hkept, hsame⟩ := h.holds htidy held hheld
  exact ⟨kept, hkept, hsame.trans hcore⟩

theorem putAll_append (d : Directory) (first more : List Channel) :
    d.putAll (first ++ more) = (d.putAll first).putAll more := by
  simp [putAll, List.foldl_append]

/-- A held channel is put in after the listed ones, so no listing replaces it. -/
theorem grows_merge {owned joined : List Channel} (howned : ∀ c ∈ owned, c.Attributed)
    (hjoined : ∀ c ∈ joined, c.Attributed) : d.Grows (d.merge owned joined) := by
  unfold merge ofList
  rw [putAll_append]
  refine ⟨fun htidy => ?_, fun htidy c hc => ?_⟩
  · refine (tidy_empty.putAll fun c hc => ?_).putAll htidy.attributed
    exact (List.mem_append.mp hc).elim (howned c) (hjoined c)
  · exact holds_of_mem (mem_putAll htidy.single hc)

theorem grows_insertNew (hattributed : c.Attributed) : d.Grows (d.insertNew c) := by
  unfold insertNew
  split
  · exact .refl d
  · rename_i hnew
    have hunlisted : c.id ∉ d.ids := fun hmem => hnew (get?_isSome_iff.mpr hmem)
    refine ⟨fun htidy => ⟨?_, fun other hother => ?_⟩, fun _ other hother => ?_⟩
    · have hids : (Directory.mk (d.channels ++ [c])).ids = d.ids.concat c.id := by simp [ids]
      rw [hids]
      exact List.Nodup.concat hunlisted htidy.single
    · rcases List.mem_append.mp hother with hheld | hadded
      · exact htidy.attributed other hheld
      · exact List.mem_singleton.mp hadded ▸ hattributed
    · exact holds_of_mem (List.mem_append_left _ hother)

/-- A renaming reaches the name of the owner and nothing else. -/
theorem grows_renameOwner (d : Directory) (old : String) {new : String} (hnew : new ≠ "") :
    d.Grows (d.renameOwner old new) := by
  have hmem : ∀ {c}, c ∈ (d.renameOwner old new).channels ↔
      ∃ held ∈ d.channels,
        (if held.isOwnedBy old then { held with ownerName := some new } else held) = c :=
    List.mem_map
  refine ⟨fun htidy => ⟨?_, fun c hc => ?_⟩, fun _ c hc => ?_⟩
  · rw [ids_renameOwner]
    exact htidy.single
  · obtain ⟨held, hheld, rfl⟩ := hmem.mp hc
    split
    · simpa [Channel.Attributed] using hnew
    · exact htidy.attributed held hheld
  · refine ⟨_, hmem.mpr ⟨c, hc, rfl⟩, ?_⟩
    split <;> rfl

/-! ## Taking a channel away -/

theorem Tidy.erase (h : d.Tidy) (id : Nat) : (d.erase id).Tidy := by
  have hsub : (d.erase id).channels.Sublist d.channels := List.eraseP_sublist
  exact ⟨(hsub.map _).nodup h.single, fun c hc => h.attributed c (hsub.subset hc)⟩

theorem holds_erase (hc : c ∈ d.channels) (hne : c.id ≠ id) : (d.erase id).Holds c :=
  holds_of_mem ((List.mem_eraseP_of_neg (by simpa using hne)).mpr hc)

/-! ## Listings -/

theorem attributed_ownedOf {records : List ChannelRecord} {me : String} (hme : me ≠ "") :
    ∀ c ∈ ownedOf records me, c.Attributed := by
  intro c hc
  obtain ⟨r, -, rfl⟩ := List.mem_map.mp hc
  exact r.attributed_toChannel (by simpa using hme)

theorem attributed_joinedOf {records : List ChannelRecord} :
    ∀ c ∈ joinedOf records, c.Attributed := by
  intro c hc
  obtain ⟨r, -, rfl⟩ := List.mem_map.mp hc
  exact r.attributed_toChannel nofun

end Directory

end ChatTerminal
