import ChatTerminal.Proofs.Client.Holdings
/-!
# What two listings make of a directory

Channels are put into a directory one after another.  An id has the place where it came first and
the channel that came last, so a listing that is merged once more finds every place taken and every
channel there already.
-/

namespace ChatTerminal

/-- The owner of a channel, as a record tells it: the name in the embedded owner, else the name in
the field for it, else the one that is assumed.  A blank name tells nothing. -/
inductive ChannelRecord.Names (r : ChannelRecord) (fallback : Option String) :
    Option String → Prop where
  | embedded (name : String) (hnamed : name ≠ "") (h : r.owner.bind (·.name) = some name) :
    r.Names fallback (some name)
  | flat (name : String) (hnamed : name ≠ "")
    (hblank : ∀ other, r.owner.bind (·.name) = some other → other = "")
    (h : r.flatOwner = some name) : r.Names fallback (some name)
  | assumed (hblank : ∀ other, r.owner.bind (·.name) = some other → other = "")
    (h : ∀ other, r.flatOwner = some other → other = "") : r.Names fallback fallback

theorem filter_isEmpty_eq_none {name? : Option String} :
    name?.filter (! ·.isEmpty) = none ↔ ∀ name, name? = some name → name = "" := by
  simp [Option.filter_eq_none_iff]

theorem ChannelRecord.names_toChannel (r : ChannelRecord) (fallback : Option String) :
    r.Names fallback (r.toChannel fallback).ownerName := by
  unfold toChannel ownerName?
  dsimp only
  cases hembedded : (r.owner.bind (·.name)).filter (! ·.isEmpty) with
  | some name =>
      exact .embedded name (ne_empty_of_filter hembedded) (Option.filter_eq_some_iff.mp hembedded).1
  | none =>
      have hblank := filter_isEmpty_eq_none.mp hembedded
      cases hflat : r.flatOwner.filter (! ·.isEmpty) with
      | some name =>
          exact .flat name (ne_empty_of_filter hflat) hblank (Option.filter_eq_some_iff.mp hflat).1
      | none => exact .assumed hblank (filter_isEmpty_eq_none.mp hflat)

structure ChannelRecord.Describes (r : ChannelRecord) (fallback : Option String) (c : Channel) :
    Prop where
  id : c.id = r.id
  name : c.name = r.name
  ownerId : c.ownerId = r.ownerId
  owner : r.Names fallback c.ownerName

theorem ChannelRecord.describes_toChannel (r : ChannelRecord) (fallback : Option String) :
    r.Describes fallback (r.toChannel fallback) := ⟨rfl, rfl, rfl, r.names_toChannel fallback⟩

namespace Directory

variable {d e : Directory} {c : Channel} {id : Nat} {owned joined : List ChannelRecord}

/-! ## Places -/

theorem map_id_put (held : List Channel) (c : Channel) : (put held c).map (·.id) =
    if c.id ∈ held.map (·.id) then held.map (·.id) else held.map (·.id) ++ [c.id] := by
  induction held with
  | nil => rfl
  | cons first more ih =>
      unfold put
      by_cases hsame : first.id = c.id
      · rw [if_pos hsame, if_pos (by simp [hsame]), List.map_cons, List.map_cons, hsame]
      · have hlisted : c.id ∈ (first :: more).map (·.id) ↔ c.id ∈ more.map (·.id) := by
          rw [List.map_cons, List.mem_cons, or_iff_right (Ne.symm hsame)]
        rw [if_neg hsame, List.map_cons, ih, if_congr hlisted rfl rfl]
        split <;> rfl

theorem removeAll_concat (l gone : List Nat) (id : Nat) :
    l.removeAll (gone ++ [id]) = (l.removeAll gone).filter (! · == id) := by
  simp [List.removeAll, List.filter_filter, Bool.beq_eq_decide_eq, Bool.and_comm]

/-- An id that is new gets the place behind those that are taken. -/
theorem ids_putAll (d : Directory) (incoming : List Channel) :
    (d.putAll incoming).ids = d.ids ++ ((incoming.map (·.id)).removeAll d.ids).eraseDups := by
  induction incoming generalizing d with
  | nil => simp [putAll, List.removeAll]
  | cons c more ih =>
      have hput : (Directory.mk (put d.channels c)).ids =
          if c.id ∈ d.ids then d.ids else d.ids ++ [c.id] := map_id_put d.channels c
      rw [show d.putAll (c :: more) = putAll ⟨put d.channels c⟩ more from rfl, ih, hput,
        List.map_cons, List.cons_removeAll]
      by_cases htaken : c.id ∈ d.ids
      · rw [if_pos htaken, if_neg (by simpa using htaken)]
      · rw [if_neg htaken, if_pos (by simpa using htaken), removeAll_concat, List.eraseDups_cons,
          List.append_assoc, List.singleton_append]

theorem ids_ofList (channels : List Channel) :
    (ofList channels).ids = (channels.map (·.id)).eraseDups := by
  rw [ofList, ids_putAll, ids_empty, List.nil_append]
  simp [List.removeAll]

/-! ## Channels -/

theorem get?_cons (c : Channel) (held : List Channel) (id : Nat) :
    (Directory.mk (c :: held)).get? id =
      if c.id = id then some c else (Directory.mk held).get? id := by
  by_cases h : c.id = id
  · rw [if_pos h]
    exact List.find?_cons_of_pos (beq_iff_eq.mpr h)
  · rw [if_neg h]
    exact List.find?_cons_of_neg (by simpa using h)

theorem get?_put (held : List Channel) (c : Channel) (id : Nat) :
    (Directory.mk (put held c)).get? id =
      if c.id = id then some c else (Directory.mk held).get? id := by
  induction held with
  | nil => exact get?_cons c [] id
  | cons first more ih =>
      unfold put
      split
      · rename_i hsame
        rw [get?_cons, get?_cons, hsame]
        split <;> rfl
      · rename_i hother
        rw [get?_cons, get?_cons, ih]
        by_cases hfirst : first.id = id
        · rw [if_pos hfirst, if_pos hfirst, if_neg fun h => hother (hfirst.trans h.symm)]
        · rw [if_neg hfirst, if_neg hfirst]

/-- The last channel that comes with an id is the one that is held. -/
theorem get?_putAll (d : Directory) (incoming : List Channel) (id : Nat) :
    (d.putAll incoming).get? id = (incoming.findRev? (·.id == id)).or (d.get? id) := by
  induction incoming generalizing d with
  | nil => rfl
  | cons c more ih =>
      rw [show d.putAll (c :: more) = putAll ⟨put d.channels c⟩ more from rfl, ih, get?_put]
      rw [List.findRev?]
      cases more.findRev? (·.id == id) with
      | some last => rfl
      | none =>
          rw [Option.none_or]
          by_cases h : c.id = id
          · simp [h]
          · simp [h]

theorem get?_of_mem (hsingle : d.ids.Nodup) (h : c ∈ d.channels) : d.get? c.id = some c := by
  obtain ⟨held⟩ := d
  induction held with
  | nil => cases h
  | cons first more ih =>
      rw [ids, List.map_cons, List.nodup_cons] at hsingle
      rw [get?_cons]
      rcases List.mem_cons.mp h with rfl | h
      · rw [if_pos rfl]
      · rw [if_neg fun hsame => hsingle.1 (List.mem_map.mpr ⟨c, h, hsame.symm⟩)]
        exact ih hsingle.2 h

theorem get?_eq_some (hsingle : d.ids.Nodup) :
    d.get? id = some c ↔ c ∈ d.channels ∧ c.id = id := by
  constructor
  · intro h
    have hid := List.find?_some h
    exact ⟨List.mem_of_find?_eq_some h, beq_iff_eq.mp hid⟩
  · rintro ⟨hc, rfl⟩
    exact get?_of_mem hsingle hc

/-- Where each id stands once, the last channel of an id is the first one. -/
theorem findRev?_channels (hsingle : d.ids.Nodup) (id : Nat) :
    d.channels.findRev? (·.id == id) = d.get? id := by
  have hreversed : (Directory.mk d.channels.reverse).ids.Nodup := by
    rw [ids, List.map_reverse, List.nodup_reverse]
    exact hsingle
  have hfind : d.channels.findRev? (·.id == id) = (Directory.mk d.channels.reverse).get? id :=
    List.findRev?_eq_find?_reverse
  refine Option.ext fun c => ?_
  rw [hfind, get?_eq_some hreversed, get?_eq_some hsingle, List.mem_reverse]

theorem filterMap_get? (hsingle : d.ids.Nodup) : d.ids.filterMap d.get? = d.channels := by
  rw [ids, List.filterMap_map]
  refine (List.filterMap_congr fun c hc => ?_).trans List.filterMap_some
  exact get?_of_mem hsingle hc

/-- A directory that lists each id once is known by its ids and what is found under them. -/
theorem eq_of_get? (hsingle : d.ids.Nodup) (hids : e.ids = d.ids)
    (hget : ∀ id, e.get? id = d.get? id) : e = d := by
  have hchannels : e.channels = d.channels := by
    rw [← filterMap_get? hsingle, ← filterMap_get? (hids ▸ hsingle), hids]
    exact List.filterMap_congr fun id _ => hget id
  obtain ⟨held⟩ := d
  obtain ⟨again⟩ := e
  exact congrArg Directory.mk hchannels

/-! ## Merging -/

theorem findRev?_append {p : Channel → Bool} (first more : List Channel) :
    (first ++ more).findRev? p = (more.findRev? p).or (first.findRev? p) := by
  simp only [List.findRev?_eq_find?_reverse, List.reverse_append, List.find?_append]

theorem findRev?_ownedOf (records : List ChannelRecord) (me : String) (id : Nat) :
    (ownedOf records me).findRev? (·.id == id) =
      (records.findRev? (·.id == id)).map (·.toChannel (some me)) := by
  simp only [List.findRev?_eq_find?_reverse, ownedOf, ← List.map_reverse, List.find?_map]
  rfl

theorem findRev?_joinedOf (records : List ChannelRecord) (id : Nat) :
    (joinedOf records).findRev? (·.id == id) =
      (records.findRev? (·.id == id)).map (·.toChannel none) := by
  simp only [List.findRev?_eq_find?_reverse, joinedOf, ← List.map_reverse, List.find?_map]
  rfl

theorem ids_merge (d : Directory) (owned joined : List ChannelRecord) (me : String) :
    (d.merge (ownedOf owned me) (joinedOf joined)).ids =
      (owned.map (·.id) ++ joined.map (·.id) ++ d.ids).eraseDups := by
  rw [merge, ids_ofList, List.map_append, List.map_append, map_id_ownedOf, map_id_joinedOf]
  rfl

theorem get?_merge (hsingle : d.ids.Nodup) (owned joined : List ChannelRecord) (me : String)
    (id : Nat) : (d.merge (ownedOf owned me) (joinedOf joined)).get? id = (d.get? id).or
      (((joined.findRev? (·.id == id)).map (·.toChannel none)).or
        ((owned.findRev? (·.id == id)).map (·.toChannel (some me)))) := by
  rw [merge, ofList, get?_putAll, findRev?_append, findRev?_append, findRev?_channels hsingle,
    findRev?_joinedOf, findRev?_ownedOf, Option.or_assoc, Option.or_assoc]
  exact congrArg _ (congrArg _ (Option.or_none ..))

/-- What two listings make of a directory: the ids in the order in which they come first, each with
the channel that was held, else with the last one listed as joined, else with the last one listed as
owned. -/
structure Merged (owned joined : List ChannelRecord) (me : String) (d e : Directory) : Prop where
  ids : e.ids = (owned.map (·.id) ++ joined.map (·.id) ++ d.ids).eraseDups
  held : ∀ c ∈ d.channels, e.get? c.id = some c
  lastJoined : ∀ id r, id ∉ d.ids → joined.findRev? (·.id == id) = some r →
    ∃ c, e.get? id = some c ∧ r.Describes none c
  lastOwned : ∀ id r, id ∉ d.ids → id ∉ joined.map (·.id) → owned.findRev? (·.id == id) = some r →
    ∃ c, e.get? id = some c ∧ r.Describes (some me) c

theorem get?_eq_none (h : id ∉ d.ids) : d.get? id = none := by
  rw [← get?_isSome_iff, Bool.not_eq_true, Option.isSome_eq_false_iff] at h
  exact Option.isNone_iff_eq_none.mp h

theorem merged_merge (hsingle : d.ids.Nodup) (owned joined : List ChannelRecord) (me : String) :
    Merged owned joined me d (d.merge (ownedOf owned me) (joinedOf joined)) where
  ids := ids_merge d owned joined me
  held c hc := by
    rw [get?_merge hsingle, get?_of_mem hsingle hc, Option.some_or]
  lastJoined id r hnew hlast := by
    rw [get?_merge hsingle, get?_eq_none hnew, Option.none_or, hlast]
    exact ⟨_, rfl, r.describes_toChannel none⟩
  lastOwned id r hnew hunlisted hlast := by
    have hnone : joined.findRev? (·.id == id) = none := by
      rw [List.findRev?_eq_find?_reverse, List.find?_eq_none]
      intro other hother hid
      exact hunlisted (List.mem_map.mpr ⟨other, List.mem_reverse.mp hother, beq_iff_eq.mp hid⟩)
    rw [get?_merge hsingle, get?_eq_none hnew, Option.none_or, hnone, Option.map_none,
      Option.none_or, hlast]
    exact ⟨_, rfl, r.describes_toChannel (some me)⟩

theorem nodup_ofList (channels : List Channel) : (ofList channels).ids.Nodup := by
  have hputAll : ∀ d : Directory, d.ids.Nodup → (d.putAll channels).ids.Nodup := by
    induction channels with
    | nil => exact fun _ h => h
    | cons c more ih => exact fun d h => ih ⟨put d.channels c⟩ (nodup_put h c)
  exact hputAll empty List.nodup_nil

theorem eraseDups_of_nodup {l : List Nat} (h : l.Nodup) : l.eraseDups = l := by
  induction l with
  | nil => rfl
  | cons a l ih =>
      obtain ⟨hnew, hl⟩ := List.nodup_cons.mp h
      have hkept : l.filter (! · == a) = l := by
        refine List.filter_eq_self.mpr fun b hb => ?_
        have hne : b ≠ a := fun hsame => hnew (hsame ▸ hb)
        simpa using hne
      rw [List.eraseDups_cons, hkept, ih hl]

/-- Listings that are merged again find their places and their channels taken. -/
theorem merge_again (hsingle : d.ids.Nodup) (owned joined : List ChannelRecord) (me : String) :
    (d.merge (ownedOf owned me) (joinedOf joined)).merge (ownedOf owned me) (joinedOf joined) =
      d.merge (ownedOf owned me) (joinedOf joined) := by
  have hfirst := get?_merge hsingle owned joined me
  have hunique : (d.merge (ownedOf owned me) (joinedOf joined)).ids.Nodup := nodup_ofList _
  obtain ⟨after, hplaces⟩ : ∃ after, (d.merge (ownedOf owned me) (joinedOf joined)).ids =
      (ofList (ownedOf owned me ++ joinedOf joined)).ids ++ after := by
    rw [merge, ofList, putAll_append, ids_putAll]
    exact ⟨_, rfl⟩
  generalize d.merge (ownedOf owned me) (joinedOf joined) = e at hfirst hunique hplaces ⊢
  refine eq_of_get? hunique ?_ fun id => ?_
  · rw [merge, ofList, putAll_append, ids_putAll]
    change (ofList _).ids ++ (e.ids.removeAll (ofList _).ids).eraseDups = e.ids
    generalize (ofList (ownedOf owned me ++ joinedOf joined)).ids = places at hplaces ⊢
    rw [hplaces, List.nodup_append] at hunique
    obtain ⟨-, hbehind, hapart⟩ := hunique
    have hremoved : e.ids.removeAll places = after := by
      have hnone : places.filter (! places.elem ·) = [] := by simp
      have hall : after.filter (! places.elem ·) = after := by
        refine List.filter_eq_self.mpr fun id hid => ?_
        simpa using fun hplace => hapart id hplace id hid rfl
      rw [hplaces, List.removeAll, List.filter_append, hnone, hall, List.nil_append]
    rw [hremoved, eraseDups_of_nodup hbehind, hplaces]
  · rw [get?_merge hunique, hfirst, Option.or_assoc, Option.or_self]

end Directory

end ChatTerminal
