import ChatTerminal.Proofs.Json.TreeMachine
import ChatTerminal.Proofs.Text.Utf8
/-!
# What strings and integers say

The text of a string literal and the value of an integer are read as the grammar means them, and
a field of an object is found where it stands once.  A code unit is written with four digits, so
only strings with units below 2 ^ 16 come up; every string of a spelled tree is one.
-/

namespace ChatTerminal.Json

/-! ## Code units -/

def Narrow (ps : List Piece) : Prop :=
  ∀ n, .unit n ∈ ps → n < 0x10000

theorem HexDigit.all_lt {s : List Char} {ds : List Nat} (h : List.Forall₂ HexDigit s ds) :
    ∀ d ∈ ds, d < 16 := by
  induction h with
  | nil => exact List.forall_mem_nil _
  | cons hd _ ih => exact List.forall_mem_cons.mpr ⟨hd.1, ih⟩

theorem HexDigits.lt {s : List Char} {n : Nat} (h : HexDigits s n) : n < 16 ^ s.length := by
  obtain ⟨ds, hds, rfl⟩ := h
  rw [hds.length_eq, ← List.length_reverse]
  refine Nat.ofDigits_lt_base_pow_length (by omega) fun d hd => ?_
  exact HexDigit.all_lt hds d (List.mem_reverse.mp hd)

theorem Body.narrow {ps : List Piece} {s : List Char} (h : Body ps s) : Narrow ps := by
  induction h with
  | nil => exact fun n hn => absurd hn List.not_mem_nil
  | cons hp _ ih =>
      intro n hn
      rcases List.mem_cons.mp hn with rfl | hn
      · cases hp with
        | unit hhex hlength =>
            have hlt := hhex.lt
            rwa [hlength] at hlt
      · exact ih n hn

theorem Laid.narrow {ts : List Token} {s : List Char} (h : Laid ts s) {ps : List Piece}
    (hps : .string ps ∈ ts) : Narrow ps := by
  induction h with
  | nil => exact absurd hps List.not_mem_nil
  | cons _ ht _ ih =>
      rcases List.mem_cons.mp hps with rfl | hps
      · obtain ⟨body, hbody, -⟩ := ht
        exact hbody.narrow
      · exact ih hps

/-! ## Strings -/

theorem toNat_ofNat {n : Nat} (h : n < 0xD800 ∨ 0xDFFF < n ∧ n < 0x110000) :
    (Char.ofNat n).toNat = n := by
  rw [Char.ofNat, dif_pos h]
  rfl

theorem textOf?_unit {n : Nat} (hn : n < 0xD800 ∨ 0xE000 ≤ n) (ps : List Piece) :
    textOf? (.unit n :: ps) = (textOf? ps).map (Char.ofNat n :: ·) := by
  have hhigh : ¬ (0xD800 ≤ n ∧ n < 0xDC00) := by omega
  have hlow : ¬ (0xDC00 ≤ n ∧ n < 0xE000) := by omega
  have hsurrogate : ¬ (0xD800 ≤ n ∧ n < 0xE000) := by omega
  rcases ps with _ | ⟨_ | _, ps⟩ <;> simp [textOf?, hhigh, hlow, hsurrogate]

theorem Denotes.ofNat {n : Nat} {ps : List Piece} {s : List Char}
    (hn : n < 0xD800 ∨ 0xE000 ≤ n) (hnarrow : n < 0x10000) (h : Denotes ps s) :
    Denotes (.unit n :: ps) (Char.ofNat n :: s) := by
  have htoNat : (Char.ofNat n).toNat = n := toNat_ofNat (by omega)
  have hunit : Denotes (.unit (Char.ofNat n).toNat :: ps) (Char.ofNat n :: s) :=
    .unit (by omega) h
  rwa [htoNat] at hunit

theorem Denotes.ofPair {high low : Nat} {ps : List Piece} {s : List Char}
    (hhigh : 0xD800 ≤ high ∧ high < 0xDC00) (hlow : 0xDC00 ≤ low ∧ low < 0xE000)
    (h : Denotes ps s) :
    Denotes (.unit high :: .unit low :: ps)
      (Char.ofNat (0x10000 + (high - 0xD800) * 0x400 + (low - 0xDC00)) :: s) := by
  have htoNat := toNat_ofNat (n := 0x10000 + (high - 0xD800) * 0x400 + (low - 0xDC00)) (by omega)
  generalize Char.ofNat _ = c at *
  have hhighUnit : highUnit c = high := by
    rw [highUnit, htoNat]
    omega
  have hlowUnit : lowUnit c = low := by
    rw [lowUnit, htoNat]
    omega
  have hpair : Denotes (.unit (highUnit c) :: .unit (lowUnit c) :: ps) (c :: s) :=
    .pair (by omega) h
  rwa [hhighUnit, hlowUnit] at hpair

theorem Denotes.of_textOf? {ps : List Piece} {s : List Char} (hps : Narrow ps)
    (h : textOf? ps = some s) : Denotes ps s := by
  have htail : ∀ {p : Piece} {rest : List Piece}, Narrow (p :: rest) → Narrow rest :=
    fun hrest n hn => hrest n (List.mem_cons_of_mem _ hn)
  fun_induction textOf? ps generalizing s with
  | case1 => 
      cases h
      exact .nil
  | case2 c rest ih =>
      obtain ⟨u, hu, rfl⟩ := Option.map_eq_some_iff.mp h
      exact .char (ih (htail hps) hu)
  | case3 high low rest hhigh hlow ih =>
      obtain ⟨u, hu, rfl⟩ := Option.map_eq_some_iff.mp h
      rw [Bool.and_eq_true, decide_eq_true_eq, decide_eq_true_eq] at hhigh hlow
      exact .ofPair hhigh hlow (ih (htail (htail hps)) hu)
  | case4 | case5 | case7 => cases h
  | case6 n low rest hhigh hlow ih =>
      obtain ⟨u, hu, rfl⟩ := Option.map_eq_some_iff.mp h
      rw [Bool.and_eq_true, decide_eq_true_eq, decide_eq_true_eq] at hhigh hlow
      exact .ofNat (by omega) (hps n List.mem_cons_self) (ih (htail hps) hu)
  | case8 n rest hrest hn ih =>
      obtain ⟨u, hu, rfl⟩ := Option.map_eq_some_iff.mp h
      rw [Bool.and_eq_true, decide_eq_true_eq, decide_eq_true_eq] at hn
      exact .ofNat (by omega) (hps n List.mem_cons_self) (ih (htail hps) hu)

theorem Denotes.textOf?_eq {ps : List Piece} {s : List Char} (h : Denotes ps s) :
    textOf? ps = some s := by
  induction h with
  | nil => rfl
  | char _ ih =>
      rw [textOf?, ih]
      rfl
  | @unit c ps s hc _ ih =>
      have hn : c.toNat < 0xD800 ∨ 0xE000 ≤ c.toNat := (Text.toNat_cases c).imp id fun h => by omega
      rw [textOf?_unit hn, ih, Char.ofNat_toNat]
      rfl
  | @pair c ps s hc _ ih =>
      have hvalid := Text.toNat_cases c
      have hhigh : (decide (0xD800 ≤ highUnit c) && decide (highUnit c < 0xDC00)) = true := by
        rw [Bool.and_eq_true, decide_eq_true_eq, decide_eq_true_eq, highUnit]
        omega
      have hlow : (decide (0xDC00 ≤ lowUnit c) && decide (lowUnit c < 0xE000)) = true := by
        rw [Bool.and_eq_true, decide_eq_true_eq, decide_eq_true_eq, lowUnit]
        omega
      have hvalue : 0x10000 + (highUnit c - 0xD800) * 0x400 + (lowUnit c - 0xDC00) = c.toNat := by
        rw [highUnit, lowUnit]
        omega
      rw [textOf?, if_pos hhigh, if_pos hlow, ih, hvalue, Char.ofNat_toNat]
      rfl

theorem Denotes.unique {ps : List Piece} {s u : List Char} (hs : Denotes ps s)
    (hu : Denotes ps u) : s = u :=
  Option.some.inj (hs.textOf?_eq.symm.trans hu.textOf?_eq)

theorem textOf?_eq_some_iff {ps : List Piece} {s : List Char} (hps : Narrow ps) :
    textOf? ps = some s ↔ Denotes ps s :=
  ⟨.of_textOf? hps, Denotes.textOf?_eq⟩

/-! ## Integers -/

def Tree.Says (t : Tree) (text : String) : Prop :=
  ∃ ps, t = .string ps ∧ Denotes ps text.toList

def Tree.Counts (t : Tree) (v : Int) : Prop :=
  ∃ n, t = .number n ∧ n.Denotes v

def Tree.Narrow (t : Tree) : Prop :=
  ∀ ps, .string ps ∈ t.tokens → Json.Narrow ps

theorem Tree.Spelled.narrow {t : Tree} {s : List Char} (h : t.Spelled s) : t.Narrow :=
  fun _ hps => Laid.narrow h hps

theorem Tree.text?_eq_some_iff {t : Tree} (ht : t.Narrow) {text : String} :
    t.text? = some text ↔ t.Says text := by
  cases t with
  | string ps =>
      have hps : Json.Narrow ps := ht ps List.mem_cons_self
      have hdenotes : Tree.Says (.string ps) text ↔ Json.Denotes ps text.toList := by
        constructor
        · rintro ⟨ps, heq, h⟩
          cases heq
          exact h
        · exact fun h => ⟨ps, rfl, h⟩
      rw [hdenotes, ← textOf?_eq_some_iff hps, text?, Option.map_eq_some_iff]
      constructor
      · rintro ⟨s, hs, rfl⟩
        rw [hs, String.toList_ofList]
      · intro hs
        exact ⟨_, hs, String.ofList_toList⟩
  | _ =>
      refine ⟨nofun, ?_⟩
      rintro ⟨ps, heq, -⟩
      cases heq

theorem mem_intercalate (sep : List Token) {parts : List (List Token)} {p : List Token}
    (hp : p ∈ parts) {t : Token} (ht : t ∈ p) : t ∈ sep.intercalate parts := by
  induction parts with
  | nil => exact absurd hp List.not_mem_nil
  | cons q parts ih =>
      cases parts with
      | nil =>
          rw [List.intercalate_singleton]
          rwa [List.mem_singleton.mp hp] at ht
      | cons r parts =>
          rw [List.intercalate_cons_cons, List.append_assoc, List.mem_append, List.mem_append]
          rcases List.mem_cons.mp hp with rfl | hp
          · exact .inl ht
          · exact .inr (.inr (ih hp))

theorem tokens_mem_itemTokens {items : List Tree} {t : Tree} (ht : t ∈ items) :
    t.tokens ∈ itemTokens items := by
  induction items with
  | nil => exact absurd ht List.not_mem_nil
  | cons u items ih =>
      rcases List.mem_cons.mp ht with rfl | ht
      · exact List.mem_cons_self
      · exact List.mem_cons_of_mem _ (ih ht)

theorem tokens_mem_memberTokens {members : List (List Piece × Tree)} {key : List Piece} {t : Tree}
    (ht : (key, t) ∈ members) :
    (.string key :: .colon :: t.tokens) ∈ memberTokens members := by
  induction members with
  | nil => exact absurd ht List.not_mem_nil
  | cons member members ih =>
      rcases List.mem_cons.mp ht with rfl | ht
      · exact List.mem_cons_self
      · exact List.mem_cons_of_mem _ (ih ht)

theorem Tree.Narrow.item {items : List Tree} (h : Tree.Narrow (.array items)) {t : Tree}
    (ht : t ∈ items) : t.Narrow := by
  intro ps hps
  refine h ps ?_
  rw [Tree.tokens]
  have hpart := mem_intercalate [.comma] (tokens_mem_itemTokens ht) hps
  exact List.mem_cons_of_mem _ (List.mem_append_left _ hpart)

theorem Tree.Narrow.part {members : List (List Piece × Tree)} (h : Tree.Narrow (.object members))
    {key ps : List Piece} {t : Tree} (ht : (key, t) ∈ members)
    (hps : .string ps ∈ Token.string key :: .colon :: t.tokens) : Json.Narrow ps := by
  refine h ps ?_
  rw [Tree.tokens]
  have hpart := mem_intercalate [.comma] (tokens_mem_memberTokens ht) hps
  exact List.mem_cons_of_mem _ (List.mem_append_left _ hpart)

theorem Tree.Narrow.key {members : List (List Piece × Tree)} (h : Tree.Narrow (.object members))
    {key : List Piece} {t : Tree} (ht : (key, t) ∈ members) : Json.Narrow key :=
  h.part ht List.mem_cons_self

theorem Tree.Narrow.value {members : List (List Piece × Tree)} (h : Tree.Narrow (.object members))
    {key : List Piece} {t : Tree} (ht : (key, t) ∈ members) : t.Narrow :=
  fun _ hps => h.part ht (List.mem_cons_of_mem _ (List.mem_cons_of_mem _ hps))

/-! ## Fields -/

/-- The field `name` stands once among the members, with a value of which `Means` holds. -/
def Field (name : String) (Means : Tree → Prop) (members : List (List Piece × Tree)) : Prop :=
  ∃ before key v after, members = before ++ (key, v) :: after ∧ Denotes key name.toList ∧ Means v ∧
    ∀ other ∈ before ++ after, ¬ Denotes other.1 name.toList

theorem Field.perm {name : String} {Means : Tree → Prop}
    {members others : List (List Piece × Tree)} (h : Field name Means members)
    (hperm : members.Perm others) : Field name Means others := by
  obtain ⟨before, key, v, after, rfl, hname, hv, hrest⟩ := h
  have hmem : (key, v) ∈ others := hperm.mem_iff.mp (by simp)
  obtain ⟨front, back, rfl⟩ := List.append_of_mem hmem
  have hothers : (before ++ after).Perm (front ++ back) :=
    (List.perm_middle.symm.trans (hperm.trans List.perm_middle)).cons_inv
  exact ⟨front, key, v, back, rfl, hname, hv,
    fun other hother => hrest other (hothers.mem_iff.mpr hother)⟩

theorem Field.add {name : String} {Means : Tree → Prop} {members : List (List Piece × Tree)}
    (h : Field name Means members) {key : List Piece} (hkey : ¬ Denotes key name.toList)
    (v : Tree) : Field name Means ((key, v) :: members) := by
  obtain ⟨before, k, u, after, rfl, hname, hu, hrest⟩ := h
  exact ⟨(key, v) :: before, k, u, after, rfl, hname, hu, List.forall_mem_cons.mpr ⟨hkey, hrest⟩⟩

end ChatTerminal.Json
