import ChatTerminal.Proofs.Json.Meaning
/-!
# Documents

A document is a JSON text of limited depth in which every number is in range and every string says
a text.  Its reader counts brackets on the tokens, before there is a tree; the count is the depth of
the tree.  Of several members with one key the last one counts.
-/

namespace ChatTerminal.Json

/-! ## Depth -/

mutual

/-- How many containers lie inside one another at most. -/
def Tree.depth : Tree → Nat
  | .array items => itemsDepth items + 1
  | .object members => membersDepth members + 1
  | .null | .boolean _ | .number _ | .string _ => 0

def itemsDepth : List Tree → Nat
  | [] => 0
  | t :: items => max t.depth (itemsDepth items)

def membersDepth : List (List Piece × Tree) → Nat
  | [] => 0
  | (_, t) :: members => max t.depth (membersDepth members)

end

/-- Counts a token: how many brackets are open, and how many were open at most. -/
def count (levels : Nat × Nat) : Token → Nat × Nat
  | .leftBrace | .leftBracket => (levels.1 + 1, max levels.2 (levels.1 + 1))
  | .rightBrace | .rightBracket => (levels.1 - 1, levels.2)
  | _ => levels

theorem nesting_eq (ts : List Token) : nesting ts = (ts.foldl count (0, 0)).2 := rfl

/-- Over these tokens the count goes as many levels deeper and comes back. -/
def Nests (ts : List Token) (levels : Nat) : Prop :=
  ∀ depth deepest, depth ≤ deepest →
    ts.foldl count (depth, deepest) = (depth, max deepest (depth + levels))

namespace Nests

variable {ts us : List Token} {m n : Nat}

theorem flat (h : ∀ levels, ts.foldl count levels = levels) : Nests ts 0 := by
  intro depth deepest hdeep
  rw [h, Nat.add_zero, Nat.max_eq_left hdeep]

theorem append (hts : Nests ts m) (hus : Nests us n) : Nests (ts ++ us) (max m n) := by
  intro depth deepest hdeep
  rw [List.foldl_append, hts depth deepest hdeep,
    hus depth _ (hdeep.trans (Nat.le_max_left _ _)), Nat.max_assoc, Nat.add_max_add_left]

/-- A container is one level deeper than what is in it. -/
theorem enclosed {first last : Token}
    (hfirst : ∀ depth deepest, count (depth, deepest) first = (depth + 1, max deepest (depth + 1)))
    (hlast : ∀ depth deepest, count (depth + 1, deepest) last = (depth, deepest))
    (hts : Nests ts n) : Nests (first :: (ts ++ [last])) (n + 1) := by
  intro depth deepest hdeep
  have hlevels : max (max deepest (depth + 1)) (depth + 1 + n) = max deepest (depth + (n + 1)) := by
    omega
  rw [List.foldl_cons, hfirst, List.foldl_append, hts _ _ (Nat.le_max_right _ _), List.foldl_cons,
    hlast, hlevels, List.foldl_nil]

/-- Commas between the parts of a container go no deeper. -/
theorem parted {parts : List (List Token)} (hts : Nests ts m)
    (hparts : Nests ([Token.comma].intercalate parts) n) :
    Nests ([Token.comma].intercalate (ts :: parts)) (max m n) := by
  cases parts with
  | nil =>
      have hnone : 0 = max 0 (0 + n) := congrArg Prod.snd (hparts 0 0 le_rfl)
      obtain rfl : n = 0 := by omega
      rw [List.intercalate_singleton, Nat.max_zero]
      exact hts
  | cons next parts =>
      have hcomma : Nests [.comma] 0 := flat fun _ => rfl
      have hall := hts.append (hcomma.append hparts)
      rw [Nat.zero_max] at hall
      rw [List.intercalate_cons_cons, List.append_assoc]
      exact hall

theorem items {items : List Tree} (h : ∀ t ∈ items, Nests t.tokens t.depth) :
    Nests ([Token.comma].intercalate (itemTokens items)) (itemsDepth items) := by
  induction items with
  | nil => exact flat fun _ => rfl
  | cons t items ih =>
      rw [itemTokens, itemsDepth]
      exact (h t List.mem_cons_self).parted (ih fun u hu => h u (List.mem_cons_of_mem _ hu))

theorem members {members : List (List Piece × Tree)}
    (h : ∀ member ∈ members, Nests member.2.tokens member.2.depth) :
    Nests ([Token.comma].intercalate (memberTokens members)) (membersDepth members) := by
  induction members with
  | nil => exact flat fun _ => rfl
  | cons member members ih =>
      obtain ⟨key, t⟩ := member
      have hkey : Nests [.string key, .colon] 0 := flat fun _ => rfl
      have hmember := hkey.append (h (key, t) List.mem_cons_self)
      rw [Nat.zero_max] at hmember
      rw [memberTokens, membersDepth]
      exact hmember.parted (ih fun other hother => h other (List.mem_cons_of_mem _ hother))

theorem tree (t : Tree) : Nests t.tokens t.depth := by
  induction t using Tree.induct with
  | null | boolean | number | string => exact flat fun _ => rfl
  | array parts ih =>
      rw [Tree.tokens, Tree.depth]
      exact enclosed (fun _ _ => rfl) (fun _ _ => rfl) (items ih)
  | object parts ih =>
      rw [Tree.tokens, Tree.depth]
      exact enclosed (fun _ _ => rfl) (fun _ _ => rfl) (members ih)

end Nests

theorem nesting_tokens (t : Tree) : nesting t.tokens = t.depth := by
  rw [nesting_eq, Nests.tree t 0 0 le_rfl, Nat.zero_add, Nat.zero_max]

/-! ## Documents -/

structure Document (t : Tree) (s : List Char) : Prop where
  spelled : t.Spelled s
  shallow : t.depth ≤ 127
  numbers : ∀ n, .number n ∈ t.tokens → n.inRange = true
  strings : ∀ ps, .string ps ∈ t.tokens → ∃ text, Denotes ps text

theorem Tree.Narrow.hasValue_iff {t : Tree} (ht : t.Narrow) :
    t.tokens.all Token.hasValue = true ↔
      (∀ n, .number n ∈ t.tokens → n.inRange = true) ∧
        ∀ ps, .string ps ∈ t.tokens → ∃ text, Json.Denotes ps text := by
  have hstring : ∀ ps, .string ps ∈ t.tokens →
      ((Token.string ps).hasValue = true ↔ ∃ text, Json.Denotes ps text) := by
    intro ps hps
    rw [Token.hasValue, Option.isSome_iff_exists]
    exact exists_congr fun text => textOf?_eq_some_iff (ht ps hps)
  rw [List.all_eq_true]
  constructor
  · exact fun h => ⟨fun n hn => h _ hn, fun ps hps => (hstring ps hps).mp (h _ hps)⟩
  · rintro ⟨hnumbers, hstrings⟩ token htoken
    cases token with
    | number n => exact hnumbers n htoken
    | string ps => exact (hstring ps htoken).mpr (hstrings ps htoken)
    | _ => rfl

theorem ofDocument?_eq_some_iff {s : List Char} {t : Tree} :
    Tree.ofDocument? s = some t ↔ Document t s := by
  have hcheck : ∀ ts, (decide (nesting ts ≤ nestingLimit) && ts.all Token.hasValue) = true ↔
      nesting ts ≤ 127 ∧ ts.all Token.hasValue = true := by
    intro ts
    rw [Bool.and_eq_true, decide_eq_true_eq, nestingLimit]
  constructor
  · intro h
    obtain ⟨ts, hts, hread⟩ := Option.bind_eq_some_iff.mp h
    split at hread
    case isTrue hvalid =>
        have hspelled : t.Spelled s :=
          Tree.ofText?_eq_some_iff.mp (Option.bind_eq_some_iff.mpr ⟨ts, hts, hread⟩)
        rw [tokens_of_ofTokens? hread, hcheck, nesting_tokens,
          hspelled.narrow.hasValue_iff] at hvalid
        exact ⟨hspelled, hvalid.1, hvalid.2.1, hvalid.2.2⟩
    case isFalse => cases hread
  · intro h
    obtain ⟨ts, hts, hread⟩ := Option.bind_eq_some_iff.mp (Tree.ofText?_eq_some_iff.mpr h.spelled)
    refine Option.bind_eq_some_iff.mpr ⟨ts, hts, ?_⟩
    rw [if_pos, hread]
    rw [tokens_of_ofTokens? hread, hcheck, nesting_tokens, h.spelled.narrow.hasValue_iff]
    exact ⟨h.shallow, h.numbers, h.strings⟩

/-! ## Members -/

/-- The last of the members with the key `name` has the value `v`. -/
def LastMember (name : String) (members : List (List Piece × Tree)) (v : Tree) : Prop :=
  ∃ before key after, members = before ++ (key, v) :: after ∧ Denotes key name.toList ∧
    ∀ other ∈ after, ¬ Denotes other.1 name.toList

/-- The first hit from the back is the last hit. -/
theorem find?_reverse_eq_some_iff {α : Type} {l : List α} {p : α → Bool} {a : α} :
    l.reverse.find? p = some a ↔
      ∃ before after, l = before ++ a :: after ∧ p a = true ∧ ∀ b ∈ after, ¬ p b = true := by
  rw [List.find?_eq_some_iff_append]
  constructor
  · rintro ⟨ha, after, before, hsplit, hothers⟩
    refine ⟨before.reverse, after.reverse, ?_, ha, fun b hb => ?_⟩
    · rw [← List.reverse_reverse l, hsplit]
      simp
    · simpa using hothers b (List.mem_reverse.mp hb)
  · rintro ⟨before, after, rfl, ha, hothers⟩
    refine ⟨ha, after.reverse, before.reverse, by simp, fun b hb => ?_⟩
    simpa using hothers b (List.mem_reverse.mp hb)

theorem lastMember?_eq_some_iff {members : List (List Piece × Tree)} {name : String} {v : Tree}
    (hnarrow : Tree.Narrow (.object members)) :
    (Tree.object members).lastMember? name.toList = some v ↔ LastMember name members v := by
  have hkey : ∀ member ∈ members, (textOf? member.1 == some name.toList) = true ↔
      Denotes member.1 name.toList := by
    intro member hmember
    rw [beq_iff_eq]
    exact textOf?_eq_some_iff (hnarrow.key hmember)
  rw [Tree.lastMember?, Option.map_eq_some_iff]
  simp only [find?_reverse_eq_some_iff]
  constructor
  · rintro ⟨⟨key, u⟩, ⟨before, after, rfl, hname, hothers⟩, rfl⟩
    have hmem : (key, u) ∈ before ++ (key, u) :: after := by simp
    refine ⟨before, key, after, rfl, (hkey _ hmem).mp hname, fun other hother hdenotes => ?_⟩
    have hlisted : other ∈ before ++ (key, u) :: after :=
      List.mem_append_right _ (List.mem_cons_of_mem _ hother)
    exact hothers other hother ((hkey other hlisted).mpr hdenotes)
  · rintro ⟨before, key, after, rfl, hname, hothers⟩
    have hmem : (key, v) ∈ before ++ (key, v) :: after := by simp
    refine ⟨(key, v), ⟨before, after, rfl, (hkey _ hmem).mpr hname, fun other hother => ?_⟩, rfl⟩
    have hlisted : other ∈ before ++ (key, v) :: after :=
      List.mem_append_right _ (List.mem_cons_of_mem _ hother)
    rw [hkey other hlisted]
    exact hothers other hother

/-- The last of the members with the key `name` is a string that says `text`. -/
def LastText (name : String) (members : List (List Piece × Tree)) (text : String) : Prop :=
  ∃ v, LastMember name members v ∧ v.Says text

end ChatTerminal.Json
