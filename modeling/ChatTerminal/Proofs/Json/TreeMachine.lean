import ChatTerminal.Proofs.Json.TokenCompleteness
/-!
# The stack machine and the tokens of trees

The machine builds a tree from a run of tokens if and only if these are the tokens of the tree.
What it has read at any time is told by its stack: for each container under way its opening
bracket and its finished parts, each with a comma behind it.  Together with the transducer this
makes the reader of texts exact.
-/

namespace ChatTerminal.Json

/-! ## Parts of containers -/

def followed (parts : List (List Token)) : List Token :=
  (parts.map (· ++ [Token.comma])).flatten

theorem followed_concat (parts : List (List Token)) (p : List Token) :
    followed (parts ++ [p]) = followed parts ++ (p ++ [.comma]) := by
  simp [followed]

theorem intercalate_concat (parts : List (List Token)) (p : List Token) :
    [Token.comma].intercalate (parts ++ [p]) = followed parts ++ p := by
  induction parts with
  | nil => simp [followed]
  | cons q parts ih =>
      have hne : parts ++ [p] ≠ [] := by simp
      rw [List.cons_append, List.intercalate_cons_of_ne_nil hne, ih]
      simp [followed]

theorem followed_eq_intercalate {parts : List (List Token)} (h : parts ≠ []) :
    followed parts = [Token.comma].intercalate parts ++ [.comma] := by
  obtain ⟨front, p, rfl⟩ := List.eq_nil_or_concat' parts |>.resolve_left h
  rw [intercalate_concat, followed_concat, List.append_assoc]

theorem itemTokens_append (items more : List Tree) :
    itemTokens (items ++ more) = itemTokens items ++ itemTokens more := by
  induction items with
  | nil => rfl
  | cons t items ih => rw [List.cons_append, itemTokens, itemTokens, ih]; rfl

theorem itemTokens_ne_nil {items : List Tree} (h : items ≠ []) : itemTokens items ≠ [] := by
  cases items with
  | nil => exact absurd rfl h
  | cons t items => exact List.cons_ne_nil _ _

theorem memberTokens_append (members more : List (List Piece × Tree)) :
    memberTokens (members ++ more) = memberTokens members ++ memberTokens more := by
  induction members with
  | nil => rfl
  | cons member members ih => rw [List.cons_append, memberTokens, memberTokens, ih]; rfl

theorem memberTokens_ne_nil {members : List (List Piece × Tree)} (h : members ≠ []) :
    memberTokens members ≠ [] := by
  cases members with
  | nil => exact absurd rfl h
  | cons member members => exact List.cons_ne_nil _ _

/-! ## What the machine has read -/

/-- The tokens of a container under way, up to the place where a value must begin. -/
def Frame.lead : Frame → List Token
  | .array items => .leftBracket :: followed (itemTokens items.reverse)
  | .object members key =>
    .leftBrace :: (followed (memberTokens members.reverse) ++ [.string key, .colon])

def leads : List Frame → List Token
  | [] => []
  | frame :: stack => leads stack ++ frame.lead

namespace Machine

/-- The machine may stand so after it has read these tokens. -/
inductive Held : Machine → List Token → Prop where
  | value {stack r} : Held ⟨.value, stack, r⟩ (leads stack)
  | valueOrEnd {stack r} : Held ⟨.valueOrEnd, .array [] :: stack, r⟩ (leads stack ++ [.leftBracket])
  | key {members k stack r} : Held ⟨.key, .object members k :: stack, r⟩
      (leads stack ++ .leftBrace :: followed (memberTokens members.reverse))
  | keyOrEnd {k stack r} : Held ⟨.keyOrEnd, .object [] k :: stack, r⟩ (leads stack ++ [.leftBrace])
  | colon {members k stack r} : Held ⟨.colon, .object members k :: stack, r⟩
      (leads stack ++ .leftBrace :: (followed (memberTokens members.reverse) ++ [.string k]))
  | items {items stack r} : items ≠ [] → Held ⟨.commaOrEnd, .array items :: stack, r⟩
      (leads stack ++ .leftBracket :: [Token.comma].intercalate (itemTokens items.reverse))
  | members {members k stack r} : members ≠ [] → Held ⟨.commaOrEnd, .object members k :: stack, r⟩
      (leads stack ++ .leftBrace :: [Token.comma].intercalate (memberTokens members.reverse))
  | nothing {v} : Held ⟨.nothing, [], v⟩ v.tokens

theorem Held.give (v : Tree) (stack : List Frame) :
    Held (give v stack) (leads stack ++ v.tokens) := by
  cases stack with
  | nil => exact .nothing
  | cons frame stack =>
      cases frame with
      | array items =>
          have h : Held ⟨.commaOrEnd, .array (v :: items) :: stack, .null⟩ _ :=
            .items (List.cons_ne_nil _ _)
          rw [List.reverse_cons, itemTokens_append, itemTokens, itemTokens, intercalate_concat] at h
          rw [leads, Frame.lead, List.append_assoc, List.cons_append]
          exact h
      | object members k =>
          have h : Held ⟨.commaOrEnd, .object ((k, v) :: members) [] :: stack, .null⟩ _ :=
            .members (List.cons_ne_nil _ _)
          rw [List.reverse_cons, memberTokens_append, memberTokens, memberTokens,
            intercalate_concat] at h
          rw [leads, Frame.lead, List.append_assoc, List.cons_append, List.append_assoc]
          exact h

variable {m m' : Machine} {stack : List Frame} {t : Token} {ts : List Token}

theorem Held.of_value (h : Machine.value stack t = some m') : Held m' (leads stack ++ [t]) := by
  cases t with
  | null => cases h; exact .give .null stack
  | boolean b => cases h; exact .give (.boolean b) stack
  | number n => cases h; exact .give (.number n) stack
  | string s => cases h; exact .give (.string s) stack
  | leftBracket => cases h; exact .valueOrEnd
  | leftBrace => cases h; exact .keyOrEnd
  | rightBrace | rightBracket | colon | comma => cases h

theorem Held.of_key {members : List (List Piece × Tree)} {k : List Piece}
    (h : Machine.key (.object members k :: stack) t = some m') :
    Held m' (leads stack ++ .leftBrace :: (followed (memberTokens members.reverse) ++ [t])) := by
  cases t with
  | string s => cases h; exact .colon
  | _ => cases h

theorem Held.of_closeArray {items : List Tree}
    (h : closeArray (.array items :: stack) = some m') :
    Held m' (leads stack ++ .leftBracket ::
      ([Token.comma].intercalate (itemTokens items.reverse) ++ [.rightBracket])) := by
  cases h
  have hgive := Held.give (.array items.reverse) stack
  rwa [Tree.tokens] at hgive

theorem Held.of_closeObject {members : List (List Piece × Tree)} (k : List Piece)
    (h : closeObject (.object members k :: stack) = some m') :
    Held m' (leads stack ++ .leftBrace ::
      ([Token.comma].intercalate (memberTokens members.reverse) ++ [.rightBrace])) := by
  cases h
  have hgive := Held.give (.object members.reverse) stack
  rwa [Tree.tokens] at hgive

theorem Held.step (h : Held m ts) (hm : m.step t = some m') : Held m' (ts ++ [t]) := by
  cases h with
  | value => exact .of_value hm
  | @valueOrEnd stack r =>
      simp only [Machine.step] at hm
      split at hm
      case isTrue ht =>
          subst ht
          rw [List.append_assoc]
          exact .of_closeArray hm
      case isFalse => exact .of_value hm
  | key =>
      rw [List.append_assoc]
      exact .of_key hm
  | keyOrEnd =>
      rw [List.append_assoc]
      simp only [Machine.step] at hm
      split at hm
      case isTrue ht =>
          subst ht
          exact .of_closeObject _ hm
      case isFalse => exact .of_key hm
  | @colon members k stack r =>
      simp only [Machine.step] at hm
      split at hm
      case isTrue ht =>
          subst ht
          cases hm
          have hvalue : Held ⟨.value, .object members k :: stack, r⟩ _ := .value
          rw [leads, Frame.lead] at hvalue
          simpa using hvalue
      case isFalse => cases hm
  | @items items stack r hne =>
      cases t with
      | comma =>
          cases hm
          have hvalue : Held ⟨.value, .array items :: stack, r⟩ _ := .value
          have hparts := itemTokens_ne_nil (List.reverse_ne_nil_iff.mpr hne)
          rw [leads, Frame.lead, followed_eq_intercalate hparts] at hvalue
          simpa using hvalue
      | rightBracket =>
          rw [List.append_assoc]
          exact .of_closeArray hm
      | _ => cases hm
  | @members members k stack r hne =>
      cases t with
      | comma =>
          cases hm
          have hkey : Held ⟨.key, .object members k :: stack, r⟩ _ := .key
          have hparts := memberTokens_ne_nil (List.reverse_ne_nil_iff.mpr hne)
          rw [followed_eq_intercalate hparts] at hkey
          simpa using hkey
      | rightBrace =>
          rw [List.append_assoc]
          exact .of_closeObject k hm
      | _ => cases hm
  | nothing => cases hm

theorem Held.run (h : Held m ts) {us : List Token} (hm : us.foldlM Machine.step m = some m') :
    Held m' (ts ++ us) := by
  induction us generalizing m ts with
  | nil =>
      cases hm
      rwa [List.append_nil]
  | cons t us ih =>
      obtain ⟨next, hnext, hrest⟩ := Option.bind_eq_some_iff.mp hm
      have hend := ih (h.step hnext) hrest
      rwa [List.append_assoc] at hend

end Machine

/-- The machine builds no tree from tokens that are not those of the tree. -/
theorem tokens_of_ofTokens? {ts : List Token} {t : Tree} (h : Tree.ofTokens? ts = some t) :
    ts = t.tokens := by
  obtain ⟨m, hm, hout⟩ := Option.bind_eq_some_iff.mp h
  split at hout
  case isTrue hexpect =>
      cases hout
      have hstart : Machine.initial.Held [] := .value
      have hheld := hstart.run hm
      rw [List.nil_append] at hheld
      cases hheld with
      | nothing => rfl
      | _ => cases hexpect
  case isFalse => cases hout

/-! ## What the machine builds -/

/-- A property of all parts of a container is one of the container. -/
theorem Tree.induct {P : Tree → Prop} (null : P .null) (boolean : ∀ b, P (.boolean b))
    (number : ∀ n, P (.number n)) (string : ∀ s, P (.string s))
    (array : ∀ items, (∀ t ∈ items, P t) → P (.array items))
    (object : ∀ members, (∀ member ∈ members, P member.2) → P (.object members)) (t : Tree) :
    P t := by
  cases t with
  | null => exact null
  | boolean b => exact boolean b
  | number n => exact number n
  | string s => exact string s
  | array items =>
      exact array items fun t _ => Tree.induct null boolean number string array object t
  | object members =>
      exact object members fun member _ =>
        Tree.induct null boolean number string array object member.2
termination_by sizeOf t
decreasing_by
  · rename_i hmem
    have := List.sizeOf_lt_of_mem hmem
    decreasing_tactic
  · rename_i hmem
    have := List.sizeOf_lt_of_mem hmem
    have : sizeOf member.2 < sizeOf member := by
      obtain ⟨key, t⟩ := member
      decreasing_tactic
    decreasing_tactic

namespace Machine

variable {stack : List Frame} {r : Tree}

def Reads (t : Tree) : Prop :=
  ∀ stack r, t.tokens.foldlM step ⟨.value, stack, r⟩ = some (give t stack)

theorem Reads.append {t : Tree} (h : Reads t) (stack : List Frame) (r : Tree) (us : List Token) :
    (t.tokens ++ us).foldlM step ⟨.value, stack, r⟩ = us.foldlM step (give t stack) := by
  rw [List.foldlM_append, h]
  rfl

/-- The items of an array, from the first value on. -/
theorem run_items {items : List Tree} (h : ∀ t ∈ items, Reads t) (hne : items ≠ [])
    (done : List Tree) (r : Tree) :
    ([Token.comma].intercalate (itemTokens items)).foldlM step ⟨.value, .array done :: stack, r⟩ =
      some ⟨.commaOrEnd, .array (items.reverse ++ done) :: stack, .null⟩ := by
  induction items generalizing done r with
  | nil => exact absurd rfl hne
  | cons t items ih =>
      have ht : Reads t := h t List.mem_cons_self
      cases items with
      | nil =>
          rw [itemTokens, itemTokens, List.intercalate_singleton]
          exact ht _ _
      | cons u items =>
          have hrest := ih (fun v hv => h v (List.mem_cons_of_mem _ hv)) (List.cons_ne_nil _ _)
            (t :: done) .null
          rw [itemTokens, itemTokens, List.intercalate_cons_cons, List.append_assoc, ht.append,
            List.reverse_cons, List.append_assoc]
          exact hrest

/-- The members of an object, from the first key on. -/
theorem run_members {members : List (List Piece × Tree)}
    (h : ∀ member ∈ members, Reads member.2) (hne : members ≠ [])
    (done : List (List Piece × Tree)) (k : List Piece) (r : Tree) :
    ([Token.comma].intercalate (memberTokens members)).foldlM step
        ⟨.key, .object done k :: stack, r⟩ =
      some ⟨.commaOrEnd, .object (members.reverse ++ done) [] :: stack, .null⟩ := by
  induction members generalizing done k r with
  | nil => exact absurd rfl hne
  | cons member members ih =>
      obtain ⟨key, t⟩ := member
      have ht : Reads t := h (key, t) List.mem_cons_self
      cases members with
      | nil =>
          rw [memberTokens, memberTokens, List.intercalate_singleton]
          exact ht _ _
      | cons next members =>
          have hrest := ih (fun v hv => h v (List.mem_cons_of_mem _ hv)) (List.cons_ne_nil _ _)
            ((key, t) :: done) [] .null
          have happend := ht.append (.object done key :: stack) .null
            (.comma :: [Token.comma].intercalate (memberTokens (next :: members)))
          rw [memberTokens, memberTokens, List.intercalate_cons_cons, List.append_assoc,
            List.reverse_cons, List.append_assoc]
          exact happend.trans hrest

/-- The first token of a value may stand where an empty array might have ended. -/
theorem run_valueOrEnd {items : List Tree} (hne : items ≠ []) (us : List Token) :
    ([Token.comma].intercalate (itemTokens items) ++ us).foldlM step ⟨.valueOrEnd, stack, r⟩ =
      ([Token.comma].intercalate (itemTokens items) ++ us).foldlM step ⟨.value, stack, r⟩ := by
  cases items with
  | nil => exact absurd rfl hne
  | cons t items =>
      cases items <;> cases t <;> rfl

theorem run_keyOrEnd {members : List (List Piece × Tree)} (hne : members ≠ []) (us : List Token) :
    ([Token.comma].intercalate (memberTokens members) ++ us).foldlM step ⟨.keyOrEnd, stack, r⟩ =
      ([Token.comma].intercalate (memberTokens members) ++ us).foldlM step ⟨.key, stack, r⟩ := by
  cases members with
  | nil => exact absurd rfl hne
  | cons member members =>
      cases members <;> rfl

theorem reads (t : Tree) : Reads t := by
  induction t using Tree.induct with
  | null | boolean | number | string => exact fun _ _ => rfl
  | array items ih =>
      intro stack r
      by_cases hne : items = []
      · subst hne
        rfl
      · rw [Tree.tokens, List.foldlM_cons]
        -- The machine also expects the end, but the first token of an item is none.
        refine (run_valueOrEnd hne _).trans ?_
        rw [List.foldlM_append, run_items ih hne, List.append_nil]
        exact congrArg (fun items => some (give (.array items) stack)) (List.reverse_reverse items)
  | object members ih =>
      intro stack r
      by_cases hne : members = []
      · subst hne
        rfl
      · rw [Tree.tokens, List.foldlM_cons]
        refine (run_keyOrEnd hne _).trans ?_
        rw [List.foldlM_append, run_members ih hne, List.append_nil]
        exact congrArg (fun members => some (give (.object members) stack))
          (List.reverse_reverse members)

/-- No number stands behind a number. -/
theorem step_number {m m' : Machine} {n : Numeral} (h : m.step (.number n) = some m')
    (k : Numeral) : m'.step (.number k) = none := by
  have hgive : ∀ stack, (give (.number n) stack).step (.number k) = none := by
    intro stack
    cases stack with
    | nil => rfl
    | cons frame stack => cases frame <;> rfl
  obtain ⟨expect, stack, r⟩ := m
  cases expect with
  | value | valueOrEnd =>
      cases h
      exact hgive stack
  | key | keyOrEnd => cases stack with
    | nil => cases h
    | cons frame stack => cases frame <;> cases h
  | colon | commaOrEnd | nothing => cases h

theorem apart_of_run {m m' : Machine} {ts : List Token} (h : ts.foldlM step m = some m') :
    ts.IsChain Token.Apart := by
  induction ts generalizing m with
  | nil => exact .nil
  | cons t ts ih =>
      obtain ⟨next, hnext, hrest⟩ := Option.bind_eq_some_iff.mp h
      refine (ih hrest).cons ?_
      rintro u hu n k ⟨rfl, rfl⟩
      obtain ⟨us, rfl⟩ : ∃ us, ts = .number k :: us := ⟨_, (List.cons_head?_tail hu).symm⟩
      rw [List.foldlM_cons, step_number hnext k] at hrest
      cases hrest

end Machine

/-! ## Texts of trees -/

theorem ofTokens?_tokens (t : Tree) : Tree.ofTokens? t.tokens = some t := by
  rw [Tree.ofTokens?, Machine.initial, Machine.reads]
  rfl

theorem Tree.ofText?_eq_some_iff {s : List Char} {t : Tree} :
    Tree.ofText? s = some t ↔ t.Spelled s := by
  constructor
  · intro h
    obtain ⟨ts, hts, htree⟩ := Option.bind_eq_some_iff.mp h
    rw [tokens_of_ofTokens? htree] at hts
    exact laid_of_tokens? hts
  · intro h
    -- That no two numbers touch is read off the machine, which would have refused them.
    have hapart : t.tokens.IsChain Token.Apart := Machine.apart_of_run (Machine.reads t [] .null)
    rw [Tree.ofText?, tokens?_of_laid h hapart]
    exact ofTokens?_tokens t

theorem Tree.Spelled.unique {s : List Char} {t u : Tree} (ht : t.Spelled s) (hu : u.Spelled s) :
    t = u :=
  Option.some.inj ((ofText?_eq_some_iff.mpr ht).symm.trans (ofText?_eq_some_iff.mpr hu))

end ChatTerminal.Json
