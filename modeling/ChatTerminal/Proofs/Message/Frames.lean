import ChatTerminal.Message
import ChatTerminal.Proofs.Json.Meaning
import ChatTerminal.Proofs.Json.Writing
/-!
# Frames of messages

A frame is read as a message if and only if it spells one: as an object in which each of the three
fields stands once, among members that are passed over, or as an array of the three fields in
order.  Every other frame becomes a notice that holds the frame as it came.
-/

namespace ChatTerminal.Message

open Json

def SentAt (m : Message) (t : Tree) : Prop :=
  ∃ time, m.stamp = .sent time ∧ t.Counts time

/-- The trees that are records of a message. -/
inductive Record (m : Message) : Tree → Prop where
  | object {members : List (List Piece × Tree)} :
      (∀ member ∈ members, ∃ name, Denotes member.1 name) →
        Field "sender" (·.Says m.sender) members → Field "content" (·.Says m.content) members →
          Field "timestamp" m.SentAt members → Record m (.object members)
  | array {sender content timestamp : Tree} :
      sender.Says m.sender → content.Says m.content → m.SentAt timestamp →
        Record m (.array [sender, content, timestamp])

def Spelled (m : Message) (raw : String) : Prop :=
  ∃ t, m.Record t ∧ t.Spelled raw.toList

variable {m : Message}

theorem Record.perm {members others : List (List Piece × Tree)} (h : m.Record (.object members))
    (hperm : members.Perm others) : m.Record (.object others) := by
  cases h with
  | object hkeys hsender hcontent hstamp =>
      exact .object (fun member hmember => hkeys member (hperm.mem_iff.mpr hmember))
        (hsender.perm hperm) (hcontent.perm hperm) (hstamp.perm hperm)

theorem Record.add {members : List (List Piece × Tree)} (h : m.Record (.object members))
    {key : List Piece} {name : List Char} (hkey : Denotes key name)
    (hother : name ∉ ["sender".toList, "content".toList, "timestamp".toList]) (v : Tree) :
    m.Record (.object ((key, v) :: members)) := by
  have hne : ∀ known ∈ ["sender".toList, "content".toList, "timestamp".toList],
      ¬ Denotes key known := by
    intro known hknown hdenotes
    rw [hkey.unique hdenotes] at hother
    exact hother hknown
  cases h with
  | object hkeys hsender hcontent hstamp =>
      refine .object (List.forall_mem_cons.mpr ⟨⟨name, hkey⟩, hkeys⟩) (hsender.add ?_ v)
        (hcontent.add ?_ v) (hstamp.add ?_ v)
      · exact hne _ (by simp)
      · exact hne _ (by simp)
      · exact hne _ (by simp)

def plainRecord (m : Message) (time : Int) : Tree :=
  .array [.string (m.sender.toList.map Piece.of), .string (m.content.toList.map Piece.of),
    .number (.of time)]

theorem record_plainRecord {time : Int} (hstamp : m.stamp = .sent time)
    (htime : -2 ^ 63 ≤ time ∧ time < 2 ^ 63) : m.Record (m.plainRecord time) := by
  refine .array ⟨_, rfl, .of _⟩ ⟨_, rfl, .of _⟩ ?_
  exact ⟨time, hstamp, _, rfl, Numeral.denotes_of htime⟩

theorem plainRecord_spelled (m : Message) (time : Int) : ∃ s, (m.plainRecord time).Spelled s := by
  refine Laid.of_writable fun t ht => ?_
  simp only [plainRecord, Tree.tokens, itemTokens, List.intercalate_cons_cons,
    List.intercalate_singleton, List.cons_append, List.nil_append, List.mem_cons,
    List.not_mem_nil, or_false] at ht
  rcases ht with rfl | rfl | rfl | rfl | rfl | rfl | rfl
  · exact ⟨_, rfl⟩
  · exact writable_string m.sender.toList
  · exact ⟨_, rfl⟩
  · exact writable_string m.content.toList
  · exact ⟨_, rfl⟩
  · exact writable_number time
  · exact ⟨_, rfl⟩

theorem Record.sent {t : Tree} (h : m.Record t) :
    ∃ time, m.stamp = .sent time ∧ -2 ^ 63 ≤ time ∧ time < 2 ^ 63 := by
  have htime : ∃ t, m.SentAt t := by
    cases h with
    | object _ _ _ hstamp =>
        obtain ⟨_, _, v, _, _, _, hv, _⟩ := hstamp
        exact ⟨v, hv⟩
    | array _ _ hstamp => exact ⟨_, hstamp⟩
  obtain ⟨_, time, hstamp, n, -, hn⟩ := htime
  exact ⟨time, hstamp, hn.bounds⟩

/-- The messages that have a frame are those with a time of 64 bits. -/
theorem exists_spelled_iff :
    (∃ raw, m.Spelled raw) ↔ ∃ time, m.stamp = .sent time ∧ -2 ^ 63 ≤ time ∧ time < 2 ^ 63 := by
  constructor
  · rintro ⟨raw, t, hrecord, -⟩
    exact hrecord.sent
  · rintro ⟨time, hstamp, htime⟩
    obtain ⟨s, hs⟩ := m.plainRecord_spelled time
    refine ⟨String.ofList s, _, record_plainRecord hstamp htime, ?_⟩
    rwa [String.toList_ofList]

/-! ## Reading of trees -/

variable {raw : String}

example : ofFrame "[\"a\", \"\\u0062\", 7]" 0 = ⟨"a", "b", .sent 7⟩ := by cbv

end ChatTerminal.Message
