import ChatTerminal.Proofs.Text.Kept
import ChatTerminal.Proofs.Text.Pieces
import ChatTerminal.Web.Host
import Mathlib.Data.List.InsertIdx
/-!
# No blank in a domain

A space or a control character in the text of a host outlives every step on the way to the ASCII
form of a domain: percent signs do not hide it, it decodes to itself, no mapping and no composition
takes it, and Punycode writes it as it is.  At the end it is forbidden, so there is no such host.
-/

namespace ChatTerminal.Web

open Text

variable {c : Char} {s : List Char}

/-- The characters up to the space, which no address holds at its ends and no domain anywhere. -/
def IsLow (c : Char) : Prop := c.toNat ≤ 0x20

theorem IsLow.isAscii (h : IsLow c) : isAscii c = true := by
  have : c.toNat < 0x80 := by
    unfold IsLow at h
    omega
  simpa [Web.isAscii] using this

theorem IsLow.forbidden (h : IsLow c) : isForbiddenInDomain c = true := by
  have : c.toNat ≤ 0x20 := h
  simp [isForbiddenInDomain, this]

theorem IsLow.ne (h : IsLow c) {d : Char} (hd : 0x20 < d.toNat) : c ≠ d := by
  rintro rfl
  exact Nat.not_lt_of_le h hd

theorem IsLow.induct {P : Char → Prop} (h : IsLow c) (hall : ∀ n ≤ 0x20, P (Char.ofNat n)) : P c :=
  Char.ofNat_toNat c ▸ hall c.toNat h

theorem IsLow.hexDigit? (h : IsLow c) : hexDigit? c = none :=
  h.induct (P := fun c => Web.hexDigit? c = none) (by decide)

theorem IsLow.digitValue? (h : IsLow c) : Punycode.digitValue? c = none :=
  h.induct (P := fun c => Punycode.digitValue? c = none) (by decide)

theorem IsLow.not_isDigit (h : IsLow c) : c.isDigit = false :=
  h.induct (P := fun c => c.isDigit = false) (by decide)

theorem IsLow.toLower (h : IsLow c) : c.toLower = c :=
  h.induct (P := fun c => c.toLower = c) (by decide)

theorem IsLow.charBytes (h : IsLow c) : charBytes c = [c.toNat] :=
  h.induct (P := fun c => Text.charBytes c = [c.toNat]) (by decide)

/-! ## Percent signs -/

/-- A low character belongs to no escape, so it is decoded to itself. -/
theorem mem_percentDecode (hlow : IsLow c) (h : c ∈ s) : c.toNat ∈ percentDecode s := by
  have hpercent : c ≠ '%' := hlow.ne (by decide)
  have hdigit : ∀ d x, hexDigit? d = some x → c ≠ d := by
    rintro d x hd rfl
    exact nomatch hlow.hexDigit?.symm.trans hd
  induction s using percentDecode.induct_unfolding with
  | case1 a b s x y hb ha ih =>
      simp only [List.mem_cons, hpercent, hdigit a x ha, hdigit b y hb, false_or] at h
      exact List.mem_cons_of_mem _ (ih h)
  | case2 a b s _ ih =>
      rw [List.mem_cons, or_iff_right hpercent] at h
      exact List.mem_cons_of_mem _ (ih h)
  | case3 d s _ ih =>
      rcases List.mem_cons.mp h with rfl | h
      · rw [hlow.charBytes]
        exact List.mem_cons_self
      · exact List.mem_append_right _ (ih h)
  | case4 => cases h

/-! ## Punycode -/

namespace Punycode

/-- A character that is no digit is not read as part of a distance. -/
theorem mem_decodeDigits {bias k w i : Nat} {r : Nat × List Char}
    (h : decodeDigits bias s k w i = some r) (hdigit : digitValue? c = none) (hc : c ∈ s) :
    c ∈ r.2 := by
  fun_induction decodeDigits with
  | case1 => cases h
  | case2 => cases h
  | case3 d rest k w i x hx =>
      rw [← Option.some.inj h]
      rcases List.mem_cons.mp hc with rfl | hc
      · exact nomatch hdigit.symm.trans hx
      · exact hc
  | case4 d rest k w i x hx _ ih =>
      rcases List.mem_cons.mp hc with rfl | hc
      · exact nomatch hdigit.symm.trans hx
      · exact ih h hc

/-- What was there before the distances stays, and there is nothing in them but digits. -/
theorem mem_decodeFrom {bias n i : Nat} {out r : List Char} (h : decodeFrom bias n i out s = some r)
    (hdigit : digitValue? c = none) (hc : c ∈ out ∨ c ∈ s) : c ∈ r := by
  fun_induction decodeFrom with
  | case1 => exact Option.some.inj h ▸ hc.resolve_right List.not_mem_nil
  | case2 => cases h
  | case3 bias n i out d rest j rest' hread count m place _ ih =>
      exact ih h (hc.imp (fun hout => List.subset_insertIdx _ _ _ hout)
        (mem_decodeDigits hread hdigit))
  | case4 => cases h

theorem mem_decode {r : List Char} (h : decode s = some r) (hdigit : digitValue? c = none)
    (hdash : c ≠ '-') (hc : c ∈ s) : c ∈ r := by
  unfold decode at h
  dsimp only at h
  split at h
  · cases h
  · refine mem_decodeFrom h hdigit ?_
    have hsplit := List.takeWhile_append_dropWhile (p := (decide <| · ≠ '-')) (l := s.reverse)
    generalize s.reverse.takeWhile (decide <| · ≠ '-') = tail at hsplit ⊢
    cases hrest : s.reverse.dropWhile (decide <| · ≠ '-') with
    | nil =>
        rw [hrest, List.append_nil] at hsplit
        exact .inr (by simpa [hsplit] using hc)
    | cons d more =>
        have hd : d = '-' := by
          have hhead := List.head?_dropWhile_not (decide <| · ≠ '-') s.reverse
          simpa only [hrest, List.head?_cons, decide_eq_false_iff_not, not_not] using hhead
        have hs : s = (more.reverse ++ ['-']) ++ tail.reverse := by
          rw [hrest, hd] at hsplit
          simpa using (congrArg List.reverse hsplit).symm
        have htake : (s.take (s.length - tail.reverse.length)).dropLast = more.reverse := by
          rw [hs, List.length_append, Nat.add_sub_cancel, List.take_left, List.dropLast_concat]
        rw [htake]
        rw [hs, List.mem_append, List.mem_append, List.mem_singleton, or_iff_left hdash] at hc
        exact hc

theorem mem_encode (hascii : c.toNat < 0x80) (hc : c ∈ s) : c ∈ encode s := by
  have hbasic : c ∈ s.filter (·.toNat < 0x80) := List.mem_filter.mpr ⟨hc, by simpa using hascii⟩
  unfold encode
  dsimp only
  rw [if_neg (by simpa using List.ne_nil_of_mem hbasic)]
  exact List.mem_append_left _ (List.mem_append_left _ hbasic)

end Punycode

/-! ## Domains -/

theorem exists_mem_of_mapM {α β : Type} {f : α → Option β} {s : List α} {r : List β} {a : α}
    (h : s.mapM f = some r) (ha : a ∈ s) : ∃ b ∈ r, f a = some b := by
  induction s generalizing r with
  | nil => cases ha
  | cons d s ih =>
      simp only [List.mapM_cons, Option.bind_eq_bind, Option.bind_eq_some_iff] at h
      obtain ⟨first, hfirst, more, hmore, hr⟩ := h
      obtain rfl := Option.some.inj hr
      rcases List.mem_cons.mp ha with rfl | ha
      · exact ⟨first, List.mem_cons_self, hfirst⟩
      · obtain ⟨b, hb, hfb⟩ := ih hmore ha
        exact ⟨b, List.mem_cons_of_mem _ hb, hfb⟩

theorem mem_labelText? {label text : List Char} (hlow : IsLow c) (h : labelText? label = some text)
    (hc : c ∈ label) : c ∈ text := by
  unfold labelText? at h
  split at h
  · split at h
    · exact Option.some.inj h ▸ hc
    · cases h
  · rename_i coded hcoded
    obtain ⟨decoded, hdecode, h⟩ := Option.bind_eq_some_iff.mp h
    split at h
    · have hlead : c ∉ aceLead := hlow.induct (P := fun c => c ∉ aceLead) (by decide)
      rw [dropLead?_eq_some hcoded, List.mem_append, or_iff_right hlead] at hc
      exact Option.some.inj h ▸
        Punycode.mem_decode hdecode hlow.digitValue? (hlow.ne (by decide)) hc
    · cases h

theorem mem_labelAscii {text : List Char} (hlow : IsLow c) (hc : c ∈ text) :
    c ∈ labelAscii text := by
  unfold labelAscii
  split
  · exact hc
  · exact List.mem_append_right _ (Punycode.mem_encode (by unfold IsLow at hlow; omega) hc)

theorem mem_flatten_intersperse {a mark : List Char} {l : List (List Char)} (ha : a ∈ l)
    (hc : c ∈ a) : c ∈ (l.intersperse mark).flatten := by
  induction l with
  | nil => cases ha
  | cons first l ih =>
      cases l with
      | nil => simpa [List.mem_singleton.mp ha] using hc
      | cons next l =>
          rw [List.intersperse_cons_cons, List.flatten_cons, List.flatten_cons]
          rcases List.mem_cons.mp ha with rfl | ha
          · exact List.mem_append_left _ hc
          · exact List.mem_append_right _ (List.mem_append_right _ (ih ha))

/-- A low character makes a domain one that is forbidden. -/
theorem domainAscii?_low (hlow : IsLow c) (hc : c ∈ s) :
    domainAscii? isForbiddenInDomain s = none := by
  unfold domainAscii?
  cases hmapped : s.mapM fun c => if isAscii c then some [c.toLower] else domainChar c with
  | none => rfl
  | some mapped =>
      rw [Option.bind_eq_bind, Option.bind_some]
      dsimp only
      have hflat : c ∈ mapped.flatten := by
        obtain ⟨image, himage, hself⟩ := exists_mem_of_mapM hmapped hc
        rw [if_pos hlow.isAscii, hlow.toLower] at hself
        exact List.mem_flatten.mpr
          ⟨image, himage, Option.some.inj hself ▸ List.mem_singleton_self c⟩
      have hnormal := mem_normalize (by unfold IsLow at hlow; omega) hflat
      have hdot : (c == '.') = false := beq_eq_false_iff_ne.mpr (hlow.ne (by decide))
      obtain ⟨label, hlabel, hmem⟩ := exists_mem_pieces (p := (· == '.')) hdot hnormal
      cases htexts : (pieces (· == '.') (normalize mapped.flatten)).mapM labelText? with
      | none => rfl
      | some texts =>
          obtain ⟨text, htext, hread⟩ := exists_mem_of_mapM htexts hlabel
          have hname : c ∈ ((texts.map labelAscii).intersperse ['.']).flatten :=
            mem_flatten_intersperse (List.mem_map_of_mem htext)
              (mem_labelAscii hlow (mem_labelText? hlow hread hmem))
          have hany := List.any_eq_true.mpr ⟨c, hname, hlow.forbidden⟩
          rw [Option.bind_some, hany, Bool.or_true, if_pos rfl]

/-- No host ends with a low character. -/
theorem Host.parse_low (hlow : IsLow c) (hlast : s.getLast? = some c) {host : Host} :
    Host.parse s ≠ .ok host := by
  intro h
  unfold Host.parse at h
  split at h
  · rename_i rest
    split at h
    · rename_i hclosed
      rw [List.getLast?_cons, hclosed] at hlast
      exact hlow.ne (by decide) (Option.some.inj hlast).symm
    · cases h
  · rename_i s _
    have hbyte := mem_percentDecode hlow (List.mem_of_getLast? hlast)
    have hread := mem_ofBytes (by unfold IsLow at hlow; omega) hbyte
    rw [Char.ofNat_toNat] at hread
    rw [domainAscii?_low hlow hread] at h
    cases h

end ChatTerminal.Web
