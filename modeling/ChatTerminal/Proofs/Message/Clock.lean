import ChatTerminal.Message
import ChatTerminal.Web.Date
import Mathlib.Algebra.Order.Group.Int
import Mathlib.Tactic.NormNum
/-!
# The time beside a message

A stamp below 10 ^ 11 in size counts seconds and a larger one milliseconds, before 1970 as well as
after it.  The time shown is the hour and the minute of the day into which the second of the stamp
falls; a fraction of a second never rounds it up.
-/

namespace ChatTerminal

/-! ## Two digits -/

def padded (n : Nat) : List Char := (Nat.toDigits 10 n).leftpad 2 '0'

theorem toList_twoDigits {n : Nat} (hn : n < 100) : (twoDigits n).toList = padded n := by
  have hlast : n % 10 < 10 := Nat.mod_lt _ (by decide)
  rw [twoDigits, String.toList_ofList, padded, Nat.toDigits_eq_if (by decide)]
  by_cases hsmall : n < 10
  · rw [if_pos hsmall, Nat.div_eq_of_lt hsmall, Nat.mod_eq_of_lt hsmall]
    rfl
  · have hfirst : n / 10 < 10 := by omega
    rw [if_neg hsmall, Nat.toDigits_eq_if (by decide), if_pos hfirst, Nat.mod_eq_of_lt hfirst]
    rfl

theorem length_padded {n : Nat} (hn : n < 100) : (padded n).length = 2 := by
  rw [← toList_twoDigits hn, twoDigits, String.toList_ofList]
  rfl

/-! ## Seconds -/

/-- The second `s` for which a stamp stands.  A stamp in milliseconds stands for the second that
has begun. -/
structure StandsFor (t s : Int) : Prop where
  seconds : |t| < 10 ^ 11 → s = t
  milliseconds : 10 ^ 11 ≤ |t| → s * 1000 ≤ t ∧ t < (s + 1) * 1000

theorem secondOf_of_small {t : Int} (ht : |t| < 10 ^ 11) : secondOf t = t := by
  have hsmall : t.natAbs < millisecondBound.toNat := by
    rw [Int.abs_eq_natAbs] at ht
    have hbound : millisecondBound.toNat = 10 ^ 11 := rfl
    omega
  rw [secondOf, if_pos hsmall]

theorem secondOf_of_large {t : Int} (ht : 10 ^ 11 ≤ |t|) : secondOf t = t / 1000 := by
  have hlarge : ¬ t.natAbs < millisecondBound.toNat := by
    rw [Int.abs_eq_natAbs] at ht
    have hbound : millisecondBound.toNat = 10 ^ 11 := rfl
    omega
  rw [secondOf, if_neg hlarge]

theorem standsFor_secondOf (t : Int) : StandsFor t (secondOf t) where
  seconds := secondOf_of_small
  milliseconds ht := by
    rw [secondOf_of_large ht]
    omega

/-- The years of the calendar are those from -262143 to 262142. -/
def InCalendar (s : Int) : Prop :=
  Web.Date.daysFromCivil (-262143) 1 1 * 86400 ≤ s ∧ s < Web.Date.daysFromCivil 262143 1 1 * 86400

theorem inCalendar_iff {s : Int} : InCalendar s ↔ firstSecond ≤ s ∧ s ≤ lastSecond := by
  have hfirst : Web.Date.daysFromCivil (-262143) 1 1 * 86400 = firstSecond := by decide
  have hlast : Web.Date.daysFromCivil 262143 1 1 * 86400 = lastSecond + 1 := by decide
  rw [InCalendar, hfirst, hlast, Int.lt_add_one_iff]

/-! ## The time of day -/

def ShowsTime (text : String) (s : Int) : Prop :=
  ∃ hour minute second : Nat, hour < 24 ∧ minute < 60 ∧ second < 60 ∧
    s % 86400 = hour * 3600 + minute * 60 + second ∧
    text.toList = padded hour ++ ':' :: padded minute

theorem ShowsTime.length {text : String} {s : Int} (h : ShowsTime text s) : text.length = 5 := by
  obtain ⟨hour, minute, _, hhour, hminute, -, -, htext⟩ := h
  rw [← String.length_toList, htext, List.length_append, List.length_cons,
    length_padded (by omega), length_padded (by omega)]

theorem showsTime_clockTime {t : Int} (h : InCalendar (secondOf t)) :
    ShowsTime (clockTime t) (secondOf t) := by
  have hrange := inCalendar_iff.mp h
  have hreach : (decide (firstSecond ≤ secondOf t) && decide (secondOf t ≤ lastSecond)) = true := by
    simpa using hrange
  unfold clockTime
  generalize secondOf t = s at hreach ⊢
  dsimp only
  rw [if_pos hreach]
  have hday : (s % 86400).toNat < 86400 := by omega
  have hhour : (s % 86400).toNat / 60 / 60 < 24 := by omega
  have hminute : (s % 86400).toNat / 60 % 60 < 60 := by omega
  refine ⟨(s % 86400).toNat / 60 / 60, (s % 86400).toNat / 60 % 60, (s % 86400).toNat % 60, hhour,
    hminute, by omega, by omega, ?_⟩
  rw [String.toList_append, String.toList_append, toList_twoDigits (by omega),
    toList_twoDigits (by omega), List.append_assoc]
  rfl

theorem clockTime_of_not_inCalendar {t : Int} (h : ¬ InCalendar (secondOf t)) :
    clockTime t = "" := by
  have hbeyond :
      ¬ (decide (firstSecond ≤ secondOf t) && decide (secondOf t ≤ lastSecond)) = true := by
    simpa [inCalendar_iff] using h
  rw [clockTime, if_neg hbeyond]

theorem clockTime_congr {t u : Int} (h : secondOf u = secondOf t) : clockTime u = clockTime t := by
  rw [clockTime, clockTime, h]

/-- Beside a message stand the hour and the minute of the second for which its stamp stands, in five
characters, as far as the calendar reaches.  A stamp in milliseconds and the one in seconds for the
same second are shown alike. -/
theorem clock_of_stamp (m : Message) :
    let s := secondOf m.stamp.time
    StandsFor m.stamp.time s ∧
    (InCalendar s → ShowsTime m.clockTime s ∧ m.clockTime.length = 5) ∧
    (¬ InCalendar s → m.clockTime = "") ∧
    ∀ other : Message, |s| < 10 ^ 11 → other.stamp.time = s → other.clockTime = m.clockTime := by
  intro s
  refine ⟨standsFor_secondOf _, fun h => ?_, clockTime_of_not_inCalendar, fun other hs hother => ?_⟩
  · have hshown : ShowsTime m.clockTime s := showsTime_clockTime h
    exact ⟨hshown, hshown.length⟩
  · refine clockTime_congr ?_
    rw [hother, secondOf_of_small hs]

example : clockTime (-100000000001) = "14:13" := by decide

end ChatTerminal
