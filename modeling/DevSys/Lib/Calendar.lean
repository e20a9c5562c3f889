import Mathlib.Tactic.IntervalCases
/-!
# The calendar

Dates of the Gregorian calendar by the number of days since 1970-01-01, and
back. A cycle of 400 years that start in March has its leap days at the end of
years, of groups of four years and of the last century.
-/

namespace Calendar

structure Date where
  year : Int
  month : Nat
  day : Nat
  deriving DecidableEq, Repr

def IsLeap (y : Int) : Prop := y % 4 = 0 ∧ (y % 100 ≠ 0 ∨ y % 400 = 0)

instance (y : Int) : Decidable (IsLeap y) := inferInstanceAs (Decidable (_ ∧ _))

def monthLength (y : Int) : Nat → Nat
  | 2 => if IsLeap y then 29 else 28
  | 4 | 6 | 9 | 11 => 30
  | _ => 31

/-- The days of the year before a month. -/
def beforeMonth (y : Int) : Nat → Nat
  | 0 | 1 => 0
  | m + 2 => beforeMonth y (m + 1) + monthLength y (m + 1)

/-- The days since year 0, with the leap days. -/
def beforeYear (y : Int) : Int := 365 * y + (y + 3) / 4 - (y + 99) / 100 + (y + 399) / 400

structure Date.Valid (d : Date) : Prop where
  month : 1 ≤ d.month ∧ d.month ≤ 12
  day : 1 ≤ d.day ∧ d.day ≤ monthLength d.year d.month

/-- The days since 1970-01-01. -/
def dayNumber (d : Date) : Int := beforeYear d.year + beforeMonth d.year d.month + d.day - 719529

/-! ## From a number to a date -/

/-- A day by its century, group of four years, year and day, in a cycle of 400
years that starts in March. -/
structure Place where
  century : Nat
  quad : Nat
  year : Nat
  day : Nat

def place (n : Nat) : Place :=
  let century := min (n / 36524) 3
  let r := n - 36524 * century
  let quad := min (r / 1461) 24
  let r := r - 1461 * quad
  let year := min (r / 365) 3
  { century, quad, year, day := r - 365 * year }

/-- A date of March to December, or of the next January or February. -/
def ofMarch (y : Int) (day : Nat) : Date :=
  let m := (5 * day + 2) / 153
  let d := day - (153 * m + 2) / 5 + 1
  if m < 10 then ⟨y, m + 3, d⟩ else ⟨y + 1, m - 9, d⟩

def ofDayNumber (n : Int) : Date :=
  let n := n + 719468
  let p := place (n % 146097).toNat
  ofMarch (400 * (n / 146097) + 100 * p.century + 4 * p.quad + p.year) p.day

/-! ## The parts of a cycle -/

theorem place_spec {n : Nat} (h : n < 146097) :
    (place n).century ≤ 3 ∧ (place n).quad ≤ 24 ∧ (place n).year ≤ 3 ∧ (place n).day ≤ 365 ∧
      n = 36524 * (place n).century + 1461 * (place n).quad + 365 * (place n).year + (place n).day ∧
      ((place n).day = 365 → (place n).year = 3 ∧ ((place n).quad < 24 ∨ (place n).century = 3)) := by
  simp only [place]
  generalize hcentury : min (n / 36524) 3 = c
  have hc : c ≤ 3 ∧ 36524 * c ≤ n ∧ (n - 36524 * c < 36524 ∨ c = 3 ∧ n - 36524 * c = 36524) := by omega
  clear hcentury
  generalize hrest : n - 36524 * c = r at hc ⊢
  generalize hquad : min (r / 1461) 24 = q
  have hq : q ≤ 24 ∧ 1461 * q ≤ r ∧ r - 1461 * q < 1461 ∧ (q = 24 → r - 1461 * q = 1460 → c = 3) := by omega
  clear hquad
  generalize hrest' : r - 1461 * q = r' at hq ⊢
  generalize hyear : min (r' / 365) 3 = y
  have hy : y ≤ 3 ∧ 365 * y ≤ r' ∧ (r' - 365 * y < 365 ∨ y = 3 ∧ r' - 365 * y = 365) := by omega
  clear hyear
  refine ⟨?_, ?_, ?_, ?_, ?_, ?_⟩ <;> omega

section
variable {era : Int} {c q r : Nat} (hc : c ≤ 3) (hq : q ≤ 24) (hr : r ≤ 3)
include hc hq hr

/-- The years of a cycle, with the leap day that comes before March. -/
theorem beforeYear_add_leapDay :
    beforeYear (400 * era + 100 * c + 4 * q + r) + (if IsLeap (400 * era + 100 * c + 4 * q + r) then 1 else 0) =
      146097 * era + 36524 * c + 1461 * q + 365 * r + 1 := by
  have hfour : (400 * era + 100 * c + 4 * q + r + 3) / 4 = 100 * era + 25 * c + q + (if r = 0 then 0 else 1) := by
    split <;> omega
  have hcentury : (400 * era + 100 * c + 4 * q + r + 99) / 100 = 4 * era + c + (if q = 0 ∧ r = 0 then 0 else 1) := by
    split <;> omega
  have hera : (400 * era + 100 * c + 4 * q + r + 399) / 400 = era + (if c = 0 ∧ q = 0 ∧ r = 0 then 0 else 1) := by
    split <;> omega
  have hleap : IsLeap (400 * era + 100 * c + 4 * q + r) ↔ r = 0 ∧ (q = 0 → c = 0) := by
    unfold IsLeap
    omega
  rw [beforeYear, hfour, hcentury, hera, if_congr hleap rfl rfl]
  split_ifs <;> omega

/-- The February at the end of a year is that of the next one. -/
theorem isLeap_succ_iff : IsLeap (400 * era + 100 * c + 4 * q + r + 1) ↔ r = 3 ∧ (q < 24 ∨ c = 3) := by
  unfold IsLeap
  omega

end

theorem beforeYear_succ (y : Int) : beforeYear (y + 1) = beforeYear y + 365 + if IsLeap y then 1 else 0 := by
  unfold beforeYear IsLeap
  split_ifs <;> omega

/-! ## The months from March on -/

theorem beforeMonth_of_march (y : Int) {m : Nat} (h : m ≤ 9) :
    beforeMonth y (m + 3) = (153 * m + 2) / 5 + 59 + if IsLeap y then 1 else 0 := by
  interval_cases m <;> simp only [beforeMonth, monthLength] <;> split <;> rfl

theorem monthLength_of_march (y : Int) {m : Nat} (h : m ≤ 9) :
    monthLength y (m + 3) + (153 * m + 2) / 5 = (153 * (m + 1) + 2) / 5 := by
  interval_cases m <;> rfl

theorem monthLength_february (y : Int) : monthLength y 2 = 28 + if IsLeap y then 1 else 0 := by
  rw [monthLength]
  split_ifs <;> rfl

theorem valid_mk_iff (y : Int) (m d : Nat) :
    (Date.mk y m d).Valid ↔ (1 ≤ m ∧ m ≤ 12) ∧ 1 ≤ d ∧ d ≤ monthLength y m :=
  ⟨fun h => ⟨h.month, h.day⟩, fun h => ⟨h.1, h.2⟩⟩

theorem dayNumber_mk (y : Int) (m d : Nat) : dayNumber ⟨y, m, d⟩ = beforeYear y + beforeMonth y m + d - 719529 := rfl

theorem ofMarch_spec (y : Int) {day : Nat} (hday : day ≤ 365) (hlast : day = 365 → IsLeap (y + 1)) :
    (ofMarch y day).Valid ∧ dayNumber (ofMarch y day) = beforeYear y + (if IsLeap y then 1 else 0) + day - 719469 := by
  have hm : (5 * day + 2) / 153 ≤ 11 := by omega
  have hstart : (153 * ((5 * day + 2) / 153) + 2) / 5 ≤ day := by omega
  have hstop : day < (153 * ((5 * day + 2) / 153 + 1) + 2) / 5 := by omega
  rw [ofMarch]
  generalize (5 * day + 2) / 153 = m at *
  by_cases hmarch : m < 10
  · have hbefore := beforeMonth_of_march y (m := m) (by omega)
    have hlength := monthLength_of_march y (m := m) (by omega)
    rw [if_pos hmarch, valid_mk_iff, dayNumber_mk, hbefore]
    split_ifs <;> omega
  · have hnext := beforeYear_succ y
    rw [if_neg hmarch, valid_mk_iff, dayNumber_mk]
    obtain rfl | rfl : m = 10 ∨ m = 11 := by omega
    · have hlength : monthLength (y + 1) (10 - 9) = 31 := rfl
      have hbefore : beforeMonth (y + 1) (10 - 9) = 0 := rfl
      rw [hlength, hbefore]
      omega
    · have hlength : monthLength (y + 1) (11 - 9) = 28 + _ := monthLength_february (y + 1)
      have hbefore : beforeMonth (y + 1) (11 - 9) = 31 := rfl
      rw [hlength, hbefore]
      by_cases hleap : IsLeap (y + 1)
      · rw [if_pos hleap]
        omega
      · have hne : day ≠ 365 := fun h => hleap (hlast h)
        rw [if_neg hleap]
        omega

/-- Every number of days is that of a date. -/
theorem ofDayNumber_spec (n : Int) : (ofDayNumber n).Valid ∧ dayNumber (ofDayNumber n) = n := by
  have hn : ((n + 719468) % 146097).toNat < 146097 := by omega
  have hcycle : n + 719468 = 146097 * ((n + 719468) / 146097) + (((n + 719468) % 146097).toNat : Int) := by omega
  obtain ⟨hc, hq, hy, hday, hsum, hlast⟩ := place_spec hn
  rw [ofDayNumber]
  generalize place ((n + 719468) % 146097).toNat = p at *
  have hyear := @beforeYear_add_leapDay ((n + 719468) / 146097) _ _ _ hc hq hy
  have hspec := ofMarch_spec (400 * ((n + 719468) / 146097) + 100 * p.century + 4 * p.quad + p.year) hday
    fun h => (isLeap_succ_iff hc hq hy).2 (hlast h)
  refine ⟨hspec.1, hspec.2.trans ?_⟩
  rw [hyear]
  omega

theorem beforeMonth_add_le (y : Int) {m : Nat} (hm : 1 ≤ m ∧ m ≤ 12) : beforeMonth y m + monthLength y m ≤ 366 := by
  obtain ⟨hlow, hhigh⟩ := hm
  by_cases hleap : IsLeap y
  · interval_cases m <;> simp [beforeMonth, monthLength, hleap]
  · interval_cases m <;> simp [beforeMonth, monthLength, hleap]

/-- The year of a date from 1970 on has four digits until 10000. -/
theorem year_ofDayNumber {n : Int} (hpos : 0 ≤ n) (hlt : n < 2932897) :
    1000 ≤ (ofDayNumber n).year ∧ (ofDayNumber n).year < 10000 := by
  obtain ⟨hvalid, hnumber⟩ := ofDayNumber_spec n
  have hmonth := beforeMonth_add_le (ofDayNumber n).year hvalid.month
  have hday := hvalid.day
  rw [dayNumber, beforeYear] at hnumber
  constructor <;> omega

example : ofDayNumber 20631 = ⟨2026, 6, 27⟩ := by decide

end Calendar
