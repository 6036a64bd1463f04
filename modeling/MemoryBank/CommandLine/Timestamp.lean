import MemoryBank.Decimal.Digits

set_option autoImplicit false

/-!
Moments, given in Unix seconds, as dates and times of day in universal time.
-/

namespace MemoryBank

structure Date where
  year : Int
  month : Nat
  day : Nat
  deriving DecidableEq

namespace Date

/-- The date so many days after the first of January 1970. Years are counted from March, so that
the leap day is the last of its year, and in cycles of 400, all of one length. -/
def ofDays (days : Int) : Date :=
  let sinceMarch := days + 719468
  let cycle := sinceMarch.fdiv 146097
  let dayOfCycle := (sinceMarch.fmod 146097).toNat
  let yearOfCycle :=
    (dayOfCycle - dayOfCycle / 1460 + dayOfCycle / 36524 - dayOfCycle / 146096) / 365
  let dayOfYear := dayOfCycle - (365 * yearOfCycle + yearOfCycle / 4 - yearOfCycle / 100)
  let monthFromMarch := (5 * dayOfYear + 2) / 153
  let year : Int := cycle * 400 + yearOfCycle
  let day := dayOfYear - (153 * monthFromMarch + 2) / 5 + 1
  if monthFromMarch < 10 then ⟨year, monthFromMarch + 3, day⟩
  else ⟨year + 1, monthFromMarch - 9, day⟩

def yearChars (year : Int) : List Char :=
  -- Years of four digits stand alone, all others have a sign.
  if 0 ≤ year ∧ year ≤ 9999 then Decimal.padded 4 year.toNat
  else (if year < 0 then '-' else '+') :: Decimal.padded 4 year.natAbs

def chars (d : Date) : List Char :=
  yearChars d.year ++ '-' :: Decimal.padded 2 d.month ++ '-' :: Decimal.padded 2 d.day

end Date

namespace Timestamp

def secondsOfDay : Nat := 86400

def first : Int := -8334601228800

def last : Int := 8210266876799

def render (moment : Int) : String :=
  -- The date and the time of day; what has no date is left a number.
  if first ≤ moment ∧ moment ≤ last then
    let date := Date.ofDays (moment.fdiv secondsOfDay)
    let second := (moment.fmod secondsOfDay).toNat
    String.ofList <|
      date.chars ++ 'T' :: Decimal.padded 2 (second / 3600)
        ++ ':' :: Decimal.padded 2 (second / 60 % 60)
        ++ ':' :: Decimal.padded 2 (second % 60) ++ "+00:00".toList
  else Decimal.render moment

example : render 0 = "1970-01-01T00:00:00+00:00" := by decide +kernel
example : render 1709210096 = "2024-02-29T12:34:56+00:00" := by decide +kernel
example : render first = "-262143-01-01T00:00:00+00:00" := by decide +kernel
example : render last = "+262142-12-31T23:59:59+00:00" := by decide +kernel

end Timestamp

end MemoryBank
