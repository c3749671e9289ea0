import AutomatonKit.Timestamp.Basic

/-!
# Writing timestamps

A timestamp is written as date, `T`, time of day and `Z`.  The fraction of a second is left out if
it is zero and has otherwise three, six or nine digits, the fewest that show it exactly.  A year
outside 0 to 9999 has a sign.
-/

namespace AutomatonKit.Timestamp

/-- A number in decimal digits, with leading zeros up to a width. -/
def padded (width n : Nat) : List Char :=
  let digits := Nat.toDigits 10 n
  List.replicate (width - digits.length) '0' ++ digits

def writeYear (year : Int) : List Char :=
  if year < 0 then '-' :: padded 4 year.natAbs
  else if 9999 < year then '+' :: padded 4 year.natAbs
  else padded 4 year.natAbs

/-- The text of a fraction of a second. -/
def writeFraction (nanosecond : Nat) : List Char :=
  if nanosecond = 0 then []
  else if nanosecond % 1000000 = 0 then '.' :: padded 3 (nanosecond / 1000000)
  else if nanosecond % 1000 = 0 then '.' :: padded 6 (nanosecond / 1000)
  else '.' :: padded 9 nanosecond

def write (t : Timestamp) : String :=
  String.ofList (
    writeYear t.date.year ++ '-' :: padded 2 t.date.month ++ '-' :: padded 2 t.date.day ++
    'T' :: padded 2 t.hour ++ ':' :: padded 2 t.minute ++ ':' :: padded 2 t.second ++
    writeFraction t.nanosecond ++ ['Z'])

end AutomatonKit.Timestamp
