import Cashp.Kit.Text
import Mathlib.Algebra.Ring.Int.Defs

/-!
Integer money arithmetic (`money.go`) and the numbers in texts. Amounts are exact integers here
and in all of billing, as long as they stay within 64 bits.
-/

namespace Cashp

open Kit

def clampNonNegative (amount : Int) : Int :=
  if amount < 0 then 0 else amount

def divRoundHalfAway (num den : Int) : Int :=
  let flipped := den < 0
  let num := if flipped then -num else num
  let den := if flipped then -den else den
  if num < 0 then -((-num * 2 + den).tdiv (den * 2)) else (num * 2 + den).tdiv (den * 2)

def percentBasisPoints (amount bps : Int) : Int :=
  if bps = 0 ∨ amount = 0 then 0 else divRoundHalfAway (amount * bps) 10000

def prorate (amount numerator denominator : Int) : Int :=
  if denominator = 0 ∨ amount = 0 ∨ numerator = 0 then 0
  else if numerator ≥ denominator then amount
  else if numerator < 0 then 0
  else divRoundHalfAway (amount * numerator) denominator

def secondsPerDay : Int := 86400

def decimalValue : List Char → Option Nat
  | [] => none
  | digits => digits.foldl (fun total c => total.bind fun n =>
    if c.isDigit then some (n * 10 + (c.toNat - '0'.toNat)) else none) (some 0)

/-- `strconv.ParseInt(text, 10, 64)`. -/
def parseInt64 (text : String) : Option Int :=
  let signed : Option Int := match text.toList with
    | '-' :: digits => (decimalValue digits).map fun n => -(n : Int)
    | '+' :: digits => (decimalValue digits).map fun n => (n : Int)
    | digits => (decimalValue digits).map fun n => (n : Int)
  signed.bind fun n => if -(2 ^ 63) ≤ n ∧ n < 2 ^ 63 then some n else none

def itoa (n : Int) : String := toString n

/-- `%06d` for a counter that starts at one. -/
def sixDigits (n : Int) : String :=
  let digits := itoa n
  String.ofList (List.replicate (6 - digits.length) '0') ++ digits

def currencyExponents : List (String × Nat) := [
  ("AED", 2), ("ARS", 2), ("AUD", 2), ("BGN", 2), ("BHD", 3), ("BRL", 2), ("CAD", 2),
  ("CHF", 2), ("CLP", 0), ("CNY", 2), ("COP", 2), ("CZK", 2), ("DKK", 2), ("EGP", 2),
  ("EUR", 2), ("GBP", 2), ("HKD", 2), ("HRK", 2), ("HUF", 2), ("IDR", 2), ("ILS", 2),
  ("INR", 2), ("ISK", 0), ("JOD", 3), ("JPY", 0), ("KES", 2), ("KRW", 0), ("KWD", 3),
  ("MAD", 2), ("MXN", 2), ("MYR", 2), ("NGN", 2), ("NOK", 2), ("NZD", 2), ("OMR", 3),
  ("PEN", 2), ("PHP", 2), ("PKR", 2), ("PLN", 2), ("QAR", 2), ("RON", 2), ("RSD", 2),
  ("RUB", 2), ("SAR", 2), ("SEK", 2), ("SGD", 2), ("THB", 2), ("TND", 3), ("TRY", 2),
  ("TWD", 2), ("TZS", 2), ("UAH", 2), ("USD", 2), ("UYU", 2), ("VND", 0), ("ZAR", 2)
]

def defaultCurrency : String := "USD"

def normalizeCurrency (code : String) : Except String String :=
  let upper := upperText (trimSpace code)
  if upper == "" then .error "billing: currency is required"
  else if currencyExponents.any (fun entry => entry.1 == upper) then .ok upper
  else .error ("billing: unsupported currency \"" ++ upper ++ "\"")

theorem clampNonNegative_nonneg (amount : Int) : 0 ≤ clampNonNegative amount := by
  unfold clampNonNegative
  split <;> omega

theorem clampNonNegative_of_nonneg {amount : Int} (positive : 0 ≤ amount) :
    clampNonNegative amount = amount := by
  unfold clampNonNegative
  rw [if_neg (by omega)]

theorem clampNonNegative_pos (amount : Int) : 0 < clampNonNegative amount ↔ 0 < amount := by
  unfold clampNonNegative
  split <;> omega

end Cashp
