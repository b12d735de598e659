/-!
# Numerals

Decimal numerals are read with a bound: digits only, after an optional plus sign, and a value that
the bound admits. Addresses are written in hexadecimal.
-/

namespace DriverTelemetry

namespace Numeral

def value (digits : List Char) : Nat :=
  digits.foldl (fun n c => 10 * n + (c.toNat - '0'.toNat)) 0

/-- Reads an unsigned numeral of at most `largest`: an optional `+`, then one digit or more. -/
def read? (largest : Nat) (cs : List Char) : Option Nat :=
  let digits := match cs with
    | '+' :: rest => rest
    | _ => cs
  if !digits.isEmpty && digits.all Char.isDigit && decide (value digits ≤ largest) then
    some (value digits)
  else none

/-- An address, in lower-case hexadecimal after `0x`. -/
def hexadecimal (n : Nat) : String := "0x" ++ String.ofList (Nat.toDigits 16 n)

end Numeral

end DriverTelemetry
