/-! # Hexadecimal digits

The value of a digit and the digits of a number, in base sixteen.
-/

namespace QueryableApi.Text

/-- The value of a hexadecimal digit in either case. -/
def hexValue? (c : Char) : Option Nat :=
  if '0' ≤ c ∧ c ≤ '9' then some (c.toNat - 0x30)
  else if 'A' ≤ c ∧ c ≤ 'F' then some (c.toNat - 0x41 + 10)
  else if 'a' ≤ c ∧ c ≤ 'f' then some (c.toNat - 0x61 + 10)
  else none

/-- The hexadecimal digit of a number below sixteen, in upper case. -/
def hexChar (n : Nat) : Char := if n < 10 then Char.ofNat (0x30 + n) else Char.ofNat (0x41 + n - 10)

theorem hexValue?_hexChar {n : Nat} (h : n < 16) : hexValue? (hexChar n) = some n := by
  have all : ∀ m ∈ List.range 16, hexValue? (hexChar m) = some m := by decide
  exact all n (List.mem_range.2 h)

end QueryableApi.Text
