/-!
Byte strings and their two spellings: as numbers, most significant byte first, and as hexadecimal
text. Keys, values and packets are all byte strings, so the rest of the library reads and writes
numbers through this module only.
-/

set_option autoImplicit false

namespace XorOverlay

/-- A byte string: a stored key, a stored value or a packet. -/
abbrev Octets := List UInt8

namespace Octets

/-- The number a byte string spells, most significant byte first. -/
def value (bytes : Octets) : Nat :=
  bytes.foldl (fun number byte => number * 256 + byte.toNat) 0

/-- The `width` low-order bytes of `number`, most significant byte first. Higher bytes are
dropped, so a count that outgrows its field wraps around. -/
def bigEndian : Nat → Nat → Octets
  | 0, _ => []
  | width + 1, number => bigEndian width (number / 256) ++ [UInt8.ofNat number]

def digit (nibble : Nat) : Char :=
  if nibble < 10 then Char.ofNat (48 + nibble) else Char.ofNat (87 + nibble)

def nibble? (c : Char) : Option Nat :=
  if '0' ≤ c ∧ c ≤ '9' then some (c.toNat - 48)
  else if 'a' ≤ c ∧ c ≤ 'f' then some (c.toNat - 87)
  else if 'A' ≤ c ∧ c ≤ 'F' then some (c.toNat - 55)
  else none

def hex (bytes : Octets) : String :=
  String.ofList (bytes.flatMap fun byte => [digit (byte.toNat / 16), digit (byte.toNat % 16)])

/-- The bytes that pairs of digits spell; an odd digit out or any other character spells nothing. -/
def ofHexDigits? : List Char → Option Octets
  | [] => some []
  | [_] => none
  | high :: low :: rest => do
    let upper ← nibble? high
    let lower ← nibble? low
    let bytes ← ofHexDigits? rest
    return UInt8.ofNat (upper * 16 + lower) :: bytes

def ofHex? (text : String) : Option Octets :=
  ofHexDigits? text.toList

/-- Byte strings in dictionary order, the order of their hexadecimal texts. -/
def before : Octets → Octets → Bool
  | [], [] => false
  | [], _ :: _ => true
  | _ :: _, [] => false
  | x :: xs, y :: ys => x < y || (x == y && before xs ys)

end Octets
end XorOverlay
