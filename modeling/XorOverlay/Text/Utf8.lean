import XorOverlay.Octets

/-!
Reading UTF-8. A byte string is cut into characters and ill-formed parts, each of the latter as
long as it could still have become a character. Text is accepted if there is no such part, and can
otherwise be shown with a replacement character for each.
-/

set_option autoImplicit false

namespace XorOverlay.Text.Utf8

/-- What a leading byte announces: how many bytes follow, the range of the first of them, and the
bits of the leading byte that count. -/
def announced (lead : Nat) : Option (Nat × Nat × Nat × Nat) :=
  if lead < 0x80 then some (0, 0x80, 0xbf, lead)
  else if lead < 0xc2 then none
  else if lead < 0xe0 then some (1, 0x80, 0xbf, lead - 0xc0)
  else if lead = 0xe0 then some (2, 0xa0, 0xbf, 0)
  else if lead = 0xed then some (2, 0x80, 0x9f, 13)
  else if lead < 0xf0 then some (2, 0x80, 0xbf, lead - 0xe0)
  else if lead = 0xf0 then some (3, 0x90, 0xbf, 0)
  else if lead < 0xf4 then some (3, 0x80, 0xbf, lead - 0xf0)
  else if lead = 0xf4 then some (3, 0x80, 0x8f, 4)
  else none

/-- Reads the following bytes: the code point, if all of them fit, and how many did. -/
def following : Nat → Nat → Nat → Nat → Octets → Option Nat × Nat
  | 0, _, _, point, _ => (some point, 0)
  | _ + 1, _, _, _, [] => (none, 0)
  | count + 1, low, high, point, byte :: rest =>
    if low ≤ byte.toNat ∧ byte.toNat ≤ high then
      let (read, used) := following count 0x80 0xbf (point * 64 + byte.toNat % 64) rest
      (read, used + 1)
    else (none, 0)

def scan (bytes : Octets) : List (Option Char) :=
  match bytes with
  | [] => []
  | lead :: rest =>
    match announced lead.toNat with
    | none => none :: scan rest
    | some (count, low, high, point) =>
      let part := following count low high point rest
      part.1.map Char.ofNat :: scan (rest.drop part.2)
termination_by bytes.length
decreasing_by
  · simp
  · simp only [List.length_drop, List.length_cons]
    omega

/-- The text, if there is no ill-formed part. -/
def decode? (bytes : Octets) : Option (List Char) :=
  (scan bytes).mapM id

/-- The text with a replacement character for each ill-formed part. -/
def decodeLossy (bytes : Octets) : List Char :=
  (scan bytes).map fun part => part.getD (Char.ofNat 0xfffd)

end XorOverlay.Text.Utf8
