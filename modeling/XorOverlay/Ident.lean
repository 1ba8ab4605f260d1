import XorOverlay.Failure
import XorOverlay.Octets

/-!
Identifiers of 160 bits name nodes and stored keys alike. Two of them are as far apart as the
number their exclusive or spells; the rank coarsens that distance to its bit length, which is what
buckets and replica decisions go by.
-/

set_option autoImplicit false

namespace XorOverlay

/-- A name in the identifier space. -/
structure Ident where
  bits : BitVec 160
  deriving DecidableEq

namespace Ident

/-- The number of bits in an identifier. -/
def bitCount : Nat := 160

/-- The number of bytes in an identifier. -/
def byteCount : Nat := 20

def total : Nat := Nat.pow 2 bitCount

/-- An identifier as a number below `2 ^ 160`. -/
def toNat (id : Ident) : Nat :=
  id.bits.toNat

/-- The identifier of a number; only its low 160 bits count. -/
def ofNat (number : Nat) : Ident :=
  ⟨BitVec.ofNat 160 number⟩

/-- All bits clear, the stand-in for a peer whose name is not known yet. -/
def zero : Ident :=
  ofNat 0

/-- The twenty bytes of an identifier, most significant first. -/
def octets (id : Ident) : Octets :=
  Octets.bigEndian byteCount id.toNat

def ofOctets (bytes : Octets) : Except Failure Ident :=
  if bytes.length = byteCount then .ok (ofNat (Octets.value bytes))
  else .error (.invalidIdentity bytes.length)

/-- The bits on which two identifiers differ. -/
def offset (a b : Ident) : Ident :=
  ⟨a.bits ^^^ b.bits⟩

/-- The XOR distance: the number spelt by the bits on which two identifiers differ. -/
def distance (a b : Ident) : Nat :=
  (a.offset b).toNat

/-- How many of the `count` low-order bits are clear before the first set one, from the top. -/
def clearBelow (bits : BitVec 160) : Nat → Nat
  | 0 => 0
  | count + 1 => if bits.getLsbD count then 0 else clearBelow bits count + 1

/-- The number of clear bits in front of the highest set bit. -/
def leadingZeros (id : Ident) : Nat :=
  clearBelow id.bits bitCount

/-- The rank of a distance: 0 between equal identifiers, otherwise one more than the place of the
highest bit on which they differ. Smaller is closer. -/
def rank (a b : Ident) : Nat :=
  bitCount - (a.offset b).leadingZeros

/-- Identifiers in the order of their bytes. -/
def before (a b : Ident) : Bool :=
  decide (a.toNat < b.toNat)

def text (id : Ident) : String :=
  (Octets.hex id.octets).map Char.toUpper

/-- The identifier that the random number `draw` picks out of `lower` to `upper`. -/
def between (lower upper draw : Nat) : Ident :=
  ofNat (lower + draw % (upper - lower + 1))

end Ident
end XorOverlay
