import XorOverlay.Ident

/-!
The SHA-1 digest of FIPS 180-4, which turns a text key into the identifier it is stored under.
-/

set_option autoImplicit false

namespace XorOverlay.Sha1

/-- The five words of chaining state. -/
structure State where
  a : UInt32
  b : UInt32
  c : UInt32
  d : UInt32
  e : UInt32
  deriving DecidableEq

def State.initial : State :=
  ⟨0x67452301, 0xefcdab89, 0x98badcfe, 0x10325476, 0xc3d2e1f0⟩

def rotate (word : UInt32) (count : UInt32) : UInt32 :=
  (word <<< count) ||| (word >>> (32 - count))

/-- A one bit, as few zero bits as fill all but the last eight bytes of a block, and the length in
bits. -/
def padding (length : Nat) : Octets :=
  0x80 :: (List.replicate ((119 - length % 64) % 64) 0 ++ Octets.bigEndian 8 (length * 8))

/-- Big-endian words; a shorter rest is dropped, and padded messages have none. -/
def words : Octets → List UInt32
  | a :: b :: c :: d :: rest =>
    UInt32.ofNat (Octets.value [a, b, c, d]) :: words rest
  | _ => []

/-- Extends the sixteen words of a block to eighty: each later word rotates the exclusive or of
the words 3, 8, 14 and 16 places back. -/
def schedule (block : Array UInt32) : Array UInt32 :=
  (List.range 64).foldl
    (fun known step =>
      let place := step + 16
      known.push (rotate
        (known.getD (place - 3) 0 ^^^ known.getD (place - 8) 0 ^^^
          known.getD (place - 14) 0 ^^^ known.getD (place - 16) 0) 1))
    block

/-- The mixing function and constant of a round: choice, parity, majority, parity. -/
def mixing (round : Nat) (b c d : UInt32) : UInt32 × UInt32 :=
  if round < 20 then ((b &&& c) ||| (~~~b &&& d), 0x5a827999)
  else if round < 40 then (b ^^^ c ^^^ d, 0x6ed9eba1)
  else if round < 60 then ((b &&& c) ||| (b &&& d) ||| (c &&& d), 0x8f1bbcdc)
  else (b ^^^ c ^^^ d, 0xca62c1d6)

def step (state : State) (round : Nat) (word : UInt32) : State :=
  let (mixed, constant) := mixing round state.b state.c state.d
  ⟨rotate state.a 5 + mixed + state.e + constant + word, state.a, rotate state.b 30,
    state.c, state.d⟩

/-- Mixes one block of sixteen words into the chaining state. -/
def compress (state : State) (block : List UInt32) : State :=
  let extended := schedule block.toArray
  let mixed := (List.range 80).foldl
    (fun current round => step current round (extended.getD round 0)) state
  ⟨state.a + mixed.a, state.b + mixed.b, state.c + mixed.c, state.d + mixed.d,
    state.e + mixed.e⟩

/-- Mixes all blocks in; `count` bounds their number. -/
def absorb : Nat → State → List UInt32 → State
  | 0, state, _ => state
  | count + 1, state, message =>
    if message.isEmpty then state
    else absorb count (compress state (message.take 16)) (message.drop 16)

def digest (message : Octets) : Octets :=
  let padded := words (message ++ padding message.length)
  let state := absorb padded.length State.initial padded
  [state.a, state.b, state.c, state.d, state.e].flatMap fun word =>
    Octets.bigEndian 4 word.toNat

end XorOverlay.Sha1

namespace XorOverlay.Ident

/-- The identifier a byte string is stored under. -/
def digestOctets (key : Octets) : Ident :=
  ofNat (Octets.value (Sha1.digest key))

/-- The identifier a text key is stored under: the digest of its UTF-8 bytes. -/
def digest (key : String) : Ident :=
  digestOctets key.toUTF8.data.toList

end XorOverlay.Ident
