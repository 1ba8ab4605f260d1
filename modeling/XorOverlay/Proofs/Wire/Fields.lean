import Mathlib
import XorOverlay.Proofs.BigEndian
import XorOverlay.Wire.Reader

/-!
Fields on the wire. A reader reads a field if it takes exactly the bytes that the field was written
in and finds a packet that ends within them truncated. Fields behind one another are read one after
another, so the property is proved field by field and put together along the layout.
-/

namespace XorOverlay

set_option autoImplicit false

/-- A contact with an IPv4 endpoint, which the wire format has room for. -/
def Contact.Writable (peer : Contact) : Prop :=
  ∃ host port, peer.endpoint = some (.v4 host port)

namespace Wire

/-- Reading failed because more bytes were needed than were left. -/
def Truncated {α : Type} (outcome : Except Malformed α) : Prop :=
  ∃ needed left, left < needed ∧ outcome = .error (.truncated needed left)

/-- The reader takes `bytes` for `value` and leaves what follows them; of anything shorter it says
that it is truncated. -/
structure Reads {α : Type} (reader : Reader α) (bytes : Octets) (value : α) : Prop where
  whole : ∀ rest, reader (bytes ++ rest) = .ok (value, rest)
  cut : ∀ part, part <+: bytes → part.length < bytes.length → Truncated (reader part)

/-- A sequence of two steps succeeds only if both of them do. -/
theorem ok_of_bind {ε α β : Type} {outcome : Except ε α} {next : α → Except ε β} {result : β}
    (done : outcome >>= next = .ok result) :
    ∃ value, outcome = .ok value ∧ next value = .ok result := by
  cases outcome with
  | error failure => cases done
  | ok value => exact ⟨value, rfl, done⟩

theorem truncated_bind {α β : Type} {outcome : Except Malformed α} (next : α → Except Malformed β)
    (truncated : Truncated outcome) : Truncated (outcome >>= next) := by
  obtain ⟨needed, left, less, failed⟩ := truncated
  refine ⟨needed, left, less, ?_⟩
  rw [failed]
  rfl

/-- A packet that ends within two parts ends within the first, or is the first and ends within the
second. -/
theorem prefix_cases {part first second : Octets} (within : part <+: first ++ second)
    (short : part.length < (first ++ second).length) :
    (part <+: first ∧ part.length < first.length) ∨
      ∃ later, part = first ++ later ∧ later <+: second ∧ later.length < second.length := by
  by_cases early : part.length < first.length
  · left
    exact ⟨List.prefix_of_prefix_length_le within (List.prefix_append _ _) early.le, early⟩
  · right
    obtain ⟨later, rfl⟩ :=
      List.prefix_of_prefix_length_le (List.prefix_append first second) within (not_lt.mp early)
    rw [List.prefix_append_right_inj] at within
    rw [List.length_append, List.length_append] at short
    exact ⟨later, rfl, within, by omega⟩

theorem reads_nothing {α : Type} (value : α) :
    Reads (fun input => .ok (value, input)) [] value := by
  constructor
  · intro rest
    rfl
  · intro part _ short
    exact (Nat.not_lt_zero _ short).elim

/-- A reader followed by another reads the one field behind the other. -/
theorem reads_then {α β : Type} {first : Reader α} {bytes more : Octets} {value : α} {result : β}
    (next : α → Reader β) (head : Reads first bytes value)
    (tail : Reads (next value) more result) :
    Reads (fun input => first input >>= fun taken => next taken.1 taken.2) (bytes ++ more)
      result := by
  constructor
  · intro rest
    rw [List.append_assoc, head.whole]
    exact tail.whole rest
  · intro part within short
    rcases prefix_cases within short with ⟨early, ends⟩ | ⟨later, rfl, inside, ends⟩
    · exact truncated_bind _ (head.cut part early ends)
    · rw [head.whole]
      exact tail.cut later inside ends

theorem reads_map {α β : Type} {first : Reader α} {bytes : Octets} {value : α}
    (convert : α → β) (head : Reads first bytes value) :
    Reads (fun input => first input >>= fun taken => .ok (convert taken.1, taken.2)) bytes
      (convert value) := by
  have joined := reads_then (fun taken input => .ok (convert taken, input)) head
    (reads_nothing (convert value))
  rw [List.append_nil] at joined
  exact joined

theorem reads_take {bytes : Octets} (count : Nat) (length : bytes.length = count) :
    Reads (take count) bytes bytes := by
  constructor
  · intro rest
    rw [take, if_neg (by rw [List.length_append]; omega), List.take_left' length,
      List.drop_left' length]
  · intro part _ short
    refine ⟨count, part.length, by omega, ?_⟩
    rw [take, if_pos (by omega)]

theorem reads_number (width number : Nat) :
    Reads (Wire.number width) (Octets.bigEndian width number) (number % 256 ^ width) := by
  rw [← Octets.value_bigEndian]
  exact reads_map Octets.value (reads_take width (Octets.length_bigEndian width number))

theorem reads_ident (id : Ident) : Reads readIdent id.octets id := by
  have converted := reads_map Ident.ofNat
    (reads_map Octets.value (reads_take Ident.byteCount id.length_octets))
  rw [Ident.ofNat_value_octets] at converted
  exact converted

theorem reads_bytes {data : Octets} (short : data.length < 2 ^ 32) :
    Reads readBytes (bytes data) data := by
  have count := reads_number 4 data.length
  rw [Nat.mod_eq_of_lt (by omega)] at count
  exact reads_then take count (reads_take data.length rfl)

theorem reads_flag (byte : UInt8) : Reads readFlag [byte] (byte != 0) := by
  have digits : Reads (take 1) [byte] [byte] := reads_take 1 rfl
  have converted := reads_map (fun value => value != 0) (reads_map Octets.value digits)
  have same : (Octets.value [byte] != 0) = (byte != 0) := by
    have read : Octets.value [byte] = byte.toNat := Nat.zero_add _
    rw [read, Bool.eq_iff_iff, bne_iff_ne, bne_iff_ne, ne_eq, ne_eq, ← UInt8.toNat_inj]
    rfl
  rw [same] at converted
  exact converted

theorem contact_eq_ok {peer : Contact} {host : UInt32} {port : UInt16}
    (writable : peer.endpoint = some (.v4 host port)) :
    contact peer = .ok
      (peer.id.octets ++ Octets.bigEndian 4 host.toNat ++ Octets.bigEndian 2 port.toNat) := by
  unfold contact
  rw [writable]

theorem contact_eq_error {peer : Contact} (unwritable : ¬peer.Writable) :
    contact peer = .error (.unsupportedAddress peer.endpoint) := by
  unfold contact
  split
  · next host port found => exact (unwritable ⟨host, port, found⟩).elim
  · rfl

theorem reads_contact {peer : Contact} {written : Octets} (done : contact peer = .ok written) :
    Reads readContact written peer ∧ written.length = contactLength := by
  obtain ⟨host, port, found⟩ : peer.Writable := by
    by_contra unwritable
    rw [contact_eq_error unwritable] at done
    cases done
  rw [contact_eq_ok found] at done
  have bytes : written = peer.id.octets ++ (Octets.bigEndian 4 host.toNat ++
      Octets.bigEndian 2 port.toNat) := by
    rw [← List.append_assoc]
    exact (Except.ok.inj done).symm
  have idLength : peer.id.octets.length = 20 := peer.id.length_octets
  have hostLength := Octets.length_bigEndian 4 host.toNat
  have length : written.length = contactLength := by
    rw [bytes, List.length_append, List.length_append, idLength, hostLength,
      Octets.length_bigEndian]
    rfl
  refine ⟨?_, length⟩
  have converted := reads_map
    (fun entry : Octets =>
      (⟨Ident.ofNat (Octets.value (entry.take 20)),
        some (.v4 (UInt32.ofNat (Octets.value ((entry.drop 20).take 4)))
          (UInt16.ofNat (Octets.value (entry.drop 24))))⟩ : Contact))
    (reads_take contactLength length)
  have behind : written.drop 24 = Octets.bigEndian 2 port.toNat := by
    rw [bytes, ← List.append_assoc]
    exact List.drop_left' (by rw [List.length_append, idLength, hostLength])
  have same : (⟨Ident.ofNat (Octets.value (written.take 20)),
        some (.v4 (UInt32.ofNat (Octets.value ((written.drop 20).take 4)))
          (UInt16.ofNat (Octets.value (written.drop 24))))⟩ : Contact) = peer := by
    rw [behind, bytes, List.take_left' idLength, List.drop_left' idLength,
      List.take_left' hostLength, Ident.ofNat_value_octets,
      Octets.value_bigEndian_of_lt host.toNat_lt, Octets.value_bigEndian_of_lt port.toNat_lt,
      UInt32.ofNat_toNat, UInt16.ofNat_toNat, ← found]
  rw [same] at converted
  exact converted

end Wire
end XorOverlay
