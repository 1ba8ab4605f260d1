import Mathlib
import XorOverlay.Proofs.Wire.RoundTrip

/-!
Responses of any length. The count in front of a value or of a contact list has four bytes, so what
is longer is written in full behind the count of its beginning; its packet is the packet of that
beginning with bytes behind it, and arrives as such. Whatever a node answers, the peer gets an
answer of the same kind.
-/

namespace XorOverlay

set_option autoImplicit false

/-- As much of a list as its four-byte count counts. -/
def counted {α : Type} (entries : List α) : List α :=
  entries.take (entries.length % 2 ^ 32)

/-- The reply that arrives where a reply is sent. -/
def Reply.carried : Reply → Reply
  | .nodes peers => .nodes (counted peers)
  | .found value => .found (counted value)
  | .closest peers => .closest (counted peers)
  | other => other

section Counted

variable {α : Type} {entries : List α}

theorem length_counted (entries : List α) : (counted entries).length = entries.length % 2 ^ 32 := by
  unfold counted
  rw [List.length_take]
  exact Nat.min_eq_left (Nat.mod_le _ _)

theorem counted_short (entries : List α) : (counted entries).length < 2 ^ 32 := by
  rw [length_counted]
  exact Nat.mod_lt _ (by decide)

theorem counted_of_short (short : entries.length < 2 ^ 32) : counted entries = entries := by
  unfold counted
  rw [Nat.mod_eq_of_lt short, List.take_length]

theorem counted_append (entries : List α) :
    counted entries ++ entries.drop (entries.length % 2 ^ 32) = entries :=
  List.take_append_drop _ _

theorem mem_counted {entry : α} (member : entry ∈ counted entries) : entry ∈ entries :=
  List.mem_of_mem_take member

end Counted

namespace Reply

theorem carried_short (reply : Reply) : reply.carried.Short := by
  cases reply with
  | pong id => trivial
  | stored accepted => trivial
  | nodes peers => exact counted_short peers
  | found value => exact counted_short value
  | closest peers => exact counted_short peers

theorem carried_of_short {reply : Reply} (short : reply.Short) : reply.carried = reply := by
  cases reply with
  | pong id => rfl
  | stored accepted => rfl
  | nodes peers => exact congrArg Reply.nodes (counted_of_short short)
  | found value => exact congrArg Reply.found (counted_of_short short)
  | closest peers => exact congrArg Reply.closest (counted_of_short short)

end Reply

namespace Octets

/-- A number is spelt like what is left of it in its bytes. -/
theorem bigEndian_mod (width number : Nat) :
    bigEndian width (number % 256 ^ width) = bigEndian width number := by
  have spelt := bigEndian_value (bigEndian width number)
  rw [length_bigEndian, value_bigEndian] at spelt
  exact spelt

end Octets

namespace Wire

theorem bytes_counted (data : Octets) :
    bytes data = bytes (counted data) ++ data.drop (data.length % 2 ^ 32) := by
  unfold bytes
  rw [List.append_assoc, counted_append, length_counted]
  exact congrArg (· ++ data) (Octets.bigEndian_mod 4 data.length).symm

theorem contactEntries_append {first second : List Contact} {written : Octets}
    (done : contactEntries (first ++ second) = .ok written) :
    ∃ early late, contactEntries first = .ok early ∧ written = early ++ late := by
  induction first generalizing written with
  | nil => exact ⟨[], written, rfl, rfl⟩
  | cons peer rest ih =>
      obtain ⟨head, others, one, tail, rfl⟩ := contactEntries_cons done
      obtain ⟨early, late, entries, rfl⟩ := ih tail
      refine ⟨head ++ early, late, ?_, (List.append_assoc _ _ _).symm⟩
      rw [contactEntries, one, entries]
      rfl

theorem contacts_counted {peers : List Contact} {written : Octets}
    (done : contacts peers = .ok written) :
    ∃ early late, contacts (counted peers) = .ok early ∧ written = early ++ late := by
  obtain ⟨entries, body, rfl⟩ := contacts_eq_ok done
  rw [← counted_append peers] at body
  obtain ⟨early, late, beginning, rfl⟩ := contactEntries_append body
  refine ⟨Octets.bigEndian 4 (counted peers).length ++ early, late, ?_, ?_⟩
  · rw [contacts, beginning]
    rfl
  · rw [List.append_assoc, length_counted]
    exact congrArg (· ++ _) (Octets.bigEndian_mod 4 peers.length).symm

/-- The fields of a reply are those of the reply that arrives, and what follows them. -/
theorem reply_carried {answered : Reply} {written : Octets} (done : reply answered = .ok written) :
    ∃ early late, reply answered.carried = .ok early ∧ written = early ++ late := by
  cases answered with
  | pong id => exact ⟨written, [], done, (List.append_nil _).symm⟩
  | stored accepted => exact ⟨written, [], done, (List.append_nil _).symm⟩
  | nodes peers => exact contacts_counted done
  | found value =>
      obtain rfl := Except.ok.inj done
      refine ⟨_, value.drop (value.length % 2 ^ 32), rfl, ?_⟩
      rw [bytes_counted, List.cons_append]
  | closest peers =>
      obtain ⟨fields, body, flagged⟩ := ok_of_bind done
      obtain rfl := Except.ok.inj flagged
      obtain ⟨early, late, beginning, rfl⟩ := contacts_counted body
      refine ⟨0 :: early, late, ?_, rfl⟩
      rw [Reply.carried, reply, beginning]
      rfl

theorem kind_carried (answered : Reply) : replyKind answered.carried = replyKind answered := by
  cases answered with
  | _ => rfl

/-- A response that can be written arrives. -/
theorem response_arrives (answered : Response)
    (writable : ∀ peer ∈ (Message.response answered).contacts, peer.Writable) :
    ∃ packet, encode (.response answered) = .ok packet ∧
      decode packet = .ok (.response ⟨answered.tag, answered.reply.carried⟩) := by
  obtain ⟨packet, done⟩ := (encode_ok_iff (.response answered)).mpr writable
  obtain ⟨fields, written, _⟩ := ok_of_bind done
  obtain rfl := Except.ok.inj ((encode_response written).symm.trans done)
  obtain ⟨early, late, beginning, rfl⟩ := reply_carried written
  have short : (Message.response ⟨answered.tag, answered.reply.carried⟩).Short :=
    Reply.carried_short answered.reply
  have whole := (decodes_encode short (encode_response beginning)).whole late
  rw [framed, List.append_assoc, kind_carried] at whole
  exact ⟨_, done, whole⟩

end Wire
end XorOverlay
