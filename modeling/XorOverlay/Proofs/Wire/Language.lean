import Mathlib
import XorOverlay.Proofs.Wire.RoundTrip

/-!
Which packets are messages. A reader that succeeds has taken bytes that spell what it returns, and
one that fails has missed bytes at a check, so every packet is either refused for a reason that it
shows or begins with the packet of the message it is read as. The one freedom is a set flag, which
may be any byte but zero.
-/

namespace XorOverlay

set_option autoImplicit false

/-- The first byte of the packet is no message's, or a check asked for more than was left of it. -/
def Malformed.Explains (packet : Octets) : Malformed → Prop
  | .unknownKind kind =>
    5 ≤ packet.length ∧ packet.head? = some kind ∧
      kind ∉ ([0x01, 0x02, 0x03, 0x04, 0x11, 0x12, 0x13, 0x14] : List UInt8)
  | .truncated needed left => left < needed ∧ left ≤ packet.length

namespace Wire

/-- A packet and one that differs from it in a set flag at most. -/
def Reflagged (written raw : Octets) : Prop :=
  raw = written ∨
    (written.head? = some 0x12 ∨ written.head? = some 0x14) ∧ written[5]? = some 1 ∧
      ∃ flag, flag ≠ 0 ∧ raw = written.set 5 flag

/-- What the reader returns is spelt by the bytes it takes, and it fails only for want of bytes. -/
structure Takes {α : Type} (reader : Reader α) (spells : Octets → α → Prop) : Prop where
  spelt : ∀ input value rest, reader input = .ok (value, rest) →
    ∃ taken, input = taken ++ rest ∧ spells taken value
  short : ∀ input failure, reader input = .error failure →
    ∃ needed left, failure = .truncated needed left ∧ left < needed ∧ left ≤ input.length

theorem takes_mono {α : Type} {reader : Reader α} {first second : Octets → α → Prop}
    (takes : Takes reader first) (weaker : ∀ taken value, first taken value → second taken value) :
    Takes reader second := by
  refine ⟨?_, takes.short⟩
  intro input value rest done
  obtain ⟨taken, split, spelt⟩ := takes.spelt input value rest done
  exact ⟨taken, split, weaker taken value spelt⟩

theorem takes_nothing {α : Type} (value : α) :
    Takes (fun input => .ok (value, input)) (fun taken result => taken = [] ∧ result = value) := by
  constructor
  · intro input result rest done
    cases done
    exact ⟨[], rfl, rfl, rfl⟩
  · intro input failure failed
    cases failed

/-- A reader followed by another takes the one part behind the other. -/
theorem takes_then {α β : Type} {first : Reader α} {spells : Octets → α → Prop}
    {follows : α → Octets → β → Prop} (next : α → Reader β) (head : Takes first spells)
    (tail : ∀ value, Takes (next value) (follows value)) :
    Takes (fun input => first input >>= fun taken => next taken.1 taken.2)
      (fun taken result => ∃ value early late, taken = early ++ late ∧ spells early value ∧
        follows value late result) := by
  constructor
  · intro input result rest done
    obtain ⟨⟨value, behind⟩, read, continued⟩ := ok_of_bind done
    obtain ⟨early, split, speltEarly⟩ := head.spelt _ _ _ read
    obtain ⟨late, splitLate, speltLate⟩ := (tail value).spelt _ _ _ continued
    simp only at splitLate
    refine ⟨early ++ late, ?_, value, early, late, rfl, speltEarly, speltLate⟩
    rw [split, splitLate, List.append_assoc]
  · intro input failure failed
    cases read : first input with
    | error cause =>
        rw [read] at failed
        cases failed
        exact head.short _ _ read
    | ok taken =>
        rw [read] at failed
        obtain ⟨early, split, _⟩ := head.spelt _ taken.1 taken.2 read
        obtain ⟨needed, left, cause, missing, within⟩ := (tail taken.1).short _ _ failed
        refine ⟨needed, left, cause, missing, ?_⟩
        rw [split, List.length_append]
        omega

theorem takes_map {α β : Type} {first : Reader α} {spells : Octets → α → Prop}
    (convert : α → β) (head : Takes first spells) :
    Takes (fun input => first input >>= fun taken => .ok (convert taken.1, taken.2))
      (fun taken result => ∃ value, spells taken value ∧ result = convert value) := by
  refine takes_mono (takes_then (fun value input => .ok (convert value, input)) head
    fun value => takes_nothing (convert value)) ?_
  rintro taken result ⟨value, early, late, rfl, spelt, rfl, converted⟩
  rw [List.append_nil]
  exact ⟨value, spelt, converted⟩

theorem takes_take (count : Nat) :
    Takes (take count) (fun taken value => value = taken ∧ taken.length = count) := by
  constructor
  · intro input value rest done
    unfold take at done
    split_ifs at done with missing
    obtain ⟨rfl, rfl⟩ := Prod.mk.inj (Except.ok.inj done)
    refine ⟨_, (List.take_append_drop count input).symm, rfl, ?_⟩
    rw [List.length_take]
    omega
  · intro input failure failed
    unfold take at failed
    split_ifs at failed with missing
    exact ⟨count, input.length, (Except.error.inj failed).symm, missing, le_rfl⟩

theorem takes_number (width : Nat) :
    Takes (number width) (fun taken value => taken = Octets.bigEndian width value ∧
      value < 256 ^ width) := by
  refine takes_mono (takes_map Octets.value (takes_take width)) ?_
  rintro taken _ ⟨_, ⟨rfl, rfl⟩, rfl⟩
  exact ⟨(Octets.bigEndian_value _).symm, Octets.value_lt _⟩

theorem takes_ident : Takes readIdent (fun taken id => taken = id.octets) := by
  refine takes_mono
    (takes_map Ident.ofNat (takes_map Octets.value (takes_take Ident.byteCount))) ?_
  rintro taken _ ⟨_, ⟨_, ⟨rfl, length⟩, rfl⟩, rfl⟩
  exact (Ident.octets_ofNat_value length).symm

theorem takes_bytes :
    Takes readBytes (fun taken data => taken = bytes data ∧ data.length < 2 ^ 32) := by
  refine takes_mono (takes_then take (takes_number 4) takes_take) ?_
  rintro taken data ⟨length, early, late, rfl, ⟨rfl, small⟩, rfl, rfl⟩
  exact ⟨rfl, small⟩

theorem takes_flag :
    Takes readFlag (fun taken flag => ∃ byte, taken = [byte] ∧ flag = (byte != 0)) := by
  refine takes_mono (takes_map (fun value => value != 0) (takes_number 1)) ?_
  rintro taken _ ⟨value, ⟨rfl, small⟩, rfl⟩
  have fits : (UInt8.ofNat value).toNat = value := by
    rw [UInt8.toNat_ofNat']
    exact Nat.mod_eq_of_lt small
  refine ⟨UInt8.ofNat value, rfl, ?_⟩
  rw [Bool.eq_iff_iff, bne_iff_ne, bne_iff_ne, ne_eq, ne_eq, ← UInt8.toNat_inj, fits]
  rfl

theorem contact_of_entry {entry : Octets} (length : entry.length = contactLength) :
    contact ⟨Ident.ofNat (Octets.value (entry.take 20)),
      some (.v4 (UInt32.ofNat (Octets.value ((entry.drop 20).take 4)))
        (UInt16.ofNat (Octets.value (entry.drop 24))))⟩ = .ok entry := by
  have whole : entry.length = 26 := length
  have idLength : (entry.take 20).length = Ident.byteCount := by
    simp [whole, Ident.byteCount]
  have hostLength : ((entry.drop 20).take 4).length = 4 := by simp [whole]
  have portLength : (entry.drop 24).length = 2 := by simp [whole]
  have host := Octets.bigEndian_value ((entry.drop 20).take 4)
  have port := Octets.bigEndian_value (entry.drop 24)
  have hostBound := Octets.value_lt ((entry.drop 20).take 4)
  have portBound := Octets.value_lt (entry.drop 24)
  rw [hostLength] at host hostBound
  rw [portLength] at port portBound
  have hostFits : (UInt32.ofNat (Octets.value ((entry.drop 20).take 4))).toNat =
      Octets.value ((entry.drop 20).take 4) := by
    rw [UInt32.toNat_ofNat']
    exact Nat.mod_eq_of_lt hostBound
  have portFits : (UInt16.ofNat (Octets.value (entry.drop 24))).toNat =
      Octets.value (entry.drop 24) := by
    rw [UInt16.toNat_ofNat']
    exact Nat.mod_eq_of_lt portBound
  rw [contact_eq_ok rfl, Ident.octets_ofNat_value idLength, hostFits, portFits, host, port]
  have behind : (entry.drop 20).drop 4 = entry.drop 24 := by simp
  rw [List.append_assoc, ← behind, List.take_append_drop, List.take_append_drop]

theorem takes_contact : Takes readContact (fun taken peer => contact peer = .ok taken) := by
  refine takes_mono (takes_map
    (fun entry : Octets =>
      (⟨Ident.ofNat (Octets.value (entry.take 20)),
        some (.v4 (UInt32.ofNat (Octets.value ((entry.drop 20).take 4)))
          (UInt16.ofNat (Octets.value (entry.drop 24))))⟩ : Contact))
    (takes_take contactLength)) ?_
  rintro taken _ ⟨_, ⟨rfl, length⟩, rfl⟩
  exact contact_of_entry length

theorem takes_entries (count : Nat) :
    Takes (readContactEntries count)
      (fun taken peers => contactEntries peers = .ok taken ∧ peers.length = count) := by
  induction count with
  | zero =>
      refine takes_mono (takes_nothing []) ?_
      rintro taken _ ⟨rfl, rfl⟩
      exact ⟨rfl, rfl⟩
  | succ count ih =>
      refine takes_mono (takes_then
        (fun entry input => readContactEntries count input >>= fun taken =>
          .ok (entry :: taken.1, taken.2))
        takes_contact fun entry => takes_map (List.cons entry) ih) ?_
      rintro taken _ ⟨peer, early, late, rfl, head, others, ⟨tail, rfl⟩, rfl⟩
      refine ⟨?_, rfl⟩
      rw [contactEntries, head, tail]
      rfl

/-- A check in front of a reader takes nothing, and fails for want of bytes alone. -/
theorem takes_required {α : Type} (count : Nat) {reader : Reader α} {spells : Octets → α → Prop}
    (takes : Takes reader spells) :
    Takes (fun input => require count input >>= fun _ => reader input) spells := by
  constructor
  · intro input value rest done
    obtain ⟨_, _, read⟩ := ok_of_bind done
    exact takes.spelt input value rest read
  · intro input failure failed
    unfold require at failed
    split_ifs at failed with missing
    · exact ⟨count, input.length, (Except.error.inj failed).symm, missing, le_rfl⟩
    · exact takes.short input failure failed

theorem takes_contacts :
    Takes readContacts (fun taken peers => contacts peers = .ok taken ∧ peers.length < 2 ^ 32) := by
  refine takes_mono (takes_then
    (fun listed input => require (listed * contactLength) input >>= fun _ =>
      readContactEntries listed input)
    (takes_number 4) fun listed => takes_required _ (takes_entries listed)) ?_
  rintro taken peers ⟨count, early, late, rfl, ⟨rfl, small⟩, entries, rfl⟩
  refine ⟨?_, small⟩
  rw [contacts, entries]
  rfl

theorem takes_query {kind : UInt8} {reader : Reader Query} (chosen : readQuery? kind = some reader) :
    Takes reader (fun taken asked => queryKind asked = kind ∧ asked.Short ∧ taken = query asked) := by
  unfold readQuery? at chosen
  split_ifs at chosen with ping store node value
  · obtain rfl := Option.some.inj chosen
    refine takes_mono (takes_nothing Query.ping) ?_
    rintro taken _ ⟨rfl, rfl⟩
    exact ⟨ping.symm, trivial, rfl⟩
  · obtain rfl := Option.some.inj chosen
    refine takes_mono (takes_then
      (fun key input => readBytes input >>= fun taken => .ok (Query.store key taken.1, taken.2))
      takes_bytes fun key => takes_map (Query.store key) takes_bytes) ?_
    rintro taken _ ⟨key, early, late, rfl, ⟨rfl, shortKey⟩, value, ⟨rfl, shortValue⟩, rfl⟩
    exact ⟨store.symm, ⟨shortKey, shortValue⟩, rfl⟩
  · obtain rfl := Option.some.inj chosen
    refine takes_mono (takes_map Query.findNode takes_ident) ?_
    rintro taken _ ⟨target, spelt, rfl⟩
    exact ⟨node.symm, trivial, spelt⟩
  · obtain rfl := Option.some.inj chosen
    refine takes_mono (takes_map Query.findValue takes_bytes) ?_
    rintro taken _ ⟨key, ⟨rfl, short⟩, rfl⟩
    exact ⟨value.symm, short, rfl⟩

/-- The fields of a reply as they may be read, a set flag in front of them being any byte but
zero. -/
def Spelt (kind : UInt8) (taken : Octets) (answered : Reply) : Prop :=
  replyKind answered = kind ∧ answered.Short ∧
    (reply answered = .ok taken ∨
      (kind = 0x12 ∨ kind = 0x14) ∧ ∃ flag fields, flag ≠ 0 ∧ taken = flag :: fields ∧
        reply answered = .ok (1 :: fields))

/-- The fields behind the flag of an answer to a value request. -/
def FindingSpelt (found : Bool) (taken : Octets) (answered : Reply) : Prop :=
  if found then ∃ value, (taken = bytes value ∧ value.length < 2 ^ 32) ∧ answered = .found value
  else ∃ peers, (contacts peers = .ok taken ∧ peers.length < 2 ^ 32) ∧ answered = .closest peers

theorem takes_finding (found : Bool) :
    Takes (fun input => if found then readBytes input >>= fun taken =>
        .ok (Reply.found taken.1, taken.2)
      else readContacts input >>= fun taken => .ok (Reply.closest taken.1, taken.2))
      (FindingSpelt found) := by
  cases found with
  | true => exact takes_map Reply.found takes_bytes
  | false => exact takes_map Reply.closest takes_contacts

theorem takes_reply {kind : UInt8} {reader : Reader Reply} (chosen : readReply? kind = some reader) :
    Takes reader (Spelt kind) := by
  unfold readReply? at chosen
  split_ifs at chosen with pong stored nodes value
  · obtain rfl := Option.some.inj chosen
    refine takes_mono (takes_map Reply.pong takes_ident) ?_
    rintro taken _ ⟨id, spelt, rfl⟩
    refine ⟨pong.symm, trivial, Or.inl ?_⟩
    rw [spelt, reply]
  · obtain rfl := Option.some.inj chosen
    refine takes_mono (takes_map Reply.stored takes_flag) ?_
    rintro taken _ ⟨_, ⟨byte, rfl, rfl⟩, rfl⟩
    refine ⟨stored.symm, trivial, ?_⟩
    by_cases clear : byte = 0
    · subst clear
      exact Or.inl rfl
    · have set : (byte != 0) = true := bne_iff_ne.mpr clear
      rw [set]
      exact Or.inr ⟨Or.inl stored, byte, [], clear, rfl, rfl⟩
  · obtain rfl := Option.some.inj chosen
    refine takes_mono (takes_map Reply.nodes takes_contacts) ?_
    rintro taken _ ⟨peers, ⟨written, short⟩, rfl⟩
    exact ⟨nodes.symm, short, Or.inl written⟩
  · obtain rfl := Option.some.inj chosen
    refine takes_mono (takes_then
      (fun found input => if found then readBytes input >>= fun taken =>
          .ok (Reply.found taken.1, taken.2)
        else readContacts input >>= fun taken => .ok (Reply.closest taken.1, taken.2))
      takes_flag takes_finding) ?_
    rintro taken answered ⟨_, early, late, rfl, ⟨byte, rfl, rfl⟩, spelt⟩
    by_cases clear : byte = 0
    · subst clear
      obtain ⟨peers, ⟨written, short⟩, rfl⟩ := spelt
      refine ⟨value.symm, short, Or.inl ?_⟩
      rw [reply, written]
      rfl
    · rw [FindingSpelt, if_pos (bne_iff_ne.mpr clear)] at spelt
      obtain ⟨found, ⟨rfl, short⟩, rfl⟩ := spelt
      exact ⟨value.symm, short, Or.inr ⟨Or.inr value, byte, bytes found, clear, rfl, rfl⟩⟩

theorem header_spelt {packet : Octets} {kind : UInt8} {tag : Tag} {rest : Octets}
    (done : readHeader packet = .ok (kind, tag, rest)) : packet = framed kind tag rest := by
  obtain ⟨⟨header, behind⟩, read, named⟩ := ok_of_bind done
  obtain ⟨taken, split, rfl, length⟩ := (takes_take 5).spelt packet header behind read
  obtain ⟨rfl, rfl, rfl⟩ : header.headD 0 = kind ∧
      UInt32.ofNat (Octets.value (header.drop 1)) = tag ∧ behind = rest := by
    simpa using Except.ok.inj named
  cases header with
  | nil => cases length
  | cons first digits =>
      have width : digits.length = 4 := Nat.succ.inj length
      have digitsSpelt := Octets.bigEndian_value digits
      have bound := Octets.value_lt digits
      rw [width] at digitsSpelt bound
      have fits : (UInt32.ofNat (Octets.value digits)).toNat = Octets.value digits := by
        rw [UInt32.toNat_ofNat']
        exact Nat.mod_eq_of_lt bound
      simp only [List.headD_cons, List.drop_one, List.tail_cons, framed, fits, digitsSpelt, split]

theorem no_reader {kind : UInt8} (noQuery : readQuery? kind = none)
    (noReply : readReply? kind = none) :
    kind ∉ ([0x01, 0x02, 0x03, 0x04, 0x11, 0x12, 0x13, 0x14] : List UInt8) := by
  unfold readQuery? at noQuery
  unfold readReply? at noReply
  split_ifs at noQuery noReply
  simp_all

theorem decode_header_failed {packet : Octets} {failure : Malformed}
    (failed : readHeader packet = .error failure) : decode packet = .error failure := by
  rw [decode, failed]
  rfl

theorem decode_framed_unknown {kind : UInt8} (noQuery : readQuery? kind = none)
    (noReply : readReply? kind = none) (tag : Tag) (rest : Octets) :
    decode (framed kind tag rest) = .error (.unknownKind kind) := by
  rw [decode, readHeader_framed]
  simp only [bind, Except.bind, noQuery, noReply]

/-- What stands behind a header, as one reader of messages. -/
theorem takes_message {kind : UInt8} {tag : Tag} {outcome : Except Malformed Message}
    {rest : Octets} (done : decode (framed kind tag rest) = outcome) :
    (outcome = .error (.unknownKind kind) ∧ readQuery? kind = none ∧ readReply? kind = none) ∨
      ∃ (reader : Reader Message) (spells : Octets → Message → Prop), Takes reader spells ∧
        outcome = (reader rest >>= fun taken => .ok taken.1) ∧
        ∀ taken message, spells taken message → message.Short ∧ ∃ written fields,
          encode message = .ok written ∧ written = framed kind tag fields ∧
          (taken = fields ∨ (kind = 0x12 ∨ kind = 0x14) ∧ ∃ flag behind, flag ≠ 0 ∧
            taken = flag :: behind ∧ fields = 1 :: behind) := by
  subst done
  cases asked : readQuery? kind with
  | some reader =>
      right
      refine ⟨_, _, takes_then
        (fun sender input => reader input >>= fun taken =>
          .ok (Message.request ⟨tag, sender, taken.1⟩, taken.2))
        takes_contact fun sender => takes_map (fun query => Message.request ⟨tag, sender, query⟩)
          (takes_query asked), decode_request_framed asked tag rest, ?_⟩
      rintro taken _ ⟨sender, early, late, rfl, written, query, ⟨rfl, short, rfl⟩, rfl⟩
      exact ⟨short, _, _, encode_request written, rfl, Or.inl rfl⟩
  | none =>
      cases answered : readReply? kind with
      | none => exact Or.inl ⟨decode_framed_unknown asked answered tag rest, rfl, rfl⟩
      | some reader =>
          right
          refine ⟨_, _, takes_map (fun reply => Message.response ⟨tag, reply⟩)
            (takes_reply answered), decode_response_framed asked answered tag rest, ?_⟩
          rintro taken _ ⟨answer, ⟨rfl, short, plain | ⟨flagged, flag, fields, set, rfl, written⟩⟩,
            rfl⟩
          · exact ⟨short, _, _, encode_response plain, rfl, Or.inl rfl⟩
          · exact ⟨short, _, _, encode_response written, rfl,
              Or.inr ⟨flagged, flag, fields, set, rfl, rfl⟩⟩

theorem decode_explains {packet : Octets} {failure : Malformed}
    (failed : decode packet = .error failure) : failure.Explains packet := by
  cases header : readHeader packet with
  | error cause =>
      obtain rfl := Except.error.inj ((decode_header_failed header).symm.trans failed)
      unfold readHeader at header
      cases read : take 5 packet with
      | error reason =>
          rw [read] at header
          obtain rfl := Except.error.inj header
          obtain ⟨needed, left, rfl, missing, within⟩ := (takes_take 5).short packet _ read
          exact ⟨missing, within⟩
      | ok taken =>
          rw [read] at header
          cases header
  | ok fields =>
      obtain ⟨kind, tag, rest⟩ := fields
      obtain rfl := header_spelt header
      rcases takes_message failed with ⟨unknown, noQuery, noReply⟩ | ⟨reader, _, takes, outcome, _⟩
      · obtain rfl := Except.error.inj unknown
        refine ⟨?_, rfl, no_reader noQuery noReply⟩
        rw [framed, List.length_append, length_header]
        omega
      · cases read : reader rest with
        | ok taken =>
            rw [read] at outcome
            cases outcome
        | error cause =>
            rw [read] at outcome
            obtain rfl := Except.error.inj outcome
            obtain ⟨needed, left, rfl, missing, within⟩ := takes.short rest _ read
            refine ⟨missing, ?_⟩
            rw [framed, List.length_append]
            omega

theorem set_flag (kind : UInt8) (tag : Tag) (flag : UInt8) (fields : Octets) :
    (framed kind tag (1 :: fields))[5]? = some 1 ∧
      (framed kind tag (1 :: fields)).set 5 flag = framed kind tag (flag :: fields) := by
  have length := length_header kind tag
  unfold framed
  constructor
  · rw [List.getElem?_append_right (by omega), length]
    rfl
  · rw [List.set_append_right _ _ (by omega), length]
    rfl

theorem decode_written {packet : Octets} {message : Message} (done : decode packet = .ok message) :
    message.Short ∧ ∃ written, encode message = .ok written ∧
      ∃ raw trailing, packet = raw ++ trailing ∧ Reflagged written raw := by
  cases header : readHeader packet with
  | error cause =>
      rw [decode_header_failed header] at done
      cases done
  | ok fields =>
      obtain ⟨kind, tag, rest⟩ := fields
      obtain rfl := header_spelt header
      rcases takes_message done with ⟨unknown, _⟩ | ⟨reader, _, takes, outcome, writes⟩
      · cases unknown
      · obtain ⟨⟨read, trailing⟩, succeeded, returned⟩ := ok_of_bind outcome.symm
        obtain rfl := Except.ok.inj returned
        obtain ⟨taken, rfl, spelt⟩ := takes.spelt _ _ _ succeeded
        obtain ⟨short, written, fields, encoded, rfl, same⟩ := writes _ _ spelt
        refine ⟨short, _, encoded, framed kind tag taken, trailing,
          (List.append_assoc _ _ _).symm, ?_⟩
        rcases same with rfl | ⟨flagged, flag, behind, set, rfl, rfl⟩
        · exact Or.inl rfl
        · obtain ⟨one, changed⟩ := set_flag kind tag flag behind
          refine Or.inr ⟨flagged.imp (congrArg some) (congrArg some), one, flag, set,
            changed.symm⟩

/-- Only contacts that can be written are ever read. -/
theorem decode_writable {packet : Octets} {message : Message}
    (done : decode packet = .ok message) : ∀ peer ∈ message.contacts, peer.Writable := by
  obtain ⟨_, written, encoded, _⟩ := decode_written done
  exact (encode_ok_iff message).mp ⟨written, encoded⟩

/-- The type byte of a message. -/
def kind : Message → UInt8
  | .request asked => queryKind asked.query
  | .response answered => replyKind answered.reply

theorem encode_kind {message : Message} {written : Octets} (done : encode message = .ok written) :
    written.head? = some (kind message) := by
  cases message with
  | request asked =>
      obtain ⟨sender, _, framed⟩ := ok_of_bind done
      rw [← Except.ok.inj framed]
      rfl
  | response answered =>
      obtain ⟨fields, _, framed⟩ := ok_of_bind done
      rw [← Except.ok.inj framed]
      rfl

theorem decode_kind {packet : Octets} {message : Message} (done : decode packet = .ok message) :
    packet.head? = some (kind message) := by
  obtain ⟨_, written, encoded, raw, trailing, rfl, same⟩ := decode_written done
  have head := encode_kind encoded
  have heads : raw.head? = written.head? := by
    rcases same with rfl | ⟨_, _, flag, _, rfl⟩
    · rfl
    · cases written with
      | nil => rfl
      | cons first rest => rfl
  rw [List.head?_append, heads, head]
  rfl

/-- A set flag is read as set whatever byte stands for it. -/
theorem reads_flagged {answered : Reply} {fields : Octets} (short : answered.Short)
    (done : reply answered = .ok (1 :: fields))
    (flagged : replyKind answered = 0x12 ∨ replyKind answered = 0x14) {flag : UInt8}
    (set : flag ≠ 0) :
    ∃ reader, readQuery? (replyKind answered) = none ∧
      readReply? (replyKind answered) = some reader ∧ Reads reader (flag :: fields) answered := by
  have one := reads_flag flag
  rw [bne_iff_ne.mpr set] at one
  cases answered with
  | pong id => rcases flagged with wrong | wrong <;> cases wrong
  | nodes peers => rcases flagged with wrong | wrong <;> cases wrong
  | stored accepted =>
      cases accepted with
      | false => cases Except.ok.inj done
      | true =>
          obtain ⟨_, rfl⟩ := List.cons.inj (Except.ok.inj done)
          exact ⟨_, rfl, rfl, reads_map Reply.stored one⟩
  | found value =>
      obtain ⟨_, rfl⟩ := List.cons.inj (Except.ok.inj done)
      refine ⟨_, rfl, rfl, ?_⟩
      exact reads_then
        (fun found input => if found then readBytes input >>= fun taken =>
            .ok (Reply.found taken.1, taken.2)
          else readContacts input >>= fun taken => .ok (Reply.closest taken.1, taken.2))
        one (reads_map Reply.found (reads_bytes short))
  | closest peers =>
      obtain ⟨entries, _, joined⟩ := ok_of_bind done
      cases Except.ok.inj joined

theorem decode_reflagged {message : Message} {written raw : Octets} (short : message.Short)
    (done : encode message = .ok written) (same : Reflagged written raw) (trailing : Octets) :
    decode (raw ++ trailing) = .ok message := by
  rcases same with rfl | ⟨flagged, one, flag, set, rfl⟩
  · exact (decodes_encode short done).whole trailing
  · cases message with
    | request asked =>
        obtain ⟨sender, head, _⟩ := ok_of_bind done
        obtain rfl := Except.ok.inj ((encode_request head).symm.trans done)
        have kind : queryKind asked.query = 0x12 ∨ queryKind asked.query = 0x14 :=
          flagged.imp Option.some.inj Option.some.inj
        cases query : asked.query with
        | _ => rw [query] at kind; rcases kind with wrong | wrong <;> cases wrong
    | response answered =>
        obtain ⟨fields, body, _⟩ := ok_of_bind done
        obtain rfl := Except.ok.inj ((encode_response body).symm.trans done)
        have kind : replyKind answered.reply = 0x12 ∨ replyKind answered.reply = 0x14 :=
          flagged.imp Option.some.inj Option.some.inj
        have length := length_header (replyKind answered.reply) answered.tag
        rw [framed, List.getElem?_append_right (by omega), length] at one
        cases fields with
        | nil => cases one
        | cons first behind =>
            obtain rfl := Option.some.inj one
            obtain ⟨reader, noQuery, chosen, reads⟩ := reads_flagged short body kind set
            rw [(set_flag _ _ flag behind).2]
            exact (decodes_fields noQuery chosen reads).whole trailing

theorem length_reflagged {written raw : Octets} (same : Reflagged written raw) :
    raw.length = written.length := by
  rcases same with rfl | ⟨_, _, flag, _, rfl⟩
  · rfl
  · exact List.length_set

/-- The packets that are messages. A packet that is refused shows why; one that is accepted begins
with the packet of its message, but for the byte of a set flag; and every such packet is accepted. -/
theorem decode_language :
    (∀ packet failure, decode packet = .error failure → failure.Explains packet) ∧
    (∀ packet message, decode packet = .ok message → message.Short ∧
      ∃ written, encode message = .ok written ∧ written.length ≤ packet.length ∧
        Reflagged written (packet.take written.length)) ∧
    ∀ message written, message.Short → encode message = .ok written →
      ∀ raw, Reflagged written raw → ∀ trailing, decode (raw ++ trailing) = .ok message := by
  refine ⟨fun _ _ => decode_explains, ?_, fun _ _ short done _ same =>
    decode_reflagged short done same⟩
  intro packet message done
  obtain ⟨short, written, encoded, raw, trailing, rfl, same⟩ := decode_written done
  have length := length_reflagged same
  refine ⟨short, written, encoded, ?_, ?_⟩
  · rw [List.length_append]
    omega
  · rw [List.take_left' length]
    exact same

/-- A flag byte of 7 is set, and a count of more contacts than there are bytes is refused. -/
theorem stray_flag_and_oversized_count :
    decode [0x12, 0, 0, 0, 9, 7, 0xAB] = .ok (.response ⟨9, .stored true⟩) ∧
      decode [0x13, 0, 0, 0, 0, 0xFF, 0xFF, 0xFF, 0xFF] =
          .error (.truncated (4294967295 * contactLength) 0) ∧
        (Malformed.truncated (4294967295 * contactLength) 0).Explains
          [0x13, 0, 0, 0, 0, 0xFF, 0xFF, 0xFF, 0xFF] := by
  obtain ⟨refused, _, accepted⟩ := decode_language
  have oversized : decode [0x13, 0, 0, 0, 0, 0xFF, 0xFF, 0xFF, 0xFF] =
      .error (.truncated (4294967295 * contactLength) 0) := by decide +kernel
  refine ⟨?_, oversized, refused _ _ oversized⟩
  apply accepted (.response ⟨9, .stored true⟩) [0x12, 0, 0, 0, 9, 1] trivial rfl
    [0x12, 0, 0, 0, 9, 7]
  exact Or.inr ⟨Or.inl rfl, rfl, 7, by decide, rfl⟩

end Wire
end XorOverlay
