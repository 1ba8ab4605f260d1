import Mathlib
import XorOverlay.Proofs.Wire.Fields

/-!
Messages on the wire. Contact lists, queries and replies are read back as they were written, a
message is read back whatever bytes follow its packet, and no packet that ends early is taken for a
message. A message cannot be written exactly if one of its contacts has no IPv4 endpoint, and the
first of them is the one reported.
-/

namespace XorOverlay

set_option autoImplicit false

/-- The byte strings are short enough for their four-byte lengths. -/
def Query.Short : Query → Prop
  | .ping => True
  | .store key value => key.length < 2 ^ 32 ∧ value.length < 2 ^ 32
  | .findNode _ => True
  | .findValue key => key.length < 2 ^ 32

/-- The byte string or the contact list is short enough for its four-byte length. -/
def Reply.Short : Reply → Prop
  | .pong _ => True
  | .stored _ => True
  | .nodes peers => peers.length < 2 ^ 32
  | .found value => value.length < 2 ^ 32
  | .closest peers => peers.length < 2 ^ 32

/-- All that is written behind a length is short enough for it. -/
def Message.Short : Message → Prop
  | .request asked => asked.query.Short
  | .response answered => answered.reply.Short

namespace Wire

theorem contact_ok_iff (peer : Contact) : (∃ written, contact peer = .ok written) ↔
    peer.Writable := by
  constructor
  · rintro ⟨written, done⟩
    by_contra unwritable
    rw [contact_eq_error unwritable] at done
    cases done
  · rintro ⟨host, port, found⟩
    exact ⟨_, contact_eq_ok found⟩

theorem contactEntries_cons {peer : Contact} {peers : List Contact} {written : Octets}
    (done : contactEntries (peer :: peers) = .ok written) :
    ∃ first others, contact peer = .ok first ∧ contactEntries peers = .ok others ∧
      written = first ++ others := by
  obtain ⟨first, head, rest⟩ := ok_of_bind done
  obtain ⟨others, tail, joined⟩ := ok_of_bind rest
  exact ⟨first, others, head, tail, (Except.ok.inj joined).symm⟩

theorem contactEntries_ok_iff (peers : List Contact) :
    (∃ written, contactEntries peers = .ok written) ↔ ∀ peer ∈ peers, peer.Writable := by
  induction peers with
  | nil => exact ⟨fun _ _ absent => (List.not_mem_nil absent).elim, fun _ => ⟨[], rfl⟩⟩
  | cons peer peers ih =>
      rw [List.forall_mem_cons, ← contact_ok_iff, ← ih]
      constructor
      · rintro ⟨written, done⟩
        obtain ⟨first, others, head, tail, _⟩ := contactEntries_cons done
        exact ⟨⟨first, head⟩, others, tail⟩
      · rintro ⟨⟨first, head⟩, others, tail⟩
        refine ⟨first ++ others, ?_⟩
        rw [contactEntries, head, tail]
        rfl

theorem contactEntries_eq_error {before after : List Contact} {peer : Contact}
    (writable : ∀ earlier ∈ before, earlier.Writable) (unwritable : ¬peer.Writable) :
    contactEntries (before ++ peer :: after) = .error (.unsupportedAddress peer.endpoint) := by
  induction before with
  | nil =>
      rw [List.nil_append, contactEntries, contact_eq_error unwritable]
      rfl
  | cons earlier before ih =>
      rw [List.forall_mem_cons] at writable
      obtain ⟨first, head⟩ := (contact_ok_iff earlier).mpr writable.1
      rw [List.cons_append, contactEntries, head, ih writable.2]
      rfl

theorem reads_contactEntries {peers : List Contact} {written : Octets}
    (done : contactEntries peers = .ok written) :
    Reads (readContactEntries peers.length) written peers ∧
      written.length = peers.length * contactLength := by
  induction peers generalizing written with
  | nil =>
      rw [contactEntries] at done
      obtain rfl : [] = written := Except.ok.inj done
      exact ⟨reads_nothing [], (Nat.zero_mul _).symm⟩
  | cons peer peers ih =>
      obtain ⟨first, others, head, tail, rfl⟩ := contactEntries_cons done
      obtain ⟨readsFirst, firstLength⟩ := reads_contact head
      obtain ⟨readsOthers, othersLength⟩ := ih tail
      constructor
      · exact reads_then
          (fun entry input => readContactEntries peers.length input >>= fun taken =>
            .ok (entry :: taken.1, taken.2))
          readsFirst (reads_map (List.cons peer) readsOthers)
      · rw [List.length_append, firstLength, othersLength, List.length_cons, Nat.succ_mul,
          Nat.add_comm]

/-- All entries are asked for before the first is read, so a list that ends early is found
truncated by the count alone. -/
theorem reads_required {α : Type} {reader : Reader α} {written : Octets} {value : α} {count : Nat}
    (length : written.length = count) (reads : Reads reader written value) :
    Reads (fun input => require count input >>= fun _ => reader input) written value := by
  constructor
  · intro rest
    have enough : require count (written ++ rest) = .ok () := by
      rw [require, if_neg (by rw [List.length_append]; omega)]
    rw [enough]
    exact reads.whole rest
  · intro part _ short
    refine ⟨count, part.length, by omega, ?_⟩
    rw [require, if_pos (by omega)]
    rfl

theorem contacts_eq_ok {peers : List Contact} {written : Octets}
    (done : contacts peers = .ok written) : ∃ entries, contactEntries peers = .ok entries ∧
      written = Octets.bigEndian 4 peers.length ++ entries := by
  obtain ⟨entries, body, counted⟩ := ok_of_bind done
  exact ⟨entries, body, (Except.ok.inj counted).symm⟩

theorem reads_contacts {peers : List Contact} {written : Octets} (short : peers.length < 2 ^ 32)
    (done : contacts peers = .ok written) : Reads readContacts written peers := by
  obtain ⟨entries, body, rfl⟩ := contacts_eq_ok done
  obtain ⟨readsEntries, length⟩ := reads_contactEntries body
  have count := reads_number 4 peers.length
  rw [Nat.mod_eq_of_lt (by omega)] at count
  exact reads_then
    (fun listed input => require (listed * contactLength) input >>= fun _ =>
      readContactEntries listed input)
    count (reads_required length readsEntries)

theorem reads_query {asked : Query} (short : asked.Short) :
    ∃ reader, readQuery? (queryKind asked) = some reader ∧ Reads reader (query asked) asked := by
  cases asked with
  | ping => exact ⟨_, rfl, reads_nothing Query.ping⟩
  | store key value =>
      refine ⟨_, rfl, ?_⟩
      exact reads_then
        (fun key input => readBytes input >>= fun taken => .ok (Query.store key taken.1, taken.2))
        (reads_bytes short.1) (reads_map (Query.store key) (reads_bytes short.2))
  | findNode target => exact ⟨_, rfl, reads_map Query.findNode (reads_ident target)⟩
  | findValue key => exact ⟨_, rfl, reads_map Query.findValue (reads_bytes short)⟩

/-- The type byte of a reply chooses the reader of its fields, and is no query's. -/
theorem reads_reply {answered : Reply} {written : Octets} (short : answered.Short)
    (done : reply answered = .ok written) :
    ∃ reader, readQuery? (replyKind answered) = none ∧
      readReply? (replyKind answered) = some reader ∧ Reads reader written answered := by
  cases answered with
  | pong id =>
      obtain rfl := Except.ok.inj done
      exact ⟨_, rfl, rfl, reads_map Reply.pong (reads_ident id)⟩
  | stored accepted =>
      obtain rfl := Except.ok.inj done
      have flag := reads_map Reply.stored (reads_flag (if accepted then 1 else 0))
      have same : ((if accepted then 1 else 0 : UInt8) != 0) = accepted := by
        cases accepted <;> rfl
      rw [same] at flag
      exact ⟨_, rfl, rfl, flag⟩
  | nodes peers => exact ⟨_, rfl, rfl, reads_map Reply.nodes (reads_contacts short done)⟩
  | found value =>
      obtain rfl := Except.ok.inj done
      refine ⟨_, rfl, rfl, ?_⟩
      exact reads_then
        (fun found input => if found then readBytes input >>= fun taken =>
            .ok (Reply.found taken.1, taken.2)
          else readContacts input >>= fun taken => .ok (Reply.closest taken.1, taken.2))
        (reads_flag 1) (reads_map Reply.found (reads_bytes short))
  | closest peers =>
      obtain ⟨fields, body, flagged⟩ := ok_of_bind done
      obtain rfl := Except.ok.inj flagged
      refine ⟨_, rfl, rfl, ?_⟩
      exact reads_then
        (fun found input => if found then readBytes input >>= fun taken =>
            .ok (Reply.found taken.1, taken.2)
          else readContacts input >>= fun taken => .ok (Reply.closest taken.1, taken.2))
        (reads_flag 0) (reads_map Reply.closest (reads_contacts short body))

/-- A packet is read as this message whatever follows it, and found truncated wherever it ends
early. -/
structure Decodes (packet : Octets) (message : Message) : Prop where
  whole : ∀ trailing, decode (packet ++ trailing) = .ok message
  cut : ∀ part, part <+: packet → part.length < packet.length → Truncated (decode part)

/-- The type byte and the tag in front of the fields. -/
def framed (kind : UInt8) (tag : Tag) (fields : Octets) : Octets :=
  (kind :: Octets.bigEndian 4 tag.toNat) ++ fields

theorem length_header (kind : UInt8) (tag : Tag) :
    (kind :: Octets.bigEndian 4 tag.toNat).length = 5 := by
  rw [List.length_cons, Octets.length_bigEndian]

theorem readHeader_framed (kind : UInt8) (tag : Tag) (fields : Octets) :
    readHeader (framed kind tag fields) = .ok (kind, tag, fields) := by
  have whole := (reads_take 5 (length_header kind tag)).whole fields
  unfold readHeader framed
  rw [whole]
  change Except.ok (kind, UInt32.ofNat (Octets.value (Octets.bigEndian 4 tag.toNat)), fields) = _
  rw [Octets.value_bigEndian_of_lt tag.toNat_lt, UInt32.ofNat_toNat]

theorem decode_short {part : Octets} (short : part.length < 5) : Truncated (decode part) := by
  unfold decode readHeader
  refine truncated_bind _ (truncated_bind _ ⟨5, part.length, short, ?_⟩)
  rw [take, if_pos short]

/-- Behind the header a message is one more field: if what decoding does there reads it, the whole
packet is read. -/
theorem decodes_of_reads {kind : UInt8} {tag : Tag} {reader : Reader Message} {fields : Octets}
    {message : Message}
    (runs : ∀ rest, decode (framed kind tag rest) =
      reader rest >>= fun taken => .ok taken.1)
    (reads : Reads reader fields message) : Decodes (framed kind tag fields) message := by
  constructor
  · intro trailing
    have moved : framed kind tag fields ++ trailing = framed kind tag (fields ++ trailing) :=
      List.append_assoc _ _ _
    rw [moved, runs, reads.whole]
    rfl
  · intro part within short
    rcases prefix_cases within short with ⟨_, early⟩ | ⟨later, rfl, inside, ends⟩
    · rw [length_header] at early
      exact decode_short early
    · have rest : decode (kind :: Octets.bigEndian 4 tag.toNat ++ later) = _ := runs later
      rw [rest]
      exact truncated_bind _ (reads.cut later inside ends)

/-- Behind the header of a request its sender and its query are read. -/
theorem decode_request_framed {kind : UInt8} {reader : Reader Query}
    (chosen : readQuery? kind = some reader) (tag : Tag) (rest : Octets) :
    decode (framed kind tag rest) =
      (readContact rest >>= fun sender => reader sender.2 >>= fun taken =>
        .ok (Message.request ⟨tag, sender.1, taken.1⟩, taken.2)) >>= fun taken =>
          .ok taken.1 := by
  unfold decode
  rw [readHeader_framed]
  simp only [bind, Except.bind, chosen]
  cases readContact rest with
  | error failure => rfl
  | ok sender =>
      simp only
      cases reader sender.2 with
      | error failure => rfl
      | ok taken => rfl

theorem decode_response_framed {kind : UInt8} {reader : Reader Reply}
    (noQuery : readQuery? kind = none) (chosen : readReply? kind = some reader) (tag : Tag)
    (rest : Octets) :
    decode (framed kind tag rest) =
      (reader rest >>= fun taken => .ok (Message.response ⟨tag, taken.1⟩, taken.2)) >>=
        fun taken => .ok taken.1 := by
  unfold decode
  rw [readHeader_framed]
  simp only [bind, Except.bind, noQuery, chosen]
  cases reader rest with
  | error failure => rfl
  | ok taken => rfl

theorem decodes_request {asked : Request} {sender : Octets} (short : asked.query.Short)
    (done : contact asked.sender = .ok sender) :
    Decodes (framed (queryKind asked.query) asked.tag (sender ++ query asked.query))
      (.request asked) := by
  obtain ⟨reader, chosen, readsQuery⟩ := reads_query short
  exact decodes_of_reads (decode_request_framed chosen asked.tag) (reads_then
    (fun sender input => reader input >>= fun taken =>
      .ok (Message.request ⟨asked.tag, sender, taken.1⟩, taken.2))
    (reads_contact done).1
    (reads_map (fun query => Message.request ⟨asked.tag, asked.sender, query⟩) readsQuery))

/-- A response is read back from any fields that are read as its reply. -/
theorem decodes_fields {answered : Response} {fields : Octets} {reader : Reader Reply}
    (noQuery : readQuery? (replyKind answered.reply) = none)
    (chosen : readReply? (replyKind answered.reply) = some reader)
    (reads : Reads reader fields answered.reply) :
    Decodes (framed (replyKind answered.reply) answered.tag fields) (.response answered) :=
  decodes_of_reads (decode_response_framed noQuery chosen answered.tag)
    (reads_map (fun reply => Message.response ⟨answered.tag, reply⟩) reads)

theorem decodes_response {answered : Response} {fields : Octets} (short : answered.reply.Short)
    (done : reply answered.reply = .ok fields) :
    Decodes (framed (replyKind answered.reply) answered.tag fields) (.response answered) := by
  obtain ⟨reader, noQuery, chosen, readsReply⟩ := reads_reply short done
  exact decodes_fields noQuery chosen readsReply

/-- A message can be written exactly if its contacts can, and fails as they fail. -/
theorem encode_follows_entries (message : Message) :
    (∀ failure, contactEntries message.contacts = .error failure →
      encode message = .error failure) ∧
    ∀ entries, contactEntries message.contacts = .ok entries →
      ∃ packet, encode message = .ok packet := by
  rcases message with ⟨tag, sender, asked⟩ | ⟨tag, answered⟩
  · cases written : contact sender with
    | error failure => simp [encode, Message.contacts, contactEntries, written, bind, Except.bind]
    | ok bytes =>
        simp [encode, Message.contacts, contactEntries, written, bind, Except.bind, pure,
          Except.pure]
  · cases answered with
    | pong id => simp [encode, Message.contacts, contactEntries, reply]
    | stored accepted => simp [encode, Message.contacts, contactEntries, reply]
    | found value => simp [encode, Message.contacts, contactEntries, reply]
    | nodes peers =>
        cases body : contactEntries peers with
        | error failure => simp [encode, Message.contacts, reply, contacts, body]
        | ok entries => simp [encode, Message.contacts, reply, contacts, body]
    | closest peers =>
        cases body : contactEntries peers with
        | error failure => simp [encode, Message.contacts, reply, contacts, body]
        | ok entries => simp [encode, Message.contacts, reply, contacts, body]

theorem encode_ok_iff (message : Message) :
    (∃ packet, encode message = .ok packet) ↔ ∀ peer ∈ message.contacts, peer.Writable := by
  rw [← contactEntries_ok_iff]
  constructor
  · rintro ⟨packet, done⟩
    cases body : contactEntries message.contacts with
    | error failure =>
        rw [(encode_follows_entries message).1 failure body] at done
        cases done
    | ok entries => exact ⟨entries, rfl⟩
  · rintro ⟨entries, body⟩
    exact (encode_follows_entries message).2 entries body

theorem encode_request {asked : Request} {sender : Octets}
    (written : contact asked.sender = .ok sender) :
    encode (.request asked) =
      .ok (framed (queryKind asked.query) asked.tag (sender ++ query asked.query)) := by
  rw [encode, written, framed, ← List.append_assoc]
  rfl

theorem encode_response {answered : Response} {fields : Octets}
    (written : reply answered.reply = .ok fields) :
    encode (.response answered) =
      .ok (framed (replyKind answered.reply) answered.tag fields) := by
  rw [encode, written]
  rfl

theorem decodes_encode {message : Message} {packet : Octets} (short : message.Short)
    (done : encode message = .ok packet) : Decodes packet message := by
  cases message with
  | request asked =>
      obtain ⟨sender, written, _⟩ := ok_of_bind done
      obtain rfl := Except.ok.inj ((encode_request written).symm.trans done)
      exact decodes_request short written
  | response answered =>
      obtain ⟨fields, written, _⟩ := ok_of_bind done
      obtain rfl := Except.ok.inj ((encode_response written).symm.trans done)
      exact decodes_response short written

theorem arrives {message : Message} (short : message.Short)
    (writable : ∀ peer ∈ message.contacts, peer.Writable) :
    ∃ packet, encode message = .ok packet ∧ decode packet = .ok message := by
  obtain ⟨packet, done⟩ := (encode_ok_iff message).mpr writable
  refine ⟨packet, done, ?_⟩
  have whole := (decodes_encode short done).whole []
  rw [List.append_nil] at whole
  exact whole

/-- The round trip. A message is written exactly if all of its contacts have IPv4 endpoints, and
the first that has none is reported otherwise; what was written is read back whatever follows it,
and is not read at all where it ends early. -/
theorem round_trip (message : Message) (short : message.Short) :
    ((∃ packet, encode message = .ok packet) ↔ ∀ peer ∈ message.contacts, peer.Writable) ∧
    (∀ before peer after, message.contacts = before ++ peer :: after →
      (∀ earlier ∈ before, earlier.Writable) → ¬peer.Writable →
      encode message = .error (.unsupportedAddress peer.endpoint)) ∧
    ∀ packet, encode message = .ok packet →
      (∀ trailing, decode (packet ++ trailing) = .ok message) ∧
      ∀ part, part <+: packet → part ≠ packet → Truncated (decode part) := by
  refine ⟨encode_ok_iff message, ?_, ?_⟩
  · intro before peer after split writable unwritable
    apply (encode_follows_entries message).1
    rw [split]
    exact contactEntries_eq_error writable unwritable
  · intro packet done
    have decodes := decodes_encode short done
    refine ⟨decodes.whole, ?_⟩
    intro part within differs
    apply decodes.cut part within
    by_contra long
    exact differs (within.eq_of_length_le (not_lt.mp long))

/-- A value pushed to a peer arrives even with a stray byte behind it, and not without its last. -/
theorem store_round_trip :
    let asked : Message := .request ⟨7, ⟨⟨5⟩, some (.v4 0x7F000001 4000)⟩, .store [1, 2] [3]⟩
    asked.Short ∧ ∃ packet, encode asked = .ok packet ∧ packet.length = 42 ∧
      decode (packet ++ [0]) = .ok asked ∧ Truncated (decode (packet.take 41)) := by
  intro asked
  have short : asked.Short := ⟨by decide, by decide⟩
  have trip := round_trip asked short
  obtain ⟨packet, done⟩ := trip.1.mpr (by
    intro peer listed
    obtain rfl := List.mem_singleton.mp listed
    exact ⟨_, _, rfl⟩)
  have length : packet.length = 42 := by
    obtain rfl := Except.ok.inj done
    rfl
  obtain ⟨whole, cut⟩ := trip.2.2 packet done
  refine ⟨short, packet, done, length, whole [0], cut _ (List.take_prefix 41 packet) ?_⟩
  intro same
  have shorter := congrArg List.length same
  rw [List.length_take, length] at shorter
  omega

end Wire
end XorOverlay
