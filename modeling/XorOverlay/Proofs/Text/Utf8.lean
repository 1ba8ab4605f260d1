import Mathlib
import XorOverlay.Text.Utf8

/-!
Text and its bytes. Reading UTF-8 accepts exactly the bytes of a text, and reads that text: what a
leading byte announces and the ranges of the bytes that follow leave one spelling for every
character.
-/

namespace XorOverlay.Text.Utf8

set_option autoImplicit false

/-- The bytes of a text. -/
def encode (text : List Char) : Octets :=
  (String.ofList text).toUTF8.data.toList

theorem encode_eq (text : List Char) : encode text = text.flatMap String.utf8EncodeChar := by
  rw [encode, String.toUTF8_eq_toByteArray, String.toByteArray_ofList, List.utf8Encode,
    List.data_toByteArray]

theorem encode_nil : encode [] = [] :=
  encode_eq []

theorem encode_cons (c : Char) (text : List Char) :
    encode (c :: text) = String.utf8EncodeChar c ++ encode text := by
  rw [encode_eq, encode_eq, List.flatMap_cons]

/-- The bytes of a code point: as few as it takes, each but the first with six of its bits. -/
def spelling (number : Nat) : Octets :=
  if number ≤ 127 then [UInt8.ofNat number]
  else if number ≤ 2047 then
    [UInt8.ofNat (number / 64 % 32 + 192), UInt8.ofNat (number % 64 + 128)]
  else if number ≤ 65535 then
    [UInt8.ofNat (number / 4096 % 16 + 224), UInt8.ofNat (number / 64 % 64 + 128),
      UInt8.ofNat (number % 64 + 128)]
  else
    [UInt8.ofNat (number / 262144 % 8 + 240), UInt8.ofNat (number / 4096 % 64 + 128),
      UInt8.ofNat (number / 64 % 64 + 128), UInt8.ofNat (number % 64 + 128)]

theorem encode_char (c : Char) : String.utf8EncodeChar c = spelling c.toNat :=
  rfl

/-! The rows of the table of leading bytes, by the bits that count. -/

theorem announced_one {point : Nat} (bound : point < 128) :
    announced point = some (0, 0x80, 0xbf, point) := by
  rw [announced, if_pos bound]

theorem announced_two {point : Nat} (least : 2 ≤ point) (bound : point < 32) :
    announced (point + 192) = some (1, 0x80, 0xbf, point) := by
  rw [announced, if_neg (by omega), if_neg (by omega), if_pos (by omega), Nat.add_sub_cancel]

theorem announced_three {point : Nat} (bound : point < 16) :
    announced (point + 224) =
      some (2, if point = 0 then 0xa0 else 0x80, if point = 13 then 0x9f else 0xbf, point) := by
  by_cases first : point = 0
  · rw [first]
    rfl
  · by_cases surrogate : point = 13
    · rw [surrogate]
      rfl
    · rw [announced, if_neg (by omega), if_neg (by omega), if_neg (by omega), if_neg (by omega),
        if_neg (by omega), if_pos (by omega), if_neg first, if_neg surrogate, Nat.add_sub_cancel]

theorem announced_four {point : Nat} (bound : point < 5) :
    announced (point + 240) =
      some (3, if point = 0 then 0x90 else 0x80, if point = 4 then 0x8f else 0xbf, point) := by
  interval_cases point <;> rfl

/-- There are no other rows. -/
theorem announced_cases {lead : Nat} {row : Nat × Nat × Nat × Nat}
    (announces : announced lead = some row) :
    lead < 128 ∨ (∃ point, 2 ≤ point ∧ point < 32 ∧ lead = point + 192) ∨
      (∃ point, point < 16 ∧ lead = point + 224) ∨ ∃ point, point < 5 ∧ lead = point + 240 := by
  by_contra none
  push Not at none
  obtain ⟨one, two, three, four⟩ := none
  have apart := two (lead - 192)
  have beyond := three (lead - 224)
  have past := four (lead - 240)
  unfold announced at announces
  split_ifs at announces <;> omega

theorem following_cons {count low high point byte : Nat} {rest : Octets} (small : byte < 256)
    (fits : low ≤ byte ∧ byte ≤ high) :
    following (count + 1) low high point (UInt8.ofNat byte :: rest) =
      ((following count 0x80 0xbf (point * 64 + byte % 64) rest).1,
        (following count 0x80 0xbf (point * 64 + byte % 64) rest).2 + 1) := by
  rw [following, UInt8.toNat_ofNat', Nat.mod_eq_of_lt small, if_pos fits]

theorem scan_cons {lead count low high point : Nat} {rest : Octets} (small : lead < 256)
    (announces : announced lead = some (count, low, high, point)) :
    scan (UInt8.ofNat lead :: rest) =
      (following count low high point rest).1.map Char.ofNat ::
        scan (rest.drop (following count low high point rest).2) := by
  rw [scan, UInt8.toNat_ofNat', Nat.mod_eq_of_lt small, announces]

/-- A character is read back from its bytes. -/
theorem scan_char (c : Char) (rest : Octets) :
    scan (String.utf8EncodeChar c ++ rest) = some c :: scan rest := by
  have whole : Char.ofNat c.toNat = c := Char.ofNat_toNat c
  have valid : c.toNat < 0xd800 ∨ 0xdfff < c.toNat ∧ c.toNat < 0x110000 := c.valid
  rw [encode_char]
  generalize c.toNat = number at whole valid
  rw [spelling]
  split_ifs with one two three
  · rw [List.singleton_append, scan_cons (by omega) (announced_one (by omega)), following,
      Option.map_some, whole, List.drop_zero]
  · have point : number / 64 % 32 * 64 + (number % 64 + 128) % 64 = number := by omega
    rw [List.cons_append, List.singleton_append,
      scan_cons (by omega) (announced_two (by omega) (by omega)),
      following_cons (by omega) (by omega), following, point]
    simp [whole]
  · have point : (number / 4096 % 16 * 64 + (number / 64 % 64 + 128) % 64) * 64 +
        (number % 64 + 128) % 64 = number := by omega
    rw [List.cons_append, List.cons_append, List.singleton_append,
      scan_cons (by omega) (announced_three (by omega)),
      following_cons (by omega) (by split_ifs <;> omega),
      following_cons (by omega) (by omega), following, point]
    simp [whole]
  · have point : ((number / 262144 % 8 * 64 + (number / 4096 % 64 + 128) % 64) * 64 +
        (number / 64 % 64 + 128) % 64) * 64 + (number % 64 + 128) % 64 = number := by omega
    rw [List.cons_append, List.cons_append, List.cons_append, List.singleton_append,
      scan_cons (by omega) (announced_four (by omega)),
      following_cons (by omega) (by split_ifs <;> omega),
      following_cons (by omega) (by omega), following_cons (by omega) (by omega), following, point]
    simp [whole]

theorem scan_encode (text : List Char) : scan (encode text) = text.map some := by
  induction text with
  | nil => rw [encode_nil, scan, List.map_nil]
  | cons c text ih => rw [encode_cons, scan_char, ih, List.map_cons]

theorem decode_encode (text : List Char) : decode? (encode text) = some text := by
  rw [decode?, scan_encode]
  induction text with
  | nil => rfl
  | cons c text ih => simp [ih]

theorem following_succ {count low high point number used : Nat} {rest : Octets}
    (reads : following (count + 1) low high point rest = (some number, used)) :
    ∃ byte later least, rest = byte :: later ∧ used = least + 1 ∧
      low ≤ byte.toNat ∧ byte.toNat ≤ high ∧
      following count 0x80 0xbf (point * 64 + byte.toNat % 64) later = (some number, least) := by
  cases rest with
  | nil => cases reads
  | cons byte later =>
      rw [following] at reads
      split_ifs at reads with fits
      · obtain ⟨read, count⟩ := Prod.mk.inj reads
        exact ⟨byte, later, _, rfl, count.symm, fits.1, fits.2, Prod.ext read rfl⟩
      · cases reads

theorem following_zero {low high point number used : Nat} {rest : Octets}
    (reads : following 0 low high point rest = (some number, used)) :
    number = point ∧ used = 0 := by
  obtain ⟨same, none⟩ := Prod.mk.inj reads
  exact ⟨(Option.some.inj same).symm, none.symm⟩

/-- Whatever is read as a code point was spelt as that code point, and it is one of a character. -/
theorem spelling_of_following {lead : UInt8} {count low high point number used : Nat}
    {rest : Octets} (announces : announced lead.toNat = some (count, low, high, point))
    (reads : following count low high point rest = (some number, used)) :
    lead :: rest = spelling number ++ rest.drop used ∧ number.isValidChar := by
  have byte_eq : ∀ (byte : UInt8) (value : Nat), byte.toNat = value → UInt8.ofNat value = byte := by
    rintro byte value rfl
    exact UInt8.ofNat_toNat
  rcases announced_cases announces with one | ⟨bits, least, bound, leads⟩ | ⟨bits, bound, leads⟩ |
    ⟨bits, bound, leads⟩
  · rw [announced_one one] at announces
    cases announces
    obtain ⟨rfl, rfl⟩ := following_zero reads
    rw [spelling, if_pos (by omega), byte_eq lead _ rfl]
    exact ⟨rfl, Or.inl (by omega)⟩
  · rw [leads, announced_two least bound] at announces
    cases announces
    obtain ⟨byte, later, _, rfl, rfl, low, high, last⟩ := following_succ reads
    obtain ⟨rfl, rfl⟩ := following_zero last
    rw [spelling, if_neg (by omega), if_pos (by omega), byte_eq lead _ (by omega),
      byte_eq byte _ (by omega)]
    exact ⟨rfl, Or.inl (by omega)⟩
  · rw [leads, announced_three bound] at announces
    cases announces
    obtain ⟨second, later, _, rfl, rfl, low, high, more⟩ := following_succ reads
    obtain ⟨third, later, _, rfl, rfl, least, most, last⟩ := following_succ more
    obtain ⟨rfl, rfl⟩ := following_zero last
    split_ifs at low high
    all_goals
      rw [spelling, if_neg (by omega), if_neg (by omega), if_pos (by omega),
        byte_eq lead _ (by omega), byte_eq second _ (by omega), byte_eq third _ (by omega)]
      exact ⟨rfl, by unfold Nat.isValidChar; omega⟩
  · rw [leads, announced_four bound] at announces
    cases announces
    obtain ⟨second, later, _, rfl, rfl, low, high, more⟩ := following_succ reads
    obtain ⟨third, later, _, rfl, rfl, _, _, more⟩ := following_succ more
    obtain ⟨fourth, later, _, rfl, rfl, _, _, last⟩ := following_succ more
    obtain ⟨rfl, rfl⟩ := following_zero last
    split_ifs at low high
    all_goals
      rw [spelling, if_neg (by omega), if_neg (by omega), if_neg (by omega),
        byte_eq lead _ (by omega), byte_eq second _ (by omega), byte_eq third _ (by omega),
        byte_eq fourth _ (by omega)]
      exact ⟨rfl, by unfold Nat.isValidChar; omega⟩

/-- Text that is read begins with the character that the first bytes spell. -/
theorem decode_cons {lead : UInt8} {rest : Octets} {text : List Char}
    (read : decode? (lead :: rest) = some text) :
    ∃ c used later, text = c :: later ∧
      lead :: rest = String.utf8EncodeChar c ++ rest.drop used ∧
      decode? (rest.drop used) = some later := by
  rw [decode?, scan] at read
  cases announces : announced lead.toNat with
  | none =>
      rw [announces] at read
      cases read
  | some row =>
      obtain ⟨count, low, high, point⟩ := row
      rw [announces] at read
      cases reads : following count low high point rest with
      | mk part used =>
          dsimp only at read
          rw [reads] at read
          cases part with
          | none => cases read
          | some number =>
              obtain ⟨spelt, valid⟩ := spelling_of_following announces reads
              rw [Option.map_some, List.mapM_cons] at read
              obtain ⟨c, head, read⟩ := Option.bind_eq_some_iff.mp read
              obtain ⟨later, more, result⟩ := Option.bind_eq_some_iff.mp read
              obtain rfl : Char.ofNat number = c := Option.some.inj head
              refine ⟨_, used, later, (Option.some.inj result).symm, ?_, more⟩
              rw [encode_char, Char.toNat_ofNat, if_pos valid]
              exact spelt

theorem encode_of_decode {bytes : Octets} {text : List Char} (read : decode? bytes = some text) :
    bytes = encode text := by
  -- Each character takes some bytes away, so the induction is on their number.
  induction measured : bytes.length using Nat.strong_induction_on generalizing bytes text with
  | _ size ih =>
      cases bytes with
      | nil =>
          rw [decode?, scan] at read
          obtain rfl := Option.some.inj read
          exact encode_nil.symm
      | cons lead rest =>
          obtain ⟨c, used, later, rfl, spelt, more⟩ := decode_cons read
          have shorter : (rest.drop used).length < size := by
            rw [← measured, List.length_drop, List.length_cons]
            omega
          rw [encode_cons, ← ih _ shorter more rfl]
          exact spelt

/-- Reading accepts the bytes of a text alone, and reads that text. -/
theorem decode_iff (bytes : Octets) (text : List Char) :
    decode? bytes = some text ↔ bytes = encode text :=
  ⟨encode_of_decode, fun spelt => spelt ▸ decode_encode text⟩

theorem mem_spelling {byte number : Nat} (small : byte < 128) :
    UInt8.ofNat byte ∈ spelling number ↔ number = byte := by
  have same : ∀ other, UInt8.ofNat byte = UInt8.ofNat other ↔ byte = other % 256 := by
    intro other
    rw [← UInt8.toNat_inj, UInt8.toNat_ofNat', UInt8.toNat_ofNat', Nat.mod_eq_of_lt (by omega)]
  rw [spelling]
  split_ifs <;> simp only [List.mem_cons, List.not_mem_nil, or_false, same] <;> omega

/-- A byte below 128 stands for itself in a text, and occurs in no other character. -/
theorem mem_encode {byte : Nat} (small : byte < 128) (text : List Char) :
    UInt8.ofNat byte ∈ encode text ↔ Char.ofNat byte ∈ text := by
  have own : ∀ c : Char, c.toNat = byte ↔ Char.ofNat byte = c := by
    intro c
    constructor
    · rintro rfl
      exact Char.ofNat_toNat c
    · rintro rfl
      rw [Char.toNat_ofNat, if_pos (Or.inl (by omega))]
  induction text with
  | nil => simp [encode_nil]
  | cons c text ih =>
      rw [encode_cons, List.mem_append, encode_char, mem_spelling small, own, List.mem_cons]
      exact or_congr_right ih

end XorOverlay.Text.Utf8
