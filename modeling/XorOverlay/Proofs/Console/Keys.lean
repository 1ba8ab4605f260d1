import Mathlib
import XorOverlay.Console.Program
import XorOverlay.Proofs.Text.Utf8

/-!
Keys typed at the console. A write cuts its key out at the first equals sign, a read and a removal
take all of their argument, and blanks count nowhere at the ends of an argument. So the two ways of
cutting out a key agree but for blanks between the key and the equals sign: these belong to the key
of the write, and no read or removal can name them.
-/

namespace XorOverlay

set_option autoImplicit false

namespace Text

/-- A text without the blanks at its end. -/
def trimEnd (text : List Char) : List Char :=
  text.rdropWhile isBlank

theorem trim_eq (text : List Char) : trim text = trimEnd (text.dropWhile isBlank) :=
  rfl

theorem trimEnd_eq_self_iff (text : List Char) :
    trimEnd text = text ↔ ∀ c ∈ text.getLast?, isBlank c = false := by
  rw [trimEnd, List.rdropWhile_eq_self_iff]
  constructor
  · intro ends c last
    obtain ⟨filled, rfl⟩ := List.mem_getLast?_eq_getLast last
    exact Bool.eq_false_iff.mpr (ends filled)
  · intro ends filled blank
    rw [ends _ (List.getLast?_eq_some_getLast filled)] at blank
    cases blank

/-- Only blanks at the very end go. -/
theorem trimEnd_append {first second : List Char} (filled : trimEnd second ≠ []) :
    trimEnd (first ++ second) = first ++ trimEnd second := by
  unfold trimEnd List.rdropWhile at filled ⊢
  rw [List.reverse_append, List.dropWhile_append, if_neg, List.reverse_append, List.reverse_reverse]
  intro empty
  rw [List.isEmpty_iff] at empty
  rw [empty] at filled
  exact filled rfl

theorem trim_eq_trimEnd {text : List Char} (begins : ∀ c ∈ text.head?, isBlank c = false) :
    trim text = trimEnd text := by
  cases text with
  | nil => rfl
  | cons c rest =>
      have shown : ¬isBlank c = true := Bool.eq_false_iff.mp (begins c rfl)
      rw [trim_eq, List.dropWhile_cons_of_neg shown]

theorem trimEnd_ne_nil {text : List Char} (filled : text ≠ [])
    (begins : ∀ c ∈ text.head?, isBlank c = false) : trimEnd text ≠ [] := by
  cases text with
  | nil => exact absurd rfl filled
  | cons c rest =>
      intro blank
      rw [trimEnd, List.rdropWhile_eq_nil_iff] at blank
      have shown := begins c rfl
      rw [blank c List.mem_cons_self] at shown
      cases shown

theorem trimEnd_begins (text : List Char) : ∀ c ∈ (trimEnd text).head?, c ∈ text.head? := by
  intro c head
  obtain ⟨ends, whole⟩ := List.rdropWhile_prefix isBlank text
  have start : (List.rdropWhile isBlank text).head? = some c := head
  rw [← whole, List.head?_append, start]
  rfl

theorem trim_subset (text : List Char) : trim text ⊆ text :=
  ((List.rdropWhile_prefix isBlank _).sublist.trans (List.dropWhile_sublist isBlank)).subset

theorem trim_begins (text : List Char) : ∀ c ∈ (trim text).head?, isBlank c = false := by
  intro c head
  have first := List.head?_dropWhile_not isBlank text
  rw [trimEnd_begins _ c head] at first
  exact first

theorem splitOnce_append {separator : Char} {first : List Char} (fresh : separator ∉ first)
    (second : List Char) :
    splitOnce separator (first ++ separator :: second) = some (first, second) := by
  induction first with
  | nil => exact if_pos rfl
  | cons c first ih =>
      rw [List.mem_cons, not_or] at fresh
      rw [List.cons_append, splitOnce, if_neg (Ne.symm fresh.1), ih fresh.2, Option.map_some]

theorem eq_of_splitOnce {separator : Char} {text first second : List Char}
    (split : splitOnce separator text = some (first, second)) :
    text = first ++ separator :: second ∧ separator ∉ first := by
  induction text generalizing first with
  | nil => cases split
  | cons c rest ih =>
      rw [splitOnce] at split
      split_ifs at split with here
      · cases split
        exact ⟨congrArg (· :: second) here, List.not_mem_nil⟩
      · obtain ⟨⟨behind, tail⟩, found, same⟩ := Option.map_eq_some_iff.mp split
        obtain ⟨rfl, rfl⟩ := Prod.mk.inj same
        obtain ⟨rfl, fresh⟩ := ih found
        exact ⟨rfl, List.not_mem_cons_of_ne_of_not_mem (Ne.symm here) fresh⟩

end Text

namespace Console

open Text

/-- The bytes of a command word, a space and a key. -/
def request (word : String) (key : List Char) : Octets :=
  Utf8.encode (word.toList ++ ' ' :: key)

theorem react_encode (text : List Char) :
    react (Utf8.encode text) = match Command.ofLine text with
      | .quit => .leave quitCode
      | command => .carryOut command := by
  have read := Utf8.decode_encode text
  cases said : Command.ofLine text with
  | quit => simp [react, read, said]
  | _ => simp [react, read, said]

/-- A line that is carried out is text, and says what is carried out. -/
theorem text_of_carried_out {line : Octets} {command : Command}
    (reacts : react line = .carryOut command) :
    ∃ text, line = Utf8.encode text ∧ Command.ofLine text = command := by
  rw [react] at reacts
  cases read : Utf8.decode? line with
  | none =>
      rw [read] at reacts
      cases reacts
  | some text =>
      rw [read] at reacts
      refine ⟨text, Utf8.encode_of_decode read, ?_⟩
      cases said : Command.ofLine text with
      | quit =>
          simp [said] at reacts
      | _ => simpa [said] using reacts

/-- A command word and a key are read as they are, but for blanks at the end of the key. -/
theorem words_of_request {letter : Char} {letters key : List Char}
    (plain : ' ' ∉ letter :: letters) (begins : isBlank letter = false) (filled : key ≠ [])
    (shown : ∀ c ∈ key.head?, isBlank c = false) :
    Command.words (trim (letter :: letters ++ ' ' :: key)) = (letter :: letters, trimEnd key) := by
  have kept : trimEnd (' ' :: key) = ' ' :: trimEnd key :=
    @trimEnd_append [' '] _ (trimEnd_ne_nil filled shown)
  have whole : trim (letter :: letters ++ ' ' :: key) =
      letter :: letters ++ ' ' :: trimEnd key := by
    rw [trim_eq_trimEnd, trimEnd_append, kept]
    · rw [kept]
      exact List.cons_ne_nil _ _
    · rintro c head
      obtain rfl : letter = c := Option.some.inj head
      exact begins
  have done : trim (trimEnd key) = trimEnd key := by
    rw [trim_eq_trimEnd, trimEnd, trimEnd, List.rdropWhile_idempotent]
    exact fun c head => shown c (trimEnd_begins key c head)
  rw [whole, Command.words, splitOnce_append plain]
  dsimp only
  rw [done]

namespace Command

theorem ofAssignment_set {argument key value : List Char}
    (read : ofAssignment argument = .set key value) :
    argument = key ++ '=' :: value ∧ '=' ∉ key ∧ key ≠ [] := by
  rw [ofAssignment] at read
  cases split : splitOnce '=' argument with
  | none =>
      rw [split] at read
      cases read
  | some parts =>
      obtain ⟨first, second⟩ := parts
      rw [split] at read
      dsimp only at read
      split_ifs at read with empty
      cases read
      obtain ⟨whole, fresh⟩ := eq_of_splitOnce split
      exact ⟨whole, fresh, fun none => empty (List.isEmpty_iff.mpr none)⟩

theorem ofLine_set {text key value : List Char} (read : ofLine text = .set key value) :
    ofAssignment (words (trim text)).2 = .set key value := by
  rw [ofLine] at read
  dsimp only at read
  split at read
  · split_ifs at read
  · exact read
  · split_ifs at read
  · cases read
  · cases read
  · cases read
  · cases read

theorem argument_begins (line : List Char) : ∀ c ∈ (words line).2.head?, isBlank c = false := by
  rw [words]
  cases splitOnce ' ' line with
  | none =>
      intro c head
      cases head
  | some parts => exact trim_begins parts.2

theorem argument_subset (line : List Char) : (words line).2 ⊆ line := by
  rw [words]
  cases split : splitOnce ' ' line with
  | none => exact List.nil_subset _
  | some parts =>
      obtain ⟨whole, _⟩ := eq_of_splitOnce split
      rw [whole]
      intro c inside
      exact List.mem_append_right _ (List.mem_cons_of_mem _ (trim_subset parts.2 inside))

/-- The key of a write is some of the text of its line, and does not begin with a blank. -/
theorem key_of_set {text key value : List Char} (read : ofLine text = .set key value) :
    key ≠ [] ∧ (∀ c ∈ key.head?, isBlank c = false) ∧ key ⊆ text := by
  obtain ⟨whole, _, filled⟩ := ofAssignment_set (ofLine_set read)
  have begins := argument_begins (trim text)
  have part := argument_subset (trim text)
  rw [whole] at begins part
  refine ⟨filled, ?_, ?_⟩
  · intro c head
    apply begins
    rw [List.head?_append_of_ne_nil key filled]
    exact head
  · intro c inside
    exact trim_subset text (part (List.mem_append_left _ inside))

end Command

section Requests

variable {key : List Char} (filled : key ≠ []) (shown : ∀ c ∈ key.head?, isBlank c = false)
include filled shown

theorem react_get : react (request "get" key) = .carryOut (.get (trimEnd key)) := by
  have word : "get".toList = ['g', 'e', 't'] := rfl
  have some := List.isEmpty_eq_false_iff.mpr (trimEnd_ne_nil filled shown)
  rw [request, word, react_encode, Command.ofLine,
    words_of_request (by decide) (by decide) filled shown]
  simp [some]

theorem react_delete : react (request "delete" key) = .carryOut (.delete (trimEnd key)) := by
  have word : "delete".toList = ['d', 'e', 'l', 'e', 't', 'e'] := rfl
  have some := List.isEmpty_eq_false_iff.mpr (trimEnd_ne_nil filled shown)
  rw [request, word, react_encode, Command.ofLine,
    words_of_request (by decide) (by decide) filled shown]
  simp [some]

end Requests

theorem end_not_in_line {input line : Octets} (typed : line ∈ inputLines input) : 10 ∉ line := by
  induction input generalizing line with
  | nil => cases typed
  | cons byte rest ih =>
      rw [inputLines] at typed
      split_ifs at typed with ends
      · rcases List.mem_cons.mp typed with rfl | later
        · exact List.not_mem_nil
        · exact ih later
      · have apart : ∀ tail : Octets, 10 ∉ tail → 10 ∉ byte :: tail :=
          fun tail fresh => List.not_mem_cons_of_ne_of_not_mem (Ne.symm ends) fresh
        cases lines : inputLines rest with
        | nil =>
            rw [lines] at typed
            obtain rfl := List.mem_singleton.mp typed
            exact apart [] List.not_mem_nil
        | cons first others =>
            rw [lines] at typed ih
            rcases List.mem_cons.mp typed with rfl | later
            · exact apart first (ih List.mem_cons_self)
            · exact ih (List.mem_cons_of_mem _ later)

theorem input_lines_cons {line : Octets} (single : 10 ∉ line) (rest : Octets) :
    inputLines (line ++ 10 :: rest) = line :: inputLines rest := by
  induction line with
  | nil => exact if_pos rfl
  | cons byte line ih =>
      rw [List.mem_cons, not_or] at single
      rw [List.cons_append, inputLines, if_neg (Ne.symm single.1), ih single.2]

theorem line_end_in_encode (text : List Char) : 10 ∈ Utf8.encode text ↔ '\n' ∈ text :=
  Utf8.mem_encode (by decide : 10 < 128) text

theorem request_is_line {word : String} {key : List Char} (plain : '\n' ∉ word.toList)
    (single : '\n' ∉ key) : 10 ∉ request word key := by
  have spelt := line_end_in_encode (word.toList ++ ' ' :: key)
  intro inside
  have among := spelt.mp inside
  rw [List.mem_append, List.mem_cons] at among
  rcases among with first | space | last
  · exact plain first
  · cases space
  · exact single last

/-- When a line of the input is carried out as a write, the lines that ask for its key are carried out
as a read and as a removal of the key without the blanks at its end. So they name the key that was
written exactly if no blank stood between it and the equals sign. -/
theorem typed_key_named_iff {input line : Octets} {key value : List Char}
    (typed : line ∈ inputLines input) (written : react line = .carryOut (.set key value)) :
    inputLines (request "get" key ++ 10 :: (request "delete" key ++ [10])) =
        [request "get" key, request "delete" key] ∧
      react (request "get" key) = .carryOut (.get (trimEnd key)) ∧
      react (request "delete" key) = .carryOut (.delete (trimEnd key)) ∧
      (react (request "get" key) = .carryOut (.get key) ∧
          react (request "delete" key) = .carryOut (.delete key) ↔
        ∀ c ∈ key.getLast?, isBlank c = false) := by
  obtain ⟨text, rfl, read⟩ := text_of_carried_out written
  obtain ⟨filled, shown, part⟩ := Command.key_of_set read
  have gets := react_get filled shown
  have deletes := react_delete filled shown
  have single : '\n' ∉ key := by
    intro inside
    exact end_not_in_line typed ((line_end_in_encode text).mpr (part inside))
  refine ⟨?_, gets, deletes, ?_⟩
  · rw [input_lines_cons (request_is_line (by decide) single),
      input_lines_cons (request_is_line (by decide) single)]
    rfl
  · rw [gets, deletes, ← trimEnd_eq_self_iff, Reaction.carryOut.injEq, Reaction.carryOut.injEq,
      Command.get.injEq, Command.delete.injEq, and_self]

/-- A key with a blank inside, typed behind two blanks, is read and removed under its own name. -/
theorem inner_blank_is_kept :
    let line := Utf8.encode "set  a b= c ".toList
    (line ∈ inputLines (line ++ [10]) ∧
        react line = .carryOut (.set "a b".toList " c".toList)) ∧
      react (request "get" "a b".toList) = .carryOut (.get "a b".toList) ∧
      react (request "delete" "a b".toList) = .carryOut (.delete "a b".toList) := by
  intro line
  have typed : line ∈ inputLines (line ++ [10]) := by
    decide +kernel
  have written : react line = .carryOut (.set "a b".toList " c".toList) := by
    rw [react_encode]
    decide +kernel
  have ends : ∀ c ∈ "a b".toList.getLast?, isBlank c = false := by
    intro c last
    obtain rfl : 'b' = c := Option.some.inj last
    decide
  exact ⟨⟨typed, written⟩, (typed_key_named_iff typed written).2.2.2.mpr ends⟩

/-- A blank in front of the equals sign: the value is kept under a key that ends with the blank, and
the lines that ask for this key ask for another. -/
theorem blank_before_equals_hides_key :
    react (Utf8.encode "set k =v".toList) = .carryOut (.set "k ".toList "v".toList) ∧
      react (request "get" "k ".toList) = .carryOut (.get "k".toList) ∧
      react (request "delete" "k ".toList) = .carryOut (.delete "k".toList) := by
  have cut : trimEnd "k ".toList = "k".toList := by
    decide +kernel
  have filled : "k ".toList ≠ [] := by
    decide +kernel
  have shown : ∀ c ∈ "k ".toList.head?, isBlank c = false := by
    rintro c head
    obtain rfl : 'k' = c := Option.some.inj head
    decide
  refine ⟨?_, ?_, ?_⟩
  · rw [react_encode]
    decide +kernel
  · rw [react_get filled shown, cut]
  · rw [react_delete filled shown, cut]

end Console
end XorOverlay
