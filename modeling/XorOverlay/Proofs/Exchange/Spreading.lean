import Mathlib
import XorOverlay.Proofs.Exchange.CompanySearches
import XorOverlay.Proofs.Exchange.MeshOperations

/-!
Writes among companions. A write by one of them reaches every other that is not named like the key, and
the writer itself if it is no farther from the key than one of these. A refresh writes every value again
that the refreshing node holds, so its copies come to lie over those of everyone they reach.
-/

namespace XorOverlay

set_option autoImplicit false

/-- Whether a write by the member of a line reaches the one of a place: any other that is not named
like the key, and the writer if one of these is no closer to the key. -/
def reaches (roster : List Contact) (key : Ident) (line place : Nat) : Bool :=
  match roster[line]?, roster[place]? with
  | some writer, some peer =>
    if place = line then
      roster.any fun other =>
        other.id != writer.id && other.id != key && decide (writer.id.rank key ≤ other.id.rank key)
    else peer.id != key
  | _, _ => false

/-- The write of any other reaches a place that the write of one other reaches. -/
theorem reaches_from {roster : List Contact} {key : Ident} {line other place : Nat}
    {writer : Contact} (writes : roster[other]? = some writer) (apart : place ≠ other)
    (away : place ≠ line) (reached : reaches roster key line place = true) :
    reaches roster key other place = true := by
  unfold reaches at reached ⊢
  rw [writes]
  split at reached
  · next first peer _ there =>
      rw [there]
      rw [if_neg away] at reached
      dsimp only
      rw [if_neg apart, reached]
  · cases reached

namespace Copies

variable {roster : List Contact} {line place : Nat} {key : Ident} {value : Octets}
  {copies : Copies}

/-- The copies after a write. -/
def spread (roster : List Contact) (line : Nat) (key : Ident) (value : Octets) (copies : Copies) :
    Copies := fun place named =>
  if named = key ∧ reaches roster key line place = true then some value else copies place named

/-- The copies after a refresh. -/
def refreshed (roster : List Contact) (line : Nat) (copies : Copies) : Copies := fun place key =>
  if reaches roster key line place = true then (copies line key).or (copies place key)
  else copies place key

theorem unreached (absent : roster[line]? = none) (key : Ident) (place : Nat) :
    reaches roster key line place = false := by
  rw [reaches, absent]

theorem spread_absent (absent : roster[line]? = none) (key : Ident) (value : Octets)
    (copies : Copies) : copies.spread roster line key value = copies := by
  funext place named
  rw [spread, unreached absent, if_neg (fun both => Bool.false_ne_true both.2)]

theorem refreshed_absent (absent : roster[line]? = none) (copies : Copies) :
    copies.refreshed roster line = copies := by
  funext place key
  rw [refreshed, unreached absent, if_neg Bool.false_ne_true]

/-- The copies after the entries of a listing have been written, one after another. -/
def respread (roster : List Contact) (line : Nat) : List Listed → Copies → Copies
  | [], copies => copies
  | item :: rest, copies =>
    match Ident.ofOctets item.key with
    | .ok key => respread roster line rest (copies.spread roster line key item.value)
    | .error _ => respread roster line rest copies

end Copies

/-- The value of a key in a listing. -/
def listed? (key : Ident) (items : List Listed) : Option Octets :=
  (items.find? fun item => item.key == key.octets).map Listed.value

theorem listed_cons (key : Ident) (item : Listed) (rest : List Listed) :
    listed? key (item :: rest) =
      if item.key = key.octets then some item.value else listed? key rest := by
  unfold listed?
  by_cases here : item.key = key.octets
  · rw [if_pos here, List.find?_cons_of_pos (by simpa using here)]
    rfl
  · rw [if_neg here, List.find?_cons_of_neg (by simpa using here)]

theorem listed_eq_some_iff {items : List Listed} (distinct : (items.map Listed.key).Nodup)
    (key : Ident) (value : Octets) : listed? key items = some value ↔
      ∃ item ∈ items, item.key = key.octets ∧ item.value = value := by
  induction items with
  | nil => simp [listed?]
  | cons item rest ih =>
      obtain ⟨fresh, apart⟩ := List.nodup_cons.mp distinct
      rw [listed_cons, List.exists_mem_cons_iff]
      split_ifs with here
      · rw [Option.some_inj]
        constructor
        · exact fun same => Or.inl ⟨here, same⟩
        · rintro (⟨_, same⟩ | ⟨other, later, again, _⟩)
          · exact same
          · exact (fresh (List.mem_map.mpr ⟨other, later, again.trans here.symm⟩)).elim
      · rw [ih apart, or_iff_right fun first => here first.1]

namespace Copies

/-- The entries of a listing, each key of them once, come to lie over the copies they reach. -/
theorem respread_eq {roster : List Contact} {line : Nat} {items : List Listed}
    (distinct : (items.map Listed.key).Nodup) (copies : Copies) (place : Nat) (key : Ident) :
    copies.respread roster line items place key =
      if reaches roster key line place = true then (listed? key items).or (copies place key)
      else copies place key := by
  induction items generalizing copies with
  | nil =>
      rw [respread, show listed? key [] = none from rfl, Option.none_or, ite_self]
  | cons item rest ih =>
      obtain ⟨fresh, apart⟩ := List.nodup_cons.mp distinct
      rw [listed_cons, respread]
      cases parsed : Ident.ofOctets item.key with
      | error failure =>
          have other : item.key ≠ key.octets := by
            intro same
            rw [same, Ident.of_octets] at parsed
            cases parsed
          rw [if_neg other]
          exact ih apart copies
      | ok name =>
          have named := Ident.octets_of_ok parsed
          dsimp only
          rw [ih apart, spread, named]
          by_cases same : key = name
          · subst same
            have later : listed? key rest = none := by
              by_contra some
              obtain ⟨value, found⟩ := Option.ne_none_iff_exists'.mp some
              obtain ⟨other, listed, again, _⟩ := (listed_eq_some_iff apart key value).mp found
              exact fresh (List.mem_map.mpr ⟨other, listed, again.trans named.symm⟩)
            rw [later, if_pos rfl]
            split_ifs <;> simp_all
          · have other : ¬name.octets = key.octets :=
              fun equal => same (Ident.octets_injective equal).symm
            simp only [if_neg other, same, false_and, if_false]

end Copies

namespace Scene

variable {line : Nat} {roster all : List Contact} {key : Ident}

/-- Whom a write reaches, told by the others that a search finds. -/
theorem reaches_iff (distinct : (roster.map Contact.id).Nodup) {writer : Contact}
    (writes : roster[line]? = some writer) (fellows : Node.Fellows key roster writer.id all)
    (place : Nat) : reaches roster key line place = true ↔
      (place = line ∧ all ≠ [] ∧ isReplica writer.id key all = true) ∨
        (roster[place]?).any all.contains = true := by
  have own : writer ∉ all := fun listed => ((fellows.mem writer).mp listed).2.1 rfl
  unfold reaches
  rw [writes]
  by_cases here : place = line
  · subst here
    rw [writes]
    dsimp only
    rw [if_pos rfl]
    have excluded : (some writer).any all.contains = false := by simpa using own
    rw [excluded, List.any_eq_true]
    constructor
    · rintro ⟨other, listed, chosen⟩
      simp only [Bool.and_eq_true, bne_iff_ne, decide_eq_true_iff] at chosen
      have among := (fellows.mem other).mpr ⟨listed, chosen.1⟩
      have some := List.ne_nil_of_mem among
      exact Or.inl ⟨rfl, some, (is_replica_iff some).mpr ⟨other, among, chosen.2⟩⟩
    · rintro (⟨_, some, replica⟩ | impossible)
      · obtain ⟨other, among, within⟩ := (is_replica_iff some).mp replica
        obtain ⟨listed, apart, unnamed⟩ := (fellows.mem other).mp among
        refine ⟨other, listed, ?_⟩
        simp only [Bool.and_eq_true, bne_iff_ne, decide_eq_true_iff]
        exact ⟨⟨apart, unnamed⟩, within⟩
      · cases impossible
  · rw [or_iff_right fun writing => here writing.1]
    cases there : roster[place]? with
    | none => simp
    | some peer =>
        have listed := List.mem_of_getElem? there
        have apart : peer.id ≠ writer.id := by
          intro same
          have equal := List.inj_on_of_nodup_map distinct listed (List.mem_of_getElem? writes) same
          exact here (place_unique distinct (equal ▸ there) writes)
        simp [here, fellows.mem, listed, apart]

/-- If there is anyone to write to, a write reaches somebody else. -/
theorem reaches_another (distinct : (roster.map Contact.id).Nodup) {writer : Contact}
    (writes : roster[line]? = some writer) (fellows : Node.Fellows key roster writer.id all)
    (some : all ≠ []) : ∃ place, place ≠ line ∧ reaches roster key line place = true := by
  obtain ⟨first, listed⟩ := List.exists_mem_of_ne_nil all some
  obtain ⟨known, apart, _⟩ := (fellows.mem first).mp listed
  obtain ⟨place, here⟩ := List.mem_iff_getElem?.mp known
  refine ⟨place, ?_, (reaches_iff distinct writes fellows place).mpr (Or.inr ?_)⟩
  · rintro rfl
    rw [writes] at here
    exact apart (congrArg Contact.id (Option.some.inj here).symm)
  · rw [here]
    simpa using listed

end Scene
end XorOverlay
