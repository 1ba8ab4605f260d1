import Mathlib
import XorOverlay.Proofs.Routing.BucketContacts

/-!
The invariant of a bucket. A bucket that may still be split has nothing parked, so its halves take
in live contacts alone and have room for all of them: no split loses a contact or brings a parked
one back.
-/

namespace XorOverlay.Bucket

set_option autoImplicit false

/-- The invariant of a bucket in the table of `owner`. -/
structure Sound (owner : Ident) (capacity : Nat) (bucket : Bucket) : Prop where
  aligned : bucket.Aligned
  liveBound : bucket.live.length ≤ capacity
  parkedBound : bucket.parked.length ≤ 5 * capacity
  covered : ∀ contact ∈ bucket.contacts, bucket.covers contact.id = true
  distinct : (bucket.contacts.map Contact.id).Nodup
  foreign : ∀ contact ∈ bucket.contacts, contact.id ≠ owner
  resting : bucket.parked ≠ [] → ¬bucket.splittable owner = true

theorem add_sound {owner : Ident} {capacity : Nat} (now : Nanoseconds) {contact : Contact}
    {bucket : Bucket} (sound : bucket.Sound owner capacity)
    (inside : bucket.covers contact.id = true) (stranger : contact.id ≠ owner)
    (final : (bucket.add capacity now contact).2 = true ∨ ¬bucket.splittable owner = true) :
    (bucket.add capacity now contact).1.Sound owner capacity := by
  obtain ⟨lower, upper⟩ := add_range capacity now contact bucket
  refine ⟨aligned_congr lower upper sound.aligned,
    add_live_length now contact sound.liveBound, add_parked_length now contact sound.parkedBound,
    ?_, add_distinct capacity now contact sound.distinct, ?_, ?_⟩
  · intro other member
    rw [covers_congr lower upper]
    rcases mem_add member with known | rfl
    · exact sound.covered other known
    · exact inside
  · intro other member
    rcases mem_add member with known | rfl
    · exact sound.foreign other known
    · exact stranger
  · intro parked
    rw [splittable_congr lower upper]
    rcases final with live | rest
    · apply sound.resting
      intro nothing
      exact parked (add_parked_nil nothing live)
    · exact rest

theorem remove_sound {owner : Ident} {capacity : Nat} (id : Ident) {bucket : Bucket}
    (sound : bucket.Sound owner capacity) : (bucket.remove id).Sound owner capacity := by
  have kept : (bucket.remove id).contacts.Sublist bucket.contacts := by
    rw [remove_contacts]
    exact without_sublist id bucket.contacts
  refine ⟨aligned_congr rfl rfl sound.aligned,
    (without_sublist id bucket.live).length_le.trans sound.liveBound,
    (without_sublist id bucket.parked).length_le.trans sound.parkedBound,
    fun contact member => sound.covered contact (kept.subset member),
    sound.distinct.sublist (kept.map Contact.id),
    fun contact member => sound.foreign contact (kept.subset member), ?_⟩
  intro parked
  apply sound.resting
  intro nothing
  apply parked
  unfold remove
  dsimp only
  rw [nothing]
  rfl

theorem empty_sound (owner : Ident) (capacity : Nat) (now : Nanoseconds) :
    (empty 0 (Ident.total - 1) now).Sound owner capacity := by
  refine ⟨whole_aligned now, Nat.zero_le _, Nat.zero_le _, ?_, List.nodup_nil, ?_, ?_⟩
  · intro contact member
    exact (List.not_mem_nil member).elim
  · intro contact member
    exact (List.not_mem_nil member).elim
  · intro parked
    exact (parked rfl).elim

theorem add_fresh_live {capacity : Nat} (now : Nanoseconds) {contact : Contact} {bucket : Bucket}
    (fresh : ∀ known ∈ bucket.live, known.id ≠ contact.id)
    (room : bucket.live.length < capacity) :
    (bucket.add capacity now contact).2 = true ∧
      (bucket.add capacity now contact).1.live = bucket.live ++ [contact] := by
  have live : (bucket.add capacity now contact).2 = true := by
    rw [add_answer, decide_eq_true room, Bool.or_true]
  refine ⟨live, ?_⟩
  rw [add_live, if_pos live, without_eq_self fresh]

def fill (capacity : Nat) (now : Nanoseconds) (dealt : List Contact) (bucket : Bucket) : Bucket :=
  dealt.foldl (fun held contact => (held.add capacity now contact).1) bucket

/-- A bucket with room for everything that is dealt to it takes all of it in, in order. -/
theorem fill_live {capacity : Nat} (now : Nanoseconds) {dealt : List Contact} {bucket : Bucket}
    (distinct : (dealt.map Contact.id).Nodup)
    (fresh : ∀ contact ∈ dealt, ∀ known ∈ bucket.live, known.id ≠ contact.id)
    (room : bucket.live.length + dealt.length ≤ capacity) (nothing : bucket.parked = []) :
    (bucket.fill capacity now dealt).live = bucket.live ++ dealt ∧
      (bucket.fill capacity now dealt).parked = [] := by
  unfold fill
  induction dealt generalizing bucket with
  | nil => exact ⟨(List.append_nil _).symm, nothing⟩
  | cons contact rest ih =>
      simp only [List.map_cons, List.nodup_cons, List.mem_map, not_exists, not_and] at distinct
      rw [List.length_cons] at room
      obtain ⟨live, grown⟩ := add_fresh_live now
        (fresh contact List.mem_cons_self) (show bucket.live.length < capacity by omega)
      have later : ∀ other ∈ rest, ∀ known ∈ (bucket.add capacity now contact).1.live,
          known.id ≠ other.id := by
        intro other member known held
        rw [grown] at held
        rcases List.mem_append.mp held with old | added
        · exact fresh other (List.mem_cons_of_mem _ member) known old
        · rw [List.mem_singleton.mp added]
          exact fun same => distinct.1 other member same.symm
      have spare : (bucket.add capacity now contact).1.live.length + rest.length ≤ capacity := by
        rw [grown, List.length_append, List.length_singleton]
        omega
      have tail := ih distinct.2 later spare (add_parked_nil nothing live)
      rw [grown, List.append_assoc, List.singleton_append] at tail
      exact tail

/-- Dealing contacts to two halves fills each with the contacts on its side of the border. -/
theorem deal_eq_fill (capacity : Nat) (now : Nanoseconds) (border : Nat) (dealt : List Contact)
    (halves : Bucket × Bucket) :
    dealt.foldl
        (fun halves contact =>
          if contact.id.toNat ≤ border then ((halves.1.add capacity now contact).1, halves.2)
          else (halves.1, (halves.2.add capacity now contact).1)) halves =
      (halves.1.fill capacity now (dealt.filter fun contact => contact.id.toNat ≤ border),
        halves.2.fill capacity now (dealt.filter fun contact => !(contact.id.toNat ≤ border))) := by
  induction dealt generalizing halves with
  | nil => rfl
  | cons contact rest ih =>
      rw [List.foldl_cons, ih]
      by_cases low : contact.id.toNat ≤ border
      · simp [low, fill]
      · simp [low, fill]

theorem split_eq_fill (capacity : Nat) (now : Nanoseconds) (bucket : Bucket) :
    bucket.split capacity now =
      ((empty bucket.lower bucket.midpoint bucket.touched).fill capacity now
          (bucket.contacts.filter fun contact => contact.id.toNat ≤ bucket.midpoint),
        (empty (bucket.midpoint + 1) bucket.upper bucket.touched).fill capacity now
          (bucket.contacts.filter fun contact => !(contact.id.toNat ≤ bucket.midpoint))) :=
  deal_eq_fill capacity now bucket.midpoint bucket.contacts _

theorem parked_nil_of_splittable {owner : Ident} {capacity : Nat} {bucket : Bucket}
    (sound : bucket.Sound owner capacity) (may : bucket.splittable owner = true) :
    bucket.parked = [] := by
  by_contra parked
  exact sound.resting parked may

theorem split_live {owner : Ident} {capacity : Nat} (now : Nanoseconds) {bucket : Bucket}
    (sound : bucket.Sound owner capacity) (may : bucket.splittable owner = true) :
    ((bucket.split capacity now).1.live =
        bucket.live.filter (fun contact => contact.id.toNat ≤ bucket.midpoint) ∧
      (bucket.split capacity now).2.live =
        bucket.live.filter (fun contact => !(contact.id.toNat ≤ bucket.midpoint))) ∧
      (bucket.split capacity now).1.parked = [] ∧ (bucket.split capacity now).2.parked = [] := by
  have nothing := parked_nil_of_splittable sound may
  have distinct := sound.distinct
  have same : bucket.contacts = bucket.live := by
    unfold contacts
    rw [nothing, List.append_nil]
  rw [same] at distinct
  have taken : ∀ (side : Contact → Bool) (lower upper : Nat),
      ((empty lower upper bucket.touched).fill capacity now (bucket.live.filter side)).live =
          bucket.live.filter side ∧
        ((empty lower upper bucket.touched).fill capacity now (bucket.live.filter side)).parked =
          [] := by
    intro side lower upper
    have part : (bucket.live.filter side).Sublist bucket.live := List.filter_sublist
    apply fill_live now (distinct.sublist (part.map Contact.id)) _ _ rfl
    · exact fun _ _ _ held => (List.not_mem_nil held).elim
    · show 0 + _ ≤ capacity
      have bound := part.length_le.trans sound.liveBound
      omega
  rw [split_eq_fill, same]
  exact ⟨⟨(taken _ _ _).1, (taken _ _ _).1⟩, (taken _ _ _).2, (taken _ _ _).2⟩

theorem half_sound {owner : Ident} {capacity : Nat} {bucket half : Bucket}
    (sound : bucket.Sound owner capacity) (aligned : half.Aligned)
    (kept : half.live.Sublist bucket.live) (nothing : half.parked = [])
    (covered : ∀ contact ∈ half.live, half.covers contact.id = true) :
    half.Sound owner capacity := by
  have same : half.contacts = half.live := by
    unfold contacts
    rw [nothing, List.append_nil]
  have contained : half.live.Sublist bucket.contacts :=
    kept.trans (List.sublist_append_left bucket.live bucket.parked)
  refine ⟨aligned, kept.length_le.trans sound.liveBound, ?_, ?_, ?_, ?_, ?_⟩
  · rw [nothing]
    exact Nat.zero_le _
  · rw [same]
    exact covered
  · rw [same]
    exact sound.distinct.sublist (contained.map Contact.id)
  · rw [same]
    exact fun contact member => sound.foreign contact (contained.subset member)
  · intro parked
    exact (parked nothing).elim

theorem split_sound {owner : Ident} {capacity : Nat} (now : Nanoseconds) {bucket : Bucket}
    (sound : bucket.Sound owner capacity) (may : bucket.splittable owner = true) :
    (bucket.split capacity now).1.Sound owner capacity ∧
      (bucket.split capacity now).2.Sound owner capacity := by
  have deep := ((splittable_iff owner bucket).mp may).1
  obtain ⟨alignedLower, alignedUpper⟩ := split_aligned capacity now sound.aligned deep
  obtain ⟨⟨lower, upper⟩, nothingLower, nothingUpper⟩ := split_live now sound may
  have covered : ∀ contact ∈ bucket.live, bucket.covers contact.id = true :=
    fun contact member => sound.covered contact (List.mem_append_left _ member)
  constructor
  · apply half_sound sound alignedLower _ nothingLower
    · intro contact member
      rw [lower, List.mem_filter] at member
      exact (split_covers capacity now (covered contact member.1)).1.mpr
        (of_decide_eq_true member.2)
    · rw [lower]
      exact List.filter_sublist
  · apply half_sound sound alignedUpper _ nothingUpper
    · intro contact member
      rw [upper, List.mem_filter] at member
      have high : ¬contact.id.toNat ≤ bucket.midpoint := by simpa using member.2
      exact (split_covers capacity now (covered contact member.1)).2.mpr high
    · rw [upper]
      exact List.filter_sublist

end XorOverlay.Bucket
