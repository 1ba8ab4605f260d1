import Mathlib
import XorOverlay.Proofs.Node.Probing
import XorOverlay.Proofs.Routing.Parking

/-!
A bootstrap that no seed answers with its name. Seeds are pinged under the zero identifier, and a call
keeps the table in step with what was heard: a seed that is silent has the contact named zero removed,
and one that answers with something else is taken in under that name. All other contacts stay, but for
one that may be dropped to park such a contact.
-/

namespace XorOverlay

set_option autoImplicit false

namespace Node

/-- Whoever was heard from and can be sent to is added to the table; the table itself leaves out its
owner. -/
theorem welcome_adds {node welcomed : Node} {now : Nanoseconds} {peer : Contact}
    (owner : node.table.owner = node.id) (lives : peer.endpoint.isSome = true)
    (taken : node.welcome? now peer = some welcomed) :
    welcomed.id = node.id ∧ welcomed.table = node.table.change (.add now peer) := by
  unfold welcome? at taken
  dsimp only at taken
  split_ifs at taken with ignored
  · have own : peer.id = node.table.owner := by
      rw [owner]
      simpa [Option.isSome_iff_ne_none.mp lives] using ignored
    rw [← Option.some.inj taken]
    exact ⟨rfl, (Table.add_own now own).symm⟩
  · rw [← Option.some.inj taken]
    exact ⟨rfl, rfl⟩
  · obtain ⟨entries, _, rfl⟩ := Option.map_eq_some_iff.mp taken
    exact ⟨rfl, rfl⟩

end Node

namespace Scene

open Table

variable {ε : Type} {carrier : Carrier ε} {scene : Scene ε}

/-- Nothing happens to the name of a node and to its table while a request is on its way. -/
def Quiet (carrier : Carrier ε) : Prop :=
  ∀ scene endpoint request,
    (carrier scene endpoint request).2.node.id = scene.node.id ∧
      (carrier scene endpoint request).2.node.table = scene.node.table

/-- What is offered to a table when calls come out so: whoever answered, as it was called. -/
def offers (outcomes : List (Contact × Option Reply)) : List (Option Contact) :=
  outcomes.map fun outcome => outcome.2.map fun _ => outcome.1

/-- A seed that answers, but not with its name, is added under the one it was called by; one that
fails has that name removed. A call that was lost changes nothing. -/
theorem ping_changes (quiet : Quiet carrier) (owner : scene.node.table.owner = scene.node.id)
    (seed : Endpoint) :
    let placeholder : Contact := ⟨Ident.zero, some seed⟩
    let result := scene.call carrier placeholder .ping
    (∀ outcome ∈ outcomes placeholder result.1, outcome.2.bind Reply.pong? = none) →
      result.2.node.id = scene.node.id ∧
        ∃ changes, result.2.node.table = scene.node.table.after changes ∧
          (∀ made ∈ changes, made.named = Ident.zero) ∧
          changes.map Change.offer = offers (outcomes placeholder result.1) := by
  unfold call
  dsimp only
  obtain ⟨sameId, sameTable⟩ := quiet
    (scene.mapNode fun node => { node with lastTag := scene.node.lastTag + 1 }) seed
    ⟨scene.node.lastTag + 1, scene.node.contact, .ping⟩
  generalize carrier _ seed _ = answered at sameId sameTable ⊢
  obtain ⟨failure | response, later⟩ := answered
  · intro _
    refine ⟨sameId, [.remove Ident.zero], ?_, List.forall_mem_singleton.mpr rfl, rfl⟩
    exact congrArg (fun table => table.change (.remove Ident.zero)) sameTable
  · have kept : later.node.table.owner = later.node.id := by
      rw [sameId, sameTable]
      exact owner
    cases answer : response.reply with
    | pong id =>
        simp only [answer]
        split
        · exact fun mute => nomatch mute _ (List.mem_singleton_self _)
        · exact fun _ => ⟨sameId, [], sameTable, nofun, rfl⟩
    | _ =>
        simp only [answer]
        split
        · next welcomed taken =>
          obtain ⟨welcomedId, added⟩ := Node.welcome_adds kept rfl taken
          exact fun _ => ⟨welcomedId.trans sameId, [.add _ _], sameTable ▸ added,
            List.forall_mem_singleton.mpr rfl, rfl⟩
        · exact fun _ => ⟨sameId, [], sameTable, nofun, rfl⟩

/-- What pings without a pong change, one after another. -/
theorem pings_change (quiet : Quiet carrier) (owner : scene.node.table.owner = scene.node.id)
    (seeds : List Endpoint) :
    let pinged := callAll (call carrier) .ping scene (placeholders seeds)
    (∀ outcome ∈ pinged.1, outcome.2.bind Reply.pong? = none) →
      ∃ changes, pinged.2.node.table = scene.node.table.after changes ∧
        (∀ made ∈ changes, made.named = Ident.zero) ∧
        changes.map Change.offer = offers pinged.1 := by
  induction seeds generalizing scene with
  | nil => exact fun _ => ⟨[], rfl, nofun, rfl⟩
  | cons seed rest ih =>
      dsimp only
      rw [placeholders, List.map_cons, call_all_cons]
      dsimp only
      intro mute
      rw [List.forall_mem_append] at mute
      obtain ⟨sameId, first, table, named, offered⟩ := ping_changes quiet owner seed mute.1
      have sameOwner : (scene.call carrier ⟨Ident.zero, some seed⟩ .ping).2.node.table.owner =
          (scene.call carrier ⟨Ident.zero, some seed⟩ .ping).2.node.id := by
        rw [table, sameId, (after_owner _ _).1]
        exact owner
      obtain ⟨others, last, namedToo, offeredToo⟩ := ih sameOwner mute.2
      refine ⟨first ++ others, ?_, List.forall_mem_append.mpr ⟨named, namedToo⟩, ?_⟩
      · rw [after, List.foldl_append]
        exact last.trans (congrArg (Table.after others) table)
      · rw [List.map_append, offered, offeredToo]
        exact (List.map_append).symm

/-- When pings that bring no pong leave whom a table holds as it is: if they end with a failure, nobody
named zero may be held, nor anybody be dropped for an answer before; if they end with an answer, whoever
gave it must be held already as it is called, and where it is taken in. -/
def Undisturbed (table : Table) (outcomes : List (Contact × Option Reply)) : Prop :=
  match outcomes.getLast? with
  | none => True
  | some (_, none) =>
    (∀ known ∈ table.live ++ table.parked, known.id ≠ Ident.zero) ∧
      ((∃ outcome ∈ outcomes, outcome.2.isSome = true) →
        table.Room Ident.zero ∨ table.Spare Ident.zero)
  | some (dest, some _) =>
    dest ∈ table.live ∨ ¬table.Room Ident.zero ∧ dest ∈ table.parked

/-- Changes of the name zero keep the contacts of a table that could hold one of that name exactly if
the pings they stand for do. -/
theorem same_iff_undisturbed {table : Table} (sound : table.Sound) (coarse : table.Coarse)
    (stranger : Ident.zero ≠ table.owner) (positive : 0 < table.capacity) {changes : List Change}
    (named : ∀ made ∈ changes, made.named = Ident.zero)
    {outcomes : List (Contact × Option Reply)} (offered : changes.map Change.offer = offers outcomes) :
    SameContacts table (table.after changes) ↔ Undisturbed table outcomes := by
  rcases List.eq_nil_or_concat' outcomes with rfl | ⟨before, final, rfl⟩
  · obtain rfl := List.map_eq_nil_iff.mp offered
    exact iff_of_true ⟨fun _ => Iff.rfl, fun _ => Iff.rfl⟩ trivial
  rw [offers, List.map_append, List.map_singleton, List.map_eq_append_iff] at offered
  obtain ⟨first, rest, rfl, offers, last⟩ := offered
  obtain ⟨made, rfl, seat⟩ := List.map_eq_singleton_iff.mp last
  have revised := after_revised sound coarse stranger positive made named
  have asked : ((first ++ [made]).any fun made => made.offer.isSome) = true ↔
      ∃ outcome ∈ before ++ [final], outcome.2.isSome = true := by
    have all : (first ++ [made]).map Change.offer =
        (before ++ [final]).map fun outcome => outcome.2.map fun _ => outcome.1 := by
      rw [List.map_append, List.map_append, offers, last]
      rfl
    have any := congrArg (List.any · Option.isSome) all
    simp only [List.any_map] at any
    rw [show (first ++ [made]).any (fun made => made.offer.isSome) = _ from any, List.any_eq_true]
    simp
  rw [Undisturbed, List.getLast?_concat]
  rw [seat] at revised
  obtain ⟨dest, _ | reply⟩ := final
  · rw [revised.same_iff_absent sound, asked]
  · exact revised.same_iff_held sound coarse stranger

/-- A node that none of its seeds answered with a name finds nobody. All contacts that are not named
zero stay with it, but for at most one parked contact; and it has the contacts it had before exactly
if it is named zero itself, has no room for any contact, or the pings leave the one named zero as it
was. -/
theorem failed_bootstrap_contacts (carrier : Carrier ε) (quiet : Quiet carrier)
    (seeds : List Endpoint) (scene : Scene ε) (start : Nanoseconds) (history : List Change)
    (reached : scene.node.table =
      (Table.empty scene.node.id scene.node.width start).after history) :
    let outcomes := (callAll (call carrier) .ping scene (placeholders seeds)).1
    let ended := scene.bootstrap carrier seeds
    let first := scene.node.table
    let last := ended.2.node.table
    (∀ outcome ∈ outcomes, outcome.2.bind Reply.pong? = none) →
      ended.1 = [] ∧
      ((Bucket.without Ident.zero last.live).Perm (Bucket.without Ident.zero first.live) ∧
        ∃ lost, lost.length ≤ 1 ∧ (Bucket.without Ident.zero first.parked).Perm
          (lost ++ Bucket.without Ident.zero last.parked)) ∧
      (SameContacts first last ↔
        scene.node.id = Ident.zero ∨ scene.node.width = 0 ∨ Undisturbed first outcomes) := by
  intro outcomes ended first last mute
  have made := after_owner (Table.empty scene.node.id scene.node.width start) history
  have fresh := Table.empty_sound scene.node.id scene.node.width start
  have sound := after_sound fresh history
  have coarse := after_coarse fresh (Table.empty_coarse scene.node.id scene.node.width start) history
  rw [← reached] at made sound coarse
  have nobody : introduced outcomes = [] := by
    apply List.filterMap_eq_nil_iff.mpr
    intro outcome among
    rw [mute outcome among]
    rfl
  have pinged : ended = ([], (callAll (call carrier) .ping scene (placeholders seeds)).2) := by
    rw [show ended = scene.bootstrap carrier seeds from rfl, bootstrap_eq]
    exact if_pos (List.isEmpty_iff.mpr nobody)
  obtain ⟨changes, table, named, offered⟩ := pings_change quiet made.1 seeds mute
  have after : last = first.after changes := by
    simp only [last, pinged]
    exact table
  rw [after]
  refine ⟨congrArg Prod.fst pinged, after_others sound coarse named, ?_⟩
  by_cases own : scene.node.id = Ident.zero
  · refine iff_of_true ?_ (Or.inl own)
    obtain ⟨live, parked⟩ := after_own sound fun change among =>
      (named change among).trans (own.symm.trans made.1.symm)
    exact ⟨fun _ => live ▸ Iff.rfl, fun _ => parked ▸ Iff.rfl⟩
  by_cases narrow : scene.node.width = 0
  · refine iff_of_true ?_ (Or.inr (Or.inl narrow))
    have none := no_contacts_of_narrow sound (made.2.trans narrow)
    have still := no_contacts_of_narrow (after_sound sound changes)
      ((after_owner _ changes).2.trans (made.2.trans narrow))
    exact ⟨fun _ => by rw [none.1, still.1], fun _ => by rw [none.2, still.2]⟩
  rw [or_iff_right own, or_iff_right narrow]
  refine same_iff_undisturbed sound coarse ?_ ?_ named offered
  · rw [show first.owner = scene.node.id from made.1]
    exact Ne.symm own
  · rw [show first.capacity = scene.node.width from made.2]
    exact Nat.pos_of_ne_zero narrow

/-- A node with these contacts. -/
def acquainted (contacts : List Contact) : Scene Unit :=
  let node := Node.start Settings.default (Ident.ofNat 1) (.v4 1 1) (.expiring (Expiring.empty 10)) 0
  ⟨{ node with table := node.table.after (contacts.map (Change.add 0)) }, 0, ()⟩

/-- No request is answered. -/
def unheard : Carrier Unit :=
  fun scene _ _ => (.error .timedOut, scene)

/-- Every request is answered as if it were one to store a value. -/
def evasive : Carrier Unit :=
  fun scene _ request => (.ok ⟨request.tag, .stored true⟩, scene)

/-- Two silent seeds leave a node its one contact. -/
theorem silent_seeds_leave_contact :
    let scene := acquainted [⟨Ident.ofNat 3, some (.v4 1 3)⟩]
    let ended := scene.bootstrap unheard [.v4 1 2, .v4 1 4]
    ended.1 = [] ∧ scene.node.table.live = [⟨Ident.ofNat 3, some (.v4 1 3)⟩] ∧
      SameContacts scene.node.table ended.2.node.table := by
  obtain ⟨nobody, _, same⟩ := failed_bootstrap_contacts unheard (fun _ _ _ => ⟨rfl, rfl⟩)
    [.v4 1 2, .v4 1 4] (acquainted [⟨Ident.ofNat 3, some (.v4 1 3)⟩]) 0
    [.add 0 ⟨Ident.ofNat 3, some (.v4 1 3)⟩] rfl (by decide +kernel)
  refine ⟨nobody, ?_, same.mpr (Or.inr (Or.inr ⟨?_, ?_⟩))⟩
  · decide +kernel
  · decide +kernel
  · decide +kernel

/-- A seed that answers with something else than its name becomes a contact under the zero name, and a
silent one takes the place of a contact that has that name. -/
theorem placeholder_gained_and_lost :
    let lonely := acquainted []
    let acquainted := acquainted [⟨Ident.zero, some (.v4 1 3)⟩]
    let evaded := lonely.bootstrap evasive [.v4 1 2]
    let silenced := acquainted.bootstrap unheard [.v4 1 2]
    (Quiet evasive ∧ evaded.1 = [] ∧ lonely.node.table.live = [] ∧
        evaded.2.node.table.live = [⟨Ident.zero, some (.v4 1 2)⟩]) ∧
      Quiet unheard ∧ silenced.1 = [] ∧
        acquainted.node.table.live = [⟨Ident.zero, some (.v4 1 3)⟩] ∧
        silenced.2.node.table.live = [] := by
  refine ⟨⟨fun _ _ _ => ⟨rfl, rfl⟩, ?_⟩, fun _ _ _ => ⟨rfl, rfl⟩, ?_⟩
  · decide +kernel
  · decide +kernel

end Scene
end XorOverlay
