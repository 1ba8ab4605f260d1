import Mathlib
import XorOverlay.Proofs.Exchange.OwnName
import XorOverlay.Proofs.Exchange.SteadyRefresh
import XorOverlay.Proofs.Node.Sweep
import XorOverlay.Proofs.Routing.Recency

/-!
What a refresh publishes. Its sweep publishes every item of its listing up to the first that has expired
by its turn, as long as there is a contact to begin with, and then it is over, whatever is still to come.
Items whose key is no identifier, and items that cannot be sent to anyone, do not end it.
-/

namespace XorOverlay

set_option autoImplicit false

namespace Scene

variable {ε : Type} {settings : Settings} {carrier : Carrier ε}

/-- The calls by which a pair is published: a search for the key that begins with the nearest contacts,
and then the value to everyone it finds. -/
def Publication (carrier : Carrier ε) (key : Ident) (value : Octets) (scene : Scene ε)
    (made : List Call) : Prop :=
  let nearest := scene.node.neighbours key scene.node.width
  ∃ searches stores, made = searches ++ stores ∧ Searched (scene.plan key nearest) searches ∧
    (scene.node.parallelism = 0 ∨ searches ≠ []) ∧
    stores.map (fun call => (call.dest, call.query)) =
      (scene.lookup carrier key nearest).1.map fun dest => (dest, .store key.octets value)

/-- Of the calls of a sweep, these are those that publish a key. -/
def Amid (key : Ident) (made sweep : List Call) : Prop :=
  ∃ earlier later, sweep = earlier ++ made ++ later ∧
    ∀ call ∈ earlier ++ later, ¬call.query.Publishes key

theorem found_erased (carrier : Carrier ε) (scene : Scene (ε × List Call)) (target : Ident)
    (seeds : List Contact) :
    (scene.lookupBy (noting (call carrier)) target seeds).1 =
      (scene.erased.lookup carrier target seeds).1 := by
  have noted : Noted (fun _ => True) (fun _ => True) (fun _ => True) scene.erased scene :=
    ⟨rfl, trivial, fun _ _ => Or.inl trivial⟩
  rw [lookup_by_call]
  exact ((free_upkeep carrier).conduct.noted.lookup noted target fun _ _ => trivial).1

/-- A search that begins with somebody probes somebody, if it may. -/
theorem search_begins {scene : Scene ε} (linked : scene.node.Linked settings) {key : Ident}
    (route : scene.node.neighbours key scene.node.width ≠ []) {made : List Call}
    (searched : Searched (scene.plan key (scene.node.neighbours key scene.node.width)) made) :
    scene.node.parallelism = 0 ∨ made ≠ [] := by
  obtain ⟨log, planned, ends⟩ := searched
  obtain ⟨_, begun, _⟩ := Node.neighbours_begin linked key route
  let plan := scene.plan key (scene.node.neighbours key scene.node.width)
  have front : plan.front Reply.contacts? [] = scene.node.neighbours key scene.node.width :=
    (plan.start_stands Reply.contacts?).closest.symm.trans begun
  refine or_iff_not_imp_left.mpr fun some nothing => ?_
  cases log with
  | nil =>
      rcases ends with long | none | exhausted
      · cases long
      · exact some none
      · obtain ⟨nearest, near⟩ := List.exists_mem_of_ne_nil _ route
        exact List.not_mem_nil (exhausted nearest (front.symm ▸ near))
  | cons round log =>
      have dests := planned.recounts.dests
      rw [nothing, List.map_nil, List.flatMap_cons] at dests
      exact planned.followed.busy round List.mem_cons_self (List.append_eq_nil_iff.mp dests.symm).1

/-- A pair that has somewhere to begin is published. -/
theorem publish_made {scene : Scene (ε × List Call)} (linked : scene.node.Linked settings)
    {key : Ident} (value : Octets) (route : scene.node.neighbours key scene.node.width ≠ []) :
    ∃ made, (scene.publishBy (noting (call carrier)) key value).2.outside.2 =
        scene.outside.2 ++ made ∧ scene.erased.Publication carrier key value made := by
  obtain ⟨searches, stores, noted, searched, sent, dests⟩ :=
    publish_noted (call carrier) scene value route
  refine ⟨_, noted, searches, stores, rfl, searched, search_begins linked route searched, ?_⟩
  rw [found_erased] at dests
  have all : stores.map (fun call => (call.dest, call.query)) =
      (stores.map Call.dest).map fun dest => (dest, .store key.octets value) := by
    rw [List.map_map]
    refine List.map_congr_left fun call made => ?_
    rw [sent call made]
    rfl
  rw [all, dests]
  rfl

section Carried

variable (carries : ∀ scene dest request, Undergoes scene (carrier scene dest request).2)
include carries

theorem noting_linked (scene : Scene (ε × List Call)) (dest : Contact) (query : Query)
    (linked : scene.node.Linked settings) :
    (noting (call carrier) dest query scene).2.node.Linked settings := by
  have erased : scene.erased.Linked settings fun _ => True := ⟨linked, trivial⟩
  exact (erased.call (fun scene dest request => undergoes_linked (carries scene dest request))
    dest query).node

theorem noting_sound (scene : Scene (ε × List Call)) (dest : Contact) (query : Query)
    (sound : scene.node.store.Sound) :
    (noting (call carrier) dest query scene).2.node.store.Sound := by
  refine @call_retains ε scene.erased carrier (fun scene => scene.node.store.Sound) ?_
    (fun _ _ sound => sound) ?_ (fun _ _ sound => sound) sound dest query
  · exact fun scene dest request => undergoes_sound (carries scene dest request)
  · intro scene peer welcomed sound taken
    rw [(Node.welcome_spares taken).1]
    exact sound

/-- If only the carrier keeps a name in the table, a call keeps it there unless it goes to that name and
fails. -/
theorem call_keeps_name {friend : Ident}
    (keeps : ∀ scene dest request, friend ∈ scene.node.table.live.map Contact.id →
      friend ∈ (carrier scene dest request).2.node.table.live.map Contact.id)
    {scene : Scene ε} (linked : scene.node.Linked settings)
    (live : friend ∈ scene.node.table.live.map Contact.id) (dest : Contact) (query : Query) :
    friend ∈ (scene.call carrier dest query).2.node.table.live.map Contact.id ∨
      dest.id = friend ∧ (scene.call carrier dest query).1 = .failed := by
  unfold call
  split
  · exact Or.inl live
  · next endpoint _ =>
      let tag := scene.node.lastTag + 1
      let sending := scene.mapNode fun node => { node with lastTag := tag }
      have sent : sending.Linked settings fun _ => True := ⟨{ linked with }, trivial⟩
      have carried := undergoes_linked (carries sending endpoint ⟨tag, scene.node.contact, query⟩) sent
      have kept := keeps sending endpoint ⟨tag, scene.node.contact, query⟩ live
      dsimp only
      generalize carrier sending endpoint ⟨tag, scene.node.contact, query⟩ = result at carried kept ⊢
      obtain ⟨known, held, rfl⟩ := List.mem_map.mp kept
      obtain ⟨failure | response, later⟩ := result
      · by_cases same : dest.id = known.id
        · exact Or.inr ⟨same, rfl⟩
        · left
          refine List.mem_map_of_mem ?_
          show known ∈ (later.node.table.remove dest.id).1.live
          rw [Table.remove_live carried.node.table, Bucket.mem_without]
          exact ⟨held, fun named => same named.symm⟩
      · left
        dsimp only
        split
        · next welcomed taken =>
            rcases Node.welcome_cases taken with rfl | ⟨pushed, _, rfl⟩
            · exact kept
            · exact Table.named_after_add carried.node.table later.clock _ kept
        · exact kept

/-- A contact is known by a name, or a call under the name has failed. -/
def Befriended (friend : Ident) (scene : Scene (ε × List Call)) : Prop :=
  friend ∈ scene.node.table.live.map Contact.id ∨
    ∃ call ∈ scene.outside.2, call.dest.id = friend ∧ call.called = .failed

theorem noting_befriended {friend : Ident}
    (keeps : ∀ scene dest request, friend ∈ scene.node.table.live.map Contact.id →
      friend ∈ (carrier scene dest request).2.node.table.live.map Contact.id)
    (scene : Scene (ε × List Call)) (dest : Contact) (query : Query)
    (good : scene.node.Linked settings ∧ scene.Befriended friend) :
    (noting (call carrier) dest query scene).2.node.Linked settings ∧
      (noting (call carrier) dest query scene).2.Befriended friend := by
  obtain ⟨linked, live | ⟨lost, made, failed⟩⟩ := good
  · refine ⟨noting_linked carries scene dest query linked, ?_⟩
    have erased : scene.erased.node.Linked settings := linked
    refine (call_keeps_name carries keeps erased live dest query).imp_right fun failed => ?_
    exact ⟨_, List.mem_append_right _ (List.mem_singleton_self _), failed⟩
  · exact ⟨noting_linked carries scene dest query linked,
      Or.inr ⟨lost, List.mem_append_left _ made, failed⟩⟩

/-- Whoever is known as a refresh begins is known at any turn of its sweep, unless a call under the name
has failed. -/
theorem befriended_at_turn {friend : Ident}
    (keeps : ∀ scene dest request, friend ∈ scene.node.table.live.map Contact.id →
      friend ∈ (carrier scene dest request).2.node.table.live.map Contact.id)
    (draw : Nat → Nat) {scene : Scene ε} (linked : scene.node.Linked settings)
    (live : friend ∈ scene.node.table.live.map Contact.id) (before : List Listed) :
    let caller := noting (call carrier)
    let turn := (scene.unnoted.openedBy caller draw).republishBy caller before
    turn.node.Linked settings ∧ turn.Befriended friend := by
  intro caller turn
  let good (scene : Scene (ε × List Call)) : Prop :=
    scene.node.Linked settings ∧ scene.Befriended friend
  have calls : ∀ scene dest query, good scene → good (caller dest query scene).2 :=
    noting_befriended carries keeps
  have aside : ∀ (scene : Scene (ε × List Call)) (store : Store), good scene →
      good (scene.mapNode fun node => { node with store := store }) :=
    fun _ _ kept => ⟨{ kept.1 with }, kept.2⟩
  have begun : good (scene.unnoted.openedBy caller draw) :=
    @opened_keeps _ _ good calls aside draw _ ⟨linked, Or.inl live⟩
  exact @swept_keeps _ _ good calls aside before _ begun

/-- What a sweep does about an item: it is published if the sweep gets past it and there is somewhere to
begin, and otherwise no call is made for its key. -/
theorem sweep_at_item {begun : Scene (ε × List Call)} (linked : begun.node.Linked settings)
    {before after : List Listed} {item : Listed} {key : Ident} (named : item.key = key.octets)
    (distinct : ((before ++ item :: after).map Listed.key).Nodup) :
    let caller := noting (call carrier)
    let turn := begun.republishBy caller before
    let reached := Unbroken caller (before ++ [item]) begun ∧
      turn.node.neighbours key turn.node.width ≠ []
    ∃ sweep made, (begun.republishBy caller (before ++ item :: after)).outside.2 =
        begun.outside.2 ++ sweep ∧ Amid key made sweep ∧
      (reached → turn.erased.Publication carrier key item.value made) ∧
      (¬reached → made = []) := by
  intro caller turn reached
  have alone := Listed.others_apart distinct
  rw [named, List.forall_mem_append] at alone
  obtain ⟨earlier, first, foreign⟩ := republish_spares (call carrier) alone.1 begun
  by_cases gone : Unbroken caller (before ++ [item]) begun
  · obtain ⟨unbroken, one⟩ := unbroken_append.mp gone
    have lasts : item.Lasts turn.clock := (unbroken_cons.mp one).1
    have ended : begun.republishBy caller (before ++ item :: after) =
        (turn.publishBy caller key item.value).2.republishBy caller after := by
      rw [republish_append unbroken, republish_cons lasts, republish_one lasts named]
    obtain ⟨later, third, strange⟩ :=
      republish_spares (call carrier) alone.2 (turn.publishBy caller key item.value).2
    have others : ∀ call ∈ earlier ++ later, ¬call.query.Publishes key :=
      List.forall_mem_append.mpr ⟨foreign, strange⟩
    have turned : turn.node.Linked settings :=
      swept_keeps (noting_linked carries) (fun _ _ linked => { linked with }) before linked
    rw [ended, third]
    by_cases route : turn.node.neighbours key turn.node.width = []
    · refine ⟨earlier ++ [] ++ later, [], ?_, ⟨earlier, later, rfl, others⟩,
        fun reached => (reached.2 route).elim, fun _ => rfl⟩
      rw [publish_nowhere caller item.value route, List.append_nil, ← List.append_assoc]
      exact congrArg (· ++ later) first
    · obtain ⟨made, second, publication⟩ := @publish_made _ _ carrier _ turned _ item.value route
      refine ⟨earlier ++ made ++ later, made, ?_, ⟨earlier, later, rfl, others⟩,
        fun _ => publication, fun unreached => (unreached ⟨gone, route⟩).elim⟩
      rw [second, ← List.append_assoc, ← List.append_assoc]
      exact congrArg (· ++ made ++ later) first
  · rw [republish_broken gone]
    refine ⟨earlier ++ [] ++ [], [], ?_, ⟨earlier, [], rfl, ?_⟩, fun reached => (gone reached.1).elim,
      fun _ => rfl⟩
    · rw [List.append_nil, List.append_nil]
      exact first
    · rw [List.append_nil]
      exact foreign

/-- No key has two places in the store as a sweep begins, so its listing names none twice. -/
theorem opened_sound (draw : Nat → Nat) {scene : Scene (ε × List Call)}
    (sound : scene.node.store.Sound) :
    (scene.openedBy (noting (call carrier)) draw).node.store.Sound := by
  let held (scene : Scene (ε × List Call)) : Prop := scene.node.store.Sound
  exact @targets_keep _ _ held _ (noting_sound carries) (Store.cull_sound sound scene.clock) _

end Carried

/-- While nothing else reaches the store, all that a refresh does to it before its sweep is to drop what
has expired. -/
theorem opened_store (still : ∀ scene dest request,
      (carrier scene dest request).2.node.store = scene.node.store)
    (draw : Nat → Nat) (scene : Scene (ε × List Call)) :
    (scene.openedBy (noting (call carrier)) draw).node.store = scene.node.store.cull scene.clock := by
  let culled (later : Scene (ε × List Call)) : Prop :=
    later.node.store = scene.node.store.cull scene.clock
  refine @targets_keep _ _ culled _ ?_ rfl _
  intro later dest query kept
  refine @call_retains ε later.erased carrier
    (fun after => after.node.store = scene.node.store.cull scene.clock)
    (fun after dest request => (still after dest request).trans) (fun _ _ kept => kept) ?_
    (fun _ _ kept => kept) kept dest query
  intro scene peer welcomed kept taken
  exact (Node.welcome_spares taken).1.trans kept

theorem call_passes
    (ahead : ∀ scene dest request, scene.clock ≤ (carrier scene dest request).2.clock)
    (scene : Scene ε) (dest : Contact) (query : Query) :
    scene.clock ≤ (scene.call carrier dest query).2.clock :=
  @call_retains ε scene carrier (fun later => scene.clock ≤ later.clock)
    (fun later dest request passed => passed.trans (ahead later dest request))
    (fun _ _ passed => passed) (fun _ _ _ passed _ => passed) (fun _ _ passed => passed) le_rfl dest
    query

/-- Through whatever a node has been, and whatever happens while its requests are under way, as long as
time does not go back: a refresh asks for contacts, and then it sweeps. In whatever order the listing is
swept, take an item whose key is an identifier and that can still be read when the sweep is over. It is
published if none of the items before it had expired by its turn and there is somewhere to begin, and
otherwise no call of the sweep is made for its key. Items that can be read until the sweep is over do not
end it. There is somewhere to begin if a contact named otherwise than the key was live at the start and
is left alone by all but calls, unless a call under its name failed. And as long as nothing else reaches
the store, whatever it holds at the start and would still show at the end is in the listing. -/
theorem refresh_publishes_until_expired (settings : Settings) (id : Ident) (endpoint : Endpoint)
    (store : Store) (sound : store.Sound) (now clock : Nanoseconds) (outside : ε) {scene : Scene ε}
    (undergoes : Undergoes ⟨Node.start settings id endpoint store now, clock, outside⟩ scene)
    (active : scene.node.active = true) (carrier : Carrier ε)
    (carries : ∀ scene dest request, Undergoes scene (carrier scene dest request).2)
    (ahead : ∀ scene dest request, scene.clock ≤ (carrier scene dest request).2.clock)
    (draw : Nat → Nat) :
    let caller := noting (call carrier)
    let begun := scene.unnoted.openedBy caller draw
    let listing := begun.node.store.listing begun.clock
    (begun.republishBy caller listing).erased = scene.refresh carrier draw ∧
      (begun.republishBy caller listing).outside.2 = (Operation.refresh draw).calls carrier scene ∧
      (∀ call ∈ begun.outside.2, ∃ target, call.query = .findNode target) ∧
      ∀ items, items.Perm listing →
        let ended := begun.republishBy caller items
        ((∀ scene dest request, (carrier scene dest request).2.node.store = scene.node.store) →
          ∀ key value, (scene.node.store.get ended.clock key).1 = some value →
            ∃ item ∈ items, item.key = key ∧ item.value = value ∧ item.Lasts ended.clock) ∧
        ∀ before item after, items = before ++ item :: after → item.Lasts ended.clock →
          ∀ key : Ident, item.key = key.octets →
            let turn := begun.republishBy caller before
            let reached := Unbroken caller before begun ∧
              turn.node.neighbours key turn.node.width ≠ []
            (∃ sweep made, ended.outside.2 = begun.outside.2 ++ sweep ∧ Amid key made sweep ∧
              (reached → turn.erased.Publication carrier key item.value made) ∧
              (¬reached → made = [])) ∧
            ((∀ other ∈ before, other.Lasts ended.clock) → Unbroken caller before begun) ∧
            (0 < scene.node.width → scene.node.canGather scene.node.width = true →
              ∀ friend ∈ scene.node.table.live.map Contact.id, friend ≠ key →
              (∀ scene dest request, friend ∈ scene.node.table.live.map Contact.id →
                friend ∈ (carrier scene dest request).2.node.table.live.map Contact.id) →
              turn.node.neighbours key turn.node.width ≠ [] ∨
                ∃ call ∈ turn.outside.2, call.dest.id = friend ∧ call.called = .failed) := by
  intro caller begun listing
  have sweeps : scene.unnoted.refreshBy caller draw = begun.republishBy caller listing :=
    @refresh_sweeps _ scene.unnoted active caller draw
  have linked : scene.node.Linked settings := (undergoes_linked undergoes
    ⟨Node.start_linked settings id endpoint store now, trivial⟩).node
  have passes : ∀ scene dest query, scene.clock ≤ (caller dest query scene).2.clock :=
    fun scene => call_passes ahead scene.erased
  have opened : begun.node.Linked settings :=
    opened_keeps (noting_linked carries) (fun _ _ linked => { linked with }) draw linked
  have held : scene.node.store.Sound := undergoes_sound undergoes sound
  have ordered : begun.node.store.Sound := opened_sound carries draw held
  refine ⟨?_, congrArg (fun scene => scene.outside.2) sweeps.symm, ?_, ?_⟩
  · exact (congrArg erased sweeps.symm).trans (calls_erased carrier scene (.refresh draw))
  · obtain ⟨made, noted, looked⟩ := opened_adds (call carrier) draw scene.unnoted
    rw [show begun.outside.2 = [] ++ made from noted]
    exact looked
  · intro items perm ended
    refine ⟨?_, ?_⟩
    · intro still key value shows
      have before : scene.clock ≤ begun.clock := opened_passes passes draw scene.unnoted
      have after : begun.clock ≤ ended.clock := swept_passes passes items begun
      have culled : begun.node.store = scene.node.store.cull scene.clock :=
        opened_store still draw scene.unnoted
      rw [← Store.cull_shows (before.trans after), ← culled] at shows
      obtain ⟨item, listed, found⟩ := Store.listed_of_shows ordered after shows
      exact ⟨item, perm.mem_iff.mpr listed, found⟩
    · rintro before item after rfl lasts key named turn reached
      have distinct : ((before ++ item :: after).map Listed.key).Nodup :=
        (perm.map Listed.key).nodup_iff.mpr (Store.listing_keys_nodup ordered begun.clock)
      refine ⟨?_, unbroken_of_lasting passes, ?_⟩
      · obtain ⟨sweep, made, noted, amid, goes, stops⟩ :=
          sweep_at_item carries opened named distinct
        -- What can be read at the end can be read at its turn, so only the items before it count.
        have arrives : Unbroken caller before begun → Unbroken caller (before ++ [item]) begun :=
          fun unbroken => unbroken_until passes unbroken lasts
        refine ⟨sweep, made, noted, amid, fun way => goes ⟨arrives way.1, way.2⟩, fun halted => ?_⟩
        exact stops fun way => halted ⟨(unbroken_append.mp way.1).1, way.2⟩
      · intro wide room friend live other keeps
        obtain ⟨turned, befriended⟩ := befriended_at_turn carries keeps draw linked live before
        refine befriended.imp_left fun known => ?_
        obtain ⟨contact, among, rfl⟩ := List.mem_map.mp known
        have gathers : turn.node.canGather turn.node.width = true := by
          rw [Node.canGather, turned.room, turned.width, ← linked.room, ← linked.width]
          exact room
        rw [Ne, Node.neighbours_nil_iff turned (linked.width ▸ wide) gathers]
        exact fun alone => other (alone contact among)

/-- Everyone keeps what they are asked to keep, and takes a moment to say so. -/
def lagging : Carrier Unit :=
  fun scene dest request =>
    let result := obliging scene dest request
    (result.1, { result.2 with clock := result.2.clock + 1 })

theorem lagging_undergoes (scene : Scene Unit) (dest : Endpoint) (request : Request) :
    Undergoes scene (lagging scene dest request).2 :=
  .elapse (scene.clock + 1) scene.outside (.still scene)

/-- A node that knows one contact, and keeps values under four keys, the first of which is no identifier.
The third was written half a lifetime before the others. -/
def hoarder : Scene Unit :=
  let write (key value : Octets) (scene : Scene Unit) : Scene Unit :=
    (scene.receive (.v4 0x7F000001 6) ⟨1, ⟨Ident.ofNat 6, none⟩, .store key value⟩).2
  let writeTwo := fun scene => write (Ident.ofNat 1).octets [1] (write [7] [7] scene)
  let early := write (Ident.ofNat 2).octets [2] (writeTwo (fresh Settings.default))
  write (Ident.ofNat 3).octets [3] (writeTwo { early with clock := 5 })

theorem hoarder_undergoes : Undergoes (fresh Settings.default) hoarder :=
  .asked _ _ (.asked _ _ (.asked _ _ (.elapse 5 () (.asked _ _ (.asked _ _ (.asked _ _ (.still _)))))))

/-- The second item is published, though the key of the first is no identifier: both can be read until
the sweep is over. -/
theorem readable_item_published :
    let caller := noting (call lagging)
    let begun := hoarder.unnoted.openedBy caller fun _ => 77
    let listing := begun.node.store.listing begun.clock
    let ended := begun.republishBy caller listing
    let key := Ident.ofNat 1
    (Store.expiring (Expiring.empty 10)).Sound ∧ Undergoes (fresh Settings.default) hoarder ∧
      hoarder.node.active = true ∧
      (∀ scene dest request, Undergoes scene (lagging scene dest request).2) ∧
      (∀ scene dest request, scene.clock ≤ (lagging scene dest request).2.clock) ∧
      ended.erased = hoarder.refresh lagging (fun _ => 77) ∧
      ∃ sweep made, ended.outside.2 = begun.outside.2 ++ sweep ∧ Amid key made sweep ∧
        (begun.republishBy caller [⟨[7], [7], some 15⟩]).erased.Publication lagging key [1] made := by
  intro caller begun listing ended key
  have sound : (Store.expiring (Expiring.empty 10)).Sound := Store.empty_expiring_sound 10
  have ahead : ∀ (scene : Scene Unit) dest request, scene.clock ≤ (lagging scene dest request).2.clock :=
    fun scene _ _ => Nat.le_succ scene.clock
  have active : hoarder.node.active = true := by decide +kernel
  obtain ⟨refreshed, _, _, sweeps⟩ := refresh_publishes_until_expired Settings.default
    (Ident.ofNat 5) (.v4 0x7F000001 5) (.expiring (Expiring.empty 10)) sound 0 0 () hoarder_undergoes
    active lagging lagging_undergoes ahead fun _ => 77
  have listed : listing = [⟨[7], [7], some 15⟩] ++ ⟨key.octets, [1], some 15⟩ ::
      [⟨(Ident.ofNat 2).octets, [2], some 10⟩, ⟨(Ident.ofNat 3).octets, [3], some 15⟩] := by
    decide +kernel
  have clock : ended.clock = 12 := by decide +kernel
  have lasts : ∀ item ∈ [(⟨[7], [7], some 15⟩ : Listed), ⟨key.octets, [1], some 15⟩],
      item.Lasts ended.clock := by
    rw [clock]
    simp [Listed.Lasts, Listed.read]
  have dealt := (sweeps listing (List.Perm.refl _)).2 [⟨[7], [7], some 15⟩]
    ⟨key.octets, [1], some 15⟩ _ listed
    (lasts _ (List.mem_cons_of_mem _ (List.mem_singleton_self _))) key rfl
  obtain ⟨⟨sweep, made, noted, amid, published, _⟩, unbroken, _⟩ := dealt
  have past : Unbroken caller [⟨[7], [7], some 15⟩] begun :=
    unbroken fun other among => lasts other (List.mem_cons.mpr (Or.inl (List.mem_singleton.mp among)))
  let turn := begun.republishBy caller [⟨[7], [7], some 15⟩]
  have route : turn.node.neighbours key turn.node.width ≠ [] := by
    rw [Ne, ← List.isEmpty_iff]
    decide +kernel
  exact ⟨sound, hoarder_undergoes, active, lagging_undergoes, ahead, refreshed, sweep, made, noted,
    amid, published ⟨past, route⟩⟩

/-- The third item expires before its turn, and although the fourth can still be read when the refresh is
over, and the one contact has answered every call, no call is made for its key. -/
theorem expired_item_ends_sweep :
    let after := hoarder.refresh lagging fun _ => 77
    let calls := (Operation.refresh fun _ => 77).calls lagging hoarder
    let key := Ident.ofNat 3
    Undergoes (fresh Settings.default) hoarder ∧ hoarder.node.active = true ∧
      hoarder.node.table.live.map Contact.id = [Ident.ofNat 6] ∧
      (∀ call ∈ calls, call.called ≠ .failed) ∧
      (hoarder.node.store.get hoarder.clock key.octets).1 = some [3] ∧
      (hoarder.node.store.get after.clock key.octets).1 = some [3] ∧
      ∀ call ∈ calls, ¬call.query.Publishes key := by
  intro after calls key
  refine ⟨hoarder_undergoes, ?_⟩
  decide +kernel

end Scene
end XorOverlay
