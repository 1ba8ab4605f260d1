import Mathlib
import XorOverlay.Proofs.Exchange.Routes
import XorOverlay.Proofs.Node.Publishing

/-!
What the quorum is told. Beside whatever a node goes through a record is kept of the reports that are
due: one for each write that came back, with its success, one for each read that had to search, with
success if it brought a value, and none for anything else. The quorum at any time is what comes of
these reports, in their order, and nothing else. A write comes back exactly if there is room for the
contacts it is to begin with; one that breaks off is never heard of.
-/

namespace XorOverlay

set_option autoImplicit false

/-- What is told to the quorum: the time, how long it took, and whether it succeeded. -/
structure Report where
  now : Nanoseconds
  latency : Nanoseconds
  success : Bool
  deriving DecidableEq

/-- A quorum after some reports. -/
def Quorum.after (reports : List Report) (quorum : Quorum) : Quorum :=
  reports.foldl (fun quorum report => quorum.record report.now report.latency report.success) quorum

theorem Quorum.after_append (first second : List Report) (quorum : Quorum) :
    quorum.after (first ++ second) = (quorum.after first).after second :=
  List.foldl_append

/-- What a report adds to the failures. -/
theorem Quorum.record_failures (now latency : Nanoseconds) (success : Bool) (quorum : Quorum) :
    (quorum.record now latency success).failures =
      if success then quorum.failures - 1 else quorum.failures + 1 := by
  unfold Quorum.record
  dsimp only
  split_ifs <;> simp_all [Quorum.note, Quorum.adjust]

/-- The failures are one more for every report of a failure, and one less, but not below zero, for
every report of a success. -/
theorem Quorum.after_failures (reports : List Report) (quorum : Quorum) :
    (quorum.after reports).failures = reports.foldl
      (fun failures report => if report.success then failures - 1 else failures + 1)
      quorum.failures := by
  induction reports generalizing quorum with
  | nil => rfl
  | cons report reports ih =>
      have recorded := Quorum.record_failures report.now report.latency report.success quorum
      rw [List.foldl_cons, ← recorded]
      exact ih _

namespace Scene

variable {ε : Type}

/-- What a read that has to search begins with: the key is not in the node's own store, and there are
neighbours to ask. -/
def Searches (key : String) (scene : Scene ε) : Prop :=
  (scene.node.store.get scene.clock (Ident.digest key).octets).1 = none ∧
    scene.node.neighbours (Ident.digest key) scene.node.width ≠ []

instance (key : String) (scene : Scene ε) : Decidable (scene.Searches key) :=
  inferInstanceAs (Decidable (_ ∧ _))

end Scene

namespace Operation

variable {ε : Type}

/-- The report of a write that was begun at some time, if the write came back. -/
def writeReports (begun : Nanoseconds) : Option Bool × Scene ε → List Report
  | (some success, after) => [⟨after.clock, after.clock - begun, success⟩]
  | (none, _) => []

/-- The reports that are due for an operation. -/
def reports (carrier : Carrier ε) (scene : Scene ε) : Operation → List Report
  | .set key value => writeReports scene.clock (scene.set? carrier key value)
  | .delete key => writeReports scene.clock (scene.delete? carrier key)
  | .get key =>
    if scene.Searches key then
      let (value, after) := scene.get carrier key
      [⟨after.clock, after.clock - scene.clock, value.isSome⟩]
    else []
  | _ => []

end Operation

namespace Scene

variable {ε : Type} {carrier : Carrier ε} {scene : Scene ε} {inv : Quorum → ε → Prop}

/-- Something holds of the quorum and the surroundings. -/
def Tallied (inv : Quorum → ε → Prop) (scene : Scene ε) : Prop :=
  inv scene.node.quorum scene.outside

/-- A read of a key that the node keeps is answered at once; an empty value marks a deleted key. -/
theorem get_own {key : String} {value : Octets}
    (own : (scene.node.store.get scene.clock (Ident.digest key).octets).1 = some value) :
    scene.get? carrier key =
      (some (if value.isEmpty then none else some value),
        (scene.readOwn (Ident.digest key)).2) := by
  have read : (scene.readOwn (Ident.digest key)).1 = some value := own
  rw [get?]
  simp only [read]

/-- A read that has to search and has no room for it is broken off. -/
theorem get_breaks_off {key : String}
    (lacking : (scene.node.store.get scene.clock (Ident.digest key).octets).1 = none)
    (narrow : scene.node.canGather scene.node.width = false) :
    scene.get? carrier key = (none, (scene.readOwn (Ident.digest key)).2) := by
  let read := (scene.readOwn (Ident.digest key)).2
  have own : (scene.readOwn (Ident.digest key)).1 = none := lacking
  have nowhere : read.node.neighbours? (Ident.digest key) read.node.width = none :=
    if_neg (Bool.eq_false_iff.mp narrow)
  rw [get?]
  simp only [own, read, nowhere]

/-- A read that has to search and has no contacts to begin with finds nothing. -/
theorem get_unrouted {key : String}
    (lacking : (scene.node.store.get scene.clock (Ident.digest key).octets).1 = none)
    (unrouted : scene.node.neighbours? (Ident.digest key) scene.node.width = some []) :
    scene.get? carrier key = (some none, (scene.readOwn (Ident.digest key)).2) := by
  let read := (scene.readOwn (Ident.digest key)).2
  have own : (scene.readOwn (Ident.digest key)).1 = none := lacking
  have nobody : read.node.neighbours? (Ident.digest key) read.node.width = some [] := unrouted
  rw [get?]
  simp only [own, read, nobody]
  rfl

section Reporting

variable (carries : ∀ scene dest request, Tallied inv scene →
  Tallied inv (carrier scene dest request).2)
include carries

/-- What is kept of quorum and surroundings while requests are under way, calls keep. -/
theorem call_tallied (scene : Scene ε) (dest : Contact) (query : Query)
    (tallied : Tallied inv scene) : Tallied inv (scene.call carrier dest query).2 := by
  refine call_retains carries (fun _ _ tallied => tallied) ?_ (fun _ _ tallied => tallied) tallied
    dest query
  intro scene peer welcomed tallied taken
  rcases Node.welcome_cases taken with rfl | ⟨pushed, _, rfl⟩
  · exact tallied
  · exact tallied

variable (tallied : Tallied inv scene)
include tallied

/-- A write reports once, at its end, if it has one. -/
theorem set_reports (key : String) (value : Octets) :
    ∃ before, inv before (scene.set carrier key value).2.outside ∧
      (scene.set carrier key value).2.node.quorum =
        before.after ((Operation.set key value).reports carrier scene) := by
  have published := publish_keeps (call_tallied carries) (Ident.digest key) value
    (fun _ tallied => tallied) tallied
  rw [← publish_by_call] at published
  rw [Operation.reports, set]
  cases gathers : scene.node.canGather scene.node.width with
  | false =>
      rw [set_breaks_off carrier scene key value gathers]
      exact ⟨_, tallied, rfl⟩
  | true =>
      rw [set_of_room carrier scene key value gathers]
      exact ⟨_, published, rfl⟩

/-- A read reports once if it searches, and otherwise not at all. -/
theorem get_reports (key : String) :
    ∃ before, inv before (scene.get carrier key).2.outside ∧
      (scene.get carrier key).2.node.quorum =
        before.after ((Operation.get key).reports carrier scene) := by
  have silent : ¬ scene.Searches key → (Operation.get key).reports carrier scene = [] :=
    fun idle => if_neg idle
  cases own : (scene.node.store.get scene.clock (Ident.digest key).octets).1 with
  | some value =>
      have idle : ¬ scene.Searches key := fun searches => by
        rw [searches.1] at own
        cases own
      rw [silent idle, get, get_own own]
      exact ⟨_, tallied, rfl⟩
  | none =>
      by_cases nowhere : scene.node.neighbours (Ident.digest key) scene.node.width = []
      · rw [silent fun searches => searches.2 nowhere, get_searches carrier own]
        dsimp only
        rw [if_pos nowhere]
        exact ⟨_, tallied, rfl⟩
      · have read : Tallied inv (scene.readOwn (Ident.digest key)).2 := tallied
        have searched := lookup_value_keeps (call_tallied carries) (fun _ _ tallied => tallied) read
          (Ident.digest key) (scene.node.neighbours (Ident.digest key) scene.node.width)
        have searches : scene.Searches key := ⟨own, nowhere⟩
        rw [Operation.reports, if_pos searches, get_searches carrier own]
        dsimp only
        rw [if_neg nowhere, lookup_value_eq]
        unfold lookupValueBy at searched
        generalize searchValue _ _ _ _ = found at searched ⊢
        exact ⟨found.2.node.quorum, searched, rfl⟩

/-- What is kept while requests are under way is kept by an operation but for the reports that are
due for it; these come at its end. -/
theorem run_reports (operation : Operation) :
    ∃ before, inv before (operation.run carrier scene).outside ∧
      (operation.run carrier scene).node.quorum =
        before.after (operation.reports carrier scene) := by
  have calls := call_tallied carries
  cases operation with
  | set key value => exact set_reports carries tallied key value
  | delete key => exact set_reports carries tallied key []
  | get key => exact get_reports carries tallied key
  | bootstrap seeds =>
      have joined := bootstrap_keeps calls tallied seeds
      rw [← bootstrap_by_call] at joined
      exact ⟨_, joined, rfl⟩
  | refresh draw =>
      have refreshed := refresh_keeps calls draw (fun tallied => tallied)
        (fun _ _ _ _ _ _ _ _ tallied _ => tallied) tallied
      rw [← refresh_by_call] at refreshed
      exact ⟨_, refreshed, rfl⟩
  | errand =>
      have ran := run_errand_keeps calls (fun _ tallied => tallied) tallied
      rw [← run_errand_by_call] at ran
      exact ⟨_, ran, rfl⟩

end Reporting

/-- An operation has ended, and its reports have been taken down. -/
def filed (reports : List Report) (scene : Scene (ε × List Report)) : Scene (ε × List Report) :=
  { scene with outside := (scene.outside.1, scene.outside.2 ++ reports) }

/-- Whatever may happen to a node, with a record of the reports that are due for what it does: nothing
for requests and for operations that are broken off while one of their requests is under way, and for
those that end what is due for them. -/
inductive Recorded : Scene (ε × List Report) → Scene (ε × List Report) → Prop where
  | still (scene : Scene (ε × List Report)) : Recorded scene scene
  | asked {first second : Scene (ε × List Report)} (source : Endpoint) (request : Request) :
      Recorded first second → Recorded first (second.receive source request).2
  | elapse {first second : Scene (ε × List Report)} (clock : Nanoseconds) (outside : ε) :
      Recorded first second → Recorded first ⟨second.node, clock, (outside, second.outside.2)⟩
  | operate {first second : Scene (ε × List Report)} (operation : Operation)
      (carrier : Carrier (ε × List Report)) :
      (∀ scene dest request, Recorded scene (carrier scene dest request).2) →
      Recorded first second → Recorded first
        ((operation.run carrier second).filed (operation.reports carrier second))
  | halt {first second stage : Scene (ε × List Report)} (operation : Operation)
      (carrier : Carrier (ε × List Report)) :
      (∀ scene dest request, Recorded scene (carrier scene dest request).2) →
      stage ∈ operation.sendings carrier second →
      Recorded first second → Recorded first stage
  | kill {first second : Scene (ε × List Report)} : Recorded first second →
      Recorded first (second.mapNode Node.kill)

/-- The quorum is what comes of the reports that were taken down. -/
def Accounted (start : Quorum) (quorum : Quorum) (outside : ε × List Report) : Prop :=
  quorum = start.after outside.2

/-- A request is nothing that the quorum is told of. -/
theorem handle_quorum (now : Nanoseconds) (source : Endpoint) (request : Request) (node : Node) :
    (node.handle now source request).2.quorum = node.quorum := by
  unfold Node.handle
  cases taken : node.welcome? now ⟨request.sender.id, some source⟩ with
  | none => rfl
  | some welcomed =>
      obtain ⟨store, left⟩ := Node.reply_store now request.sender.id request.query welcomed
      show (welcomed.reply now request.sender.id request.query).2.quorum = node.quorum
      rw [left]
      rcases Node.welcome_cases taken with rfl | ⟨pushed, _, rfl⟩
      · rfl
      · rfl

theorem recorded_accounted {first second : Scene (ε × List Report)} {start : Quorum}
    (recorded : Recorded first second) (accounted : Tallied (Accounted start) first) :
    Tallied (Accounted start) second := by
  induction recorded with
  | still scene => exact accounted
  | @asked _ second source request _ ih =>
      unfold receive
      split_ifs
      · exact (handle_quorum second.clock source request second.node).trans (ih accounted)
      · exact ih accounted
  | elapse clock outside _ ih => exact ih accounted
  | operate operation carrier _ _ carried ih =>
      obtain ⟨before, due, told⟩ := run_reports
        (fun scene dest request tallied => carried scene dest request tallied) (ih accounted)
        operation
      rw [Accounted] at due
      rw [Tallied, Accounted, filed, Quorum.after_append, ← due]
      exact told
  | @halt first second stage operation carrier _ sent _ carried ih =>
      -- What an operation keeps, it keeps of the scenes in which it sends its requests.
      let taken : Quorum → (ε × List Report) × List (Scene (ε × List Report)) → Prop :=
        fun quorum outside => Accounted start quorum outside.1 ∧
          ∀ sending ∈ outside.2, Tallied (Accounted start) sending
      have traced : ∀ scene dest request, Tallied taken scene →
          Tallied taken (carrier.traced scene dest request).2 := by
        rintro scene dest request ⟨held, before⟩
        exact ⟨carried _ dest request held, List.forall_mem_cons.mpr ⟨held, before⟩⟩
      obtain ⟨_, kept, _⟩ := @run_reports _ carrier.traced
        ⟨second.node, second.clock, (second.outside, [])⟩ taken traced ⟨ih accounted, nofun⟩
        operation
      exact kept.2 stage sent
  | kill _ ih => exact ih accounted

/-- A read never brings an empty value. -/
theorem get_not_empty (carrier : Carrier ε) (scene : Scene ε) (key : String) :
    (scene.get carrier key).1 ≠ some [] := by
  cases own : (scene.node.store.get scene.clock (Ident.digest key).octets).1 with
  | some value =>
      rw [get, get_own own]
      cases value with
      | nil => simp
      | cons octet rest => simp
  | none =>
      rw [get_searches carrier own]
      dsimp only
      split_ifs
      · exact (Option.some_ne_none []).symm
      · intro brought
        have kept := (Option.filter_eq_some_iff.mp brought).2
        cases kept

/-- What is told of a write. With room for the contacts it is to begin with it comes back, and its
success is reported; otherwise it breaks off, and nothing is sent and nothing reported. -/
structure WriteTold (carrier : Carrier ε) (scene : Scene ε) (write : Operation)
    (outcome : Option Bool × Scene ε) : Prop where
  roomy : scene.node.canGather scene.node.width = true → ∃ success after,
    outcome = (some success, after) ∧
      write.reports carrier scene = [⟨after.clock, after.clock - scene.clock, success⟩]
  narrow : scene.node.canGather scene.node.width = false →
    outcome = (none, scene) ∧ write.sendings carrier scene = [] ∧
      write.reports carrier scene = []

/-- A read comes to an answer without sending or reporting anything, and leaves the quorum alone. -/
structure Silent (carrier : Carrier ε) (scene : Scene ε) (key : String)
    (answer : Option (Option Octets)) : Prop where
  answered : (scene.get? carrier key).1 = answer
  unsent : (Operation.get key).sendings carrier scene = []
  unreported : (Operation.get key).reports carrier scene = []
  quorum : (scene.get? carrier key).2.node.quorum = scene.node.quorum

/-- What is told of a read. One that searches comes back, and is reported with success if it brings a
value. One that has the key at hand, be it deleted, one without a route and one that breaks off for
want of room are silent. No read brings an empty value. -/
structure ReadTold (carrier : Carrier ε) (scene : Scene ε) (key : String) : Prop where
  filled : (scene.get carrier key).1 ≠ some []
  own : ∀ value, (scene.node.store.get scene.clock (Ident.digest key).octets).1 = some value →
    Silent carrier scene key (some (if value = [] then none else some value))
  searched : scene.Searches key → ∃ value after, scene.get? carrier key = (some value, after) ∧
    (Operation.get key).reports carrier scene =
      [⟨after.clock, after.clock - scene.clock, value.isSome⟩]
  unrouted : (scene.node.store.get scene.clock (Ident.digest key).octets).1 = none →
    scene.node.neighbours? (Ident.digest key) scene.node.width = some [] →
    Silent carrier scene key (some none)
  narrow : (scene.node.store.get scene.clock (Ident.digest key).octets).1 = none →
    scene.node.canGather scene.node.width = false → Silent carrier scene key none

theorem write_told (carrier : Carrier ε) (scene : Scene ε) (key : String) (value : Octets) :
    WriteTold carrier scene (.set key value) (scene.set? carrier key value) where
  roomy := by
    intro room
    refine ⟨_, _, set_of_room carrier scene key value room, ?_⟩
    rw [Operation.reports, set_of_room carrier scene key value room]
    rfl
  narrow := by
    intro narrow
    have broken := set_breaks_off carrier scene key value narrow
    refine ⟨broken, ?_, ?_⟩
    · show (set carrier.traced key value _).2.outside.2 = []
      rw [set, set_breaks_off carrier.traced _ key value narrow]
    · rw [Operation.reports, broken]
      rfl

/-- To delete a key is to write an empty value. -/
theorem removal_told (carrier : Carrier ε) (scene : Scene ε) (key : String) :
    WriteTold carrier scene (.delete key) (scene.delete? carrier key) :=
  have told := write_told carrier scene key []
  ⟨told.roomy, told.narrow⟩

theorem read_told (carrier : Carrier ε) (scene : Scene ε) (key : String) :
    ReadTold carrier scene key := by
  -- Whoever sends nothing ends as it begins, but for what it has read in its own store.
  let bare : Scene (ε × List (Scene ε)) := ⟨scene.node, scene.clock, (scene.outside, [])⟩
  have silent : ∀ answer, ¬ scene.Searches key →
      scene.get? carrier key = (answer, (scene.readOwn (Ident.digest key)).2) →
      bare.get? carrier.traced key = (answer, (bare.readOwn (Ident.digest key)).2) →
      Silent carrier scene key answer := by
    intro answer idle read traced
    refine ⟨by rw [read], ?_, if_neg idle, by rw [read]; rfl⟩
    show (bare.get carrier.traced key).2.outside.2 = []
    rw [get, traced]
    rfl
  refine ⟨get_not_empty carrier scene key, ?_, ?_, ?_, ?_⟩
  · intro value own
    have idle : ¬ scene.Searches key := by
      intro searches
      rw [searches.1] at own
      cases own
    simp only [← List.isEmpty_iff]
    exact silent _ idle (get_own own) (get_own own)
  · intro searches
    have room : scene.node.canGather scene.node.width = true := by
      by_contra narrow
      apply searches.2
      rw [Node.neighbours_eq, if_neg narrow]
    exact ⟨_, _, get_of_room carrier scene key room, if_pos searches⟩
  · intro lacking unrouted
    have idle : ¬ scene.Searches key := by
      intro searches
      apply searches.2
      rw [Node.neighbours, unrouted]
      rfl
    exact silent _ idle (get_unrouted lacking unrouted) (get_unrouted lacking unrouted)
  · intro lacking narrow
    have idle : ¬ scene.Searches key := by
      intro searches
      apply searches.2
      rw [Node.neighbours_eq, if_neg (Bool.eq_false_iff.mp narrow)]
    exact silent _ idle (get_breaks_off lacking narrow) (get_breaks_off lacking narrow)

/-- Whatever a node goes through from its start, its quorum is what comes of the reports that were
due: one for each write that came back, with its success and also if there was no route, and one for
each read that searched, with success if it brought a value. All other reads, joining, refreshing,
errands and requests left it alone. So the failures count one more for each failure, and one less, but
not below zero, for each success. A write comes back, and is reported, exactly if there is room to
gather the contacts it is to begin with; it has not sent anything otherwise. A read never brings an
empty value, and one that has the key at hand, be it deleted, one without a route and one that breaks off
for want of room send nothing and tell the quorum nothing. -/
theorem quorum_hears_results (settings : Settings) (id : Ident) (endpoint : Endpoint)
    (store : Store) (now clock : Nanoseconds) (outside : ε) {scene : Scene (ε × List Report)}
    (recorded : Recorded ⟨Node.start settings id endpoint store now, clock, (outside, [])⟩ scene) :
    scene.node.quorum =
        (Node.start settings id endpoint store now).quorum.after scene.outside.2 ∧
      scene.node.quorum.failures = scene.outside.2.foldl
        (fun failures report => if report.success then failures - 1 else failures + 1) 0 ∧
      (∀ carrier key value,
        WriteTold carrier scene (.set key value) (scene.set? carrier key value)) ∧
      (∀ carrier key, WriteTold carrier scene (.delete key) (scene.delete? carrier key)) ∧
      ∀ carrier key, ReadTold carrier scene key := by
  have accounted : scene.node.quorum =
      (Node.start settings id endpoint store now).quorum.after scene.outside.2 :=
    recorded_accounted recorded rfl
  refine ⟨accounted, ?_, fun carrier => write_told carrier scene,
    fun carrier => removal_told carrier scene, fun carrier => read_told carrier scene⟩
  rw [accounted, Quorum.after_failures]
  rfl

/-- No request is ever answered. -/
def unanswered : Carrier ε :=
  fun scene _ _ => (.error .timedOut, scene)

/-- A node whose only contact never answers. Writing fails for want of a route, and so does a read,
which is not reported; once the contact is known, joining, a read that searches, and a read that has a
deleted key at hand. -/
theorem failures_are_reported_results :
    let first : Scene (Unit × List Report) := ⟨Node.start Settings.default (Ident.ofNat 5)
      (.v4 0x7F000001 5) (.adaptive (.empty 2)) 0, 0, ((), [])⟩
    let run (operation : Operation) (scene : Scene (Unit × List Report)) :=
      (operation.run unanswered scene).filed (operation.reports unanswered scene)
    let delivered (query : Query) (scene : Scene (Unit × List Report)) :=
      (scene.receive (.v4 0x7F000001 6) ⟨1, ⟨Ident.ofNat 6, none⟩, query⟩).2
    let cut := run (.get "a") (run (.set "a" [1]) first)
    let told := delivered (.store (Ident.digest "b").octets []) cut
    let scene := run (.get "b") (run (.get "c") (run (.bootstrap []) told))
    Recorded first scene ∧ scene.outside.2 = [⟨0, 0, false⟩, ⟨0, 0, false⟩] ∧
      scene.node.quorum.failures = 2 ∧ (scene.get? unanswered "b").1 = some none ∧
      (Operation.get "b").sendings unanswered scene = [] := by
  intro first run delivered cut told scene
  have still : ∀ (scene : Scene (Unit × List Report)) (dest : Endpoint) (request : Request),
      Recorded scene (unanswered scene dest request).2 :=
    fun scene _ _ => .still scene
  have recorded : Recorded first scene :=
    .operate (.get "b") unanswered still (.operate (.get "c") unanswered still
      (.operate (.bootstrap []) unanswered still (.asked _ _ (.operate (.get "a") unanswered still
        (.operate (.set "a" [1]) unanswered still (.still first))))))
  obtain ⟨_, failures, _, _, reads⟩ := quorum_hears_results Settings.default (Ident.ofNat 5)
    (.v4 0x7F000001 5) (.adaptive (.empty 2)) 0 0 () recorded
  have log : scene.outside.2 = [⟨0, 0, false⟩, ⟨0, 0, false⟩] := by
    decide +kernel
  have deleted : (scene.node.store.get scene.clock (Ident.digest "b").octets).1 = some [] := by
    decide +kernel
  have own := (reads unanswered "b").own [] deleted
  refine ⟨recorded, log, ?_, own.answered, own.unsent⟩
  rw [failures, log]
  rfl

/-- A node whose lists of contacts are of the largest power of two for which there is no room, and who
knows nobody. Its write fails for want of a route anywhere else, and counts as a failure; here it breaks
off, and is not reported. -/
theorem oversized_write_unreported :
    let first : Scene (Unit × List Report) := ⟨Node.start { Settings.default with
      width := 2 ^ 61, room := some Settings.addressableRoom } (Ident.ofNat 5)
      (.v4 0x7F000001 5) (.expiring (Expiring.empty Expiring.defaultLifetime)) 0, 0, ((), [])⟩
    let write : Operation := .set "k" [118]
    let scene := (write.run unanswered first).filed (write.reports unanswered first)
    Recorded first scene ∧ (first.set? unanswered "k" [118]).1 = none ∧
      scene.outside.2 = [] ∧ scene.node.quorum.failures = 0 := by
  intro first write scene
  refine ⟨.operate write unanswered (fun scene _ _ => .still scene) (.still first), ?_, ?_, ?_⟩
  · decide +kernel
  · decide +kernel
  · decide +kernel

end Scene
end XorOverlay
