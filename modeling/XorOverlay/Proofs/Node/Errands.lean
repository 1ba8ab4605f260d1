import Mathlib
import XorOverlay.Proofs.Node.Ledger
import XorOverlay.Proofs.Node.Requests
import XorOverlay.Proofs.Node.Upkeep

/-!
What errands send. A carrier can take down what it is handed, beside the surroundings it acts on, and
nothing goes another way for it. An errand hands it one query, to store a value at a contact; and
errands are run in the order in which they came up, whatever others come up meanwhile.
-/

namespace XorOverlay

set_option autoImplicit false

/-- A query sent to an endpoint. -/
structure Posting where
  dest : Endpoint
  query : Query
  deriving DecidableEq

/-- Goes by a carrier, and takes down what is sent where, first to last. -/
def Carrier.posted {ε : Type} (carrier : Carrier ε) : Carrier (ε × List Posting) :=
    fun scene dest request =>
  let (answer, later) := carrier scene.erased dest request
  (answer, ⟨later.node, later.clock, (later.outside, scene.outside.2 ++ [⟨dest, request.query⟩])⟩)

/-- While a request is under way errands may come up, but none is done. -/
def Carrier.Adds {ε : Type} (carrier : Carrier ε) : Prop :=
  ∀ scene dest request, scene.node.errands <+: (carrier scene dest request).2.node.errands

/-- What an errand sends, if its contact can be sent to. -/
def Errand.posting? (errand : Errand) : Option Posting :=
  errand.dest.endpoint.map fun endpoint => ⟨endpoint, .store errand.key errand.value⟩

theorem Node.welcome_queues {node welcomed : Node} {now : Nanoseconds} {peer : Contact}
    (taken : node.welcome? now peer = some welcomed) : node.errands <+: welcomed.errands := by
  rcases welcome_cases taken with rfl | ⟨pushed, _, rfl⟩
  · exact List.prefix_rfl
  · exact List.prefix_append _ _

namespace Scene

variable {ε : Type}

/-- So many errands run, and what is sent meanwhile taken down. -/
def runPosted (carrier : Carrier ε) (count : Nat) (scene : Scene ε) : Scene (ε × List Posting) :=
  runErrands carrier.posted count ⟨scene.node, scene.clock, (scene.outside, [])⟩

/-- What is sent, first to last, while so many errands are run. -/
def posts (carrier : Carrier ε) (count : Nat) (scene : Scene ε) : List Posting :=
  (scene.runPosted carrier count).outside.2

theorem run_errands_idle (carrier : Carrier ε) (count : Nat) {scene : Scene ε}
    (none : scene.node.errands = []) : scene.runErrands carrier count = scene := by
  cases count with
  | zero => rfl
  | succ count => rw [runErrands, none, List.isEmpty_nil, if_pos rfl]

theorem run_errands_busy (carrier : Carrier ε) (count : Nat) {scene : Scene ε} {errand : Errand}
    {rest : List Errand} (due : scene.node.errands = errand :: rest) :
    scene.runErrands carrier (count + 1) = (scene.runErrand carrier).runErrands carrier count := by
  rw [runErrands, due, List.isEmpty_cons, if_neg Bool.false_ne_true]

section Posted

variable (carrier : Carrier ε) {scene : Scene (ε × List Posting)}

/-- A call hands its query to the carrier once, for the endpoint of its contact, and comes to what it
comes to if nothing is taken down. -/
theorem call_posted (dest : Contact) (query : Query) :
    (scene.call carrier.posted dest query).2.erased = (scene.erased.call carrier dest query).2 ∧
      (scene.call carrier.posted dest query).2.outside.2 = scene.outside.2 ++
        (dest.endpoint.map fun endpoint => (⟨endpoint, query⟩ : Posting)).toList := by
  unfold call
  cases dest.endpoint with
  | none => exact ⟨rfl, (List.append_nil _).symm⟩
  | some endpoint =>
      dsimp only [Carrier.posted, erased, mapNode]
      generalize carrier _ endpoint _ = carried
      obtain ⟨answer, later⟩ := carried
      cases answer with
      | error failure => exact ⟨rfl, rfl⟩
      | ok response =>
          dsimp only
          cases later.node.welcome? later.clock _ with
          | none => exact ⟨rfl, rfl⟩
          | some welcomed => exact ⟨rfl, rfl⟩

theorem run_errand_erased :
    (scene.runErrand carrier.posted).erased = scene.erased.runErrand carrier := by
  have same : scene.erased.node.errands = scene.node.errands := rfl
  rw [runErrand, runErrand, same]
  cases scene.node.errands with
  | nil => rfl
  | cons errand rest => exact (call_posted carrier errand.dest _).1

/-- An errand that is run sends what it has to send, and nothing else. -/
theorem run_errand_posted {errand : Errand} {rest : List Errand}
    (due : scene.node.errands = errand :: rest) :
    (scene.runErrand carrier.posted).outside.2 =
      scene.outside.2 ++ errand.posting?.toList := by
  rw [runErrand, due]
  exact (call_posted carrier errand.dest _).2

/-- Nothing goes another way for being taken down. -/
theorem run_errands_erased (count : Nat) :
    (scene.runErrands carrier.posted count).erased = scene.erased.runErrands carrier count := by
  induction count generalizing scene with
  | zero => rfl
  | succ count ih =>
      have same : scene.erased.node.errands = scene.node.errands := rfl
      cases errands : scene.node.errands with
      | nil =>
          rw [run_errands_idle _ _ errands, run_errands_idle _ _ (same.trans errands)]
      | cons errand rest =>
          rw [run_errands_busy _ _ errands, run_errands_busy _ _ (same.trans errands), ih,
            run_errand_erased]

/-- What has been sent stays sent, however many more errands are run. -/
theorem run_errands_grow {fewer more : Nat} (le : fewer ≤ more) :
    (scene.runErrands carrier.posted fewer).outside.2 <+:
      (scene.runErrands carrier.posted more).outside.2 := by
  induction more generalizing scene fewer with
  | zero => exact Nat.le_zero.mp le ▸ List.prefix_rfl
  | succ more ih =>
      cases errands : scene.node.errands with
      | nil =>
          rw [run_errands_idle _ _ errands, run_errands_idle _ _ errands]
      | cons errand rest =>
          rw [run_errands_busy _ more errands]
          cases fewer with
          | zero =>
              have posted := run_errand_posted carrier errands
              have begins : scene.outside.2 <+: (scene.runErrand carrier.posted).outside.2 :=
                posted ▸ List.prefix_append _ _
              exact begins.trans (ih (Nat.zero_le more))
          | succ fewer =>
              rw [run_errands_busy _ fewer errands]
              exact ih (Nat.le_of_succ_le_succ le)

end Posted

variable {carrier : Carrier ε}

/-- When an errand has been run, those that are left come first. -/
theorem run_errand_queue (adds : carrier.Adds) {scene : Scene ε} {errand : Errand}
    {rest : List Errand} (due : scene.node.errands = errand :: rest) :
    rest <+: (scene.runErrand carrier).node.errands := by
  let queued : Scene ε → Prop := fun scene => rest <+: scene.node.errands
  have carries : ∀ scene dest request, queued scene → queued (carrier scene dest request).2 :=
    fun scene dest request begins => begins.trans (adds scene dest request)
  have welcomes : ∀ (scene : Scene ε) peer node, queued scene →
      scene.node.welcome? scene.clock peer = some node → queued { scene with node := node } :=
    fun _ _ _ begins taken => begins.trans (Node.welcome_queues taken)
  have start : queued (scene.mapNode fun node => { node with errands := rest }) := List.prefix_rfl
  rw [runErrand, due]
  exact call_retains carries (fun _ _ begins => begins) welcomes (fun _ _ begins => begins) start
    errand.dest _

theorem posted_adds (adds : carrier.Adds) : carrier.posted.Adds :=
  fun scene dest request => adds scene.erased dest request

/-- The errands a node has are run in their order, whatever comes up meanwhile. -/
theorem run_errands_posted (adds : carrier.Adds) {queue : List Errand}
    {scene : Scene (ε × List Posting)} (due : queue <+: scene.node.errands) :
    (scene.runErrands carrier.posted queue.length).outside.2 =
      scene.outside.2 ++ queue.filterMap Errand.posting? := by
  induction queue generalizing scene with
  | nil => exact (List.append_nil _).symm
  | cons errand queue ih =>
      obtain ⟨rest, errands⟩ := due
      have left := run_errand_queue (posted_adds adds) errands.symm
      rw [List.length_cons, run_errands_busy _ _ errands.symm,
        ih ((List.prefix_append _ _).trans left), run_errand_posted carrier errands.symm]
      cases sends : errand.posting? with
      | none => simp [sends]
      | some posting => simp [sends]

/-- A scene with one more errand, after those it has. -/
def order (errand : Errand) (scene : Scene ε) : Scene ε :=
  scene.mapNode fun node => { node with errands := node.errands ++ [errand] }

/-- An errand that has been ordered is sent as one posting. -/
structure Sends (carrier : Carrier ε) (scene : Scene ε) (errand : Errand) (posting : Posting) :
    Prop where
  /-- When it is the errand's turn, that is sent and nothing else. -/
  alone : ∀ (turn : Scene ε) (rest : List Errand), turn.node.errands = errand :: rest →
    turn.posts carrier 1 = [posting]
  /-- Its turn comes after the errands there were, if no errand is done while others are run. -/
  inTurn : carrier.Adds → (scene.order errand).posts carrier (scene.node.errands.length + 1) =
    scene.node.errands.filterMap Errand.posting? ++ [posting]
  settled : carrier.Adds → scene.node.errands.length < errandLimit →
    scene.node.errands.filterMap Errand.posting? ++ [posting] <+:
      (scene.order errand).posts carrier errandLimit
  /-- Nothing goes another way for being taken down. -/
  same : ∀ (turn : Scene ε) (count : Nat),
    (turn.runPosted carrier count).erased = turn.runErrands carrier count

theorem order_sends (carrier : Carrier ε) (scene : Scene ε) {errand : Errand} {posting : Posting}
    (sends : errand.posting? = some posting) : Sends carrier scene errand posting := by
  have inTurn : carrier.Adds →
      (scene.order errand).posts carrier (scene.node.errands.length + 1) =
        scene.node.errands.filterMap Errand.posting? ++ [posting] := by
    intro adds
    let queue := scene.node.errands ++ [errand]
    have run : (scene.order errand).posts carrier queue.length =
        [] ++ queue.filterMap Errand.posting? := run_errands_posted adds List.prefix_rfl
    rw [List.length_append, List.length_singleton] at run
    rw [run, List.nil_append, List.filterMap_append]
    simp [sends]
  refine ⟨?_, inTurn, ?_, fun _ count => run_errands_erased carrier count⟩
  · intro turn rest due
    have run : turn.posts carrier 1 = [] ++ errand.posting?.toList := by
      rw [posts, runPosted, run_errands_busy carrier.posted 0 due]
      exact run_errand_posted carrier due
    rw [run, sends]
    rfl
  · intro adds room
    exact inTurn adds ▸ run_errands_grow carrier room

end Scene
end XorOverlay
