import Uplink.Proofs.Heed
import Uplink.Proofs.Supervisor.Steps

/-! What the supervisor can rely on at each place of its program, so that it misses no signal. -/

namespace Uplink.Supervisor

open Flags (Condition Covers Register Ticket Timeout Wait)

/-! ### What a place stands for -/

/-- The bits of the cloud register that a run has seen raised since the last reset. -/
def Place.seen : Place → UInt32
  | .awaitingReady _ => Cloud.connected
  | .calling .publishShadow | .awaitingDrop _ => Cloud.connected ||| Cloud.ready
  | _ => 0

/-- Whether a run has work to do at a place, whatever happens around it. -/
def Place.works : Place → Prop
  | .starting | .calling _ | .cycleStart => True
  | _ => False

/-- The register, the condition and the wait of a place that waits for bits. -/
def Place.wait? : Place → Option (RegisterName × Condition × Wait)
  | .awaitingNetwork wait => some (.network, .all Network.connected, wait)
  | .awaitingCloud wait => some (.cloud, .any Cloud.connected, wait)
  | .awaitingReady wait => some (.cloud, .any (Cloud.ready ||| Cloud.disconnected), wait)
  | .awaitingDrop wait => some (.cloud, .any Cloud.disconnected, wait)
  | _ => none

/-- A run misses nothing at its place: what it has seen is still there, and its task is awake while there
is work to do or an answer to pick up. -/
structure Place.Vigil (place : Place) (connection : Connection) (awake : Prop) (task : TaskId) : Prop where
  seen : Covers connection.cloud.bits place.seen
  works : place.works → awake
  heeds : ∀ name condition wait, place.wait? = some (name, condition, wait) →
    (connection.register name).Heeds (name = .cloud) awake task condition wait

/-- After a step a run misses nothing: it goes on awake, or sleeps where it may. -/
def Vigilant (task : TaskId) : Stepped → Prop
  | (.next run, supervisor) => run.place.Vigil supervisor.connection True task
  | (.parked run, supervisor) => run.place.Vigil supervisor.connection False task
  | (.done _, _) => True

variable {connection after : Connection} {place : Place} {awake wakes : Prop} {task : TaskId}
  {name : RegisterName} {condition : Condition} {wait : Wait}

/-- What a run waits for is what its place holds. -/
theorem Place.holds_of_wait? (waits : place.wait? = some (name, condition, wait)) {ticket : Ticket}
    (has : wait.Has ticket) : place.Holds name ticket := by
  -- One case for each place that waits.
  cases place <;> cases waits <;> exact ⟨rfl, has⟩

namespace Place.Vigil

/-- A run that is woken for another reason still misses nothing. -/
theorem mono (vigil : place.Vigil connection awake task) (wake : awake → wakes) :
    place.Vigil connection wakes task where
  -- Neither what was seen nor what is held depends on who is awake.
  seen := vigil.seen
  works := fun works => wake (vigil.works works)
  heeds := fun name condition wait waits => (vigil.heeds name condition wait waits).mono wake

/-- A run at a place without a wait misses nothing as long as it works there awake. -/
theorem free (seen : Covers connection.cloud.bits place.seen) (free : place.wait? = none)
    (works : place.works → awake) : place.Vigil connection awake task where
  seen := seen
  works := works
  heeds := by
    -- There is no wait to be heeded.
    intro name condition wait waits
    cases free.symm.trans waits

/-- A run that has seen nothing and does not wait misses nothing as long as it is awake. -/
theorem busy (nothing : place.seen = 0) (free : place.wait? = none) : place.Vigil connection True task :=
  -- The bits that were seen are none, and there is no wait to heed.
  .free (by rw [nothing]; exact UInt32.zero_and) free fun _ => trivial

/-- Others leave a run its signals as long as they do not clear the cloud register. -/
theorem touches {liberty : Liberty} {held : RegisterName → Ticket → Prop} {ready : Prop}
    (vigil : place.Vigil connection (ready ∨ task ∈ connection.woken) task)
    (touches : connection.Touches liberty held after) (keeps : liberty.clears = false)
    (apart : ∀ name ticket, place.Holds name ticket → ¬held name ticket)
    (issued : ∀ name ticket, place.Holds name ticket → ticket < (connection.register name).nextTicket) :
    place.Vigil after (ready ∨ task ∈ after.woken) task where
  seen := (touches.covers keeps).trans vigil.seen
  works := fun works => (vigil.works works).imp_right touches.woken
  -- What the place holds was issued before, and is not among what the others hold.
  heeds := fun name condition wait waits =>
    touches.heeds (fun cloud => ⟨cloud, keeps⟩)
      (fun ticket has => apart name ticket (place.holds_of_wait? waits has))
      (fun ticket has => issued name ticket (place.holds_of_wait? waits has))
      (vigil.heeds name condition wait waits)

end Place.Vigil

/-! ### What a step leaves of the bits -/

/-- Moving to another phase is no matter of the registers. -/
@[simp] theorem advance_cloud (supervisor : Supervisor) (now : Nat) (event : PhaseEvent) :
    (supervisor.advance now event).connection.cloud = supervisor.connection.cloud := by
  -- A move of the phase is logged and counted, whether it leads anywhere or not.
  unfold advance
  split
  · rfl
  · simp only
    split <;> rfl

/-- Beginning a wait raises and clears nothing. -/
@[simp] theorem await_cloud_bits (connection : Connection) (agenda : Agenda) (task : TaskId)
    (name : RegisterName) (condition : Condition) (timeout : Timeout) :
    (connection.await agenda task name condition timeout).2.cloud.bits = connection.cloud.bits := by
  -- Only a wait on the cloud register touches it, and it touches no bits.
  cases name with
  | network | dateTime => rfl
  | cloud => exact Register.wait_bits _ _ _ _ _

/-- Looking after a wait raises and clears nothing. -/
@[simp] theorem poll_cloud_bits (connection : Connection) (agenda : Agenda) (name : RegisterName)
    (wait : Wait) : (connection.poll agenda name wait).2.cloud.bits = connection.cloud.bits := by
  -- Only a wait on the cloud register is looked up there, and the look touches no bits.
  cases name with
  | network | dateTime => rfl
  | cloud => exact Register.poll_bits _ _ _

/-! ### Steps -/

/-- A run that waits has no work to do. -/
theorem Place.not_works_of_wait? (waits : place.wait? = some (name, condition, wait)) : ¬place.works := by
  -- One case for each place.
  cases place <;> first | exact id | cases waits

namespace Place.Vigil

/-- A run that begins to wait misses nothing of what it waits for. -/
theorem begun (agenda : Agenda) {timeout : Timeout} (seen : Covers connection.cloud.bits place.seen)
    (waits : place.wait? = some (name, condition, (connection.await agenda task name condition timeout).1))
    (lasts : timeout ≠ .noWait) :
    place.Vigil (connection.await agenda task name condition timeout).2 True task where
  seen := by simpa using seen
  works := fun works => absurd works (place.not_works_of_wait? waits)
  heeds := by
    -- A place has one wait, the one that has just begun.
    intro name' condition' wait' waits'
    cases waits.symm.trans waits'
    simpa [Connection.await] using
      (connection.register name).heeds_wait agenda task condition lasts

/-- A run whose wait has no answer yet may sleep. -/
theorem sleep (vigil : place.Vigil connection awake task)
    (ordered : ∀ name, (connection.register name).Orderly)
    (waits : place.wait? = some (name, condition, wait))
    {agenda : Agenda} (unanswered : (connection.poll agenda name wait).1 = none) :
    place.Vigil connection False task where
  seen := vigil.seen
  works := fun works => absurd works (place.not_works_of_wait? waits)
  heeds := by
    -- A place has one wait, the one that was looked after.
    intro name' condition' wait' waits'
    cases waits.symm.trans waits'
    exact (vigil.heeds name condition wait waits).sleep (ordered name) unanswered

/-- The answer that a run finds is nothing at all, or bits that the cloud register still has. -/
theorem answer (vigil : place.Vigil connection awake task)
    (ordered : ∀ name, (connection.register name).Orderly) {mask bits : UInt32}
    (waits : place.wait? = some (.cloud, .any mask, wait)) {agenda : Agenda}
    (answered : (connection.poll agenda .cloud wait).1 = some bits) :
    bits = 0 ∨ bits ≠ 0 ∧ bits &&& mask = bits ∧ Covers connection.cloud.bits bits := by
  -- The cloud register is firm, so the answer is there in full.
  have heeds := vigil.heeds .cloud _ wait waits
  rcases heeds.answer (ordered .cloud) answered with none | answers
  · exact .inl none
  · obtain ⟨earlier, met, covers⟩ := answers
    exact .inr (Register.Answers.any ⟨earlier, met, fun _ => covers rfl⟩)

end Place.Vigil

variable {supervisor : Supervisor} {run : Run}

/-- A step that ends with the beginning of a wait misses nothing. -/
theorem vigilant_await (target : Wait → Place) {agenda : Agenda} {timeout : Timeout}
    (waits : ∀ wait, (target wait).wait? = some (name, condition, wait))
    (seen : ∀ wait, Covers connection.cloud.bits (target wait).seen) (lasts : timeout ≠ .noWait) :
    Vigilant task
      ({ supervisor with connection := (connection.await agenda task name condition timeout).2 }.goTo run
        (target (connection.await agenda task name condition timeout).1)) :=
  -- The wait is heeded from its beginning.
  Place.Vigil.begun agenda (seen _) (waits _) lasts

/-- A step of a run misses nothing. -/
theorem step_vigilant (agenda : Agenda) (ordered : ∀ name, (supervisor.connection.register name).Orderly)
    (steps : ∀ request, run.place ≠ .calling request)
    (vigil : run.place.Vigil supervisor.connection True task) :
    Vigilant task (supervisor.step agenda task run) := by
  -- One case for each place; only the two that follow on an answer have seen bits to keep.
  obtain ⟨cycle, place⟩ := run
  cases place with
  | starting => exact Place.Vigil.busy rfl rfl
  | calling request => exact absurd rfl (steps request)
  -- No bit was seen so far.
  | cycleStart =>
    simp only [step, Connection.awaitNetwork]
    exact vigilant_await .awaitingNetwork (fun _ => rfl) (fun _ => UInt32.zero_and) (by simp)
  | awaitingNetwork wait =>
    simp only [step]
    split
    · rename_i unanswered
      exact vigil.sleep ordered rfl (congrArg Prod.fst unanswered)
    · exact Place.Vigil.busy rfl rfl
  | awaitingCloud wait =>
    simp only [step]
    split
    · rename_i unanswered
      exact vigil.sleep ordered rfl (congrArg Prod.fst unanswered)
    · rename_i bits connection answered
      split
      · exact Place.Vigil.busy rfl rfl
      · rename_i some
        -- The one bit that was waited for is still set when the next wait begins.
        have seen : Covers connection.cloud.bits Cloud.connected := by
          have answer := vigil.answer ordered rfl (congrArg Prod.fst answered)
          have kept := poll_cloud_bits supervisor.connection agenda .cloud wait
          obtain ⟨-, within, covers⟩ := answer.resolve_left some
          have whole : bits = Cloud.connected := by
            rcases Flags.single_bit bits (by decide : Cloud.connected.toNat = 2 ^ 1) with none | whole
            · exact absurd (within.symm.trans none) some
            · exact within.symm.trans whole
          rw [answered] at kept
          rw [kept]
          exact whole ▸ covers
        simp only [Connection.awaitReady]
        refine vigilant_await .awaitingReady (fun _ => rfl) (fun _ => ?_) (by simp)
        simpa [Place.seen, Supervisor.log, Supervisor.count, Connection.log, Connection.count] using seen
  | awaitingReady wait =>
    simp only [step]
    split
    · rename_i unanswered
      exact vigil.sleep ordered rfl (congrArg Prod.fst unanswered)
    · rename_i bits connection answered
      split
      · rename_i ready
        -- The ready bit alone is the answer, and the transport has stayed connected.
        have seen : Covers connection.cloud.bits (Cloud.connected ||| Cloud.ready) := by
          have answer := vigil.answer ordered rfl (congrArg Prod.fst answered)
          have kept := poll_cloud_bits supervisor.connection agenda .cloud wait
          obtain ⟨-, -, covers⟩ := answer.resolve_left (by simp [ready, Cloud.ready])
          rw [answered] at kept
          rw [kept]
          exact vigil.seen.join (ready ▸ covers)
        refine .free ?_ rfl fun _ => trivial
        simpa [Place.seen, indicate, Supervisor.log, Supervisor.count, Connection.log, Connection.count]
          using seen
      · exact Place.Vigil.busy rfl rfl
  | awaitingDrop wait =>
    simp only [step]
    split
    · rename_i unanswered
      exact vigil.sleep ordered rfl (congrArg Prod.fst unanswered)
    · exact Place.Vigil.busy rfl rfl
  -- Over the pauses nothing has to be kept.
  | settling due | backingOff due =>
    simp only [step]
    split
    · exact Place.Vigil.busy rfl rfl
    · exact .free vigil.seen rfl id

/-- Going on with a reply misses nothing. -/
theorem resume_vigilant (agenda : Agenda) {request : Request} (calls : run.place = .calling request)
    (vigil : run.place.Vigil supervisor.connection True task) (reply : request.Reply) :
    Vigilant task (supervisor.resume agenda task run request reply) := by
  -- One case for each request; after most replies the run just goes on awake.
  cases request with
  | registerClock | disconnectCloud => exact Place.Vigil.busy rfl rfl
  | modemInit | requestPsm | enableEvents | connectNetwork =>
    cases reply with
    | error error => exact trivial
    | ok value => exact Place.Vigil.busy rfl rfl
  | transportInit =>
    rcases reply with error | ⟨⟨⟩⟩
    · exact trivial
    · simp only [resume]
      split <;> exact Place.Vigil.busy rfl rfl
  -- An attempt begins with no bit seen.
  | connectCloud =>
    simp only [resume, Connection.awaitCloud]
    exact vigilant_await .awaitingCloud (fun _ => rfl) (fun _ => UInt32.zero_and) (by simp)
  | publishShadow =>
    -- The bits that were seen are still there, as publishing has changed no register.
    have seen : Covers supervisor.connection.cloud.bits (Cloud.connected ||| Cloud.ready) := by
      have seen := vigil.seen
      rwa [calls] at seen
    have noted : (supervisor.connection.notePublish reply).cloud = supervisor.connection.cloud := by
      cases reply <;> rfl
    simp only [resume, Connection.awaitDisconnection]
    refine vigilant_await .awaitingDrop (fun _ => rfl) (fun _ => ?_) (by simp)
    simpa [Place.seen, noted] using seen

end Uplink.Supervisor
