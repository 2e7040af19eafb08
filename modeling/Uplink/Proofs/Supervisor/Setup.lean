import Uplink.Proofs.Supervisor.Program

/-! The setup of the supervisor: what it asks for before its first cycle, and in which order. -/

namespace Uplink

/-- Whether a request belongs to the setup. -/
def Request.isSetup : Request → Bool
  | .connectCloud | .publishShadow | .disconnectCloud => false
  | _ => true

/-- Only a request of the setup can fail it. -/
theorem Request.failure?_of_cycle {request : Request} (cyclic : request.isSetup = false) (reply : request.Reply) :
    request.failure? reply = none := by
  -- The requests of a cycle may be answered with an error, and none of these is a failure of the setup.
  cases request with
  | connectCloud | publishShadow | disconnectCloud => cases reply <;> rfl
  | modemInit | registerClock | transportInit | requestPsm | enableEvents | connectNetwork => cases cyclic

/-- What a deed asks for, if it asks for something. -/
def Deed.request? : Deed → Option Request
  | .asked request => some request
  | .moved _ => none

namespace Supervisor

/-! ### The plan -/

/-- What is asked for in the setup, in this order, with the power saving mode or without it. -/
def setupPlan (saving : Bool) : List Request :=
  [.modemInit, .registerClock, .transportInit] ++ (if saving then [.requestPsm] else []) ++
    [.enableEvents, .connectNetwork]

/-- What the setup asks for before a request. -/
def setupBefore (saving : Bool) (request : Request) : List Request :=
  (setupPlan saving).takeWhile (· ≠ request)

variable {saving : Bool} {request : Request}

/-- Nothing is asked for twice in the setup. -/
theorem nodup_setupPlan (saving : Bool) : (setupPlan saving).Nodup := by
  -- There are two plans, and each is evaluated.
  cases saving <;> decide

/-- The setup asks for nothing but what belongs to it. -/
theorem isSetup_of_mem (planned : request ∈ setupPlan saving) : request.isSetup = true := by
  -- There are two plans, and each is evaluated.
  cases saving <;> revert planned <;> cases request <;> decide

/-- The power saving mode is asked for only if it is wanted. -/
theorem saving_of_mem (planned : .requestPsm ∈ setupPlan saving) : saving = true := by
  -- Of the two plans only one asks for it.
  cases saving
  · exact absurd planned (by decide)
  · rfl

/-- Up to one of its requests the plan is followed from its beginning. -/
theorem setupPlan_begins (planned : request ∈ setupPlan saving) :
    setupBefore saving request ++ [request] <+: setupPlan saving := by
  -- There are two plans, and each is evaluated.
  cases saving <;> revert planned <;> cases request <;> decide

/-- What was asked for, the latest first, if these things were done on top. -/
theorem Did.requests {now : Nat} {deeds : List Deed} {before after : Supervisor} (did : Did now deeds before after) :
    after.requests = deeds.filterMap Deed.request? ++ before.requests := by
  -- The requests are picked out of the history, and so out of what is new in it.
  simp only [Supervisor.requests, did.history, List.filterMap_append, List.filterMap_map]
  refine congrArg (· ++ before.requests) (List.filterMap_congr fun deed _ => ?_)
  cases deed <;> rfl

variable {config : Config} {agenda : Agenda} {deeds : List Deed} {place next : Place}

/-- Whoever is in a cycle asks for nothing that belongs to the setup, and stays in the cycle. -/
theorem Steps.cyclic {cloud : Flags.Register} (steps : Steps config cloud agenda place deeds next)
    (cycling : place.phase ∈ Phase.cycle) :
    next.phase ∈ Phase.cycle ∧ ∀ request ∈ deeds.filterMap Deed.request?, request.isSetup = false := by
  -- The start alone is outside, and every other place comes before one of a cycle.
  cases steps with
  | starting => exact absurd cycling (by decide)
  | cycleStart _ | networkUp | retry _ | connected _ _ _ | ready _ | failed _ _ | dropped | settled _ | rested _ =>
    exact ⟨by simp [Place.phase, Phase.cycle], by simp [Deed.request?, Request.isSetup]⟩

/-- A reply in a cycle leads to no request at all. -/
theorem Resumes.cyclic {reply : request.Reply} (resumes : Resumes config agenda request reply deeds next)
    (cycling : (Place.calling request).phase ∈ Phase.cycle) :
    next.phase ∈ Phase.cycle ∧ ∀ request ∈ deeds.filterMap Deed.request?, request.isSetup = false := by
  -- Only three requests are made in a cycle, and none of them leads straight to another.
  cases resumes with
  | modemUp _ | clockHeard | transportUp _ | transportUpPlain _ | saving | eventsOn | bringUp =>
    exact absurd cycling (by decide)
  | connect _ _ | publish _ _ | disconnect _ => exact ⟨by simp [Place.phase, Phase.cycle], by simp [Deed.request?]⟩

/-- A good reply in the setup leads to the next request of the plan, or from the last one to the first cycle. -/
theorem Resumes.planned {reply : request.Reply} (resumes : Resumes config agenda request reply deeds next)
    (wanted : config.features.powerSavingMode = saving) (planned : request ∈ setupPlan saving) :
    (∃ following, next = .calling following ∧ deeds.filterMap Deed.request? = [following] ∧
      following ∈ setupPlan saving ∧
        setupBefore saving following = setupBefore saving request ++ [request]) ∨
    (next = .cycleStart ∧ deeds.filterMap Deed.request? = [] ∧
      setupPlan saving = setupBefore saving request ++ [request]) := by
  -- One case for each request of the plan; the power saving mode stands between two of them.
  cases resumes with
  | modemUp _ | clockHeard | eventsOn => exact .inl ⟨_, rfl, rfl, by cases saving <;> decide⟩
  | saving =>
    obtain rfl := saving_of_mem planned
    exact .inl ⟨_, rfl, rfl, by decide⟩
  | transportUp saves | transportUpPlain saves =>
    obtain rfl := wanted.symm.trans saves
    exact .inl ⟨_, rfl, rfl, by decide⟩
  | bringUp => exact .inr ⟨rfl, rfl, by cases saving <;> decide⟩
  | connect _ _ | publish _ _ | disconnect _ => exact absurd (isSetup_of_mem planned) (by decide)

end Supervisor

end Uplink
