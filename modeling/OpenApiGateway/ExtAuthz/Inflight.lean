import OpenApiGateway.Config.Validation
import OpenApiGateway.Lib.TransitionSystem

/-!
# Concurrency permits and the gauge of requests in flight

Any number of `check` requests (`controlplane/src/extauthz/handler.rs`) on the shared semaphore
and the shared gauge, as a transition system. A request takes a permit, increments the gauge,
runs `check_inner`, decrements the gauge, and gives the permit back when its future is dropped.
Between the two gauge updates the future waits at the await points of `check_inner`, and there
it can be dropped by the HTTP server: the permit is then given back by its destructor, and the
decrement is never reached.
-/

namespace OpenApiGateway
namespace ExtAuthz

open Lib.TransitionSystem

/-! ## The system -/

/-- Where `check_inner` can wait: for the config lock, the plugin engine's runtime, the key
cache, the limiter, and the plugins' log phase. It passes them in this order and may skip any
but the first. -/
inductive AwaitPoint where
  | configRead
  | executeAccess
  | applyAuth
  | limiterCheck
  | runPluginLog
deriving DecidableEq

def AwaitPoint.position : AwaitPoint → ℕ
  | configRead => 0
  | executeAccess => 1
  | applyAuth => 2
  | limiterCheck => 3
  | runPluginLog => 4

/-- How far a request is. -/
inductive RequestPhase where
  | arrived
  /-- No permit was free. -/
  | rejected
  /-- Has a permit, and has not incremented the gauge yet. -/
  | acquired
  | inFlight (point : AwaitPoint)
  /-- Has decremented the gauge, and still has its permit. -/
  | decremented
  | answered
  /-- Dropped before it was polled. -/
  | dropped
  /-- Dropped at an await point of `check_inner`. -/
  | cancelled
deriving DecidableEq

/-- The semaphore's free permits, the gauge `inflight_requests`, and the requests so far. -/
structure InflightSystem where
  free : ℕ
  gauge : ℤ := 0
  requests : List RequestPhase := []
deriving DecidableEq

inductive InflightAction where
  | arrive
  | tryAcquire (i : ℕ)
  | incInflight (i : ℕ)
  | resume (i : ℕ) (next : AwaitPoint)
  | decInflight (i : ℕ)
  | release (i : ℕ)
  | cancel (i : ℕ)
deriving DecidableEq

/-- `Semaphore::MAX_PERMITS` on a 64-bit machine. -/
def maxPermits : ℕ := 2 ^ 61 - 1

/-- The permits of `build_state`. -/
def concurrencyLimit (cfg : GatewayConfig) : ℕ :=
  cfg.gateway.maxConcurrentRequests.getD maxPermits

def InflightSystem.init (cfg : GatewayConfig) : InflightSystem := { free := concurrencyLimit cfg }

/-- The system with request `i` in another phase. -/
def InflightSystem.setPhase (s : InflightSystem) (i : ℕ) (phase : RequestPhase) : InflightSystem :=
  { s with requests := s.requests.set i phase }

def inflightStep (s : InflightSystem) : InflightAction → Option InflightSystem
  | .arrive => some { s with requests := s.requests ++ [.arrived] }
  | .tryAcquire i =>
    match s.requests[i]? with
    | some .arrived =>
      if s.free = 0 then some (s.setPhase i .rejected)
      else some { s.setPhase i .acquired with free := s.free - 1 }
    | _ => none
  | .incInflight i =>
    match s.requests[i]? with
    | some .acquired => some { s.setPhase i (.inFlight .configRead) with gauge := s.gauge + 1 }
    | _ => none
  | .resume i next =>
    match s.requests[i]? with
    | some (.inFlight current) =>
      if current.position < next.position then some (s.setPhase i (.inFlight next)) else none
    | _ => none
  | .decInflight i =>
    match s.requests[i]? with
    | some (.inFlight _) => some { s.setPhase i .decremented with gauge := s.gauge - 1 }
    | _ => none
  | .release i =>
    match s.requests[i]? with
    | some .decremented => some { s.setPhase i .answered with free := s.free + 1 }
    | _ => none
  | .cancel i =>
    match s.requests[i]? with
    | some .arrived => some (s.setPhase i .dropped)
    | some (.inFlight _) =>
      -- the permit's destructor runs, the statement after the await does not
      some { s.setPhase i .cancelled with free := s.free + 1 }
    | _ => none

/-! ## Permits and gauge, by phase -/

/-- A request in this phase has a permit. -/
def RequestPhase.hasPermit : RequestPhase → Bool
  | acquired => true
  | inFlight _ => true
  | decremented => true
  | _ => false

/-- A request in this phase has incremented the gauge and not decremented it. -/
def RequestPhase.inGauge : RequestPhase → Bool
  | inFlight _ => true
  | cancelled => true
  | _ => false

/-- Between a permit and the gauge: a permit is held, the gauge does not count it. -/
def RequestPhase.between : RequestPhase → Bool
  | acquired => true
  | decremented => true
  | _ => false

/-- The permits that are held. -/
def InflightSystem.permitsHeld (s : InflightSystem) : ℕ := s.requests.countP RequestPhase.hasPermit

/-- A step lets a request arrive, or moves one request on and accounts for its permit and its
place in the gauge. -/
theorem inflightStep_cases {s s' : InflightSystem} {action : InflightAction}
    (h : inflightStep s action = some s') :
    s' = { s with requests := s.requests ++ [.arrived] } ∨
    ∃ i old new, s.requests[i]? = some old ∧ s'.requests = s.requests.set i new ∧
      s'.free + new.hasPermit.toNat = s.free + old.hasPermit.toNat ∧
      s'.gauge + old.inGauge.toNat = s.gauge + new.inGauge.toNat := by
  cases action with
  | arrive => exact .inl (Option.some.inj h).symm
  | tryAcquire i =>
    right
    simp only [inflightStep] at h
    split at h
    · rename_i hphase
      split at h
      · rw [← Option.some.inj h]
        exact ⟨i, _, .rejected, hphase, rfl, rfl, rfl⟩
      · rename_i hfree
        rw [← Option.some.inj h]
        refine ⟨i, _, .acquired, hphase, rfl, ?_, rfl⟩
        show s.free - 1 + 1 = s.free + 0
        omega
    · simp at h
  | incInflight i =>
    right
    simp only [inflightStep] at h
    split at h
    · rename_i hphase
      rw [← Option.some.inj h]
      exact ⟨i, _, .inFlight .configRead, hphase, rfl, rfl, add_zero _⟩
    · simp at h
  | resume i next =>
    right
    simp only [inflightStep] at h
    split at h
    · rename_i current hphase
      split at h
      · rw [← Option.some.inj h]
        exact ⟨i, _, .inFlight next, hphase, rfl, rfl, rfl⟩
      · simp at h
    · simp at h
  | decInflight i =>
    right
    simp only [inflightStep] at h
    split at h
    · rename_i current hphase
      rw [← Option.some.inj h]
      refine ⟨i, _, .decremented, hphase, rfl, rfl, ?_⟩
      show s.gauge - 1 + 1 = s.gauge + 0
      omega
    · simp at h
  | release i =>
    right
    simp only [inflightStep] at h
    split at h
    · rename_i hphase
      rw [← Option.some.inj h]
      exact ⟨i, _, .answered, hphase, rfl, rfl, rfl⟩
    · simp at h
  | cancel i =>
    right
    simp only [inflightStep] at h
    split at h
    · rename_i hphase
      rw [← Option.some.inj h]
      exact ⟨i, _, .dropped, hphase, rfl, rfl, rfl⟩
    · rename_i current hphase
      rw [← Option.some.inj h]
      exact ⟨i, _, .cancelled, hphase, rfl, rfl, rfl⟩
    · simp at h

/-- Every permit is free or held, and the gauge counts the requests that are in it. -/
structure InflightInv (limit : ℕ) (s : InflightSystem) : Prop where
  permits : s.free + s.permitsHeld = limit
  gauge : s.gauge = s.requests.countP RequestPhase.inGauge

theorem InflightInv.step {limit : ℕ} {s s' : InflightSystem} {action : InflightAction}
    (hinv : InflightInv limit s) (h : inflightStep s action = some s') : InflightInv limit s' := by
  obtain ⟨hpermits, hgauge⟩ := hinv
  unfold InflightSystem.permitsHeld at hpermits
  rcases inflightStep_cases h with rfl | ⟨i, old, new, hold, hnew, hfree, hcount⟩
  · constructor
    · simp [InflightSystem.permitsHeld, RequestPhase.hasPermit, hpermits]
    · simp [RequestPhase.inGauge, hgauge]
  · have hheld := countP_set hold new RequestPhase.hasPermit
    have hcounted := countP_set hold new RequestPhase.inGauge
    constructor
    · unfold InflightSystem.permitsHeld
      rw [hnew]
      omega
    · rw [hnew]
      omega

/-! ## The gauge against the permits -/

theorem InflightInv.of_run {cfg : GatewayConfig} {s : InflightSystem}
    (hrun : Run inflightStep (fun _ _ => True) (InflightSystem.init cfg) s) :
    InflightInv (concurrencyLimit cfg) s :=
  hrun.invariant ⟨rfl, rfl⟩ fun _ _ _ hinv _ hstep => hinv.step hstep

/-- No request is between its permit and the gauge. -/
def Quiescent (s : InflightSystem) : Prop := ∀ phase ∈ s.requests, phase.between = false

instance (s : InflightSystem) : Decidable (Quiescent s) :=
  inferInstanceAs (Decidable (∀ phase ∈ s.requests, phase.between = false))

/-- Where no request is in between, the gauge counts the permits and the cancelled requests. -/
theorem countP_inGauge_of_quiescent {requests : List RequestPhase}
    (h : ∀ phase ∈ requests, phase.between = false) :
    requests.countP RequestPhase.inGauge =
      requests.countP RequestPhase.hasPermit + requests.count .cancelled := by
  induction requests with
  | nil => rfl
  | cons phase requests ih =>
    have hphase := h phase List.mem_cons_self
    have hrest := ih fun other hother => h other (List.mem_cons_of_mem _ hother)
    rw [List.countP_cons, List.countP_cons, List.count_cons, hrest]
    cases phase <;> simp_all [RequestPhase.inGauge, RequestPhase.hasPermit,
      RequestPhase.between] <;>
      omega

/-- In every state of every run the permits held are within the limit; and where no request is
in between, the gauge equals them exactly if no request was cancelled at an await point. -/
theorem inflight_gauge_eq_permits_iff (cfg : GatewayConfig) (s : InflightSystem)
    (hrun : Run inflightStep (fun _ _ => True) (InflightSystem.init cfg) s) :
    s.permitsHeld ≤ concurrencyLimit cfg ∧
      (Quiescent s → (s.gauge = s.permitsHeld ↔ RequestPhase.cancelled ∉ s.requests)) := by
  have hinv := InflightInv.of_run hrun
  constructor
  · have hpermits := hinv.permits
    omega
  · intro hquiet
    rw [hinv.gauge, countP_inGauge_of_quiescent hquiet, ← List.count_eq_zero]
    unfold InflightSystem.permitsHeld
    omega

/-- Two requests, the second of which waits for the limiter. -/
def twoRequests : List InflightAction :=
  [.arrive, .arrive, .tryAcquire 0, .incInflight 0, .decInflight 0, .release 0, .tryAcquire 1,
    .incInflight 1, .resume 1 .limiterCheck]

theorem inflight_gauge_eq_permits_iff_twoRequests :
    let cfg := Validation.minimalConfig []
    let s : InflightSystem :=
      { free := maxPermits - 1, gauge := 1, requests := [.answered, .inFlight .limiterCheck] }
    Run inflightStep (fun _ _ => True) (InflightSystem.init cfg) s ∧ Quiescent s ∧
      (s.gauge = s.permitsHeld ↔ RequestPhase.cancelled ∉ s.requests) := by
  intro cfg s
  have hall : runAll inflightStep (fun _ _ => True)
      (InflightSystem.init cfg) twoRequests = some s :=
    rfl
  have hrun := run_of_runAll hall .init
  have hquiet : Quiescent s := by decide
  exact ⟨hrun, hquiet, (inflight_gauge_eq_permits_iff cfg s hrun).2 hquiet⟩

/-- After a request that was dropped while it waited for the limiter, no request is in flight
and the gauge says one. -/
theorem inflight_gauge_drifts :
    let cfg := Validation.minimalConfig []
    let s : InflightSystem := { free := maxPermits, gauge := 1, requests := [.cancelled] }
    Run inflightStep (fun _ _ => True) (InflightSystem.init cfg) s ∧ Quiescent s ∧
      s.gauge ≠ s.permitsHeld := by
  intro cfg s
  have hall : runAll inflightStep (fun _ _ => True) (InflightSystem.init cfg)
      [.arrive, .tryAcquire 0, .incInflight 0, .resume 0 .limiterCheck, .cancel 0] = some s := rfl
  exact ⟨run_of_runAll hall .init, by decide, by decide⟩

end ExtAuthz
end OpenApiGateway
