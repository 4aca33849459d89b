import OpenApiGateway.Lib.TransitionSystem
import OpenApiGateway.RateLimit.Admission
import OpenApiGateway.RateLimit.Equivalence

/-!
# Replicas that share Redis

Several processes, each with a limiter of its own, and the Redis they all talk to, as a transition
system. `limiter.rs` is taken apart at its awaits: a call of `check` waits for the lock of the
connection, holds it while its script is on the way, and gives it up before it waits for the local
buckets; its future can be dropped at each of these points. A ping holds the same lock.

A script invocation is a command of its own. Redis runs it at some time after it was sent, and so
it may also run when nobody waits for it any more: after a timeout, or when the caller is gone.
Redis drops a key from its deadline on. New replicas may start at any time, with empty buckets.
-/

namespace OpenApiGateway
namespace RateLimit

open scoped ExactArithmetic

/-! ## State -/

/-- An invocation of the script, with the call it is for: the replica and the number of the call. -/
structure Command where
  caller : ℕ × ℕ
  key : String
  capacity : ℕ
  refillRate : F64
  nowMs : ℕ
  /-- What the script returned, once Redis has run it. -/
  reply : Option ScriptReply := none
deriving DecidableEq

inductive CallPhase where
  /-- Waits for the lock of the connection. -/
  | waiting
  /-- Holds it, and waits for the reply to a command. -/
  | invoking (command : ℕ)
  /-- `try_redis` has failed; waits for the local buckets. -/
  | degrading
  | decided (command : ℕ) (decision : RateDecision)
  | degraded (result : Except RateLimitError RateDecision)
  | dropped
deriving DecidableEq

/-- A call of `check`. -/
structure CallTask where
  key : String
  capacity : ℕ
  refillRate : F64
  phase : CallPhase := .waiting
deriving DecidableEq

/-- The command a call waits for, or was decided by. -/
def CallTask.command (task : CallTask) : Option ℕ :=
  match task.phase with
  | .invoking command => some command
  | .decided command _ => some command
  | _ => none

/-- A call of `ping`. -/
inductive PingPhase where
  | waiting
  | pinging
  | reconnecting
  | returned (reachable : Bool)
  | dropped
deriving DecidableEq

/-- Who holds the lock of the connection. -/
inductive Holder where
  | call (c : ℕ)
  | ping (p : ℕ)
deriving DecidableEq

structure Replica where
  limiter : RateLimiter
  holder : Option Holder := none
  calls : List CallTask := []
  pings : List PingPhase := []
  /-- The last reading of the local clock, which does not go backwards. -/
  clock : ℕ := 0
  /-- The calls that were allowed in degraded mode: their keys and the local time. -/
  allowedLocally : List (String × ℕ) := []

structure Fleet where
  redis : AList fun _ : String => ExpiringHash := ∅
  commands : List Command := []
  /-- The commands Redis has run, in this order. -/
  ran : List ℕ := []
  replicas : List Replica := []

/-! ## Steps of Redis -/

/-- What Redis has under a key. -/
def Fleet.found (s : Fleet) (key : String) : ExpiringHash := (s.redis.lookup key).getD {}

/-- Run the script of a command at some time of Redis, which is the one the deadline counts from. -/
def executeScript (found : ExpiringHash) (command : Command) (now : ℕ) :
    ScriptReply × ExpiringHash :=
  let run := luaScript found.hash (F64.ofNat command.nowMs) (F64.ofNat command.capacity)
    command.refillRate (F64.ofNat 1) (F64.ofNat (ttlSeconds command.capacity command.refillRate))
  (run.reply,
    { hash := run.hash
      deadline := match run.expire with
        | some ttl => some (now + 1000 * ttl.toU64)
        | none => found.deadline })

/-- The fleet after a run of the script for a command. -/
def Fleet.record (s : Fleet) (id : ℕ) (command : Command) (run : ScriptReply × ExpiringHash) :
    Fleet :=
  { s with
    redis := s.redis.insert command.key run.2
    commands := s.commands.set id { command with reply := some run.1 }
    ran := s.ran ++ [id] }

/-- Run a command that was sent and has not run. The key may have expired if its deadline is
over. -/
def Fleet.execute (s : Fleet) (id now : ℕ) (expired : Bool) : Option Fleet :=
  match s.commands[id]? with
  | none => none
  | some command =>
    let found := s.found command.key
    if command.reply.isSome || (expired && !found.deadline.any (· ≤ now)) then none
    else
      some (s.record id command (executeScript (if expired then {} else found) command now))

/-! ## Steps of a call -/

inductive CallAction where
  /-- Get the lock; the clock for Redis is read then. -/
  | acquire (ms : ℕ)
  | reply
  /-- The invocation fails or runs into the timeout. -/
  | fail
  /-- Use the local bucket, made at the first time if there is none. -/
  | degrade (created instant : ℕ)
  | drop
deriving DecidableEq

/-- `enter_degraded`, which touches nothing but the limiter. -/
def RateLimiter.enterDegraded (limiter : RateLimiter) (key : String)
    (capacity created instant : ℕ) : Except RateLimitError RateDecision × RateLimiter :=
  let (result, s) :=
    System.enterDegraded ⟨limiter, ∅⟩ key capacity ⟨0, .replied, created, instant⟩
  (result, s.limiter)

/-- Allowed by a local bucket. -/
def allowedByBucket (result : Except RateLimitError RateDecision) : Bool :=
  match result with
  | .ok decision => decision.allowed && decide (decision.mode = .degradedLocal)
  | .error _ => false

namespace Replica

def setPhase (r : Replica) (c : ℕ) (task : CallTask) (phase : CallPhase) : Replica :=
  { r with calls := r.calls.set c { task with phase := phase } }

def disconnect (r : Replica) : Replica :=
  { r with limiter := { r.limiter with connected := false } }

/-- A step of call `c` of replica `i`: the replica, and the commands sent. -/
def callStep (commands : List Command) (i c : ℕ) (r : Replica) (task : CallTask) :
    CallAction → Option (Replica × List Command)
  | .acquire ms =>
    match task.phase, r.holder with
    | .waiting, none =>
      if r.limiter.connected then
        some ({ r.setPhase c task (.invoking commands.length) with holder := some (.call c) },
          commands ++ [⟨(i, c), task.key, task.capacity, task.refillRate, ms % 2 ^ 64, none⟩])
      -- no connection: the lock is given back at once
      else some (r.setPhase c task .degrading, commands)
    | _, _ => none
  | .reply =>
    match task.phase with
    | .invoking id =>
      match commands[id]?.bind Command.reply with
      | none => none
      | some reply =>
        match LuaResponse.fromStr reply.text with
        | some resp =>
          some
            ({ r.setPhase c task (.decided id ⟨resp.allowed == 1, task.capacity,
                resp.remainingTokens, resp.retryAfterMs, .redis⟩) with holder := none }, commands)
        -- the command has run all the same
        | none => some ({ r.setPhase c task .degrading with holder := none }, commands)
    | _ => none
  | .fail =>
    match task.phase with
    | .invoking _ =>
      some ({ (r.setPhase c task .degrading).disconnect with holder := none }, commands)
    | _ => none
  | .degrade created instant =>
    match task.phase with
    | .degrading =>
      -- the clock of one process does not go backwards
      if r.clock ≤ created ∧ created ≤ instant then
        let (result, limiter) := r.limiter.enterDegraded task.key task.capacity created instant
        some
          ({ r.setPhase c task (.degraded result) with
              limiter := limiter
              clock := instant
              allowedLocally := r.allowedLocally ++
                if allowedByBucket result then [(task.key, instant)] else [] }, commands)
      else none
    | _ => none
  | .drop =>
    match task.phase with
    | .waiting => some (r.setPhase c task .dropped, commands)
    | .degrading => some (r.setPhase c task .dropped, commands)
    | .invoking _ => some ({ r.setPhase c task .dropped with holder := none }, commands)
    | _ => none

end Replica

/-! ## Steps of a ping -/

inductive PingAction where
  | acquire
  | pong
  /-- The connection does not answer. -/
  | dead
  | reconnected
  | unreachable
  | drop
deriving DecidableEq

namespace Replica

def setPing (r : Replica) (p : ℕ) (phase : PingPhase) : Replica :=
  { r with pings := r.pings.set p phase }

def pingStep (r : Replica) (p : ℕ) (phase : PingPhase) : PingAction → Option Replica
  | .acquire =>
    match phase, r.holder with
    | .waiting, none =>
      some { r.setPing p (if r.limiter.connected then .pinging else .reconnecting) with
        holder := some (.ping p) }
    | _, _ => none
  | .pong =>
    match phase with
    | .pinging => some { r.setPing p (.returned true) with holder := none }
    | _ => none
  | .dead =>
    match phase with
    -- the lock is held on to while a new connection is made
    | .pinging => some (r.setPing p .reconnecting).disconnect
    | _ => none
  | .reconnected =>
    match phase with
    | .reconnecting =>
      some
        { r.setPing p (.returned true) with
          holder := none, limiter := { r.limiter with connected := true } }
    | _ => none
  | .unreachable =>
    match phase with
    | .reconnecting => some { r.setPing p (.returned false) with holder := none }
    | _ => none
  | .drop =>
    match phase with
    | .waiting => some (r.setPing p .dropped)
    | .pinging => some { r.setPing p .dropped with holder := none }
    | .reconnecting => some { r.setPing p .dropped with holder := none }
    | _ => none

end Replica

/-! ## Steps of the fleet -/

inductive FleetAction where
  /-- A replica starts, and may reach Redis or not. -/
  | start (config : RateLimitsConfig) (connected : Bool)
  | check (i : ℕ) (key : String) (capacity : ℕ) (refillRate : F64)
  | call (i c : ℕ) (action : CallAction)
  | newPing (i : ℕ)
  | ping (i p : ℕ) (action : PingAction)
  /-- Redis runs a command at some time, with the key expired or not. -/
  | execute (id now : ℕ) (expired : Bool)

namespace Fleet

def setReplica (s : Fleet) (i : ℕ) (r : Replica) : Fleet :=
  { s with replicas := s.replicas.set i r }

def step (s : Fleet) : FleetAction → Option Fleet
  | .start config connected =>
    some { s with replicas := s.replicas ++ [{ limiter := .fromConfig config connected }] }
  | .check i key capacity refillRate =>
    match s.replicas[i]? with
    | none => none
    | some r =>
      some (s.setReplica i
        { r with calls := r.calls ++ [⟨key, capacity, refillRate, .waiting⟩] })
  | .call i c action =>
    match s.replicas[i]? with
    | none => none
    | some r =>
      match r.calls[c]? with
      | none => none
      | some task =>
        (r.callStep s.commands i c task action).map fun (r, commands) =>
          { s.setReplica i r with commands := commands }
  | .newPing i =>
    match s.replicas[i]? with
    | none => none
    | some r => some (s.setReplica i { r with pings := r.pings ++ [.waiting] })
  | .ping i p action =>
    match s.replicas[i]? with
    | none => none
    | some r =>
      match r.pings[p]? with
      | none => none
      | some phase => (r.pingStep p phase action).map (s.setReplica i)
  -- Redis runs a command at a time of its own, also one whose caller is gone
  | .execute id now expired => s.execute id now expired

end Fleet

/-! ## What a step can do -/

/-- The command of a call that gets the lock. -/
def CallTask.send (task : CallTask) (caller : ℕ × ℕ) (ms : ℕ) : Command :=
  ⟨caller, task.key, task.capacity, task.refillRate, ms % 2 ^ 64, none⟩

/-- Two states of a replica with the same local buckets. -/
structure Replica.SameBuckets (r r' : Replica) : Prop where
  config : r'.limiter.config = r.limiter.config
  fallback : r'.limiter.fallback = r.limiter.fallback
  clock : r'.clock = r.clock
  allowedLocally : r'.allowedLocally = r.allowedLocally

/-- A call that uses the local bucket. -/
structure Replica.Degrades (r : Replica) (c : ℕ) (task : CallTask) (r' : Replica) where
  created : ℕ
  instant : ℕ
  result : Except RateLimitError RateDecision
  limiter : RateLimiter
  clock_le : r.clock ≤ created
  created_le : created ≤ instant
  result_eq : r.limiter.enterDegraded task.key task.capacity created instant = (result, limiter)
  calls_eq : r'.calls = r.calls.set c { task with phase := .degraded result }
  limiter_eq : r'.limiter = limiter
  clock_eq : r'.clock = instant
  allowedLocally_eq : r'.allowedLocally =
    r.allowedLocally ++ if allowedByBucket result then [(task.key, instant)] else []

inductive Replica.CallMove (commands : List Command) (i c : ℕ) (r : Replica) (task : CallTask) :
    Replica → List Command → Prop
  | send {r' : Replica} (ms : ℕ) (hphase : task.phase = .waiting) (hbuckets : r.SameBuckets r')
      (hcalls : r'.calls = r.calls.set c { task with phase := .invoking commands.length }) :
      CallMove commands i c r task r' (commands ++ [task.send (i, c) ms])
  | decide {r' : Replica} {id : ℕ} {reply : ScriptReply} {resp : LuaResponse}
      {decision : RateDecision} (hphase : task.phase = .invoking id)
      (hreply : commands[id]?.bind Command.reply = some reply)
      (hresp : LuaResponse.fromStr reply.text = some resp)
      (hdecision : decision.allowed = (resp.allowed == 1)) (hbuckets : r.SameBuckets r')
      (hcalls : r'.calls = r.calls.set c { task with phase := .decided id decision }) :
      CallMove commands i c r task r' commands
  | degrade {r' : Replica} (hphase : task.phase = .degrading) (hdegrades : r.Degrades c task r') :
      CallMove commands i c r task r' commands
  /-- Towards the local buckets, or dropped. -/
  | leave {r' : Replica} {phase : CallPhase} (hphase : phase = .degrading ∨ phase = .dropped)
      (hbefore : ∀ result, task.phase ≠ .degraded result) (hbuckets : r.SameBuckets r')
      (hcalls : r'.calls = r.calls.set c { task with phase := phase }) :
      CallMove commands i c r task r' commands

theorem Replica.callMove_of_callStep {commands commands' : List Command} {i c : ℕ}
    {r r' : Replica} {task : CallTask} {action : CallAction}
    (h : r.callStep commands i c task action = some (r', commands')) :
    CallMove commands i c r task r' commands' := by
  -- the steps that only give up the connection or the call
  have hleave : ∀ (left : Replica) (phase : CallPhase),
      some (left, commands) = some (r', commands') → phase = .degrading ∨ phase = .dropped →
      (∀ result, task.phase ≠ .degraded result) → r.SameBuckets left →
      left.calls = r.calls.set c { task with phase := phase } →
      CallMove commands i c r task r' commands' := by
    intro left phase heq hphase hbefore hbuckets hcalls
    simp only [Option.some.injEq, Prod.mk.injEq] at heq
    rw [← heq.1, ← heq.2]
    exact .leave hphase hbefore hbuckets hcalls
  unfold callStep at h
  cases action with
  | acquire ms =>
    dsimp only at h
    split at h
    · rename_i hphase hholder
      split at h
      · simp only [Option.some.injEq, Prod.mk.injEq] at h
        rw [← h.1, ← h.2]
        exact .send ms hphase ⟨rfl, rfl, rfl, rfl⟩ rfl
      · exact hleave _ _ h (.inl rfl) (by simp [hphase]) ⟨rfl, rfl, rfl, rfl⟩ rfl
    · simp at h
  | reply =>
    dsimp only at h
    split at h
    · rename_i id hphase
      split at h
      · simp at h
      · rename_i reply hreply
        split at h
        · rename_i resp hresp
          simp only [Option.some.injEq, Prod.mk.injEq] at h
          rw [← h.1, ← h.2]
          exact .decide hphase hreply hresp rfl ⟨rfl, rfl, rfl, rfl⟩ rfl
        · exact hleave _ _ h (.inl rfl) (by simp [hphase]) ⟨rfl, rfl, rfl, rfl⟩ rfl
    · simp at h
  | fail =>
    dsimp only at h
    split at h
    · rename_i id hphase
      exact hleave _ _ h (.inl rfl) (by simp [hphase]) ⟨rfl, rfl, rfl, rfl⟩ rfl
    · simp at h
  | degrade created instant =>
    dsimp only at h
    split at h
    · rename_i hphase
      split at h
      · rename_i htimes
        simp only [Option.some.injEq, Prod.mk.injEq] at h
        rw [← h.2]
        exact .degrade hphase ⟨created, instant, _, _, htimes.1, htimes.2, rfl, h.1 ▸ rfl,
          h.1 ▸ rfl, h.1 ▸ rfl, h.1 ▸ rfl⟩
      · simp at h
    · simp at h
  | drop =>
    dsimp only at h
    split at h
    · rename_i hphase
      exact hleave _ _ h (.inr rfl) (by simp [hphase]) ⟨rfl, rfl, rfl, rfl⟩ rfl
    · rename_i hphase
      exact hleave _ _ h (.inr rfl) (by simp [hphase]) ⟨rfl, rfl, rfl, rfl⟩ rfl
    · rename_i hphase
      exact hleave _ _ h (.inr rfl) (by simp [hphase]) ⟨rfl, rfl, rfl, rfl⟩ rfl
    · simp at h

/-- A step of a ping leaves the calls and the buckets alone. -/
theorem Replica.sameBuckets_of_pingStep {r r' : Replica} {p : ℕ} {phase : PingPhase}
    {action : PingAction} (h : r.pingStep p phase action = some r') :
    r'.calls = r.calls ∧ r.SameBuckets r' := by
  unfold pingStep at h
  cases action with
  | acquire | pong | dead | reconnected | unreachable | drop =>
    dsimp only at h
    split at h
    all_goals
      first
        | rw [← Option.some.inj h]
          exact ⟨rfl, rfl, rfl, rfl, rfl⟩
        | simp at h

/-- What a step can do to the fleet. -/
inductive Fleet.Move (s : Fleet) : FleetAction → Fleet → Prop
  | start (config : RateLimitsConfig) (connected : Bool) :
      Move s (.start config connected)
        { s with replicas := s.replicas ++ [{ limiter := .fromConfig config connected }] }
  | check {i : ℕ} {r : Replica} (key : String) (capacity : ℕ) (refillRate : F64)
      (hr : s.replicas[i]? = some r) :
      Move s (.check i key capacity refillRate)
        (s.setReplica i { r with calls := r.calls ++ [⟨key, capacity, refillRate, .waiting⟩] })
  | call {i c : ℕ} {r r' : Replica} {task : CallTask} {commands : List Command}
      (action : CallAction) (hr : s.replicas[i]? = some r) (htask : r.calls[c]? = some task)
      (hmove : r.CallMove s.commands i c task r' commands) :
      Move s (.call i c action) { s.setReplica i r' with commands := commands }
  /-- A ping leaves the calls alone. -/
  | ping {i : ℕ} {r r' : Replica} {action : FleetAction} (hr : s.replicas[i]? = some r)
      (hcalls : r'.calls = r.calls) (hbuckets : r.SameBuckets r') :
      Move s action (s.setReplica i r')
  | execute {id now : ℕ} {expired : Bool} {command : Command}
      (hcommand : s.commands[id]? = some command) (hnew : command.reply = none)
      (hexpired : expired = true → (s.found command.key).deadline.any (· ≤ now) = true) :
      Move s (.execute id now expired)
        (s.record id command
          (executeScript (if expired then {} else s.found command.key) command now))

theorem Fleet.move_of_step {s s' : Fleet} {action : FleetAction} (h : s.step action = some s') :
    s.Move action s' := by
  unfold step at h
  cases action with
  | start config connected =>
    rw [← Option.some.inj h]
    exact .start config connected
  | check i key capacity refillRate =>
    dsimp only at h
    split at h
    · simp at h
    · rename_i r hr
      rw [← Option.some.inj h]
      exact .check key capacity refillRate hr
  | call i c action =>
    dsimp only at h
    split at h
    · simp at h
    · rename_i r hr
      split at h
      · simp at h
      · rename_i task htask
        obtain ⟨⟨r', commands⟩, hstep, rfl⟩ := Option.map_eq_some_iff.mp h
        exact .call action hr htask (Replica.callMove_of_callStep hstep)
  | newPing i =>
    dsimp only at h
    split at h
    · simp at h
    · rename_i r hr
      rw [← Option.some.inj h]
      exact .ping hr rfl ⟨rfl, rfl, rfl, rfl⟩
  | ping i p action =>
    dsimp only at h
    split at h
    · simp at h
    · rename_i r hr
      split at h
      · simp at h
      · rename_i phase hphase
        obtain ⟨r', hstep, rfl⟩ := Option.map_eq_some_iff.mp h
        have hsame := Replica.sameBuckets_of_pingStep hstep
        exact .ping hr hsame.1 hsame.2
  | execute id now expired =>
    unfold execute at h
    dsimp only at h
    split at h
    · simp at h
    · rename_i command hcommand
      split at h
      · simp at h
      · rename_i hguard
        rw [← Option.some.inj h]
        simp only [Bool.or_eq_true, Bool.and_eq_true, Bool.not_eq_true', not_or, not_and,
          Bool.not_eq_false] at hguard
        exact .execute hcommand (by simpa using hguard.1) hguard.2

end RateLimit
end OpenApiGateway
