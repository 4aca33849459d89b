import OpenApiGateway.RateLimit.Fleet

/-!
# How many calls a fleet admits

All replicas together take their tokens for a key from one hash in Redis, whichever of their calls
overlap, fail or are dropped. `KeyBalance` carries this through the runs of the script, and through
the loss of a key that has expired: the TTL is twice the time to fill the bucket and at least a
second, so that an expired bucket would have been full even for a reader whose clock, or whose
command, is a quarter of a second off. In degraded mode each replica counts for itself.

`fleet_admissions_bounded` puts the two together, for any stretch of any run.
-/

namespace OpenApiGateway
namespace RateLimit

open Lib.TokenBucket Lib.TransitionSystem
open scoped ExactArithmetic

/-! ## One key of Redis -/

section Key
variable {capacity : ℕ} {rate : ℚ} {found : ExpiringHash} {admitted : List ℚ}

/-- Half a second before the key expires its bucket is full. -/
theorem le_gain_of_expired (hcapacity : 1 ≤ capacity) (hrate : 0 < rate) {last : ℚ} {nowMs : ℕ}
    (hlast : 0 ≤ last) (hnow : nowMs < 2 ^ 64)
    (hexpired : last + 1000 * ttlSeconds capacity (.finite rate) ≤ nowMs + 500) :
    (capacity : ℚ) ≤ rate / 1000 * (nowMs - last) := by
  have hnow' : (nowMs : ℚ) < 2 ^ 64 := by exact_mod_cast hnow
  rcases le_ttlSeconds capacity hrate with httl | httl
  · have hone : (1 : ℚ) ≤ ttlSeconds capacity (.finite rate) := by
      have hpos : 0 < 2 * (capacity : ℚ) / rate := by positivity
      have hnat : 0 < ttlSeconds capacity (.finite rate) := by exact_mod_cast hpos.trans_le httl
      exact_mod_cast hnat
    -- the TTL is at least the time to fill the bucket and half a second
    have hfill : (capacity : ℚ) / rate ≤ ttlSeconds capacity (.finite rate) - 1 / 2 := by
      have hhalf : 2 * (capacity : ℚ) / rate = 2 * (capacity / rate) := by ring
      rw [hhalf] at httl
      linarith
    have helapsed : (ttlSeconds capacity (.finite rate) : ℚ) - 1 / 2 ≤ (nowMs - last) / 1000 := by
      rw [le_div_iff₀ (by norm_num)]
      linarith
    have hgain : (capacity : ℚ) ≤ (nowMs - last) / 1000 * rate :=
      (div_le_iff₀ hrate).mp (hfill.trans helapsed)
    calc (capacity : ℚ) ≤ (nowMs - last) / 1000 * rate := hgain
      _ = rate / 1000 * (nowMs - last) := by ring
  · -- a `u64` of milliseconds is never a `u64` of seconds later
    have hmax : (ttlSeconds capacity (.finite rate) : ℚ) = 2 ^ 64 - 1 := by
      rw [httl, F64.u64Max]
      norm_num
    rw [hmax] at hexpired
    linarith

/-- The hash of the key pays for what the script admitted, and its deadline is the TTL after the
last admission, up to a quarter of a second. -/
structure KeyBalance (capacity : ℕ) (rate : ℚ) (found : ExpiringHash) (admitted : List ℚ) :
    Prop where
  balance : RedisBalance capacity rate found.hash admitted
  deadline : ∀ tokens last : ℚ, found.hash = finiteHash tokens last →
    0 ≤ last ∧ ∃ deadline, found.deadline = some deadline ∧
      last + 1000 * ttlSeconds capacity (.finite rate) ≤ deadline + 250

/-- A command on the key, run no more than a quarter of a second off the time it carries. -/
structure TimelyCommand (capacity : ℕ) (rate : ℚ) (command : Command) (now : ℕ) : Prop where
  capacity_eq : command.capacity = capacity
  refillRate_eq : command.refillRate = .finite rate
  nowMs_lt : command.nowMs < 2 ^ 64
  early : command.nowMs ≤ now + 250
  late : now ≤ command.nowMs + 250

section Execute
variable {command : Command} {now : ℕ} (hcommand : TimelyCommand capacity rate command now)
include hcommand

/-- A run of the script, from what it does to the hash. -/
theorem executeScript_of_luaScript {run : ScriptRun}
    (hrun : luaScript found.hash (.finite command.nowMs) (.finite capacity) (.finite rate)
      (.finite 1) (F64.ofNat (ttlSeconds capacity (.finite rate))) = run) :
    executeScript found command now =
      (run.reply, ⟨run.hash, match run.expire with
        | some ttl => some (now + 1000 * ttl.toU64)
        | none => found.deadline⟩) := by
  unfold executeScript
  rw [hcommand.capacity_eq, hcommand.refillRate_eq]
  simp only [F64.ofNat_eq, Nat.cast_one] at hrun ⊢
  subst hrun
  rfl

/-- What an admission leaves. -/
theorem executeScript_admitted (hrate : 0 < rate) {tokens : ℚ} {reply : ScriptReply}
    (hrun : luaScript found.hash (.finite command.nowMs) (.finite capacity) (.finite rate)
      (.finite 1) (F64.ofNat (ttlSeconds capacity (.finite rate))) =
        ⟨finiteHash tokens command.nowMs, some (F64.ofNat (ttlSeconds capacity (.finite rate))),
          reply⟩) :
    executeScript found command now =
      (reply, ⟨finiteHash tokens command.nowMs,
        some (now + 1000 * ttlSeconds capacity (.finite rate))⟩) := by
  rw [executeScript_of_luaScript hcommand hrun]
  simp only [toU64_ttlSeconds hrate]

theorem deadline_admitted {tokens : ℚ} :
    ∀ tokens' last : ℚ, finiteHash tokens command.nowMs = finiteHash tokens' last →
      0 ≤ last ∧ ∃ deadline,
        some (now + 1000 * ttlSeconds capacity (.finite rate)) = some deadline ∧
          last + 1000 * ttlSeconds capacity (.finite rate) ≤ deadline + 250 := by
  intro tokens' last heq
  have hlast : (command.nowMs : ℚ) = last := by
    have hsecond := congrArg BucketHash.lastRefillMs heq
    simpa [finiteHash] using hsecond
  have hearly : (command.nowMs : ℚ) ≤ now + 250 := by exact_mod_cast hcommand.early
  rw [← hlast]
  refine ⟨Nat.cast_nonneg _, _, rfl, ?_⟩
  push_cast
  linarith

/-- A run of the script that finds the key. -/
theorem KeyBalance.execute (h : KeyBalance capacity rate found admitted)
    (hcapacity : 1 ≤ capacity) (hrate : 0 < rate) :
    KeyBalance capacity rate (executeScript found command now).2
      (if (executeScript found command now).1.allowed then admitted ++ [(command.nowMs : ℚ)]
        else admitted) := by
  have hone : (1 : ℚ) ≤ capacity := by exact_mod_cast hcapacity
  have hscript := (h.balance.script hone command.nowMs
    (F64.ofNat (ttlSeconds capacity (.finite rate)))).1
  rcases h.balance with ⟨hempty, -⟩ | ⟨tokens, last, hhash, -, -, -, -⟩
  · have hrun := luaScript_empty hone command.nowMs rate
      (F64.ofNat (ttlSeconds capacity (.finite rate)))
    rw [hempty, hrun] at hscript
    rw [← hempty] at hrun
    rw [executeScript_admitted hcommand hrate hrun]
    exact ⟨hscript, deadline_admitted hcommand⟩
  · have hrun := luaScript_finiteHash tokens last command.nowMs capacity rate
      (F64.ofNat (ttlSeconds capacity (.finite rate)))
    rw [hhash, hrun] at hscript
    rw [← hhash] at hrun
    simp only at hrun hscript
    split at hrun
    · rename_i htoken
      rw [if_pos htoken] at hscript
      rw [executeScript_admitted hcommand hrate hrun]
      exact ⟨hscript, deadline_admitted hcommand⟩
    · -- a denial leaves the key as it was
      rename_i htoken
      rw [if_neg htoken, ← hhash] at hscript
      rw [executeScript_of_luaScript hcommand hrun]
      exact ⟨hscript, h.deadline⟩

/-- A run of the script after the key has expired. -/
theorem KeyBalance.execute_expired (h : KeyBalance capacity rate found admitted)
    (hcapacity : 1 ≤ capacity) (hrate : 0 < rate)
    (hexpired : found.deadline.any (· ≤ now) = true) :
    KeyBalance capacity rate (executeScript {} command now).2
      (if (executeScript {} command now).1.allowed then admitted ++ [(command.nowMs : ℚ)]
        else admitted) := by
  have hone : (1 : ℚ) ≤ capacity := by exact_mod_cast hcapacity
  have hrun := luaScript_empty hone command.nowMs rate
    (F64.ofNat (ttlSeconds capacity (.finite rate)))
  rw [executeScript_admitted hcommand hrate hrun]
  refine ⟨Or.inr ⟨capacity - 1, command.nowMs, rfl, by linarith, by linarith, ?_, ?_⟩,
    deadline_admitted hcommand⟩
  · simp only [admittedReply, if_true]
    rcases h.balance with ⟨-, hnone⟩ | ⟨tokens, last, hhash, htokens, -, hfunded, -⟩
    · rw [hnone]
      have hempty : Funded (capacity : ℚ) (rate / 1000) 0 0 [] := Funded.nil
      exact hempty.after_admission (by linarith) (by simp)
    · -- the bucket that is gone would have been full
      obtain ⟨hlast, deadline, hdeadline, hle⟩ := h.deadline tokens last hhash
      rw [hdeadline, Option.any_some, decide_eq_true_eq] at hexpired
      have hover : (deadline : ℚ) ≤ now := by exact_mod_cast hexpired
      have hlate : (now : ℚ) ≤ command.nowMs + 250 := by exact_mod_cast hcommand.late
      have hgain := le_gain_of_expired hcapacity hrate hlast hcommand.nowMs_lt (by linarith)
      exact hfunded.after_admission (by linarith) (fun _ => by linarith)
  · intro time htime
    simp only [admittedReply, if_true, List.getLast?_concat, Option.some.injEq] at htime
    exact htime.symm

end Execute

theorem KeyBalance.restart (h : KeyBalance capacity rate found admitted) :
    KeyBalance capacity rate found [] :=
  ⟨h.balance.restart, h.deadline⟩

end Key

/-! ## The local buckets of one replica -/

/-- Allowed by a local bucket of the key. -/
def CallTask.allowedLocally (key : String) (task : CallTask) : Bool :=
  match task.phase with
  | .degraded result => task.key == key && allowedByBucket result
  | _ => false

def localAt (key : String) (entry : String × ℕ) : Option ℚ :=
  if entry.1 = key then some ((entry.2 : ℚ) / 10 ^ 9) else none

/-- Local times, in seconds, of the calls on a key allowed in degraded mode, from some point on. -/
def Replica.localTimes (r : Replica) (key : String) (since : ℕ) : List ℚ :=
  (r.allowedLocally.drop since).filterMap (localAt key)

/-- The local bucket of the key pays for the calls it allowed, from any point on. -/
structure Replica.Paid (key : String) (r : Replica) : Prop where
  fallback : r.limiter.config.survivabilityMode.enabled = true → ∀ rate,
    r.limiter.config.survivabilityMode.fallbackRefillRatePerSec = .finite rate →
      (∀ since, LocalBalance r.limiter.config.survivabilityMode.fallbackCapacity rate
        (r.limiter.fallback.lookup key) (r.localTimes key since)) ∧
      ∀ bucket, r.limiter.fallback.lookup key = some bucket → bucket.lastRefill ≤ r.clock
  counted : r.calls.countP (CallTask.allowedLocally key) = (r.localTimes key 0).length

section Local
variable {key : String} {r r' : Replica}

theorem Replica.Paid.frame (h : r.Paid key) (hbuckets : r.SameBuckets r')
    (hcount : r'.calls.countP (CallTask.allowedLocally key) =
      r.calls.countP (CallTask.allowedLocally key)) : r'.Paid key := by
  have htimes : r'.localTimes key = r.localTimes key := by
    funext since
    rw [Replica.localTimes, hbuckets.allowedLocally, Replica.localTimes]
  refine ⟨?_, ?_⟩
  · rw [hbuckets.config, hbuckets.fallback, hbuckets.clock, htimes]
    exact h.fallback
  · rw [hcount, htimes]
    exact h.counted

theorem Replica.paid_fromConfig (key : String) (config : RateLimitsConfig) (connected : Bool) :
    Replica.Paid key { limiter := .fromConfig config connected } := by
  have htimes : ∀ since,
      Replica.localTimes { limiter := .fromConfig config connected } key since = [] := by
    intro since
    simp [Replica.localTimes]
  refine ⟨fun _ rate _ => ⟨?_, ?_⟩, by rw [htimes]; rfl⟩
  · intro since
    rw [htimes]
    exact ⟨.inl ⟨rfl, rfl⟩, fun _ => rfl, by simp⟩
  · intro bucket hbucket
    simp [RateLimiter.fromConfig] at hbucket

theorem RateLimiter.enterDegraded_of_disabled {limiter : RateLimiter}
    (hdisabled : limiter.config.survivabilityMode.enabled = false)
    (key : String) (capacity created instant : ℕ) :
    allowedByBucket (limiter.enterDegraded key capacity created instant).1 = false ∧
      (limiter.enterDegraded key capacity created instant).2 = limiter := by
  unfold RateLimiter.enterDegraded
  rw [RateLimit.enterDegraded_of_disabled hdisabled]
  refine ⟨?_, rfl⟩
  dsimp only
  split
  · rfl
  · rfl

theorem RateLimiter.enterDegraded_of_enabled {limiter : RateLimiter}
    (henabled : limiter.config.survivabilityMode.enabled = true)
    (key : String) (capacity created instant : ℕ) :
    let bucket := (limiter.fallback.lookup key).getD
      (.new (F64.ofNat limiter.config.survivabilityMode.fallbackCapacity)
        limiter.config.survivabilityMode.fallbackRefillRatePerSec created)
    allowedByBucket (limiter.enterDegraded key capacity created instant).1 =
        (bucket.tryConsume instant).1.allowed ∧
      (limiter.enterDegraded key capacity created instant).2 =
        { limiter with fallback := limiter.fallback.insert key (bucket.tryConsume instant).2 } := by
  unfold RateLimiter.enterDegraded
  rw [RateLimit.enterDegraded_of_enabled henabled]
  exact ⟨Bool.and_true _, rfl⟩

/-- What was allowed from some point on, after one more call in degraded mode. -/
theorem localTimes_append (key : String) {entry : String × ℕ} {allowed : Bool}
    (hallowed : r'.allowedLocally = r.allowedLocally ++ if allowed then [entry] else [])
    (since : ℕ) :
    (r.allowedLocally.length < since ∧ r'.localTimes key since = []) ∨
      r'.localTimes key since =
        r.localTimes key since ++ if allowed then (localAt key entry).toList else [] := by
  unfold Replica.localTimes
  rw [hallowed]
  cases allowed with
  | true => exact filterMap_drop_concat (localAt key) r.allowedLocally entry since
  | false =>
    right
    simp

/-- One more call was allowed exactly if the bucket of the key allowed this one. -/
theorem Replica.Degrades.counted {c : ℕ} {task : CallTask} (hdegrades : r.Degrades c task r')
    (htask : r.calls[c]? = some task) (hphase : task.phase = .degrading)
    (h : r.calls.countP (CallTask.allowedLocally key) = (r.localTimes key 0).length) :
    r'.calls.countP (CallTask.allowedLocally key) = (r'.localTimes key 0).length := by
  have hset := countP_set htask { task with phase := .degraded hdegrades.result }
    (CallTask.allowedLocally key)
  have hold : task.allowedLocally key = false := by simp [CallTask.allowedLocally, hphase]
  rw [← hdegrades.calls_eq, hold, h, Bool.toNat_false, Nat.add_zero] at hset
  rcases localTimes_append key hdegrades.allowedLocally_eq 0 with ⟨hzero, -⟩ | hzero
  · exact absurd hzero (Nat.not_lt_zero _)
  · rw [hset, hzero, List.length_append]
    by_cases hkey : task.key = key
    · cases hallowed : allowedByBucket hdegrades.result with
      | true => simp [CallTask.allowedLocally, localAt, hkey, hallowed]
      | false => simp [CallTask.allowedLocally, hallowed]
    · simp [CallTask.allowedLocally, localAt, hkey]

/-- A call in degraded mode; the local bucket pays. -/
theorem Replica.Paid.degrade (h : r.Paid key) {c : ℕ} {task : CallTask}
    (htask : r.calls[c]? = some task) (hphase : task.phase = .degrading)
    (hdegrades : r.Degrades c task r') : r'.Paid key := by
  have hcounted := hdegrades.counted htask hphase h.counted
  obtain ⟨created, instant, result, limiter, hclock, hcreated, hresult, -, hlimiter, hlater,
    hallowedLocally⟩ := hdegrades
  refine ⟨fun henabled' rate hrate => ?_, hcounted⟩
  cases henabled : r.limiter.config.survivabilityMode.enabled with
  | false =>
    -- without local buckets nothing is taken from one
    have hsame : limiter = r.limiter := by
      have hdisabled := RateLimiter.enterDegraded_of_disabled henabled task.key task.capacity
        created instant
      rw [hresult] at hdisabled
      exact hdisabled.2
    rw [hlimiter, hsame, henabled] at henabled'
    simp at henabled'
  | true =>
    obtain ⟨hallowed, hbucket⟩ := RateLimiter.enterDegraded_of_enabled henabled task.key
      task.capacity created instant
    rw [hresult] at hallowed hbucket
    dsimp only at hallowed hbucket
    have htimes := localTimes_append key hallowedLocally
    rw [hlimiter, hbucket] at hrate ⊢
    obtain ⟨hbalance, hbefore⟩ := h.fallback henabled rate hrate
    rw [hlater]
    dsimp only at hrate ⊢
    -- the bucket of the key pays, that of another key is left alone
    by_cases hkey : task.key = key
    · subst hkey
      simp only [hrate, F64.ofNat_eq] at hallowed ⊢
      have hconsume := fun since => (hbalance since).tryConsume hcreated
        fun bucket hb => (hbefore bucket hb).trans (hclock.trans hcreated)
      rw [AList.lookup_insert]
      refine ⟨fun since => ?_, fun bucket hb => ?_⟩
      · rcases htimes since with ⟨-, hnil⟩ | hsome
        · rw [hnil]
          exact (hconsume since).1.restart
        · have hown : r'.localTimes task.key since = if allowedByBucket result then
              r.localTimes task.key since ++ [(instant : ℚ) / 10 ^ 9]
              else r.localTimes task.key since := by
            rw [hsome]
            split <;> simp [localAt]
          rw [hown, hallowed]
          exact (hconsume since).1
      · rw [← Option.some.inj hb]
        exact (hconsume 0).2.2.le
    · rw [AList.lookup_insert_ne (Ne.symm hkey)]
      refine ⟨fun since => ?_, fun bucket hb => ?_⟩
      · rcases htimes since with ⟨-, hnil⟩ | hsome
        · rw [hnil]
          exact (hbalance since).restart
        · have hother : localAt key (task.key, instant) = none := if_neg hkey
          rw [hsome, hother]
          simpa using hbalance since
      · exact (hbefore bucket hb).trans (hclock.trans hcreated)

end Local

/-! ## Which command is for which call -/

/-- A call that waits for a command, or was decided by one, has sent that command, and the decision
is the one of the script. -/
def OwnCommand (commands : List Command) (i c : ℕ) (task : CallTask) : Prop :=
  ∀ id, task.command = some id → ∃ command, commands[id]? = some command ∧
    command.caller = (i, c) ∧ command.key = task.key ∧
    ∀ decision, task.phase = .decided id decision →
      ∃ reply, command.reply = some reply ∧ decision.allowed = reply.allowed

/-- Commands are neither changed nor taken back, and a reply stays. -/
def Continues (commands commands' : List Command) : Prop :=
  ∀ (id : ℕ) (command : Command), commands[id]? = some command →
    ∃ reply, commands'[id]? = some { command with reply := reply } ∧
      (command.reply.isSome = true → reply = command.reply)

theorem continues_refl (commands : List Command) : Continues commands commands :=
  fun _ command hcommand => ⟨command.reply, hcommand, fun _ => rfl⟩

theorem continues_concat (commands : List Command) (command : Command) :
    Continues commands (commands ++ [command]) :=
  fun _ old hold => ⟨old.reply, getElem?_concat_of_some hold command, fun _ => rfl⟩

theorem continues_set {commands : List Command} {id : ℕ} {command : Command}
    (hcommand : commands[id]? = some command) (hnew : command.reply = none) (reply : ScriptReply) :
    Continues commands (commands.set id { command with reply := some reply }) := by
  intro other old hold
  by_cases heq : id = other
  · subst heq
    rw [hcommand, Option.some.injEq] at hold
    subst hold
    exact ⟨some reply, getElem?_set_self hcommand _, fun hsome => by simp [hnew] at hsome⟩
  · exact ⟨old.reply, by rw [List.getElem?_set_ne heq, hold], fun _ => rfl⟩

theorem OwnCommand.continues {commands commands' : List Command} {i c : ℕ} {task : CallTask}
    (h : OwnCommand commands i c task) (hcontinues : Continues commands commands') :
    OwnCommand commands' i c task := by
  intro id hid
  obtain ⟨command, hcommand, hcaller, hkey, hdecided⟩ := h id hid
  obtain ⟨reply, hcommand', hreply⟩ := hcontinues id command hcommand
  refine ⟨_, hcommand', hcaller, hkey, fun decision hdecision => ?_⟩
  obtain ⟨old, hold, hallowed⟩ := hdecided decision hdecision
  exact ⟨old, (hreply (by simp [hold])).trans hold, hallowed⟩

/-- What the caller reads off the reply is what the script decided. -/
theorem allowed_of_fromStr {reply : ScriptReply} {resp : LuaResponse}
    (h : LuaResponse.fromStr reply.text = some resp) : (resp.allowed == 1) = reply.allowed := by
  rw [fromStr_text] at h
  cases hallowed : reply.allowed with
  | true =>
    rw [hallowed, if_pos rfl] at h
    obtain ⟨n, -, rfl⟩ := Option.map_eq_some_iff.mp h
    rfl
  | false =>
    rw [hallowed, if_neg (by simp)] at h
    obtain ⟨n, -, rfl⟩ := Option.map_eq_some_iff.mp h
    rfl

/-! ## Frames of a call's step -/

section CallMove
variable {commands commands' : List Command} {i c : ℕ} {r r' : Replica} {task : CallTask}

theorem callMove_calls (hmove : r.CallMove commands i c task r' commands') :
    ∃ phase, r'.calls = r.calls.set c { task with phase := phase } := by
  cases hmove with
  | send ms hphase hbuckets hcalls => exact ⟨_, hcalls⟩
  | decide hphase hreply hresp hdecision hbuckets hcalls => exact ⟨_, hcalls⟩
  | degrade hphase hdegrades => exact ⟨_, hdegrades.calls_eq⟩
  | leave hphase hbefore hbuckets hcalls => exact ⟨_, hcalls⟩

theorem callMove_commands (hmove : r.CallMove commands i c task r' commands') :
    commands' = commands ∨ ∃ ms, commands' = commands ++ [task.send (i, c) ms] := by
  cases hmove with
  | send ms hphase hbuckets hcalls => exact .inr ⟨ms, rfl⟩
  | decide hphase hreply hresp hdecision hbuckets hcalls => exact .inl rfl
  | degrade hphase hdegrades => exact .inl rfl
  | leave hphase hbefore hbuckets hcalls => exact .inl rfl

theorem callMove_continues (hmove : r.CallMove commands i c task r' commands') :
    Continues commands commands' := by
  rcases callMove_commands hmove with rfl | ⟨ms, rfl⟩
  · exact continues_refl _
  · exact continues_concat _ _

/-- After a step of a call each call of the replica has its own command. -/
theorem ownCommand_of_callMove (htask : r.calls[c]? = some task)
    (hmove : r.CallMove commands i c task r' commands')
    (h : ∀ (c : ℕ) (task : CallTask), r.calls[c]? = some task → OwnCommand commands i c task) :
    ∀ (c : ℕ) (task : CallTask), r'.calls[c]? = some task → OwnCommand commands' i c task := by
  have hcontinues := callMove_continues hmove
  -- the other calls keep their commands
  have hset : ∀ new : CallTask, r'.calls = r.calls.set c new → OwnCommand commands' i c new →
      ∀ (c' : ℕ) (task' : CallTask), r'.calls[c']? = some task' →
        OwnCommand commands' i c' task' := by
    intro new hcalls hnew c' task' htask'
    rw [hcalls] at htask'
    by_cases heq : c = c'
    · subst heq
      rw [getElem?_set_self htask, Option.some.injEq] at htask'
      exact htask' ▸ hnew
    · rw [List.getElem?_set_ne heq] at htask'
      exact (h c' task' htask').continues hcontinues
  cases hmove with
  | send ms hphase hbuckets hcalls =>
    refine hset _ hcalls fun id hid => ?_
    have heq : commands.length = id := by simpa [CallTask.command] using hid
    subst heq
    exact ⟨task.send (i, c) ms, by simp, rfl, rfl, fun decision hdecision => by simp at hdecision⟩
  | decide hphase hreply hresp hdecision hbuckets hcalls =>
    rename_i id reply resp decision
    refine hset _ hcalls fun id' hid' => ?_
    have heq : id = id' := by simpa [CallTask.command] using hid'
    subst heq
    obtain ⟨command, hcommand, hcaller, hkey, -⟩ :=
      h c task htask id (by simp [CallTask.command, hphase])
    rw [hcommand, Option.bind_some] at hreply
    refine ⟨command, hcommand, hcaller, hkey, fun decision' hdecision' => ⟨reply, hreply, ?_⟩⟩
    have hsame : decision = decision' := by simpa using hdecision'
    rw [← hsame, hdecision, allowed_of_fromStr hresp]
  | degrade hphase hdegrades =>
    refine hset _ hdegrades.calls_eq fun id hid => ?_
    simp [CallTask.command] at hid
  | leave hphase hbefore hbuckets hcalls =>
    refine hset _ hcalls fun id hid => ?_
    rcases hphase with rfl | rfl
    · simp [CallTask.command] at hid
    · simp [CallTask.command] at hid

/-- The local bucket still pays after a step of a call. -/
theorem paid_of_callMove {key : String} (htask : r.calls[c]? = some task)
    (hmove : r.CallMove commands i c task r' commands') (h : r.Paid key) : r'.Paid key := by
  -- a step between phases without a local decision counts nothing
  have hframe : ∀ phase, (∀ result, task.phase ≠ .degraded result) →
      (∀ result, phase ≠ .degraded result) → r.SameBuckets r' →
      r'.calls = r.calls.set c { task with phase := phase } → r'.Paid key := by
    intro phase hbefore hafter hbuckets hcalls
    have hset := countP_set htask { task with phase := phase } (CallTask.allowedLocally key)
    have hold : task.allowedLocally key = false := by
      unfold CallTask.allowedLocally
      split
      · rename_i result hresult
        exact absurd hresult (hbefore result)
      · rfl
    have hnew : CallTask.allowedLocally key { task with phase := phase } = false := by
      unfold CallTask.allowedLocally
      split
      · rename_i result hresult
        exact absurd hresult (hafter result)
      · rfl
    rw [← hcalls, hold, hnew] at hset
    exact h.frame hbuckets (Nat.add_right_cancel hset)
  cases hmove with
  | send ms hphase hbuckets hcalls => exact hframe _ (by simp [hphase]) (by simp) hbuckets hcalls
  | decide hphase hreply hresp hdecision hbuckets hcalls =>
    exact hframe _ (by simp [hphase]) (by simp) hbuckets hcalls
  | degrade hphase hdegrades => exact h.degrade htask hphase hdegrades
  | leave hphase hbefore hbuckets hcalls =>
    refine hframe _ hbefore ?_ hbuckets hcalls
    rcases hphase with rfl | rfl
    · simp
    · simp

end CallMove

/-! ## The fleet -/

/-- A key with the capacity and the rate that every check on it brings. -/
structure FleetSetting where
  key : String
  capacity : ℕ
  rate : ℚ
  capacity_pos : 1 ≤ capacity
  rate_pos : 0 < rate

/-- Checks on the key bring its capacity and rate, and Redis runs a command on it no more than a
quarter of a second off the time the command carries. -/
def Fleet.Timely (setting : FleetSetting) (s : Fleet) : FleetAction → Prop
  | .check _ key capacity refillRate =>
    key = setting.key → capacity = setting.capacity ∧ refillRate = .finite setting.rate
  | .execute id now _ => ∀ command ∈ s.commands[id]?, command.key = setting.key →
    command.nowMs ≤ now + 250 ∧ now ≤ command.nowMs + 250
  | _ => True

/-- The time a command on the key carried, if Redis ran it and admitted the call. -/
def admittedAt (commands : List Command) (key : String) (id : ℕ) : Option ℚ :=
  commands[id]?.bind fun command =>
    if command.key = key ∧ command.reply.any ScriptReply.allowed = true then
      some (command.nowMs : ℚ)
    else none

/-- Times carried by the commands on the key that were admitted, from some point on. -/
def Fleet.admittedTimes (s : Fleet) (key : String) (since : ℕ) : List ℚ :=
  (s.ran.drop since).filterMap (admittedAt s.commands key)

section Steps
variable {setting : FleetSetting} {s s' : Fleet} {action : FleetAction}

theorem forall_replica_set {P : Replica → Prop} {i : ℕ} {new : Replica}
    (h : ∀ r ∈ s.replicas, P r) (hnew : P new) : ∀ r ∈ (s.setReplica i new).replicas, P r := by
  intro r hr
  rcases List.mem_or_eq_of_mem_set hr with hold | heq
  · exact h r hold
  · exact heq ▸ hnew

theorem move_continues (hmove : s.Move action s') : Continues s.commands s'.commands := by
  cases hmove with
  | start config connected => exact continues_refl _
  | check key capacity refillRate hr => exact continues_refl _
  | call action hr htask hcall => exact callMove_continues hcall
  | ping hr hcalls hbuckets => exact continues_refl _
  | execute hcommand hnew hexpired => exact continues_set hcommand hnew _

theorem move_paid {key : String} (hmove : s.Move action s') (h : ∀ r ∈ s.replicas, r.Paid key) :
    ∀ r ∈ s'.replicas, r.Paid key := by
  cases hmove with
  | start config connected =>
    intro r hr
    rcases List.mem_append.mp hr with hr | hr
    · exact h r hr
    · rw [List.mem_singleton.mp hr]
      exact Replica.paid_fromConfig key config connected
  | check key capacity refillRate hr =>
    refine forall_replica_set h ?_
    refine (h _ (List.mem_of_getElem? hr)).frame ⟨rfl, rfl, rfl, rfl⟩ ?_
    rw [List.countP_append]
    rfl
  | call action hr htask hcall =>
    have hpaid := paid_of_callMove htask hcall (h _ (List.mem_of_getElem? hr))
    exact forall_replica_set h hpaid
  | ping hr hcalls hbuckets =>
    refine forall_replica_set h ((h _ (List.mem_of_getElem? hr)).frame hbuckets ?_)
    rw [hcalls]
  | execute hcommand hnew hexpired => exact h

/-- What was run, and for which call. -/
structure Fleet.Ledger (s : Fleet) : Prop where
  ran_iff : ∀ id, id ∈ s.ran ↔ ∃ command, s.commands[id]? = some command ∧
    command.reply.isSome = true
  nodup : s.ran.Nodup
  own : ∀ (i : ℕ) (r : Replica), s.replicas[i]? = some r →
    ∀ (c : ℕ) (task : CallTask), r.calls[c]? = some task → OwnCommand s.commands i c task

/-- The replies that were there stay, and no reply comes with a step of a call. -/
theorem Fleet.Ledger.ran_iff_concat (h : s.Ledger) (command : Command)
    (hnew : command.reply = none) (id : ℕ) :
    id ∈ s.ran ↔ ∃ old, (s.commands ++ [command])[id]? = some old ∧ old.reply.isSome = true := by
  rw [h.ran_iff id]
  constructor
  · rintro ⟨old, hold, hsome⟩
    exact ⟨old, getElem?_concat_of_some hold command, hsome⟩
  · rintro ⟨old, hold, hsome⟩
    rcases getElem?_concat_cases hold with hold | ⟨-, rfl⟩
    · exact ⟨old, hold, hsome⟩
    · simp [hnew] at hsome

theorem Fleet.Ledger.move (h : s.Ledger) (hmove : s.Move action s') : s'.Ledger := by
  have hcontinues := move_continues hmove
  cases hmove with
  | start config connected =>
    refine ⟨h.ran_iff, h.nodup, fun i r hr c task htask => ?_⟩
    rcases getElem?_concat_cases hr with hr | ⟨-, rfl⟩
    · exact h.own i r hr c task htask
    · simp at htask
  | check key capacity refillRate hr =>
    rename_i i r
    refine ⟨h.ran_iff, h.nodup, fun i' r' hr' c task htask => ?_⟩
    by_cases heq : i = i'
    · subst heq
      rw [Fleet.setReplica, getElem?_set_self hr, Option.some.injEq] at hr'
      subst hr'
      rcases getElem?_concat_cases htask with htask | ⟨-, rfl⟩
      · exact h.own i r hr c task htask
      · intro id hid
        simp [CallTask.command] at hid
    · rw [Fleet.setReplica, List.getElem?_set_ne heq] at hr'
      exact h.own i' r' hr' c task htask
  | call action hr htask hcall =>
    rename_i i c r after task commands
    refine ⟨?_, h.nodup, fun i' r' hr' c' task' htask' => ?_⟩
    · rcases callMove_commands hcall with rfl | ⟨ms, rfl⟩
      · exact h.ran_iff
      · exact h.ran_iff_concat _ rfl
    · by_cases heq : i = i'
      · subst heq
        rw [Fleet.setReplica, getElem?_set_self hr, Option.some.injEq] at hr'
        subst hr'
        exact ownCommand_of_callMove htask hcall (h.own i r hr) c' task' htask'
      · rw [Fleet.setReplica, List.getElem?_set_ne heq] at hr'
        exact (h.own i' r' hr' c' task' htask').continues hcontinues
  | ping hr hcalls hbuckets =>
    rename_i i r after
    refine ⟨h.ran_iff, h.nodup, fun i' r' hr' c task htask => ?_⟩
    by_cases heq : i = i'
    · subst heq
      rw [Fleet.setReplica, getElem?_set_self hr, Option.some.injEq] at hr'
      rw [← hr', hcalls] at htask
      exact h.own i r hr c task htask
    · rw [Fleet.setReplica, List.getElem?_set_ne heq] at hr'
      exact h.own i' r' hr' c task htask
  | execute hcommand hnew hexpired =>
    rename_i id now expired command
    -- a command that has no reply yet is not among those that ran
    have hfresh : id ∉ s.ran := by
      intro hran
      obtain ⟨old, hold, hsome⟩ := (h.ran_iff id).mp hran
      rw [hcommand, Option.some.injEq] at hold
      simp [← hold, hnew] at hsome
    refine ⟨fun id' => ?_, ?_, fun i r hr c task htask =>
      (h.own i r hr c task htask).continues hcontinues⟩
    · rw [Fleet.record, List.mem_append, List.mem_singleton]
      by_cases heq : id = id'
      · subst heq
        simp [getElem?_set_self hcommand]
      · rw [List.getElem?_set_ne heq, h.ran_iff id']
        simp [Ne.symm heq]
    · exact List.nodup_append.mpr ⟨h.nodup, by simp, by
        intro old hold new hone
        rw [List.mem_singleton] at hone
        exact fun heq => hfresh (hone ▸ heq ▸ hold)⟩

/-- All that concerns the key brings its capacity and rate. -/
structure Fleet.Uses (setting : FleetSetting) (s : Fleet) : Prop where
  calls : ∀ r ∈ s.replicas, ∀ task ∈ r.calls, task.key = setting.key →
    task.capacity = setting.capacity ∧ task.refillRate = .finite setting.rate
  commands : ∀ command ∈ s.commands, command.nowMs < 2 ^ 64 ∧
    (command.key = setting.key →
      command.capacity = setting.capacity ∧ command.refillRate = .finite setting.rate)

theorem Fleet.Uses.move (h : s.Uses setting) (htimely : s.Timely setting action)
    (hmove : s.Move action s') : s'.Uses setting := by
  cases hmove with
  | start config connected =>
    refine ⟨fun r hr task htask => ?_, h.commands⟩
    rcases List.mem_append.mp hr with hr | hr
    · exact h.calls r hr task htask
    · rw [List.mem_singleton.mp hr] at htask
      simp at htask
  | check key capacity refillRate hr =>
    refine ⟨forall_replica_set h.calls fun task htask => ?_, h.commands⟩
    rcases List.mem_append.mp htask with htask | htask
    · exact h.calls _ (List.mem_of_getElem? hr) task htask
    · rw [List.mem_singleton.mp htask]
      exact htimely
  | call action hr htask hcall =>
    rename_i i c r after task commands
    have htask' := h.calls r (List.mem_of_getElem? hr) task (List.mem_of_getElem? htask)
    refine ⟨forall_replica_set h.calls fun other hother => ?_, fun command hcommand => ?_⟩
    · obtain ⟨phase, hphase⟩ := callMove_calls hcall
      rw [hphase] at hother
      rcases List.mem_or_eq_of_mem_set hother with hold | rfl
      · exact h.calls r (List.mem_of_getElem? hr) other hold
      · exact htask'
    · rcases callMove_commands hcall with rfl | ⟨ms, rfl⟩
      · exact h.commands command hcommand
      · rcases List.mem_append.mp hcommand with hold | hsent
        · exact h.commands command hold
        · rw [List.mem_singleton.mp hsent]
          exact ⟨Nat.mod_lt _ (by norm_num), htask'⟩
  | ping hr hcalls hbuckets =>
    refine ⟨forall_replica_set h.calls fun task htask => ?_, h.commands⟩
    rw [hcalls] at htask
    exact h.calls _ (List.mem_of_getElem? hr) task htask
  | execute hcommand hnew hexpired =>
    have hbefore := h.commands _ (List.mem_of_getElem? hcommand)
    refine ⟨h.calls, fun command hset => ?_⟩
    rcases List.mem_or_eq_of_mem_set hset with hold | rfl
    · exact h.commands command hold
    · exact hbefore

/-- What was admitted stays so. -/
theorem admittedAt_of_continues {commands commands' : List Command}
    (hcontinues : Continues commands commands') {id : ℕ} {command : Command}
    (hcommand : commands[id]? = some command) (hsome : command.reply.isSome = true) (key : String) :
    admittedAt commands' key id = admittedAt commands key id := by
  obtain ⟨reply, hafter, hreply⟩ := hcontinues id command hcommand
  rw [hreply hsome] at hafter
  rw [admittedAt, hafter, admittedAt, hcommand]

/-- The admissions that are there stay as they are. -/
theorem Fleet.Ledger.filterMap_admittedAt (h : s.Ledger) {commands' : List Command}
    (hcontinues : Continues s.commands commands') (key : String) (since : ℕ) :
    (s.ran.drop since).filterMap (admittedAt commands' key) = s.admittedTimes key since := by
  refine List.filterMap_congr fun id hid => ?_
  obtain ⟨command, hcommand, hsome⟩ := (h.ran_iff id).mp (List.mem_of_mem_drop hid)
  exact admittedAt_of_continues hcontinues hcommand hsome key

/-- The hash of the key pays for the admissions of all replicas, from any point on. -/
def Fleet.Pays (setting : FleetSetting) (s : Fleet) : Prop :=
  ∀ since, KeyBalance setting.capacity setting.rate (s.found setting.key)
    (s.admittedTimes setting.key since)

theorem Fleet.Pays.frame (h : s.Pays setting) (hledger : s.Ledger)
    (hcontinues : Continues s.commands s'.commands) (hran : s'.ran = s.ran)
    (hredis : s'.redis = s.redis) : s'.Pays setting := by
  intro since
  rw [Fleet.admittedTimes, hran, hledger.filterMap_admittedAt hcontinues, Fleet.found, hredis]
  exact h since

/-- The admissions once a command has run. -/
theorem Fleet.Ledger.admittedTimes_record (h : s.Ledger) {id : ℕ} {command : Command}
    (hcommand : s.commands[id]? = some command) (hnew : command.reply = none)
    (run : ScriptReply × ExpiringHash) (key : String) (since : ℕ) :
    (s.record id command run).admittedTimes key since = [] ∨
      (s.record id command run).admittedTimes key since =
        if command.key = key ∧ run.1.allowed = true then
          s.admittedTimes key since ++ [(command.nowMs : ℚ)]
        else s.admittedTimes key since := by
  have hlast : admittedAt (s.record id command run).commands key id =
      if command.key = key ∧ run.1.allowed = true then some (command.nowMs : ℚ) else none := by
    rw [admittedAt, Fleet.record, getElem?_set_self hcommand]
    rfl
  have hbefore : (s.ran.drop since).filterMap (admittedAt (s.record id command run).commands key) =
      s.admittedTimes key since :=
    h.filterMap_admittedAt (continues_set hcommand hnew run.1) key since
  have hconcat := filterMap_drop_concat (admittedAt (s.record id command run).commands key)
    s.ran id since
  rw [hbefore, hlast] at hconcat
  rcases hconcat with ⟨-, hnil⟩ | hsome
  · exact .inl hnil
  · refine .inr (hsome.trans ?_)
    split
    · rfl
    · exact List.append_nil _

/-- A run of the script on the key. -/
theorem Fleet.Pays.execute (h : s.Pays setting) {command : Command} {now : ℕ} {expired : Bool}
    (htimely : TimelyCommand setting.capacity setting.rate command now)
    (hexpired : expired = true → (s.found setting.key).deadline.any (· ≤ now) = true)
    (since : ℕ) :
    let run := executeScript (if expired then {} else s.found setting.key) command now
    KeyBalance setting.capacity setting.rate run.2
      (if run.1.allowed then s.admittedTimes setting.key since ++ [(command.nowMs : ℚ)]
        else s.admittedTimes setting.key since) := by
  cases expired with
  | true =>
    exact (h since).execute_expired htimely setting.capacity_pos setting.rate_pos (hexpired rfl)
  | false => exact (h since).execute htimely setting.capacity_pos setting.rate_pos

theorem Fleet.Pays.move (h : s.Pays setting) (hledger : s.Ledger) (huses : s.Uses setting)
    (htimely : s.Timely setting action) (hmove : s.Move action s') : s'.Pays setting := by
  have hcontinues := move_continues hmove
  cases hmove with
  | start config connected => exact h.frame hledger hcontinues rfl rfl
  | check key capacity refillRate hr => exact h.frame hledger hcontinues rfl rfl
  | call action hr htask hcall => exact h.frame hledger hcontinues rfl rfl
  | ping hr hcalls hbuckets => exact h.frame hledger hcontinues rfl rfl
  | execute hcommand hnew hexpired =>
    rename_i id now expired command
    intro since
    set run := executeScript (if expired then {} else s.found command.key) command now with hrun
    have htimes := hledger.admittedTimes_record hcommand hnew run setting.key since
    by_cases hkey : command.key = setting.key
    · obtain ⟨hearly, hlate⟩ := htimely command hcommand hkey
      obtain ⟨hnowMs, hbrings⟩ := huses.commands command (List.mem_of_getElem? hcommand)
      obtain ⟨hcapacity, hrate⟩ := hbrings hkey
      rw [hkey] at hexpired hrun
      have hpaid := h.execute ⟨hcapacity, hrate, hnowMs, hearly, hlate⟩ hexpired since
      rw [← hrun] at hpaid
      have hfound : (s.record id command run).found setting.key = run.2 := by
        rw [Fleet.found, Fleet.record, hkey, AList.lookup_insert, Option.getD_some]
      rw [hfound]
      rcases htimes with hnil | hsome
      · rw [hnil]
        exact hpaid.restart
      · rw [hsome]
        simpa only [hkey, true_and] using hpaid
    · -- a command on another key
      have hfound : (s.record id command run).found setting.key = s.found setting.key := by
        rw [Fleet.found, Fleet.record, AList.lookup_insert_ne (Ne.symm hkey), Fleet.found]
      rw [hfound]
      rcases htimes with hnil | hsome
      · rw [hnil]
        exact (h since).restart
      · rw [hsome, if_neg fun hboth => hkey hboth.1]
        exact h since

end Steps

/-! ## Main result -/

/-- All that a run of the fleet keeps. -/
structure Fleet.Balanced (setting : FleetSetting) (s : Fleet) : Prop where
  ledger : s.Ledger
  uses : s.Uses setting
  pays : s.Pays setting
  paid : ∀ r ∈ s.replicas, r.Paid setting.key

/-- A fleet without replicas, over a Redis that does not have the key. -/
theorem Fleet.balanced_init {setting : FleetSetting} {redis : AList fun _ : String => ExpiringHash}
    (hnew : redis.lookup setting.key = none) : Fleet.Balanced setting { redis := redis } := by
  have hfound : Fleet.found { redis := redis } setting.key = {} := by
    rw [Fleet.found, hnew]
    rfl
  refine ⟨⟨by simp, List.nodup_nil, by simp⟩, ⟨by simp, by simp⟩, fun since => ?_, by simp⟩
  rw [hfound, Fleet.admittedTimes, List.drop_nil, List.filterMap_nil]
  exact ⟨.inl ⟨rfl, rfl⟩, fun tokens last hhash => by simp [finiteHash] at hhash⟩

theorem Fleet.Balanced.step {setting : FleetSetting} {s s' : Fleet} {action : FleetAction}
    (h : s.Balanced setting) (htimely : s.Timely setting action)
    (hstep : s.step action = some s') : s'.Balanced setting := by
  have hmove := Fleet.move_of_step hstep
  exact ⟨h.ledger.move hmove, h.uses.move htimely hmove,
    h.pays.move h.ledger h.uses htimely hmove, move_paid hmove h.paid⟩

/-- From any point of any run of a fleet on, the commands Redis admitted for a key, whichever
replicas sent them, are within its capacity and rate; each call Redis allowed has one of them as
its own; and the calls a replica allowed from its local bucket are within the fallback capacity and
rate of that replica. -/
theorem fleet_admissions_bounded (setting : FleetSetting)
    (redis : AList fun _ : String => ExpiringHash) (hnew : redis.lookup setting.key = none)
    (s : Fleet) (hs : Run Fleet.step (Fleet.Timely setting) { redis := redis } s) :
    (∀ since, WithinRate setting.capacity (setting.rate / 1000)
        (s.admittedTimes setting.key since) (s.admittedTimes setting.key since).length) ∧
      s.ran.Nodup ∧
      (∀ (i : ℕ) (r : Replica), s.replicas[i]? = some r →
        ∀ (c : ℕ) (task : CallTask), r.calls[c]? = some task → task.key = setting.key →
          ∀ id decision, task.phase = .decided id decision → decision.allowed = true →
            id ∈ s.ran ∧ ∃ command, s.commands[id]? = some command ∧ command.caller = (i, c) ∧
              admittedAt s.commands setting.key id = some (command.nowMs : ℚ)) ∧
      ∀ r ∈ s.replicas,
        r.calls.countP (CallTask.allowedLocally setting.key) =
            (r.localTimes setting.key 0).length ∧
          (r.limiter.config.survivabilityMode.enabled = true → ∀ rate,
            r.limiter.config.survivabilityMode.fallbackRefillRatePerSec = .finite rate →
              ∀ since, WithinRate r.limiter.config.survivabilityMode.fallbackCapacity rate
                (r.localTimes setting.key since) (r.localTimes setting.key since).length) := by
  have hbalanced : s.Balanced setting :=
    hs.invariant (Fleet.balanced_init hnew) fun _ _ _ hbefore htimely hstep =>
      hbefore.step htimely hstep
  refine ⟨fun since => (hbalanced.pays since).balance.withinRate le_rfl, hbalanced.ledger.nodup,
    ?_, fun r hr => ⟨(hbalanced.paid r hr).counted, fun henabled rate hrate since =>
      (((hbalanced.paid r hr).fallback henabled rate hrate).1 since).within⟩⟩
  intro i r hr c task htask hkey id decision hphase hallowed
  obtain ⟨command, hcommand, hcaller, hsame, hdecided⟩ :=
    hbalanced.ledger.own i r hr c task htask id (by simp [CallTask.command, hphase])
  obtain ⟨reply, hreply, heq⟩ := hdecided decision hphase
  refine ⟨(hbalanced.ledger.ran_iff id).mpr ⟨command, hcommand, by simp [hreply]⟩, command,
    hcommand, hcaller, ?_⟩
  rw [admittedAt, hcommand, Option.bind_some, if_pos]
  exact ⟨hsame.trans hkey, by rw [hreply, Option.any_some, ← heq, hallowed]⟩

/-! ### Three replicas -/

instance (setting : FleetSetting) (s : Fleet) : (action : FleetAction) →
    Decidable (s.Timely setting action)
  | .start _ _ => inferInstanceAs (Decidable True)
  | .check _ _ _ _ => inferInstanceAs (Decidable (_ → _))
  | .call _ _ _ => inferInstanceAs (Decidable True)
  | .newPing _ => inferInstanceAs (Decidable True)
  | .ping _ _ _ => inferInstanceAs (Decidable True)
  | .execute id now _ => inferInstanceAs (Decidable (∀ command ∈ s.commands[id]?,
      command.key = setting.key → command.nowMs ≤ now + 250 ∧ now ≤ command.nowMs + 250))

def sharedSetting : FleetSetting :=
  ⟨flakySetting.key, flakySetting.capacity, 1, by decide, by norm_num⟩

/-- Two commands are on the way at once. The first one runs after its caller has given up and asked
the local bucket. Then the key expires and a third replica starts. -/
def sharedRun : List FleetAction :=
  let check := fun i => .check i sharedSetting.key sharedSetting.capacity (.finite 1)
  [.start flakySetting.config true, .start flakySetting.config true, check 0, check 1,
    .call 0 0 (.acquire 5000), .call 1 0 (.acquire 5100), .call 0 0 .fail,
    .call 0 0 (.degrade 10 20), .execute 0 5050 false, .execute 1 5060 false, .call 1 0 .reply,
    .start flakySetting.config true, check 2, .call 2 0 (.acquire 9200), .execute 2 9060 true,
    .call 2 0 .reply]

def sharedFleet : Option Fleet := runAll Fleet.step (Fleet.Timely sharedSetting) {} sharedRun

theorem fleet_admissions_bounded_shared :
    ∃ s, sharedFleet = some s ∧ s.admittedTimes sharedSetting.key 0 = [5000, 5100, 9200] ∧
      s.replicas.map (fun r => r.localTimes sharedSetting.key 0) = [[20 / 10 ^ 9], [], []] ∧
      WithinRate sharedSetting.capacity (sharedSetting.rate / 1000)
        (s.admittedTimes sharedSetting.key 0) 3 := by
  have hsome : sharedFleet.isSome = true := by decide +kernel
  have htimes : sharedFleet.map (fun s => s.admittedTimes sharedSetting.key 0) =
      some [5000, 5100, 9200] := by decide +kernel
  have hlocal : sharedFleet.map (fun s =>
      s.replicas.map fun r => r.localTimes sharedSetting.key 0) =
        some [[20 / 10 ^ 9], [], []] := by decide +kernel
  obtain ⟨s, hs⟩ := Option.isSome_iff_exists.mp hsome
  rw [hs, Option.map_some, Option.some.injEq] at htimes hlocal
  have hbounds := (fleet_admissions_bounded sharedSetting ∅ rfl s (run_of_runAll hs .init)).1 0
  refine ⟨s, hs, htimes, hlocal, ?_⟩
  rw [htimes] at hbounds ⊢
  exact hbounds

end RateLimit
end OpenApiGateway
