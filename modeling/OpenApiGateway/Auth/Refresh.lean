import OpenApiGateway.Auth.Registry
import OpenApiGateway.Lib.Notify
import OpenApiGateway.Lib.TransitionSystem

/-!
# The refresh loop and the calls that wait for it

`spawn_refresh_loop` of `controlplane/src/auth/jwks_cache.rs` and any number of concurrent
`validate_with_refresh` calls of `auth/mod.rs`, as one transition system. A call that meets an
unknown key id triggers a refresh (`notify_one`), waits (`notified`, for five seconds at most)
and reads the keys again; the loop waits on the same `Notify`, fetches, and then wakes all
waiters (`notify_waiters`).

The state counts the fetch attempts that have completed. A call keeps the count at its trigger
and at its second read, so that "a fetch has completed in between" is a comparison of the two.
One `Notify` carries both signals, so a call can take a trigger, its own included, for the end
of a fetch. `read_after_fetch` says when this does not happen.
-/

namespace OpenApiGateway
namespace Auth

open Lib Lib.TransitionSystem

/-! ## One call -/

/-- The arguments of a `validate_with_refresh` call on the cache. -/
structure ValidateCall where
  rawToken : String
  provider : AuthProvider
  requiredScopes : List String

/-- How far a call is. `since` is the number of completed fetch attempts at its trigger,
`readAt` the number at its second read. -/
inductive CallPhase where
  /-- The cache was found fresh; the keys are not read yet. -/
  | fresh
  /-- The first validation returned an unknown key id. -/
  | unknown
  /-- Triggered, and in `wait_for_refresh` under the timeout. -/
  | refreshing (since : ℕ)
  | awake (since : ℕ) (timedOut : Bool)
  | retried (since : ℕ) (timedOut : Bool) (readAt : ℕ)
      (result : Except AuthError ValidatedIdentity)
  /-- Returned without a second validation. -/
  | returned (result : Except AuthError ValidatedIdentity)
  /-- Dropped by its caller during the wait. -/
  | cancelled
deriving DecidableEq

namespace ValidateCall
variable {κ : Type} (jwt : JwtLib κ) (call : ValidateCall)

/-- The first step of a call: with a stale cache it returns at once. -/
def checkStale (now : ℕ) (cache : JwksCache κ) : CallPhase :=
  if cache.isStale now then .returned (.error .authProviderUnavailable) else .fresh

/-- The token of the call against a list of keys. -/
def validate (now : ℕ) (keys : List (JwksKey κ)) : Except AuthError ValidatedIdentity :=
  validateToken jwt now call.rawToken call.provider keys call.requiredScopes

/-- An unknown key is a reason to wait for a refresh, any other outcome is returned. -/
def firstRead (now : ℕ) (keys : List (JwksKey κ)) : CallPhase :=
  match call.validate jwt now keys with
  | .error .unknownKeyId => .unknown
  | other => .returned other

/-- Without interleaving, the phases of a call compute `validateWithRefresh`. -/
theorem validateWithRefresh_eq (window : RefreshWindow κ) (cache : JwksCache κ) :
    validateWithRefresh jwt window call.rawToken call.provider cache call.requiredScopes =
      match checkStale window.now cache with
      | .returned result => result
      | _ =>
        match call.firstRead jwt window.now cache.keys with
        | .returned result => result
        | _ => call.validate jwt window.later window.keysLater := by
  unfold validateWithRefresh checkStale firstRead validate
  cases hstale : cache.isStale window.now with
  | true => rfl
  | false =>
    simp only [Bool.false_eq_true, if_false]
    split <;> simp_all

end ValidateCall

/-! ## The system -/

/-- Who waits on the `Notify`. -/
inductive Waiter where
  | loop
  | caller (i : ℕ)
deriving DecidableEq

/-- Where the refresh loop is. -/
inductive LoopPhase where
  /-- In the `select!` of the next tick and a notification. -/
  | selecting
  | fetching
  /-- The attempt is over and `notify_waiters` is still to come. -/
  | fetched
deriving DecidableEq

structure CallTask where
  call : ValidateCall
  phase : CallPhase

/-- The cache of a provider, its refresh loop, and the calls that are under way. -/
structure RefreshSystem (κ : Type) where
  cache : JwksCache κ
  /-- The fetch attempts of the loop that have completed, failed ones included. -/
  attempts : ℕ := 0
  notify : Notify Waiter := {}
  loop : LoopPhase := .selecting
  calls : List CallTask := []

/-- The steps of a call, one for each point at which it can be suspended. -/
inductive CallAction where
  | readKeys (now : ℕ)
  | trigger
  | poll
  | timeout
  | cancel
  | readKeysAgain (now : ℕ)
deriving DecidableEq

/-- The steps of the loop. -/
inductive LoopAction where
  | poll
  | tick
  | fetch (now : ℕ)
  | notifyWaiters
deriving DecidableEq

inductive RefreshAction where
  | arrive (call : ValidateCall) (now : ℕ)
  | call (i : ℕ) (action : CallAction)
  | loop (action : LoopAction)

namespace RefreshSystem
variable {κ : Type} (jwt : JwtLib κ) (source : KeySource κ)

/-- A step of call `i`: its next phase, and what it does to the `Notify`. -/
def callStep (s : RefreshSystem κ) (i : ℕ) (call : ValidateCall) :
    CallPhase → CallAction → Option (CallPhase × Notify Waiter)
  | .fresh, .readKeys now => some (call.firstRead jwt now s.cache.keys, s.notify)
  | .unknown, .trigger => some (.refreshing s.attempts, s.notify.notifyOne)
  | .refreshing since, .poll =>
    let polled := s.notify.poll (.caller i)
    some (if polled.1 then .awake since false else .refreshing since, polled.2)
  | .refreshing since, .timeout => some (.awake since true, s.notify.drop (.caller i))
  | .refreshing _, .cancel => some (.cancelled, s.notify.drop (.caller i))
  | .awake since timedOut, .readKeysAgain now =>
    some (.retried since timedOut s.attempts (call.validate jwt now s.cache.keys), s.notify)
  | _, _ => none

/-- A step of the refresh loop. When the tick wins the `select!`, the loop's own wait for a
notification is dropped. -/
def loopStep (s : RefreshSystem κ) : LoopPhase → LoopAction → Option (RefreshSystem κ)
  | .selecting, .poll =>
    let polled := s.notify.poll .loop
    some { s with loop := if polled.1 then .fetching else .selecting, notify := polled.2 }
  -- the other branch of the `select!` is dropped, and with it what it was notified of
  | .selecting, .tick => some { s with loop := .fetching, notify := s.notify.drop .loop }
  | .fetching, .fetch now =>
    some
      { s with
        -- a failed attempt counts too; the cache then stays as it is
        loop := .fetched
        cache := s.cache.fetchAndStore source now
        attempts := s.attempts + 1 }
  | .fetched, .notifyWaiters =>
    some { s with loop := .selecting, notify := s.notify.notifyWaiters }
  | _, _ => none

/-- Any call or the loop takes a step, or a call arrives. -/
def step (s : RefreshSystem κ) : RefreshAction → Option (RefreshSystem κ)
  | .arrive call now =>
    some { s with calls := s.calls ++ [⟨call, ValidateCall.checkStale now s.cache⟩] }
  | .call i action =>
    match s.calls[i]? with
    | none => none
    | some task =>
      (s.callStep jwt i task.call task.phase action).map fun (phase, notify) =>
        { s with notify := notify, calls := s.calls.set i ⟨task.call, phase⟩ }
  | .loop action => s.loopStep source s.loop action

/-- No call takes a single notification, stored or handed to it, and no trigger falls between
the end of a fetch attempt and its `notify_waiters`. -/
def Separated (s : RefreshSystem κ) : RefreshAction → Prop
  | .call i .poll => ¬ s.notify.TakesOne (.caller i)
  | .call _ .trigger => s.loop ≠ .fetched
  | _ => True

instance (s : RefreshSystem κ) (action : RefreshAction) : Decidable (s.Separated action) :=
  match action with
  | .call i .poll => inferInstanceAs (Decidable (¬ s.notify.TakesOne (.caller i)))
  | .call _ .trigger => inferInstanceAs (Decidable (s.loop ≠ .fetched))
  | .call _ (.readKeys _) | .call _ .timeout | .call _ .cancel | .call _ (.readKeysAgain _)
  | .arrive _ _ | .loop _ => isTrue trivial

/-! ## The invariant -/

/-- What the counts of a call say in its phase. -/
def CountsOk (s : RefreshSystem κ) (i : ℕ) : CallPhase → Prop
  | .refreshing since =>
    since ≤ s.attempts ∧ (s.loop = .fetched → since < s.attempts) ∧
      (Waiter.caller i ∈ s.notify.released → since < s.attempts)
  | .awake since timedOut => timedOut = true ∨ since < s.attempts
  | .retried since timedOut readAt _ => timedOut = true ∨ since < readAt
  | _ => True

/-- What holds in every state of a separated run. -/
structure Inv (s : RefreshSystem κ) : Prop where
  counts : ∀ i task, s.calls[i]? = some task → s.CountsOk i task.phase
  /-- Only calls that wait are known to the `Notify`. -/
  known : ∀ i, s.notify.Knows (.caller i) →
    ∃ call since, s.calls[i]? = some ⟨call, .refreshing since⟩

variable {jwt source} {s s' : RefreshSystem κ}

/-- Counts stay right when no attempt completes and the call is not released. -/
theorem CountsOk.mono {i : ℕ} {phase : CallPhase} (h : s.CountsOk i phase)
    (hattempts : s'.attempts = s.attempts) (hloop : s'.loop = .fetched → s.loop = .fetched)
    (hreleased : Waiter.caller i ∈ s'.notify.released → Waiter.caller i ∈ s.notify.released) :
    s'.CountsOk i phase := by
  cases phase with
  | refreshing since =>
    obtain ⟨hle, hfetched, hlt⟩ := h
    simp only [CountsOk, hattempts]
    exact ⟨hle, fun hl => hfetched (hloop hl), fun hr => hlt (hreleased hr)⟩
  | awake since timedOut => simpa only [CountsOk, hattempts] using h
  | retried since timedOut readAt result => exact h
  | fresh | unknown | returned result | cancelled => trivial

/-- Counts stay right when an attempt completes after the trigger of every waiting call. -/
theorem CountsOk.of_lt {i : ℕ} {phase : CallPhase} (h : s.CountsOk i phase)
    (hle : s.attempts ≤ s'.attempts)
    (hlt : ∀ since, phase = .refreshing since → since < s'.attempts) : s'.CountsOk i phase := by
  cases phase with
  | refreshing since =>
    have hsince := hlt since rfl
    exact ⟨hsince.le, fun _ => hsince, fun _ => hsince⟩
  | awake since timedOut => exact h.imp_right fun hsince => hsince.trans_le hle
  | retried since timedOut readAt result => exact h
  | fresh | unknown | returned result | cancelled => trivial

/-- What a step of a call does: nobody new is released, only the call itself can become known,
and that only while it waits; its counts are right. -/
theorem callStep_spec {i : ℕ} {task : CallTask} {action : CallAction} {phase : CallPhase}
    {notify : Notify Waiter} (hinv : s.Inv) (htask : s.calls[i]? = some task)
    (hsep : s.Separated (.call i action))
    (h : s.callStep jwt i task.call task.phase action = some (phase, notify)) :
    (∀ w ∈ notify.released, w ∈ s.notify.released) ∧
      (∀ w, notify.Knows w → (s.notify.Knows w ∧ w ≠ .caller i) ∨
        (w = .caller i ∧ ∃ since, phase = .refreshing since)) ∧
      CountsOk { s with notify := notify } i phase := by
  have hcounts := hinv.counts i task htask
  -- a call that does not wait is not known
  have hunknown : (∀ since, task.phase ≠ .refreshing since) → ¬ s.notify.Knows (.caller i) := by
    intro hne hknows
    obtain ⟨call, since, hcall⟩ := hinv.known i hknows
    rw [htask, Option.some.injEq] at hcall
    exact hne since (by rw [hcall])
  have hkeep : (∀ since, task.phase ≠ .refreshing since) → ∀ w, s.notify.Knows w →
      (s.notify.Knows w ∧ w ≠ .caller i) := by
    intro hne w hw
    exact ⟨hw, fun heq => hunknown hne (heq ▸ hw)⟩
  obtain ⟨call, old⟩ := task
  cases old <;> cases action <;>
    simp only [callStep, Option.some.injEq, Prod.mk.injEq, reduceCtorEq] at h <;>
    obtain ⟨rfl, rfl⟩ := h
  case fresh.readKeys now =>
    refine ⟨fun w hw => hw, fun w hw => Or.inl (hkeep (by simp) w hw), ?_⟩
    unfold ValidateCall.firstRead
    split <;> trivial
  case unknown.trigger =>
    refine ⟨fun w hw => by simpa using hw, ?_, le_refl _, fun hl => absurd hl hsep, ?_⟩
    · intro w hw
      exact Or.inl (hkeep (by simp) w (Notify.knows_of_notifyOne hw))
    · intro hr
      exact absurd (Or.inr (by simpa using hr)) (hunknown (by simp))
  case refreshing.poll since =>
    refine ⟨fun w hw => Notify.mem_of_mem_released_poll hw, ?_, ?_⟩
    · intro w hw
      rcases Notify.knows_of_poll hw with hw | ⟨hw, hready⟩
      · exact Or.inl hw
      · exact Or.inr ⟨hw, since, by simp [hready]⟩
    · cases hready : (s.notify.poll (.caller i)).1 with
      | true =>
        -- with no single notification taken, it was released after a fetch
        have hreleased := Notify.mem_released_of_poll hready hsep
        exact Or.inr (hcounts.2.2 hreleased)
      | false => exact hcounts.mono rfl id Notify.mem_of_mem_released_poll
  case refreshing.timeout since =>
    refine ⟨fun w hw => Notify.mem_of_mem_released_drop hw, ?_, Or.inl rfl⟩
    exact fun w hw => Or.inl (Notify.knows_of_drop hw)
  case refreshing.cancel since =>
    refine ⟨fun w hw => Notify.mem_of_mem_released_drop hw, ?_, trivial⟩
    exact fun w hw => Or.inl (Notify.knows_of_drop hw)
  case awake.readKeysAgain since timedOut now =>
    exact ⟨fun w hw => hw, fun w hw => Or.inl (hkeep (by simp) w hw), hcounts⟩

/-- A step of a call: the counts of the others do not change. -/
theorem Inv.callStep {i : ℕ} {task : CallTask} {action : CallAction} {phase : CallPhase}
    {notify : Notify Waiter} (hinv : s.Inv) (htask : s.calls[i]? = some task)
    (hsep : s.Separated (.call i action))
    (h : s.callStep jwt i task.call task.phase action = some (phase, notify)) :
    Inv { s with notify := notify, calls := s.calls.set i ⟨task.call, phase⟩ } := by
  obtain ⟨hreleased, hknows, hcounts⟩ := callStep_spec hinv htask hsep h
  constructor
  · intro j other hother
    by_cases hij : i = j
    · subst hij
      rw [getElem?_set_self htask, Option.some.injEq] at hother
      subst hother
      exact hcounts
    · rw [List.getElem?_set_ne hij] at hother
      exact (hinv.counts j other hother).mono rfl id (hreleased _)
  · intro j hj
    rcases hknows _ hj with ⟨hold, hne⟩ | ⟨heq, since, hphase⟩
    · have hij : i ≠ j := fun hij => hne (by rw [hij])
      obtain ⟨call, since, hcall⟩ := hinv.known j hold
      exact ⟨call, since, by rw [List.getElem?_set_ne hij, hcall]⟩
    · cases heq
      exact ⟨task.call, since, by rw [getElem?_set_self htask, hphase]⟩

/-- A step of the loop: the number of attempts only grows. -/
theorem Inv.loopStep {action : LoopAction} (hinv : s.Inv)
    (h : s.loopStep source s.loop action = some s') : s'.Inv := by
  cases hloop : s.loop <;> cases action <;>
    simp only [hloop, RefreshSystem.loopStep, Option.some.injEq, reduceCtorEq] at h <;> subst h
  case selecting.poll =>
    constructor
    · intro i task htask
      refine (hinv.counts i task htask).mono rfl ?_ Notify.mem_of_mem_released_poll
      intro hfetched
      simp only at hfetched
      split at hfetched <;> simp at hfetched
    · intro i hi
      rcases Notify.knows_of_poll hi with ⟨hi, -⟩ | ⟨hi, -⟩
      · exact hinv.known i hi
      · cases hi
  case selecting.tick =>
    constructor
    · intro i task htask
      exact (hinv.counts i task htask).mono rfl (by simp) Notify.mem_of_mem_released_drop
    · exact fun i hi => hinv.known i (Notify.knows_of_drop hi).1
  case fetching.fetch now =>
    refine ⟨?_, hinv.known⟩
    intro i task htask
    have hcounts := hinv.counts i task htask
    refine hcounts.of_lt (Nat.le_succ _) ?_
    intro since hphase
    rw [hphase] at hcounts
    exact Nat.lt_succ_of_le hcounts.1
  case fetched.notifyWaiters =>
    refine ⟨?_, fun i hi => hinv.known i (Notify.knows_of_notifyWaiters hi)⟩
    intro i task htask
    have hcounts := hinv.counts i task htask
    refine hcounts.of_lt le_rfl ?_
    intro since hphase
    -- every call in the queue triggered before the attempt that is now over
    rw [hphase] at hcounts
    exact hcounts.2.1 hloop

theorem Inv.arrive (hinv : s.Inv) (call : ValidateCall) (now : ℕ) :
    Inv { s with calls := s.calls ++ [⟨call, ValidateCall.checkStale now s.cache⟩] } := by
  constructor
  · intro i task htask
    rcases getElem?_concat_cases htask with hold | ⟨-, rfl⟩
    · exact hinv.counts i task hold
    · simp only [ValidateCall.checkStale]
      split <;> trivial
  · intro i hi
    obtain ⟨old, since, hold⟩ := hinv.known i hi
    exact ⟨old, since, getElem?_concat_of_some hold _⟩

theorem Inv.step {action : RefreshAction} (hinv : s.Inv) (hsep : s.Separated action)
    (h : s.step jwt source action = some s') : s'.Inv := by
  cases action with
  | arrive call now =>
    rw [← Option.some.inj h]
    exact hinv.arrive call now
  | call i action =>
    rw [RefreshSystem.step] at h
    split at h
    · simp at h
    · rename_i task htask
      obtain ⟨⟨phase, notify⟩, hcall, rfl⟩ := Option.map_eq_some_iff.mp h
      exact hinv.callStep htask hsep hcall
  | loop action => exact hinv.loopStep h

theorem inv_init (cache : JwksCache κ) : Inv { cache := cache } := by
  refine ⟨fun i task htask => ?_, fun i hi => ?_⟩
  · simp at htask
  · simp [Notify.Knows] at hi

/-- As long as no call takes a single notification and no trigger falls between the end of an
attempt and its `notify_waiters`, a call that did not time out reads the keys again only after
a fetch attempt has completed since its trigger. -/
theorem read_after_fetch (jwt : JwtLib κ) (source : KeySource κ) (cache : JwksCache κ)
    (s : RefreshSystem κ)
    (hrun : Run (RefreshSystem.step jwt source) Separated { cache := cache } s) (i : ℕ)
    (call : ValidateCall) (since : ℕ) (timedOut : Bool) (readAt : ℕ)
    (result : Except AuthError ValidatedIdentity)
    (hcall : s.calls[i]? = some ⟨call, .retried since timedOut readAt result⟩) :
    timedOut = true ∨ since < readAt := by
  have hinv : s.Inv :=
    hrun.invariant (inv_init cache) fun _ _ _ hs hsep hstep => hs.step hsep hstep
  exact hinv.counts i _ hcall

/-! ### A key rotation

The provider has rotated its key; a call brings a token under the new key. -/

namespace Rotation

def provider : AuthProvider :=
  { name := "main"
    issuer := "https://auth.example.com/"
    audience := "api-gateway"
    jwksUri := "http://localhost/.well-known/jwks.json"
    cacheTtlSeconds := 300
    clockSkewSeconds := 30 }

def identity : ValidatedIdentity :=
  { sub := "alice", iss := provider.issuer, aud := [provider.audience], scopes := [],
    expUnix := 60 }

/-- A library for which the token is one of the rotated key. -/
def jwtLib : JwtLib Unit where
  decodeHeader _ := some ⟨.rs256, some "rotated"⟩
  decode _ _ _ _ :=
    .ok
      { sub := some identity.sub
        iss := some identity.iss
        aud := .multiple identity.aud
        exp := some identity.expUnix
        nbf := none
        scope := none
        scp := none }

/-- A provider that has the rotated key. -/
def keySource : KeySource Unit where
  get _ _ := .ok ⟨[⟨"rotated", "RSA", "0vx7agoe", "AQAB"⟩]⟩
  fromRsaComponents _ _ := .ok ()

def call : ValidateCall := ⟨"token", provider, []⟩

def cache : JwksCache Unit := ⟨provider, [⟨"retired", ()⟩], 0⟩

/-- The loop waits when the call triggers. -/
def served : List RefreshAction :=
  [.loop .poll, .arrive call 1, .call 0 (.readKeys 1), .call 0 .trigger, .call 0 .poll,
    .loop .poll, .loop (.fetch 2), .loop .notifyWaiters, .call 0 .poll,
    .call 0 (.readKeysAgain 3)]

/-- The call triggers while a fetch is under way: the trigger is stored, and the call's own
wait takes it. -/
def shortCircuited : List RefreshAction :=
  [.loop .poll, .loop .tick, .arrive call 1, .call 0 (.readKeys 1), .call 0 .trigger,
    .call 0 .poll, .call 0 (.readKeysAgain 1)]

end Rotation

theorem read_after_fetch_rotation :
    ∃ s : RefreshSystem Unit,
      Run (RefreshSystem.step Rotation.jwtLib Rotation.keySource) Separated
          { cache := Rotation.cache } s ∧
        s.calls[0]? = some ⟨Rotation.call, .retried 0 false 1 (.ok Rotation.identity)⟩ ∧
        (false = true ∨ 0 < 1) := by
  have hrun : runAll (RefreshSystem.step Rotation.jwtLib Rotation.keySource) Separated
      { cache := Rotation.cache } Rotation.served = some _ := rfl
  have hreached := run_of_runAll hrun .init
  exact ⟨_, hreached, rfl, read_after_fetch _ _ _ _ hreached 0 _ _ _ _ _ rfl⟩

/-- A call whose own trigger ends its wait: it reads the keys again before any fetch attempt
has completed, and answers that the key id is unknown. -/
theorem unknown_key_without_fetch :
    ∃ s : RefreshSystem Unit,
      Run (RefreshSystem.step Rotation.jwtLib Rotation.keySource) (fun _ _ => True)
          { cache := Rotation.cache } s ∧
        s.calls[0]? =
          some ⟨Rotation.call, .retried 0 false 0 (.error .unknownKeyId)⟩ ∧
        ¬ (false = true ∨ 0 < 0) := by
  have hrun : runAll (RefreshSystem.step Rotation.jwtLib Rotation.keySource) (fun _ _ => True)
      { cache := Rotation.cache } Rotation.shortCircuited = some _ := rfl
  exact ⟨_, run_of_runAll hrun .init, rfl, by decide⟩

end RefreshSystem

end Auth
end OpenApiGateway
