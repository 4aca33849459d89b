import OpenApiGateway.Lib.TransitionSystem

/-!
# Answers through a bounded channel

One task reads the items of its input in order and puts its answer to each into a channel that holds
a limited number; when the channel is full it waits. An answer can be the last one, after which the
task is over, as it is when the input ends. At the other end a reader takes the answers out, or goes
away, and then the task ends with its next answer.

`Sound` is kept by every step. It gives the order and completeness of what the reader gets, and
`can_go_on` that the two ends never wait for each other.
-/

namespace Lib.Channel

open Lib.TransitionSystem

variable {ι ο : Type*}

/-- A task that reads items and puts its answers into a bounded channel, and the reader of the
channel. -/
structure Pump (ι ο : Type*) where
  /-- The items that the task has read. -/
  handled : List ι := []
  unread : List ι := []
  inputOver : Bool := false
  /-- An answer that is to be put into the channel, and whether it is the last one. -/
  waiting : Option (ο × Bool) := none
  running : Bool := true
  channel : List ο := []
  taken : List ο := []
  readerOpen : Bool := true

/-- What task, reader and the source of the items can do. -/
inductive Action (ι : Type*) where
  | arrive (item : ι)
  | endInput
  | read
  | put
  | take
  | close

/-- The answers to a list of items: to each up to the first one that has a last answer. -/
def answers (answer : ι → ο × Bool) : List ι → List ο
  | [] => []
  | item :: items => (answer item).1 :: if (answer item).2 then [] else answers answer items

namespace Pump

/-- All that has come in. -/
def arrived (s : Pump ι ο) : List ι := s.handled ++ s.unread

/-- The task reads only when it has no answer in hand; an answer that finds no reader ends it. -/
def step (answer : ι → ο × Bool) (capacity : ℕ) (s : Pump ι ο) : Action ι → Option (Pump ι ο)
  | .arrive item => if s.inputOver then none else some { s with unread := s.unread ++ [item] }
  | .endInput => some { s with inputOver := true }
  | .read =>
    match s.running, s.waiting with
    | true, none =>
      match s.unread with
      | item :: rest =>
        some { s with
          handled := s.handled ++ [item], unread := rest, waiting := some (answer item) }
      | [] => if s.inputOver then some { s with running := false } else none
    | _, _ => none
  | .put =>
    match s.waiting with
    | none => none
    | some (output, last) =>
      if s.readerOpen then
        if s.channel.length < capacity then
          some { s with
            waiting := none, running := !last, channel := s.channel ++ [output] }
        else none
      else some { s with waiting := none, running := false }
  | .take =>
    match s.channel with
    | output :: rest => some { s with channel := rest, taken := s.taken ++ [output] }
    | [] => none
  | .close => some { s with readerOpen := false, channel := [] }

end Pump

/-! ## Answers to a part of the items -/

section Answers
variable {answer : ι → ο × Bool} {items : List ι}

/-- While no answer is a last one, every item is answered. -/
theorem answers_append_of_going (hgoing : ∀ item ∈ items, (answer item).2 = false)
    (more : List ι) :
    answers answer (items ++ more) =
      items.map (fun item => (answer item).1) ++ answers answer more := by
  induction items with
  | nil => rfl
  | cons item items ih =>
    rw [List.forall_mem_cons] at hgoing
    rw [List.cons_append, answers, hgoing.1, ih hgoing.2]
    rfl

/-- With a last answer the rest of the items does not count. -/
theorem answers_append_of_last (hgoing : ∀ item ∈ items, (answer item).2 = false) {item : ι}
    (hlast : (answer item).2 = true) (more : List ι) :
    answers answer (items ++ [item] ++ more) =
      (items ++ [item]).map fun item => (answer item).1 := by
  rw [List.append_assoc, answers_append_of_going hgoing, List.map_append]
  simp [answers, hlast]

end Answers

/-! ## The invariant -/

/-- Items after which the task goes on, or these and one with a last answer. -/
def ReadSoFar (answer : ι → ο × Bool) (items : List ι) : Prop :=
  (∀ item ∈ items, (answer item).2 = false) ∨
    ∃ before item, items = before ++ [item] ∧ (∀ item ∈ before, (answer item).2 = false) ∧
      (answer item).2 = true

structure Pump.Sound (answer : ι → ο × Bool) (capacity : ℕ) (s : Pump ι ο) : Prop where
  capacity_le : s.channel.length ≤ capacity
  readSoFar : ReadSoFar answer s.handled
  /-- To each item there is one answer, and the reader gets them in order. -/
  order : s.taken ++ s.channel <+: s.handled.map fun item => (answer item).1
  /-- With the reader there, none is missing. -/
  complete : s.readerOpen = true →
    s.taken ++ s.channel ++ (s.waiting.map Prod.fst).toList =
      s.handled.map fun item => (answer item).1
  going : s.running = true → s.waiting = none → ∀ item ∈ s.handled, (answer item).2 = false
  waiting : ∀ output last, s.waiting = some (output, last) → s.running = true ∧
    ∃ before item, s.handled = before ++ [item] ∧ (∀ item ∈ before, (answer item).2 = false) ∧
      answer item = (output, last)
  stopped : s.running = false → s.readerOpen = true →
    (s.inputOver = true ∧ s.unread = []) ∨
      ∃ before item, s.handled = before ++ [item] ∧ (∀ item ∈ before, (answer item).2 = false) ∧
        (answer item).2 = true

namespace Pump
variable {answer : ι → ο × Bool} {capacity : ℕ} {s s' : Pump ι ο} {action : Action ι}

theorem sound_init : Sound answer capacity ({} : Pump ι ο) where
  capacity_le := Nat.zero_le _
  readSoFar := .inl (by simp)
  order := List.prefix_rfl
  complete _ := rfl
  going _ _ := by simp
  waiting := by simp
  stopped := by simp

/-- Reading an item takes its answer in hand. -/
theorem Sound.read (h : s.Sound answer capacity) (hstep : s.step answer capacity .read = some s') :
    s'.Sound answer capacity := by
  unfold step at hstep
  dsimp only at hstep
  split at hstep
  · rename_i hrunning hwaiting
    have hgoing := h.going hrunning hwaiting
    split at hstep
    · rename_i item rest hunread
      rw [← Option.some.inj hstep]
      refine ⟨h.capacity_le, ?_, ?_, fun hopen => ?_, by simp, ?_, by simp [hrunning]⟩
      · cases hlast : (answer item).2 with
        | true => exact .inr ⟨s.handled, item, rfl, hgoing, hlast⟩
        | false =>
          left
          intro other hother
          rcases List.mem_append.mp hother with hother | hother
          · exact hgoing other hother
          · rw [List.mem_singleton.mp hother, hlast]
      · rw [List.map_append]
        exact h.order.trans (List.prefix_append _ _)
      · have hbefore := h.complete hopen
        rw [hwaiting] at hbefore
        rw [List.map_append, ← hbefore]
        simp
      · intro output last hsome
        exact ⟨hrunning, s.handled, item, rfl, hgoing, Option.some.inj hsome⟩
    · rename_i hunread
      split at hstep
      · rename_i hover
        rw [← Option.some.inj hstep]
        exact ⟨h.capacity_le, h.readSoFar, h.order, h.complete, by simp, by simp [hwaiting],
          fun _ _ => .inl ⟨hover, hunread⟩⟩
      · simp at hstep
  · simp at hstep

/-- The answer in hand becomes the last one in the channel. -/
theorem Sound.put (h : s.Sound answer capacity) (hstep : s.step answer capacity .put = some s') :
    s'.Sound answer capacity := by
  unfold step at hstep
  dsimp only at hstep
  split at hstep
  · simp at hstep
  · rename_i output last hwaiting
    obtain ⟨hrunning, before, item, hhandled, hgoing, hanswer⟩ := h.waiting output last hwaiting
    split at hstep
    · rename_i hopen
      split at hstep
      · rename_i hroom
        have hbefore := h.complete hopen
        simp only [hwaiting, Option.map_some, Option.toList_some] at hbefore
        have hall : s.taken ++ (s.channel ++ [output]) =
            s.handled.map fun item => (answer item).1 := by
          rw [← List.append_assoc, hbefore]
        rw [← Option.some.inj hstep]
        refine ⟨?_, h.readSoFar, ?_, fun _ => ?_, fun hlast _ => ?_, by simp, fun hlast _ => ?_⟩
        · rw [List.length_append, List.length_singleton]
          omega
        · exact hall ▸ List.prefix_rfl
        · simpa using hall
        · have hfalse : last = false := by simpa using hlast
          intro other hother
          rw [hhandled] at hother
          rcases List.mem_append.mp hother with hother | hother
          · exact hgoing other hother
          · rw [List.mem_singleton.mp hother, hanswer, hfalse]
        · have htrue : last = true := by simpa using hlast
          exact .inr ⟨before, item, hhandled, hgoing, by rw [hanswer, htrue]⟩
      · simp at hstep
    · rename_i hclosed
      rw [← Option.some.inj hstep]
      exact ⟨h.capacity_le, h.readSoFar, h.order, fun hopen => absurd hopen hclosed, by simp,
        by simp, fun _ hopen => absurd hopen hclosed⟩

theorem Sound.take (h : s.Sound answer capacity) (hstep : s.step answer capacity .take = some s') :
    s'.Sound answer capacity := by
  unfold step at hstep
  dsimp only at hstep
  split at hstep
  · rename_i output rest hchannel
    rw [← Option.some.inj hstep]
    have hsame : s.taken ++ [output] ++ rest = s.taken ++ s.channel := by
      rw [hchannel, List.append_assoc, List.singleton_append]
    have hlength := h.capacity_le
    rw [hchannel, List.length_cons] at hlength
    refine ⟨Nat.le_of_succ_le hlength, h.readSoFar, ?_, fun hopen => ?_,
      h.going, h.waiting, h.stopped⟩
    · exact hsame ▸ h.order
    · dsimp only
      rw [hsame]
      exact h.complete hopen
  · simp at hstep

/-- Every step keeps the invariant. -/
theorem Sound.step (h : s.Sound answer capacity)
    (hstep : s.step answer capacity action = some s') : s'.Sound answer capacity := by
  cases action with
  | arrive item =>
    unfold Pump.step at hstep
    dsimp only at hstep
    split at hstep
    · simp at hstep
    · rename_i hinput
      rw [← Option.some.inj hstep]
      refine ⟨h.capacity_le, h.readSoFar, h.order, h.complete, h.going, h.waiting,
        fun hover hopen => ?_⟩
      rcases h.stopped hover hopen with ⟨hended, -⟩ | hlast
      · exact absurd hended hinput
      · exact .inr hlast
  | endInput =>
    rw [← Option.some.inj hstep]
    refine ⟨h.capacity_le, h.readSoFar, h.order, h.complete, h.going, h.waiting,
      fun hover hopen => ?_⟩
    rcases h.stopped hover hopen with ⟨-, hunread⟩ | hlast
    · exact .inl ⟨rfl, hunread⟩
    · exact .inr hlast
  | read => exact h.read hstep
  | put => exact h.put hstep
  | take => exact h.take hstep
  | close =>
    rw [← Option.some.inj hstep]
    refine ⟨Nat.zero_le _, h.readSoFar, ?_, by simp, h.going, h.waiting, by simp⟩
    rw [List.append_nil]
    exact (List.prefix_append _ _).trans h.order

/-! ## What the reader gets -/

/-- The answers to what was read are the first ones. -/
theorem map_prefix_answers {items : List ι} (h : ReadSoFar answer items) (more : List ι) :
    (items.map fun item => (answer item).1) <+: answers answer (items ++ more) := by
  rcases h with hgoing | ⟨before, item, rfl, hgoing, hlast⟩
  · rw [answers_append_of_going hgoing]
    exact List.prefix_append _ _
  · exact answers_append_of_last hgoing hlast more ▸ List.prefix_rfl

/-- The reader gets a beginning of the answers to all that has come in. -/
theorem Sound.taken_prefix (h : s.Sound answer capacity) :
    s.taken ++ s.channel <+: answers answer s.arrived :=
  h.order.trans (map_prefix_answers h.readSoFar s.unread)

/-- When the task is over and the reader still there, nothing is missing. -/
theorem Sound.taken_complete (h : s.Sound answer capacity) (hover : s.running = false)
    (hopen : s.readerOpen = true) : s.taken ++ s.channel = answers answer s.arrived := by
  have hwaiting : s.waiting = none := by
    cases hsome : s.waiting with
    | none => rfl
    | some pair =>
      have hrunning := (h.waiting pair.1 pair.2 hsome).1
      rw [hover] at hrunning
      simp at hrunning
  have hcomplete := h.complete hopen
  rw [hwaiting, Option.map_none, Option.toList_none, List.append_nil] at hcomplete
  rw [hcomplete, arrived]
  rcases h.stopped hover hopen with ⟨-, hunread⟩ | ⟨before, item, hhandled, hgoing, hlast⟩
  · rw [hunread, List.append_nil]
    rcases h.readSoFar with hgoing | ⟨before, item, hhandled, hgoing, hlast⟩
    · have hall := answers_append_of_going hgoing []
      rw [List.append_nil] at hall
      rw [hall, answers, List.append_nil]
    · have hall := answers_append_of_last hgoing hlast []
      rw [List.append_nil, ← hhandled] at hall
      exact hall.symm
  · rw [hhandled, answers_append_of_last hgoing hlast]

/-- The task and the reader never wait for each other: as long as the task has something to do, it
can do it or the reader has something to take. -/
theorem can_go_on (hcapacity : 0 < capacity) (hrunning : s.running = true)
    (hwork : s.waiting ≠ none ∨ s.unread ≠ [] ∨ s.inputOver = true) :
    (s.step answer capacity .read).isSome = true ∨ (s.step answer capacity .put).isSome = true ∨
      (s.step answer capacity .take).isSome = true := by
  cases hwaiting : s.waiting with
  | none =>
    left
    cases hunread : s.unread with
    | cons item rest => simp [step, hrunning, hwaiting, hunread]
    | nil =>
      have hinput : s.inputOver = true := by
        rcases hwork with hwork | hwork | hwork
        · exact absurd hwaiting hwork
        · exact absurd hunread hwork
        · exact hwork
      simp [step, hrunning, hwaiting, hunread, hinput]
  | some pair =>
    right
    cases hchannel : s.channel with
    | nil =>
      left
      cases hopen : s.readerOpen with
      | true => simp [step, hwaiting, hopen, hchannel, hcapacity]
      | false => simp [step, hwaiting, hopen]
    | cons output rest =>
      right
      simp [step, hchannel]

end Pump

end Lib.Channel
