import OpenApiGateway.ExtProc.Wire
import OpenApiGateway.Lib.Channel

/-!
# The stream of the external processor

`controlplane/src/extproc/server.rs`: the task of one `process` call reads the messages of the
client and puts the replies into a channel of sixteen, from which they are written to the client. An
error of the inbound half is passed on and ends the task, and so does a client that is gone.

The stream is an instance of `Lib.Channel`, over the bytes that come and go. `replies_in_order` is
about a client that sends well-formed messages at any pace and reads or not: what it reads are the
replies to its messages, in their order and each of a kind that belongs to its message.
-/

namespace OpenApiGateway
namespace ExtProc

open Lib.Channel Lib.TransitionSystem Lib.WireFormat

/-- Capacity of the channel of a stream. -/
def channelCapacity : ℕ := 16

/-- An error of the inbound half: of the transport, or of bytes that are no message. -/
structure Status where
  code : ℕ
  message : String
deriving DecidableEq

section Stream
variable (decodeError : List UInt8 → Status)

/-- One item of the inbound half, as `inbound.next()` has it; `decodeError` is what tonic makes of
a frame that is no message. -/
def inboundItem (frame : Except Status (List UInt8)) : Except Status ProcessingRequest :=
  match frame with
  | .ok bytes =>
    match processingRequestCodec.decode bytes with
    | some message => .ok message
    | none => .error (decodeError bytes)
  | .error status => .error status

/-- What the task sends for an item, and whether it breaks off then. -/
def sendFor (item : Except Status ProcessingRequest) : Except Status ProcessingResponse × Bool :=
  match item with
  | .ok message => (.ok (process message), false)
  | .error status => (.error status, true)

/-- The same from frame to frame. -/
def answerFrame (frame : Except Status (List UInt8)) : Except Status (List UInt8) × Bool :=
  let (item, last) := sendFor (inboundItem decodeError frame)
  (item.map processingResponseCodec.encode, last)

abbrev ExtProcStream := Pump (Except Status (List UInt8)) (Except Status (List UInt8))

/-- The steps of one `process` call and its client. -/
def ExtProcStream.step (s : ExtProcStream) :
    Action (Except Status (List UInt8)) → Option ExtProcStream :=
  Pump.step (answerFrame decodeError) channelCapacity s

end Stream

/-! ## Kinds of replies -/

/-- A reply belongs to a message: it is of the same kind, or ends a request at its headers; a
message without content has a reply without content. -/
def BelongsTo (response : ProcessingResponse) (request : ProcessingRequest) : Prop :=
  match request.request, response.response with
  | some (.requestHeaders _ _ _), some (.requestHeaders _) => True
  | some (.requestHeaders _ _ _), some (.immediateResponse _) => True
  | some (.requestBody _ _), some (.requestBody _) => True
  | some (.responseHeaders _ _), some (.responseHeaders _) => True
  | some (.responseBody _ _), some (.responseBody _) => True
  | none, none => True
  | _, _ => False

theorem belongsTo_process (request : ProcessingRequest) : BelongsTo (process request) request := by
  obtain ⟨request⟩ := request
  cases request with
  | none => trivial
  | some kind =>
    cases kind with
    | requestHeaders headers method path =>
      unfold process
      dsimp only
      split
      · trivial
      · trivial
    | requestBody body endOfStream => trivial
    | responseHeaders headers status => trivial
    | responseBody body endOfStream => trivial

/-! ## Well-formed clients -/

/-- The frame of a message. -/
def frameOf (request : ProcessingRequest) : Except Status (List UInt8) :=
  .ok (processingRequestCodec.encode request)

/-- A message that fits its fields and its frame. -/
structure Sendable (request : ProcessingRequest) : Prop where
  inRange : request.InRange
  length_lt : (processingRequestCodec.encode request).length < 2 ^ 64

theorem answerFrame_frameOf (decodeError : List UInt8 → Status) {request : ProcessingRequest}
    (h : Sendable request) :
    answerFrame decodeError (frameOf request) =
      (.ok (processingResponseCodec.encode (process request)), false) := by
  have hdecode := (lawful_processingRequest h.inRange).decode_encode h.length_lt
  have hitem : inboundItem decodeError (frameOf request) = .ok request := by
    simp [inboundItem, frameOf, hdecode]
  rw [answerFrame, hitem]
  rfl

/-- The reply to a message on the wire. -/
def replyFrame (request : ProcessingRequest) : Except Status (List UInt8) :=
  .ok (processingResponseCodec.encode (process request))

/-- Nothing, or an error with anything behind it. -/
def Fails (tail : List (Except Status (List UInt8))) : Prop :=
  ∀ frame, tail.head? = some frame → ∃ status, frame = .error status

theorem Fails.cases {tail : List (Except Status (List UInt8))} (h : Fails tail) :
    tail = [] ∨ ∃ status rest, tail = .error status :: rest := by
  cases tail with
  | nil => exact .inl rfl
  | cons frame rest =>
    obtain ⟨status, rfl⟩ := h frame rfl
    exact .inr ⟨status, rest, rfl⟩

/-- The answers to messages of a well-formed client, whose inbound half may fail after them. -/
theorem answers_frameOf (decodeError : List UInt8 → Status) {requests : List ProcessingRequest}
    (h : ∀ r ∈ requests, Sendable r) {tail : List (Except Status (List UInt8))}
    (htail : Fails tail) :
    answers (answerFrame decodeError) (requests.map frameOf ++ tail) =
      requests.map replyFrame ++ tail.take 1 := by
  have hgoing : ∀ frame ∈ requests.map frameOf, (answerFrame decodeError frame).2 = false := by
    intro frame hframe
    obtain ⟨request, hrequest, rfl⟩ := List.mem_map.mp hframe
    rw [answerFrame_frameOf decodeError (h request hrequest)]
  have hreplies : (requests.map frameOf).map (fun frame => (answerFrame decodeError frame).1) =
      requests.map replyFrame := by
    rw [List.map_map]
    refine List.map_congr_left fun request hrequest => ?_
    rw [Function.comp_apply, answerFrame_frameOf decodeError (h request hrequest), replyFrame]
  rw [answers_append_of_going hgoing, hreplies]
  rcases htail.cases with rfl | ⟨status, rest, rfl⟩
  · rfl
  · rfl

/-! ## Reading -/

/-- What the client makes of what it has read: the replies up to the first error. -/
def readReplies : List (Except Status (List UInt8)) → List ProcessingResponse
  | .ok bytes :: rest =>
    match processingResponseCodec.decode bytes with
    | some reply => reply :: readReplies rest
    | none => []
  | _ => []

/-- The reply to a message is not too long to be read. -/
def ReplyFits (request : ProcessingRequest) : Prop :=
  (processingResponseCodec.encode (process request)).length < 2 ^ 64

theorem readReplies_cons {request : ProcessingRequest} (h : ReplyFits request)
    (rest : List (Except Status (List UInt8))) :
    readReplies (replyFrame request :: rest) = process request :: readReplies rest := by
  have hdecode := (lawful_processingResponse (inRange_process request)).decode_encode h
  rw [replyFrame, readReplies]
  simp only [hdecode]

theorem readReplies_of_fails {tail : List (Except Status (List UInt8))} (htail : Fails tail) :
    readReplies (tail.take 1) = [] := by
  rcases htail.cases with rfl | ⟨status, rest, rfl⟩
  · rfl
  · rfl

theorem readReplies_append {requests : List ProcessingRequest} (h : ∀ r ∈ requests, ReplyFits r)
    (tail : List (Except Status (List UInt8))) :
    readReplies (requests.map replyFrame ++ tail) = requests.map process ++ readReplies tail := by
  induction requests with
  | nil => rfl
  | cons request requests ih =>
    rw [List.forall_mem_cons] at h
    rw [List.map_cons, List.cons_append, readReplies_cons h.1, ih h.2]
    rfl

/-- Reading a part of the answers gives the first replies. -/
theorem exists_take_of_prefix {requests : List ProcessingRequest}
    (h : ∀ r ∈ requests, ReplyFits r) {tail taken : List (Except Status (List UInt8))}
    (htail : Fails tail) (htaken : taken <+: requests.map replyFrame ++ tail.take 1) :
    ∃ n, readReplies taken = (requests.take n).map process := by
  induction requests generalizing taken with
  | nil =>
    -- at most the error is left
    refine ⟨0, ?_⟩
    cases taken with
    | nil => rfl
    | cons frame rest =>
      rcases htail.cases with rfl | ⟨status, others, rfl⟩
      · simp at htaken
      · obtain ⟨rfl, -⟩ := List.cons_prefix_cons.mp htaken
        rfl
  | cons request requests ih =>
    rw [List.forall_mem_cons] at h
    cases taken with
    | nil => exact ⟨0, rfl⟩
    | cons frame rest =>
      rw [List.map_cons, List.cons_append, List.cons_prefix_cons] at htaken
      obtain ⟨n, hn⟩ := ih h.2 htaken.2
      refine ⟨n + 1, ?_⟩
      rw [htaken.1, readReplies_cons h.1, hn, List.take_succ_cons, List.map_cons]

/-- In every run of a stream whose client has sent well-formed messages, after which its half may
have failed: the client has read the replies to the first of them, in their order and each of the
kind of its message; at most sixteen wait in the channel; when the task is over and the client has
taken all there is, it has the reply to every message and then the error, if there was one; and
until then the task can go on or the client has something to take. -/
theorem replies_in_order (decodeError : List UInt8 → Status) (s : ExtProcStream)
    (hs : Run (ExtProcStream.step decodeError) (fun _ _ => True) {} s)
    (requests : List ProcessingRequest)
    (tail : List (Except Status (List UInt8))) (htail : Fails tail)
    (harrived : s.arrived = requests.map frameOf ++ tail)
    (hrequests : ∀ r ∈ requests, Sendable r ∧ ReplyFits r) :
    (∃ n, readReplies s.taken = (requests.take n).map process) ∧
      (∀ (k : ℕ) (response : ProcessingResponse), (readReplies s.taken)[k]? = some response →
        ∃ request, requests[k]? = some request ∧ BelongsTo response request) ∧
      s.channel.length ≤ 16 ∧
      (s.running = false → s.readerOpen = true → s.channel = [] →
        readReplies s.taken = requests.map process ∧
          ∀ status rest, tail = .error status :: rest → s.taken.getLast? = some (.error status)) ∧
      (s.running = true → s.waiting ≠ none ∨ s.unread ≠ [] ∨ s.inputOver = true →
        (s.step decodeError .read).isSome = true ∨ (s.step decodeError .put).isSome = true ∨
          (s.step decodeError .take).isSome = true) := by
  have hsound : s.Sound (answerFrame decodeError) channelCapacity :=
    hs.invariant Pump.sound_init fun _ _ _ h _ hstep => h.step hstep
  have hanswers := answers_frameOf decodeError (fun r hr => (hrequests r hr).1) htail
  rw [← harrived] at hanswers
  -- the reader has a beginning of the answers, and so replies to a beginning of the messages
  obtain ⟨n, hread⟩ : ∃ n, readReplies s.taken = (requests.take n).map process := by
    refine exists_take_of_prefix (fun r hr => (hrequests r hr).2) htail ?_
    rw [← hanswers]
    exact (List.prefix_append s.taken s.channel).trans hsound.taken_prefix
  refine ⟨⟨n, hread⟩, fun k response hresponse => ?_, hsound.capacity_le,
    fun hover hopen hempty => ?_, fun hrunning hwork => Pump.can_go_on (by decide) hrunning hwork⟩
  · rw [hread, List.getElem?_map, Option.map_eq_some_iff] at hresponse
    obtain ⟨request, hrequest, rfl⟩ := hresponse
    have hk : requests[k]? = some request := by
      rw [List.getElem?_take] at hrequest
      split at hrequest
      · exact hrequest
      · simp at hrequest
    exact ⟨request, hk, belongsTo_process request⟩
  · have hcomplete := hsound.taken_complete hover hopen
    rw [hempty, List.append_nil, hanswers] at hcomplete
    refine ⟨?_, ?_⟩
    · rw [hcomplete, readReplies_append (fun r hr => (hrequests r hr).2),
        readReplies_of_fails htail, List.append_nil]
    · rintro status rest rfl
      rw [hcomplete]
      simp

/-! ### A client that fails -/

/-- Headers that ask for a header to be set, and a body. -/
def sampleRequests : List ProcessingRequest :=
  [⟨some (.requestHeaders [⟨"X-Ext-Proc-Set-Header", "x-team = blue"⟩] "POST" "/orders")⟩,
    ⟨some (.requestBody [123, 125] true)⟩]

/-- Both messages, then an error; the client reads while the task still works. -/
def failingClient : List (Action (Except Status (List UInt8))) :=
  sampleRequests.map (fun request => .arrive (frameOf request)) ++
    [.read, .put, .take, .arrive (.error ⟨14, "connection reset"⟩), .read, .put, .read, .put,
      .take, .take]

/-- What is answered to a frame that is no message; the client below sends none. -/
def internalError (_ : List UInt8) : Status := ⟨13, "failed to decode Protobuf message"⟩

theorem replies_in_order_failingClient :
    ∃ s, runAll (ExtProcStream.step internalError) (fun _ _ => True) {} failingClient = some s ∧
      readReplies s.taken = sampleRequests.map process ∧
      s.taken.getLast? = some (.error ⟨14, "connection reset"⟩) := by
  have hsome : (runAll (ExtProcStream.step internalError) (fun _ _ => True) {}
      failingClient).isSome = true := by
    decide +kernel
  obtain ⟨s, hs⟩ := Option.isSome_iff_exists.mp hsome
  have hstate : ∀ P : ExtProcStream → Bool, (runAll (ExtProcStream.step internalError)
      (fun _ _ => True) {} failingClient).all P = true → P s = true := by
    intro P hP
    rwa [hs, Option.all_some] at hP
  have hrequests : ∀ r ∈ sampleRequests, Sendable r ∧ ReplyFits r := by
    simp only [sampleRequests, List.forall_mem_cons]
    exact ⟨⟨⟨trivial, by decide +kernel⟩, by unfold ReplyFits; decide +kernel⟩,
      ⟨⟨trivial, by decide +kernel⟩, by unfold ReplyFits; decide +kernel⟩, by simp⟩
  have harrived : s.arrived =
      sampleRequests.map frameOf ++ [.error ⟨14, "connection reset"⟩] :=
    of_decide_eq_true (hstate (fun s => decide (s.arrived = _)) (by decide +kernel))
  have hrunning : s.running = false :=
    of_decide_eq_true (hstate (fun s => decide (s.running = false)) (by decide +kernel))
  have hopen : s.readerOpen = true := hstate Pump.readerOpen (by decide +kernel)
  have hchannel : s.channel = [] :=
    of_decide_eq_true (hstate (fun s => decide (s.channel = [])) (by decide +kernel))
  obtain ⟨-, -, -, hcomplete, -⟩ :=
    replies_in_order internalError s (run_of_runAll hs .init) sampleRequests
      [.error ⟨14, "connection reset"⟩] (fun frame hframe => ⟨_, (Option.some.inj hframe).symm⟩)
      harrived hrequests
  obtain ⟨hreplies, herror⟩ := hcomplete hrunning hopen hchannel
  exact ⟨s, hs, hreplies, herror _ [] rfl⟩

end ExtProc
end OpenApiGateway
