import Moqtail.Wire.ControlRoundTrip
import Moqtail.Wire.PartialReads

/-! Reading control messages off a stream, from `transport/control_stream_handler.rs`.

What a read brings is appended to a buffer, and the head of the buffer is parsed again. While a
message is incomplete a deadline stands over it. Time is in milliseconds. -/
namespace Moqtail.Message

open Lib

/-- The codes that reading ends with. -/
inductive TerminationCode where
  | noError
  | internalError
  | protocolViolation
  | controlMessageTimeout
deriving Repr, DecidableEq

def controlMessageTimeout : Nat := 5000

structure ControlStreamHandler where
  recvBytes : Bytes
  partialMessageDeadline : Option Nat
deriving Repr, DecidableEq

/-- What `recv.read` comes back with. -/
inductive TransportRead where
  | data (bytes : Bytes)
  | closed
  | notConnected
  | failed
deriving Repr, DecidableEq

/-- A read and the time it comes back at. -/
structure Arrival where
  now : Nat
  read : TransportRead
deriving Repr, DecidableEq

/-- The handler, the time, and the reads that are still to come. -/
structure ControlStream where
  now : Nat
  handler : ControlStreamHandler
  arrivals : List Arrival
deriving Repr, DecidableEq

/-- How a call of `next_message` stands: it has returned, the thread has panicked, or it waits for
a read that has not come. -/
inductive NextMessage where
  | message (m : ControlMessage) (s : ControlStream)
  | error (code : TerminationCode) (s : ControlStream)
  | panic
  | waiting (s : ControlStream)

namespace ControlStreamHandler

def new : ControlStreamHandler := ⟨[], none⟩

/-- What one turn of the loop does before it reads. -/
inductive Turn where
  | message (m : ControlMessage) (h : ControlStreamHandler)
  | error (code : TerminationCode)
  | panic
  | read (h : ControlStreamHandler)

def parseBuffered (alloc : Allocator) (now : Nat) (h : ControlStreamHandler) : Turn :=
  if h.recvBytes.isEmpty then .read h
  else
    match ControlMessage.deserialize alloc h.recvBytes with
    | .ok (m, rest) =>
      .message m
        { recvBytes := h.recvBytes.drop (h.recvBytes.length - rest.length)
          partialMessageDeadline := none }
    | .error .panic => .panic
    | .error (.parse (.protocolViolation _ _)) => .error .protocolViolation
    | .error (.parse (.notEnoughBytes _ _ _)) =>
      if h.partialMessageDeadline.isNone then
        .read { h with partialMessageDeadline := some (now + controlMessageTimeout) }
      else .read h
    -- any other error goes on to read
    | .error (.parse _) => .read h

def handleReadResult (h : ControlStreamHandler) :
    TransportRead → Except TerminationCode Unit × ControlStreamHandler
  | .data bytes => (.ok (), { h with recvBytes := h.recvBytes ++ bytes })
  | .closed => (.error .protocolViolation, h)
  | .notConnected => (.error .noError, h)
  | .failed => (.error .internalError, h)

/-- A deadline that is over wins over what was read. -/
def readMoreData (h : ControlStreamHandler) (a : Arrival) :
    Except TerminationCode Unit × ControlStreamHandler :=
  match h.partialMessageDeadline with
  | some deadline =>
    if a.now ≥ deadline then (.error .controlMessageTimeout, ⟨[], none⟩)
    else h.handleReadResult a.read
  | none => h.handleReadResult a.read

/-- The loop, over the reads as they come. -/
def nextMessage (alloc : Allocator) (now : Nat) (h : ControlStreamHandler)
    (arrivals : List Arrival) : NextMessage :=
  match parseBuffered alloc now h with
  | .message m h => .message m ⟨now, h, arrivals⟩
  | .error code => .error code ⟨now, h, arrivals⟩
  | .panic => .panic
  | .read h =>
    match arrivals with
    | [] => .waiting ⟨now, h, []⟩
    | a :: arrivals =>
      match h.readMoreData a with
      | (.ok _, h) => nextMessage alloc a.now h arrivals
      | (.error code, h) => .error code ⟨a.now, h, arrivals⟩

end ControlStreamHandler

def ControlStream.nextMessage (alloc : Allocator) (s : ControlStream) : NextMessage :=
  s.handler.nextMessage alloc s.now s.arrivals

/-- Calls of `next_message`, one after the other, until one returns no message or `n` have
returned one: the messages, and how the call after them stands. -/
def ControlStream.nextMessages (alloc : Allocator) :
    Nat → ControlStream → List ControlMessage × NextMessage
  | 0, s => ([], s.nextMessage alloc)
  | n + 1, s =>
    match s.nextMessage alloc with
    | .message m s => (m :: (s.nextMessages alloc n).1, (s.nextMessages alloc n).2)
    | last => ([], last)

/-! A message out of a part of its bytes. -/

namespace ControlMessage

theorem getPayloadLength_incremental : Partial getPayloadLength where
  stable bytes n rest tail h := by
    unfold getPayloadLength at h ⊢
    split at h
    · cases h
    next hlong =>
      cases h
      rw [if_neg (by rw [List.length_append]; omega), List.take_append_of_le_length (by omega),
        List.drop_append_of_le_length (by omega)]
  shrinks bytes rest n h := by
    unfold getPayloadLength at h
    split at h
    · cases h
    · cases h
      rw [List.length_drop]
      omega
  fails bytes tail e h hshort := by
    unfold getPayloadLength at h
    split at h
    · cases h
      cases hshort
    · cases h

/-- Only the head of the bytes decides what frame they begin with. -/
theorem getFrame_incremental : Partial getFrame := by
  refine getVi_incremental.bind fun messageType => ?_
  refine Incremental.bind_result fun msgType => ?_
  refine getPayloadLength_incremental.bind fun payloadLength => ?_
  exact (copyToBytes_incremental _ payloadLength).bind fun payload => Incremental.ok _

theorem deserialize_append {alloc : Allocator} {bytes rest : Bytes} {m : ControlMessage}
    (h : deserialize alloc bytes = .ok (m, rest)) (tail : Bytes) :
    deserialize alloc (bytes ++ tail) = .ok (m, rest ++ tail) := by
  obtain ⟨msgType, payload, hframe, hparse⟩ := deserialize_eq_ok.mp h
  exact deserialize_eq_ok.mpr
    ⟨msgType, payload, getFrame_incremental.stable _ _ _ tail hframe, hparse⟩

theorem deserialize_of_getFrame_error (alloc : Allocator) {bytes : Bytes} {e : ParseError}
    (h : getFrame bytes = .error e) : deserialize alloc bytes = .error (.parse e) := by
  rw [deserialize, h]
  rfl

theorem notEnoughBytes_of_isNotEnoughBytes {e : ParseError} (h : e.isNotEnoughBytes = true) :
    ∃ context needed available, e = .notEnoughBytes context needed available := by
  cases e with
  | notEnoughBytes context needed available => exact ⟨context, needed, available, rfl⟩
  | _ => cases h

/-- The bytes of a message with some of the last ones missing are too few. -/
theorem deserialize_of_incomplete {alloc : Allocator} {front rear : Bytes} {m : ControlMessage}
    (h : deserialize alloc (front ++ rear) = .ok (m, [])) (hrear : rear ≠ []) :
    ∃ context needed available,
      deserialize alloc front = .error (.parse (.notEnoughBytes context needed available)) := by
  obtain ⟨msgType, payload, hframe, -⟩ := deserialize_eq_ok.mp h
  cases hfront : getFrame front with
  | ok p =>
    exact absurd hfront (getFrame_incremental.stable.not_ok_of_append hframe hrear)
  | error e =>
    cases hshort : e.isNotEnoughBytes with
    | true =>
      obtain ⟨context, needed, available, rfl⟩ := notEnoughBytes_of_isNotEnoughBytes hshort
      exact ⟨context, needed, available, deserialize_of_getFrame_error _ hfront⟩
    | false =>
      rw [getFrame_incremental.fails _ rear _ hfront hshort] at hframe
      cases hframe

end ControlMessage

/-! One turn. -/

namespace ControlStreamHandler

variable {alloc : Allocator} {now : Nat} {h : ControlStreamHandler}

/-- The deadline a partial message stands under: the one it has, or one from now on. -/
def deadlineFrom (now : Nat) (h : ControlStreamHandler) : Nat :=
  h.partialMessageDeadline.getD (now + controlMessageTimeout)

theorem parseBuffered_of_message {m : ControlMessage} {front rest : Bytes}
    (hbytes : h.recvBytes = front ++ rest)
    (hfront : ControlMessage.deserialize alloc front = .ok (m, [])) :
    parseBuffered alloc now h = .message m ⟨rest, none⟩ := by
  have hne : front ≠ [] := by
    intro hnil
    subst hnil
    cases hfront
  have hread := ControlMessage.deserialize_append hfront rest
  have hempty : (front ++ rest).isEmpty = false := by
    rw [List.isEmpty_eq_false_iff]
    exact fun hnil => hne (List.append_eq_nil_iff.mp hnil).1
  have hdrop : (front ++ rest).drop ((front ++ rest).length - rest.length) = rest := by
    rw [List.length_append, Nat.add_sub_cancel, List.drop_left]
  rw [List.nil_append] at hread
  simp only [parseBuffered, hbytes, hempty, hread, hdrop]
  rfl

variable (now) in
theorem parseBuffered_of_notEnoughBytes {context : String} {needed available : Nat}
    (hne : h.recvBytes ≠ [])
    (herror : ControlMessage.deserialize alloc h.recvBytes =
      .error (.parse (.notEnoughBytes context needed available))) :
    parseBuffered alloc now h =
      .read { h with partialMessageDeadline := some (h.deadlineFrom now) } := by
  have hempty : h.recvBytes.isEmpty = false := List.isEmpty_eq_false_iff.mpr hne
  simp only [parseBuffered, hempty, herror, deadlineFrom]
  cases h with
  | mk recvBytes deadline => cases deadline <;> rfl

/-- Reading more keeps the deadline, and comes before it. -/
theorem readMoreData_eq_ok {a : Arrival} {h' : ControlStreamHandler}
    (hread : h.readMoreData a = (.ok (), h')) :
    h'.partialMessageDeadline = h.partialMessageDeadline ∧
      (∀ deadline, h.partialMessageDeadline = some deadline → a.now < deadline) ∧
        ∃ bytes, a.read = .data bytes ∧ h'.recvBytes = h.recvBytes ++ bytes := by
  have hresult (hread : h.handleReadResult a.read = (.ok (), h')) :
      h'.partialMessageDeadline = h.partialMessageDeadline ∧
        ∃ bytes, a.read = .data bytes ∧ h'.recvBytes = h.recvBytes ++ bytes := by
    cases hdata : a.read with
    | data bytes =>
      rw [hdata] at hread
      cases hread
      exact ⟨rfl, bytes, rfl, rfl⟩
    | closed | notConnected | failed =>
      rw [hdata] at hread
      cases hread
  unfold readMoreData at hread
  split at hread
  next deadline hdeadline =>
    split at hread
    · cases hread
    next hearly =>
      obtain ⟨hkept, hbytes⟩ := hresult hread
      refine ⟨hkept, fun deadline' heq => ?_, hbytes⟩
      rw [hdeadline, Option.some.injEq] at heq
      omega
  next hdeadline =>
    obtain ⟨hkept, hbytes⟩ := hresult hread
    refine ⟨hkept, fun deadline' heq => ?_, hbytes⟩
    rw [hdeadline] at heq
    cases heq

/-- A read of data succeeds unless the deadline is over. -/
theorem readMoreData_of_data {a : Arrival} {bytes : Bytes} (hdata : a.read = .data bytes) :
    h.readMoreData a = (.error .controlMessageTimeout, ⟨[], none⟩) ∨
      h.readMoreData a = (.ok (), { h with recvBytes := h.recvBytes ++ bytes }) := by
  unfold readMoreData
  rw [hdata]
  split
  · split
    · exact .inl rfl
    · exact .inr rfl
  · exact .inr rfl

/-- A turn that goes on to read keeps the bytes, and keeps a deadline that is set. -/
theorem parseBuffered_eq_read {h' : ControlStreamHandler}
    (hturn : parseBuffered alloc now h = .read h') :
    h'.recvBytes = h.recvBytes ∧
      ∀ deadline, h.partialMessageDeadline = some deadline →
        h'.partialMessageDeadline = some deadline := by
  unfold parseBuffered at hturn
  split at hturn
  · cases hturn
    exact ⟨rfl, fun _ hdeadline => hdeadline⟩
  · split at hturn
    · cases hturn
    · cases hturn
    · cases hturn
    · split at hturn
      next hnone =>
        cases hturn
        refine ⟨rfl, fun deadline hdeadline => ?_⟩
        rw [hdeadline] at hnone
        cases hnone
      next =>
        cases hturn
        exact ⟨rfl, fun _ hdeadline => hdeadline⟩
    · cases hturn
      exact ⟨rfl, fun _ hdeadline => hdeadline⟩

/-- A call that is under a deadline still waits only before it. -/
theorem nextMessage_waiting (arrivals : List Arrival) :
    ∀ (now : Nat) (h : ControlStreamHandler) (deadline : Nat) (s : ControlStream),
      h.partialMessageDeadline = some deadline →
      nextMessage alloc now h arrivals = .waiting s →
        s.handler.partialMessageDeadline = some deadline ∧ ∀ a ∈ arrivals, a.now < deadline := by
  induction arrivals with
  | nil =>
    intro now h deadline s hdeadline hwaiting
    unfold nextMessage at hwaiting
    split at hwaiting
    · cases hwaiting
    · cases hwaiting
    · cases hwaiting
    next h' hturn =>
      cases hwaiting
      exact ⟨(parseBuffered_eq_read hturn).2 deadline hdeadline, by simp⟩
  | cons a arrivals ih =>
    intro now h deadline s hdeadline hwaiting
    unfold nextMessage at hwaiting
    split at hwaiting
    · cases hwaiting
    · cases hwaiting
    · cases hwaiting
    next h' hturn =>
      have hkept := (parseBuffered_eq_read hturn).2 deadline hdeadline
      simp only at hwaiting
      split at hwaiting
      next h'' hread =>
        obtain ⟨hsame, hearly, -⟩ := readMoreData_eq_ok hread
        obtain ⟨hlast, hrest⟩ := ih _ _ deadline s (hsame.trans hkept) hwaiting
        refine ⟨hlast, ?_⟩
        rw [List.forall_mem_cons]
        exact ⟨hearly deadline hkept, hrest⟩
      · cases hwaiting

end ControlStreamHandler

/-! What is waited for. -/

namespace ControlMessage

theorem parseWhole_error {alloc : Allocator} {msgType : ControlMessageType} {payload : Bytes}
    {e : ParseError} (h : parseWhole alloc msgType payload = .error (.parse e)) :
    ∃ context details, e = .protocolViolation context details := by
  unfold parseWhole at h
  cases hparse : parsePayload alloc msgType payload with
  | error failure =>
    rw [hparse] at h
    cases failure with
    | parse e' =>
      cases h
      exact ⟨_, _, rfl⟩
    | panic => cases h
  | ok p =>
    rw [hparse] at h
    simp only [Except.mapError, except_ok_bind] at h
    split at h
    · cases h
      exact ⟨_, _, rfl⟩
    · cases h

theorem isNotEnoughBytes_of_getVi {bytes : Bytes} {e : ParseError} (h : getVi bytes = .error e) :
    e.isNotEnoughBytes = true := by
  cases bytes with
  | nil =>
    cases h
    rfl
  | cons first rest =>
    simp only [getVi] at h
    split at h
    · cases h
      rfl
    · cases h

theorem isNotEnoughBytes_of_getPayloadLength {bytes : Bytes} {e : ParseError}
    (h : getPayloadLength bytes = .error e) : e.isNotEnoughBytes = true := by
  unfold getPayloadLength at h
  split at h
  · cases h
    rfl
  · cases h

theorem isNotEnoughBytes_of_copyToBytes {context : String} {len : Nat} {bytes : Bytes}
    {e : ParseError} (h : copyToBytes context len bytes = .error e) :
    e.isNotEnoughBytes = true := by
  unfold copyToBytes at h
  split at h
  · cases h
    rfl
  · cases h

/-- Behind a known type only missing bytes keep a frame from being read. -/
theorem isNotEnoughBytes_of_getFrame {bytes : Bytes} {e : ParseError}
    (hknown : ∀ messageType left, getVi bytes = .ok (messageType, left) →
      ∃ msgType, ControlMessageType.tryFrom messageType = .ok msgType)
    (h : getFrame bytes = .error e) : e.isNotEnoughBytes = true := by
  unfold getFrame at h
  cases hvi : getVi bytes with
  | error e' =>
    rw [hvi] at h
    cases h
    exact isNotEnoughBytes_of_getVi hvi
  | ok p =>
    obtain ⟨msgType, htype⟩ := hknown p.1 p.2 hvi
    simp only [hvi, except_ok_bind, htype] at h
    cases hlength : getPayloadLength p.2 with
    | error e' =>
      rw [hlength] at h
      cases h
      exact isNotEnoughBytes_of_getPayloadLength hlength
    | ok q =>
      simp only [hlength, except_ok_bind] at h
      cases hcopy : copyToBytes "ControlMessage::deserialize(payload_length)" q.1 q.2 with
      | error e' =>
        rw [hcopy] at h
        cases h
        exact isNotEnoughBytes_of_copyToBytes hcopy
      | ok r =>
        rw [hcopy] at h
        cases h

/-- Bytes that begin with a known type are the beginning of a frame. -/
theorem getFrame_extends {bytes left : Bytes} {messageType : UInt64} {msgType : ControlMessageType}
    (hvi : getVi bytes = .ok (messageType, left))
    (htype : ControlMessageType.tryFrom messageType = .ok msgType) :
    ∃ tail frame rest, getFrame (bytes ++ tail) = .ok (frame, rest) := by
  have hlong : 65537 ≤ (left ++ List.replicate 65537 0).length := by
    rw [List.length_append, List.length_replicate]
    omega
  generalize hbytes : left ++ List.replicate 65537 (0 : UInt8) = filled at hlong
  have hread := getVi_incremental.stable _ _ _ (List.replicate 65537 0) hvi
  rw [hbytes] at hread
  have hlt := beNat_lt (filled.take 2)
  rw [List.length_take_of_le (by omega)] at hlt
  refine ⟨List.replicate 65537 0, (msgType, (filled.drop 2).take (beNat (filled.take 2))),
    (filled.drop 2).drop (beNat (filled.take 2)), ?_⟩
  simp only [getFrame, hread, except_ok_bind, htype, getPayloadLength]
  rw [if_neg (by omega)]
  simp only [except_ok_bind, copyToBytes]
  rw [if_neg (by rw [List.length_drop]; omega)]
  rfl

end ControlMessage

namespace ControlStreamHandler

/-- Behind a known type, a whole frame that does not decode is reported at once, and a frame that
is not whole is waited for up to a deadline that no read puts off. -/
theorem undecodable_reported_or_timed {alloc : Allocator} {now : Nat} {h : ControlStreamHandler}
    (arrivals : List Arrival) (hne : h.recvBytes ≠ [])
    (hknown : ∀ messageType left, getVi h.recvBytes = .ok (messageType, left) →
      ∃ msgType, ControlMessageType.tryFrom messageType = .ok msgType) :
    (∀ msgType payload rest e,
      ControlMessage.getFrame h.recvBytes = .ok ((msgType, payload), rest) →
      ControlMessage.parseWhole alloc msgType payload = .error (.parse e) →
      nextMessage alloc now h arrivals = .error .protocolViolation ⟨now, h, arrivals⟩) ∧
    (∀ e, ControlMessage.getFrame h.recvBytes = .error e →
      nextMessage alloc now h [] = .waiting
        ⟨now, { h with partialMessageDeadline := some (h.deadlineFrom now) }, []⟩ ∧
      ∀ s, nextMessage alloc now h arrivals = .waiting s →
        s.handler.partialMessageDeadline = some (h.deadlineFrom now) ∧
          ∀ a ∈ arrivals, a.now < h.deadlineFrom now) ∧
    ∀ messageType left, getVi h.recvBytes = .ok (messageType, left) →
      ∃ tail frame rest, ControlMessage.getFrame (h.recvBytes ++ tail) = .ok (frame, rest) := by
  refine ⟨?_, ?_, ?_⟩
  · intro msgType payload rest e hframe hparse
    obtain ⟨context, details, rfl⟩ := ControlMessage.parseWhole_error hparse
    have herror : ControlMessage.deserialize alloc h.recvBytes =
        .error (.parse (.protocolViolation context details)) := by
      rw [ControlMessage.deserialize, hframe]
      simp only [lift_ok, except_ok_bind, hparse]
      rfl
    have hempty : h.recvBytes.isEmpty = false := List.isEmpty_eq_false_iff.mpr hne
    have hturn : parseBuffered alloc now h = .error .protocolViolation := by
      simp only [parseBuffered, hempty, herror]
      rfl
    unfold nextMessage
    rw [hturn]
  · intro e hframe
    have hshort := ControlMessage.isNotEnoughBytes_of_getFrame hknown hframe
    obtain ⟨context, needed, available, rfl⟩ :=
      ControlMessage.notEnoughBytes_of_isNotEnoughBytes hshort
    have hturn := parseBuffered_of_notEnoughBytes now hne
      (ControlMessage.deserialize_of_getFrame_error alloc hframe)
    constructor
    · unfold nextMessage
      rw [hturn]
    · intro s hwaiting
      cases arrivals with
      | nil =>
        unfold nextMessage at hwaiting
        rw [hturn] at hwaiting
        cases hwaiting
        exact ⟨rfl, by simp⟩
      | cons a arrivals =>
        unfold nextMessage at hwaiting
        rw [hturn] at hwaiting
        simp only at hwaiting
        split at hwaiting
        next h' hread =>
          obtain ⟨hsame, hearly, -⟩ := readMoreData_eq_ok hread
          obtain ⟨hlast, hrest⟩ := nextMessage_waiting arrivals _ _ _ s hsame hwaiting
          refine ⟨hlast, ?_⟩
          rw [List.forall_mem_cons]
          exact ⟨hearly _ rfl, hrest⟩
        · cases hwaiting
  · intro messageType left hvi
    obtain ⟨msgType, htype⟩ := hknown messageType left hvi
    exact ControlMessage.getFrame_extends hvi htype

/-- A NAMESPACE with a byte too many. -/
theorem undecodable_reported_or_timed_namespace :
    nextMessage ⟨65535, le_rfl⟩ 0 ⟨[8, 0, 2, 0, 0], none⟩ [] =
      .error .protocolViolation ⟨0, ⟨[8, 0, 2, 0, 0], none⟩, []⟩ := by
  refine (undecodable_reported_or_timed [] (by decide) ?_).1 .namespace [0, 0] [] _ rfl rfl
  intro messageType left hvi
  cases hvi
  exact ⟨.namespace, rfl⟩

/-- No more bytes make this NAMESPACE one: its namespace ends where another byte is announced.
It is waited for all the same, as the payload is not looked at before it is whole. -/
theorem not_undecodable_reported : ¬ ∀ (alloc : Allocator) (now : Nat) (h : ControlStreamHandler)
    (arrivals : List Arrival), h.recvBytes ≠ [] →
      (∀ tail m rest, ControlMessage.deserialize alloc (h.recvBytes ++ tail) ≠ .ok (m, rest)) →
        ∃ code s, nextMessage alloc now h arrivals = .error code s := by
  intro h
  obtain ⟨code, s, herror⟩ := h ⟨65535, le_rfl⟩ 0 ⟨[8, 0, 2, 0], none⟩ [] (by decide) (by
    intro tail m rest hread
    cases tail with
    | nil => cases hread
    | cons b tail => cases hread)
  cases herror

end ControlStreamHandler

/-! However the bytes are cut. -/

namespace ControlStream

open ControlStreamHandler

theorem nextMessages_congr {alloc : Allocator} {s s' : ControlStream}
    (h : s.nextMessage alloc = s'.nextMessage alloc) (n : Nat) :
    s.nextMessages alloc n = s'.nextMessages alloc n := by
  cases n with
  | zero => rw [nextMessages, nextMessages, h]
  | succ n => rw [nextMessages, nextMessages, h]

/-- A handler that has to read takes the next arrival, if its deadline is not over. -/
theorem nextMessage_of_read {alloc : Allocator} {now : Nat} {h h' : ControlStreamHandler}
    {a : Arrival} (arrivals : List Arrival) {bytes : Bytes}
    (hturn : parseBuffered alloc now h = .read h') (hsame : h'.recvBytes = h.recvBytes)
    (hdata : a.read = .data bytes) :
    (∃ s, (ControlStream.mk now h (a :: arrivals)).nextMessage alloc =
      .error .controlMessageTimeout s) ∨
      ∃ h'' : ControlStreamHandler, h''.recvBytes = h.recvBytes ++ bytes ∧
        (ControlStream.mk now h (a :: arrivals)).nextMessage alloc =
          (ControlStream.mk a.now h'' arrivals).nextMessage alloc := by
  have hunfold : (ControlStream.mk now h (a :: arrivals)).nextMessage alloc =
      match h'.readMoreData a with
      | (.ok _, h) => h.nextMessage alloc a.now arrivals
      | (.error code, h) => .error code ⟨a.now, h, arrivals⟩ := by
    show ControlStreamHandler.nextMessage alloc now h (a :: arrivals) = _
    rw [ControlStreamHandler.nextMessage, hturn]
  rw [hunfold]
  rcases readMoreData_of_data (h := h') hdata with hread | hread
  · rw [hread]
    exact .inl ⟨_, rfl⟩
  · rw [hread]
    exact .inr ⟨_, congrArg (· ++ bytes) hsame, rfl⟩

/-- A part of a message that more bytes complete, or no bytes at all. -/
def Begins (alloc : Allocator) (front : Bytes) : Prop :=
  front = [] ∨ ∃ rear m, rear ≠ [] ∧ ControlMessage.deserialize alloc (front ++ rear) = .ok (m, [])

theorem Begins.of_append {alloc : Allocator} {front rear : Bytes}
    (h : Begins alloc (front ++ rear)) : Begins alloc front := by
  rcases h with hnil | ⟨more, m, hmore, hread⟩
  · exact .inl (List.append_eq_nil_iff.mp hnil).1
  · rw [List.append_assoc] at hread
    refine .inr ⟨rear ++ more, m, ?_, hread⟩
    exact fun hnil => hmore (List.append_eq_nil_iff.mp hnil).2

/-- A part of a message is waited on. -/
theorem parseBuffered_of_begins {alloc : Allocator} (now : Nat) {h : ControlStreamHandler}
    (hbegins : Begins alloc h.recvBytes) :
    ∃ h', parseBuffered alloc now h = .read h' ∧ h'.recvBytes = h.recvBytes := by
  rcases hbegins with hnil | ⟨rear, m, hrear, hread⟩
  · refine ⟨h, ?_, rfl⟩
    rw [parseBuffered, hnil]
    rfl
  · by_cases hne : h.recvBytes = []
    · refine ⟨h, ?_, rfl⟩
      rw [parseBuffered, hne]
      rfl
    · obtain ⟨context, needed, available, herror⟩ :=
        ControlMessage.deserialize_of_incomplete hread hrear
      exact ⟨_, parseBuffered_of_notEnoughBytes now hne herror, rfl⟩

/-- The head of what is buffered of some messages: either the first message is there, or a part
of one. -/
theorem head_of_buffered {alloc : Allocator} {buffered coming last : Bytes}
    {frames : List (ControlMessage × Bytes)}
    (hframes : ∀ f ∈ frames, ControlMessage.deserialize alloc f.2 = .ok (f.1, []))
    (hlast : Begins alloc last)
    (h : buffered ++ coming = (frames.map Prod.snd).flatten ++ last) :
    Begins alloc buffered ∧ (coming = [] → frames = []) ∨
      ∃ f rest left, frames = f :: rest ∧ buffered = f.2 ++ left := by
  cases frames with
  | nil =>
    rw [List.map_nil, List.flatten_nil, List.nil_append] at h
    rw [← h] at hlast
    exact .inl ⟨hlast.of_append, fun _ => rfl⟩
  | cons f rest =>
    rw [List.forall_mem_cons] at hframes
    rw [List.map_cons, List.flatten_cons, List.append_assoc, List.append_eq_append_iff] at h
    rcases h with ⟨missing, hmissing, hcoming⟩ | ⟨left, hleft, -⟩
    · by_cases hnil : missing = []
      · subst hnil
        rw [List.append_nil] at hmissing
        exact .inr ⟨f, rest, [], rfl, by rw [List.append_nil, hmissing]⟩
      · refine .inl ⟨.inr ⟨missing, f.1, hnil, hmissing ▸ hframes.1⟩, fun hempty => ?_⟩
        rw [hempty, eq_comm, List.append_eq_nil_iff] at hcoming
        exact absurd hcoming.1 hnil
    · exact .inr ⟨f, rest, left, rfl, hleft⟩

/-- Calls return the messages `frames` and then wait with `last` in the buffer, unless a deadline
is over before. -/
def ReturnsAll (alloc : Allocator) (last : Bytes) (frames : List (ControlMessage × Bytes))
    (s : ControlStream) : Prop :=
  (∀ s', (s.nextMessages alloc frames.length).2 ≠ .error .controlMessageTimeout s') →
    ∃ s', s.nextMessages alloc frames.length = (frames.map Prod.fst, .waiting s') ∧
      s'.handler.recvBytes = last ∧ s'.arrivals = []

theorem ReturnsAll.of_congr {alloc : Allocator} {last : Bytes}
    {frames : List (ControlMessage × Bytes)} {s s' : ControlStream}
    (h : ReturnsAll alloc last frames s')
    (hsame : s.nextMessage alloc = s'.nextMessage alloc) : ReturnsAll alloc last frames s := by
  unfold ReturnsAll at h ⊢
  rw [nextMessages_congr hsame]
  exact h

theorem ReturnsAll.cons {alloc : Allocator} {last left : Bytes} {f : ControlMessage × Bytes}
    {frames : List (ControlMessage × Bytes)} {now : Nat} {h : ControlStreamHandler}
    {arrivals : List Arrival} (hf : ControlMessage.deserialize alloc f.2 = .ok (f.1, []))
    (hbuffered : h.recvBytes = f.2 ++ left)
    (hrest : ReturnsAll alloc last frames ⟨now, ⟨left, none⟩, arrivals⟩) :
    ReturnsAll alloc last (f :: frames) ⟨now, h, arrivals⟩ := by
  have hmessage : (ControlStream.mk now h arrivals).nextMessage alloc =
      .message f.1 ⟨now, ⟨left, none⟩, arrivals⟩ := by
    show ControlStreamHandler.nextMessage alloc now h arrivals = _
    unfold ControlStreamHandler.nextMessage
    rw [parseBuffered_of_message hbuffered hf]
  unfold ReturnsAll at hrest ⊢
  rw [List.length_cons, nextMessages, hmessage]
  intro hintime
  obtain ⟨s', hall, hlast, hnone⟩ := hrest hintime
  refine ⟨s', ?_, hlast, hnone⟩
  simp only [hall, List.map_cons]

/-- The messages that are in the buffer already are returned before anything is read. -/
theorem returnsAll_of_buffered {alloc : Allocator} {last coming : Bytes} {now : Nat}
    {arrivals : List Arrival} (hlast : Begins alloc last)
    (hbegun : ∀ (h : ControlStreamHandler) (frames : List (ControlMessage × Bytes)),
      (∀ f ∈ frames, ControlMessage.deserialize alloc f.2 = .ok (f.1, [])) →
      h.recvBytes ++ coming = (frames.map Prod.snd).flatten ++ last →
      Begins alloc h.recvBytes → (coming = [] → frames = []) →
      ReturnsAll alloc last frames ⟨now, h, arrivals⟩)
    (frames : List (ControlMessage × Bytes)) :
    ∀ h : ControlStreamHandler,
      (∀ f ∈ frames, ControlMessage.deserialize alloc f.2 = .ok (f.1, [])) →
      h.recvBytes ++ coming = (frames.map Prod.snd).flatten ++ last →
      ReturnsAll alloc last frames ⟨now, h, arrivals⟩ := by
  induction frames with
  | nil =>
    intro h hframes hbytes
    rcases head_of_buffered hframes hlast hbytes with ⟨hbegins, hnone⟩ | ⟨f, rest, left, heq, -⟩
    · exact hbegun h [] hframes hbytes hbegins hnone
    · cases heq
  | cons f frames ih =>
    intro h hframes hbytes
    rcases head_of_buffered hframes hlast hbytes with ⟨hbegins, hnone⟩ | ⟨f', rest, left, heq, hleft⟩
    · exact hbegun h (f :: frames) hframes hbytes hbegins hnone
    · cases heq
      rw [List.forall_mem_cons] at hframes
      refine .cons hframes.1 hleft (ih ⟨left, none⟩ hframes.2 ?_)
      rw [hleft, List.map_cons, List.flatten_cons, List.append_assoc, List.append_assoc] at hbytes
      exact List.append_cancel_left hbytes

/-- What calls of `next_message` come to is in the bytes alone. The induction is on the reads. -/
theorem returnsAll_of_bytes {alloc : Allocator} {last : Bytes} (hlast : Begins alloc last)
    (arrivals : List Arrival) :
    ∀ (now : Nat) (chunks : List Bytes) (h : ControlStreamHandler)
      (frames : List (ControlMessage × Bytes)),
      arrivals.map Arrival.read = chunks.map TransportRead.data →
      (∀ f ∈ frames, ControlMessage.deserialize alloc f.2 = .ok (f.1, [])) →
      h.recvBytes ++ chunks.flatten = (frames.map Prod.snd).flatten ++ last →
      ReturnsAll alloc last frames ⟨now, h, arrivals⟩ := by
  induction arrivals with
  | nil =>
    intro now chunks h frames hreads
    rw [List.map_nil, eq_comm, List.map_eq_nil_iff] at hreads
    subst hreads
    refine returnsAll_of_buffered hlast (fun h frames _ hbytes hbegins hnone _ => ?_) frames h
    have hempty := hnone rfl
    subst hempty
    obtain ⟨h', hturn, hsame⟩ := parseBuffered_of_begins now hbegins
    rw [List.flatten_nil, List.append_nil, List.map_nil, List.flatten_nil, List.nil_append] at hbytes
    refine ⟨⟨now, h', []⟩, ?_, hsame.trans hbytes, rfl⟩
    show ([], ControlStreamHandler.nextMessage alloc now h []) = _
    rw [ControlStreamHandler.nextMessage, hturn]
    rfl
  | cons a arrivals ih =>
    intro now chunks h frames hreads
    cases chunks with
    | nil => cases hreads
    | cons chunk chunks =>
      rw [List.map_cons, List.map_cons, List.cons.injEq] at hreads
      refine returnsAll_of_buffered hlast (fun h frames hframes hbytes hbegins _ => ?_) frames h
      obtain ⟨h', hturn, hsame⟩ := parseBuffered_of_begins now hbegins
      rcases nextMessage_of_read arrivals hturn hsame hreads.1 with
        ⟨s, htimeout⟩ | ⟨h'', hnext, hcongr⟩
      · intro hintime
        have hlate : (ControlStream.mk now h (a :: arrivals)).nextMessages alloc frames.length =
            ([], .error .controlMessageTimeout s) := by
          cases frames with
          | nil => rw [List.length_nil, nextMessages, htimeout]
          | cons f frames => rw [List.length_cons, nextMessages, htimeout]
        rw [hlate] at hintime
        exact absurd rfl (hintime s)
      · refine (ih a.now chunks h'' frames hreads.2 hframes ?_).of_congr hcongr
        rw [hnext, List.append_assoc, ← hbytes, List.flatten_cons]

/-- However the bytes of some messages and of a part of one more are cut into reads: calls of
`next_message` return the messages, and the call after them waits. -/
theorem chunking_does_not_show (alloc : Allocator) (frames : List (ControlMessage × Bytes))
    (hframes : ∀ f ∈ frames, ControlMessage.deserialize alloc f.2 = .ok (f.1, []))
    (last : Bytes) (hlast : last = [] ∨
      ∃ rear m, rear ≠ [] ∧ ControlMessage.deserialize alloc (last ++ rear) = .ok (m, []))
    (now : Nat) (arrivals : List Arrival) (chunks : List Bytes)
    (hreads : arrivals.map Arrival.read = chunks.map TransportRead.data)
    (hbytes : chunks.flatten = (frames.map Prod.snd).flatten ++ last)
    (hintime : ∀ s, ((ControlStream.mk now .new arrivals).nextMessages alloc frames.length).2 ≠
      .error .controlMessageTimeout s) :
    ∃ s, (ControlStream.mk now .new arrivals).nextMessages alloc frames.length =
      (frames.map Prod.fst, .waiting s) ∧ s.handler.recvBytes = last ∧ s.arrivals = [] :=
  returnsAll_of_bytes hlast arrivals now chunks .new frames hreads hframes
    (by rw [ControlStreamHandler.new, List.nil_append, hbytes]) hintime

/-- A NAMESPACE cut in three, and the first byte of another. -/
theorem chunking_does_not_show_namespace :
    ∃ s, (ControlStream.mk 0 .new
      [⟨1, .data [8, 0]⟩, ⟨2, .data [1]⟩, ⟨3, .data [0, 8]⟩]).nextMessages ⟨65535, le_rfl⟩ 1 =
        ([ControlMessage.namespace ⟨⟨[]⟩⟩], .waiting s) ∧ s.handler.recvBytes = [8] ∧
          s.arrivals = [] := by
  refine chunking_does_not_show ⟨65535, le_rfl⟩ [(.namespace ⟨⟨[]⟩⟩, [8, 0, 1, 0])] ?_ [8]
    (.inr ⟨[0, 1, 0], .namespace ⟨⟨[]⟩⟩, by decide, rfl⟩) 0 _ [[8, 0], [1], [0, 8]] rfl rfl nofun
  intro f hf
  cases List.mem_singleton.mp hf
  rfl

end ControlStream

end Moqtail.Message
