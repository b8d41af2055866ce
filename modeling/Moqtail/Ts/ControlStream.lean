import Moqtail.Ts.ControlMessage
import Moqtail.Ts.GrowingBuffer

/-! Reading control messages off a stream in the TypeScript library, from
`client/control_stream.ts` and `client/request_stream.ts`.

What a read brings is appended to the buffer, and the header at the head of the buffer is looked at
again. A deadline that is over is a read that fails. -/
namespace Moqtail.Ts

open Lib

/-- What `reader.read` comes back with. -/
inductive ReadResult where
  | value (bytes : Bytes)
  | done
  | failed
deriving Repr, DecidableEq

/-- How the loop has ended: with the controller closed, or with an error that is a
TerminationError PROTOCOL_VIOLATION or that of the read. -/
inductive Ending where
  | closed
  | protocolViolation
  | readError
deriving Repr, DecidableEq

/-- `ControlRecvStream` and `RequestStream`, which has no `expectedPayloadLength`. -/
structure IngestStream where
  receiveBuffer : GrowingBuffer
  expectedPayloadLength : Option Int
  enqueued : List ControlMessage

namespace IngestStream

def new : IngestStream := ⟨.new, none, []⟩

/-- Where the loop waits for a read: before it has looked at anything, inside the inner `try`, or in
its `catch`. -/
inductive Await where
  | nothing
  | payload
  | header
deriving Repr, DecidableEq

/-- What one turn of the loop comes to. -/
inductive Turn where
  | goOn (s : IngestStream)
  | read (await : Await) (s : IngestStream)
  | end (s : IngestStream)

/-- The `catch`. -/
def caught (e : Error) (s : IngestStream) : Turn :=
  match e with
  | .notEnoughBytes _ _ _ => .read .header s
  | _ => .end s

def turn (s : IngestStream) : Turn :=
  if s.receiveBuffer.length = 0 then .read .nothing s
  else
    let start := s.receiveBuffer.setCheckpoint
    match start.read ByteBuffer.getVI with
    | (.error e, buffer) => caught e { s with receiveBuffer := buffer }
    | (.ok _, buffer) =>
      match buffer.read ByteBuffer.getU16 with
      -- the offset stays behind the Type
      | (.error e, buffer) => caught e { s with receiveBuffer := buffer }
      | (.ok payloadLength, buffer) =>
        let headerSize := buffer.offset - start.offset
        let totalMessageSize := headerSize + payloadLength
        let buffer := buffer.restore
        if buffer.length ≥ totalMessageSize then
          match buffer.read (ByteBuffer.getBytes totalMessageSize) with
          | (.error e, buffer) => caught e { s with receiveBuffer := buffer }
          | (.ok messageBytes, buffer) =>
            let s := { s with receiveBuffer := buffer.commit, expectedPayloadLength := none }
            match ControlMessage.deserialize messageBytes with
            | .error e => caught e s
            | .ok msg => .goOn { s with enqueued := s.enqueued ++ [msg] }
        else .read .payload { s with receiveBuffer := buffer, expectedPayloadLength := some payloadLength }

/-- The turns up to a read, or to the end. A turn that goes on takes a byte at least, so that as
many turns as there are bytes are enough. -/
def turns : Nat → IngestStream → Turn
  | 0, s => s.turn
  | fuel + 1, s =>
    match s.turn with
    | .goOn s => turns fuel s
    | stopped => stopped

def settle (s : IngestStream) : Turn := s.turns s.receiveBuffer.unread.length

/-- `handleReadResult`. Only the control stream minds bytes that are left over. -/
def handleReadResult (mindsRest : Bool) (await : Await) (s : IngestStream) :
    ReadResult → Except Ending IngestStream
  | .value bytes => .ok { s with receiveBuffer := s.receiveBuffer.putBytes bytes }
  | .done =>
    if mindsRest ∧ (s.receiveBuffer.length > 0 ∨ s.expectedPayloadLength ≠ none) then
      .error .protocolViolation
    else .error .closed
  | .failed =>
    match await with
    -- caught like an error of the decoder
    | .payload => .error .protocolViolation
    | _ => .error .readError

/-- The stream and how its loop has ended, `none` where it waits for a read. -/
structure Outcome where
  stream : IngestStream
  ending : Option Ending

def ingestLoop (mindsRest : Bool) : IngestStream → List ReadResult → Outcome
  | s, reads =>
    match s.settle with
    | .goOn s => ⟨s, none⟩
    | .end s => ⟨s, some .protocolViolation⟩
    | .read await s =>
      match reads with
      | [] => ⟨s, none⟩
      | result :: reads =>
        match s.handleReadResult mindsRest await result with
        | .ok s => ingestLoop mindsRest s reads
        | .error ending => ⟨s, some ending⟩

end IngestStream

/-- The loop of `ControlRecvStream`. -/
def ControlRecvStream.ingestLoop (reads : List ReadResult) : IngestStream.Outcome :=
  IngestStream.ingestLoop true .new reads

/-- The loop of `RequestStream`. -/
def RequestStream.ingestLoop (reads : List ReadResult) : IngestStream.Outcome :=
  IngestStream.ingestLoop false .new reads

/-! What the head of the bytes says. -/

namespace ByteBuffer

theorem getVI_error {buf : Bytes} {e : Error} (h : getVI buf = .error e) :
    ∃ context needed available, e = .notEnoughBytes context needed available := by
  unfold getVI at h
  split at h
  · cases h
    exact ⟨_, _, _, rfl⟩
  · dsimp only at h
    split at h
    · cases h
      exact ⟨_, _, _, rfl⟩
    · cases h

/-- What is read is a front part, and more bytes behind it make no difference. -/
theorem getVI_eq_ok {buf rest : Bytes} {v : Int} (h : getVI buf = .ok (v, rest)) :
    ∃ front, buf = front ++ rest ∧ front ≠ [] ∧ ∀ tail, getVI (front ++ tail) = .ok (v, tail) := by
  unfold getVI at h
  split at h
  · cases h
  next first others =>
    dsimp only at h
    split at h
    · cases h
    next hlong =>
      cases h
      refine ⟨first :: others.take (countLeadingOnes first), ?_, List.cons_ne_nil _ _, ?_⟩
      · rw [Nat.add_sub_cancel, List.cons_append, List.take_append_drop]
      · intro tail
        rw [Nat.add_sub_cancel] at hlong
        have htake : (others.take (countLeadingOnes first)).length = countLeadingOnes first := by
          rw [List.length_take]
          omega
        rw [List.cons_append, getVI]
        dsimp only
        rw [Nat.add_sub_cancel, if_neg (by rw [List.length_append]; omega),
          List.take_append_of_le_length (by omega), List.take_of_length_le (by omega),
          List.drop_append_of_le_length (by omega), List.drop_of_length_le (by omega)]
        rfl

end ByteBuffer

/-- The bytes of one message: its Type, its Length and as many bytes as that says. -/
structure IsFrame (bytes : Bytes) : Prop where
  split : ∃ (front : Bytes) (messageType : Int) (high low : UInt8) (payload : Bytes),
    bytes = front ++ ([high, low] ++ payload) ∧ front ≠ [] ∧
      (∀ tail, ByteBuffer.getVI (front ++ tail) = .ok (messageType, tail)) ∧
      (high.toNat * 256 + low.toNat : Int) = payload.length

/-- A Type with less than the two bytes of the Length behind it. -/
def SplitsLength (bytes : Bytes) : Prop :=
  ∃ messageType rest, ByteBuffer.getVI bytes = .ok (messageType, rest) ∧ rest.length < 2

/-- Bytes to which some are missing to make a message. -/
def BeginsFrame (bytes : Bytes) : Prop := bytes = [] ∨ ∃ rear, rear ≠ [] ∧ IsFrame (bytes ++ rear)

theorem IsFrame.ne_nil {bytes : Bytes} (h : IsFrame bytes) : bytes ≠ [] := by
  obtain ⟨front, messageType, high, low, payload, rfl, hfront, -, -⟩ := h.split
  intro hnil
  exact hfront (List.append_eq_nil_iff.mp hnil).1

/-- What is there of a message either has no whole Type, or has its Length and too few bytes. -/
theorem header_of_begins {bytes rear : Bytes} (hframe : IsFrame (bytes ++ rear)) (hrear : rear ≠ [])
    (hwhole : ¬ SplitsLength bytes) :
    (∃ context needed available,
        ByteBuffer.getVI bytes = .error (.notEnoughBytes context needed available)) ∨
      ∃ (front : Bytes) (messageType : Int) (high low : UInt8) (payload : Bytes),
        bytes = front ++ ([high, low] ++ payload) ∧
          (∀ tail, ByteBuffer.getVI (front ++ tail) = .ok (messageType, tail)) ∧
          (payload.length : Int) < high.toNat * 256 + low.toNat := by
  cases hvi : ByteBuffer.getVI bytes with
  | error e =>
    obtain ⟨context, needed, available, rfl⟩ := ByteBuffer.getVI_error hvi
    exact .inl ⟨context, needed, available, rfl⟩
  | ok p =>
    obtain ⟨messageType, rest⟩ := p
    obtain ⟨front, rfl, -, hread⟩ := ByteBuffer.getVI_eq_ok hvi
    obtain ⟨front', messageType', high, low, payload, heq, -, hread', hlength⟩ := hframe.split
    have hrest : rest ++ rear = [high, low] ++ payload := by
      have hsame := hread (rest ++ rear)
      rw [← List.append_assoc, heq, hread', Except.ok.injEq, Prod.mk.injEq] at hsame
      exact hsame.2.symm
    match rest, hrest with
    | [], _ => exact absurd ⟨messageType, [], hvi, by decide⟩ hwhole
    | [b], _ => exact absurd ⟨messageType, [b], hvi, Nat.lt_succ_self 1⟩ hwhole
    | b :: c :: rest, hrest =>
      rw [List.cons_append, List.cons_append, List.cons_append, List.cons_append, List.nil_append,
        List.cons.injEq, List.cons.injEq] at hrest
      obtain ⟨rfl, rfl, rfl⟩ := hrest
      refine .inr ⟨front, messageType, b, c, rest, rfl, hread, ?_⟩
      rw [hlength, List.length_append]
      have := List.length_pos_of_ne_nil hrear
      omega

/-! One turn. -/

namespace IngestStream

/-- The bytes that the loop has not read, with nothing read before them. -/
structure HoldsAt (s : IngestStream) (bytes : Bytes) : Prop where
  offset : s.receiveBuffer.offset = 0
  unread : s.receiveBuffer.unread = bytes

variable {s : IngestStream}

theorem HoldsAt.length {bytes : Bytes} (h : s.HoldsAt bytes) : s.receiveBuffer.length = bytes.length := by
  rw [← h.unread, GrowingBuffer.unread_of_offset_eq h.offset]

theorem turn_of_nil (h : s.HoldsAt []) : s.turn = .read .nothing s := by
  have hzero : s.receiveBuffer.length = 0 := h.length
  rw [turn, if_pos hzero]

/-- Both halves of the header are read, and the offset goes back. -/
theorem turn_of_header {front payload : Bytes} {messageType : Int} {high low : UInt8}
    (h : s.HoldsAt (front ++ ([high, low] ++ payload)))
    (hread : ∀ tail, ByteBuffer.getVI (front ++ tail) = .ok (messageType, tail)) :
    ∃ buffer : GrowingBuffer, buffer.offset = 0 ∧
      buffer.unread = front ++ ([high, low] ++ payload) ∧
      s.turn =
        if ((front ++ ([high, low] ++ payload)).length : Int) ≥
            front.length + 2 + (high.toNat * 256 + low.toNat) then
          match buffer.read
            (ByteBuffer.getBytes (front.length + 2 + (high.toNat * 256 + low.toNat))) with
          | (.error e, buffer) => caught e { s with receiveBuffer := buffer }
          | (.ok messageBytes, buffer) =>
            let s := { s with receiveBuffer := buffer.commit, expectedPayloadLength := none }
            match ControlMessage.deserialize messageBytes with
            | .error e => caught e s
            | .ok msg => .goOn { s with enqueued := s.enqueued ++ [msg] }
        else .read .payload { s with
          receiveBuffer := buffer, expectedPayloadLength := some (high.toNat * 256 + low.toNat) } := by
  have hstart : s.receiveBuffer.setCheckpoint.unread = front ++ ([high, low] ++ payload) := h.unread
  obtain ⟨b, hvi, hunread, hoffset, -, hlength, hrestore⟩ :=
    GrowingBuffer.read_of_ok hstart (hread _)
  have hu16 : ByteBuffer.getU16 ([high, low] ++ payload) =
      .ok (high.toNat * 256 + low.toNat, payload) := rfl
  obtain ⟨b', hlen, -, hoffset', -, hlength', hrestore'⟩ := GrowingBuffer.read_of_ok hunread hu16
  have hback : b'.restore = s.receiveBuffer.setCheckpoint := by
    rw [hrestore', hrestore]
    rfl
  have hne : s.receiveBuffer.length ≠ 0 := by
    rw [h.length]
    simp
  have hheader : b'.offset - s.receiveBuffer.setCheckpoint.offset = front.length + 2 := by
    rw [hoffset', hoffset, List.length_cons, List.length_singleton]
    omega
  have hall : s.receiveBuffer.setCheckpoint.length = (front ++ ([high, low] ++ payload)).length :=
    h.length
  refine ⟨s.receiveBuffer.setCheckpoint, h.offset, hstart, ?_⟩
  rw [turn, if_neg hne]
  dsimp only
  rw [hvi]
  dsimp only
  rw [hlen]
  dsimp only
  rw [hback, hheader, hall]
  rfl

/-- A message that is there is taken off the buffer. -/
theorem turn_of_frame {frame rest : Bytes} (h : s.HoldsAt (frame ++ rest)) (hframe : IsFrame frame) :
    ∃ s' : IngestStream, s'.HoldsAt rest ∧ s'.enqueued = s.enqueued ∧
      s.turn =
        match ControlMessage.deserialize frame with
        | .error e => caught e s'
        | .ok msg => .goOn { s' with enqueued := s'.enqueued ++ [msg] } := by
  obtain ⟨front, messageType, high, low, payload, rfl, -, hread, hlength⟩ := hframe.split
  have hassoc : front ++ ([high, low] ++ payload) ++ rest =
      front ++ ([high, low] ++ (payload ++ rest)) := by
    rw [List.append_assoc, List.append_assoc]
  rw [hassoc] at h
  obtain ⟨buffer, hoffset, hunread, hturn⟩ := turn_of_header h hread
  rw [← hassoc] at hunread
  have htotal : (front.length + 2 + (high.toNat * 256 + low.toNat) : Int) =
      (front ++ ([high, low] ++ payload)).length := by
    rw [hlength]
    simp only [List.length_append, List.length_cons, List.length_nil]
    omega
  have hget : ByteBuffer.getBytes (front ++ ([high, low] ++ payload)).length
      (front ++ ([high, low] ++ payload) ++ rest) =
        .ok (front ++ ([high, low] ++ payload), rest) := by
    rw [ByteBuffer.getBytes, if_neg (by rw [List.length_append]; omega), Int.toNat_natCast,
      List.take_left, List.drop_left]
  obtain ⟨b, hbytes, hrest, -, -, -, -⟩ := GrowingBuffer.read_of_ok hunread hget
  refine ⟨{ s with receiveBuffer := b.commit, expectedPayloadLength := none },
    ⟨GrowingBuffer.offset_commit, GrowingBuffer.unread_commit.trans hrest⟩, rfl, ?_⟩
  rw [hturn, if_pos (by rw [htotal, ← hassoc, List.length_append]; omega), htotal, hbytes]

/-- What is there of a message stays in the buffer, as long as its Length is not cut. -/
theorem turn_of_begins {bytes : Bytes} (h : s.HoldsAt bytes) (hbegins : BeginsFrame bytes)
    (hwhole : ¬ SplitsLength bytes) :
    ∃ await s', s.turn = .read await s' ∧ s'.HoldsAt bytes ∧ s'.enqueued = s.enqueued := by
  rcases hbegins with rfl | ⟨rear, hrear, hframe⟩
  · exact ⟨.nothing, s, turn_of_nil h, h, rfl⟩
  rcases header_of_begins hframe hrear hwhole with
    ⟨context, needed, available, herror⟩ | ⟨front, messageType, high, low, payload, rfl, hread, hshort⟩
  · by_cases hnil : bytes = []
    · subst hnil
      exact ⟨.nothing, s, turn_of_nil h, h, rfl⟩
    · have hne : s.receiveBuffer.length ≠ 0 := by
        rw [h.length]
        exact (List.length_pos_of_ne_nil hnil).ne'
      have hstart : s.receiveBuffer.setCheckpoint.unread = bytes := h.unread
      rw [← hstart] at herror
      refine ⟨.header, { s with receiveBuffer := s.receiveBuffer.setCheckpoint }, ?_,
        ⟨h.offset, hstart⟩, rfl⟩
      rw [turn, if_neg hne]
      dsimp only
      rw [GrowingBuffer.read_of_error herror]
      rfl
  · obtain ⟨buffer, hoffset, hunread, hturn⟩ := turn_of_header h hread
    have hmore : ¬ ((front ++ ([high, low] ++ payload)).length : Int) ≥
        front.length + 2 + (high.toNat * 256 + low.toNat) := by
      simp only [List.length_append, List.length_cons, List.length_nil]
      omega
    rw [if_neg hmore] at hturn
    exact ⟨.payload, _, hturn, ⟨hoffset, hunread⟩, rfl⟩

/-! Up to a read. -/

/-- The bytes of some messages, and the messages. -/
def Encoded (frames : List (ControlMessage × Bytes)) : Prop :=
  ∀ f ∈ frames, IsFrame f.2 ∧ ControlMessage.deserialize f.2 = .ok f.1

def bytesOf (frames : List (ControlMessage × Bytes)) : Bytes := (frames.map Prod.snd).flatten

theorem bytesOf_append (frames frames' : List (ControlMessage × Bytes)) :
    bytesOf (frames ++ frames') = bytesOf frames ++ bytesOf frames' := by
  rw [bytesOf, List.map_append, List.flatten_append]
  rfl

theorem bytesOf_cons (f : ControlMessage × Bytes) (frames : List (ControlMessage × Bytes)) :
    bytesOf (f :: frames) = f.2 ++ bytesOf frames := by
  rw [bytesOf, List.map_cons, List.flatten_cons]
  rfl

theorem length_le_bytesOf {frames : List (ControlMessage × Bytes)} (h : Encoded frames) :
    frames.length ≤ (bytesOf frames).length := by
  induction frames with
  | nil => exact Nat.zero_le _
  | cons f frames ih =>
    unfold Encoded at h
    rw [List.forall_mem_cons] at h
    have hpos := List.length_pos_of_ne_nil h.1.1.ne_nil
    have hrest := ih h.2
    rw [bytesOf_cons, List.length_append, List.length_cons]
    omega

theorem turns_of_stop {fuel : Nat} {t : Turn} (h : s.turn = t) (hstop : ∀ s', t ≠ .goOn s') :
    s.turns fuel = t := by
  cases fuel with
  | zero => exact h
  | succ fuel =>
    rw [turns, h]
    cases t with
    | goOn s' => exact absurd rfl (hstop s')
    | read await s' => rfl
    | «end» s' => rfl

/-- The messages at the head of the buffer are enqueued, one a turn. -/
theorem turns_of_frames {frames : List (ControlMessage × Bytes)} (hframes : Encoded frames)
    {rest : Bytes} {fuel : Nat} (hfuel : frames.length ≤ fuel) (h : s.HoldsAt (bytesOf frames ++ rest)) :
    ∃ s' : IngestStream, s'.HoldsAt rest ∧ s'.enqueued = s.enqueued ++ frames.map Prod.fst ∧
      ∃ fuel', s.turns fuel = s'.turns fuel' := by
  induction frames generalizing s fuel with
  | nil => exact ⟨s, h, (List.append_nil _).symm, fuel, rfl⟩
  | cons f frames ih =>
    unfold Encoded at hframes
    rw [List.forall_mem_cons] at hframes
    rw [bytesOf_cons, List.append_assoc] at h
    obtain ⟨s₁, hholds, hsame, hturn⟩ := turn_of_frame h hframes.1.1
    obtain ⟨fuel, rfl⟩ : ∃ n, fuel = n + 1 := ⟨fuel - 1, by
      rw [List.length_cons] at hfuel
      omega⟩
    rw [hframes.1.2] at hturn
    have hless : frames.length ≤ fuel := by
      rw [List.length_cons] at hfuel
      omega
    have hnext : HoldsAt { s₁ with enqueued := s₁.enqueued ++ [f.1] } (bytesOf frames ++ rest) :=
      ⟨hholds.offset, hholds.unread⟩
    obtain ⟨s', hrest, henqueued, fuel', hturns⟩ := ih hframes.2 hless hnext
    refine ⟨s', hrest, ?_, fuel', ?_⟩
    · rw [henqueued, hsame, List.map_cons, List.append_assoc]
      rfl
    · rw [turns, hturn]
      exact hturns

variable {frames : List (ControlMessage × Bytes)} {bytes : Bytes}

/-- A part of a message behind the messages is waited for. -/
theorem settle_of_begins (hframes : Encoded frames) (h : s.HoldsAt (bytesOf frames ++ bytes))
    (hbegins : BeginsFrame bytes) (hwhole : ¬ SplitsLength bytes) :
    ∃ await s', s.settle = .read await s' ∧ s'.HoldsAt bytes ∧
      s'.enqueued = s.enqueued ++ frames.map Prod.fst := by
  have hfuel : frames.length ≤ s.receiveBuffer.unread.length := by
    have hle := length_le_bytesOf hframes
    rw [h.unread, List.length_append]
    omega
  obtain ⟨s₁, hholds, henqueued, fuel, hturns⟩ := turns_of_frames hframes hfuel h
  obtain ⟨await, s', hturn, hholds', hsame⟩ := turn_of_begins hholds hbegins hwhole
  refine ⟨await, s', ?_, hholds', hsame.trans henqueued⟩
  rw [settle, hturns]
  apply turns_of_stop hturn
  intro s'' hgoOn
  cases hgoOn

/-- A message behind them that does not decode ends the loop, unless its decoder says that the bytes
are too few. -/
theorem settle_of_undecodable {bad rest : Bytes} {e : Error} (hframes : Encoded frames)
    (h : s.HoldsAt (bytesOf frames ++ (bad ++ rest))) (hbad : IsFrame bad)
    (herror : ControlMessage.deserialize bad = .error e)
    (hother : ∀ context needed available, e ≠ .notEnoughBytes context needed available) :
    ∃ s', s.settle = .end s' ∧ s'.enqueued = s.enqueued ++ frames.map Prod.fst := by
  have hfuel : frames.length ≤ s.receiveBuffer.unread.length := by
    have hle := length_le_bytesOf hframes
    rw [h.unread, List.length_append]
    omega
  obtain ⟨s₁, hholds, henqueued, fuel, hturns⟩ := turns_of_frames hframes hfuel h
  obtain ⟨s', -, hsame, hturn⟩ := turn_of_frame hholds hbad
  have hcaught : caught e s' = .end s' := by
    unfold caught
    split
    next context needed available => exact absurd rfl (hother context needed available)
    · rfl
  rw [herror] at hturn
  dsimp only at hturn
  rw [hcaught] at hturn
  refine ⟨s', ?_, hsame.trans henqueued⟩
  rw [settle, hturns]
  apply turns_of_stop hturn
  intro s'' hgoOn
  cases hgoOn

/-! The loop, over reads that cut the bytes anywhere but inside a header. -/

/-- No read ends between the Type of a message and the end of its Length. Before the reads there are
the bytes `held`. -/
def KeepsLengths (frames : List (ControlMessage × Bytes)) (held : Bytes) (chunks : List Bytes) : Prop :=
  ∀ front rest, chunks = front ++ rest → ∀ done todo cut, frames = done ++ todo →
    held ++ front.flatten = bytesOf done ++ cut → ¬ SplitsLength cut

theorem BeginsFrame.of_append {front rear : Bytes} (h : BeginsFrame (front ++ rear)) :
    BeginsFrame front := by
  rcases h with hnil | ⟨rest, hrest, hframe⟩
  · exact .inl (List.append_eq_nil_iff.mp hnil).1
  · refine .inr ⟨rear ++ rest, ?_, by rwa [← List.append_assoc]⟩
    intro hnil
    exact hrest (List.append_eq_nil_iff.mp hnil).2

/-- A part of the bytes ends behind some of the messages, and inside the next if there is one. -/
theorem part_of_frames (frames : List (ControlMessage × Bytes)) :
    ∀ {held later tail : Bytes}, held ++ later = bytesOf frames ++ tail →
      ∃ done todo cut, frames = done ++ todo ∧ held = bytesOf done ++ cut ∧
        cut ++ later = bytesOf todo ++ tail ∧
        (todo = [] ∨ ∃ f todo' rear, todo = f :: todo' ∧ rear ≠ [] ∧ f.2 = cut ++ rear) := by
  induction frames with
  | nil =>
    intro held later tail h
    exact ⟨[], [], held, rfl, rfl, h, .inl rfl⟩
  | cons f frames ih =>
    intro held later tail h
    rw [bytesOf_cons, List.append_assoc, List.append_eq_append_iff] at h
    have hwhole : ∀ held', held = f.2 ++ held' → held' ++ later = bytesOf frames ++ tail →
        ∃ done todo cut, f :: frames = done ++ todo ∧ held = bytesOf done ++ cut ∧
          cut ++ later = bytesOf todo ++ tail ∧
          (todo = [] ∨ ∃ f todo' rear, todo = f :: todo' ∧ rear ≠ [] ∧ f.2 = cut ++ rear) := by
      intro held' hheld hrest
      obtain ⟨done, todo, cut, rfl, rfl, hcut, hnext⟩ := ih hrest
      refine ⟨f :: done, todo, cut, rfl, ?_, hcut, hnext⟩
      rw [hheld, bytesOf_cons, List.append_assoc]
    rcases h with ⟨rear, hf, hlater⟩ | ⟨held', hheld, hrest⟩
    · by_cases hnil : rear = []
      · subst hnil
        rw [List.append_nil] at hf
        exact hwhole [] (by rw [hf, List.append_nil]) (by rw [List.nil_append, hlater, List.nil_append])
      · refine ⟨[], f :: frames, held, rfl, rfl, ?_, .inr ⟨f, frames, rear, rfl, hnil, hf⟩⟩
        rw [bytesOf_cons, List.append_assoc, hlater, hf, List.append_assoc]
    · exact hwhole held' hheld hrest.symm

theorem KeepsLengths.whole {done todo : List (ControlMessage × Bytes)} {cut : Bytes}
    {chunks : List Bytes} (h : KeepsLengths (done ++ todo) (bytesOf done ++ cut) chunks) :
    ¬ SplitsLength cut :=
  h [] chunks rfl done todo cut rfl (by rw [List.flatten_nil, List.append_nil])

theorem KeepsLengths.next {done todo : List (ControlMessage × Bytes)} {cut chunk : Bytes}
    {chunks : List Bytes} (h : KeepsLengths (done ++ todo) (bytesOf done ++ cut) (chunk :: chunks)) :
    KeepsLengths todo (cut ++ chunk) chunks := by
  rintro front rest rfl done' todo' cut' rfl heq
  refine h (chunk :: front) rest rfl (done ++ done') todo' cut' (List.append_assoc _ _ _).symm ?_
  rw [List.flatten_cons, List.append_assoc, ← List.append_assoc cut, heq, bytesOf_append,
    List.append_assoc]

theorem HoldsAt.putBytes (h : s.HoldsAt bytes) (chunk : Bytes) :
    HoldsAt { s with receiveBuffer := s.receiveBuffer.putBytes chunk } (bytes ++ chunk) where
  offset := h.offset
  unread := by rw [GrowingBuffer.unread_putBytes, h.unread]

theorem encoded_append {done todo : List (ControlMessage × Bytes)} :
    Encoded (done ++ todo) ↔ Encoded done ∧ Encoded todo :=
  List.forall_mem_append

/-- A read of a value goes on with the bytes it brings. -/
theorem ingestLoop_of_read {mindsRest : Bool} {await : Await} {s' : IngestStream} {chunk : Bytes}
    {reads : List ReadResult} (h : s.settle = .read await s') :
    ingestLoop mindsRest s (.value chunk :: reads) =
      ingestLoop mindsRest { s' with receiveBuffer := s'.receiveBuffer.putBytes chunk } reads := by
  rw [ingestLoop, h]
  rfl

/-- The messages are enqueued, and the part of one behind them is waited for. -/
theorem ingestLoop_waits {mindsRest : Bool} {last : Bytes} (hlast : BeginsFrame last)
    (chunks : List Bytes) :
    ∀ {s : IngestStream} {held : Bytes} {frames : List (ControlMessage × Bytes)}, Encoded frames →
      s.HoldsAt held → held ++ chunks.flatten = bytesOf frames ++ last →
      KeepsLengths frames held chunks →
        ∃ s', ingestLoop mindsRest s (chunks.map .value) = ⟨s', none⟩ ∧
          s'.enqueued = s.enqueued ++ frames.map Prod.fst ∧ s'.HoldsAt last := by
  induction chunks with
  | nil =>
    intro s held frames hframes hholds hbytes hkeeps
    rw [List.flatten_nil, List.append_nil] at hbytes
    subst hbytes
    have hwhole : ¬ SplitsLength last :=
      hkeeps [] [] rfl frames [] last (List.append_nil _).symm
        (by rw [List.flatten_nil, List.append_nil])
    obtain ⟨await, s', hsettle, hholds', henqueued⟩ :=
      settle_of_begins hframes hholds hlast hwhole
    refine ⟨s', ?_, henqueued, hholds'⟩
    rw [List.map_nil, ingestLoop, hsettle]
  | cons chunk chunks ih =>
    intro s held frames hframes hholds hbytes hkeeps
    obtain ⟨done, todo, cut, rfl, rfl, hcut, hnext⟩ := part_of_frames frames hbytes
    obtain ⟨hdone, htodo⟩ := encoded_append.mp hframes
    have hbegins : BeginsFrame cut := by
      rcases hnext with rfl | ⟨f, todo', rear, rfl, hrear, hf⟩
      · apply BeginsFrame.of_append
        rw [hcut]
        exact hlast
      · exact .inr ⟨rear, hrear, hf ▸ (htodo f List.mem_cons_self).1⟩
    obtain ⟨await, s₁, hsettle, hholds₁, henqueued⟩ :=
      settle_of_begins hdone hholds hbegins hkeeps.whole
    have hrest : cut ++ chunk ++ chunks.flatten = bytesOf todo ++ last := by
      rw [← hcut, List.flatten_cons, List.append_assoc]
    obtain ⟨s', hloop, henqueued', hholds'⟩ := ih htodo (hholds₁.putBytes chunk) hrest hkeeps.next
    refine ⟨s', ?_, ?_, hholds'⟩
    · rw [List.map_cons, ingestLoop_of_read hsettle, hloop]
    · rw [henqueued', List.map_append, ← List.append_assoc, ← henqueued]

/-- The messages are enqueued, and a message behind them that does not decode ends the loop. -/
theorem ingestLoop_ends {mindsRest : Bool} {bad more : Bytes} {e : Error} (hbad : IsFrame bad)
    (herror : ControlMessage.deserialize bad = .error e)
    (hother : ∀ context needed available, e ≠ .notEnoughBytes context needed available)
    (chunks : List Bytes) :
    ∀ {s : IngestStream} {held : Bytes} {frames : List (ControlMessage × Bytes)}, Encoded frames →
      s.HoldsAt held → held ++ chunks.flatten = bytesOf frames ++ (bad ++ more) →
      KeepsLengths frames held chunks →
        ∃ s', ingestLoop mindsRest s (chunks.map .value) = ⟨s', some .protocolViolation⟩ ∧
          s'.enqueued = s.enqueued ++ frames.map Prod.fst := by
  induction chunks with
  | nil =>
    intro s held frames hframes hholds hbytes _
    rw [List.flatten_nil, List.append_nil] at hbytes
    subst hbytes
    obtain ⟨s', hsettle, henqueued⟩ := settle_of_undecodable hframes hholds hbad herror hother
    refine ⟨s', ?_, henqueued⟩
    rw [List.map_nil, ingestLoop, hsettle]
  | cons chunk chunks ih =>
    intro s held frames hframes hholds hbytes hkeeps
    obtain ⟨done, todo, cut, rfl, rfl, hcut, hnext⟩ := part_of_frames frames hbytes
    obtain ⟨hdone, htodo⟩ := encoded_append.mp hframes
    have hbegins : BeginsFrame cut ∨ todo = [] ∧ ∃ rest, cut = bad ++ rest := by
      rcases hnext with rfl | ⟨f, todo', rear, rfl, hrear, hf⟩
      · have hparts : cut ++ (chunk :: chunks).flatten = bad ++ more := hcut
        rcases List.append_eq_append_iff.mp hparts with ⟨rear, hrear, -⟩ | ⟨rest, hrest, -⟩
        · by_cases hnil : rear = []
          · subst hnil
            exact .inr ⟨rfl, [], by rw [hrear, List.append_nil, List.append_nil]⟩
          · exact .inl (.inr ⟨rear, hnil, hrear ▸ hbad⟩)
        · exact .inr ⟨rfl, rest, hrest⟩
      · exact .inl (.inr ⟨rear, hrear, hf ▸ (htodo f List.mem_cons_self).1⟩)
    rcases hbegins with hbegins | ⟨rfl, rest, rfl⟩
    · obtain ⟨await, s₁, hsettle, hholds₁, henqueued⟩ :=
        settle_of_begins hdone hholds hbegins hkeeps.whole
      have hrest : cut ++ chunk ++ chunks.flatten = bytesOf todo ++ (bad ++ more) := by
        rw [← hcut, List.flatten_cons, List.append_assoc]
      obtain ⟨s', hloop, henqueued'⟩ := ih htodo (hholds₁.putBytes chunk) hrest hkeeps.next
      refine ⟨s', ?_, ?_⟩
      · rw [List.map_cons, ingestLoop_of_read hsettle, hloop]
      · rw [henqueued', List.map_append, ← List.append_assoc, ← henqueued]
    · obtain ⟨s', hsettle, henqueued⟩ := settle_of_undecodable hdone hholds hbad herror hother
      refine ⟨s', ?_, by rw [henqueued, List.append_nil]⟩
      rw [List.map_cons, ingestLoop, hsettle]

theorem holdsAt_new : new.HoldsAt [] := ⟨rfl, rfl⟩

/-- However the bytes are cut into reads, as long as no read ends between the Type of a message and
the end of its Length: both streams enqueue the messages, wait for the rest of the one that is not
all there, and end with a PROTOCOL_VIOLATION at a message that does not decode, unless the decoder
says that its bytes are too few. -/
theorem enqueues_whatever_the_chunks (mindsRest : Bool) (frames : List (ControlMessage × Bytes))
    (hframes : Encoded frames) (chunks : List Bytes) (hkeeps : KeepsLengths frames [] chunks) :
    (∀ last, BeginsFrame last → chunks.flatten = bytesOf frames ++ last →
      ∃ s, ingestLoop mindsRest new (chunks.map .value) = ⟨s, none⟩ ∧
        s.enqueued = frames.map Prod.fst ∧ s.HoldsAt last) ∧
    ∀ bad more e, IsFrame bad → ControlMessage.deserialize bad = .error e →
      (∀ context needed available, e ≠ .notEnoughBytes context needed available) →
      chunks.flatten = bytesOf frames ++ (bad ++ more) →
        ∃ s, ingestLoop mindsRest new (chunks.map .value) = ⟨s, some .protocolViolation⟩ ∧
          s.enqueued = frames.map Prod.fst := by
  constructor
  · intro last hlast hbytes
    exact ingestLoop_waits hlast chunks hframes holdsAt_new hbytes hkeeps
  · intro bad more e hbad herror hother hbytes
    exact ingestLoop_ends hbad herror hother chunks hframes holdsAt_new hbytes hkeeps

/-- A NAMESPACE of no fields. -/
def namespaceFrame : ControlMessage × Bytes := (.namespace ⟨[]⟩, [8, 0, 1, 0])

theorem isFrame_namespaceFrame : IsFrame namespaceFrame.2 where
  split := ⟨[8], 8, 0, 1, [0], rfl, List.cons_ne_nil _ _, fun _ => rfl, rfl⟩

set_option maxRecDepth 4096 in
theorem encoded_namespaceFrame : Encoded [namespaceFrame] := by
  intro f hf
  rw [List.mem_singleton] at hf
  subst hf
  exact ⟨isFrame_namespaceFrame, rfl⟩

theorem not_splitsLength_nil : ¬ SplitsLength [] := by
  rintro ⟨messageType, rest, hread, -⟩
  cases hread

theorem not_splitsLength_namespace {rest : Bytes} (hrest : 2 ≤ rest.length) :
    ¬ SplitsLength (8 :: rest) := by
  rintro ⟨messageType, rest', hread, hshort⟩
  have hvi : ByteBuffer.getVI (8 :: rest) = .ok (8, rest) := rfl
  rw [hvi] at hread
  cases hread
  omega

/-- The read ends behind the Length. -/
theorem keepsLengths_namespaceFrame : KeepsLengths [namespaceFrame] [] [[8, 0, 1], [0]] := by
  rintro front rest hchunks done todo cut hframes hbytes
  have hcut : cut = [] ∨ ∃ tail : Bytes, 2 ≤ tail.length ∧ cut = 8 :: tail := by
    rcases List.append_eq_cons_iff.mp hframes.symm with ⟨rfl, -⟩ | ⟨done', rfl, hdone⟩
    · rcases List.append_eq_cons_iff.mp hchunks.symm with ⟨rfl, -⟩ | ⟨front', rfl, hfront⟩
      · exact .inl hbytes.symm
      · exact .inr ⟨0 :: 1 :: front'.flatten, by simp, hbytes.symm⟩
    · left
      have hlength := congrArg List.length hbytes
      have hfront : front.flatten.length ≤ 4 := by
        have := congrArg (fun chunks => chunks.flatten.length) hchunks
        simp only [List.flatten_append, List.length_append] at this
        have hall : ([[8, 0, 1], [0]] : List Bytes).flatten.length = 4 := rfl
        omega
      rw [bytesOf_cons] at hlength
      have hname : namespaceFrame.2.length = 4 := rfl
      simp only [List.nil_append, List.length_append] at hlength
      exact List.eq_nil_of_length_eq_zero (by omega)
  rcases hcut with rfl | ⟨tail, htail, rfl⟩
  · exact not_splitsLength_nil
  · exact not_splitsLength_namespace htail

theorem enqueues_whatever_the_chunks_cut :
    ∃ s, ingestLoop true new ([[8, 0, 1], [0]].map .value) = ⟨s, none⟩ ∧
      s.enqueued = [namespaceFrame].map Prod.fst ∧ s.HoldsAt [] :=
  (enqueues_whatever_the_chunks true [namespaceFrame] encoded_namespaceFrame [[8, 0, 1], [0]]
    keepsLengths_namespaceFrame).1 [] (.inl rfl) rfl

/-- A NAMESPACE whose tuple is missing. -/
def emptyNamespace : Bytes := [8, 0, 0]

set_option maxRecDepth 4096 in
theorem not_chunk_independent :
    (∃ (frames : List (ControlMessage × Bytes)) (chunks : List Bytes), Encoded frames ∧
      chunks.flatten = bytesOf frames ∧
      (ingestLoop true new (chunks.map .value)).stream.enqueued.length ≠ frames.length) ∧
    ∃ e, ControlMessage.deserialize emptyNamespace = .error e ∧ IsFrame emptyNamespace ∧
      (ingestLoop true new [.value emptyNamespace]).ending = none := by
  refine ⟨⟨[namespaceFrame], [[8], [0, 1, 0]], encoded_namespaceFrame, rfl, ?_⟩, ?_⟩
  · decide +kernel
  · refine ⟨_, rfl, ⟨[8], 8, 0, 0, [], rfl, List.cons_ne_nil _ _, fun _ => rfl, rfl⟩, ?_⟩
    decide +kernel

end IngestStream

end Moqtail.Ts
