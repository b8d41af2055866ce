import Moqtail.Lib.Run
import Moqtail.Relay.TrackCache

/-! The delivery of a FETCH, from `server/message_handlers/fetch_handler.rs`.

`serve_fetch_stream` walks the groups of a range in the order asked for, serves each from the
cache when the cache accounts for all of it, and asks upstream for the gaps. One pass of its
loop is one step here. What the step meets (the cache at that moment, the fills other FETCHes
have in flight, what upstream sends, a stop) is an `Iteration`; the entries written, and what
the delivery learned on the way, are in the state.

Left out are the opening and closing of the data stream, whose header carries nothing the
range depends on, and the logging. -/
namespace Moqtail

open Lib

inductive FetchStop where
  | running
  | cancelled
  | malformedTrack
  | updateFailed
deriving Repr, DecidableEq

namespace Location

def max (a b : Location) : Location := if a ≤ b then b else a

def min (a b : Location) : Location := if a ≤ b then a else b

end Location

/-! Ranges. -/

/-- The part of the groups `first..=last` to ask upstream for. -/
def requestedPart (first last : UInt64) (start end_ : Location) : Location × Location :=
  (Location.max ⟨first, 0⟩ start, Location.min ⟨last, maxId⟩ end_)

/-- A descending FETCH across groups carries each group whole, the start group included. -/
def deliveredStart (start end_ : Location) (groupOrder : GroupOrder) : Location :=
  if groupOrder = .descending ∧ start.group ≠ end_.group then ⟨start.group, 0⟩ else start

def objectsWanted (group : UInt64) (start end_ : Location) : UInt64 × UInt64 :=
  let (lo, hi) := requestedPart group group start end_
  (lo.object, hi.object)

def lastDelivered (first last : UInt64) (start end_ : Location) (descending : Bool) : Location :=
  let group := if descending then first else last
  (requestedPart group group start end_).2

def unknownUpTo (location : Location) : FetchObject := .endOfRange .unknown location

/-! What a response shows not to exist. -/

abbrev Span := Location × Location

structure ResponseAbsences where
  start : Location
  end_ : Location
  descending : Bool
  fetchOk : Bool
  last : Option Location
deriving Repr, DecidableEq

namespace ResponseAbsences

def new (start end_ : Location) (groupOrder : GroupOrder) : ResponseAbsences where
  start := deliveredStart start end_ groupOrder
  end_ := end_
  descending := groupOrder = .descending ∧ start.group ≠ end_.group
  fetchOk := false
  last := none

def onFetchOk (a : ResponseAbsences) (endLocation : Location) : ResponseAbsences :=
  { a with
    end_ := if endLocation < a.end_ then endLocation else a.end_
    fetchOk := true }

/-- Keeps only the non-empty parts of `spans` the response can carry. -/
def clip (a : ResponseAbsences) (spans : List Span) : List Span :=
  (spans.map fun span => (Location.max span.1 a.start, Location.min span.2 a.end_)).filter
    fun span => span.1 ≤ span.2

/-- The last Object ID of `group` the response can carry. -/
def groupEnd (a : ResponseAbsences) (group : UInt64) : UInt64 :=
  if group = a.end_.group then a.end_.object else maxId

/-- The part of a group before `upTo`. -/
def headOf (upTo : Location) : List Span :=
  if upTo.object > 0 then [(⟨upTo.group, 0⟩, ⟨upTo.group, upTo.object - 1⟩)] else []

/-- The rest of the group of `last`. -/
def restOf (a : ResponseAbsences) (last : Location) : List Span :=
  if last.object < a.groupEnd last.group then
    [(⟨last.group, last.object + 1⟩, ⟨last.group, a.groupEnd last.group⟩)]
  else []

/-- From `start` to `end_`, where both exist. -/
def spanOf (start end_ : Option Location) : List Span :=
  match start, end_ with
  | some start, some end_ => [(start, end_)]
  | _, _ => []

/-- The Locations passed over between the last entry and `upTo`. -/
def between (a : ResponseAbsences) (upTo : Location) : List Span :=
  if !a.descending then
    let start :=
      match a.last with
      | some last => last.next
      | none => some a.start
    a.clip (spanOf start upTo.prev)
  else
    match a.last with
    | some last =>
      if last.group = upTo.group then a.clip (spanOf last.next upTo.prev)
      else
        let skipped :=
          if upTo.group + 1 < last.group then [(⟨upTo.group + 1, 0⟩, ⟨last.group - 1, maxId⟩)] else []
        a.clip (a.restOf last ++ skipped ++ headOf upTo)
    | none =>
      let above := if upTo.group < a.end_.group then [(⟨upTo.group + 1, 0⟩, a.end_)] else []
      a.clip (above ++ headOf upTo)

def onObject (a : ResponseAbsences) (location : Location) : ResponseAbsences × List Span :=
  ({ a with last := some location }, a.between location)

/-- A marker covers the Locations since the last entry, and its own. -/
def onMarker (a : ResponseAbsences) (kind : EndOfRangeKind) (location : Location) :
    ResponseAbsences × List Span :=
  let spans := a.between location ++ [(location, location)]
  ({ a with last := some location }, if kind = .nonExistent then a.clip spans else [])

/-- The Locations after the last entry, once the response is over. -/
def onEnd (a : ResponseAbsences) (closedCleanly : Bool) : List Span :=
  if !(closedCleanly && a.fetchOk) then []
  else
    match a.last, a.descending with
    | none, _ => a.clip [(a.start, a.end_)]
    | some last, false => a.clip (spanOf last.next (some a.end_))
    | some last, true =>
      let lower :=
        if a.start.group < last.group then [(a.start, ⟨last.group - 1, maxId⟩)] else []
      a.clip (a.restOf last ++ lower)

end ResponseAbsences

/-! Filling a gap. -/

/-- What the reader of an upstream response waits for: an event of the response, the end of
its channel, its timeout or a stop of the delivery. -/
inductive FillEvent where
  | accepted (endLocation : Location)
  | endOfRange (kind : EndOfRangeKind) (location : Location)
  | object (o : FetchObjectPayload)
  | malformedTrack
  | streamClosed
  | error
  | channelClosed
  | timedOut
  | stopped (reason : FetchStop)
deriving Repr, DecidableEq

/-- A response as far as it was read. `heard` and `declared` record its entries and End
Locations, `entries` are the ones written and `marked` the Locations the cache is told are
absent. -/
structure Fill where
  absences : ResponseAbsences
  heard : List FetchObject
  declared : List Location
  entries : List FetchObject
  marked : List Span
  closedCleanly : Bool
  stopReason : FetchStop

namespace Fill

def new (absences : ResponseAbsences) (stopReason : FetchStop) : Fill :=
  ⟨absences, [], [], [], [], false, stopReason⟩

def onAccepted (f : Fill) (endLocation : Location) : Fill :=
  { f with
    absences := f.absences.onFetchOk endLocation
    declared := f.declared ++ [endLocation] }

def onEndOfRange (f : Fill) (kind : EndOfRangeKind) (location : Location) : Fill :=
  let (absences, spans) := f.absences.onMarker kind location
  { f with
    absences := absences
    heard := f.heard ++ [.endOfRange kind location]
    entries := f.entries ++ [.endOfRange kind location]
    marked := f.marked ++ spans }

def onObject (filter : FetchObjectPayload → Bool) (f : Fill) (o : FetchObjectPayload) : Fill :=
  let (absences, spans) := f.absences.onObject o.location
  { f with
    absences := absences
    heard := f.heard ++ [.object o]
    entries := if filter o then f.entries ++ [.object o] else f.entries
    marked := f.marked ++ spans }

/-- The loop over the events. The channel closes when they run out. -/
def loop (filter : FetchObjectPayload → Bool) : List FillEvent → Fill → Fill
  | [], f => f
  | .accepted endLocation :: events, f => loop filter events (f.onAccepted endLocation)
  | .endOfRange kind location :: events, f => loop filter events (f.onEndOfRange kind location)
  | .object o :: events, f => loop filter events (f.onObject filter o)
  | .malformedTrack :: _, f => { f with stopReason := .malformedTrack }
  | .streamClosed :: _, f => { f with closedCleanly := true }
  | .error :: _, f => f
  | .channelClosed :: _, f => f
  | .timedOut :: _, f => f
  | .stopped reason :: _, f => { f with stopReason := reason }

end Fill

/-- An upstream response: what it was asked for and what it brought. -/
structure Response where
  start : Location
  end_ : Location
  heard : List FetchObject
  declared : List Location
  closedCleanly : Bool

/-! The walk. -/

/-- What is to be delivered. `filter` is `CombinedFilter::matches` on an object's fields, and
`maxUpstreamFetchGaps` the server's limit. -/
structure FetchDelivery where
  startLocation : Location
  endLocation : Location
  groupOrder : GroupOrder
  filter : FetchObjectPayload → Bool
  maxUpstreamFetchGaps : Nat

namespace FetchDelivery

def descending (d : FetchDelivery) : Bool := d.groupOrder = .descending

/-- The first Location served. -/
def start (d : FetchDelivery) : Location :=
  deliveredStart d.startLocation d.endLocation d.groupOrder

def wanted (d : FetchDelivery) (group : UInt64) : UInt64 × UInt64 :=
  objectsWanted group d.start d.endLocation

/-- The marker for the groups `first..=last` that could not be brought in. -/
def unfilled (d : FetchDelivery) (first last : UInt64) : FetchObject :=
  unknownUpTo (lastDelivered first last d.start d.endLocation d.descending)

end FetchDelivery

/-- Where the loop is: at a group, past its end (by a stop or with the range done), or left
with an error. -/
inductive Walk where
  | serving (group : UInt64)
  | ended
  | failed
deriving Repr, DecidableEq

/-- The group to serve after the groups `lo..=hi`. -/
def FetchDelivery.nextAfter (d : FetchDelivery) (lo hi : UInt64) : Walk :=
  if d.descending then
    if lo > d.start.group then .serving (lo - 1) else .ended
  else
    if hi < d.endLocation.group then .serving (hi + 1) else .ended

/-- What one pass of the loop meets. `cache` is what the cache holds of a group when it is
looked at, `stopAfter` a stop seen before the object of that number of a cached group,
`claimed` whether no other FETCH is filling the gap, `upstream` what comes back for it, and
`writeFails` the number of the write that fails. -/
structure Iteration where
  stop : FetchStop
  cache : (group : UInt64) → CachedGroup group
  stopAfter : Option (Nat × FetchStop)
  claimed : Bool
  upstream : Option (List FillEvent)
  stopAtEnd : FetchStop
  writeFails : Option Nat

/-- `offered`, `caches`, `asked` and `responses` record the objects put to the filter, the caches
consulted, the parts asked upstream for and the responses read. -/
structure FetchState where
  walk : Walk
  pendingUpstream : Bool
  upstreamGapCount : Nat
  lastWaitedGroup : Option UInt64
  stopReason : FetchStop
  entries : List FetchObject
  marked : List Span
  offered : List FetchObjectPayload
  caches : List ((group : UInt64) → CachedGroup group)
  asked : List Span
  responses : List Response

namespace FetchState

def init (d : FetchDelivery) (pendingUpstream : Bool) : FetchState where
  walk := .serving (if d.descending then d.endLocation.group else d.start.group)
  pendingUpstream := pendingUpstream
  upstreamGapCount := 0
  lastWaitedGroup := none
  stopReason := .running
  entries := []
  marked := []
  offered := []
  caches := []
  asked := []
  responses := []

/-- Writes `entries` one by one and goes on to `walk`, unless a write fails. -/
def writeThen (s : FetchState) (entries : List FetchObject) (writeFails : Option Nat)
    (walk : Walk) : FetchState :=
  match writeFails.filter (· < entries.length) with
  | some n => { s with entries := s.entries ++ entries.take n, walk := .failed }
  | none => { s with entries := s.entries ++ entries, walk := walk }

/-- The objects of a cached group up to a stop. -/
def untilStop (s : FetchState) (objects : List FetchObjectPayload) (it : Iteration) :
    List FetchObjectPayload × FetchStop :=
  match it.stopAfter with
  | some (n, reason) =>
    if n < objects.length ∧ reason ≠ .running then (objects.take n, reason)
    else (objects, s.stopReason)
  | none => (objects, s.stopReason)

/-- A cached group. A stop leaves the rest of it out. -/
def serveCached (d : FetchDelivery) (s : FetchState) (group : UInt64)
    (objects : List FetchObjectPayload) (it : Iteration) : FetchState :=
  let (seen, stopReason) := s.untilStop objects it
  let s := { s with stopReason := stopReason, offered := s.offered ++ seen }
  s.writeThen ((seen.filter d.filter).map .object) it.writeFails (d.nextAfter group group)

/-- The highest group of the gap that starts at `group`, of which at most `fuel` more are in
the range. -/
def scanUp (complete : UInt64 → Bool) : Nat → UInt64 → UInt64
  | 0, group => group
  | fuel + 1, group => if complete (group + 1) then group else scanUp complete fuel (group + 1)

def scanDown (complete : UInt64 → Bool) : Nat → UInt64 → UInt64
  | 0, group => group
  | fuel + 1, group => if complete (group - 1) then group else scanDown complete fuel (group - 1)

/-- The gap around `group`, in the direction of delivery. -/
def gap (d : FetchDelivery) (group : UInt64) (it : Iteration) : UInt64 × UInt64 :=
  let complete := fun g =>
    ((it.cache g).objectsIfComplete (d.wanted g).1 (d.wanted g).2).isSome
  if d.descending then
    (scanDown complete (group.toNat - d.start.group.toNat) group, group)
  else (group, scanUp complete (d.endLocation.group.toNat - group.toNat) group)

/-- Whether a response brought all of the groups `gapStart..=gapEnd`. -/
def deliveredAll (d : FetchDelivery) (fill : Fill) (gapStart gapEnd : UInt64) : Bool :=
  (fill.closedCleanly && fill.absences.fetchOk) ||
    fill.absences.last = some (lastDelivered gapStart gapEnd d.start d.endLocation d.descending)

/-- What is written for a response, the marker for what it did not bring included. -/
def fillEntries (d : FetchDelivery) (fill : Fill) (gapStart gapEnd : UInt64)
    (stopReason : FetchStop) : List FetchObject :=
  if stopReason = .running ∧ deliveredAll d fill gapStart gapEnd = false then
    fill.entries ++ [d.unfilled gapStart gapEnd]
  else fill.entries

/-- The state once a response to `start..=end_` has been read. -/
def noteResponse (s : FetchState) (fill : Fill) (start end_ : Location) (stopReason : FetchStop) :
    FetchState :=
  { s with
    stopReason := stopReason
    marked := s.marked ++
      if stopReason ≠ .malformedTrack then fill.marked ++ fill.absences.onEnd fill.closedCleanly
      else fill.marked
    offered := s.offered ++ fill.heard.filterMap FetchObject.payload?
    responses := s.responses ++ [⟨start, end_, fill.heard, fill.declared, fill.closedCleanly⟩] }

/-- Reads a response to `start..=end_` for the groups `gapStart..=gapEnd`. -/
def fillGap (d : FetchDelivery) (s : FetchState) (gapStart gapEnd : UInt64)
    (start end_ : Location) (events : List FillEvent) (it : Iteration) : FetchState :=
  let absences := ResponseAbsences.new start end_ d.groupOrder
  let fill := Fill.loop d.filter events (.new absences s.stopReason)
  let stopReason := if it.stopAtEnd ≠ .running then it.stopAtEnd else fill.stopReason
  let s := s.noteResponse fill absences.start end_ stopReason
  s.writeThen (fillEntries d fill gapStart gapEnd stopReason) it.writeFails
    (if stopReason ≠ .running then .ended else d.nextAfter gapStart gapEnd)

/-- A group the cache does not account for. -/
def serveGap (d : FetchDelivery) (s : FetchState) (group : UInt64) (it : Iteration) :
    FetchState :=
  let (gapStart, gapEnd) := gap d group it
  if !s.pendingUpstream && !it.claimed && s.lastWaitedGroup ≠ some group then
    -- waits for the fill in flight and looks at the cache again
    { s with lastWaitedGroup := some group }
  else if s.upstreamGapCount ≥ d.maxUpstreamFetchGaps then
    s.writeThen [d.unfilled gapStart gapEnd] it.writeFails (d.nextAfter gapStart gapEnd)
  else
    let s := { s with upstreamGapCount := s.upstreamGapCount + 1 }
    if s.pendingUpstream then
      -- the fetch issued to learn the End Location covers the whole range
      fillGap d { s with pendingUpstream := false } d.start.group d.endLocation.group d.start
        d.endLocation (it.upstream.getD []) it
    else
      let part := requestedPart gapStart gapEnd d.start d.endLocation
      let s := { s with asked := s.asked ++ [part] }
      match it.upstream with
      | none =>
        s.writeThen [d.unfilled gapStart gapEnd] it.writeFails (d.nextAfter gapStart gapEnd)
      | some events => fillGap d s gapStart gapEnd part.1 part.2 events it

/-- The stop the top of the loop sees. One is never taken back, so that one seen inside a
cached group is seen here again. -/
def stopSeen (s : FetchState) (it : Iteration) : FetchStop :=
  if s.stopReason ≠ .running then s.stopReason else it.stop

/-- A group is served from the cache if that accounts for all of it, unless a fetch that
covers it is on its way. -/
def lookUp (d : FetchDelivery) (s : FetchState) (group : UInt64) (it : Iteration) :
    Option (List FetchObjectPayload) :=
  if s.pendingUpstream then none
  else (it.cache group).objectsIfComplete (d.wanted group).1 (d.wanted group).2

def step (d : FetchDelivery) (s : FetchState) (it : Iteration) : Option FetchState :=
  match s.walk with
  | .ended => none
  | .failed => none
  | .serving group =>
    if s.stopSeen it ≠ .running then some { s with stopReason := s.stopSeen it, walk := .ended }
    else
      let s := { s with caches := s.caches ++ [it.cache] }
      match lookUp d s group it with
      | some objects => some (serveCached d s group objects it)
      | none => some (serveGap d s group it)

/-- The delivery reached the end of the range and was not stopped. -/
def EndedNormally (s : FetchState) : Prop := s.walk = .ended ∧ s.stopReason = .running

end FetchState

end Moqtail
