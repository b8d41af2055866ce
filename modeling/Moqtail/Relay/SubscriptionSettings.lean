import Moqtail.Relay.FilterChecks
import Moqtail.Relay.StreamPriority
import Moqtail.Relay.Switching

/-! The settings a subscription is served with, and what the subscriber's requests make of them.

A SUBSCRIBE, or the PUBLISH a SUBSCRIBE_TRACKS leads to, makes a subscription with the settings of
its parameters (`server/subscription.rs`, `message_handlers/parameters.rs`,
`message_handlers/publish_handler.rs`). A REQUEST_UPDATE is checked by `server/filter_constructor.rs`
and then applied, where the handler of a SUBSCRIBE's keeps a list of the parameters of its own. A fill
(`server/fill.rs`) is served with what its FILL_PARAMETERS leave of the settings. -/
namespace Moqtail

open Lib Message

/-! The parameters the relay reads. -/

def subscriberPriorityOf (params : List MessageParameter) : Option UInt8 :=
  params.findSome? fun
    | .subscriberPriority priority => some priority
    | _ => none

def groupOrderOf (params : List MessageParameter) : Option GroupOrder :=
  params.findSome? fun
    | .groupOrder order => some order
    | _ => none

def forwardOf (params : List MessageParameter) : Option Bool :=
  params.findSome? fun
    | .forward value => some value
    | _ => none

def locationFilterIn (params : List MessageParameter) : Option LocationFilter :=
  params.findSome? fun
    | .locationFilter filter => some filter
    | _ => none

/-- An omitted filter is no filter. -/
def locationFilterOf (params : List MessageParameter) : LocationFilter :=
  (locationFilterIn params).getD .none

def largestObjectOf (params : List MessageParameter) : Option Location :=
  params.findSome? fun
    | .largestObject location => some location
    | _ => none

/-- `fill_parameters`. -/
def fillParametersOf (params : List MessageParameter) : Option (List MessageParameter) :=
  params.findSome? fun
    | .fillParameters parameters => some parameters
    | _ => none

/-! The settings. -/

structure SubscriptionSettings where
  subscriberPriority : UInt8
  groupOrder : GroupOrder
  state : SubscriptionState
  subscribeParameters : List MessageParameter
  rangeFilter : CombinedFilter

namespace SubscriptionSettings

/-- What the two branches of `From<SubscriptionOrigin>` have in common. -/
def ofParameters (params : List MessageParameter) (rangeFilter : CombinedFilter) :
    SubscriptionSettings where
  subscriberPriority := (subscriberPriorityOf params).getD 128
  groupOrder := (groupOrderOf params).getD .ascending
  state := .create ((forwardOf params).getD true) (locationFilterOf params)
  subscribeParameters := params
  rangeFilter := rangeFilter

def ofSubscribe (params : List MessageParameter) : SubscriptionSettings :=
  ofParameters params (filterOrDefault params)

def ofPublish (params : List MessageParameter) : SubscriptionSettings := ofParameters params default

/-- `resolve_live_start`. -/
def resolveLiveStart (s : SubscriptionSettings) (largest : Option Location) : SubscriptionSettings :=
  { s with state := s.state.resolveLiveStart largest }

/-- `begin_switch`. -/
def beginSwitch (s : SubscriptionSettings) (filter : Option LocationFilter)
    (largest : Option Location) : SubscriptionSettings :=
  { s with state := s.state.beginSwitch filter largest }

end SubscriptionSettings

/-- What the loop over the parameters of an update changes. -/
structure UpdateLoop where
  subscriberPriority : UInt8
  forward : Bool
  transition : Bool
  forwardBecomingFalse : Bool

/-- The turn of the loop. -/
def UpdateLoop.turn (l : UpdateLoop) : MessageParameter → UpdateLoop
  | .subscriberPriority priority => { l with subscriberPriority := priority }
  | .forward forward =>
    { l with
      transition := l.transition || (forward && !l.forward)
      forwardBecomingFalse := l.forwardBecomingFalse || (!forward && l.forward)
      forward := forward }
  | _ => l

namespace SubscriptionSettings

/-- `update_subscription`: the settings after the update, and whether forwarding became true or
false on the way. A relative filter is resolved by the caller. -/
def updateSubscription (s : SubscriptionSettings) (update : List MessageParameter) :
    SubscriptionSettings × Bool × Bool :=
  let state :=
    match locationFilterIn update with
    | some filter => s.state.setLocationFilter filter none
    | none => s.state
  let loop := update.foldl UpdateLoop.turn ⟨s.subscriberPriority, state.forward, false, false⟩
  let subscribeParameters := applyMessageParameterUpdate s.subscribeParameters update
  ({ s with
      subscriberPriority := loop.subscriberPriority
      state := { state with forward := loop.forward }
      subscribeParameters := subscribeParameters
      rangeFilter := filterOrDefault subscribeParameters },
    loop.transition, loop.forwardBecomingFalse)

end SubscriptionSettings

/-! A SUBSCRIBE and its updates. -/

/-- The subscription, and the parameters in the client's record of its SUBSCRIBE, which the updates
are checked against. -/
structure Subscribed where
  recorded : List MessageParameter
  settings : SubscriptionSettings

/-- A REQUEST_UPDATE, with what `plan_switch` says of it (it refuses the update, or has a switch for
it, or none) and the Largest Object at the time. -/
structure SubscriptionUpdate where
  message : Message.RequestUpdate
  plan : Except Unit Bool
  largest : Option Location

namespace Subscribed

/-- With the Largest Objects when the subscriber joins and, if the SUBSCRIBE asks for a switch, when
it is made. A SUBSCRIBE describes its subscription in full, so that the switch starts where its
filter says, or the lack of one. -/
def ofSubscribe (m : Message.Subscribe) (joined : Option Location)
    (switched : Option (Option Location)) : Subscribed :=
  let settings := (SubscriptionSettings.ofSubscribe m.subscribeParameters).resolveLiveStart joined
  { recorded := m.subscribeParameters
    settings :=
      match switched with
      | some largest =>
        settings.beginSwitch (some (locationFilterOf m.subscribeParameters)) largest
      | none => settings }

/-- `handle_request_update` once the update is to be applied. -/
def apply (s : Subscribed) (u : SubscriptionUpdate) (switches : Bool) : Subscribed :=
  let settings := (s.settings.updateSubscription u.message.parameters).1
  let filter := locationFilterIn u.message.parameters
  { recorded := applyMessageParameterUpdate s.recorded u.message.parameters
    settings :=
      if switches then settings.beginSwitch filter u.largest
      else if filter.isSome then settings.resolveLiveStart u.largest
      else settings }

/-- `handle_request_update`. Filters that cannot be honoured end the subscription; a switch that
cannot be made leaves it as it was. -/
def handleRequestUpdate (limit : Nat) (s : Subscribed) (u : SubscriptionUpdate) :
    Option Subscribed :=
  match updatedFilter s.recorded u.message.parameters limit with
  | .error _ => none
  | .ok _ =>
    match u.plan with
    | .error _ => some s
    | .ok switches => some (s.apply u switches)

end Subscribed

/-! A pushed PUBLISH and its updates. -/

/-- The larger of what an upstream told the relay and what the relay has seen itself. -/
def largestObject (upstream : List MessageParameter) (observed : Option Location) :
    Option Location :=
  match largestObjectOf upstream, observed with
  | some reported, some observed => some (if reported < observed then observed else reported)
  | reported, observed => reported.or observed

def downstreamPublish (upstream subscribeTracks : List MessageParameter)
    (observed : Option Location) : List MessageParameter :=
  .forward ((forwardOf subscribeTracks).getD true) ::
    (((groupOrderOf subscribeTracks).or (groupOrderOf upstream)).map .groupOrder).toList ++
    ((locationFilterIn subscribeTracks).map .locationFilter).toList ++
    ((largestObject upstream observed).map .largestObject).toList

/-- The PUBLISH of a track, and the Largest Object the relay has seen when it writes its own PUBLISH
and when the subscriber joins. -/
structure PublishedTrack where
  parameters : List MessageParameter
  trackProperties : List TrackProperty
  observed : Option Location
  joined : Option Location

namespace SubscriptionSettings

/-- The settings of the subscription that `push_track_to_subscriber` makes for a SUBSCRIBE_TRACKS,
if the track is pushed. -/
def pushed (subscribeTracks : List MessageParameter) (track : PublishedTrack) :
    Option SubscriptionSettings :=
  (filtersForTrack subscribeTracks track.trackProperties).map fun rangeFilters =>
    let s := (ofPublish (downstreamPublish track.parameters subscribeTracks track.observed))
      |>.resolveLiveStart track.joined
    let s :=
      if rangeFilters.isEmpty then s
      else
        { s with
          rangeFilter := filterOrDefault rangeFilters
          subscribeParameters := s.subscribeParameters ++ rangeFilters }
    { s with
      subscribeParameters :=
        s.subscribeParameters ++ ((fillParametersOf subscribeTracks).map .fillParameters).toList }

end SubscriptionSettings

/-- What a fill fetch stream is opened with. -/
structure FillDelivery where
  startLocation : Location
  endLocation : Location
  groupOrder : GroupOrder
  streamPriority : Int
  filter : CombinedFilter

/-- `fill_filter`. -/
def fillFilter (fill : List MessageParameter) (subscriptionFilter : LocationFilter) :
    LocationFilter :=
  (locationFilterIn fill).getD subscriptionFilter

/-- `fill_overrides`, where the last of a repeated parameter counts. -/
def fillOverrides (fill : List MessageParameter) (priority : UInt8) (order : GroupOrder) :
    UInt8 × GroupOrder :=
  fill.foldl (fun overridden param =>
    match param with
    | .subscriberPriority priority => (priority, overridden.2)
    | .groupOrder order => (overridden.1, order)
    | _ => overridden) (priority, order)

/-- `open_fill_fetch_stream`, up to the task that serves the stream. -/
def SubscriptionSettings.openFill (s : SubscriptionSettings) (largest : Option Location) :
    Option FillDelivery :=
  match fillParametersOf s.subscribeParameters with
  | none => none
  | some fill =>
    let overridden := fillOverrides fill s.subscriberPriority s.groupOrder
    if !s.state.forward then none
    else
      ((fillFilter fill s.state.locationFilter).fetchRange largest).map fun range =>
        { startLocation := range.1
          endLocation := range.2
          groupOrder := overridden.2
          streamPriority := computeStreamPriority overridden.1 128 overridden.2 range.1.group
          filter := fillRangeFilter s.subscribeParameters fill }

end Moqtail
