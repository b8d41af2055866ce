import Moqtail.Ts.ControlAgreement
import Moqtail.Ts.Text

/-! What the TypeScript library reads of the control messages that the Rust library has written. -/
namespace Moqtail.Ts

open Lib Moqtail.Message

/-! Numbers. -/

theorem castNumber_ofU64 (context details : String) {v : UInt64} (h : v.toNat < 2 ^ 53) :
    castNumber context details (ofU64 v) = .ok (ofU64 v) := by
  have hlog : v.toNat.log2 - 52 = 0 := by
    rcases Nat.eq_zero_or_pos v.toNat with hzero | hpos
    · rw [hzero]
      rfl
    · have := (Nat.log2_lt (by omega)).mpr h
      omega
  have hexact : isExactNumber (ofU64 v) = true := by
    simp [isExactNumber, hlog, Nat.mod_one]
  rw [castNumber, if_pos hexact]

theorem getBytes_append (value tail : Bytes) :
    ByteBuffer.getBytes value.length (value ++ tail) = .ok (value, tail) := by
  have hlength : ¬ ((value ++ tail).length : Int) < value.length := by
    rw [List.length_append]
    omega
  rw [ByteBuffer.getBytes, if_neg hlength, Int.toNat_natCast, List.take_left, List.drop_left]

theorem ofU64_length {value : Bytes} (h : value.length < 2 ^ 53) :
    ofU64 (UInt64.ofNat value.length) = value.length := by
  rw [ofU64, toNat_ofNat_length (by omega)]

theorem getLengthPrefixedBytes_reads {value : Bytes} (h : value.length < 2 ^ 53) :
    Reads ByteBuffer.getLengthPrefixedBytes (putLengthPrefixed value) value := by
  intro tail
  have hlength := ofU64_length h
  rw [ByteBuffer.getLengthPrefixedBytes, putLengthPrefixed, List.append_assoc,
    ByteBuffer.getNumberVI_putVi (by rw [hlength, maxSafeInteger]; omega), except_ok_bind]
  dsimp only
  rw [hlength, if_neg (by rw [List.length_append]; omega)]
  exact getBytes_append value tail

/-! Names. -/

theorem deserializeTupleField_reads {field : Bytes} (h : field.length < 2 ^ 53) :
    Reads deserializeTupleField (putLengthPrefixed field) field := by
  intro tail
  have hnat : (UInt64.ofNat field.length).toNat < 2 ^ 53 := by
    rw [toNat_ofNat_length (by omega)]
    exact h
  rw [deserializeTupleField, putLengthPrefixed, List.append_assoc, ByteBuffer.getVI_putVi,
    except_ok_bind]
  dsimp only
  rw [castNumber_ofU64 _ _ hnat, except_ok_bind, ofU64_length h]
  exact getBytes_append field tail

theorem deserializeTupleFields_reads (fields : List Bytes) :
    (fields.map TupleField.serialize).flatten.length < 2 ^ 53 →
      Reads (deserializeTupleFields fields.length) (fields.map TupleField.serialize).flatten
        fields := by
  induction fields with
  | nil => exact fun _ _ => rfl
  | cons field fields ih =>
    intro hlength tail
    simp only [List.map_cons, List.flatten_cons, TupleField.serialize, List.length_append,
      putLengthPrefixed] at hlength
    rw [List.map_cons, List.flatten_cons, List.append_assoc, List.length_cons,
      deserializeTupleFields]
    rw [TupleField.serialize, deserializeTupleField_reads (by omega), except_ok_bind]
    dsimp only
    rw [ih (by omega)]
    rfl

theorem Tuple.deserialize_reads {t : Moqtail.Tuple} (h : t.serialize.length ≤ 65535) :
    Reads deserialize t.serialize (ofRust t) := by
  intro tail
  have hfields := Moqtail.Tuple.length_le_flatten t.fields
  rw [Moqtail.Tuple.serialize, List.length_append] at h
  have hcount : (UInt64.ofNat t.fields.length).toNat = t.fields.length :=
    UInt64.toNat_ofNat_of_lt' (show t.fields.length < 2 ^ 64 by omega)
  rw [deserialize, Moqtail.Tuple.serialize, List.append_assoc, ByteBuffer.getVI_putVi,
    except_ok_bind]
  dsimp only
  rw [castNumber_ofU64 _ _ (by omega), except_ok_bind, ofU64, Int.toNat_natCast, hcount,
    deserializeTupleFields_reads t.fields (by omega)]
  rfl

theorem FullTrackName.deserialize_reads {trackNamespace : Moqtail.Tuple} {name : TupleField}
    (h : Message.FullTrackName.WithinLimits trackNamespace name) :
    Reads deserialize (trackNamespace.serialize ++ putLengthPrefixed name)
      (ofRust trackNamespace name) := by
  intro tail
  obtain ⟨hfields, hlength⟩ := h
  rw [Message.FullTrackName.wireLength_eq, Message.FullTrackName.namespaceLength] at hlength
  have hwritten : (Tuple.ofRust trackNamespace).serialize = .ok trackNamespace.serialize :=
    (Tuple.samePart trackNamespace _ (by omega)).mp rfl
  have hcount : ¬ (Tuple.ofRust trackNamespace).fields.length > maxNamespaceTupleCount :=
    Nat.not_lt.mpr hfields
  rw [deserialize, List.append_assoc, Tuple.deserialize_reads (by omega), except_ok_bind]
  dsimp only
  rw [if_neg hcount]
  simp only [except_pure]
  rw [getLengthPrefixedBytes_reads (by omega), except_ok_bind]
  dsimp only
  rw [hwritten, except_ok_bind, if_neg (show ¬ _ > maxFullTrackNameLength from Nat.not_lt.mpr hlength)]
  rfl

/-! Parameters. -/

section Parameters

variable {params : List Moqtail.MessageParameter} {params' : List MessageParameter} {out : Bytes}
  {msgType : ControlMessageType}

/-- The number of the parameters, and what is read after it. -/
theorem exists_parameters_of_put (h : List.Forall₂ Same params params')
    (hgood : ParametersFor msgType params) (hout : Message.putParameters params = .ok out)
    (hlength : out.length ≤ 65535) :
    ∃ list backs, out = putVi (UInt64.ofNat params.length) ++ list ∧ params.length ≤ 65535 ∧
      List.Forall₂ Same (canonicalParameters params) backs ∧
        Reads (fun buf => deserializeMessageParameters buf params.length) list backs := by
  obtain ⟨list, hlist, hret⟩ := except_bind_eq_ok.mp hout
  cases hret
  obtain ⟨backs, hsame, hreads⟩ :=
    deserializeMessageParameters_reads_front h (fun p hp => (hgood p hp).1) hlist
  obtain ⟨kvps, hkvps, hfrom⟩ := except_bind_eq_ok.mp hlist
  have hcount := length_le_serializeParametersFrom _ _ _ hfrom
  rw [sortByType, List.length_insertionSort, ← (mapM_eq_ok_iff.mp hkvps).length_eq] at hcount
  rw [List.length_append] at hlength
  exact ⟨list, backs, rfl, by omega, hsame, hreads⟩

/-- Whichever way the number is read. -/
theorem getParameters_reads (h : List.Forall₂ Same params params')
    (hgood : ParametersFor msgType params) (hout : Message.putParameters params = .ok out)
    (hlength : out.length ≤ 65535) :
    ∃ backs, List.Forall₂ Same (canonicalParameters params) backs ∧
      Reads getParameters out backs ∧ (∀ context, Reads (getParametersCast context) out backs) ∧
        Reads getParametersUnchecked out backs := by
  obtain ⟨list, backs, rfl, hcount, hsame, hreads⟩ :=
    exists_parameters_of_put h hgood hout hlength
  have hnat : (UInt64.ofNat params.length).toNat = params.length :=
    UInt64.toNat_ofNat_of_lt' (show params.length < 2 ^ 64 by omega)
  have hsafe : ofU64 (UInt64.ofNat params.length) ≤ maxSafeInteger := by
    rw [ofU64, hnat, maxSafeInteger]
    omega
  have htail (tail : Bytes) :
      deserializeMessageParameters (list ++ tail) params.length = .ok (backs, tail) := hreads tail
  refine ⟨backs, hsame, fun tail => ?_, fun context tail => ?_, fun tail => ?_⟩
  · rw [getParameters, List.append_assoc, ByteBuffer.getNumberVI_putVi hsafe, except_ok_bind]
    dsimp only
    rw [ofU64, Int.toNat_natCast, hnat, htail]
  · rw [getParametersCast, List.append_assoc, ByteBuffer.getVI_putVi, except_ok_bind]
    dsimp only
    rw [castNumber_ofU64 _ _ (by omega), except_ok_bind, ofU64, Int.toNat_natCast, hnat, htail]
  · rw [getParametersUnchecked, List.append_assoc, ByteBuffer.getVI_putVi, except_ok_bind]
    dsimp only
    rw [ofU64, Int.toNat_natCast, hnat, htail]

end Parameters

/-! Track Properties. -/

namespace TrackProperty

/-- No Type that the Rust library does not know is one that this library knows. -/
theorem ofVarInt_of_unknown {typeValue : UInt64} (value : Int)
    (h : ∀ t : TrackPropertyType, t ≠ .priorGroupIdGap → t ≠ .priorObjectIdGap →
      typeValue ≠ t.toU64) : ofVarInt (ofU64 typeValue) value = .ok none := by
  have hother (t : TrackPropertyType) (hgroup : t ≠ .priorGroupIdGap)
      (hobject : t ≠ .priorObjectIdGap) : ofU64 typeValue ≠ ofU64 t.toU64 :=
    fun heq => h t hgroup hobject (ofU64_inj.mp heq)
  have hobject : ¬ ofU64 typeValue = 0x02 := hother .objectDeliveryTimeout nofun nofun
  have hsubgroup : ¬ ofU64 typeValue = 0x06 := hother .subgroupDeliveryTimeout nofun nofun
  have hcache : ¬ ofU64 typeValue = 0x04 := hother .maxCacheDuration nofun nofun
  have hpriority : ¬ ofU64 typeValue = 0x0E := hother .defaultPublisherPriority nofun nofun
  have horder : ¬ ofU64 typeValue = 0x22 := hother .defaultPublisherGroupOrder nofun nofun
  have hdynamic : ¬ ofU64 typeValue = 0x30 := hother .dynamicGroups nofun nofun
  rw [ofVarInt, if_neg hobject, if_neg hsubgroup, if_neg hcache, if_neg hpriority, if_neg horder,
    if_neg hdynamic]

theorem immutablePropertiesIn_of_ne (context : String) {typeValue : UInt64} (value : Bytes)
    (h : typeValue ≠ TrackPropertyType.immutableProperties.toU64) :
    immutablePropertiesIn context ⟨ofU64 typeValue, .uint8Array value⟩ = .ok none := by
  have hother : ofU64 typeValue ≠ 0x0B :=
    fun heq => h (ofU64_inj.mp (show ofU64 typeValue = ofU64 0x0B from heq))
  rw [immutablePropertiesIn]
  dsimp only
  rw [if_pos hother]

/-- A pair of another Type is kept as it is. -/
theorem fromKeyValuePair_of_unknown {kvp : Moqtail.KeyValuePair}
    (h : ∀ t : TrackPropertyType, t ≠ .priorGroupIdGap → t ≠ .priorObjectIdGap →
      kvp.getType ≠ t.toU64) : fromKeyValuePair (.ofRust kvp) = .ok (unknown (.ofRust kvp)) := by
  cases kvp with
  | varInt typeValue value =>
    rw [fromKeyValuePair]
    dsimp only [KeyValuePair.ofRust]
    have hnone : ofVarInt (ofU64 typeValue) (ofU64 value) = .ok none := ofVarInt_of_unknown _ h
    rw [hnone]
    rfl
  | bytes typeValue value =>
    rw [fromKeyValuePair]
    dsimp only [KeyValuePair.ofRust]
    have hne : typeValue ≠ TrackPropertyType.immutableProperties.toU64 :=
      h .immutableProperties nofun nofun
    rw [immutablePropertiesIn_of_ne _ _ hne]
    rfl

theorem any_immutable_ofRust (properties : List Moqtail.KeyValuePair) :
    (properties.map KeyValuePair.ofRust).any (fun inner => inner.typeValue = 0x0B) =
      properties.any fun inner =>
        inner.getType = TrackPropertyType.immutableProperties.toU64 := by
  rw [List.any_map]
  congr 1
  funext inner
  rw [Function.comp_apply, KeyValuePair.typeValue_ofRust, decide_eq_decide]
  exact ofU64_inj (w := 0x0B)

theorem immutable_agrees (value : Bytes) :
    Agree (fun p p' => p' = ofRust p)
      (Moqtail.TrackProperty.deserialize (.bytes TrackPropertyType.immutableProperties.toU64 value))
      (fromKeyValuePair (.ofRust (.bytes TrackPropertyType.immutableProperties.toU64 value))) := by
  have hts : fromKeyValuePair (.ofRust (.bytes TrackPropertyType.immutableProperties.toU64 value)) =
      (deserializeKvpListUntilEmpty value >>= fun properties =>
        if properties.any fun inner => inner.typeValue = 0x0B then
          .error (.protocolViolation "ImmutablePropertiesTrackProperty.fromKeyValuePair"
            "ImmutableProperties must not contain nested ImmutableProperties (0x0B)")
        else .ok (immutableProperties properties)) := by
    rw [fromKeyValuePair]
    dsimp only [KeyValuePair.ofRust]
    rw [immutablePropertiesIn]
    dsimp only
    have htype : ¬ ofU64 TrackPropertyType.immutableProperties.toU64 ≠ 0x0B := not_not.mpr rfl
    rw [if_neg htype]
    cases deserializeKvpListUntilEmpty value with
    | error e => rfl
    | ok properties =>
      simp only [except_ok_bind]
      split <;> rfl
  have hrust : Moqtail.TrackProperty.deserialize
      (.bytes TrackPropertyType.immutableProperties.toU64 value) =
      (Moqtail.deserializeKvpListUntilEmpty value >>= fun properties =>
        if properties.any fun inner =>
            inner.getType = TrackPropertyType.immutableProperties.toU64 then
          .error (.protocolViolation "TrackProperty::deserialize(ImmutableProperties)"
            "ImmutableProperties MUST NOT contain another ImmutableProperties key")
        else .ok (.immutableProperties properties)) := by
    have htype : TrackPropertyType.tryFrom (Moqtail.KeyValuePair.bytes
        TrackPropertyType.immutableProperties.toU64 value).getType = .ok .immutableProperties :=
      TrackPropertyType.tryFrom_toU64 .immutableProperties
    rw [Moqtail.TrackProperty.deserialize, htype]
    rfl
  rw [hts, hrust]
  apply (KeyValuePair.deserializeKvpListUntilEmpty_agrees value).bind
  rintro properties _ - - rfl
  rw [any_immutable_ofRust]
  split
  · exact .error _ _
  · exact .ok rfl

theorem priority_agrees (value : UInt64) :
    Agree (fun p p' => p' = ofRust p)
      (Moqtail.TrackProperty.deserialize
        (.varInt TrackPropertyType.defaultPublisherPriority.toU64 value))
      (fromKeyValuePair (.ofRust (.varInt TrackPropertyType.defaultPublisherPriority.toU64 value))) := by
  have hts : fromKeyValuePair
      (.ofRust (.varInt TrackPropertyType.defaultPublisherPriority.toU64 value)) =
        if ofU64 value > 255 then .error (.protocolViolation
          "DefaultPublisherPriorityProperty.fromKeyValuePair"
          s!"Priority must be 0-255, got {ofU64 value}")
        else .ok (defaultPublisherPriority (ofU64 value)) := by
    rw [fromKeyValuePair]
    dsimp only [KeyValuePair.ofRust]
    have hof : ofVarInt (ofU64 TrackPropertyType.defaultPublisherPriority.toU64) (ofU64 value) =
        if ofU64 value > 255 then .error (.protocolViolation
          "DefaultPublisherPriorityProperty.fromKeyValuePair"
          s!"Priority must be 0-255, got {ofU64 value}")
        else .ok (some (defaultPublisherPriority (ofU64 value))) := rfl
    rw [hof]
    split <;> rfl
  have hrust : Moqtail.TrackProperty.deserialize
      (.varInt TrackPropertyType.defaultPublisherPriority.toU64 value) =
        if value > 255 then .error (.protocolViolation
          "TrackProperty::deserialize(DefaultPublisherPriority)"
          s!"DEFAULT_PUBLISHER_PRIORITY must be 0-255, got {value}")
        else .ok (.defaultPublisherPriority value.toUInt8) := by
    rw [Moqtail.TrackProperty.deserialize]
    simp only [Moqtail.KeyValuePair.getType, TrackPropertyType.tryFrom_toU64, kvpVarintValue,
      except_ok_bind]
    split <;> rfl
  rw [hts, hrust]
  by_cases hlarge : value > 255
  · have hlarge' := UInt64.lt_iff_toNat_lt.mp hlarge
    rw [if_pos hlarge, if_pos (by dsimp only [ofU64]; simp at hlarge'; omega)]
    exact .error _ _
  · have hsmall := UInt64.le_iff_toNat_le.mp (UInt64.not_lt.mp hlarge)
    have hbyte : value.toNat ≤ 255 := hsmall
    rw [if_neg hlarge, if_neg (by dsimp only [ofU64]; omega)]
    refine .ok ?_
    rw [ofRust, ofU8, UInt64.toNat_toUInt8, Nat.mod_eq_of_lt (show value.toNat < 2 ^ 8 by omega)]

theorem groupOrder_agrees (value : UInt64) :
    Agree (fun p p' => p' = ofRust p)
      (Moqtail.TrackProperty.deserialize
        (.varInt TrackPropertyType.defaultPublisherGroupOrder.toU64 value))
      (fromKeyValuePair (.ofRust (.varInt TrackPropertyType.defaultPublisherGroupOrder.toU64 value))) := by
  by_cases hone : value = 1
  · subst hone
    exact .ok rfl
  by_cases htwo : value = 2
  · subst htwo
    exact .ok rfl
  have hone' : ¬ ofU64 value = 1 := fun heq => hone (ofU64_inj.mp (show _ = ofU64 1 from heq))
  have htwo' : ¬ ofU64 value = 2 := fun heq => htwo (ofU64_inj.mp (show _ = ofU64 2 from heq))
  have hof : ofVarInt (ofU64 TrackPropertyType.defaultPublisherGroupOrder.toU64) (ofU64 value) =
      .error (.protocolViolation "DefaultPublisherGroupOrderProperty.fromKeyValuePair"
        s!"GroupOrder must be Ascending(1) or Descending(2), got {ofU64 value}") := by
    show (if ofU64 value = 1 then _ else if ofU64 value = 2 then _ else _) = _
    rw [if_neg hone', if_neg htwo']
  rw [fromKeyValuePair]
  dsimp only [KeyValuePair.ofRust]
  rw [hof, Moqtail.TrackProperty.deserialize]
  simp only [Moqtail.KeyValuePair.getType, TrackPropertyType.tryFrom_toU64, kvpVarintValue,
    except_ok_bind]
  rw [if_neg hone, if_neg htwo]
  exact .error _ _

theorem dynamicGroups_agrees (value : UInt64) :
    Agree (fun p p' => p' = ofRust p)
      (Moqtail.TrackProperty.deserialize (.varInt TrackPropertyType.dynamicGroups.toU64 value))
      (fromKeyValuePair (.ofRust (.varInt TrackPropertyType.dynamicGroups.toU64 value))) := by
  by_cases hzero : value = 0
  · subst hzero
    exact .ok rfl
  by_cases hone : value = 1
  · subst hone
    exact .ok rfl
  have hlarge : ofU64 value > 1 := by
    rw [← UInt64.toNat_inj] at hzero hone
    simp only [UInt64.toNat_zero, UInt64.toNat_one] at hzero hone
    dsimp only [ofU64]
    omega
  have hof : ofVarInt (ofU64 TrackPropertyType.dynamicGroups.toU64) (ofU64 value) =
      .error (.protocolViolation "DynamicGroupsProperty.fromKeyValuePair"
        s!"DynamicGroups must be 0 or 1, got {ofU64 value}") := by
    show (if ofU64 value > 1 then _ else _) = _
    rw [if_pos hlarge]
  rw [fromKeyValuePair]
  dsimp only [KeyValuePair.ofRust]
  rw [hof, Moqtail.TrackProperty.deserialize]
  simp only [Moqtail.KeyValuePair.getType, TrackPropertyType.tryFrom_toU64, kvpVarintValue,
    except_ok_bind]
  rw [if_neg hzero, if_neg hone]
  exact .error _ _

theorem deserialize_of_unknown {kvp : Moqtail.KeyValuePair}
    (h : ∀ t : TrackPropertyType, t ≠ .priorGroupIdGap → t ≠ .priorObjectIdGap →
      kvp.getType ≠ t.toU64) :
    ∃ p, Moqtail.TrackProperty.deserialize kvp = .ok p ∧ ofRust p = unknown (.ofRust kvp) := by
  unfold Moqtail.TrackProperty.deserialize
  cases htype : TrackPropertyType.tryFrom kvp.getType with
  | error e =>
    by_cases hmandatory : isMandatoryTrack kvp.getType = true
    · exact ⟨.unknownMandatory kvp, by simp [hmandatory], rfl⟩
    · exact ⟨.unknown kvp, by simp [hmandatory], rfl⟩
  | ok t =>
    have hvalue := TrackPropertyType.toU64_of_tryFrom htype
    cases t with
    | priorGroupIdGap | priorObjectIdGap => exact ⟨.unknown kvp, rfl, rfl⟩
    | _ => exact absurd hvalue (h _ nofun nofun)

/-- Both libraries make the same property of a pair, or neither makes one. -/
theorem fromKeyValuePair_agrees {kvp : Moqtail.KeyValuePair} (hwf : kvp.WellFormed) :
    Agree (fun p p' => p' = ofRust p) (Moqtail.TrackProperty.deserialize kvp)
      (fromKeyValuePair (.ofRust kvp)) := by
  by_cases hknown : ∃ t : TrackPropertyType, t ≠ .priorGroupIdGap ∧ t ≠ .priorObjectIdGap ∧
      kvp.getType = t.toU64
  · obtain ⟨t, hgroup, hobject, htype⟩ := hknown
    cases kvp with
    | varInt typeValue value =>
      dsimp only [Moqtail.KeyValuePair.getType] at htype
      subst htype
      cases t with
      | priorGroupIdGap => exact absurd rfl hgroup
      | priorObjectIdGap => exact absurd rfl hobject
      | immutableProperties =>
        have hodd : ¬ TrackPropertyType.immutableProperties.toU64 % 2 = 0 := by decide
        exact absurd hwf hodd
      | objectDeliveryTimeout | maxCacheDuration | subgroupDeliveryTimeout => exact .ok rfl
      | defaultPublisherPriority => exact priority_agrees value
      | defaultPublisherGroupOrder => exact groupOrder_agrees value
      | dynamicGroups => exact dynamicGroups_agrees value
    | bytes typeValue value =>
      dsimp only [Moqtail.KeyValuePair.getType] at htype
      subst htype
      cases t with
      | immutableProperties => exact immutable_agrees value
      | priorGroupIdGap | priorObjectIdGap | objectDeliveryTimeout | maxCacheDuration
      | subgroupDeliveryTimeout | defaultPublisherPriority | defaultPublisherGroupOrder
      | dynamicGroups => exact absurd rfl hwf.1
  · push Not at hknown
    obtain ⟨p, hp, hof⟩ := deserialize_of_unknown hknown
    rw [hp, fromKeyValuePair_of_unknown hknown, ← hof]
    exact .ok rfl

/-- The properties up to the end of a payload are the same to both libraries. -/
theorem deserializeAll_agrees (buf : Bytes) :
    Agree (fun props props' => props' = props.map ofRust) (deserializeTrackProperties buf)
      (deserializeAll buf) := by
  apply (KeyValuePair.deserializeKvpListUntilEmpty_agrees buf).bind
  rintro kvps _ hkvps - rfl
  have hwf := (deserializeKvpsFrom_wellFormed _ _ _ _ hkvps).1.wellFormed
  have hall : List.Forall₂ (fun kvp pair => Agree (fun p p' => p' = ofRust p)
      (Moqtail.TrackProperty.deserialize kvp) (fromKeyValuePair pair)) kvps
      (kvps.map KeyValuePair.ofRust) := by
    rw [List.forall₂_map_right_iff, List.forall₂_same]
    exact fun kvp hmem => fromKeyValuePair_agrees (hwf kvp hmem)
  refine (Agree.mapM hall).imp fun props props' _ _ heach => ?_
  rw [← List.forall₂_eq_eq_eq, List.forall₂_map_right_iff]
  exact heach.flip

theorem deserializeAll_of_serialize {props : List Moqtail.TrackProperty} {out : Bytes}
    (hwf : ∀ p ∈ props, p.WellFormed) (h : serializeTrackProperties props = .ok out) :
    deserializeAll out = .ok ((canonicalTrackProperties props).map ofRust) := by
  have hagree := deserializeAll_agrees out
  rw [deserializeTrackProperties_of_serialize hwf h] at hagree
  generalize deserializeAll out = read at hagree
  cases hagree with
  | ok heq => rw [heq]

end TrackProperty

/-! Text. -/

theorem deserializeReasonPhrase_reads (r : Moqtail.ReasonPhrase) :
    Reads deserializeReasonPhrase r.serialize (dropMark r.phrase) := by
  intro tail
  have hbounded : (asBytes r.phrase).length ≤ 1024 := by
    rw [length_asBytes]
    exact r.bounded
  have hnat : (UInt64.ofNat (asBytes r.phrase).length).toNat = (asBytes r.phrase).length :=
    toNat_ofNat_length (by omega)
  rw [deserializeReasonPhrase, Moqtail.ReasonPhrase.serialize, putLengthPrefixed, List.append_assoc,
    ByteBuffer.getVI_putVi, except_ok_bind]
  dsimp only
  rw [castNumber_ofU64 _ _ (by omega), except_ok_bind, ofU64_length (by omega),
    if_neg (by rw [maxReasonPhraseLen]; omega)]
  simp only [except_pure]
  rw [if_neg (by rw [List.length_append]; omega), getBytes_append, except_ok_bind]
  dsimp only
  rw [decodeTextFatal_asBytes]
  rfl

namespace Redirect

/-- The redirect with its URI as it is decoded. -/
def unmarked (r : Moqtail.Redirect) : Moqtail.Redirect :=
  { r with connectUri := r.connectUri.map dropMark }

theorem deserialize_reads {r : Moqtail.Redirect} (h : r.serialize.length ≤ 65535) :
    Reads deserialize r.serialize (ofRust (unmarked r)) := by
  intro tail
  obtain ⟨uri, trackNamespace, trackName⟩ := r
  simp only [Moqtail.Redirect.serialize, List.length_append, putUri_eq, putLengthPrefixed] at h
  have huri : Moqtail.putUri uri = putLengthPrefixed ((uri.map asBytes).getD []) := by
    cases uri <;> rfl
  have hdecode : (if (decodeText ((uri.map asBytes).getD [])).isEmpty = true then none
      else some (decodeText ((uri.map asBytes).getD []))) =
        (uri.map dropMark).filter fun uri => ! uri.isEmpty := by
    cases uri with
    | none => rfl
    | some uri =>
      rw [Option.map_some, Option.getD_some, decodeText_asBytes, Option.map_some, Option.filter]
      by_cases hempty : (dropMark uri).isEmpty = true <;> simp [hempty]
  rw [deserialize, Moqtail.Redirect.serialize, huri]
  simp only [List.append_assoc]
  rw [getLengthPrefixedBytes_reads (by omega), except_ok_bind]
  dsimp only
  rw [Tuple.deserialize_reads (by omega), except_ok_bind]
  dsimp only
  rw [getLengthPrefixedBytes_reads (by omega), except_ok_bind]
  dsimp only
  rw [hdecode]
  rfl

end Redirect

/-! Payloads. -/

section Payloads

variable {params : List Moqtail.MessageParameter} {params' : List MessageParameter} {out : Bytes}
  {msgType : ControlMessageType}

theorem getU8_cons (byte : UInt8) (tail : Bytes) :
    ByteBuffer.getU8 (byte :: tail) = .ok (byte.toNat, tail) := rfl

theorem getVI_last (v : UInt64) : ByteBuffer.getVI (putVi v) = .ok (ofU64 v, []) := by
  have hlast := ByteBuffer.getVI_putVi v []
  rwa [List.append_nil] at hlast

/-- The parameters of a request to the end of its payload, and the properties behind those of an
answer. -/
theorem answer_reads {properties : List Moqtail.TrackProperty} (h : List.Forall₂ Same params params')
    (hgood : ParametersFor msgType params) (hproperties : ∀ p ∈ properties, p.WellFormed)
    (hout : putAnswer params properties = .ok out) (hlength : out.length ≤ 65535) :
    ∃ list rear backs, out = list ++ rear ∧
      List.Forall₂ Same (canonicalParameters params) backs ∧ Reads getParameters list backs ∧
        (∀ context, Reads (getParametersCast context) list backs) ∧
          TrackProperty.deserializeAll rear =
            .ok ((canonicalTrackProperties properties).map .ofRust) := by
  obtain ⟨list, hlist, hout⟩ := except_bind_eq_ok.mp hout
  obtain ⟨rear, hrear, hret⟩ := except_bind_eq_ok.mp hout
  cases hret
  rw [List.length_append] at hlength
  obtain ⟨backs, hsame, hreads, hcast, -⟩ := getParameters_reads h hgood hlist (by omega)
  exact ⟨list, rear, backs, rfl, hsame, hreads, hcast,
    TrackProperty.deserializeAll_of_serialize hproperties hrear⟩

theorem namespaceRequest_reads {requestId : UInt64} {trackNamespace : Moqtail.Tuple}
    (h : List.Forall₂ Same params params') (hgood : ParametersFor msgType params)
    (hout : putNamespaceRequest requestId trackNamespace params = .ok out)
    (hlength : out.length ≤ 65535) :
    ∃ list backs, out = putVi requestId ++ (trackNamespace.serialize ++ list) ∧
      trackNamespace.serialize.length ≤ 65535 ∧
        List.Forall₂ Same (canonicalParameters params) backs ∧
          getParameters list = .ok (backs, []) := by
  obtain ⟨list, hlist, hret⟩ := except_bind_eq_ok.mp hout
  cases hret
  simp only [List.length_append] at hlength
  obtain ⟨backs, hsame, hreads, -⟩ := getParameters_reads h hgood hlist (by omega)
  have hlast := hreads []
  rw [List.append_nil] at hlast
  exact ⟨list, backs, List.append_assoc _ _ _, by omega, hsame, hlast⟩

theorem trackRequest_reads {requestId : UInt64} {trackNamespace : Moqtail.Tuple} {name : TupleField}
    (h : List.Forall₂ Same params params') (hgood : ParametersFor msgType params)
    (hout : putTrackRequest requestId trackNamespace name params = .ok out)
    (hlength : out.length ≤ 65535) :
    ∃ list backs,
      out = putVi requestId ++ (trackNamespace.serialize ++ putLengthPrefixed name ++ list) ∧
        List.Forall₂ Same (canonicalParameters params) backs ∧
          getParameters list = .ok (backs, []) ∧ getParametersUnchecked list = .ok (backs, []) := by
  obtain ⟨list, hlist, hret⟩ := except_bind_eq_ok.mp hout
  cases hret
  simp only [List.length_append] at hlength
  obtain ⟨backs, hsame, hreads, -, hunchecked⟩ := getParameters_reads h hgood hlist (by omega)
  have hlast := hreads []
  have hlast' := hunchecked []
  rw [List.append_nil] at hlast hlast'
  exact ⟨list, backs, by simp only [List.append_assoc], hsame, hlast, hlast'⟩

end Payloads

/-! The texts of a message, which lose a byte order mark at their beginning. -/

theorem dropMark_bounded (r : Moqtail.ReasonPhrase) :
    (dropMark r.phrase).utf8ByteSize ≤ Moqtail.maxReasonPhraseLen :=
  le_trans (utf8ByteSize_dropMark_le r.phrase) r.bounded

def unmarkedReason (r : Moqtail.ReasonPhrase) : Moqtail.ReasonPhrase :=
  ⟨dropMark r.phrase, dropMark_bounded r⟩

/-- The message with its texts as they are decoded. -/
def unmarked : Message.ControlMessage → Message.ControlMessage
  | .goaway m => .goaway { m with newSessionUri := m.newSessionUri.map dropMark }
  | .publishDone m => .publishDone { m with reasonPhrase := unmarkedReason m.reasonPhrase }
  | .requestError m => .requestError
      { m with
        reasonPhrase := unmarkedReason m.reasonPhrase
        redirect := m.redirect.map Redirect.unmarked }
  | m => m

def texts : Message.ControlMessage → List String
  | .goaway m => m.newSessionUri.toList
  | .publishDone m => [m.reasonPhrase.phrase]
  | .requestError m =>
      m.reasonPhrase.phrase :: (m.redirect.bind Moqtail.Redirect.connectUri).toList
  | _ => []

theorem goAway_of_payload {m : Message.GoAway} (hwf : (Message.ControlMessage.goaway m).OwnFields) :
    parseGoAway (Moqtail.putUri m.newSessionUri ++ putVi m.timeout) =
      .ok (.goAway ⟨m.newSessionUri.map dropMark, ofU64 m.timeout⟩) := by
  obtain ⟨uri, timeout⟩ := m
  obtain ⟨hne, hmax⟩ := hwf
  cases uri with
  | none =>
    have hzero : ByteBuffer.getNumberVI (Moqtail.putUri none ++ putVi timeout) =
        .ok (0, putVi timeout) := rfl
    rw [parseGoAway, hzero, except_ok_bind]
    dsimp only
    rw [if_neg (by decide)]
    simp only [except_pure]
    rw [if_neg (by decide), getVI_last]
    rfl
  | some uri =>
    have hempty : uri ≠ "" := fun heq => hne (congrArg some heq)
    have hpos : 0 < (asBytes uri).length := by
      rw [length_asBytes]
      exact Nat.pos_of_ne_zero fun hzero => hempty (String.utf8ByteSize_eq_zero_iff.mp hzero)
    have hbound : (asBytes uri).length ≤ 8192 := by
      rw [length_asBytes]
      exact hmax
    have hlength : ofU64 (UInt64.ofNat (asBytes uri).length) = (asBytes uri).length :=
      ofU64_length (by omega)
    rw [parseGoAway, Moqtail.putUri, putLengthPrefixed, List.append_assoc,
      ByteBuffer.getNumberVI_putVi (by rw [hlength, maxSafeInteger]; omega), except_ok_bind]
    dsimp only
    rw [hlength, if_neg (by rw [maxNewSessionUriLength]; omega)]
    simp only [except_pure]
    rw [if_pos (by omega), if_neg (by rw [List.length_append]; omega), getBytes_append,
      except_ok_bind]
    dsimp only
    rw [getVI_last, except_ok_bind, decodeText_asBytes]
    rfl

theorem requestError_of_payload {m : Message.RequestError} {out : Bytes}
    (hwf : (Message.ControlMessage.requestError m).OwnFields) (hout : m.payload = .ok out)
    (hlength : out.length ≤ 65535) :
    parseRequestError out = .ok (.requestError m.errorCode (ofU64 m.retryInterval)
      (dropMark m.reasonPhrase.phrase) (m.redirect.map fun r => .ofRust (Redirect.unmarked r))) := by
  obtain ⟨code, retryInterval, reason, redirect⟩ := m
  obtain ⟨hcode, -⟩ := hwf
  cases hout
  simp only [List.length_append] at hlength
  have hfrom : RequestErrorCode.fromWire (ofU64 code.toU64) = code := by cases code <;> rfl
  rw [parseRequestError]
  simp only [List.append_assoc, ByteBuffer.getVI_putVi, except_ok_bind]
  rw [deserializeReasonPhrase_reads, except_ok_bind]
  dsimp only
  rw [hfrom]
  cases redirect with
  | none =>
    have hother : code ≠ .redirect := fun heq => Bool.noConfusion (hcode.mpr heq)
    rw [if_neg hother]
    rfl
  | some redirect =>
    have hredirect : code = .redirect := hcode.mp rfl
    have hread := Redirect.deserialize_reads (r := redirect) (by dsimp only at hlength; omega) []
    rw [List.append_nil] at hread
    rw [if_pos hredirect]
    dsimp only
    rw [hread]
    rfl

theorem publishDone_of_payload (m : Message.PublishDone) :
    parsePublishDone (putVi m.statusCode.toU64 ++ putVi m.streamCount ++ m.reasonPhrase.serialize) =
      .ok (.publishDone m.statusCode (ofU64 m.streamCount) (dropMark m.reasonPhrase.phrase)) := by
  have hfrom : PublishDoneStatusCode.fromWire (ofU64 m.statusCode.toU64) = m.statusCode := by
    cases m.statusCode <;> rfl
  have hreason := deserializeReasonPhrase_reads m.reasonPhrase []
  rw [List.append_nil] at hreason
  rw [parsePublishDone]
  simp only [List.append_assoc, ByteBuffer.getVI_putVi, except_ok_bind, hreason, hfrom]
  rfl

/-- The TypeScript library reads the payload that the Rust library has written, all but the byte
order marks. -/
theorem parsePayload_of_payload {m : Message.ControlMessage} {m' : ControlMessage}
    (h : SameMessage m m') (hwf : m.WellFormed) {out : Bytes} (hout : m.payload = .ok out)
    (hlength : out.length ≤ 65535) :
    ∃ back, ControlMessage.parsePayload m.getType out = .ok back ∧
      SameMessage (unmarked m.canonical) back := by
  obtain ⟨hgood, hproperties, hown⟩ := hwf
  cases h with
  | setup options =>
    refine ⟨_, ?_, .setup (sortByType options)⟩
    have hread := KeyValuePair.deserializeKvpListUntilEmpty_agrees out
    rw [deserializeKvpListUntilEmpty_of_serialize hown hout] at hread
    generalize hts : deserializeKvpListUntilEmpty out = read at hread
    cases hread with
    | ok heq =>
      show parseSetup out = _
      rw [parseSetup, hts, except_ok_bind, heq]
      rfl
  | goAway uri timeout =>
    cases hout
    exact ⟨_, goAway_of_payload hown, .goAway (uri.map dropMark) timeout⟩
  | @subscribe requestId trackNamespace name hname params params' h =>
    obtain ⟨list, backs, rfl, hsame, -, hlast⟩ := trackRequest_reads h hgood hout hlength
    refine ⟨_, ?_, .subscribe requestId hname hsame⟩
    show parseSubscribe _ = _
    rw [parseSubscribe, ByteBuffer.getVI_putVi, except_ok_bind]
    dsimp only
    rw [FullTrackName.deserialize_reads hname, except_ok_bind]
    dsimp only
    rw [hlast]
    rfl
  | @subscribeOk trackAlias params params' h properties =>
    obtain ⟨answer, hanswer, hret⟩ := except_bind_eq_ok.mp hout
    cases hret
    rw [List.length_append] at hlength
    obtain ⟨list, rear, backs, rfl, hsame, hreads, -, hrear⟩ :=
      answer_reads h hgood hproperties hanswer (by omega)
    refine ⟨_, ?_, .subscribeOk trackAlias hsame (canonicalTrackProperties properties)⟩
    show parseSubscribeOk _ = _
    rw [parseSubscribeOk, ByteBuffer.getVI_putVi, except_ok_bind]
    dsimp only
    rw [hreads, except_ok_bind]
    dsimp only
    rw [hrear]
    rfl
  | @requestError code retryInterval reason redirect made =>
    have hmade : (redirect.map Redirect.unmarked).isSome = true ↔ code = .redirect := by
      rw [Option.isSome_map]
      exact made
    refine ⟨_, requestError_of_payload hown hout hlength, ?_⟩
    have hsame := SameMessage.requestError retryInterval (unmarkedReason reason) hmade
    rwa [Option.map_map] at hsame
  | @requestUpdate requestId params params' h =>
    obtain ⟨list, hlist, hret⟩ := except_bind_eq_ok.mp hout
    cases hret
    rw [List.length_append] at hlength
    obtain ⟨backs, hsame, -, hcast, -⟩ := getParameters_reads h hgood hlist (by omega)
    have hlast := hcast "RequestUpdate.deserialize paramCount" []
    rw [List.append_nil] at hlast
    refine ⟨_, ?_, .requestUpdate requestId hsame⟩
    show parseRequestUpdate _ = _
    rw [parseRequestUpdate, ByteBuffer.getVI_putVi, except_ok_bind]
    dsimp only
    rw [hlast]
    rfl
  | publishDone code streamCount reason =>
    cases hout
    exact ⟨_, publishDone_of_payload _, .publishDone code streamCount (unmarkedReason reason)⟩
  | @fetch requestId trackNamespace name hname params params' h =>
    obtain ⟨list, backs, rfl, hsame, hlast, -⟩ := trackRequest_reads h hgood hout hlength
    refine ⟨_, ?_, .fetch requestId hname hsame⟩
    show parseFetch _ = _
    rw [parseFetch, ByteBuffer.getVI_putVi, except_ok_bind]
    dsimp only
    rw [FullTrackName.deserialize_reads hname, except_ok_bind]
    dsimp only
    rw [hlast]
    rfl
  | @fetchOk endOfTrack endLocation params params' h properties =>
    obtain ⟨answer, hanswer, hret⟩ := except_bind_eq_ok.mp hout
    cases hret
    rw [List.length_cons, List.length_append] at hlength
    obtain ⟨list, rear, backs, rfl, hsame, hreads, -, hrear⟩ :=
      answer_reads h hgood hproperties hanswer (by omega)
    refine ⟨_, ?_, .fetchOk endOfTrack endLocation hsame (canonicalTrackProperties properties)⟩
    show parseFetchOk _ = _
    have hend (tail : Bytes) : getEndOfTrack ((if endOfTrack then 1 else 0) :: tail) =
        .ok (endOfTrack, tail) := by
      cases endOfTrack <;> rfl
    rw [parseFetchOk, hend, except_ok_bind]
    dsimp only
    rw [Location.deserialize_reads, except_ok_bind]
    dsimp only
    rw [hreads, except_ok_bind]
    dsimp only
    rw [hrear]
    rfl
  | @publishNamespace requestId front params params' h =>
    obtain ⟨list, backs, rfl, hfront, hsame, hlast⟩ := namespaceRequest_reads h hgood hout hlength
    refine ⟨_, ?_, .publishNamespace requestId front hsame⟩
    show parsePublishNamespace _ = _
    rw [parsePublishNamespace, ByteBuffer.getVI_putVi, except_ok_bind]
    dsimp only
    rw [Tuple.deserialize_reads hfront, except_ok_bind]
    dsimp only
    rw [hlast]
    rfl
  | @requestOk params params' h properties =>
    obtain ⟨list, rear, backs, rfl, hsame, -, hcast, hrear⟩ :=
      answer_reads h hgood hproperties hout hlength
    refine ⟨_, ?_, .requestOk hsame (canonicalTrackProperties properties)⟩
    show parseRequestOk _ = _
    rw [parseRequestOk, hcast, except_ok_bind]
    dsimp only
    rw [hrear]
    rfl
  | «namespace» suffix =>
    cases hout
    have hread := Tuple.deserialize_reads hlength []
    rw [List.append_nil] at hread
    refine ⟨_, ?_, .namespace suffix⟩
    show parseNamespace _ = _
    rw [parseNamespace, hread]
    rfl
  | namespaceDone suffix =>
    cases hout
    have hread := Tuple.deserialize_reads hlength []
    rw [List.append_nil] at hread
    refine ⟨_, ?_, .namespaceDone suffix⟩
    show parseNamespaceDone _ = _
    rw [parseNamespaceDone, hread]
    rfl
  | @subscribeNamespace requestId front params params' h =>
    obtain ⟨list, backs, rfl, hfront, hsame, hlast⟩ := namespaceRequest_reads h hgood hout hlength
    refine ⟨_, ?_, .subscribeNamespace requestId front hsame⟩
    show parseSubscribeNamespace _ = _
    rw [parseSubscribeNamespace, ByteBuffer.getVI_putVi, except_ok_bind]
    dsimp only
    rw [Tuple.deserialize_reads hfront, except_ok_bind]
    dsimp only
    rw [hlast]
    rfl
  | @subscribeTracks requestId front params params' h =>
    obtain ⟨list, backs, rfl, hfront, hsame, hlast⟩ := namespaceRequest_reads h hgood hout hlength
    refine ⟨_, ?_, .subscribeTracks requestId front hsame⟩
    show parseSubscribeTracks _ = _
    rw [parseSubscribeTracks, ByteBuffer.getVI_putVi, except_ok_bind]
    dsimp only
    rw [Tuple.deserialize_reads hfront, except_ok_bind]
    dsimp only
    rw [hlast]
    rfl
  | @publish requestId trackAlias trackNamespace name hname params params' h properties =>
    obtain ⟨answer, hanswer, hret⟩ := except_bind_eq_ok.mp hout
    cases hret
    simp only [List.length_append] at hlength
    obtain ⟨list, rear, backs, rfl, hsame, hreads, -, hrear⟩ :=
      answer_reads h hgood hproperties hanswer (by omega)
    refine ⟨_, ?_, .publish requestId trackAlias hname hsame (canonicalTrackProperties properties)⟩
    show parsePublish _ = _
    have hfront := FullTrackName.deserialize_reads hname
      (putVi trackAlias ++ (list ++ rear))
    rw [List.append_assoc] at hfront
    rw [parsePublish]
    simp only [List.append_assoc]
    rw [ByteBuffer.getVI_putVi, except_ok_bind]
    dsimp only
    rw [hfront, except_ok_bind]
    dsimp only
    rw [ByteBuffer.getVI_putVi, except_ok_bind]
    dsimp only
    rw [hreads, except_ok_bind]
    dsimp only
    rw [hrear]
    rfl
  | publishSkipped suffix name =>
    cases hout
    have hparts : suffix.serialize.length +
        ((putVi (UInt64.ofNat name.length)).length + name.length) ≤ 65535 := by
      rw [← List.length_append, ← List.length_append]
      exact hlength
    have hread := getLengthPrefixedBytes_reads (show name.length < 2 ^ 53 by omega) []
    rw [List.append_nil] at hread
    refine ⟨_, ?_, .publishSkipped suffix name⟩
    show parsePublishSkipped (suffix.serialize ++ putLengthPrefixed name) = _
    rw [parsePublishSkipped, Tuple.deserialize_reads (by omega), except_ok_bind]
    dsimp only
    rw [hread]
    rfl

/-! Whole messages. -/

theorem ControlMessageType.tryFrom_ofU64 (t : ControlMessageType) :
    tryFrom (ofU64 t.toU64) = .ok t := by
  cases t <;> rfl

theorem getU16_beBytes {n : Nat} (h : n ≤ 65535) (tail : Bytes) :
    ByteBuffer.getU16 (beBytes 2 (UInt64.ofNat n) ++ tail) = .ok ((n : Int), tail) := by
  have hnat : (UInt64.ofNat n).toNat = n := UInt64.toNat_ofNat_of_lt' (show n < 2 ^ 64 by omega)
  have hhigh := beByte_toNat 1 (by decide) (UInt64.ofNat n)
  have hlow := beByte_toNat 0 (by decide) (UInt64.ofNat n)
  rw [hnat] at hhigh hlow
  simp only [beBytes, List.cons_append, List.nil_append, ByteBuffer.getU16, hhigh, hlow,
    Except.ok.injEq, Prod.mk.injEq, and_true]
  omega

theorem deserialize_of_serialize {m : Message.ControlMessage} {m' : ControlMessage}
    (h : SameMessage m m') (hwf : m.WellFormed) {out : Bytes} (hout : m.serialize = .ok out)
    (tail : Bytes) :
    ∃ back, ControlMessage.deserialize (out ++ tail) = .ok back ∧
      SameMessage (unmarked m.canonical) back := by
  obtain ⟨payload, hpayload, hlength, rfl⟩ := Message.ControlMessage.serialize_eq_ok.mp hout
  obtain ⟨back, hback, hsame⟩ := parsePayload_of_payload h hwf hpayload hlength
  refine ⟨back, ?_, hsame⟩
  rw [ControlMessage.deserialize]
  simp only [List.append_assoc]
  rw [ByteBuffer.getVI_putVi, except_ok_bind]
  dsimp only
  rw [ControlMessageType.tryFrom_ofU64, except_ok_bind, getU16_beBytes hlength, except_ok_bind]
  dsimp only
  rw [if_neg (by rw [List.length_append]; omega), getBytes_append, except_ok_bind]
  exact hback

/-! Which messages are read as they were written. -/

theorem SameMessage.goAway_eq {m : Message.GoAway} {m' : ControlMessage}
    (h : SameMessage (.goaway m) m') : m' = .goAway ⟨m.newSessionUri, ofU64 m.timeout⟩ := by
  cases h
  rfl

theorem SameMessage.publishDone_eq {m : Message.PublishDone} {m' : ControlMessage}
    (h : SameMessage (.publishDone m) m') :
    m' = .publishDone m.statusCode (ofU64 m.streamCount) m.reasonPhrase.phrase := by
  cases h
  rfl

theorem SameMessage.requestError_eq {m : Message.RequestError} {m' : ControlMessage}
    (h : SameMessage (.requestError m) m') :
    m' = .requestError m.errorCode (ofU64 m.retryInterval) m.reasonPhrase.phrase
      (m.redirect.map .ofRust) := by
  cases h
  rfl

theorem Redirect.connectUri_of_unmarked {r : Moqtail.Redirect} {uri : String}
    (huri : r.connectUri = some uri) (hne : uri ≠ "") (h : ofRust (unmarked r) = ofRust r) :
    dropMark uri = uri := by
  have hfield := congrArg connectUri h
  have hnonempty : uri.isEmpty = false := by
    rw [Bool.eq_false_iff, ne_eq, String.isEmpty_iff]
    exact hne
  simp only [ofRust, unmarked, huri, Option.map_some, Option.filter, hnonempty, Bool.not_false,
    if_true] at hfield
  split at hfield
  · exact Option.some.inj hfield
  · cases hfield

/-- No text of a message that is also the message without its byte order marks begins with one. -/
theorem SameMessage.dropMark_eq {m : Message.ControlMessage} {back : ControlMessage}
    (hown : m.OwnFields) (h : SameMessage m back) (hunmarked : SameMessage (unmarked m) back) :
    ∀ text ∈ texts m, dropMark text = text := by
  intro text hmem
  cases m with
  | goaway m =>
    have hback := hunmarked.goAway_eq
    rw [h.goAway_eq, ControlMessage.goAway.injEq, GoAway.mk.injEq] at hback
    have huri := Option.mem_toList.mp hmem
    rw [huri, Option.map_some, Option.some.injEq] at hback
    exact hback.1.symm
  | publishDone m =>
    have hback := hunmarked.publishDone_eq
    rw [h.publishDone_eq, ControlMessage.publishDone.injEq] at hback
    rw [List.mem_singleton.mp hmem]
    exact hback.2.2.symm
  | requestError m =>
    have hback := hunmarked.requestError_eq
    rw [h.requestError_eq, ControlMessage.requestError.injEq] at hback
    obtain ⟨-, -, hreason, hredirect⟩ := hback
    rcases List.mem_cons.mp hmem with rfl | hmem
    · exact hreason.symm
    · obtain ⟨redirect, hsome, huri⟩ := Option.bind_eq_some_iff.mp (Option.mem_toList.mp hmem)
      have hne : text ≠ "" := fun heq => hown.2 redirect hsome (heq ▸ huri)
      simp only [hsome, Option.map_some, Option.some.injEq] at hredirect
      exact Redirect.connectUri_of_unmarked huri hne hredirect.symm
  | _ => cases hmem

theorem unmarked_eq {m : Message.ControlMessage} (h : ∀ text ∈ texts m, dropMark text = text) :
    unmarked m = m := by
  have hreason (r : Moqtail.ReasonPhrase) (heq : dropMark r.phrase = r.phrase) :
      unmarkedReason r = r := by
    obtain ⟨phrase, bounded⟩ := r
    simp only [unmarkedReason, heq]
  cases m with
  | goaway m =>
    obtain ⟨uri, timeout⟩ := m
    cases uri with
    | none => rfl
    | some uri =>
      have huri : dropMark uri = uri := h uri (List.mem_singleton.mpr rfl)
      simp only [unmarked, Option.map_some, huri]
  | publishDone m => simp only [unmarked, hreason _ (h _ (List.mem_singleton.mpr rfl))]
  | requestError m =>
    obtain ⟨code, retryInterval, reason, redirect⟩ := m
    have hphrase := hreason reason (h _ List.mem_cons_self)
    have hredirect : redirect.map Redirect.unmarked = redirect := by
      cases redirect with
      | none => rfl
      | some redirect =>
        obtain ⟨uri, trackNamespace, trackName⟩ := redirect
        cases uri with
        | none => rfl
        | some uri =>
          have huri : dropMark uri = uri := h uri (List.mem_cons_of_mem _ (List.mem_singleton.mpr rfl))
          simp only [Option.map_some, Redirect.unmarked, huri]
    simp only [unmarked, hphrase, hredirect]
  | _ => rfl

theorem texts_canonical (m : Message.ControlMessage) : texts m.canonical = texts m := by
  cases m <;> rfl

theorem ownFields_canonical {m : Message.ControlMessage} (h : m.OwnFields) :
    m.canonical.OwnFields := by
  cases m with
  | setup m => exact fun kvp hmem => h kvp ((List.perm_insertionSort _ _).mem_iff.mp hmem)
  | goaway m => exact h
  | requestError m => exact h
  | _ => trivial

/-- The TypeScript library reads whatever the Rust library writes of a message that both have, and
loses of it the byte order marks at the beginning of its texts and nothing else: it has the message
exactly when no text of it begins with one. -/
theorem control_messages_read_across {m : Message.ControlMessage} {m' : ControlMessage}
    (h : SameMessage m m') (hwf : m.WellFormed) {out : Bytes} (hout : m.serialize = .ok out)
    (tail : Bytes) :
    (∃ back, ControlMessage.deserialize (out ++ tail) = .ok back ∧
      SameMessage (unmarked m.canonical) back) ∧
    ((∃ back, ControlMessage.deserialize (out ++ tail) = .ok back ∧ SameMessage m.canonical back) ↔
      ∀ text ∈ texts m, text.toList.head? ≠ some byteOrderMark) := by
  obtain ⟨back, hback, hunmarked⟩ := deserialize_of_serialize h hwf hout tail
  refine ⟨⟨back, hback, hunmarked⟩, ?_⟩
  simp only [← dropMark_eq_iff]
  rw [← texts_canonical]
  constructor
  · rintro ⟨back', hback', hsame⟩
    rw [hback, Except.ok.injEq] at hback'
    subst hback'
    exact hsame.dropMark_eq (ownFields_canonical hwf.ownFields) hunmarked
  · intro htexts
    rw [unmarked_eq htexts] at hunmarked
    exact ⟨back, hback, hunmarked⟩

/-- A GOAWAY to a URI that begins with a byte order mark, and one to the URI without it. -/
theorem control_messages_read_across_goAway :
    (∃ out, Message.ControlMessage.serialize (.goaway ⟨some "\uFEFFmoq", 5⟩) = .ok out ∧
      ¬ ∃ back, ControlMessage.deserialize (out ++ []) = .ok back ∧
        SameMessage (.goaway ⟨some "\uFEFFmoq", 5⟩) back) ∧
    ∃ out, Message.ControlMessage.serialize (.goaway ⟨some "moq", 5⟩) = .ok out ∧
      ∃ back, ControlMessage.deserialize (out ++ []) = .ok back ∧
        SameMessage (.goaway ⟨some "moq", 5⟩) back := by
  have hwritten (uri : String) (hle : (Moqtail.putUri (some uri) ++ putVi 5).length ≤ 65535) :
      ∃ out, Message.ControlMessage.serialize (.goaway ⟨some uri, 5⟩) = .ok out :=
    ⟨_, Message.ControlMessage.serialize_eq_ok.mpr ⟨_, rfl, hle, rfl⟩⟩
  have hwf (uri : String) (hne : uri ≠ "") (hle : uri.utf8ByteSize ≤ 8192) :
      Message.ControlMessage.WellFormed (.goaway ⟨some uri, 5⟩) :=
    ⟨nofun, nofun, fun heq => hne (Option.some.inj heq), hle⟩
  obtain ⟨out, hout⟩ := hwritten "\uFEFFmoq" (by decide)
  obtain ⟨out', hout'⟩ := hwritten "moq" (by decide)
  refine ⟨⟨out, hout, fun hback => ?_⟩, out', hout', ?_⟩
  · exact (control_messages_read_across (.goAway _ 5) (hwf _ (by decide) (by decide)) hout []).2.mp
      hback _ List.mem_cons_self rfl
  · refine (control_messages_read_across (.goAway _ 5) (hwf _ (by decide) (by decide)) hout' []).2.mpr
      fun text hmem => ?_
    cases List.mem_singleton.mp hmem
    decide

end Moqtail.Ts
