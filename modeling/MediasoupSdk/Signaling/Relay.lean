import MediasoupSdk.Json.Encode
import MediasoupSdk.Signaling.Models

/-! The codec parameters on their way from a producer to a consumer: they are written with the
model of the produce request and read with the model of the `newConsumer` request. -/
namespace MediasoupSdk

namespace Fields

variable {fields : Fields} {value : fields.Val} {j : Json}

/-- A member of what is written, by the member that was read. -/
theorem get?_jserialize {members : List (String × Json)}
    (h : fields.jdeserialize fields.fresh (.object members) = .ok value) (name : String)
    (path : List Json.Step) :
    (fields.jserialize value).get? (.key name :: path) =
      (fields.mapped.lookup name).bind fun t =>
        ((members.lookup name).bind (t.rewritten name)).bind (·.get? path) := by
  rw [jserialize, Json.get?_object, lookup_members_of_ok fields h]
  cases fields.mapped.lookup name with
  | none => rfl
  | some t => rfl

end Fields

/-- The items of a list that is read, one by one. -/
theorem mapM_getElem? {α β ε : Type} {f : α → Except ε β} {l : List α} {r : List β}
    (h : l.mapM f = .ok r) (i : ℕ) :
    (l[i]? = none ∧ r[i]? = none) ∨ ∃ a b, l[i]? = some a ∧ r[i]? = some b ∧ f a = .ok b := by
  induction l generalizing r i with
  | nil =>
    simp only [List.mapM_nil, pure, Except.pure, Except.ok.injEq] at h
    simp [← h]
  | cons a l ih =>
    simp only [List.mapM_cons, Foundation.bind_ok, pure, Except.pure, Except.ok.injEq] at h
    obtain ⟨b, hb, r', hr', rfl⟩ := h
    cases i with
    | zero => exact Or.inr ⟨a, b, rfl, rfl, hb⟩
    | succ i => simpa using ih hr' i

namespace Signaling

/-- The members that only the model of the produce request has are not engaged. -/
def ProduceRequest.Parameters.AudioOnly : ProduceRequest.Parameters.Val → Prop
  | (apt, _, _, _, _, levelAsymmetryAllowed, packetizationMode, profileLevelId,
      xGoogleStartBitrate, profileId, ()) =>
    apt = none ∧ levelAsymmetryAllowed = none ∧ packetizationMode = none ∧
      profileLevelId = none ∧ xGoogleStartBitrate = none ∧ profileId = none

/-- What the model of the `newConsumer` request keeps. -/
def ProduceRequest.Parameters.received :
    ProduceRequest.Parameters.Val → NewConsumerRequest.Parameters.Val
  | (_, spropStereo, usedtx, minptime, useinbandfec, _) =>
    (spropStereo, usedtx, minptime, useinbandfec, ())

section Parameters

variable (q : ProduceRequest.Parameters.Val)

/-- Relayed parameters are always read; four of the ten members are kept. -/
theorem relayed_parameters_read :
    NewConsumerRequest.Parameters.jdeserialize (Fields.fresh _)
      (ProduceRequest.Parameters.jserialize q) = .ok (ProduceRequest.Parameters.received q) := by
  obtain ⟨apt, stereo, usedtx, minptime, fec, level, mode, profile, bitrate, profileId, ⟨⟩⟩ := q
  have hint (key : String) (i : IntN 32) : FieldType.int.backward key (.int i.val) = .ok i := by
    rw [FieldType.backward, JsonValueAdapter, Json.getInt_int]
    rfl
  have hread {key : String} {rest : Fields} {values : rest.Val} {o : Option (IntN 32)}
      {members : List (String × Json)}
      (h : members.lookup key = o.map FieldType.int.forward) :
      (Fields.field key .int rest).jdeserialize (none, values) (.object members) = do
        let values ← rest.jdeserialize values (.object members)
        return (o.map fun i => i, values) :=
    Fields.jdeserialize_field_map h (fun _ hnull => by cases hnull) (hint key)
  have hlook : ∀ e ∈ [("sprop-stereo", stereo), ("usedtx", usedtx), ("minptime", minptime),
      ("useinbandfec", fec)], (ProduceRequest.Parameters.members (apt, stereo, usedtx, minptime,
        fec, level, mode, profile, bitrate, profileId, ())).lookup e.1 =
          e.2.map FieldType.int.forward := by
    simp only [List.forall_mem_cons, Fields.members, lookup_toList_append, List.lookup_nil,
      Option.or_none, String.reduceEq, ↓reduceIte, true_and]
    simp
  show NewConsumerRequest.Parameters.jdeserialize (none, none, none, none, ()) (.object _) = _
  rw [hread (hlook ("sprop-stereo", stereo) (by simp)), hread (hlook ("usedtx", usedtx) (by simp)),
    hread (hlook ("minptime", minptime) (by simp)), hread (hlook ("useinbandfec", fec) (by simp))]
  simp [ProduceRequest.Parameters.received, Fields.jdeserialize, bind, Except.bind, pure,
    Except.pure]

/-- Nothing is lost when only the four members are engaged. -/
theorem received_jserialize_iff :
    NewConsumerRequest.Parameters.jserialize (ProduceRequest.Parameters.received q) =
      ProduceRequest.Parameters.jserialize q ↔ ProduceRequest.Parameters.AudioOnly q := by
  obtain ⟨apt, stereo, usedtx, minptime, fec, level, mode, profile, bitrate, profileId, ⟨⟩⟩ := q
  simp only [Fields.jserialize, Json.object.injEq, ProduceRequest.Parameters.received]
  constructor
  · intro h
    have hlook (k : String) := congrArg (List.lookup k) h
    simp only [Fields.members, lookup_toList_append, List.lookup_nil, Option.or_none] at hlook
    have h₁ := hlook "apt"
    have h₂ := hlook "level-asymmetry-allowed"
    have h₃ := hlook "packetization-mode"
    have h₄ := hlook "profile-level-id"
    have h₅ := hlook "x-google-start-bitrate"
    have h₆ := hlook "profile-id"
    simp at h₁ h₂ h₃ h₄ h₅ h₆
    exact ⟨h₁, h₂, h₃, h₄, h₅, h₆⟩
  · rintro ⟨rfl, rfl, rfl, rfl, rfl, rfl⟩
    simp [Fields.members]

end Parameters

/-- Where the parameters of a codec stand in an RTP object. -/
def parametersPath (i : ℕ) : List Json.Step := [.key "codecs", .index i, .key "parameters"]

/-- The parameters of a codec in what is passed to `Consume`, by those in what was received. -/
theorem consumed_parameters {j : Json} {rtp : NewConsumerRequest.RTPParameters.Val}
    (h : NewConsumerRequest.RTPParameters.jdeserialize (Fields.fresh _) j = .ok rtp) (i : ℕ) :
    (NewConsumerRequest.RTPParameters.jserialize rtp).get? (parametersPath i) =
      (j.get? (parametersPath i)).bind
        ((FieldType.model NewConsumerRequest.Parameters).rewritten "parameters") := by
  obtain ⟨members, rfl⟩ := Fields.object_of_ok h
  rw [parametersPath, Fields.get?_jserialize h, Json.get?_object]
  show ((members.lookup "codecs").bind ((FieldType.vector NewConsumerRequest.Codec).rewritten
    "codecs")).bind _ = _
  rcases Fields.member_cases members "codecs" with hskip | ⟨codecs, hcodecs, hnull⟩
  · rcases hskip with hskip | hskip
    · rw [hskip]
      rfl
    · rw [hskip]
      rfl
  obtain ⟨vs, hvs⟩ := (Fields.jdeserialize_ok_iff _).mp ⟨rtp, h⟩
    ("codecs", .vector NewConsumerRequest.Codec) (by simp [Fields.mapped]) codecs hcodecs hnull
  rw [hcodecs, Option.bind_some, Option.bind_some, FieldType.rewritten_of_ne_null hnull, hvs]
  cases codecs with
  | array items =>
    simp only [Except.toOption, Option.map_some, Option.bind_some, FieldType.forward,
      Json.get?_array, List.getElem?_map]
    rcases mapM_getElem? hvs i with ⟨hi, hv⟩ | ⟨c, v, hi, hv, hread⟩
    · rw [hi, hv]
      rfl
    · obtain ⟨cs, rfl⟩ := Fields.object_of_ok hread
      rw [hi, hv, Option.map_some, Option.bind_some, Option.bind_some, ← Fields.jserialize,
        Fields.get?_jserialize hread, Json.get?_object]
      show ((cs.lookup "parameters").bind
        ((FieldType.model NewConsumerRequest.Parameters).rewritten "parameters")).bind _ = _
      simp
  | _ => simp [FieldType.backward] at hvs

/-- The parameters of each codec. -/
def ProduceRequest.RTPParameters.parameters :
    ProduceRequest.RTPParameters.Val → List (Option ProduceRequest.Parameters.Val)
  | (_, codecs, _) => (codecs.getD []).map fun (_, _, _, _, parameters, _) => parameters

/-- The parameters of a codec in the produce request. -/
theorem sent_parameters (p : ProduceRequest.RTPParameters.Val) (i : ℕ) :
    (ProduceRequest.RTPParameters.jserialize p).get? (parametersPath i) =
      (ProduceRequest.RTPParameters.parameters p)[i]?.join.map
        ProduceRequest.Parameters.jserialize := by
  obtain ⟨encodings, codecs, extensions, mid, rtcp, ⟨⟩⟩ := p
  have hcodecs : (ProduceRequest.RTPParameters.members
      (encodings, codecs, extensions, mid, rtcp, ())).lookup "codecs" =
        codecs.map (FieldType.vector ProduceRequest.Codec).forward := by
    simp only [Fields.members, lookup_toList_append, List.lookup_nil, Option.or_none,
      String.reduceEq, ↓reduceIte]
  have hcodec (c : ProduceRequest.Codec.Val) :
      (ProduceRequest.Codec.jserialize c).get? [.key "parameters"] =
        c.2.2.2.2.1.map ProduceRequest.Parameters.jserialize := by
    obtain ⟨mimeType, clockRate, channels, feedback, parameters, payloadType, ⟨⟩⟩ := c
    rw [Fields.jserialize, Json.get?_object]
    simp only [Fields.members, lookup_toList_append, List.lookup_nil, Option.or_none,
      String.reduceEq, ↓reduceIte]
    cases parameters with
    | none => rfl
    | some q => simp [FieldType.forward, Fields.jserialize]
  rw [parametersPath, Fields.jserialize, Json.get?_object, hcodecs]
  cases codecs with
  | none => rfl
  | some cs =>
    simp only [Option.map_some, Option.bind_some, FieldType.forward, Json.get?_array,
      List.getElem?_map, ProduceRequest.RTPParameters.parameters, Option.getD_some]
    cases cs[i]? with
    | none => rfl
    | some c => exact hcodec c

/-- The RTP object of a `newConsumer` request stands at its place in the message. -/
theorem rtpParameters_of_decoded {R : Rapidjson} {json : String} {doc : Json}
    (hparse : R.parse (cStr json) = some doc) {request : SfuRequest NewConsumerRequest.Data}
    (hdecode : decodeRequest R json NewConsumerRequest.DataFields NewConsumerRequest.Data.ofVal =
      .ok request) {rtp : NewConsumerRequest.RTPParameters.Val}
    (hrtp : (request.data.bind fun data => data.rtpParameters) = some rtp) :
    ∃ j, NewConsumerRequest.RTPParameters.jdeserialize (Fields.fresh _) j = .ok rtp ∧
      ∀ path, doc.get? (.key "data" :: .key "rtpParameters" :: path) = j.get? path := by
  simp only [decodeRequest, fromJsonString, stringToJson, hparse, Foundation.bind_ok, pure,
    Except.pure, Except.ok.injEq] at hdecode
  obtain ⟨⟨_, _, _, data, ⟨⟩⟩, ⟨_, rfl, hread⟩, rfl⟩ := hdecode
  obtain ⟨members, rfl⟩ := Fields.object_of_ok hread
  obtain ⟨v, hdata, hv⟩ := Option.bind_eq_some_iff.mp hrtp
  obtain ⟨d, rfl, rfl⟩ := Option.map_eq_some_iff.mp hdata
  have hmethod := (Fields.member_of_ok (Fields.member_of_ok hread).1).1
  obtain ⟨j, hj, hd⟩ := (Fields.member_of_ok (Fields.member_of_ok hmethod).1).2 d rfl
  obtain ⟨ms, rfl⟩ := Fields.object_of_ok hd
  have hkind := (Fields.member_of_ok (Fields.member_of_ok hd).1).1
  have hproducer := (Fields.member_of_ok (Fields.member_of_ok hkind).1).1
  obtain ⟨j', hj', hr⟩ := (Fields.member_of_ok (Fields.member_of_ok
    (Fields.member_of_ok hproducer).1).1).2 rtp hv
  refine ⟨j', hr, fun path => ?_⟩
  rw [Json.get?_object, hj, Option.bind_some, Json.get?_object, hj', Option.bind_some]

/-- The RTP object that `createNewConsumer` passes to `RecvTransport::Consume`. -/
def NewConsumerRequest.consumedParameters (request : SfuRequest NewConsumerRequest.Data) :
    Option Json :=
  (request.data.bind fun data => data.rtpParameters).map
    NewConsumerRequest.RTPParameters.jserialize

/-- The parameters of the codecs reach the consumer as they were sent exactly when no codec has
one of the members that the model of the `newConsumer` request lacks. -/
theorem relayed_parameters_kept_iff (p : ProduceRequest.RTPParameters.Val) (R : Rapidjson)
    (json : String) (doc : Json) (hparse : R.parse (cStr json) = some doc)
    (hrelay : ∀ i, doc.get? (.key "data" :: .key "rtpParameters" :: parametersPath i) =
      (ProduceRequest.RTPParameters.jserialize p).get? (parametersPath i))
    (request : SfuRequest NewConsumerRequest.Data)
    (hdecode : decodeRequest R json NewConsumerRequest.DataFields NewConsumerRequest.Data.ofVal =
      .ok request)
    (out : Json) (hout : NewConsumerRequest.consumedParameters request = some out) :
    (∀ i, out.get? (parametersPath i) =
        (ProduceRequest.RTPParameters.jserialize p).get? (parametersPath i)) ↔
      ∀ q, some q ∈ ProduceRequest.RTPParameters.parameters p →
        ProduceRequest.Parameters.AudioOnly q := by
  obtain ⟨rtp, hrtp, rfl⟩ := Option.map_eq_some_iff.mp hout
  obtain ⟨j, hread, hpath⟩ := rtpParameters_of_decoded hparse hdecode hrtp
  have hout (i : ℕ) : (NewConsumerRequest.RTPParameters.jserialize rtp).get? (parametersPath i) =
      (ProduceRequest.RTPParameters.parameters p)[i]?.join.map fun q =>
        NewConsumerRequest.Parameters.jserialize (ProduceRequest.Parameters.received q) := by
    rw [consumed_parameters hread, ← hpath, hrelay, sent_parameters]
    cases (ProduceRequest.RTPParameters.parameters p)[i]?.join with
    | none => rfl
    | some q =>
      have hnull : ProduceRequest.Parameters.jserialize q ≠ .null := Json.noConfusion
      rw [Option.map_some, Option.bind_some, FieldType.rewritten_of_ne_null hnull,
        FieldType.backward, relayed_parameters_read]
      rfl
  constructor
  · intro h q hq
    obtain ⟨i, hi⟩ := List.mem_iff_getElem?.mp hq
    have heq := h i
    rw [hout, sent_parameters, hi] at heq
    exact (received_jserialize_iff q).mp (by simpa using heq)
  · intro h i
    rw [hout, sent_parameters]
    cases hi : (ProduceRequest.RTPParameters.parameters p)[i]? with
    | none => rfl
    | some o =>
      cases o with
      | none => rfl
      | some q =>
        have hq := h q (List.mem_of_getElem? hi)
        simpa using (received_jserialize_iff q).mpr hq

/-- An RTP object with one codec. -/
def oneCodec (mimeType : String) (q : ProduceRequest.Parameters.Val) :
    ProduceRequest.RTPParameters.Val :=
  (none, some [(some mimeType, none, none, none, some q, none, ())], none, none, none, ())

/-- The `newConsumer` message with which the SFU relays it. -/
def relayedDocument (kind mimeType : String) (q : ProduceRequest.Parameters.Val) : Json :=
  .object [("request", .bool true), ("id", .int 1), ("method", .string "newConsumer"),
    ("data", .object [("id", .string "c1"), ("peerId", .string "bob"), ("kind", .string kind),
      ("producerId", .string "p1"), ("producerPaused", .bool false),
      ("rtpParameters", ProduceRequest.RTPParameters.jserialize (oneCodec mimeType q)),
      ("appData", .object [])])]

/-- A reader that knows the text of one document. -/
def relayReader (text : String) (doc : Json) : Rapidjson :=
  ⟨fun t => if t = cStr text then some doc else none⟩

theorem relayReader_parse (text : String) (doc : Json) :
    (relayReader text doc).parse (cStr text) = some doc :=
  if_pos rfl

theorem stringToJson_relayReader (text : String) (doc : Json) :
    stringToJson (relayReader text doc) text = .ok doc := by
  rw [stringToJson, relayReader_parse]

def opusParameters : ProduceRequest.Parameters.Val :=
  (none, none, none, (Json.int 10).getInt 32, (Json.int 1).getInt 32, none, none, none, none, none,
    ())

def opusText : String :=
  "\x7b\"request\":true,\"id\":1,\"method\":\"newConsumer\",\"data\":\x7b\"id\":\"c1\",\"peerId\":\"bob\",\"kind\":\"audio\",\"producerId\":\"p1\",\"producerPaused\":false,\"rtpParameters\":\x7b\"codecs\":[\x7b\"mimeType\":\"audio/opus\",\"parameters\":\x7b\"minptime\":10,\"useinbandfec\":1\x7d\x7d]\x7d,\"appData\":\x7b\x7d\x7d\x7d"

/-- What is decoded of a relayed message. -/
def relayedRequest (kind mimeType : String) (q : NewConsumerRequest.Parameters.Val) :
    SfuRequest NewConsumerRequest.Data :=
  ⟨(Json.int 1).getInt 64, some ⟨some "c1", some "bob", some kind, some "p1", some false,
    some (none, some [(some mimeType, none, none, none, some q, none, ())], none, none, none, ()),
    some (none, none, ())⟩⟩

theorem relayedDocument_relays (kind mimeType : String) (q : ProduceRequest.Parameters.Val)
    (i : ℕ) : (relayedDocument kind mimeType q).get?
        (.key "data" :: .key "rtpParameters" :: parametersPath i) =
      (ProduceRequest.RTPParameters.jserialize (oneCodec mimeType q)).get? (parametersPath i) := by
  rw [relayedDocument, Json.get?_object]
  simp only [lookup_cons_eq_ite, String.reduceEq, ↓reduceIte, Option.bind_some, Json.get?_object]

theorem decode_of_parse {R : Rapidjson} {json : String} {doc : Json}
    (hparse : R.parse (cStr json) = some doc) {D : Type} (data : Fields) (project : data.Val → D) :
    decodeRequest R json data project = do
      let (_, id, _, value, ()) ← (requestFields data).jdeserialize (Fields.fresh _) doc
      return ⟨id, value.map project⟩ := by
  simp only [decodeRequest, fromJsonString, stringToJson, hparse]
  rfl

theorem opus_parameters_kept :
    (∀ i, (NewConsumerRequest.RTPParameters.jserialize
        (none, some [(some "audio/opus", none, none, none,
          some (ProduceRequest.Parameters.received opusParameters), none, ())], none, none, none,
          ())).get? (parametersPath i) =
      (ProduceRequest.RTPParameters.jserialize (oneCodec "audio/opus" opusParameters)).get?
        (parametersPath i)) ↔
    ∀ q, some q ∈ ProduceRequest.RTPParameters.parameters (oneCodec "audio/opus" opusParameters) →
      ProduceRequest.Parameters.AudioOnly q := by
  have hparse := relayReader_parse opusText (relayedDocument "audio" "audio/opus" opusParameters)
  exact relayed_parameters_kept_iff (oneCodec "audio/opus" opusParameters) _ opusText _ hparse
    (relayedDocument_relays "audio" "audio/opus" opusParameters)
    (relayedRequest "audio" "audio/opus" (ProduceRequest.Parameters.received opusParameters))
    (by rw [decode_of_parse hparse]; rfl) _ rfl

def h264Parameters : ProduceRequest.Parameters.Val :=
  (none, none, none, none, none, (Json.int 1).getInt 32, (Json.int 1).getInt 32, some "42e01f", none,
    none, ())

def h264Text : String :=
  "\x7b\"request\":true,\"id\":1,\"method\":\"newConsumer\",\"data\":\x7b\"id\":\"c1\",\"peerId\":\"bob\",\"kind\":\"video\",\"producerId\":\"p1\",\"producerPaused\":false,\"rtpParameters\":\x7b\"codecs\":[\x7b\"mimeType\":\"video/H264\",\"parameters\":\x7b\"level-asymmetry-allowed\":1,\"packetization-mode\":1,\"profile-level-id\":\"42e01f\"\x7d\x7d]\x7d,\"appData\":\x7b\x7d\x7d\x7d"

/-- The parameters of an H264 codec arrive as an empty object. -/
theorem h264_parameters_lost :
    let p := oneCodec "video/H264" h264Parameters
    let doc := relayedDocument "video" "video/H264" h264Parameters
    let R := relayReader h264Text doc
    ∃ request out, R.parse (cStr h264Text) = some doc ∧
      (∀ i, doc.get? (.key "data" :: .key "rtpParameters" :: parametersPath i) =
        (ProduceRequest.RTPParameters.jserialize p).get? (parametersPath i)) ∧
      decodeRequest R h264Text NewConsumerRequest.DataFields NewConsumerRequest.Data.ofVal =
        .ok request ∧
      NewConsumerRequest.consumedParameters request = some out ∧
      out.get? (parametersPath 0) = some (.object []) ∧
      out.get? (parametersPath 0) ≠
        (ProduceRequest.RTPParameters.jserialize p).get? (parametersPath 0) := by
  intro p doc R
  have hparse : R.parse (cStr h264Text) = some doc := relayReader_parse h264Text doc
  refine ⟨relayedRequest "video" "video/H264" (ProduceRequest.Parameters.received h264Parameters),
    _, hparse, relayedDocument_relays "video" "video/H264" h264Parameters,
    by rw [decode_of_parse hparse]; rfl, rfl, rfl, ?_⟩
  rw [sent_parameters]
  show some (Json.object []) ≠ some (ProduceRequest.Parameters.jserialize h264Parameters)
  simp [Fields.jserialize, Fields.members, h264Parameters]

end Signaling
end MediasoupSdk
