import MediasoupSdk.Media.Consume
import MediasoupSdk.Media.Produce
import MediasoupSdk.Room.PassThrough
import MediasoupSdk.Sdk.RtcClient
import MediasoupSdk.Signaling.Relay

/-! The name of a track, from the call of `enableVideo` at the pusher to the video receiver of the
puller: two JSON libraries and the relay of the SFU lie between them. -/
namespace MediasoupSdk
open Foundation Signaling

namespace RoomClient

/-- The name that `_onProduce` copies, if any; application data that does not convert is `none`. -/
def sharedTrackName (appData : Json) : Option (Option String) :=
  if appData.contains "sharing" then do
    let sharingAppData ← SharingAppData.fromJson appData {}
    return some sharingAppData.sharing.trackName
  else some none

/-- The request that `_onProduce` builds; `Produce` passes the application data on to it. -/
def onProduceRequest (J : JsonText) (transportId kind rtpParameters : String) (appData : Json) :
    Option ApiRequest := do
  let trackName ← sharedTrackName appData
  produceRequest J transportId kind rtpParameters trackName

theorem sharedTrackName_document (trackName : String) :
    sharedTrackName (SharingAppData.document trackName) = some (some trackName) := by
  have h : SharingAppData.fromJson (SharingAppData.document trackName) {} = some ⟨⟨trackName⟩⟩ :=
    SharingAppData.fromJson_of_lookup rfl rfl {}
  unfold sharedTrackName
  rw [h]
  rfl

/-- The application data of a produce request, in its document. -/
theorem produce_appData {transportId kind : String} {rtp : ProduceRequest.RTPParameters.Val}
    {trackName : String} (id : RequestId) :
    ((MediasoupApi.ofApiRequest (.produce transportId kind rtp (some trackName))).document id).get?
        [.key "data", .key "appData"] = some (SharingAppData.document trackName) := by
  show (RequestModel.document { ProduceRequest.new id with data := some _ }).get? _ = _
  rw [get?_data rfl]
  rfl

/-- What `enableVideo` hands to `Produce` reaches the document of the produce request. -/
theorem onProduceRequest_appData {m : Media} {arguments : ProduceArguments} {J : JsonText}
    {trackName transportId kind rtpParameters : String} {r : ApiRequest}
    (hproduce : m.videoProduce true trackName = some arguments)
    (hr : onProduceRequest J transportId kind rtpParameters arguments.appData = some r)
    (id : RequestId) :
    ((MediasoupApi.ofApiRequest r).document id).get? [.key "data", .key "appData"] =
      some (SharingAppData.document trackName) := by
  obtain ⟨-, harguments⟩ := Media.videoProduce_eq_some hproduce
  rw [MediaController.produceArguments_eq, Option.some.injEq] at harguments
  subst harguments
  simp only [onProduceRequest, sharedTrackName_document, bind, Option.bind_some, produceRequest,
    Option.map_eq_some_iff] at hr
  obtain ⟨rtp, -, rfl⟩ := hr
  exact produce_appData id

end RoomClient

/-- The SFU hands the application data of a produce request on in a `newConsumer` request,
unchanged but for the peer id that it adds. -/
def Relays (sfu : String → Option Json) (R : Rapidjson) (produce newConsumer : String) : Prop :=
  ∃ sent received members relayed peerId,
    sfu produce = some sent ∧ R.parse (cStr newConsumer) = some received ∧
    sent.get? [.key "data", .key "appData"] = some (.object members) ∧
    received.get? [.key "data", .key "appData"] = some (.object relayed) ∧
    relayed.lookup "peerId" = some (.string peerId) ∧
    ∀ key, key ≠ "peerId" → relayed.lookup key = members.lookup key

namespace Signaling.NewConsumerRequest

/-- The application data that names a track. -/
def named (peerId trackName : String) : AppData.Val :=
  (some peerId, some (some trackName, ()), ())

/-- Decoding the relayed object keeps the name. -/
theorem jdeserialize_relayed {members : List (String × Json)} {peerId trackName : String}
    (hpeer : members.lookup "peerId" = some (.string peerId))
    (hsharing : members.lookup "sharing" =
      some (.object [("trackName", .string trackName)])) (ht : Rtp.NulFree trackName) :
    AppData.jdeserialize AppData.fresh (.object members) =
      .ok (named (cStr peerId) trackName) := by
  have hname : cStr trackName = trackName := cStr_eq_self_iff.mpr ht
  simp [Fields.jdeserialize, hpeer, hsharing, FieldType.backward, named, JsonValueAdapter, hname,
    bind, Except.bind, pure, Except.pure]

/-- A `newConsumer` request with the application data in its text has it decoded. -/
theorem appData_of_decoded {R : Rapidjson} {json : String} {doc : Json}
    {members : List (String × Json)} {v : AppData.Val}
    (hparse : R.parse (cStr json) = some doc)
    (hget : doc.get? [.key "data", .key "appData"] = some (.object members))
    (hv : AppData.jdeserialize AppData.fresh (.object members) = .ok v)
    {request : SfuRequest NewConsumerRequest.Data}
    (hdecode : decodeRequest R json DataFields Data.ofVal = .ok request) :
    (request.data.bind fun data => data.appData) = some v := by
  simp only [decodeRequest, fromJsonString, stringToJson, hparse, bind_ok, pure, Except.pure,
    Except.ok.injEq] at hdecode
  obtain ⟨⟨_, _, _, data, ⟨⟩⟩, ⟨_, rfl, hread⟩, rfl⟩ := hdecode
  obtain ⟨outer, rfl⟩ := Fields.object_of_ok hread
  rw [Json.get?_object] at hget
  obtain ⟨object, hdata, hinner⟩ := Option.bind_eq_some_iff.mp hget
  have hobject : object ≠ .null := by
    rintro rfl
    cases hinner
  have hmethod := (Fields.member_of_ok (Fields.member_of_ok hread).1).1
  obtain ⟨d, hd, hsome⟩ := Fields.read_of_ok (Fields.member_of_ok hmethod).1 hdata hobject
  obtain ⟨inner, rfl⟩ := Fields.object_of_ok hd
  rw [Json.get?_object] at hinner
  obtain ⟨appData, happ, heq⟩ := Option.bind_eq_some_iff.mp hinner
  have hmembers : appData = .object members := Option.some.inj heq
  subst hmembers
  have hkind := (Fields.member_of_ok (Fields.member_of_ok (Fields.member_of_ok hd).1).1).1
  have hpaused := (Fields.member_of_ok (Fields.member_of_ok (Fields.member_of_ok hkind).1).1).1
  obtain ⟨w, hw, hout⟩ := Fields.read_of_ok (Fields.member_of_ok hpaused).1 happ (by simp)
  have hwv : w = v := Except.ok.inj (hw.symm.trans hv)
  have hdata' : data = some d := hsome
  rw [hdata', ← hwv]
  exact hout

end Signaling.NewConsumerRequest

/-- What a video track is created with. -/
def ParticipantEvent.appData? : ParticipantEvent → Option NewConsumerRequest.AppData.Val
  | .onCreateRemoteVideoTrack _ _ _ appData => some appData
  | _ => none

/-- Video tracks are created with the given application data only. -/
def ParticipantEvent.Creates (appData : NewConsumerRequest.AppData.Val) (e : ParticipantEvent) :
    Prop :=
  ∀ v, e.appData? = some v → v = appData

theorem ParticipantEvent.creates_of_none {appData : NewConsumerRequest.AppData.Val}
    {e : ParticipantEvent} (h : e.appData? = none) : e.Creates appData := by
  intro v hv
  rw [h] at hv
  cases hv

namespace ParticipantController

variable {P : ParticipantEvent → Prop} {pc pc' : ParticipantController}

/-- What the observers are told on top satisfies `P`. -/
def Tells (P : ParticipantEvent → Prop) (pc pc' : ParticipantController) : Prop :=
  ∃ events, pc'.notified = pc.notified ++ events ∧ ∀ e ∈ events, P e

theorem tells_of_eq (h : pc'.notified = pc.notified) : Tells P pc pc' :=
  ⟨[], by rw [h, List.append_nil], nofun⟩

theorem updateParticipant_tells {pid : String} {set : Except Fault (Participant → Participant)}
    {notify : ℕ → List ParticipantEvent} (hnotify : ∀ ref, ∀ e ∈ notify ref, P e)
    (h : pc.updateParticipant pid set notify = .ok pc') : Tells P pc pc' := by
  unfold updateParticipant at h
  split_ifs at h
  · cases h
    exact tells_of_eq rfl
  · split at h
    · cases h
      exact tells_of_eq rfl
    · rename_i ref participantMap hp
      simp only [bind_ok, pure, Except.pure, Except.ok.injEq] at h
      obtain ⟨set, -, rfl⟩ := h
      exact ⟨notify ref, rfl, hnotify ref⟩

end ParticipantController

namespace Media

variable {P : ParticipantEvent → Prop} {m m' : Media}

/-- What the observers of the participants are told on top satisfies `P`. -/
def Tells (P : ParticipantEvent → Prop) (m m' : Media) : Prop :=
  ∃ events, m'.notified = m.notified ++ events ∧ ∀ e ∈ events, P e

theorem tells_of_eq (h : m'.notified = m.notified) : Tells P m m' :=
  ⟨[], by rw [h, List.append_nil], nofun⟩

theorem Tells.trans {m₁ m₂ m₃ : Media} (h₁ : Tells P m₁ m₂) (h₂ : Tells P m₂ m₃) :
    Tells P m₁ m₃ := by
  obtain ⟨events, he, hP⟩ := h₁
  obtain ⟨events', he', hP'⟩ := h₂
  refine ⟨events ++ events', by rw [he', he, List.append_assoc], fun e hmem => ?_⟩
  rcases List.mem_append.mp hmem with hmem | hmem
  · exact hP e hmem
  · exact hP' e hmem

theorem tells_of_observer {pc pc' : ParticipantController} (hm : m.observer = some pc)
    (hm' : m'.observer = some pc') (h : pc.Tells P pc') : Tells P m m' := by
  unfold Tells notified
  rw [hm, hm']
  exact h

theorem notify_tells {handler : ParticipantController → Except Fault ParticipantController}
    (hhandler : ∀ pc pc', handler pc = .ok pc' → pc.Tells P pc')
    (h : m.notify handler = .ok m') : Tells P m m' := by
  unfold notify at h
  cases hm : m.observer with
  | none =>
    rw [hm] at h
    cases h
    exact tells_of_eq rfl
  | some pc =>
    rw [hm] at h
    simp only [bind_ok, pure, Except.pure, Except.ok.injEq] at h
    obtain ⟨pc', hpc', rfl⟩ := h
    exact tells_of_observer hm rfl (hhandler pc pc' hpc')

theorem notifyVideoTrack_tells {pid : String}
    {handler : Except Fault Tracks → ParticipantController → Except Fault ParticipantController}
    (hhandler : ∀ tracks pc pc', handler tracks pc = .ok pc' → pc.Tells P pc')
    (h : m.notifyVideoTrack handler pid = .ok m') : Tells P m m' := by
  unfold notifyVideoTrack at h
  cases hm : m.observer with
  | none =>
    rw [hm] at h
    cases h
    exact tells_of_eq rfl
  | some pc =>
    rw [hm] at h
    simp only [bind_ok] at h
    obtain ⟨pc', hpc', h⟩ := h
    have htells := hhandler _ pc pc' hpc'
    split_ifs at h
    · simp only [bind_ok, pure, Except.pure, Except.ok.injEq] at h
      obtain ⟨r, -, rfl⟩ := h
      exact tells_of_observer hm rfl htells
    · cases h
      exact tells_of_observer hm rfl htells

theorem notifyState_tells {kind : MediaKind} {pid : String} {muted : Bool}
    {appData : NewConsumerRequest.AppData.Val} (h : m.notifyState kind pid muted = .ok m') :
    Tells (·.Creates appData) m m' := by
  cases kind with
  | audio =>
    apply notify_tells _ h
    intro pc pc'
    apply ParticipantController.updateParticipant_tells
    intro ref e he
    rw [List.mem_singleton.mp he]
    exact ParticipantEvent.creates_of_none rfl
  | video =>
    apply notify_tells _ h
    intro pc pc'
    apply ParticipantController.updateParticipant_tells
    intro ref e he
    rw [List.mem_singleton.mp he]
    exact ParticipantEvent.creates_of_none rfl

theorem notifyCreate_tells {pid tid : String} {track : Track}
    {appData : NewConsumerRequest.AppData.Val}
    (h : m.notifyCreate pid tid track appData = .ok m') : Tells (·.Creates appData) m m' := by
  unfold notifyCreate at h
  split at h
  · apply notify_tells _ h
    intro pc pc'
    exact ParticipantController.updateParticipant_tells nofun
  · apply notifyVideoTrack_tells _ h
    intro tracks pc pc'
    apply ParticipantController.updateParticipant_tells
    intro ref e he
    rw [List.mem_singleton.mp he]
    exact fun v hv => (Option.some.inj hv).symm

/-- `createNewConsumer` hands on the application data of its request. -/
theorem createNewConsumer_tells {request : SfuRequest NewConsumerRequest.Data}
    {consumed : Option Track} {appData : NewConsumerRequest.AppData.Val}
    (happ : (request.data.bind fun data => data.appData) = some appData)
    (h : m.createNewConsumer request consumed = .ok m') : Tells (·.Creates appData) m m' := by
  rw [createNewConsumer_eq] at h
  obtain ⟨consumer, -, h⟩ := bind_ok.mp h
  cases consumer with
  | none =>
    cases h
    exact tells_of_eq rfl
  | some consumer =>
    simp only [Option.elim, announce, bind_ok, engaged_eq_ok, pure, Except.pure,
      Except.ok.injEq] at h
    obtain ⟨data, hdata, v, hv, paused, -, peerId, -, m₁, h₁, m₂, h₂, rfl⟩ := h
    rw [hdata, Option.bind_some, hv, Option.some.injEq] at happ
    subst happ
    have hcreate := notifyCreate_tells h₁
    have hstate : Tells (·.Creates v) m₁ m₂ := notifyState_tells h₂
    exact ((tells_of_eq rfl).trans (hcreate.trans hstate)).trans (tells_of_eq rfl)

end Media

namespace RtcClient

/-- The name that `onCreateRemoteVideoTrack` reads. `createNewConsumer` writes the application data
and parses the text; `from_json` reads the result. -/
def receivedName (toJsonStr : Json → String) (nlohmann : String → Option Json)
    (appData : NewConsumerRequest.AppData.Val) : Option String := do
  let json ← nlohmann (toJsonStr (NewConsumerRequest.AppData.jserialize appData))
  let sharingAppData ← SharingAppData.fromJson json {}
  return sharingAppData.sharing.trackName

/-- Between the two conversions the name is the one that the model carries. -/
theorem receivedName_eq {toJsonStr : Json → String} {nlohmann : String → Option Json}
    {appData : NewConsumerRequest.AppData.Val}
    (h : nlohmann (toJsonStr (NewConsumerRequest.AppData.jserialize appData)) =
      some (NewConsumerRequest.AppData.jserialize appData)) :
    receivedName toJsonStr nlohmann appData = some (trackName appData) := by
  obtain ⟨peerId, sharing, ⟨⟩⟩ := appData
  simp only [receivedName, h, bind, Option.bind_some]
  cases sharing with
  | none => cases peerId <;> rfl
  | some sharing =>
    obtain ⟨name, ⟨⟩⟩ := sharing
    cases name with
    | none => cases peerId <;> rfl
    | some name => cases peerId <;> rfl

variable {c c' : RtcClient}

/-- The receiver of a new track has the name in the application data. -/
theorem lookup_created {track : Option Track} {appData : NewConsumerRequest.AppData.Val}
    (hrole : c.role = 1) (h : c.onCreateRemoteVideoTrack track appData = .ok c') :
    ∃ tr, track = some tr ∧ c'.videoReceivers.lookup tr = some ⟨trackName appData⟩ := by
  simp only [onCreateRemoteVideoTrack, bind_ok, deref_eq_ok] at h
  obtain ⟨tr, htr, h⟩ := h
  rw [if_pos hrole] at h
  cases h
  exact ⟨tr, htr, AList.lookup_insert _⟩

/-- The name that `enableVideo` gets is the name of the receiver: every text without a NUL
character passes the two JSON libraries, the SFU and the models of the requests unchanged. -/
theorem receiver_named {trackName : String} (ht : Rtp.NulFree trackName)
    {pusher : Media} {arguments : ProduceArguments}
    (hproduce : pusher.videoProduce true trackName = some arguments)
    {J : JsonText} {transportId kind rtpParameters : String} {r : ApiRequest}
    (hr : RoomClient.onProduceRequest J transportId kind rtpParameters arguments.appData = some r)
    {sfu : String → Option Json} {id : RequestId}
    (hwritten : sfu (J.request id r) = some ((MediasoupApi.ofApiRequest r).document id))
    {R : Rapidjson} {json : String} (hrelay : Relays sfu R (J.request id r) json)
    {request : SfuRequest NewConsumerRequest.Data}
    (hdecode : decodeRequest R json NewConsumerRequest.DataFields NewConsumerRequest.Data.ofVal =
      .ok request)
    {toJsonStr : Json → String} {nlohmann : String → Option Json}
    (hparsed : ∀ appData, (request.data.bind fun data => data.appData) = some appData →
      nlohmann (toJsonStr (NewConsumerRequest.AppData.jserialize appData)) =
        some (NewConsumerRequest.AppData.jserialize appData)) :
    ∃ appData, (request.data.bind fun data => data.appData) = some appData ∧
      receivedName toJsonStr nlohmann appData = some trackName ∧
      ∀ (puller puller' : Media) (consumed : Option Track),
        puller.createNewConsumer request consumed = .ok puller' →
        ∃ events, puller'.notified = puller.notified ++ events ∧
          ∀ ref tid track v, .onCreateRemoteVideoTrack ref tid track v ∈ events →
            ∀ c c' : RtcClient, c.role = 1 → c.onCreateRemoteVideoTrack track v = .ok c' →
              ∃ tr, track = some tr ∧ c'.videoReceivers.lookup tr = some ⟨trackName⟩ := by
  obtain ⟨sent, received, members, relayed, peerId, hsent, hreceived, hget, hget', hpeer, hsame⟩ :=
    hrelay
  have hdocument : sent = (MediasoupApi.ofApiRequest r).document id :=
    Option.some.inj (hsent.symm.trans hwritten)
  rw [hdocument, RoomClient.onProduceRequest_appData hproduce hr, Option.some.injEq] at hget
  cases hget
  have hsharing : relayed.lookup "sharing" =
      some (.object [("trackName", .string trackName)]) := hsame "sharing" (by decide)
  have happ := NewConsumerRequest.appData_of_decoded hreceived hget'
    (NewConsumerRequest.jdeserialize_relayed hpeer hsharing ht) hdecode
  refine ⟨_, happ, receivedName_eq (hparsed _ happ), fun puller puller' consumed hconsume => ?_⟩
  obtain ⟨events, hevents, hcreates⟩ := Media.createNewConsumer_tells happ hconsume
  refine ⟨events, hevents, fun ref tid track v hmem c c' hrole hc => ?_⟩
  have hv := hcreates _ hmem v rfl
  subst hv
  exact lookup_created hrole hc

def quotedName : String := "\"café\" \\"

def quotedText : String := "\"\\\"café\\\" \\\\\""

def producedText : String :=
  "\x7b\"request\":true,\"id\":7,\"method\":\"produce\",\"data\":\x7b\"transportId\":\"s\"," ++
    "\"kind\":\"video\",\"rtpParameters\":\x7b\"encodings\":[],\"codecs\":[]," ++
    "\"headerExtensions\":[],\"rtcp\":\x7b\"cname\":\"alice\",\"reducedSize\":true\x7d\x7d," ++
    "\"appData\":\x7b\"sharing\":\x7b\"trackName\":" ++ quotedText ++ "\x7d\x7d\x7d\x7d"

def quotedAppDataText : String :=
  "\x7b\"peerId\":\"bob\",\"sharing\":\x7b\"trackName\":" ++ quotedText ++ "\x7d\x7d"

def newConsumerText : String :=
  "\x7b\"request\":true,\"id\":7,\"method\":\"newConsumer\",\"data\":\x7b\"id\":\"c\"," ++
    "\"peerId\":\"bob\",\"kind\":\"video\",\"producerId\":\"p\",\"producerPaused\":false," ++
    "\"rtpParameters\":\x7b\x7d,\"appData\":" ++ quotedAppDataText ++ "\x7d\x7d"

def quotedDocument : Json :=
  .object [("peerId", .string "bob"),
    ("sharing", .object [("trackName", .string quotedName)])]

def newConsumerDocument : Json :=
  .object [("request", .bool true), ("id", .int 7), ("method", .string "newConsumer"),
    ("data", .object [("id", .string "c"), ("peerId", .string "bob"), ("kind", .string "video"),
      ("producerId", .string "p"), ("producerPaused", .bool false),
      ("rtpParameters", .object []), ("appData", quotedDocument)])]

/-- The application of the pusher can produce video. -/
def quotedPusher : Media where
  controller := {
    options := {}
    mediasoupDevice := some ⟨"null", "null", false, true⟩
    sendTransport := some ⟨"s"⟩ }

def quotedPuller : Media where
  controller := { options := {}, recvTransport := some ⟨"r"⟩ }
  observer := some (({} : ParticipantController).createParticipant "bob" "Bob")

/-- What the library hands over for a track without codecs. -/
def emptyParametersText : String :=
  "\x7b\"codecs\":[],\"encodings\":[],\"headerExtensions\":[],\"rtcp\":\x7b\"cname\":\"alice\",\"reducedSize\":true\x7d\x7d"

def quotedJson : JsonText :=
  { RoomClient.sampleJson [(emptyParametersText, (RoomClient.sampleParameters []).toJson)] with
    request := fun _ _ => producedText }

def quotedProduce : ApiRequest :=
  .produce "s" "video" (some [], some [], some [], none, some (some "alice", some true, ()), ())
    (some quotedName)

/-- The SFU reads the request of the pusher. -/
def quotedSfu (text : String) : Option Json :=
  if text = producedText then
    some ((MediasoupApi.ofApiRequest quotedProduce).document MediasoupApi.seventh)
  else none

def quotedRapidjson : Rapidjson := relayReader newConsumerText newConsumerDocument

def quotedRequest : SfuRequest NewConsumerRequest.Data where
  id := (Json.int 7).getInt 64
  data := some {
    id := some "c", peerId := some "bob", kind := some "video", producerId := some "p"
    producerPaused := some false, rtpParameters := some (none, none, none, none, none, ())
    appData := some (NewConsumerRequest.named "bob" quotedName) }

def quotedTrack : Track := ⟨0, .video⟩

/-- `toJsonStr` at the application data of that request, and `nlohmann::json::parse` at its text. -/
def quotedToJsonStr (_ : Json) : String := quotedAppDataText

def quotedNlohmann (text : String) : Option Json :=
  if text = quotedAppDataText then some quotedDocument else none

theorem quoted_received :
    quotedRapidjson.parse (cStr newConsumerText) = some newConsumerDocument :=
  relayReader_parse newConsumerText newConsumerDocument

theorem quoted_decoded :
    decodeRequest quotedRapidjson newConsumerText NewConsumerRequest.DataFields
      NewConsumerRequest.Data.ofVal = .ok quotedRequest := by
  rw [@decode_of_parse quotedRapidjson newConsumerText newConsumerDocument quoted_received]
  rfl

theorem quoted_relays :
    Relays quotedSfu quotedRapidjson producedText newConsumerText := by
  refine ⟨_, _, _, _, "bob", if_pos rfl, quoted_received, RoomClient.produce_appData _, rfl, rfl,
    fun key hkey => ?_⟩
  rw [lookup_cons_eq_ite, if_neg hkey]

/-- The puller shows the track under the name that the pusher gave to it. -/
theorem quotedName_received :
    ∃ puller c, quotedPuller.createNewConsumer quotedRequest (some quotedTrack) = .ok puller ∧
      .onCreateRemoteVideoTrack 0 "c" (some quotedTrack)
        (NewConsumerRequest.named "bob" quotedName) ∈ puller.notified ∧
      ({ role := 1 } : RtcClient).onCreateRemoteVideoTrack (some quotedTrack)
        (NewConsumerRequest.named "bob" quotedName) = .ok c ∧
      c.videoReceivers.lookup quotedTrack = some ⟨quotedName⟩ := by
  have hnul : Rtp.NulFree quotedName := by decide +kernel
  have hproduce : quotedPusher.videoProduce true quotedName = some _ := rfl
  have hr : RoomClient.onProduceRequest quotedJson "s" "video" emptyParametersText
    (SharingAppData.document quotedName) = some quotedProduce := rfl
  have hparsed : ∀ appData, (quotedRequest.data.bind fun data => data.appData) = some appData →
      quotedNlohmann (quotedToJsonStr (NewConsumerRequest.AppData.jserialize appData)) =
        some (NewConsumerRequest.AppData.jserialize appData) := by
    rintro appData ⟨⟩
    exact if_pos rfl
  obtain ⟨-, -, -, htold⟩ := receiver_named hnul hproduce hr (if_pos rfl) quoted_relays
    quoted_decoded hparsed
  obtain ⟨events, hevents, hnamed⟩ := htold quotedPuller _ (some quotedTrack) rfl
  have hcreated : events = [.onCreateRemoteVideoTrack 0 "c" (some quotedTrack)
      (NewConsumerRequest.named "bob" quotedName), .onRemoteVideoStateChanged 0 false] :=
    (List.cons.inj hevents).2.symm
  have hmem : .onCreateRemoteVideoTrack 0 "c" (some quotedTrack)
      (NewConsumerRequest.named "bob" quotedName) ∈ events := by
    rw [hcreated]
    exact List.mem_cons_self
  obtain ⟨tr, htr, hlookup⟩ := hnamed _ _ _ _ hmem { role := 1 } _ rfl rfl
  cases htr
  refine ⟨_, _, rfl, ?_, rfl, hlookup⟩
  rw [hevents]
  exact List.mem_append_right _ hmem

end RtcClient
end MediasoupSdk
