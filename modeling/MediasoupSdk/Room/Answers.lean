import MediasoupSdk.Media.Consume
import MediasoupSdk.Room.System
import MediasoupSdk.Signaling.Relay

/-! The requests of the SFU: a message is handled on the transport thread and posts a task to the
mediasoup thread, where the consumer is made and the response handed to the signaling client. -/
namespace MediasoupSdk
open Foundation Signaling

namespace MediasoupTask

variable {t : MediasoupTask} {o : Oracle}

/-- The operation of the media controller that a task runs, with the number of its message. -/
def operation (o : Oracle) : MediasoupTask → Option (ℕ × (Media → Except Fault Media))
  | .newConsumer seq request => some (seq, Media.createNewConsumer request o.consumed)
  | .newDataConsumer seq request => some (seq, Media.createNewDataConsumer request o.dataConsumed)
  | .updateConsumer seq tid paused => some (seq, Media.updateConsumer tid paused)
  | .consumerClosed seq notification => some (seq, Media.onConsumerClosed notification)
  | _ => none

theorem runMediasoup_of_operation {J : JsonText} {c : RoomClient} {seq : ℕ}
    {op : Media → Except Fault Media} (h : t.operation o = some (seq, op)) :
    c.runMediasoup J t o = c.runMedia J seq op o := by
  cases t with
  | newConsumer | newDataConsumer | updateConsumer | consumerClosed =>
    cases h
    rfl
  | _ => cases h

/-- The task of a request makes its consumer. -/
def Creates (o : Oracle) (m : Media) : MediasoupTask → Prop
  | .newConsumer _ request => ∃ consumer, m.consume request o.consumed = .ok (some consumer)
  | .newDataConsumer _ request =>
    ∃ dataConsumer, m.consumeData request o.dataConsumed = .ok (some dataConsumer)
  | _ => False

/-- The task of a request gets to its response. -/
def Serves (o : Oracle) (m : Media) : MediasoupTask → Prop
  | .newConsumer _ request => m.Serves request o.consumed
  | .newDataConsumer _ request => m.ServesData request o.dataConsumed
  | _ => False

end MediasoupTask

namespace RoomClient

variable (J : JsonText)

/-- The media controller as a task finds it. -/
def media (c : RoomClient) : Option Media :=
  c.mediaController.map fun mc => { controller := mc, observer := c.participantController }

/-- The responses that a task hands to the signaling client: `MediasoupApi::response` needs one to
lock. -/
def handed (o : Oracle) (t : MediasoupTask) (c : RoomClient) : List BasicResponse.Val :=
  match t.operation o, c.media, c.signalingClient with
  | some (_, op), some m, some _ => Media.responses (op m)
  | _, _, _ => []

/-- The task that a request message asks for; a method that is not known and a text that does not
decode ask for none. -/
def requested (seq : ℕ) (json : String) : Option MediasoupTask :=
  match requestMethod J json with
  | none => none
  | some .newConsumer =>
    (decodeRequest J.rapidjson json NewConsumerRequest.DataFields
      NewConsumerRequest.Data.ofVal).toOption.map (.newConsumer seq)
  | some .newDataConsumer =>
    (decodeRequest J.rapidjson json NewDataConsumerRequest.DataFields
      NewDataConsumerRequest.Data.ofVal).toOption.map (.newDataConsumer seq)

/-- Someone is there to handle a message. -/
def Listens (c : RoomClient) : Prop := c.signalingClient.isSome ∧ c.mediaController.isSome

instance (c : RoomClient) : Decidable c.Listens := inferInstanceAs (Decidable (_ ∧ _))

variable {J} {seq : ℕ} {json : String} {c : RoomClient}

theorem runTransport_request
    (hkind : SignalingClient.messageKind J.rapidjson json = some .request) :
    c.runTransport J (.onMessage seq json) =
      .ok (if c.Listens then (requested J seq json).elim c c.postMediasoup else c) := by
  by_cases hl : c.Listens
  · rw [if_pos hl]
    obtain ⟨hsc, hmc⟩ := hl
    obtain ⟨sc, hsc⟩ := Option.isSome_iff_exists.mp hsc
    have hmc' := Option.isNone_eq_false_iff.mpr hmc
    simp only [runTransport, hsc, onMessage, hkind, handleRequest, hmc', Bool.false_eq_true,
      ↓reduceIte, requested]
    cases requestMethod J json with
    | none => rfl
    | some method =>
      cases method with
      | newConsumer =>
        cases decodeRequest J.rapidjson json NewConsumerRequest.DataFields
          NewConsumerRequest.Data.ofVal with
        | ok request => rfl
        | error e => rfl
      | newDataConsumer =>
        cases decodeRequest J.rapidjson json NewDataConsumerRequest.DataFields
          NewDataConsumerRequest.Data.ofVal with
        | ok request => rfl
        | error e => rfl
  · rw [if_neg hl]
    unfold runTransport
    cases hsc : c.signalingClient with
    | none => rfl
    | some sc =>
      have hmc : c.mediaController.isNone = true := by
        rw [Option.isNone_iff_eq_none, ← Option.not_isSome_iff_eq_none]
        exact fun hmc => hl ⟨by rw [hsc]; rfl, hmc⟩
      simp only [onMessage, hkind, handleRequest, hmc, ↓reduceIte]

end RoomClient

/-- The message carries the id. -/
def Rapidjson.Carries (R : Rapidjson) (json : String) (id : IntN 64) : Prop :=
  ∃ members, R.parse (cStr json) = some (.object members) ∧
    members.lookup "id" = some (.int id.val)

theorem id_of_decoded {R : Rapidjson} {json : String} {id : IntN 64} (hid : R.Carries json id)
    {D : Type} {data : Fields} {project : data.Val → D} {request : SfuRequest D}
    (h : decodeRequest R json data project = .ok request) : request.id = some id := by
  obtain ⟨members, hparse, hmember⟩ := hid
  simp only [decodeRequest, fromJsonString, stringToJson, hparse, bind_ok, pure, Except.pure,
    Except.ok.injEq] at h
  obtain ⟨⟨_, id', _, value, ⟨⟩⟩, ⟨_, rfl, hread⟩, rfl⟩ := h
  obtain ⟨v, hv, hid'⟩ := Fields.read_of_ok (Fields.member_of_ok hread).1 hmember (by simp)
  have hv' : (Json.getInt 64 (.int id.val)).elim (.error (JsonError.typeMismatch "id"))
      Except.ok = .ok v := hv
  simp only [Json.getInt, dif_pos id.2, Option.elim_some, Except.ok.injEq] at hv'
  rw [← hv'] at hid'
  exact hid'

/-- A message of the SFU, with the client when the message is handled and when the task that it
posts runs, and the answers of the media library then. -/
structure Exchange where
  seq : ℕ
  json : String
  before : RoomClient
  later : RoomClient
  oracle : Oracle

namespace Exchange

variable (J : JsonText) (x : Exchange)

/-- The tasks that the message posts to the mediasoup thread. -/
def posted : List MediasoupTask :=
  match x.before.runTransport J (.onMessage x.seq x.json) with
  | .ok c => c.mediasoupTasks.drop x.before.mediasoupTasks.length
  | .error _ => []

def responses : List BasicResponse.Val := (x.posted J).flatMap fun t => x.later.handed x.oracle t

/-- A task of the message makes a consumer or data consumer. -/
def Created : Prop := ∃ t ∈ x.posted J, ∃ m, x.later.media = some m ∧ t.Creates x.oracle m

/-- One response is handed over, with the id, and it is `ok` when the consumer was made. -/
def Answered (id : IntN 64) : Prop :=
  ∃ r, x.responses J = [r] ∧ r.2.1 = some id ∧ (r.2.2.1 = some true ↔ x.Created J)

/-- The message decodes as one of the two requests, the clients are there to handle it, and the
task gets to its response. -/
def Served : Prop :=
  x.before.Listens ∧ x.later.signalingClient.isSome ∧
    ∃ t, RoomClient.requested J x.seq x.json = some t ∧
      ∃ m, x.later.media = some m ∧ t.Serves x.oracle m

variable {J x}

theorem posted_eq (hkind : SignalingClient.messageKind J.rapidjson x.json = some .request) :
    x.posted J =
      if x.before.Listens then (RoomClient.requested J x.seq x.json).toList else [] := by
  rw [posted, RoomClient.runTransport_request hkind]
  by_cases hl : x.before.Listens
  · simp only [if_pos hl]
    cases RoomClient.requested J x.seq x.json with
    | none => simp
    | some t => simp [RoomClient.postMediasoup]
  · simp only [if_neg hl, List.drop_length]

end Exchange

namespace MediasoupTask

variable {t : MediasoupTask} {o : Oracle} {m : Media}

theorem Serves.creates (h : t.Serves o m) : t.Creates o m := by
  cases t with
  | newConsumer seq request =>
    obtain ⟨hc, a, ha, -⟩ := h
    exact ⟨_, Media.consume_of_admission hc ha⟩
  | newDataConsumer seq request => exact Media.consumeData_of_servesData h
  | _ => exact h.elim

end MediasoupTask

namespace RoomClient

variable {J : JsonText} {seq : ℕ} {json : String} {id : IntN 64} {c : RoomClient} {o : Oracle}
  {t : MediasoupTask} {m : Media}

theorem outgoing_of_media (hm : c.media = some m) : m.outgoing = [] := by
  obtain ⟨mc, -, rfl⟩ := Option.map_eq_some_iff.mp hm
  rfl

theorem handed_of_serves (hid : J.rapidjson.Carries json id) (ht : requested J seq json = some t)
    (hsc : c.signalingClient.isSome) (hm : c.media = some m) (h : t.Serves o m) :
    c.handed o t = [(some true, some id, some true, ())] := by
  obtain ⟨sc, hsc⟩ := Option.isSome_iff_exists.mp hsc
  have hout := outgoing_of_media hm
  unfold requested at ht
  split at ht
  · cases ht
  · obtain ⟨request, hdecode, rfl⟩ := Option.map_eq_some_iff.mp ht
    have hreq := id_of_decoded hid (toOption_eq_some.mp hdecode)
    simp only [handed, MediasoupTask.operation, hm, hsc]
    rw [Media.responses_of_serves hout h, hreq]
  · obtain ⟨request, hdecode, rfl⟩ := Option.map_eq_some_iff.mp ht
    have hreq := id_of_decoded hid (toOption_eq_some.mp hdecode)
    simp only [handed, MediasoupTask.operation, hm, hsc]
    rw [Media.responses_of_servesData hout h, hreq]

theorem handed_of_not_serves (ht : requested J seq json = some t)
    (h : ¬ (c.signalingClient.isSome ∧ ∃ m, c.media = some m ∧ t.Serves o m)) :
    c.handed o t = [] := by
  unfold handed
  split
  · rename_i op m sc hop hm hsc
    have hout := outgoing_of_media hm
    have hserves : ¬ t.Serves o m := fun hs => h ⟨by rw [hsc]; rfl, m, hm, hs⟩
    unfold requested at ht
    split at ht
    · cases ht
    · obtain ⟨request, -, rfl⟩ := Option.map_eq_some_iff.mp ht
      cases hop
      exact Media.responses_of_not_serves hout hserves
    · obtain ⟨request, -, rfl⟩ := Option.map_eq_some_iff.mp ht
      cases hop
      exact Media.responses_of_not_servesData hout hserves
  · rfl

end RoomClient

namespace Exchange

variable {J : JsonText} {x : Exchange} {id : IntN 64}

theorem responses_of_served
    (hkind : SignalingClient.messageKind J.rapidjson x.json = some .request)
    (hid : J.rapidjson.Carries x.json id) (h : x.Served J) :
    x.responses J = [(some true, some id, some true, ())] ∧ x.Created J := by
  obtain ⟨hl, hsc, t, ht, m, hm, hserves⟩ := h
  have hposted : x.posted J = [t] := by
    rw [posted_eq hkind, if_pos hl, ht]
    rfl
  constructor
  · rw [responses, hposted, List.flatMap_singleton]
    exact RoomClient.handed_of_serves hid ht hsc hm hserves
  · exact ⟨t, by rw [hposted]; exact List.mem_singleton_self t, m, hm, hserves.creates⟩

theorem responses_of_not_served
    (hkind : SignalingClient.messageKind J.rapidjson x.json = some .request) (h : ¬ x.Served J) :
    x.responses J = [] := by
  rw [responses, posted_eq hkind]
  by_cases hl : x.before.Listens
  · rw [if_pos hl]
    cases ht : RoomClient.requested J x.seq x.json with
    | none => rfl
    | some t =>
      rw [Option.toList_some, List.flatMap_singleton]
      exact RoomClient.handed_of_not_serves ht fun ⟨hsc, hs⟩ => h ⟨hl, hsc, t, ht, hs⟩
  · rw [if_neg hl]
    rfl

/-- A request of the SFU with an id gets exactly one response with that id, `ok` just when the
consumer was made, exactly when the request is served to its end. -/
theorem answered_iff_served (J : JsonText) (x : Exchange) (id : IntN 64)
    (hkind : SignalingClient.messageKind J.rapidjson x.json = some .request)
    (hid : J.rapidjson.Carries x.json id) : x.Answered J id ↔ x.Served J := by
  constructor
  · rintro ⟨r, hr, -⟩
    by_contra hserved
    rw [responses_of_not_served hkind hserved] at hr
    cases hr
  · intro hserved
    obtain ⟨hr, hcreated⟩ := responses_of_served hkind hid hserved
    exact ⟨_, hr, rfl, iff_of_true rfl hcreated⟩

def answersJson : JsonText :=
  { RoomClient.sessionJson with
    rapidjson := relayReader opusText (relayedDocument "audio" "audio/opus" opusParameters) }

/-- A client with a receive transport and the given options. -/
def consumingClient (consume : Bool) : RoomClient :=
  { RoomClient.initial with
    mediaController := some
      { options := { consume := some consume }, recvTransport := some ⟨"t1"⟩ } }

def opusExchange (consume : Bool) : Exchange where
  seq := 0
  json := opusText
  before := consumingClient consume
  later := consumingClient consume
  oracle := { RoomClient.firstRequest with consumed := some ⟨0, .audio⟩ }

theorem answersJson_rapidjson : answersJson.rapidjson =
    relayReader opusText (relayedDocument "audio" "audio/opus" opusParameters) := rfl

theorem answersJson_carries : answersJson.rapidjson.Carries opusText ⟨1, by decide⟩ := by
  rw [Rapidjson.Carries, answersJson_rapidjson, relayReader_parse]
  exact ⟨_, rfl, rfl⟩

theorem answersJson_decode (fields : Fields) (initial : fields.Val) :
    fromJsonString answersJson.rapidjson fields initial opusText =
      fields.jdeserialize initial (relayedDocument "audio" "audio/opus" opusParameters) := by
  rw [fromJsonString, answersJson_rapidjson, stringToJson_relayReader]
  rfl

theorem answersJson_messageKind :
    SignalingClient.messageKind answersJson.rapidjson opusText = some .request := by
  rw [SignalingClient.messageKind, answersJson_decode]
  rfl

theorem requestMethod_opus :
    RoomClient.requestMethod answersJson opusText = some .newConsumer := by
  have htext : opusText.isEmpty = false := by decide +kernel
  rw [RoomClient.requestMethod, htext, answersJson_decode]
  rfl

theorem requested_opus : RoomClient.requested answersJson 0 opusText =
    some (.newConsumer 0 (relayedRequest "audio" "audio/opus"
      (ProduceRequest.Parameters.received opusParameters))) := by
  have hparse := relayReader_parse opusText (relayedDocument "audio" "audio/opus" opusParameters)
  rw [RoomClient.requested, requestMethod_opus]
  simp only [answersJson_rapidjson, decode_of_parse hparse]
  rfl

theorem opusExchange_served : (opusExchange true).Served answersJson := by
  refine ⟨⟨rfl, rfl⟩, rfl, _, requested_opus, _, rfl, ⟨rfl, rfl⟩, _, rfl, fun _ tid _ => ?_⟩
  intro h
  cases h

theorem opusExchange_answered : (opusExchange true).Answered answersJson ⟨1, by decide⟩ :=
  (answered_iff_served answersJson (opusExchange true) ⟨1, by decide⟩ answersJson_messageKind
    answersJson_carries).mpr opusExchange_served

/-- A client that does not consume leaves the same request without a response. -/
theorem opus_unanswered :
    SignalingClient.messageKind answersJson.rapidjson (opusExchange false).json = some .request ∧
      answersJson.rapidjson.Carries (opusExchange false).json ⟨1, by decide⟩ ∧
      (opusExchange false).responses answersJson = [] ∧
      ¬ (opusExchange false).Answered answersJson ⟨1, by decide⟩ := by
  have hkind : SignalingClient.messageKind answersJson.rapidjson (opusExchange false).json =
      some .request := answersJson_messageKind
  have hnone : (opusExchange false).responses answersJson = [] := by
    rw [responses, posted_eq hkind]
    have hrequested : RoomClient.requested answersJson (opusExchange false).seq
        (opusExchange false).json = _ := requested_opus
    rw [hrequested]
    rfl
  refine ⟨hkind, answersJson_carries, hnone, ?_⟩
  rintro ⟨r, hr, -⟩
  rw [hnone] at hr
  cases hr

end Exchange
end MediasoupSdk
