import MediasoupSdk.Media.Faults
import MediasoupSdk.Room.System

/-! The faults that the operations of the client cannot end with. -/
namespace MediasoupSdk
open Foundation Signaling

variable {bad : Fault → Prop}

section Sending

variable (hwebsocket : ¬ bad (.nullPointer .websocket))
include hwebsocket

theorem WebsocketTransport.send_avoids (text : String) (t : WebsocketTransport) :
    Avoids bad (t.send text) := by
  unfold send
  split_ifs
  · exact avoids_ok _
  · exact (avoids_deref fun _ => hwebsocket).bind fun _ _ => avoids_pure _
  · exact (avoids_deref fun _ => hwebsocket).bind fun _ _ => avoids_pure _

theorem SignalingClient.send_avoids {κ : Type} (text : String) (transaction : ℤ)
    (scb fcb : Option κ) (sc : SignalingClient κ) :
    Avoids bad (sc.send text transaction scb fcb) := by
  unfold send
  split_ifs
  · exact avoids_ok _
  · exact (WebsocketTransport.send_avoids hwebsocket _ _).bind fun _ _ => avoids_pure _

theorem MediasoupApi.send_avoids {κ : Type} (text : String) (id : RequestId) (callback : κ)
    (sc : Option (SignalingClient κ)) : Avoids bad (MediasoupApi.send text id callback sc) := by
  cases sc with
  | none => exact avoids_ok _
  | some sc =>
    exact (SignalingClient.send_avoids hwebsocket _ _ _ _ sc).bind fun _ _ => avoids_pure _

theorem MediasoupApi.response_avoids {κ : Type} (text : String) (id : Option (IntN 64))
    (sc : Option (SignalingClient κ)) : Avoids bad (MediasoupApi.response text id sc) := by
  cases sc with
  | none => exact avoids_ok _
  | some sc =>
    exact (SignalingClient.send_avoids hwebsocket _ _ _ _ sc).bind fun _ _ => avoids_pure _

end Sending

namespace RoomClient

variable {J : JsonText} {o : Oracle} {c : RoomClient}

theorem sendOutgoing_avoids (hwebsocket : ¬ bad (.nullPointer .websocket))
    (outgoing : List Outgoing) :
    ∀ (n : ℕ) (sc : Option (SignalingClient Callback)),
      Avoids bad (sendOutgoing J o n outgoing sc) := by
  induction outgoing with
  | nil => exact fun n sc => avoids_ok sc
  | cons m rest ih =>
    intro n sc
    cases m with
    | request r =>
      exact (MediasoupApi.send_avoids hwebsocket _ _ _ sc).bind fun p _ => ih (n + 1) p.1
    | answer id =>
      exact (MediasoupApi.response_avoids hwebsocket _ _ sc).bind fun sc' _ => ih n sc'

theorem withMedia_avoids (hwebsocket : ¬ bad (.nullPointer .websocket))
    {op : Media → Except Fault Media} (hop : ∀ m, Avoids bad (op m)) (mc : MediaController)
    (c : RoomClient) : Avoids bad (c.withMedia J o op mc) :=
  (hop _).bind fun _ _ => (sendOutgoing_avoids hwebsocket _ _ _).bind fun _ _ => avoids_pure _

theorem runMedia_avoids (hwebsocket : ¬ bad (.nullPointer .websocket))
    {op : Media → Except Fault Media} (hop : ∀ m, Avoids bad (op m)) (seq : ℕ)
    (c : RoomClient) : Avoids bad (c.runMedia J seq op o) := by
  unfold runMedia
  split
  · exact avoids_ok _
  · exact (withMedia_avoids hwebsocket hop _ c).bind fun _ _ => avoids_pure _

section Negotiation

variable (hwebsocket : ¬ bad (.nullPointer .websocket))
include hwebsocket

theorem request_avoids (r : ApiRequest) (callback : Callback) (c : RoomClient) :
    Avoids bad (c.request J o r callback) :=
  (MediasoupApi.send_avoids hwebsocket _ _ _ _).bind fun _ _ => avoids_pure _

theorem getRouterRtpCapabilities_avoids (c : RoomClient) :
    Avoids bad (c.getRouterRtpCapabilities J o) := by
  unfold getRouterRtpCapabilities
  split_ifs
  · exact avoids_ok _
  · exact request_avoids hwebsocket _ _ c

theorem listen_avoids (l : ListenerCall) (c : RoomClient) : Avoids bad (c.listen J l o) := by
  unfold listen
  split_ifs
  · exact avoids_ok _
  · cases l with
    | onConnect transportId dtlsParameters =>
      simp only
      split
      · exact avoids_ok _
      · exact request_avoids hwebsocket _ _ c
    | onProduce transportId kind rtpParameters trackName =>
      simp only
      split
      · exact avoids_ok _
      · exact request_avoids hwebsocket _ _ c
    | onProduceData transportId sctpStreamParameters label protocol =>
      simp only
      split
      · exact avoids_ok _
      · exact request_avoids hwebsocket _ _ c

/-- The device is read for the SCTP capabilities only. -/
theorem requestCreateTransport_avoids (forceTcp producing consuming : Bool) (c : RoomClient)
    (hdevice : c.options.datachannel.getD false = true → c.mediasoupDevice = none →
      ¬ bad (.nullPointer .mediasoupDevice)) :
    Avoids bad (c.requestCreateTransport J forceTcp producing consuming o) := by
  unfold requestCreateTransport
  split_ifs with hapi hdata
  · exact avoids_ok _
  · refine (avoids_deref (hdevice hdata)).bind fun device _ => ?_
    split
    · exact avoids_pure _
    · exact request_avoids hwebsocket _ _ c
  · exact request_avoids hwebsocket _ _ c

theorem joinWith_avoids (rtp : Option JoinRequest.RTPCapabilities.Val) (c : RoomClient)
    (hdevice : c.options.datachannel.getD false = true → c.mediasoupDevice = none →
      ¬ bad (.nullPointer .mediasoupDevice)) : Avoids bad (c.joinWith J rtp o) := by
  unfold joinWith
  split_ifs with hdata
  · refine (avoids_deref (hdevice hdata)).bind fun device _ => ?_
    split
    · exact avoids_pure _
    · exact request_avoids hwebsocket _ _ c
  · exact request_avoids hwebsocket _ _ c

theorem joinImpl_avoids (c : RoomClient)
    (hdevice : (c.options.consume.getD false || c.options.datachannel.getD false) = true →
      c.mediasoupDevice = none → ¬ bad (.nullPointer .mediasoupDevice)) :
    Avoids bad (c.joinImpl J o) := by
  have hdata : c.options.datachannel.getD false = true → c.mediasoupDevice = none →
      ¬ bad (.nullPointer .mediasoupDevice) := by
    intro hdata
    exact hdevice (by simp [hdata])
  unfold joinImpl
  split_ifs with hapi hconsume
  · exact avoids_ok _
  · refine (avoids_deref (hdevice (by simp [hconsume]))).bind fun device _ => ?_
    split
    · exact avoids_pure _
    · exact joinWith_avoids hwebsocket _ c hdata
  · exact joinWith_avoids hwebsocket _ c hdata

end Negotiation

theorem destroyComponents_avoids (hproducer : ¬ bad (.nullPointer .producer))
    (hdata : ¬ bad (.nullPointer .dataConsumer)) (hconsumer : ¬ bad (.nullPointer .consumer))
    (c : RoomClient) : Avoids bad c.destroyComponents := by
  unfold destroyComponents
  split
  · exact avoids_pure _
  · exact (MediaController.destroy_avoids hproducer hdata hconsumer _).bind
      fun _ _ => avoids_pure _

theorem onRoomStateChanged_avoids (hproducer : ¬ bad (.nullPointer .producer))
    (hdata : ¬ bad (.nullPointer .dataConsumer)) (hconsumer : ¬ bad (.nullPointer .consumer))
    (state : RoomState) (c : RoomClient) : Avoids bad (c.onRoomStateChanged state) := by
  have hpure : ∀ x : Except Fault RoomClient, Avoids bad x → Avoids bad
      (do let c ← x; return { c with notified := c.notified ++ [state] }) :=
    fun x hx => hx.bind fun _ _ => avoids_pure _
  cases state with
  | closed => exact hpure _ (destroyComponents_avoids hproducer hdata hconsumer c)
  | connecting => exact hpure _ (avoids_ok c)
  | connected => exact hpure _ (avoids_ok c)

theorem call_avoids {a : ApiCall} (hwebsocket : ¬ bad (.nullPointer .websocket))
    (hproducer : ¬ bad (.nullPointer .producer)) (hdata : ¬ bad (.nullPointer .dataConsumer))
    (hconsumer : ¬ bad (.nullPointer .consumer)) (hu : ¬ bad .uncaught)
    (hmedia : a.IsMedia → c.mediaController = none → ¬ bad (.nullPointer .mediaController)) :
    Avoids bad (c.call J a o) := by
  have hstate := onRoomStateChanged_avoids hproducer hdata hconsumer
  cases a with
  | join hostname port roomId displayName options =>
    simp only [call, join]
    split_ifs
    · exact avoids_ok _
    · exact avoids_ok _
    · exact avoids_ok _
    · exact avoids_ok _
    · split
      · exact avoids_ok _
      · exact hstate _ _
  | leave =>
    simp only [call, leave]
    split_ifs
    · exact avoids_ok _
    · split
      · exact avoids_ok _
      · exact hstate _ _
  | enableAudio enabled =>
    exact (avoids_deref (hmedia trivial)).bind fun mc _ =>
      withMedia_avoids hwebsocket (Media.enableAudio_avoids hu enabled _) mc c
  | muteAudio muted =>
    exact (avoids_deref (hmedia trivial)).bind fun mc _ =>
      withMedia_avoids hwebsocket (fun m => avoids_ok _) mc c
  | enableVideo enabled trackName =>
    exact (avoids_deref (hmedia trivial)).bind fun mc _ =>
      withMedia_avoids hwebsocket (Media.enableVideo_avoids hu enabled trackName _) mc c
  | destroy => exact destroyComponents_avoids hproducer hdata hconsumer _

theorem notifyParticipants_avoids {seq : ℕ}
    {handler : ParticipantController → Except Fault ParticipantController}
    (hh : ∀ pc, Avoids bad (handler pc)) (c : RoomClient) :
    Avoids bad (c.notifyParticipants seq handler) := by
  unfold notifyParticipants
  split
  · exact avoids_ok _
  · exact (hh _).bind fun _ _ => avoids_pure _

theorem decoded_avoids {α : Type} {value : Except JsonError α}
    {handler : α → Except Fault RoomClient} (hh : ∀ a, Avoids bad (handler a)) (c : RoomClient) :
    Avoids bad (c.decoded value handler) := by
  unfold decoded
  split
  · exact avoids_ok _
  · exact hh _

theorem handleRequest_avoids (seq : ℕ) (json : String) (c : RoomClient) :
    Avoids bad (c.handleRequest J seq json) := by
  unfold handleRequest
  split_ifs
  · exact avoids_ok _
  · split
    · exact avoids_ok _
    · exact decoded_avoids (fun _ => avoids_ok _) c
    · exact decoded_avoids (fun _ => avoids_ok _) c

section Transport

variable (hd : ¬ bad .disengaged)
include hd

theorem onActiveSpeaker_avoids (seq : ℕ) (n : Notification ActiveSpeakerNotification.Data)
    (c : RoomClient) : Avoids bad (c.onActiveSpeaker seq n) := by
  refine (avoids_engaged hd _).bind fun data _ => ?_
  split_ifs
  · exact avoids_pure _
  · exact avoids_pure _

theorem onConsumerPaused_avoids (seq : ℕ) (paused : Bool)
    (n : Notification ConsumerNotification.Data) (c : RoomClient) :
    Avoids bad (c.onConsumerPaused seq paused n) := by
  unfold onConsumerPaused
  split_ifs
  · exact avoids_ok _
  · refine (avoids_engaged hd _).bind fun data _ => ?_
    simp only
    split_ifs
    · exact avoids_pure _
    · exact avoids_pure _

theorem handleNotification_avoids (seq : ℕ) (json : String) (c : RoomClient) :
    Avoids bad (c.handleNotification J seq json) := by
  unfold handleNotification
  simp only
  split
  · exact avoids_ok _
  · refine decoded_avoids (fun n => notifyParticipants_avoids (fun pc => ?_) c) c
    refine (avoids_engaged hd _).bind fun data _ => ?_
    simp only
    split_ifs
    · exact avoids_pure _
    · exact avoids_pure _
    · exact avoids_pure _
  · refine decoded_avoids (fun n => notifyParticipants_avoids (fun pc => ?_) c) c
    refine (avoids_engaged hd _).bind fun data _ => ?_
    simp only
    split_ifs
    · exact avoids_pure _
    · split
      · exact avoids_pure _
      · exact avoids_pure _
  · refine decoded_avoids (fun n => notifyParticipants_avoids (fun pc => ?_) c) c
    exact (avoids_engaged hd _).bind fun data _ =>
      ParticipantController.updateParticipant_avoids (avoids_ok _) pc
  · refine decoded_avoids (fun n => ?_) c
    split_ifs
    · exact avoids_ok _
    · exact avoids_ok _
  · exact decoded_avoids (fun n => onConsumerPaused_avoids hd seq true n c) c
  · exact decoded_avoids (fun n => onConsumerPaused_avoids hd seq false n c) c
  · refine decoded_avoids (fun n => ?_) c
    refine (onActiveSpeaker_avoids hd seq n c).bind fun d _ => ?_
    refine notifyParticipants_avoids (fun pc => ?_) d
    exact (avoids_engaged hd _).bind fun data _ =>
      ParticipantController.updateParticipant_avoids (avoids_ok _) pc

theorem onProduceReply_avoids (alive : Bool)
    (reply : MediasoupApi.Reply (Response ProduceResponse.Data)) :
    Avoids bad (MediasoupApi.onProduceReply alive reply) := by
  unfold MediasoupApi.onProduceReply
  split_ifs
  · exact avoids_ok _
  · exact avoids_ok _
  · split
    · exact avoids_ok _
    · split_ifs
      · exact avoids_ok _
      · exact (avoids_engaged hd _).bind fun _ _ => avoids_pure _

theorem invoke_avoids (seq : ℕ) (call : Invocation Callback) (c : RoomClient) :
    Avoids bad (invoke J seq call c) := by
  have hproduce : Avoids bad (do
      (MediasoupApi.replies (decodeProduceResponse J.rapidjson) call).forM fun reply => do
        let _ ← MediasoupApi.onProduceReply true reply
      return c) := by
    refine (avoids_forM (fun reply => ?_) _).bind fun _ _ => avoids_pure _
    exact (onProduceReply_avoids hd true reply).bind fun _ _ => avoids_pure _
  unfold invoke
  simp only
  split
  · exact avoids_ok _
  · exact avoids_ok _
  · exact avoids_ok _
  · exact (avoids_forM (fun reply => avoids_ok _) _).bind fun _ _ => avoids_pure _
  · exact hproduce
  · exact hproduce
  · exact avoids_ok _

theorem runTransport_avoids (t : TransportTask) (c : RoomClient) :
    Avoids bad (c.runTransport J t) := by
  unfold runTransport
  split
  · exact avoids_ok _
  · cases t with
    | onOpened => exact avoids_ok _
    | onFailed => exact avoids_ok _
    | onClosed =>
      exact (avoids_foldlM (fun c call => invoke_avoids hd 0 call c) _ _).bind
        fun _ _ => avoids_pure _
    | onMessage seq json =>
      simp only [onMessage]
      split
      · exact avoids_ok _
      · exact handleNotification_avoids hd seq json c
      · exact avoids_ok _
      · exact handleRequest_avoids seq json c
    | handleResponse seq json =>
      exact avoids_foldlM (fun c call => invoke_avoids hd seq call (c.apply seq)) _ _

end Transport

end RoomClient
end MediasoupSdk
