import MediasoupSdk.Foundation.Exchange
import MediasoupSdk.Room.Changes

/-! The requests of the negotiation. Each answer posts a task, and the task decides by the options
which request comes next; the order is written nowhere in the client. -/
namespace MediasoupSdk
open Foundation Signaling
namespace RoomClient

/-- The requests of the negotiation, told apart by the transport that they ask for. -/
inductive Stage where
  | getRouterRtpCapabilities
  | createSendTransport
  | createRecvTransport
  | join
  deriving DecidableEq, Repr

namespace Stage

/-- `producing` is asked first. -/
def ofTransport (producing consuming : Bool) : Option Stage :=
  if producing then some createSendTransport
  else if consuming then some createRecvTransport
  else none

def ofRequest : ApiRequest → Option Stage
  | .getRouterRtpCapabilities => some getRouterRtpCapabilities
  | .createWebRtcTransport consuming producing _ _ => ofTransport producing consuming
  | .join _ _ _ => some join
  | _ => none

def ofCallback : Callback → Option Stage
  | .getRouterRtpCapabilities => some getRouterRtpCapabilities
  | .createWebRtcTransport producing consuming => ofTransport producing consuming
  | .join => some join
  | _ => none

@[simp] theorem ofTransport_ne (producing consuming : Bool) :
    ofTransport producing consuming ≠ some getRouterRtpCapabilities := by
  cases producing <;> cases consuming <;> decide

end Stage

/-- The order that the options ask for. -/
def schedule (options : Options) : List Stage :=
  .getRouterRtpCapabilities ::
    ((if options.produce.getD false then [Stage.createSendTransport] else []) ++
      (if options.consume.getD false then [Stage.createRecvTransport] else []) ++ [.join])

/-- What the tasks of the client decide after the answer to a request, and at the start. -/
def following (options : Options) : Option Stage → Option Stage
  | none => some .getRouterRtpCapabilities
  | some .getRouterRtpCapabilities =>
    if options.produce.getD false then some .createSendTransport
    else if options.consume.getD false then some .createRecvTransport
    else some .join
  | some .createSendTransport =>
    if options.consume.getD false then some .createRecvTransport else some .join
  | some .createRecvTransport => some .join
  | some .join => none

theorem following_schedules (options : Options) :
    Schedules (following options) (schedule options) := by
  by_cases hp : options.produce.getD false = true
  · by_cases hc : options.consume.getD false = true
    · apply schedules_of_chain <;> simp [schedule, following, hp, hc]
    · apply schedules_of_chain <;> simp [schedule, following, hp, hc]
  · by_cases hc : options.consume.getD false = true
    · apply schedules_of_chain <;> simp [schedule, following, hp, hc]
    · apply schedules_of_chain <;> simp [schedule, following, hp, hc]

variable (J : JsonText)

/-- The callback that the client passes with a request. -/
def callbackOf : ApiRequest → Callback
  | .getRouterRtpCapabilities => .getRouterRtpCapabilities
  | .createWebRtcTransport consuming producing _ _ => .createWebRtcTransport producing consuming
  | .join _ _ _ => .join
  | .connectWebRtcTransport _ _ => .connectWebRtcTransport
  | .produce _ _ _ _ => .produce
  | .produceData _ _ _ _ => .produceData
  | _ => .ignored

/-- The request of `requestCreateTransport`. -/
def createTransportRequest (forceTcp producing consuming : Bool) (c : RoomClient) :
    Option ApiRequest :=
  if !c.hasApi then none
  else if c.options.datachannel.getD false then
    c.mediasoupDevice.bind fun device =>
      (readCapabilities J CreateWebRtcTransportRequest.SCTPCapabilities
        device.sctpCapabilities).map fun caps =>
          .createWebRtcTransport consuming producing forceTcp (some caps)
  else some (.createWebRtcTransport consuming producing forceTcp none)

/-- The request of `joinImpl`. -/
def joinImplRequest (c : RoomClient) : Option ApiRequest :=
  let sctp := if c.options.datachannel.getD false then
      c.mediasoupDevice.bind fun device =>
        (readCapabilities J JoinRequest.SCTPCapabilities device.sctpCapabilities).map some
    else some none
  let rtp := if c.options.consume.getD false then
      c.mediasoupDevice.bind fun device =>
        (readCapabilities J JoinRequest.RTPCapabilities device.rtpCapabilities).map some
    else some none
  if !c.hasApi then none
  else rtp.bind fun rtp => sctp.map fun sctp => .join c.displayName rtp sctp

/-- The request that a task of the mediasoup thread makes if it comes to its end. -/
def requestOf (o : Oracle) (t : MediasoupTask) (c : RoomClient) : Option ApiRequest :=
  match t with
  | .getRouterRtpCapabilities => if !c.hasApi then none else some .getRouterRtpCapabilities
  | .loadMediasoupDevice _ _ =>
    let c := { c with mediasoupDevice := c.loadDevice o }
    if c.options.produce.getD false then createTransportRequest J false true false c
    else if c.options.consume.getD false then createTransportRequest J false false true c
    else joinImplRequest J c
  | .createTransport _ producing consuming _ =>
    if producing then
      if c.options.consume.getD false then createTransportRequest J false false true c
      else joinImplRequest J c
    else if consuming then joinImplRequest J c
    else none
  | _ => none

/-- The request is handed to the API with its callback, or there is none and nothing happens. -/
def HandsOver (o : Oracle) (r : Option ApiRequest) (c c' : RoomClient) : Prop :=
  match r with
  | none => c' = c
  | some r => c.request J o r (callbackOf r) = .ok c'

variable {J} {o : Oracle} {c c' : RoomClient}

theorem createTransport_handsOver {forceTcp producing consuming : Bool}
    (h : c.requestCreateTransport J forceTcp producing consuming o = .ok c') :
    HandsOver J o (createTransportRequest J forceTcp producing consuming c) c c' := by
  unfold requestCreateTransport at h
  unfold createTransportRequest
  split_ifs at h ⊢ with hapi hdata
  · cases h
    rfl
  · simp only [bind_ok, deref_eq_ok] at h
    obtain ⟨device, hdevice, h⟩ := h
    simp only [hdevice, Option.bind_some]
    cases hcaps : readCapabilities J CreateWebRtcTransportRequest.SCTPCapabilities
        device.sctpCapabilities with
    | none =>
      rw [hcaps] at h
      cases h
      rfl
    | some caps =>
      rw [hcaps] at h
      exact h
  · exact h

theorem joinImpl_handsOver (h : c.joinImpl J o = .ok c') :
    HandsOver J o (joinImplRequest J c) c c' := by
  have hwith (rtp : Option JoinRequest.RTPCapabilities.Val)
      (hw : c.joinWith J rtp o = .ok c') :
      HandsOver J o ((if c.options.datachannel.getD false then
          c.mediasoupDevice.bind fun device =>
            (readCapabilities J JoinRequest.SCTPCapabilities device.sctpCapabilities).map some
        else some none).map fun sctp => .join c.displayName rtp sctp) c c' := by
    unfold joinWith at hw
    split_ifs at hw ⊢ with hdata
    · simp only [bind_ok, deref_eq_ok] at hw
      obtain ⟨device, hdevice, hw⟩ := hw
      simp only [hdevice, Option.bind_some]
      cases hcaps : readCapabilities J JoinRequest.SCTPCapabilities device.sctpCapabilities with
      | none =>
        rw [hcaps] at hw
        cases hw
        rfl
      | some sctp =>
        rw [hcaps] at hw
        exact hw
    · exact hw
  unfold joinImpl at h
  simp only [joinImplRequest]
  split_ifs at h with hapi hconsume
  · cases h
    simp [hapi, HandsOver]
  · simp only [bind_ok, deref_eq_ok] at h
    obtain ⟨device, hdevice, h⟩ := h
    simp only [hapi, Bool.false_eq_true, hconsume, ↓reduceIte, hdevice, Option.bind_some]
    cases hcaps : readCapabilities J JoinRequest.RTPCapabilities device.rtpCapabilities with
    | none =>
      rw [hcaps] at h
      cases h
      rfl
    | some rtp =>
      rw [hcaps] at h
      have hdone := hwith (some rtp) h
      simpa [hdevice] using hdone
  · have hdone := hwith none h
    simpa [hapi, hconsume] using hdone

/-- The request whose answer posted the task, if the task makes the next one. -/
def continuationOf : MediasoupTask → Option (Option Stage)
  | .getRouterRtpCapabilities => some none
  | .loadMediasoupDevice _ _ => some (some .getRouterRtpCapabilities)
  | .createTransport _ producing consuming _ => (Stage.ofTransport producing consuming).map some
  | _ => none

def openingOf : TransportTask → Option (Option Stage)
  | .onOpened => some none
  | _ => none

/-- What the task does before its request. -/
structure Prepares (p : Option Stage) (c d : RoomClient) : Prop where
  state : d.state = c.state
  options : d.options = c.options
  signalingClient : d.signalingClient = c.signalingClient
  transportTasks : d.transportTasks = c.transportTasks
  mediasoupTasks : d.mediasoupTasks = c.mediasoupTasks
  device : c.mediasoupDevice.isSome → d.mediasoupDevice.isSome
  send : c.sendTransport.isSome → d.sendTransport.isSome
  recv : c.recvTransport.isSome → d.recvTransport.isSome
  loads : p = some .getRouterRtpCapabilities → d.mediasoupDevice.isSome
  createsSend : p = some .createSendTransport → c.mediasoupDevice.isSome → d.sendTransport.isSome
  createsRecv : p = some .createRecvTransport → c.mediasoupDevice.isSome → d.recvTransport.isSome
  media : ∀ mc', d.mediaController = some mc' → ∃ mc, c.mediaController = some mc ∧
    mc'.options = mc.options ∧
    (p ≠ some .createSendTransport → mc'.sendTransport = mc.sendTransport) ∧
    (p ≠ some .createRecvTransport → mc'.recvTransport = mc.recvTransport)

theorem createTransportRequest_stage {forceTcp producing consuming : Bool} {r : ApiRequest}
    (h : createTransportRequest J forceTcp producing consuming c = some r) :
    Stage.ofRequest r = Stage.ofTransport producing consuming := by
  unfold createTransportRequest at h
  split_ifs at h
  · obtain ⟨device, -, h⟩ := Option.bind_eq_some_iff.mp h
    obtain ⟨caps, -, rfl⟩ := Option.map_eq_some_iff.mp h
    rfl
  · cases h
    rfl

theorem joinImplRequest_stage {r : ApiRequest} (h : joinImplRequest J c = some r) :
    Stage.ofRequest r = some .join := by
  simp only [joinImplRequest] at h
  split_ifs at h
  all_goals
    obtain ⟨rtp, -, h⟩ := Option.bind_eq_some_iff.mp h
    obtain ⟨sctp, -, rfl⟩ := Option.map_eq_some_iff.mp h
    rfl

theorem requestOf_stage {t : MediasoupTask} {p : Option Stage} {r : ApiRequest}
    (ht : continuationOf t = some p) (hr : requestOf J o t c = some r) :
    Stage.ofRequest r = following c.options p := by
  cases t with
  | getRouterRtpCapabilities =>
    cases ht
    simp only [requestOf] at hr
    split_ifs at hr
    cases hr
    rfl
  | loadMediasoupDevice seq response =>
    cases ht
    simp only [requestOf] at hr
    split_ifs at hr with hp hc
    · rw [createTransportRequest_stage hr, following, if_pos hp]
      rfl
    · rw [createTransportRequest_stage hr, following, if_neg hp, if_pos hc]
      rfl
    · rw [joinImplRequest_stage hr, following, if_neg hp, if_neg hc]
  | createTransport seq producing consuming response =>
    simp only [requestOf] at hr
    split_ifs at hr with hp hc hq
    · simp only [continuationOf, Stage.ofTransport, hp, ↓reduceIte, Option.map_some,
        Option.some.injEq] at ht
      rw [createTransportRequest_stage hr, ← ht, following, if_pos hc]
      rfl
    · simp only [continuationOf, Stage.ofTransport, hp, ↓reduceIte, Option.map_some,
        Option.some.injEq] at ht
      rw [joinImplRequest_stage hr, ← ht, following, if_neg hc]
    · simp only [continuationOf, Stage.ofTransport, hp, hq, Bool.false_eq_true, ↓reduceIte,
        Option.map_some, Option.some.injEq] at ht
      rw [joinImplRequest_stage hr, ← ht, following]
  | closed => cases hr
  | joined seq state response => cases hr
  | newConsumer seq request => cases hr
  | newDataConsumer seq request => cases hr
  | updateConsumer seq tid paused => cases hr
  | consumerClosed seq notification => cases hr

/-- With a device, `createTransportImpl` leaves the transport that was asked for. -/
theorem createTransportImpl_prepares {seq : ℕ} {producing consuming : Bool}
    {response : Response CreateWebRtcTransportResponse.Data}
    (h : (c.apply seq).createTransportImpl producing consuming response o = .ok c') :
    Prepares (Stage.ofTransport producing consuming) c c' := by
  unfold createTransportImpl at h
  split_ifs at h with hdev hp hq
  · cases h
    have hnone : c.mediasoupDevice = none := by
      simp only [RoomClient.apply, Bool.and_eq_true, Option.isNone_iff_eq_none] at hdev
      exact hdev.1
    constructor
    case media => exact fun mc' hmc' => ⟨mc', hmc', rfl, fun _ => rfl, fun _ => rfl⟩
    all_goals simp [RoomClient.apply, hnone]
  · simp only [bind_ok, pure, Except.pure, Except.ok.injEq, deref_eq_ok] at h
    obtain ⟨data, -, ice, -, candidates, -, dtls, -, sctp, -, device, hdevice, u, -, mc, hmc,
      rfl⟩ := h
    subst hp
    constructor
    case media =>
      rintro mc' ⟨⟩
      exact ⟨mc, hmc, rfl, by simp [Stage.ofTransport], fun _ => rfl⟩
    all_goals simp [RoomClient.apply, Stage.ofTransport]
  · simp only [bind_ok, pure, Except.pure, Except.ok.injEq, deref_eq_ok] at h
    obtain ⟨data, -, ice, -, candidates, -, dtls, -, sctp, -, device, hdevice, u, -, mc, hmc,
      rfl⟩ := h
    constructor
    case media =>
      rintro mc' ⟨⟩
      exact ⟨mc, hmc, rfl, fun _ => rfl, by simp [Stage.ofTransport, hp, hq]⟩
    all_goals simp [RoomClient.apply, Stage.ofTransport, hp, hq]
  · simp only [bind_ok, pure, Except.pure, Except.ok.injEq] at h
    obtain ⟨data, -, ice, -, candidates, -, dtls, -, sctp, -, rfl⟩ := h
    constructor
    case media => exact fun mc' hmc' => ⟨mc', hmc', rfl, fun _ => rfl, fun _ => rfl⟩
    all_goals simp [RoomClient.apply, Stage.ofTransport, hp, hq]

theorem onLoadMediasoupDevice_prepares {seq : ℕ}
    {response : Response GetRouterRtpCapabilitiesResponse.Data.Val}
    (h : (c.apply seq).onLoadMediasoupDevice J response o = .ok c') :
    ∃ d, Prepares (some .getRouterRtpCapabilities) c d ∧
      HandsOver J o (requestOf J o (.loadMediasoupDevice seq response) c) d c' := by
  simp only [onLoadMediasoupDevice, bind_ok] at h
  obtain ⟨data, -, device, hload, mc, hmc, h⟩ := h
  have hdevice : c.loadDevice o = some device := by
    change mayThrow (c.loadDevice o) = .ok device at hload
    cases hd : c.loadDevice o with
    | none => simp [hd] at hload
    | some d => simpa [hd] using hload
  refine ⟨{ c.apply seq with
    mediasoupDevice := some device, created := c.created ++ [Component.device]
    mediaController := some { mc with mediasoupDevice := some device } }, ?_, ?_⟩
  · constructor
    case media =>
      rintro mc' ⟨⟩
      exact ⟨mc, deref_eq_ok.mp hmc, rfl, fun _ => rfl, fun _ => rfl⟩
    all_goals simp [RoomClient.apply]
  · simp only [requestOf, hdevice]
    split_ifs at h with hp hc
    · have hp : c.options.produce.getD false = true := hp
      rw [if_pos hp]
      exact createTransport_handsOver h
    · have hp : ¬ c.options.produce.getD false = true := hp
      have hc : c.options.consume.getD false = true := hc
      rw [if_neg hp, if_pos hc]
      exact createTransport_handsOver h
    · have hp : ¬ c.options.produce.getD false = true := hp
      have hc : ¬ c.options.consume.getD false = true := hc
      rw [if_neg hp, if_neg hc]
      exact joinImpl_handsOver h

theorem onCreateSendTransport_prepares {seq : ℕ} {consuming : Bool}
    {response : Response CreateWebRtcTransportResponse.Data}
    (h : (c.apply seq).onCreateSendTransport J response o = .ok c') :
    ∃ d, Prepares (some .createSendTransport) c d ∧
      HandsOver J o (requestOf J o (.createTransport seq true consuming response) c) d c' := by
  simp only [onCreateSendTransport, bind_ok] at h
  obtain ⟨d, hd, h⟩ := h
  refine ⟨d, createTransportImpl_prepares hd, ?_⟩
  simp only [requestOf, if_true]
  -- the request is read from the client that the task started with
  rcases createTransportImpl_ok hd with rfl | ⟨-, -, mc, send, recv, component, rfl⟩
  all_goals
    split_ifs at h with hc
    · have hc : c.options.consume.getD false = true := hc
      rw [if_pos hc]
      exact createTransport_handsOver h
    · have hc : ¬ c.options.consume.getD false = true := hc
      rw [if_neg hc]
      exact joinImpl_handsOver h

theorem onCreateRecvTransport_prepares {seq : ℕ}
    {response : Response CreateWebRtcTransportResponse.Data}
    (h : (c.apply seq).onCreateRecvTransport J response o = .ok c') :
    ∃ d, Prepares (some .createRecvTransport) c d ∧
      HandsOver J o (requestOf J o (.createTransport seq false true response) c) d c' := by
  simp only [onCreateRecvTransport, bind_ok] at h
  obtain ⟨d, hd, h⟩ := h
  refine ⟨d, createTransportImpl_prepares hd, ?_⟩
  simp only [requestOf, Bool.false_eq_true, if_false, if_true]
  rcases createTransportImpl_ok hd with rfl | ⟨-, -, mc, send, recv, component, rfl⟩
  all_goals exact joinImpl_handsOver h

theorem runMediasoup_prepares {t : MediasoupTask} {p : Option Stage}
    (ht : continuationOf t = some p) (h : c.runMediasoup J t o = .ok c') :
    ∃ d, Prepares p c d ∧ HandsOver J o (requestOf J o t c) d c' := by
  cases t with
  | getRouterRtpCapabilities =>
    cases ht
    apply Exists.intro c
    constructor
    · constructor
      case media => exact fun mc' hmc' => ⟨mc', hmc', rfl, fun _ => rfl, fun _ => rfl⟩
      all_goals simp
    · simp only [runMediasoup, getRouterRtpCapabilities, requestOf] at h ⊢
      split_ifs at h ⊢
      · cases h
        rfl
      · exact h
  | loadMediasoupDevice seq response =>
    cases ht
    exact onLoadMediasoupDevice_prepares h
  | createTransport seq producing consuming response =>
    obtain ⟨p', hp', rfl⟩ := Option.map_eq_some_iff.mp ht
    simp only [runMediasoup] at h
    unfold Stage.ofTransport at hp'
    split_ifs at h hp' with hp hq
    · cases hp'
      cases hp
      exact onCreateSendTransport_prepares h
    · cases hp'
      cases hq
      rw [Bool.not_eq_true] at hp
      cases hp
      exact onCreateRecvTransport_prepares h
  | closed => cases ht
  | joined seq state response => cases ht
  | newConsumer seq request => cases ht
  | newDataConsumer seq request => cases ht
  | updateConsumer seq tid paused => cases ht
  | consumerClosed seq notification => cases ht

/-- What the client has when it makes the request. -/
def Equipped (c : RoomClient) : Stage → Prop
  | .getRouterRtpCapabilities => True
  | .createSendTransport => c.mediasoupDevice.isSome
  | .createRecvTransport =>
    c.mediasoupDevice.isSome ∧ (c.options.produce.getD false → c.sendTransport.isSome)
  | .join => c.mediasoupDevice.isSome ∧ (c.options.produce.getD false → c.sendTransport.isSome) ∧
      (c.options.consume.getD false → c.recvTransport.isSome)

/-- The task that carries on after `p` equips the client for the request that follows. -/
theorem Prepares.equips {p : Option Stage} {s : Stage} {d : RoomClient} (h : Prepares p c d)
    (hp : ∀ q, p = some q → c.Equipped q) (hs : following c.options p = some s) :
    d.Equipped s := by
  cases p with
  | none =>
    cases hs
    trivial
  | some q =>
    have hq := hp q rfl
    cases q with
    | getRouterRtpCapabilities =>
      have hd := h.loads rfl
      simp only [following] at hs
      split_ifs at hs with hproduce hconsume
      · cases hs
        exact hd
      · cases hs
        refine ⟨hd, fun hyes => ?_⟩
        rw [h.options] at hyes
        exact absurd hyes hproduce
      · cases hs
        refine ⟨hd, fun hyes => ?_, fun hyes => ?_⟩
        · rw [h.options] at hyes
          exact absurd hyes hproduce
        · rw [h.options] at hyes
          exact absurd hyes hconsume
    | createSendTransport =>
      have hd := h.device hq
      have hsend := h.createsSend rfl hq
      simp only [following] at hs
      split_ifs at hs with hconsume
      · cases hs
        exact ⟨hd, fun _ => hsend⟩
      · cases hs
        refine ⟨hd, fun _ => hsend, fun hyes => ?_⟩
        rw [h.options] at hyes
        exact absurd hyes hconsume
    | createRecvTransport =>
      cases hs
      refine ⟨h.device hq.1, fun hyes => ?_, fun _ => h.createsRecv rfl hq.1⟩
      rw [h.options] at hyes
      exact h.send (hq.2 hyes)
    | join => cases hs

end RoomClient
end MediasoupSdk
