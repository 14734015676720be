import MediasoupSdk.Media.Changes
import MediasoupSdk.Room.System

/-! What the operations of the client change, as equations between the client before and after.
Later modules argue from these equations and do not open the operations again. -/
namespace MediasoupSdk
open Foundation Signaling
namespace RoomClient

variable {J : JsonText} {o : Oracle} {c c' : RoomClient}

/-- The callbacks that an entry of the table could still invoke. -/
def waiting (sc : Option (SignalingClient Callback)) : Set Callback :=
  {callback | ∃ s k r, sc = some s ∧ s.requestMap.lookup k = some r ∧
    (r.resolve = some callback ∨ r.reject = some callback)}

@[simp] theorem waiting_none : waiting none = ∅ := by
  ext callback
  simp [waiting]

theorem waiting_store (transport : WebsocketTransport) (sc : SignalingClient Callback)
    (r : WebsocketRequest Callback) :
    waiting (some (SignalingClient.store r { sc with transport })) ⊆
      waiting (some sc) ∪ {callback | r.resolve = some callback ∨ r.reject = some callback} := by
  rintro callback ⟨s, k, r', hs, hl, hr⟩
  cases hs
  simp only [SignalingClient.store_lookup] at hl
  split_ifs at hl with hk
  · cases hl
    exact Or.inr hr
  · exact Or.inl ⟨sc, k, r', rfl, hl, hr⟩

theorem send_waiting {text : String} {transaction : ℤ} {scb fcb : Option Callback}
    {sc sc' : SignalingClient Callback} (h : sc.send text transaction scb fcb = .ok sc') :
    waiting (some sc') ⊆
      waiting (some sc) ∪ {callback | scb = some callback ∨ fcb = some callback} := by
  unfold SignalingClient.send at h
  split_ifs at h with ht
  · cases h
    exact Set.subset_union_left
  · simp only [bind_ok, pure, Except.pure, Except.ok.injEq] at h
    obtain ⟨transport, -, rfl⟩ := h
    exact waiting_store transport sc _

theorem api_send_waiting {text : String} {id : RequestId} {callback : Callback}
    {sc : Option (SignalingClient Callback)}
    {r : Option (SignalingClient Callback) × List (Invocation Callback)}
    (h : MediasoupApi.send text id callback sc = .ok r) :
    waiting r.1 ⊆ waiting sc ∪ {callback} := by
  cases sc with
  | none =>
    cases h
    simp
  | some sc =>
    simp only [MediasoupApi.send, bind_ok, pure, Except.pure, Except.ok.injEq] at h
    obtain ⟨sc', hs, rfl⟩ := h
    refine (send_waiting hs).trans (Set.union_subset_union_right _ ?_)
    rintro x (hx | hx)
    · exact (Option.some.inj hx).symm
    · exact (Option.some.inj hx).symm

theorem api_response_waiting {text : String} {id : Option (IntN 64)}
    {sc sc' : Option (SignalingClient Callback)}
    (h : MediasoupApi.response text id sc = .ok sc') : waiting sc' ⊆ waiting sc := by
  cases sc with
  | none =>
    cases h
    exact Set.Subset.rfl
  | some sc =>
    simp only [MediasoupApi.response, bind_ok, pure, Except.pure, Except.ok.injEq] at h
    obtain ⟨sc', hs, rfl⟩ := h
    refine (send_waiting hs).trans ?_
    simp

theorem sendOutgoing_waiting {outgoing : List Outgoing} :
    ∀ {n : ℕ} {sc sc' : Option (SignalingClient Callback)},
      sendOutgoing J o n outgoing sc = .ok sc' → waiting sc' ⊆ waiting sc ∪ {.ignored} := by
  induction outgoing with
  | nil =>
    intro n sc sc' h
    cases h
    exact Set.subset_union_left
  | cons m rest ih =>
    intro n sc sc' h
    cases m with
    | request r =>
      simp only [sendOutgoing, bind_ok] at h
      obtain ⟨p, hp, hr⟩ := h
      have hsend := api_send_waiting hp
      refine (ih hr).trans (Set.union_subset hsend Set.subset_union_right)
    | answer id =>
      simp only [sendOutgoing, bind_ok] at h
      obtain ⟨p, hp, hr⟩ := h
      have hsend := api_response_waiting hp
      exact (ih hr).trans (Set.union_subset_union_left _ hsend)

theorem handleResponse_waiting (R : Rapidjson) (json : String) (sc : SignalingClient Callback) :
    waiting (some (sc.handleResponse R json).1) ⊆ waiting (some sc) := by
  rintro callback ⟨s, k, r, hs, hl, hr⟩
  cases hs
  refine ⟨sc, k, r, rfl, ?_, hr⟩
  rw [SignalingClient.handleResponse_requestMap] at hl
  cases hid : SignalingClient.responseId R json with
  | none =>
    rw [hid] at hl
    exact hl
  | some id =>
    rw [hid] at hl
    simp only [HashMap.lookup_erase_eq_ite] at hl
    split_ifs at hl
    exact hl

theorem waiting_reconnected (sc : SignalingClient Callback) (id : ℤ) :
    waiting (some (sc.disconnect.connect id)) ⊆ waiting (some sc) := by
  rintro callback ⟨s, k, r, hs, hl, hr⟩
  cases hs
  exact ⟨sc, k, r, rfl, hl, hr⟩

theorem waiting_cleared (sc : SignalingClient Callback) :
    waiting (some sc.clearRequests) = ∅ := by
  rw [Set.eq_empty_iff_forall_notMem]
  rintro callback ⟨s, k, r, hs, hl, -⟩
  cases hs
  simp [SignalingClient.clearRequests] at hl

/-- A response resolves at most one request, and one that waits. -/
theorem handleResponse_calls (R : Rapidjson) (json : String) (sc : SignalingClient Callback) :
    (sc.handleResponse R json).2 = [] ∨
      ∃ callback ∈ waiting (some sc), (sc.handleResponse R json).2 = [.resolved callback json] := by
  unfold SignalingClient.handleResponse
  cases hid : SignalingClient.responseId R json with
  | none => exact Or.inl rfl
  | some id =>
    simp only [SignalingClient.takeRequest]
    cases hl : sc.requestMap.lookup id with
    | none => exact Or.inl rfl
    | some r =>
      simp only [WebsocketRequest.resolveWith]
      cases hr : r.resolve with
      | none => exact Or.inl rfl
      | some callback =>
        exact Or.inr ⟨callback, ⟨sc, id, r, rfl, hl, Or.inl hr⟩, rfl⟩

/-- Nothing but the signaling client changes, and it may wait for one more callback. -/
def Requests (callback : Callback) (c c' : RoomClient) : Prop :=
  ∃ sc, c' = { c with signalingClient := sc } ∧
    waiting sc ⊆ waiting c.signalingClient ∪ {callback}

theorem Requests.refl (callback : Callback) (c : RoomClient) : Requests callback c c :=
  ⟨c.signalingClient, rfl, Set.subset_union_left⟩

theorem request_ok {r : ApiRequest} {callback : Callback}
    (h : c.request J o r callback = .ok c') : Requests callback c c' := by
  simp only [request, bind_ok, pure, Except.pure, Except.ok.injEq] at h
  obtain ⟨p, hp, rfl⟩ := h
  exact ⟨p.1, rfl, api_send_waiting hp⟩

theorem getRouterRtpCapabilities_ok (h : c.getRouterRtpCapabilities J o = .ok c') :
    Requests .getRouterRtpCapabilities c c' := by
  unfold getRouterRtpCapabilities at h
  split_ifs at h
  · cases h
    exact Requests.refl _ c
  · exact request_ok h

theorem requestCreateTransport_ok {forceTcp producing consuming : Bool}
    (h : c.requestCreateTransport J forceTcp producing consuming o = .ok c') :
    Requests (.createWebRtcTransport producing consuming) c c' := by
  unfold requestCreateTransport at h
  split_ifs at h
  · cases h
    exact Requests.refl _ c
  · simp only [bind_ok] at h
    obtain ⟨device, -, h⟩ := h
    split at h
    · cases h
      exact Requests.refl _ c
    · exact request_ok h
  · exact request_ok h

theorem joinWith_ok {rtp : Option JoinRequest.RTPCapabilities.Val}
    (h : c.joinWith J rtp o = .ok c') : Requests .join c c' := by
  unfold joinWith at h
  split_ifs at h
  · simp only [bind_ok] at h
    obtain ⟨device, -, h⟩ := h
    split at h
    · cases h
      exact Requests.refl _ c
    · exact request_ok h
  · exact request_ok h

theorem joinImpl_ok (h : c.joinImpl J o = .ok c') : Requests .join c c' := by
  unfold joinImpl at h
  split_ifs at h
  · cases h
    exact Requests.refl _ c
  · simp only [bind_ok] at h
    obtain ⟨device, -, h⟩ := h
    split at h
    · cases h
      exact Requests.refl _ c
    · exact joinWith_ok h
  · exact joinWith_ok h

/-- A listener call may add the callback of its own request. -/
theorem listen_requests {l : ListenerCall} (h : c.listen J l o = .ok c') :
    ∃ callback, Requests callback c c' ∧
      (callback = .connectWebRtcTransport ∨ callback = .produce ∨ callback = .produceData) := by
  unfold listen at h
  split_ifs at h
  · cases h
    exact ⟨.produce, Requests.refl _ c, by simp⟩
  · cases l with
    | onConnect transportId dtlsParameters =>
      refine ⟨.connectWebRtcTransport, ?_, by simp⟩
      simp only at h
      split at h
      · cases h
        exact Requests.refl _ c
      · exact request_ok h
    | onProduce transportId kind rtpParameters trackName =>
      refine ⟨.produce, ?_, by simp⟩
      simp only at h
      split at h
      · cases h
        exact Requests.refl _ c
      · exact request_ok h
    | onProduceData transportId sctpStreamParameters label protocol =>
      refine ⟨.produceData, ?_, by simp⟩
      simp only at h
      split at h
      · cases h
        exact Requests.refl _ c
      · exact request_ok h

theorem listen_ok {l : ListenerCall} (h : c.listen J l o = .ok c') :
    ∃ callback, Requests callback c c' ∧
      ∀ producing consuming, callback ≠ .createWebRtcTransport producing consuming := by
  obtain ⟨callback, hr, rfl | rfl | rfl⟩ := listen_requests h
  · exact ⟨_, hr, nofun⟩
  · exact ⟨_, hr, nofun⟩
  · exact ⟨_, hr, nofun⟩

/-- The media controller, its observer and the signaling client change; the observer stays
there, and at most callbacks that only log are added. -/
def UsesMedia (c c' : RoomClient) : Prop :=
  ∃ mc pc sc, c' = { c with
      mediaController := some mc, participantController := pc, signalingClient := sc } ∧
    pc.isSome = c.participantController.isSome ∧
    waiting sc ⊆ waiting c.signalingClient ∪ {.ignored}

theorem withMedia_ok {op : Media → Except Fault Media} {mc : MediaController}
    (hop : ∀ m m', op m = .ok m' → Media.Keeps m m')
    (h : c.withMedia J o op mc = .ok c') : UsesMedia c c' := by
  simp only [withMedia, bind_ok, pure, Except.pure, Except.ok.injEq] at h
  obtain ⟨m, hm, sc, hsc, rfl⟩ := h
  exact ⟨m.controller, m.observer, sc, rfl, (hop _ m hm).observer, sendOutgoing_waiting hsc⟩

/-- A call that derefs the media controller and then uses it. -/
theorem deref_withMedia_ok {op : Media → Except Fault Media}
    (hop : ∀ m m', op m = .ok m' → Media.Keeps m m')
    (h : (deref Pointer.mediaController c.mediaController >>= fun mc =>
      c.withMedia J o op mc) = .ok c') :
    UsesMedia c c' ∧ c.mediaController.isSome := by
  cases hm : c.mediaController with
  | none =>
    rw [hm] at h
    cases h
  | some mc =>
    rw [hm] at h
    exact ⟨withMedia_ok hop h, rfl⟩

theorem runMedia_ok {op : Media → Except Fault Media} {seq : ℕ}
    (hop : ∀ m m', op m = .ok m' → Media.Keeps m m')
    (h : c.runMedia J seq op o = .ok c') :
    (c.mediaController = none ∧ c' = c) ∨
      ∃ d, c.mediaController.isSome ∧ UsesMedia c d ∧ c' = d.apply seq := by
  unfold runMedia at h
  cases hm : c.mediaController with
  | none =>
    rw [hm] at h
    cases h
    exact Or.inl ⟨rfl, rfl⟩
  | some mc =>
    rw [hm] at h
    simp only [bind_ok, pure, Except.pure, Except.ok.injEq] at h
    obtain ⟨d, hd, rfl⟩ := h
    exact Or.inr ⟨d, rfl, withMedia_ok hop hd, rfl⟩

/-- The client without its components. -/
def tornDown (c : RoomClient) : RoomClient :=
  { c with
    participantController := none, mediasoupDevice := none
    recvTransport := none, sendTransport := none, mediaController := none }

theorem destroyComponents_ok (h : c.destroyComponents = .ok c') : c' = c.tornDown := by
  unfold destroyComponents at h
  cases hm : c.mediaController with
  | none =>
    rw [hm] at h
    cases h
    rw [tornDown]
  | some mc =>
    rw [hm] at h
    simp only [bind_ok, pure, Except.pure, Except.ok.injEq] at h
    obtain ⟨mc', -, rfl⟩ := h
    rfl

theorem onRoomStateChanged_closed (h : c.onRoomStateChanged .closed = .ok c') :
    c' = { c.tornDown with notified := c.notified ++ [.closed] } := by
  simp only [onRoomStateChanged, bind_ok, pure, Except.pure, Except.ok.injEq] at h
  obtain ⟨d, hd, rfl⟩ := h
  rw [destroyComponents_ok hd]
  rfl

theorem onRoomStateChanged_open {state : RoomState} (hs : state ≠ .closed)
    (h : c.onRoomStateChanged state = .ok c') :
    c' = { c with notified := c.notified ++ [state] } := by
  cases state with
  | closed => exact absurd rfl hs
  | connecting =>
    cases h
    rfl
  | connected =>
    cases h
    rfl

/-- The checks of `join` pass and there is a signaling client. -/
def Accepts (c : RoomClient) (hostname roomId displayName : String) : Prop :=
  c.state = .closed ∧ hostname.isEmpty = false ∧ roomId.isEmpty = false ∧
    displayName.isEmpty = false ∧ c.signalingClient.isSome

instance {hostname roomId displayName : String} :
    Decidable (c.Accepts hostname roomId displayName) := inferInstanceAs (Decidable (_ ∧ _))

theorem join_ok {hostname : String} {port : ℕ} {roomId displayName : String}
    {options : Option Options} (h : c.join hostname port roomId displayName options o = .ok c') :
    (¬ c.Accepts hostname roomId displayName ∧ ∃ hostname port roomId displayName options peerId,
      c' = { c with hostname, port, roomId, displayName, options, peerId }) ∨
    (c.Accepts hostname roomId displayName ∧
      ∃ sc, c.signalingClient = some sc ∧ c' = { c with
        hostname, port := some port, roomId, displayName, options := options.getD {}
        peerId := o.peerId, state := .connecting
        signalingClient := some (sc.disconnect.connect o.connectionId)
        notified := c.notified ++ [.connecting] }) := by
  unfold join at h
  unfold Accepts
  split_ifs at h with hs hh hr hd
  · cases h
    exact Or.inl ⟨fun ha => hs ha.1, _, _, _, _, _, _, rfl⟩
  · cases h
    exact Or.inl ⟨fun ha => by simp [ha.2.1] at hh, _, _, _, _, _, _, rfl⟩
  · cases h
    exact Or.inl ⟨fun ha => by simp [ha.2.2.1] at hr, _, _, _, _, _, _, rfl⟩
  · cases h
    exact Or.inl ⟨fun ha => by simp [ha.2.2.2.1] at hd, _, _, _, _, _, _, rfl⟩
  · simp only at h
    cases hsc : c.signalingClient with
    | none =>
      rw [hsc] at h
      cases h
      exact Or.inl ⟨fun ha => by simp at ha, _, _, _, _, _, _, rfl⟩
    | some sc =>
      rw [hsc] at h
      have hc := onRoomStateChanged_open (by decide) h
      refine Or.inr ⟨⟨not_not.mp hs, by simpa using hh, by simpa using hr, by simpa using hd,
        rfl⟩, sc, rfl, ?_⟩
      rw [hc]

theorem leave_ok (h : c.leave = .ok c') :
    ((c.state = .closed ∨ c.signalingClient = none) ∧ c' = { c with roomId := "" }) ∨
    (c.state ≠ .closed ∧ ∃ sc, c.signalingClient = some sc ∧ c' = { c.tornDown with
      roomId := "", signalingClient := some sc.disconnect, state := .closed
      notified := c.notified ++ [.closed] }) := by
  unfold leave at h
  simp only at h
  split_ifs at h with hs
  · cases h
    exact Or.inl ⟨Or.inl hs, rfl⟩
  · cases hsc : c.signalingClient with
    | none =>
      rw [hsc] at h
      cases h
      exact Or.inl ⟨Or.inr rfl, rfl⟩
    | some sc =>
      rw [hsc] at h
      have hc := onRoomStateChanged_closed h
      exact Or.inr ⟨hs, sc, rfl, hc⟩

theorem destroy_ok (h : c.destroy = .ok c') :
    c' = { c.tornDown with hasApi := false, signalingClient := none } :=
  destroyComponents_ok h

theorem onLoadMediasoupDevice_ok {response : Response GetRouterRtpCapabilitiesResponse.Data.Val}
    (h : c.onLoadMediasoupDevice J response o = .ok c') :
    c.mediaController.isSome ∧ ∃ device mc sc, c' = { c with
      mediasoupDevice := some device, created := c.created ++ [.device]
      mediaController := some mc, signalingClient := sc } := by
  simp only [onLoadMediasoupDevice, bind_ok] at h
  obtain ⟨data, -, device, -, mc, hmc, h⟩ := h
  have hsome : c.mediaController.isSome := by
    cases hm : c.mediaController with
    | none =>
      rw [hm] at hmc
      cases hmc
    | some mc => rfl
  refine ⟨hsome, device, { mc with mediasoupDevice := some device }, ?_⟩
  split_ifs at h
  · obtain ⟨sc, hc, -⟩ := requestCreateTransport_ok h
    exact ⟨sc, hc⟩
  · obtain ⟨sc, hc, -⟩ := requestCreateTransport_ok h
    exact ⟨sc, hc⟩
  · obtain ⟨sc, hc, -⟩ := joinImpl_ok h
    exact ⟨sc, hc⟩

/-- Without a device nothing happens; with one, a transport may be created. -/
theorem createTransportImpl_ok {producing consuming : Bool}
    {response : Response CreateWebRtcTransportResponse.Data}
    (h : c.createTransportImpl producing consuming response o = .ok c') :
    c' = c ∨ (c.mediasoupDevice.isSome ∧ c.mediaController.isSome ∧
      ∃ mc send recv component, c' = { c with
        sendTransport := send, recvTransport := recv, mediaController := some mc
        created := c.created ++ [component] }) := by
  have hderef : ∀ {α : Type} {p : Pointer} {x : Option α} {a : α},
      deref p x = (.ok a : Except Fault α) → x.isSome := by
    intro α p x a hx
    cases x with
    | none => cases hx
    | some b => rfl
  unfold createTransportImpl at h
  split_ifs at h with hdev hp hq
  · cases h
    exact Or.inl rfl
  · simp only [bind_ok, pure, Except.pure, Except.ok.injEq] at h
    obtain ⟨data, -, ice, -, candidates, -, dtls, -, sctp, -, device, hdevice, u, -, mc, hmc,
      rfl⟩ := h
    exact Or.inr ⟨hderef hdevice, hderef hmc, _, _, _, _, rfl⟩
  · simp only [bind_ok, pure, Except.pure, Except.ok.injEq] at h
    obtain ⟨data, -, ice, -, candidates, -, dtls, -, sctp, -, device, hdevice, u, -, mc, hmc,
      rfl⟩ := h
    exact Or.inr ⟨hderef hdevice, hderef hmc, _, _, _, _, rfl⟩
  · simp only [bind_ok, pure, Except.pure, Except.ok.injEq] at h
    obtain ⟨data, -, ice, -, candidates, -, dtls, -, sctp, -, rfl⟩ := h
    exact Or.inl rfl

theorem onCreateSendTransport_ok {response : Response CreateWebRtcTransportResponse.Data}
    (h : c.onCreateSendTransport J response o = .ok c') :
    ∃ d callback, c.createTransportImpl true false response o = .ok d ∧
      Requests callback d c' := by
  simp only [onCreateSendTransport, bind_ok] at h
  obtain ⟨d, hd, h⟩ := h
  split_ifs at h
  · exact ⟨d, _, hd, requestCreateTransport_ok h⟩
  · exact ⟨d, _, hd, joinImpl_ok h⟩

theorem onCreateRecvTransport_ok {response : Response CreateWebRtcTransportResponse.Data}
    (h : c.onCreateRecvTransport J response o = .ok c') :
    ∃ d callback, c.createTransportImpl false true response o = .ok d ∧
      Requests callback d c' := by
  simp only [onCreateRecvTransport, bind_ok] at h
  obtain ⟨d, hd, h⟩ := h
  exact ⟨d, _, hd, joinImpl_ok h⟩

theorem onJoined_ok {state : RoomState} {response : Response JoinResponse.Data}
    (h : c.onJoined state response = .ok c') :
    ∃ d pc, c.onRoomStateChanged state = .ok d ∧
      c' = { d with participantController := pc } ∧
      pc.isSome = d.participantController.isSome := by
  simp only [onJoined, bind_ok] at h
  obtain ⟨d, hd, h⟩ := h
  cases hpc : d.participantController with
  | none =>
    rw [hpc] at h
    cases h
    exact ⟨c', none, hd, by rw [← hpc], by rw [hpc]⟩
  | some pc =>
    rw [hpc] at h
    simp only [bind_ok, pure, Except.pure, Except.ok.injEq] at h
    obtain ⟨data, -, rfl⟩ := h
    exact ⟨d, _, hd, rfl, by rw [hpc]; rfl⟩

theorem onSuccess_cases {D : Type} (decode : String → Except JsonError D) (json : String) :
    MediasoupApi.onSuccess decode json = [] ∨
      ∃ d, json.isEmpty = false ∧ decode json = .ok d ∧
        MediasoupApi.onSuccess decode json = [⟨0, "", some d⟩] := by
  unfold MediasoupApi.onSuccess
  split_ifs with hjson
  · exact Or.inl rfl
  · cases hd : decode json with
    | error e => exact Or.inl rfl
    | ok d => exact Or.inr ⟨d, by simpa using hjson, rfl, rfl⟩

/-- A failure never passes the guards of a callback. -/
theorem accepted_failure {D : Type} (errorCode : ℤ) (errorInfo : String) :
    accepted (⟨errorCode, errorInfo, none⟩ : MediasoupApi.Reply (Response D)) = none := by
  unfold accepted
  split_ifs
  · rfl
  · rfl

/-- A rejected request changes nothing. -/
theorem invoke_rejected (seq : ℕ) (callback : Callback) (errorCode : ℤ) (errorInfo : String)
    (c : RoomClient) : invoke J seq (.rejected callback errorCode errorInfo) c = .ok c := by
  have hproduce : MediasoupApi.onProduceReply true ⟨errorCode, errorInfo, none⟩ = .ok "" := by
    unfold MediasoupApi.onProduceReply
    split_ifs
    · rfl
    · rfl
    · rfl
  cases callback with
  | getRouterRtpCapabilities =>
    simp [invoke, MediasoupApi.replies, MediasoupApi.onFailure, onRouterRtpCapabilitiesReply,
      accepted_failure]
  | createWebRtcTransport producing consuming =>
    simp [invoke, MediasoupApi.replies, MediasoupApi.onFailure, onCreateWebRtcTransportReply,
      accepted_failure]
  | join =>
    simp [invoke, MediasoupApi.replies, MediasoupApi.onFailure, onJoinReply, accepted_failure]
  | connectWebRtcTransport => rfl
  | produce =>
    simp only [invoke, MediasoupApi.replies, MediasoupApi.onFailure, List.forM, hproduce]
    rfl
  | produceData =>
    simp only [invoke, MediasoupApi.replies, MediasoupApi.onFailure, List.forM, hproduce]
    rfl
  | ignored => rfl

theorem invoke_ok {seq : ℕ} {call : Invocation Callback} (h : invoke J seq call c = .ok c') :
    c' = c ∨
    (∃ json r, call = .resolved .getRouterRtpCapabilities json ∧
      c' = c.postMediasoup (.loadMediasoupDevice seq r)) ∨
    (∃ producing consuming json r, call = .resolved (.createWebRtcTransport producing consuming)
      json ∧ c' = c.postMediasoup (.createTransport seq producing consuming r)) ∨
    (∃ json r, call = .resolved .join json ∧ json.isEmpty = false ∧
      decodeJoinResponse J.rapidjson json = .ok r ∧ c' = c.onJoinReply seq ⟨0, "", some r⟩) := by
  have hforM : ∀ {D : Type} (f : D → Except Fault Unit) (l : List D),
      (do l.forM f; return c) = (.ok c' : Except Fault RoomClient) → c' = c := by
    intro D f l hl
    simp only [bind_ok, pure, Except.pure, Except.ok.injEq] at hl
    obtain ⟨u, -, hc⟩ := hl
    exact hc.symm
  cases call with
  | rejected callback errorCode errorInfo =>
    rw [invoke_rejected] at h
    cases h
    exact Or.inl rfl
  | resolved callback json =>
    cases callback with
    | getRouterRtpCapabilities =>
      cases h
      rcases onSuccess_cases (decodeGetRouterRtpCapabilitiesResponse J.rapidjson) json
        with hs | ⟨r, -, -, hs⟩
      · left
        simp [MediasoupApi.replies, hs]
      · simp only [MediasoupApi.replies, hs, List.foldl_cons, List.foldl_nil,
          onRouterRtpCapabilitiesReply]
        cases accepted (⟨0, "", some r⟩ : MediasoupApi.Reply _) with
        | none => exact Or.inl rfl
        | some r => exact Or.inr (Or.inl ⟨json, r, rfl, rfl⟩)
    | createWebRtcTransport producing consuming =>
      cases h
      rcases onSuccess_cases (decodeCreateWebRtcTransportResponse J.rapidjson) json
        with hs | ⟨r, -, -, hs⟩
      · left
        simp [MediasoupApi.replies, hs]
      · simp only [MediasoupApi.replies, hs, List.foldl_cons, List.foldl_nil,
          onCreateWebRtcTransportReply]
        cases accepted (⟨0, "", some r⟩ : MediasoupApi.Reply _) with
        | none => exact Or.inl rfl
        | some r => exact Or.inr (Or.inr (Or.inl ⟨producing, consuming, json, r, rfl, rfl⟩))
    | join =>
      cases h
      rcases onSuccess_cases (decodeJoinResponse J.rapidjson) json
        with hs | ⟨r, hjson, hr, hs⟩
      · left
        simp [MediasoupApi.replies, hs]
      · right; right; right
        simp only [MediasoupApi.replies, hs, List.foldl_cons, List.foldl_nil]
        exact ⟨json, r, rfl, hjson, hr, rfl⟩
    | connectWebRtcTransport => exact Or.inl (hforM _ _ h)
    | produce => exact Or.inl (hforM _ _ h)
    | produceData => exact Or.inl (hforM _ _ h)
    | ignored =>
      cases h
      exact Or.inl rfl

/-- A message changed the participants or the volume, at once. -/
def Touches (seq : ℕ) (c c' : RoomClient) : Prop :=
  ∃ pc volume effects, c' = { c with
      participantController := pc, volume, applied := c.applied ++ effects } ∧
    pc.isSome = c.participantController.isSome ∧ ∀ n ∈ effects, n = seq

theorem Touches.refl (seq : ℕ) (c : RoomClient) : Touches seq c c :=
  ⟨c.participantController, c.volume, [], by simp, rfl, nofun⟩

theorem Touches.trans {seq : ℕ} {c₁ c₂ c₃ : RoomClient} (h₁ : Touches seq c₁ c₂)
    (h₂ : Touches seq c₂ c₃) : Touches seq c₁ c₃ := by
  obtain ⟨pc₁, v₁, e₁, rfl, hpc₁, he₁⟩ := h₁
  obtain ⟨pc₂, v₂, e₂, rfl, hpc₂, he₂⟩ := h₂
  refine ⟨pc₂, v₂, e₁ ++ e₂, by simp, hpc₂.trans hpc₁, ?_⟩
  intro n hn
  rcases List.mem_append.mp hn with hn | hn
  · exact he₁ n hn
  · exact he₂ n hn

/-- The tasks that the media controller posts for a message. -/
def IsMedia (seq : ℕ) : MediasoupTask → Prop
  | .newConsumer n _ => n = seq
  | .newDataConsumer n _ => n = seq
  | .updateConsumer n _ _ => n = seq
  | .consumerClosed n _ => n = seq
  | _ => False

theorem isMedia_seq {seq : ℕ} {t : MediasoupTask} (ht : IsMedia seq t) : t.seq? = some seq := by
  cases t with
  | newConsumer n request => exact congrArg some ht
  | newDataConsumer n request => exact congrArg some ht
  | updateConsumer n tid paused => exact congrArg some ht
  | consumerClosed n notification => exact congrArg some ht
  | getRouterRtpCapabilities => exact absurd ht id
  | closed => exact absurd ht id
  | loadMediasoupDevice n response => exact absurd ht id
  | createTransport n producing consuming response => exact absurd ht id
  | joined n state response => exact absurd ht id

theorem notifyParticipants_ok {seq : ℕ}
    {handler : ParticipantController → Except Fault ParticipantController}
    (h : c.notifyParticipants seq handler = .ok c') : Touches seq c c' := by
  unfold notifyParticipants at h
  cases hpc : c.participantController with
  | none =>
    rw [hpc] at h
    cases h
    exact Touches.refl seq c
  | some pc =>
    rw [hpc] at h
    simp only [bind_ok, pure, Except.pure, Except.ok.injEq] at h
    obtain ⟨pc', -, rfl⟩ := h
    exact ⟨some pc', c.volume, [seq], rfl, by rw [hpc]; rfl, by simp⟩

theorem onActiveSpeaker_ok {seq : ℕ} {n : Notification ActiveSpeakerNotification.Data}
    (h : c.onActiveSpeaker seq n = .ok c') : Touches seq c c' := by
  simp only [onActiveSpeaker, bind_ok] at h
  obtain ⟨data, -, h⟩ := h
  split_ifs at h
  · cases h
    exact Touches.refl seq c
  · cases h
    exact ⟨c.participantController, _, [seq], rfl, rfl, by simp⟩

/-- What a notification or a request of the SFU does on the transport thread. -/
def Dispatches (seq : ℕ) (c c' : RoomClient) : Prop :=
  Touches seq c c' ∨ ∃ t, IsMedia seq t ∧ c' = c.postMediasoup t

theorem onConsumerPaused_ok {seq : ℕ} {paused : Bool}
    {n : Notification ConsumerNotification.Data}
    (h : c.onConsumerPaused seq paused n = .ok c') : Dispatches seq c c' := by
  unfold onConsumerPaused at h
  split_ifs at h
  · cases h
    exact Or.inl (Touches.refl seq c)
  · simp only [bind_ok] at h
    obtain ⟨data, -, h⟩ := h
    split_ifs at h
    · cases h
      exact Or.inl (Touches.refl seq c)
    · cases h
      exact Or.inr ⟨.updateConsumer seq _ paused, rfl, rfl⟩

theorem decoded_ok {seq : ℕ} {α : Type} {value : Except JsonError α}
    {handler : α → Except Fault RoomClient}
    (hh : ∀ a, handler a = .ok c' → Dispatches seq c c')
    (h : c.decoded value handler = .ok c') : Dispatches seq c c' := by
  unfold decoded at h
  split at h
  · cases h
    exact Or.inl (Touches.refl seq c)
  · exact hh _ h

theorem handleNotification_ok {seq : ℕ} {json : String}
    (h : c.handleNotification J seq json = .ok c') : Dispatches seq c c' := by
  unfold handleNotification at h
  simp only at h
  split at h
  · cases h
    exact Or.inl (Touches.refl seq c)
  · exact decoded_ok (fun n hn => Or.inl (notifyParticipants_ok hn)) h
  · exact decoded_ok (fun n hn => Or.inl (notifyParticipants_ok hn)) h
  · exact decoded_ok (fun n hn => Or.inl (notifyParticipants_ok hn)) h
  · refine decoded_ok (fun n hn => ?_) h
    split_ifs at hn
    · cases hn
      exact Or.inl (Touches.refl seq c)
    · cases hn
      exact Or.inr ⟨.consumerClosed seq n, rfl, rfl⟩
  · exact decoded_ok (fun n hn => onConsumerPaused_ok hn) h
  · exact decoded_ok (fun n hn => onConsumerPaused_ok hn) h
  · refine decoded_ok (fun n hn => ?_) h
    simp only [bind_ok] at hn
    obtain ⟨d, hd, hn⟩ := hn
    exact Or.inl ((onActiveSpeaker_ok hd).trans (notifyParticipants_ok hn))

theorem handleRequest_ok {seq : ℕ} {json : String}
    (h : c.handleRequest J seq json = .ok c') : Dispatches seq c c' := by
  unfold handleRequest at h
  split_ifs at h
  · cases h
    exact Or.inl (Touches.refl seq c)
  · split at h
    · cases h
      exact Or.inl (Touches.refl seq c)
    · refine decoded_ok (fun r hr => ?_) h
      cases hr
      exact Or.inr ⟨.newConsumer seq r, rfl, rfl⟩
    · refine decoded_ok (fun r hr => ?_) h
      cases hr
      exact Or.inr ⟨.newDataConsumer seq r, rfl, rfl⟩

/-- The message is a notification that the room client or the participants handle at once. -/
def HandledAtOnce (J : JsonText) (c : RoomClient) (json : String) : Prop :=
  SignalingClient.messageKind J.rapidjson json = some .notification ∧
    match notificationMethod J json with
    | some .newPeer => c.participantController.isSome
    | some .peerClosed => c.participantController.isSome
    | some .peerDisplayNameChanged => c.participantController.isSome
    | some .activeSpeaker => True
    | _ => False

theorem decoded_applied {α : Type} {value : Except JsonError α}
    {handler : α → Except Fault RoomClient} {P : Prop}
    (hh : ∀ a, handler a = .ok c' → c'.applied = c.applied ∨ P)
    (h : c.decoded value handler = .ok c') : c'.applied = c.applied ∨ P := by
  unfold decoded at h
  split at h
  · cases h
    exact Or.inl rfl
  · exact hh _ h

theorem notifyParticipants_applied {seq : ℕ}
    {handler : ParticipantController → Except Fault ParticipantController}
    (h : c.notifyParticipants seq handler = .ok c') :
    c'.applied = c.applied ∨ c.participantController.isSome := by
  cases hpc : c.participantController with
  | none =>
    simp only [notifyParticipants, hpc] at h
    cases h
    exact Or.inl rfl
  | some pc => exact Or.inr rfl

theorem onConsumerPaused_applied {seq : ℕ} {paused : Bool}
    {n : Notification ConsumerNotification.Data} (h : c.onConsumerPaused seq paused n = .ok c') :
    c'.applied = c.applied := by
  unfold onConsumerPaused at h
  split_ifs at h
  · cases h
    rfl
  · simp only [bind_ok] at h
    obtain ⟨data, -, h⟩ := h
    split_ifs at h
    · cases h
      rfl
    · cases h
      rfl

theorem handleRequest_applied {seq : ℕ} {json : String}
    (h : c.handleRequest J seq json = .ok c') : c'.applied = c.applied := by
  have hdecoded : c'.applied = c.applied ∨ False := by
    unfold handleRequest at h
    split_ifs at h
    · cases h
      exact Or.inl rfl
    · split at h
      · cases h
        exact Or.inl rfl
      · refine decoded_applied (fun r hr => ?_) h
        cases hr
        exact Or.inl rfl
      · refine decoded_applied (fun r hr => ?_) h
        cases hr
        exact Or.inl rfl
  exact hdecoded.resolve_right id

theorem handleNotification_applied {seq : ℕ} {json : String}
    (hkind : SignalingClient.messageKind J.rapidjson json = some .notification)
    (h : c.handleNotification J seq json = .ok c') :
    c'.applied = c.applied ∨ HandledAtOnce J c json := by
  unfold HandledAtOnce
  simp only [hkind, true_and]
  simp only [handleNotification] at h
  cases hmethod : notificationMethod J json with
  | none =>
    rw [hmethod] at h
    cases h
    exact Or.inl rfl
  | some method =>
    rw [hmethod] at h
    cases method with
    | newPeer => exact decoded_applied (fun n hn => notifyParticipants_applied hn) h
    | peerClosed => exact decoded_applied (fun n hn => notifyParticipants_applied hn) h
    | peerDisplayNameChanged => exact decoded_applied (fun n hn => notifyParticipants_applied hn) h
    | consumerClosed =>
      refine decoded_applied (fun n hn => ?_) h
      split_ifs at hn
      · cases hn
        exact Or.inl rfl
      · cases hn
        exact Or.inl rfl
    | consumerPaused => exact decoded_applied (fun n hn => Or.inl (onConsumerPaused_applied hn)) h
    | consumerResumed => exact decoded_applied (fun n hn => Or.inl (onConsumerPaused_applied hn)) h
    | activeSpeaker => exact Or.inr trivial

theorem onMessage_applied {seq : ℕ} {json : String} (h : c.onMessage J seq json = .ok c') :
    c'.applied = c.applied ∨ HandledAtOnce J c json := by
  unfold onMessage at h
  cases hkind : SignalingClient.messageKind J.rapidjson json with
  | none =>
    rw [hkind] at h
    cases h
    exact Or.inl rfl
  | some kind =>
    rw [hkind] at h
    cases kind with
    | notification => exact handleNotification_applied hkind h
    | response =>
      cases h
      exact Or.inl rfl
    | request => exact Or.inl (handleRequest_applied h)

theorem onMessage_ok {seq : ℕ} {json : String}
    (hkind : SignalingClient.messageKind J.rapidjson json ≠ some .response)
    (h : c.onMessage J seq json = .ok c') : Dispatches seq c c' := by
  unfold onMessage at h
  split at h
  · cases h
    exact Or.inl (Touches.refl seq c)
  · exact handleNotification_ok h
  · rename_i hr
    exact absurd hr hkind
  · exact handleRequest_ok h

/-- The callbacks rejected by a closed connection change nothing. -/
theorem foldlM_rejected (requests : List (WebsocketRequest Callback)) (c : RoomClient) :
    (requests.flatMap WebsocketRequest.close).foldlM (fun c call => invoke J 0 call c) c =
      .ok c := by
  induction requests with
  | nil => rfl
  | cons r rs ih =>
    cases hr : r.reject with
    | none =>
      simp only [List.flatMap_cons, WebsocketRequest.close, hr, Option.toList_none, List.map_nil,
        List.nil_append]
      exact ih
    | some callback =>
      simp only [List.flatMap_cons, WebsocketRequest.close, hr, Option.toList_some, List.map_cons,
        List.map_nil, List.cons_append, List.nil_append, List.foldlM_cons, invoke_rejected]
      exact ih

/-- `handleResponse` invokes at most one callback, of a request that waits. -/
theorem handleResponse_ok {seq : ℕ} {json : String} {sc : SignalingClient Callback}
    (h : c.handleResponse J seq json sc = .ok c') :
    ∃ sc', waiting (some sc') ⊆ waiting (some sc) ∧
      ((sc.handleResponse J.rapidjson json).2 = [] ∧ c' = { c with signalingClient := some sc' } ∨
        ∃ callback ∈ waiting (some sc),
          (sc.handleResponse J.rapidjson json).2 = [.resolved callback json] ∧
          invoke J seq (.resolved callback json)
            ({ c with signalingClient := some sc' }.apply seq) = .ok c') := by
  unfold handleResponse at h
  simp only at h
  refine ⟨(sc.handleResponse J.rapidjson json).1, handleResponse_waiting _ _ _, ?_⟩
  rcases handleResponse_calls J.rapidjson json sc with hcalls | ⟨callback, hwait, hcalls⟩
  · rw [hcalls] at h
    cases h
    exact Or.inl ⟨hcalls, rfl⟩
  · rw [hcalls] at h
    simp only [List.foldlM_cons, List.foldlM_nil, bind_ok, pure, Except.pure,
      Except.ok.injEq, exists_eq_right] at h
    exact Or.inr ⟨callback, hwait, hcalls, h⟩

/-- What a task of the transport thread can do. -/
inductive TransportChange (J : JsonText) (c : RoomClient) : TransportTask → RoomClient → Prop where
  | gone {t} (hsc : c.signalingClient = none) : TransportChange J c t c
  | opened : TransportChange J c .onOpened (c.postMediasoup .getRouterRtpCapabilities)
  | failed : TransportChange J c .onFailed (c.postMediasoup .closed)
  | closed {sc} (hsc : c.signalingClient = some sc) : TransportChange J c .onClosed
      ({ c with signalingClient := some sc.clearRequests }.postMediasoup .closed)
  | dispatched {seq json c'} (hkind : SignalingClient.messageKind J.rapidjson json ≠ some .response)
      (hd : Dispatches seq c c') (he : c'.applied = c.applied ∨ HandledAtOnce J c json) :
      TransportChange J c (.onMessage seq json) c'
  | reposted {seq json} (hkind : SignalingClient.messageKind J.rapidjson json = some .response) :
      TransportChange J c (.onMessage seq json) (c.postTransport (.handleResponse seq json))
  | unanswered {seq json sc sc'} (hsc : c.signalingClient = some sc)
      (hw : waiting (some sc') ⊆ waiting (some sc)) :
      TransportChange J c (.handleResponse seq json) { c with signalingClient := some sc' }
  | answered {seq json sc sc' callback c'} (hsc : c.signalingClient = some sc)
      (hw : waiting (some sc') ⊆ waiting (some sc)) (hcallback : callback ∈ waiting (some sc))
      (hcall : (sc.handleResponse J.rapidjson json).2 = [.resolved callback json])
      (hi : invoke J seq (.resolved callback json)
        ({ c with signalingClient := some sc' }.apply seq) = .ok c') :
      TransportChange J c (.handleResponse seq json) c'

theorem runTransport_ok {t : TransportTask} (h : c.runTransport J t = .ok c') :
    TransportChange J c t c' := by
  unfold runTransport at h
  cases hsc : c.signalingClient with
  | none =>
    rw [hsc] at h
    cases h
    exact .gone hsc
  | some sc =>
    rw [hsc] at h
    cases t with
    | onOpened =>
      cases h
      exact .opened
    | onFailed =>
      cases h
      exact .failed
    | onClosed =>
      simp only [SignalingClient.onClosed, foldlM_rejected] at h
      cases h
      exact .closed hsc
    | onMessage seq json =>
      by_cases hkind : SignalingClient.messageKind J.rapidjson json = some .response
      · simp only [onMessage, hkind, Except.ok.injEq] at h
        subst h
        exact .reposted hkind
      · exact .dispatched hkind (onMessage_ok hkind h) (onMessage_applied h)
    | handleResponse seq json =>
      obtain ⟨sc', hw, ⟨-, hc⟩ | ⟨callback, hcallback, hcall, hi⟩⟩ := handleResponse_ok h
      · rw [hc]
        exact .unanswered hsc hw
      · exact .answered hsc hw hcallback hcall hi

/-- A task of the transport thread reports nothing and leaves the options and the components. -/
theorem TransportChange.same {t : TransportTask} (hc : TransportChange J c t c') :
    c'.notified = c.notified ∧ c'.options = c.options ∧ c'.created = c.created ∧
      c'.mediaController = c.mediaController ∧ c'.mediasoupDevice = c.mediasoupDevice := by
  have hsame : c.notified = c.notified ∧ c.options = c.options ∧ c.created = c.created ∧
      c.mediaController = c.mediaController ∧ c.mediasoupDevice = c.mediasoupDevice := by simp
  cases hc with
  | gone hsc => exact hsame
  | opened => exact hsame
  | failed => exact hsame
  | closed hsc => exact hsame
  | dispatched hkind hd he =>
    rcases hd with ⟨pc, volume, effects, rfl, -⟩ | ⟨t, -, rfl⟩
    · exact hsame
    · exact hsame
  | reposted hkind => exact hsame
  | unanswered hsc hw => exact hsame
  | answered hsc hw hcallback hcall hi =>
    rcases invoke_ok hi with rfl | ⟨_, _, -, rfl⟩ | ⟨_, _, _, _, -, rfl⟩ | ⟨_, r, -, -, -, rfl⟩
    · exact hsame
    · exact hsame
    · exact hsame
    · unfold onJoinReply
      cases accepted (⟨0, "", some r⟩ : MediasoupApi.Reply _) with
      | none => exact hsame
      | some reply => exact hsame

/-- A transport was created, which takes a device and a media controller. -/
def CreatesTransport (c c' : RoomClient) : Prop :=
  c.mediasoupDevice.isSome ∧ c.mediaController.isSome ∧
    ∃ mc send recv component, c' = { c with
      sendTransport := send, recvTransport := recv, mediaController := some mc
      created := c.created ++ [component] }

/-- What a task of the mediasoup thread can do. -/
inductive MediasoupChange (c : RoomClient) : MediasoupTask → RoomClient → Prop where
  | requested {c' : RoomClient} (hr : Requests .getRouterRtpCapabilities c c') :
      MediasoupChange c .getRouterRtpCapabilities c'
  | closed : MediasoupChange c .closed
      { c.tornDown with state := .closed, notified := c.notified ++ [.closed] }
  | loaded {seq response device mc sc} (hm : c.mediaController.isSome) :
      MediasoupChange c (.loadMediasoupDevice seq response) { c.apply seq with
        mediasoupDevice := some device, created := c.created ++ [.device]
        mediaController := some mc, signalingClient := sc }
  | skipped {seq response} : MediasoupChange c (.createTransport seq false false response) c
  | transport {seq producing consuming response d callback c'}
      (hd : d = c.apply seq ∨ CreatesTransport (c.apply seq) d) (hr : Requests callback d c') :
      MediasoupChange c (.createTransport seq producing consuming response) c'
  | joined {seq state response d pc} (hd : (c.apply seq).onRoomStateChanged state = .ok d)
      (hpc : pc.isSome = d.participantController.isSome) :
      MediasoupChange c (.joined seq state response) { d with participantController := pc }
  | idle {t seq} (ht : IsMedia seq t) (hm : c.mediaController = none) : MediasoupChange c t c
  | media {t seq d} (ht : IsMedia seq t) (hm : c.mediaController.isSome) (hd : UsesMedia c d) :
      MediasoupChange c t (d.apply seq)

theorem runMedia_change {t : MediasoupTask} {seq : ℕ} {op : Media → Except Fault Media}
    (ht : IsMedia seq t) (hop : ∀ m m', op m = .ok m' → Media.Keeps m m')
    (h : c.runMedia J seq op o = .ok c') : MediasoupChange c t c' := by
  rcases runMedia_ok hop h with ⟨hm, rfl⟩ | ⟨d, hm, hd, rfl⟩
  · exact .idle ht hm
  · exact .media ht hm hd

theorem runMediasoup_ok {t : MediasoupTask} (h : c.runMediasoup J t o = .ok c') :
    MediasoupChange c t c' := by
  cases t with
  | getRouterRtpCapabilities => exact .requested (getRouterRtpCapabilities_ok h)
  | closed =>
    rw [onRoomStateChanged_closed h]
    exact .closed
  | loadMediasoupDevice seq response =>
    obtain ⟨hm, device, mc, sc, rfl⟩ := onLoadMediasoupDevice_ok h
    exact .loaded hm
  | createTransport seq producing consuming response =>
    simp only [runMediasoup] at h
    split_ifs at h with hp hq
    · obtain ⟨d, callback, hd, hr⟩ := onCreateSendTransport_ok h
      exact .transport (createTransportImpl_ok hd) hr
    · obtain ⟨d, callback, hd, hr⟩ := onCreateRecvTransport_ok h
      exact .transport (createTransportImpl_ok hd) hr
    · cases h
      rw [Bool.not_eq_true] at hp hq
      rw [hp, hq]
      exact .skipped
  | joined seq state response =>
    obtain ⟨d, pc, hd, rfl, hpc⟩ := onJoined_ok h
    exact .joined hd hpc
  | newConsumer seq request =>
    exact runMedia_change rfl (fun _ _ => Media.createNewConsumer_keeps) h
  | newDataConsumer seq request =>
    exact runMedia_change rfl (fun _ _ => Media.createNewDataConsumer_keeps) h
  | updateConsumer seq tid paused =>
    exact runMedia_change rfl (fun _ _ => Media.updateConsumer_keeps) h
  | consumerClosed seq notification =>
    exact runMedia_change rfl (fun _ _ => Media.onConsumerClosed_keeps) h

/-- A task of the mediasoup thread leaves the options and the join responses, and changes the
state only to closed. -/
theorem MediasoupChange.same {t : MediasoupTask} (hc : MediasoupChange c t c') :
    c'.options = c.options ∧ c'.joinReplies = c.joinReplies ∧
      (c'.state = c.state ∨ c'.state = .closed) := by
  have hsame : c.options = c.options ∧ c.joinReplies = c.joinReplies ∧
      (c.state = c.state ∨ c.state = .closed) := by simp
  cases hc with
  | requested hr =>
    obtain ⟨sc, rfl, -⟩ := hr
    exact hsame
  | closed => exact ⟨rfl, rfl, Or.inr rfl⟩
  | loaded hm => exact hsame
  | skipped => exact hsame
  | transport hd hr =>
    obtain ⟨sc, rfl, -⟩ := hr
    rcases hd with rfl | ⟨-, -, mc, send, recv, component, rfl⟩
    · exact hsame
    · exact hsame
  | joined hd hpc =>
    rename_i seq state response d pc
    by_cases hs : state = .closed
    · subst hs
      rw [onRoomStateChanged_closed hd]
      exact hsame
    · rw [onRoomStateChanged_open hs hd]
      exact hsame
  | idle ht hm => exact hsame
  | media ht hm hd =>
    obtain ⟨mc, pc, sc, rfl, -⟩ := hd
    exact hsame

/-- The action is a `join` that passes its checks. -/
def StartsSession (c : RoomClient) (a : Action) : Prop :=
  ∃ hostname port roomId displayName options o,
    a = .call (.join hostname port roomId displayName options) o ∧
      c.Accepts hostname roomId displayName

/-- What one step of the system can do. -/
inductive Change (J : JsonText) (c : RoomClient) : Action → RoomClient → Prop where
  | refused {hostname port roomId displayName options o hostname' port' roomId' displayName'
        options' peerId'} (hn : ¬ c.Accepts hostname roomId displayName) :
      Change J c (.call (.join hostname port roomId displayName options) o) { c with
        hostname := hostname', port := port', roomId := roomId', displayName := displayName'
        options := options', peerId := peerId' }
  | accepted {hostname port roomId displayName options o sc}
      (ha : c.Accepts hostname roomId displayName) (hsc : c.signalingClient = some sc) :
      Change J c (.call (.join hostname port roomId displayName options) o) { c with
        hostname, port := some port, roomId, displayName, options := options.getD {}
        peerId := o.peerId, state := .connecting
        signalingClient := some (sc.disconnect.connect o.connectionId)
        notified := c.notified ++ [.connecting] }
  | stayed {o : Oracle} (hs : c.state = .closed ∨ c.signalingClient = none) :
      Change J c (.call .leave o) { c with roomId := "" }
  | left {o sc} (hs : c.state ≠ .closed) (hsc : c.signalingClient = some sc) :
      Change J c (.call .leave o) { c.tornDown with
        roomId := "", signalingClient := some sc.disconnect, state := .closed
        notified := c.notified ++ [.closed] }
  | destroyed {o : Oracle} : Change J c (.call .destroy o)
      { c.tornDown with hasApi := false, signalingClient := none }
  | media {a o c'} (ha : a.IsMedia) (hm : c.mediaController.isSome) (hu : UsesMedia c c') :
      Change J c (.call a o) c'
  | socket {e} : Change J c (.socket e) (c.onSocket e)
  | listened {l o callback c'} (hr : Requests callback c c')
      (hcallback : ∀ producing consuming, callback ≠ .createWebRtcTransport producing consuming) :
      Change J c (.listener l o) c'
  | transportIdle (ht : c.transportTasks = []) : Change J c .transport c
  | transport {t rest c'} (ht : c.transportTasks = t :: rest)
      (hc : TransportChange J { c with transportTasks := rest } t c') : Change J c .transport c'
  | mediasoupIdle {o : Oracle} (ht : c.mediasoupTasks = []) : Change J c (.mediasoup o) c
  | mediasoup {o t rest c'} (ht : c.mediasoupTasks = t :: rest)
      (hc : MediasoupChange { c with mediasoupTasks := rest } t c') :
      Change J c (.mediasoup o) c'

/-- The transport thread takes the first of its tasks. -/
theorem step_transport (h : c.step J .transport = .ok c') :
    (c.transportTasks = [] ∧ c' = c) ∨ ∃ t rest, c.transportTasks = t :: rest ∧
      { c with transportTasks := rest }.runTransport J t = .ok c' := by
  simp only [step] at h
  cases ht : c.transportTasks with
  | nil =>
    rw [ht] at h
    cases h
    exact Or.inl ⟨rfl, rfl⟩
  | cons t rest =>
    rw [ht] at h
    exact Or.inr ⟨t, rest, rfl, h⟩

/-- The mediasoup thread takes the first of its tasks. -/
theorem step_mediasoup (h : c.step J (.mediasoup o) = .ok c') :
    (c.mediasoupTasks = [] ∧ c' = c) ∨ ∃ t rest, c.mediasoupTasks = t :: rest ∧
      { c with mediasoupTasks := rest }.runMediasoup J t o = .ok c' := by
  simp only [step] at h
  cases ht : c.mediasoupTasks with
  | nil =>
    rw [ht] at h
    cases h
    exact Or.inl ⟨rfl, rfl⟩
  | cons t rest =>
    rw [ht] at h
    exact Or.inr ⟨t, rest, rfl, h⟩

theorem step_change {a : Action} (h : c.step J a = .ok c') : Change J c a c' := by
  cases a with
  | call a o =>
    cases a with
    | join hostname port roomId displayName options =>
      rcases join_ok h with ⟨hn, _, _, _, _, _, _, rfl⟩ | ⟨ha, sc, hsc, rfl⟩
      · exact .refused hn
      · exact .accepted ha hsc
    | leave =>
      rcases leave_ok h with ⟨hs, rfl⟩ | ⟨hs, sc, hsc, rfl⟩
      · exact .stayed hs
      · exact .left hs hsc
    | enableAudio enabled =>
      obtain ⟨hu, hm⟩ := deref_withMedia_ok (fun _ _ => Media.enableAudio_keeps) h
      exact .media trivial hm hu
    | muteAudio muted =>
      obtain ⟨hu, hm⟩ := deref_withMedia_ok
        (fun m m' hm => by cases hm; exact Media.muteAudio_keeps muted m) h
      exact .media trivial hm hu
    | enableVideo enabled trackName =>
      obtain ⟨hu, hm⟩ := deref_withMedia_ok (fun _ _ => Media.enableVideo_keeps) h
      exact .media trivial hm hu
    | destroy =>
      rw [destroy_ok h]
      exact .destroyed
  | socket e =>
    cases h
    exact .socket
  | listener l o =>
    obtain ⟨callback, hr, hcallback⟩ := listen_ok h
    exact .listened hr hcallback
  | transport =>
    rcases step_transport h with ⟨ht, rfl⟩ | ⟨t, rest, ht, hrun⟩
    · exact .transportIdle ht
    · exact .transport ht (runTransport_ok hrun)
  | mediasoup o =>
    rcases step_mediasoup h with ⟨ht, rfl⟩ | ⟨t, rest, ht, hrun⟩
    · exact .mediasoupIdle ht
    · exact .mediasoup ht (runMediasoup_ok hrun)

end RoomClient
end MediasoupSdk
