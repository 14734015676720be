import MediasoupSdk.Room.Stages

/-! What a step puts into the table of requests. A request of the negotiation gets there only when
a task hands it over, and with it nothing else is sent. -/
namespace MediasoupSdk
open Foundation Signaling
namespace RoomClient

variable {J : JsonText} {o : Oracle} {c c' : RoomClient}

/-- The request of the negotiation that waits under a key. -/
def stageAt (k : ℤ) (sc : Option (SignalingClient Callback)) : Option Stage :=
  sc.bind fun sc => (sc.requestMap.lookup k).bind fun r => r.resolve.bind Stage.ofCallback

/-- No request of the negotiation waits that did not wait before. -/
def Silent (sc sc' : Option (SignalingClient Callback)) : Prop :=
  ∀ k s, stageAt k sc' = some s → stageAt k sc = some s

theorem Silent.refl (sc : Option (SignalingClient Callback)) : Silent sc sc := fun _ _ h => h

theorem Silent.trans {sc₁ sc₂ sc₃ : Option (SignalingClient Callback)} (h₁ : Silent sc₁ sc₂)
    (h₂ : Silent sc₂ sc₃) : Silent sc₁ sc₃ :=
  fun k s h => h₁ k s (h₂ k s h)

theorem silent_of_none (sc : Option (SignalingClient Callback)) : Silent sc none := nofun

theorem silent_of_requestMap {sc sc' : SignalingClient Callback}
    (h : sc'.requestMap = sc.requestMap) : Silent (some sc) (some sc') := by
  intro k s hs
  simpa only [stageAt, Option.bind_some, h] using hs

/-- A text that is sent waits under one key. -/
theorem send_adds {text : String} {transaction : ℤ} {scb fcb : Option Callback}
    {sc sc' : SignalingClient Callback} (h : sc.send text transaction scb fcb = .ok sc') {k : ℤ}
    {s : Stage} (hs : stageAt k (some sc') = some s) :
    stageAt k (some sc) = some s ∨
      k = wrap 32 transaction ∧ scb.bind Stage.ofCallback = some s := by
  cases htext : text.isEmpty with
  | true =>
    rw [SignalingClient.send, if_pos htext, Except.ok.injEq] at h
    rw [h]
    exact Or.inl hs
  | false =>
    simp only [stageAt, Option.bind_some, SignalingClient.send_ok htext h,
      HashMap.lookup_insert_eq_ite] at hs ⊢
    split_ifs at hs with hk
    · exact Or.inr ⟨hk, hs⟩
    · exact Or.inl hs

theorem api_send_adds {text : String} {id : RequestId} {callback : Callback}
    {sc : Option (SignalingClient Callback)}
    {r : Option (SignalingClient Callback) × List (Invocation Callback)}
    (h : MediasoupApi.send text id callback sc = .ok r) {k : ℤ} {s : Stage}
    (hs : stageAt k r.1 = some s) :
    stageAt k sc = some s ∨ k = id.val ∧ Stage.ofCallback callback = some s := by
  cases sc with
  | none =>
    cases h
    exact Or.inl hs
  | some sc =>
    obtain ⟨sc', hsend, hr⟩ := bind_ok.mp h
    cases hr
    rcases send_adds hsend hs with hold | ⟨hk, hnew⟩
    · exact Or.inl hold
    · rw [id.wrap_eq] at hk
      exact Or.inr ⟨hk, hnew⟩

theorem api_response_silent {text : String} {id : Option (IntN 64)}
    {sc sc' : Option (SignalingClient Callback)}
    (h : MediasoupApi.response text id sc = .ok sc') : Silent sc sc' := by
  intro k s hs
  cases sc with
  | none =>
    cases h
    exact hs
  | some sc =>
    obtain ⟨client, hsend, hr⟩ := bind_ok.mp h
    cases hr
    rcases send_adds hsend hs with hold | ⟨-, hnew⟩
    · exact hold
    · cases hnew

/-- The callbacks of the media controller belong to no request of the negotiation. -/
theorem sendOutgoing_silent {outgoing : List Outgoing} :
    ∀ {n : ℕ} {sc sc' : Option (SignalingClient Callback)},
      sendOutgoing J o n outgoing sc = .ok sc' → Silent sc sc' := by
  induction outgoing with
  | nil =>
    intro n sc sc' h
    cases h
    exact .refl sc
  | cons m rest ih =>
    intro n sc sc' h
    cases m with
    | request r =>
      obtain ⟨p, hp, h⟩ := bind_ok.mp h
      refine Silent.trans (fun k s hs => ?_) (ih h)
      rcases api_send_adds hp hs with hold | ⟨-, hnew⟩
      · exact hold
      · cases hnew
    | answer id =>
      obtain ⟨p, hp, h⟩ := bind_ok.mp h
      exact (api_response_silent hp).trans (ih h)

theorem request_adds {r : ApiRequest} {callback : Callback}
    (h : c.request J o r callback = .ok c') {k : ℤ} {s : Stage}
    (hs : stageAt k c'.signalingClient = some s) :
    stageAt k c.signalingClient = some s ∨
      k = (o.requestId 0).val ∧ Stage.ofCallback callback = some s := by
  simp only [request, bind_ok, pure, Except.pure, Except.ok.injEq] at h
  obtain ⟨p, hp, rfl⟩ := h
  exact api_send_adds hp hs

theorem request_silent {r : ApiRequest} {callback : Callback}
    (h : c.request J o r callback = .ok c') (hn : Stage.ofCallback callback = none) :
    Silent c.signalingClient c'.signalingClient := by
  intro k s hs
  rcases request_adds h hs with hold | ⟨-, hnew⟩
  · exact hold
  · rw [hn] at hnew
    cases hnew

theorem withMedia_silent {op : Media → Except Fault Media} {mc : MediaController}
    (h : c.withMedia J o op mc = .ok c') : Silent c.signalingClient c'.signalingClient := by
  simp only [withMedia, bind_ok, pure, Except.pure, Except.ok.injEq] at h
  obtain ⟨m, -, sc, hsend, rfl⟩ := h
  exact sendOutgoing_silent hsend

theorem runMedia_silent {op : Media → Except Fault Media} {seq : ℕ}
    (h : c.runMedia J seq op o = .ok c') : Silent c.signalingClient c'.signalingClient := by
  unfold runMedia at h
  split at h
  · cases h
    exact .refl _
  · simp only [bind_ok, pure, Except.pure, Except.ok.injEq] at h
    obtain ⟨d, hd, rfl⟩ := h
    have hsilent := withMedia_silent hd
    exact hsilent

theorem listen_silent {l : ListenerCall} (h : c.listen J l o = .ok c') :
    Silent c.signalingClient c'.signalingClient := by
  have hrefl : ∀ d : RoomClient, .ok c = (.ok d : Except Fault RoomClient) →
      Silent c.signalingClient d.signalingClient := by
    rintro d ⟨⟩
    exact .refl _
  unfold listen at h
  split_ifs at h
  · exact hrefl c' h
  · cases l with
    | onConnect transportId dtlsParameters =>
      simp only at h
      split at h
      · exact hrefl c' h
      · exact request_silent h rfl
    | onProduce transportId kind rtpParameters trackName =>
      simp only at h
      split at h
      · exact hrefl c' h
      · exact request_silent h rfl
    | onProduceData transportId sctpStreamParameters label protocol =>
      simp only at h
      split at h
      · exact hrefl c' h
      · exact request_silent h rfl

theorem call_silent {a : ApiCall} (h : c.call J a o = .ok c') :
    Silent c.signalingClient c'.signalingClient := by
  cases a with
  | join hostname port roomId displayName options =>
    rcases join_ok h with ⟨-, _, _, _, _, _, _, rfl⟩ | ⟨-, sc, hsc, rfl⟩
    · exact .refl _
    · rw [hsc]
      exact silent_of_requestMap rfl
  | leave =>
    rcases leave_ok h with ⟨-, rfl⟩ | ⟨-, sc, hsc, rfl⟩
    · exact .refl _
    · rw [hsc]
      exact silent_of_requestMap rfl
  | destroy =>
    rw [destroy_ok h]
    exact silent_of_none _
  | enableAudio enabled =>
    obtain ⟨mc, -, h⟩ := bind_ok.mp h
    exact withMedia_silent h
  | muteAudio muted =>
    obtain ⟨mc, -, h⟩ := bind_ok.mp h
    exact withMedia_silent h
  | enableVideo enabled trackName =>
    obtain ⟨mc, -, h⟩ := bind_ok.mp h
    exact withMedia_silent h

/-- The key of the request that a response takes out of the table. -/
def handledKey (R : Rapidjson) (json : String) : List ℤ :=
  (SignalingClient.responseId R json).toList

theorem handleResponse_silent (R : Rapidjson) (json : String) (sc : SignalingClient Callback) :
    Silent (some sc) (some (sc.handleResponse R json).1) := by
  intro k s hs
  simp only [stageAt, Option.bind_some, SignalingClient.handleResponse_requestMap] at hs ⊢
  cases hid : SignalingClient.responseId R json with
  | none =>
    rw [hid] at hs
    exact hs
  | some id =>
    simp only [hid, HashMap.lookup_erase_eq_ite] at hs
    split_ifs at hs
    · cases hs
    · exact hs

/-- What a response takes out does not wait any more. -/
theorem handleResponse_takes {R : Rapidjson} {json : String} {sc : SignalingClient Callback} {k : ℤ}
    (hk : k ∈ handledKey R json) : stageAt k (some (sc.handleResponse R json).1) = none := by
  simp only [handledKey, Option.mem_toList] at hk
  simp only [stageAt, Option.bind_some, SignalingClient.handleResponse_requestMap, hk,
    HashMap.lookup_erase_eq_ite, if_pos, Option.bind_none]

/-- A response that is handed to a callback was waited for under its key. -/
theorem handleResponse_waited {R : Rapidjson} {json : String} {sc : SignalingClient Callback}
    {callback : Callback} {s : Stage}
    (hcalls : (sc.handleResponse R json).2 = [.resolved callback json])
    (hs : Stage.ofCallback callback = some s) :
    ∃ k ∈ handledKey R json, stageAt k (some sc) = some s := by
  unfold SignalingClient.handleResponse at hcalls
  cases hid : SignalingClient.responseId R json with
  | none =>
    rw [hid] at hcalls
    cases hcalls
  | some k =>
    refine ⟨k, by simp [handledKey, hid], ?_⟩
    simp only [hid, SignalingClient.takeRequest] at hcalls
    cases hlookup : sc.requestMap.lookup k with
    | none =>
      rw [hlookup] at hcalls
      cases hcalls
    | some r =>
      simp only [hlookup, WebsocketRequest.resolveWith] at hcalls
      cases hr : r.resolve with
      | none =>
        rw [hr] at hcalls
        cases hcalls
      | some callback' =>
        rw [hr] at hcalls
        cases hcalls
        simp [stageAt, hlookup, hr, hs]

/-- The body of a callback sends nothing. -/
theorem invoke_signalingClient {seq : ℕ} {callback : Callback} {json : String}
    (h : invoke J seq (.resolved callback json) c = .ok c') :
    c'.signalingClient = c.signalingClient := by
  rcases invoke_ok h with rfl | ⟨_, _, -, rfl⟩ | ⟨_, _, _, _, -, rfl⟩ | ⟨_, r, -, -, -, rfl⟩
  · rfl
  · rfl
  · rfl
  · simp only [onJoinReply]
    split <;> rfl

/-- After a response the table is that of `handleResponse`. -/
theorem handleResponse_table {seq : ℕ} {json : String} {sc : SignalingClient Callback}
    (h : c.handleResponse J seq json sc = .ok c') :
    c'.signalingClient = some (sc.handleResponse J.rapidjson json).1 := by
  rcases handleResponse_calls J.rapidjson json sc with hcalls | ⟨callback, -, hcalls⟩
  · simp only [handleResponse, hcalls, List.foldlM_nil, pure, Except.pure, Except.ok.injEq] at h
    rw [← h]
  · simp only [handleResponse, hcalls, List.foldlM_cons, List.foldlM_nil, bind_ok, pure,
      Except.pure, Except.ok.injEq, exists_eq_right] at h
    exact invoke_signalingClient h

theorem runTransport_silent {t : TransportTask} (h : c.runTransport J t = .ok c') :
    Silent c.signalingClient c'.signalingClient := by
  cases hsc : c.signalingClient with
  | none =>
    simp only [runTransport, hsc, Except.ok.injEq] at h
    rw [← h, hsc]
    exact .refl _
  | some sc =>
    cases runTransport_ok h with
    | gone hnone =>
      rw [hnone] at hsc
      cases hsc
    | opened =>
      rw [← hsc]
      exact .refl _
    | failed =>
      rw [← hsc]
      exact .refl _
    | closed hsome =>
      intro k s hs
      simp [postMediasoup, stageAt, SignalingClient.clearRequests] at hs
    | dispatched hkind hd he =>
      rw [← hsc]
      rcases hd with ⟨pc, volume, effects, rfl, -⟩ | ⟨m, -, rfl⟩
      · exact .refl _
      · exact .refl _
    | reposted hkind =>
      rw [← hsc]
      exact .refl _
    | unanswered | answered =>
      simp only [runTransport, hsc] at h
      rw [handleResponse_table h]
      exact handleResponse_silent _ _ _

/-- The request that a step makes for the negotiation. -/
def requestMade (J : JsonText) (c : RoomClient) : Action → Option ApiRequest
  | .mediasoup o =>
    match c.mediasoupTasks with
    | [] => none
    | t :: rest => requestOf J o t { c with mediasoupTasks := rest }
  | _ => none

/-- The step sends for the negotiation what it requests: the one request is handed to the API once,
after a part of the step that sends nothing; and without a request nothing new waits. -/
def SendsOnly (J : JsonText) (c : RoomClient) (a : Action) (c' : RoomClient) : Prop :=
  match requestMade J c a with
  | none => Silent c.signalingClient c'.signalingClient
  | some r => ∃ (o : Oracle) (d : RoomClient), a = .mediasoup o ∧
      d.signalingClient = c.signalingClient ∧ d.request J o r (callbackOf r) = .ok c'

/-- A task that carries nothing on makes no request. -/
theorem requestOf_eq_none {t : MediasoupTask} (ht : continuationOf t = none) :
    requestOf J o t c = none := by
  cases t with
  | createTransport seq producing consuming response =>
    cases producing <;> cases consuming <;> simp [continuationOf, Stage.ofTransport] at ht
    rfl
  | getRouterRtpCapabilities => cases ht
  | loadMediasoupDevice seq response => cases ht
  | closed => rfl
  | joined seq state response => rfl
  | newConsumer seq request => rfl
  | newDataConsumer seq request => rfl
  | updateConsumer seq tid paused => rfl
  | consumerClosed seq notification => rfl

theorem runMediasoup_silent {t : MediasoupTask} (ht : continuationOf t = none)
    (h : c.runMediasoup J t o = .ok c') : Silent c.signalingClient c'.signalingClient := by
  cases t with
  | getRouterRtpCapabilities => cases ht
  | loadMediasoupDevice seq response => cases ht
  | closed =>
    rw [onRoomStateChanged_closed h]
    exact .refl _
  | createTransport seq producing consuming response =>
    cases producing <;> cases consuming <;> simp [continuationOf, Stage.ofTransport] at ht
    cases h
    exact .refl _
  | joined seq state response =>
    obtain ⟨d, pc, hd, rfl, -⟩ := onJoined_ok h
    by_cases hs : state = .closed
    · subst hs
      rw [onRoomStateChanged_closed hd]
      exact .refl _
    · rw [onRoomStateChanged_open hs hd]
      exact .refl _
  | newConsumer seq request => exact runMedia_silent h
  | newDataConsumer seq request => exact runMedia_silent h
  | updateConsumer seq tid paused => exact runMedia_silent h
  | consumerClosed seq notification => exact runMedia_silent h

theorem mediasoup_sendsOnly (h : c.step J (.mediasoup o) = .ok c') :
    SendsOnly J c (.mediasoup o) c' := by
  rcases step_mediasoup h with ⟨ht, rfl⟩ | ⟨t, rest, ht, hrun⟩
  · simp only [SendsOnly, requestMade, ht]
    exact .refl _
  · simp only [SendsOnly, requestMade, ht]
    cases hp : continuationOf t with
    | none =>
      rw [requestOf_eq_none hp]
      have hsilent := runMediasoup_silent hp hrun
      exact hsilent
    | some p =>
      obtain ⟨d, hprep, hover⟩ := runMediasoup_prepares hp hrun
      cases hr : requestOf J o t { c with mediasoupTasks := rest } with
      | none =>
        rw [hr] at hover
        cases hover
        rw [hprep.signalingClient]
        exact .refl _
      | some r =>
        rw [hr] at hover
        exact ⟨o, d, rfl, hprep.signalingClient, hover⟩

/-- Every step of the client sends for the negotiation what it requests, and nothing else. -/
theorem step_sendsOnly {a : Action} (h : c.step J a = .ok c') : SendsOnly J c a c' := by
  cases a with
  | call a o => exact call_silent h
  | socket e =>
    cases h
    cases e <;> exact Silent.refl _
  | listener l o => exact listen_silent h
  | transport =>
    rcases step_transport h with ⟨-, rfl⟩ | ⟨t, rest, -, hrun⟩
    · exact Silent.refl _
    · have hsilent := runTransport_silent hrun
      exact hsilent
  | mediasoup o => exact mediasoup_sendsOnly h

end RoomClient
end MediasoupSdk
