import MediasoupSdk.Media.Producers
import MediasoupSdk.Room.Join
import MediasoupSdk.Room.Once

/-! A negotiation that the SFU answers does not get stuck. What no step may lose is the continuation
on its way or the request that waits for its answer; no step puts another request under its key. -/
namespace MediasoupSdk
open Foundation Signaling

/-- Answers to the given requests of the SFU, and after them at most one request. -/
def Sends (ids : List (Option (IntN 64))) (outgoing : List Outgoing) : Prop :=
  ∃ answered r, answered ⊆ ids ∧
    outgoing = answered.map .answer ++ (r : Option ApiRequest).toList.map .request

theorem Sends.of_nil {ids : List (Option (IntN 64))} {outgoing : List Outgoing}
    (h : outgoing = []) : Sends ids outgoing :=
  ⟨[], none, List.nil_subset _, h⟩

theorem Sends.request (ids : List (Option (IntN 64))) (r : ApiRequest) : Sends ids [.request r] :=
  ⟨[], some r, List.nil_subset _, rfl⟩

namespace Media

variable {m m' : Media}

theorem enableAudio_sends {enabled : Bool} {produced : Option Producer} (hm : m.outgoing = [])
    (h : m.enableAudio enabled produced = .ok m') : Sends [] m'.outgoing := by
  unfold enableAudio at h
  simp only at h
  split at h
  · cases h
    exact .of_nil hm
  · split_ifs at h
    · cases h
      exact .of_nil hm
    · cases h
      exact .of_nil hm
    · cases h
      exact .of_nil hm
    · obtain ⟨producer, -, h⟩ := bind_ok.mp h
      cases h
      exact .of_nil hm
    · split at h
      · cases h
        exact .of_nil hm
      · cases h
        rw [Media.push, hm]
        exact .request _ _

theorem muteAudio_sends (muted : Bool) (hm : m.outgoing = []) :
    Sends [] (m.muteAudio muted).outgoing := by
  unfold muteAudio
  split
  · exact .of_nil hm
  · rw [Media.push, hm]
    exact .request _ _

theorem enableVideo_sends {enabled : Bool} {trackName : String} {produced : Option Producer}
    (hm : m.outgoing = []) (h : m.enableVideo enabled trackName produced = .ok m') :
    Sends [] m'.outgoing := by
  by_cases hsend : m.CanSend
  · rw [enableVideo_outgoing hsend h, hm, List.nil_append]
    split_ifs
    · exact .of_nil rfl
    · cases m.pointerAt trackName with
      | none => exact .of_nil rfl
      | some producer => exact .request _ _
  · rw [enableVideo_blocked hsend, Except.ok.injEq] at h
    exact .of_nil (h ▸ hm)

theorem createNewConsumer_sends {request : SfuRequest NewConsumerRequest.Data}
    {consumed : Option Track} (hm : m.outgoing = [])
    (h : m.createNewConsumer request consumed = .ok m') : Sends [request.id] m'.outgoing := by
  unfold createNewConsumer at h
  split_ifs at h
  · cases h
    exact .of_nil hm
  · cases h
    exact .of_nil hm
  · simp only [bind_ok, pure, Except.pure, Except.ok.injEq] at h
    obtain ⟨data, -, rtp, -, appData, -, id, -, producerId, -, kind, -, track, -, paused, -,
      peerId, -, m₁, h₁, m₂, h₂, rfl⟩ := h
    refine ⟨[request.id], some (.setConsumerPreferredLayers id 1 1), List.Subset.refl _, ?_⟩
    have hout : m₂.outgoing = [] :=
      (notifyState_outgoing h₂).trans ((notifyCreate_outgoing h₁).trans hm)
    show (m₂.outgoing ++ _) ++ _ = _
    rw [hout]
    rfl

theorem createNewDataConsumer_sends {request : SfuRequest NewDataConsumerRequest.Data}
    {consumed : Option Unit} (hm : m.outgoing = [])
    (h : m.createNewDataConsumer request consumed = .ok m') : Sends [request.id] m'.outgoing := by
  unfold createNewDataConsumer at h
  split_ifs at h
  · cases h
    exact .of_nil hm
  · cases h
    exact .of_nil hm
  · cases h
    exact .of_nil hm
  · simp only [bind_ok, pure, Except.pure, Except.ok.injEq] at h
    obtain ⟨data, -, appData, -, id, -, producerId, -, sctp, -, streamId, -, label, -,
      protocol, -, u, -, rfl⟩ := h
    refine ⟨[request.id], none, List.Subset.refl _, ?_⟩
    show m.outgoing ++ _ = _
    rw [hm]
    rfl

end Media

namespace RoomClient

variable {J : JsonText} {o : Oracle} {c c' : RoomClient}

/-- The requests of the negotiation that wait for their answers. -/
def owed (sc : Option (SignalingClient Callback)) : List Stage :=
  sc.toList.flatMap fun sc =>
    sc.requestMap.values.filterMap fun r => r.resolve.bind Stage.ofCallback

theorem mem_owed {k : ℤ} {s : Stage} {sc : Option (SignalingClient Callback)}
    (h : stageAt k sc = some s) : s ∈ owed sc := by
  simp only [stageAt, Option.bind_eq_some_iff] at h
  obtain ⟨client, rfl, r, hlookup, hr⟩ := h
  have hmem : r ∈ client.requestMap.values :=
    (HashMap.values_perm_of_lookup hlookup).symm.subset List.mem_cons_self
  simp only [owed, Option.toList_some, List.flatMap_singleton, List.mem_filterMap,
    Option.bind_eq_some_iff]
  exact ⟨r, hmem, hr⟩

/-- The requests of the negotiation stay where they are, except under the given keys. -/
structure Leaves (keys : List ℤ) (sc sc' : Option (SignalingClient Callback)) : Prop where
  isSome : sc.isSome → sc'.isSome
  stage : ∀ k s, k ∉ keys → stageAt k sc = some s → stageAt k sc' = some s

theorem Leaves.refl (keys : List ℤ) (sc : Option (SignalingClient Callback)) :
    Leaves keys sc sc :=
  ⟨id, fun _ _ _ h => h⟩

theorem Leaves.trans {keys : List ℤ} {sc₁ sc₂ sc₃ : Option (SignalingClient Callback)}
    (h₁ : Leaves keys sc₁ sc₂) (h₂ : Leaves keys sc₂ sc₃) : Leaves keys sc₁ sc₃ :=
  ⟨fun h => h₂.isSome (h₁.isSome h), fun k s hk h => h₂.stage k s hk (h₁.stage k s hk h)⟩

theorem Leaves.mono {keys keys' : List ℤ} {sc sc' : Option (SignalingClient Callback)}
    (h : Leaves keys sc sc') (hsub : keys ⊆ keys') : Leaves keys' sc sc' :=
  ⟨h.isSome, fun k s hk => h.stage k s fun hmem => hk (hsub hmem)⟩

theorem send_leaves {text : String} {transaction : ℤ} {scb fcb : Option Callback}
    {sc sc' : SignalingClient Callback} (h : sc.send text transaction scb fcb = .ok sc') :
    Leaves [wrap 32 transaction] (some sc) (some sc') := by
  cases htext : text.isEmpty with
  | true =>
    rw [SignalingClient.send, if_pos htext, Except.ok.injEq] at h
    rw [h]
    exact .refl _ _
  | false =>
    refine ⟨fun _ => rfl, fun k s hk hs => ?_⟩
    have hne : k ≠ wrap 32 transaction := by simpa using hk
    simp only [stageAt, Option.bind_some, SignalingClient.send_ok htext h] at hs ⊢
    rwa [HashMap.lookup_insert_eq_ite, if_neg hne]

theorem api_send_leaves {text : String} {id : RequestId} {callback : Callback}
    {sc : Option (SignalingClient Callback)}
    {r : Option (SignalingClient Callback) × List (Invocation Callback)}
    (h : MediasoupApi.send text id callback sc = .ok r) : Leaves [id.val] sc r.1 := by
  cases sc with
  | none =>
    cases h
    exact .refl _ _
  | some sc =>
    obtain ⟨sc', hs, hr⟩ := bind_ok.mp h
    cases hr
    have hleaves := send_leaves hs
    rwa [id.wrap_eq] at hleaves

/-- The key under which an answer to the SFU is stored. -/
def answerKey (id : Option (IntN 64)) : ℤ := wrap 32 (id.elim (-1) Subtype.val)

theorem api_response_leaves {text : String} {id : Option (IntN 64)}
    {sc sc' : Option (SignalingClient Callback)}
    (h : MediasoupApi.response text id sc = .ok sc') : Leaves [answerKey id] sc sc' := by
  cases sc with
  | none =>
    cases h
    exact .refl _ _
  | some sc =>
    obtain ⟨client, hs, hr⟩ := bind_ok.mp h
    cases hr
    exact send_leaves hs

theorem sendOutgoing_leaves {ids : List (Option (IntN 64))} {outgoing : List Outgoing}
    {sc sc' : Option (SignalingClient Callback)} (hsends : Sends ids outgoing)
    (h : sendOutgoing J o 0 outgoing sc = .ok sc') :
    Leaves ((o.requestId 0).val :: ids.map answerKey) sc sc' := by
  obtain ⟨answered, r, hsub, rfl⟩ := hsends
  induction answered generalizing sc with
  | nil =>
    cases r with
    | none =>
      cases h
      exact .refl _ _
    | some r =>
      obtain ⟨p, hp, h⟩ := bind_ok.mp h
      cases h
      exact (api_send_leaves hp).mono (by simp)
  | cons id answered ih =>
    obtain ⟨hid, hsub⟩ := List.cons_subset.mp hsub
    obtain ⟨client, hclient, h⟩ := bind_ok.mp h
    have hmem : answerKey id ∈ (o.requestId 0).val :: ids.map answerKey :=
      List.mem_cons_of_mem _ (List.mem_map_of_mem hid)
    have hkey : [answerKey id] ⊆ (o.requestId 0).val :: ids.map answerKey := by simpa using hmem
    exact ((api_response_leaves hclient).mono hkey).trans (ih hsub h)

/-- A request that was made waits under its id. -/
theorem stageAt_request {r : ApiRequest} (htext : (J.request (o.requestId 0) r).isEmpty = false)
    (hsome : c.signalingClient.isSome)
    (h : c.request J o r (callbackOf r) = .ok c') :
    stageAt (o.requestId 0).val c'.signalingClient = Stage.ofRequest r := by
  obtain ⟨sc, hsc⟩ := Option.isSome_iff_exists.mp hsome
  simp only [request, hsc, MediasoupApi.send, MediasoupApi.sendLocked, bind_ok, pure, Except.pure,
    Except.ok.injEq] at h
  obtain ⟨_, ⟨client, hsend, rfl⟩, rfl⟩ := h
  simp only [stageAt, Option.bind_some, SignalingClient.send_ok htext hsend]
  rw [HashMap.lookup_insert_eq_ite, if_pos (o.requestId 0).wrap_eq.symm]
  exact Negotiation.ofCallback_callbackOf r

/-- The client is connected, and since the given reports it has told so or has queued the task
that will. -/
def Told (before : List RoomState) (c : RoomClient) : Prop :=
  c.state = .connected ∧ ∃ later, c.notified = before ++ later ∧
    (.connected ∈ later ∨ ∃ seq response, .joined seq .connected response ∈ c.mediasoupTasks)

namespace Negotiation

/-- No continuation is lost, and no request of the negotiation except under the given keys. -/
structure Holds (keys : List ℤ) (c c' : RoomClient) : Prop where
  options : c'.options = c.options
  hasApi : c'.hasApi = c.hasApi
  device : c'.mediasoupDevice = c.mediasoupDevice
  table : Leaves keys c.signalingClient c'.signalingClient
  tokens : tokens c ≤ tokens c'
  notified : c.notified <+: c'.notified
  told : ∀ before, c.Told before → c'.Told before

variable {keys : List ℤ}

theorem Holds.refl (keys : List ℤ) (c : RoomClient) : Holds keys c c :=
  ⟨rfl, rfl, rfl, .refl _ _, le_rfl, List.prefix_rfl, fun _ => id⟩

theorem Holds.trans {d : RoomClient} (h₁ : Holds keys c d) (h₂ : Holds keys d c') :
    Holds keys c c' where
  options := h₂.options.trans h₁.options
  hasApi := h₂.hasApi.trans h₁.hasApi
  device := h₂.device.trans h₁.device
  table := h₁.table.trans h₂.table
  tokens := h₁.tokens.trans h₂.tokens
  notified := h₁.notified.trans h₂.notified
  told before h := h₂.told before (h₁.told before h)

theorem Holds.mono {keys' : List ℤ} (h : Holds keys c c') (hsub : keys ⊆ keys') :
    Holds keys' c c' :=
  { h with table := h.table.mono hsub }

theorem holds_post (t : MediasoupTask) : Holds keys c (c.postMediasoup t) where
  options := rfl
  hasApi := rfl
  device := rfl
  table := .refl _ _
  tokens := by
    rw [tokens_postMediasoup]
    exact Multiset.le_add_left _ _
  notified := List.prefix_rfl
  told before h := by
    obtain ⟨hstate, later, hlater, hold | ⟨seq, response, hmem⟩⟩ := h
    · exact ⟨hstate, later, hlater, Or.inl hold⟩
    · exact ⟨hstate, later, hlater, Or.inr ⟨seq, response, List.mem_append_left _ hmem⟩⟩

theorem holds_postTransport (t : TransportTask) : Holds keys c (c.postTransport t) where
  options := rfl
  hasApi := rfl
  device := rfl
  table := .refl _ _
  tokens := by
    rw [tokens_postTransport]
    exact Multiset.le_add_left _ _
  notified := List.prefix_rfl
  told _ := id

theorem holds_touches {seq : ℕ} (h : Touches seq c c') : Holds keys c c' := by
  obtain ⟨pc, volume, effects, rfl, -, -⟩ := h
  exact ⟨rfl, rfl, rfl, .refl _ _, le_rfl, List.prefix_rfl, fun _ => id⟩

theorem request_holds {r : ApiRequest} {callback : Callback}
    (h : c.request J o r callback = .ok c') : Holds [(o.requestId 0).val] c c' := by
  obtain ⟨p, hp, h⟩ := bind_ok.mp h
  cases h
  exact ⟨rfl, rfl, rfl, api_send_leaves hp, le_rfl, List.prefix_rfl, fun _ => id⟩

theorem withMedia_holds {op : Media → Except Fault Media} {mc : MediaController}
    {ids : List (Option (IntN 64))}
    (hop : ∀ m m', m.outgoing = [] → op m = .ok m' → Sends ids m'.outgoing)
    (h : c.withMedia J o op mc = .ok c') :
    Holds ((o.requestId 0).val :: ids.map answerKey) c c' := by
  obtain ⟨m, hm, h⟩ := bind_ok.mp h
  obtain ⟨sc, hsc, h⟩ := bind_ok.mp h
  cases h
  exact ⟨rfl, rfl, rfl, sendOutgoing_leaves (hop _ m rfl hm) hsc, le_rfl, List.prefix_rfl,
    fun _ => id⟩

theorem runMedia_holds {op : Media → Except Fault Media} {seq : ℕ}
    {ids : List (Option (IntN 64))}
    (hop : ∀ m m', m.outgoing = [] → op m = .ok m' → Sends ids m'.outgoing)
    (h : c.runMedia J seq op o = .ok c') :
    Holds ((o.requestId 0).val :: ids.map answerKey) c c' := by
  unfold runMedia at h
  split at h
  · cases h
    exact .refl _ _
  · obtain ⟨d, hd, h⟩ := bind_ok.mp h
    cases h
    exact (withMedia_holds hop hd).trans
      ⟨rfl, rfl, rfl, .refl _ _, le_rfl, List.prefix_rfl, fun _ => id⟩

theorem listen_holds {l : ListenerCall} (h : c.listen J l o = .ok c') :
    Holds [(o.requestId 0).val] c c' := by
  unfold listen at h
  split_ifs at h
  · cases h
    exact .refl _ _
  · cases l with
    | onConnect transportId dtlsParameters =>
      simp only at h
      split at h
      · cases h
        exact .refl _ _
      · exact request_holds h
    | onProduce transportId kind rtpParameters trackName =>
      simp only at h
      split at h
      · cases h
        exact .refl _ _
      · exact request_holds h
    | onProduceData transportId sctpStreamParameters label protocol =>
      simp only at h
      split at h
      · cases h
        exact .refl _ _
      · exact request_holds h

theorem onMessage_holds {seq : ℕ} {json : String} (h : c.onMessage J seq json = .ok c') :
    Holds [] c c' := by
  by_cases hkind : SignalingClient.messageKind J.rapidjson json = some .response
  · simp only [onMessage, hkind, Except.ok.injEq] at h
    subst h
    exact holds_postTransport _
  · rcases onMessage_ok hkind h with htouches | ⟨t, -, rfl⟩
    · exact holds_touches htouches
    · exact holds_post t

/-- The keys of the answers that a task of the mediasoup thread may send. -/
def answerKeys : MediasoupTask → List ℤ
  | .newConsumer _ request => [answerKey request.id]
  | .newDataConsumer _ request => [answerKey request.id]
  | _ => []

theorem Holds.of_mediasoup {t : MediasoupTask} {rest : List MediasoupTask}
    (ht : c.mediasoupTasks = t :: rest) (hn : continuationOf t = none)
    (hjoined : ∀ seq response, t ≠ .joined seq .connected response)
    (h : Holds keys { c with mediasoupTasks := rest } c') : Holds keys c c' where
  options := h.options
  hasApi := h.hasApi
  device := h.device
  table := h.table
  tokens := by
    rw [tokens_mediasoup ht, hn]
    simpa using h.tokens
  notified := h.notified
  told before hc := by
    obtain ⟨hstate, later, hlater, hold | ⟨seq, response, hmem⟩⟩ := hc
    · exact h.told before ⟨hstate, later, hlater, Or.inl hold⟩
    · rw [ht, List.mem_cons] at hmem
      have hrest := hmem.resolve_left fun heq => hjoined seq response heq.symm
      exact h.told before ⟨hstate, later, hlater, Or.inr ⟨seq, response, hrest⟩⟩

/-- A task of the mediasoup thread that neither ends the session nor makes the next request. -/
theorem runMediasoup_holds {t : MediasoupTask} {rest : List MediasoupTask}
    (ht : c.mediasoupTasks = t :: rest) (he : ¬ Ends t) (hn : continuationOf t = none)
    (h : { c with mediasoupTasks := rest }.runMediasoup J t o = .ok c') :
    Holds ((o.requestId 0).val :: answerKeys t) c c' := by
  cases t with
  | getRouterRtpCapabilities => cases hn
  | closed => exact absurd trivial he
  | loadMediasoupDevice seq response => cases hn
  | createTransport seq producing consuming response =>
    have hskip : producing = false ∧ consuming = false := by
      cases producing <;> cases consuming <;> simp [continuationOf, Stage.ofTransport] at hn ⊢
    obtain ⟨rfl, rfl⟩ := hskip
    cases h
    exact Holds.of_mediasoup ht hn (fun _ _ => MediasoupTask.noConfusion) (.refl _ _)
  | joined seq state response =>
    obtain ⟨d, pc, hd, rfl, -⟩ := onJoined_ok h
    rw [onRoomStateChanged_open he hd]
    refine ⟨rfl, rfl, rfl, .refl _ _, ?_, List.prefix_append _ _, fun before hc => ?_⟩
    · rw [tokens_mediasoup ht, hn]
      exact (zero_add _).le
    · obtain ⟨hconnected, later, hlater, htold⟩ := hc
      have hreports : c.notified ++ [state] = before ++ (later ++ [state]) := by
        rw [hlater, List.append_assoc]
      refine ⟨hconnected, later ++ [state], hreports, ?_⟩
      rcases htold with hold | ⟨seq', response', hmem⟩
      · exact Or.inl (List.mem_append_left _ hold)
      · rw [ht, List.mem_cons] at hmem
        rcases hmem with heq | hrest
        · cases heq
          exact Or.inl (List.mem_append_right _ (List.mem_singleton_self _))
        · exact Or.inr ⟨seq', response', hrest⟩
  | newConsumer seq request =>
    have hmedia : Holds ((o.requestId 0).val :: [request.id].map answerKey) _ c' :=
      runMedia_holds (fun _ _ => Media.createNewConsumer_sends) h
    exact Holds.of_mediasoup ht hn (fun _ _ => MediasoupTask.noConfusion) hmedia
  | newDataConsumer seq request =>
    have hmedia : Holds ((o.requestId 0).val :: [request.id].map answerKey) _ c' :=
      runMedia_holds (fun _ _ => Media.createNewDataConsumer_sends) h
    exact Holds.of_mediasoup ht hn (fun _ _ => MediasoupTask.noConfusion) hmedia
  | updateConsumer seq tid paused =>
    have hmedia : Holds ((o.requestId 0).val :: [].map answerKey) _ c' :=
      runMedia_holds
        (fun _ _ hm hop => .of_nil ((Media.updateConsumer_outgoing hop).trans hm)) h
    exact Holds.of_mediasoup ht hn (fun _ _ => MediasoupTask.noConfusion) hmedia
  | consumerClosed seq notification =>
    have hmedia : Holds ((o.requestId 0).val :: [].map answerKey) _ c' :=
      runMedia_holds
        (fun _ _ hm hop => .of_nil ((Media.onConsumerClosed_outgoing hop).trans hm)) h
    exact Holds.of_mediasoup ht hn (fun _ _ => MediasoupTask.noConfusion) hmedia

theorem holds_usesMedia {op : Media → Except Fault Media}
    (hop : ∀ m m', m.outgoing = [] → op m = .ok m' → Sends [] m'.outgoing)
    (h : (deref .mediaController c.mediaController >>= (c.withMedia J o op ·)) = .ok c') :
    Holds [(o.requestId 0).val] c c' := by
  obtain ⟨mc, -, h⟩ := bind_ok.mp h
  exact withMedia_holds hop h

/-- The reply gets past the guards of the callback. -/
def passes (J : JsonText) (json : String) : Stage → Bool
  | .getRouterRtpCapabilities =>
    (MediasoupApi.onSuccess (decodeGetRouterRtpCapabilitiesResponse J.rapidjson) json).any
      fun reply => (accepted reply).isSome
  | .createSendTransport =>
    (MediasoupApi.onSuccess (decodeCreateWebRtcTransportResponse J.rapidjson) json).any
      fun reply => (accepted reply).isSome
  | .createRecvTransport =>
    (MediasoupApi.onSuccess (decodeCreateWebRtcTransportResponse J.rapidjson) json).any
      fun reply => (accepted reply).isSome
  | .join =>
    (MediasoupApi.onSuccess (decodeJoinResponse J.rapidjson) json).any
      fun reply => (accepted reply).isSome

/-- The capabilities of the device decode as far as the options ask for them. -/
def readable (J : JsonText) (options : Options) (device : Device) : Bool :=
  (!options.datachannel.getD false ||
    (readCapabilities J CreateWebRtcTransportRequest.SCTPCapabilities
        device.sctpCapabilities).isSome &&
      (readCapabilities J JoinRequest.SCTPCapabilities device.sctpCapabilities).isSome) &&
  (!options.consume.getD false ||
    (readCapabilities J JoinRequest.RTPCapabilities device.rtpCapabilities).isSome)

/-- The keys under which a step may put a request. -/
def keysOf (c : RoomClient) : Action → List ℤ
  | .call _ o => [(o.requestId 0).val]
  | .listener _ o => [(o.requestId 0).val]
  | .mediasoup o => (o.requestId 0).val :: c.mediasoupTasks.head?.elim [] answerKeys
  | _ => []

/-- What comes from outside lets the negotiation go on. -/
def cooperates (J : JsonText) (c : RoomClient) : Action → Bool
  | .transport =>
    match c.transportTasks with
    | .handleResponse _ json :: _ => (answers J c).all (passes J json)
    | _ => true
  | .mediasoup o =>
    match c.mediasoupTasks with
    | .loadMediasoupDevice _ _ :: _ => o.load.all (readable J c.options)
    | _ => true
  | _ => true

/-- The session goes on, no step reuses the id of a request of the negotiation that waits, the
replies are accepted and the device is usable. -/
def Cooperates (J : JsonText) (n : Negotiation) (a : Action) : Prop :=
  Ongoing n a ∧ (∀ k ∈ keysOf n.client a, stageAt k n.client.signalingClient = none) ∧
    cooperates J n.client a

instance (n : Negotiation) (a : Action) : Decidable (Cooperates J n a) :=
  inferInstanceAs (Decidable (_ ∧ _ ∧ _))

theorem handleResponse_leaves (R : Rapidjson) (json : String) (sc : SignalingClient Callback) :
    Leaves (handledKey R json) (some sc) (some (sc.handleResponse R json).1) := by
  refine ⟨fun _ => rfl, fun k s hk hs => ?_⟩
  unfold SignalingClient.handleResponse
  unfold handledKey at hk
  cases hid : SignalingClient.responseId R json with
  | none => exact hs
  | some id =>
    rw [hid, Option.toList_some, List.mem_singleton] at hk
    simp only [SignalingClient.takeRequest]
    cases hlookup : sc.requestMap.lookup id with
    | none => exact hs
    | some r =>
      simp only [stageAt, Option.bind_some] at hs ⊢
      rwa [HashMap.lookup_erase_eq_ite, if_neg hk]

/-- The callback that gets the answer is the one that waits under its key. -/
theorem handleResponse_stage {R : Rapidjson} {json : String} {sc : SignalingClient Callback}
    {k : ℤ} {s : Stage} (hk : k ∈ handledKey R json) (hs : stageAt k (some sc) = some s) :
    ∃ callback ∈ waiting (some sc), Stage.ofCallback callback = some s ∧
      (sc.handleResponse R json).2 = [.resolved callback json] := by
  simp only [handledKey, Option.mem_toList] at hk
  simp only [stageAt, Option.bind_eq_some_iff] at hs
  obtain ⟨client, hclient, r, hlookup, callback, hresolve, hcallback⟩ := hs
  cases hclient
  refine ⟨callback, ⟨sc, k, r, rfl, hlookup, Or.inl hresolve⟩, hcallback, ?_⟩
  simp [SignalingClient.handleResponse, hk, SignalingClient.takeRequest, hlookup,
    WebsocketRequest.resolveWith, hresolve]

theorem holds_invoke {seq : ℕ} {callback : Callback} {json : String}
    (h : invoke J seq (.resolved callback json) c = .ok c') : Holds [] c c' := by
  rcases invoke_ok h with rfl | ⟨_, r, -, rfl⟩ | ⟨producing, consuming, _, r, -, rfl⟩ |
    ⟨_, r, -, -, -, rfl⟩
  · exact .refl _ _
  · exact holds_post _
  · exact holds_post _
  · unfold onJoinReply
    cases accepted (⟨0, "", some r⟩ : MediasoupApi.Reply _) with
    | none => exact ⟨rfl, rfl, rfl, .refl _ _, le_rfl, List.prefix_rfl, fun _ => id⟩
    | some reply =>
      have hstate : Holds [] c
          { c with state := .connected, joinReplies := c.joinReplies ++ [r.ok] } :=
        ⟨rfl, rfl, rfl, .refl _ _, le_rfl, List.prefix_rfl, fun _ hc => ⟨rfl, hc.2⟩⟩
      exact hstate.trans (holds_post _)

theorem some_mem_tokens {t : MediasoupTask} {p : Option Stage} (ht : continuationOf t = some p) :
    p ∈ tokens (c.postMediasoup t) := by
  rw [tokens_postMediasoup, ht]
  simp

/-- The one reply that the guards let through. -/
theorem accepted_of_any {D : Type} {decode : String → Except JsonError (Response D)}
    {json : String}
    (h : (MediasoupApi.onSuccess decode json).any (fun reply => (accepted reply).isSome)) :
    ∃ r response, MediasoupApi.onSuccess decode json = [⟨0, "", some r⟩] ∧
      accepted (⟨0, "", some r⟩ : MediasoupApi.Reply (Response D)) = some response := by
  rcases onSuccess_cases decode json with hs | ⟨r, -, -, hs⟩
  · simp [hs] at h
  · rw [hs, List.any_cons, List.any_nil, Bool.or_false] at h
    obtain ⟨response, hresponse⟩ := Option.isSome_iff_exists.mp h
    exact ⟨r, response, hs, hresponse⟩

/-- A reply that passes is followed by the next continuation, and the last one by the news. -/
theorem invoke_carries {seq : ℕ} {callback : Callback} {json : String} {s : Stage}
    {before : List RoomState} (hs : Stage.ofCallback callback = some s) (hp : passes J json s)
    (hbefore : before <+: c.notified) (h : invoke J seq (.resolved callback json) c = .ok c') :
    some s ∈ tokens c' ∨ s = .join ∧ c'.Told before := by
  cases callback with
  | getRouterRtpCapabilities =>
    cases hs
    obtain ⟨r, response, hreply, haccepted⟩ := accepted_of_any hp
    simp only [invoke, MediasoupApi.replies, hreply, List.foldl_cons, List.foldl_nil,
      onRouterRtpCapabilitiesReply, haccepted, Except.ok.injEq] at h
    subst h
    exact Or.inl (some_mem_tokens rfl)
  | createWebRtcTransport producing consuming =>
    have hdecodes : (MediasoupApi.onSuccess
        (decodeCreateWebRtcTransportResponse J.rapidjson) json).any
          fun reply => (accepted reply).isSome := by
      cases producing <;> cases consuming <;> cases hs <;> exact hp
    obtain ⟨r, response, hreply, haccepted⟩ := accepted_of_any hdecodes
    simp only [invoke, MediasoupApi.replies, hreply, List.foldl_cons, List.foldl_nil,
      onCreateWebRtcTransportReply, haccepted, Except.ok.injEq] at h
    subst h
    have hstage : Stage.ofTransport producing consuming = some s := hs
    exact Or.inl (some_mem_tokens (by rw [continuationOf, hstage, Option.map_some]))
  | join =>
    cases hs
    obtain ⟨r, response, hreply, haccepted⟩ := accepted_of_any hp
    simp only [invoke, MediasoupApi.replies, hreply, List.foldl_cons, List.foldl_nil,
      onJoinReply, haccepted, Except.ok.injEq] at h
    subst h
    obtain ⟨later, hlater⟩ := hbefore
    refine Or.inr ⟨rfl, rfl, later, hlater.symm, Or.inr ⟨seq, response, ?_⟩⟩
    exact List.mem_append_right _ (List.mem_singleton_self _)
  | connectWebRtcTransport => cases hs
  | produce => cases hs
  | produceData => cases hs
  | ignored => cases hs

/-- What the posted part of `handleResponse` leaves, before the callback runs. -/
theorem holds_handleResponse {seq : ℕ} {json : String} {sc : SignalingClient Callback}
    (hsc : c.signalingClient = some sc) (h : c.handleResponse J seq json sc = .ok c') :
    Holds (handledKey J.rapidjson json) c c' := by
  have htable : Leaves (handledKey J.rapidjson json) c.signalingClient
      (some (sc.handleResponse J.rapidjson json).1) := by
    rw [hsc]
    exact handleResponse_leaves _ _ _
  unfold handleResponse at h
  simp only at h
  rcases handleResponse_calls J.rapidjson json sc with hcalls | ⟨callback, -, hcalls⟩
  · rw [hcalls] at h
    cases h
    exact ⟨rfl, rfl, rfl, htable, le_rfl, List.prefix_rfl, fun _ => id⟩
  · rw [hcalls] at h
    simp only [List.foldlM_cons, List.foldlM_nil, bind_ok, pure, Except.pure,
      Except.ok.injEq, exists_eq_right] at h
    have htaken : Holds (handledKey J.rapidjson json) c
        ({ c with signalingClient := some (sc.handleResponse J.rapidjson json).1 }.apply seq) :=
      ⟨rfl, rfl, rfl, htable, le_rfl, List.prefix_rfl, fun _ => id⟩
    exact htaken.trans ((holds_invoke h).mono (List.nil_subset _))

/-- A task of the transport thread is taken, and the continuation that it carries is posted. -/
theorem Holds.of_transport {t : TransportTask} {rest : List TransportTask}
    (ht : c.transportTasks = t :: rest) (h : Holds keys { c with transportTasks := rest } c')
    (htokens : ((openingOf t).toList : Multiset _) +
      Negotiation.tokens { c with transportTasks := rest } ≤ Negotiation.tokens c') :
    Holds keys c c' :=
  { h with
    tokens := by rwa [tokens_transport ht] }

/-- Any task of the transport thread but a response, while the client has its signaling client. -/
theorem runTransport_holds {t : TransportTask} (hd : ¬ Disconnects t)
    (hsome : c.signalingClient.isSome) (hn : ∀ seq json, t ≠ .handleResponse seq json)
    (h : c.runTransport J t = .ok c') :
    Holds [] c c' ∧ ((openingOf t).toList : Multiset _) + tokens c ≤ tokens c' := by
  unfold runTransport at h
  cases hsc : c.signalingClient with
  | none =>
    rw [hsc] at hsome
    cases hsome
  | some sc =>
    rw [hsc] at h
    cases t with
    | onOpened =>
      cases h
      exact ⟨holds_post _, (tokens_postMediasoup _).ge⟩
    | onClosed => exact absurd trivial hd
    | onFailed => exact absurd trivial hd
    | onMessage seq json =>
      have hmessage := onMessage_holds h
      exact ⟨hmessage, by simpa [openingOf] using hmessage.tokens⟩
    | handleResponse seq json => exact absurd rfl (hn seq json)

/-- The device that the request of the task is made with. -/
def deviceFor (o : Oracle) (t : MediasoupTask) (c : RoomClient) : Option Device :=
  match t with
  | .loadMediasoupDevice _ _ => c.loadDevice o
  | _ => c.mediasoupDevice

theorem onLoadMediasoupDevice_device
    {response : Response GetRouterRtpCapabilitiesResponse.Data.Val}
    (h : c.onLoadMediasoupDevice J response o = .ok c') :
    c'.hasApi = c.hasApi ∧ c'.notified = c.notified ∧ c'.mediasoupDevice = c.loadDevice o ∧
      (c.loadDevice o).isSome := by
  simp only [onLoadMediasoupDevice, bind_ok] at h
  obtain ⟨data, -, device, hload, mc, -, h⟩ := h
  have hdevice : c.loadDevice o = some device := by
    cases hd : c.loadDevice o with
    | none => simp [hd] at hload
    | some d => simpa [hd] using hload
  rw [hdevice]
  split_ifs at h
  · obtain ⟨sc, rfl, -⟩ := requestCreateTransport_ok h
    exact ⟨rfl, rfl, rfl, rfl⟩
  · obtain ⟨sc, rfl, -⟩ := requestCreateTransport_ok h
    exact ⟨rfl, rfl, rfl, rfl⟩
  · obtain ⟨sc, rfl, -⟩ := joinImpl_ok h
    exact ⟨rfl, rfl, rfl, rfl⟩

theorem runMediasoup_device {t : MediasoupTask} {p : Option Stage}
    (ht : continuationOf t = some p) (h : c.runMediasoup J t o = .ok c') :
    c'.hasApi = c.hasApi ∧ c'.notified = c.notified ∧ c'.mediasoupDevice = deviceFor o t c ∧
      (p = some .getRouterRtpCapabilities → (deviceFor o t c).isSome) := by
  cases t with
  | getRouterRtpCapabilities =>
    cases ht
    obtain ⟨sc, rfl, -⟩ := getRouterRtpCapabilities_ok h
    exact ⟨rfl, rfl, rfl, nofun⟩
  | loadMediasoupDevice seq response =>
    obtain ⟨hapi, hnotified, hdevice, hsome⟩ := onLoadMediasoupDevice_device h
    exact ⟨hapi, hnotified, hdevice, fun _ => hsome⟩
  | createTransport seq producing consuming response =>
    have hne : p ≠ some .getRouterRtpCapabilities := by
      rintro rfl
      cases producing <;> cases consuming <;> simp [continuationOf, Stage.ofTransport] at ht
    have hsame {d : RoomClient} {callback : Callback}
        (hd : d = c.apply seq ∨ CreatesTransport (c.apply seq) d) (hr : Requests callback d c') :
        c'.hasApi = c.hasApi ∧ c'.notified = c.notified ∧
          c'.mediasoupDevice = c.mediasoupDevice := by
      obtain ⟨sc, rfl, -⟩ := hr
      rcases hd with rfl | ⟨-, -, mc, send, recv, component, rfl⟩
      · exact ⟨rfl, rfl, rfl⟩
      · exact ⟨rfl, rfl, rfl⟩
    simp only [runMediasoup] at h
    split_ifs at h
    · obtain ⟨d, callback, hd, hr⟩ := onCreateSendTransport_ok h
      obtain ⟨hapi, hnotified, hdevice⟩ := hsame (createTransportImpl_ok hd) hr
      exact ⟨hapi, hnotified, hdevice, fun hp => absurd hp hne⟩
    · obtain ⟨d, callback, hd, hr⟩ := onCreateRecvTransport_ok h
      obtain ⟨hapi, hnotified, hdevice⟩ := hsame (createTransportImpl_ok hd) hr
      exact ⟨hapi, hnotified, hdevice, fun hp => absurd hp hne⟩
    · cases h
      exact ⟨rfl, rfl, rfl, fun hp => absurd hp hne⟩
  | closed => cases ht
  | joined seq state response => cases ht
  | newConsumer seq request => cases ht
  | newDataConsumer seq request => cases ht
  | updateConsumer seq tid paused => cases ht
  | consumerClosed seq notification => cases ht

variable {device : Device}

theorem createTransportRequest_isSome {forceTcp producing consuming : Bool} (hapi : c.hasApi)
    (hdevice : c.mediasoupDevice = some device) (hr : readable J c.options device) :
    (createTransportRequest J forceTcp producing consuming c).isSome := by
  unfold createTransportRequest
  rw [hapi, hdevice]
  cases hdata : c.options.datachannel.getD false with
  | false => rfl
  | true =>
    simp only [readable, hdata, Bool.not_true, Bool.false_or, Bool.and_eq_true] at hr
    simpa using hr.1.1

theorem joinImplRequest_isSome (hapi : c.hasApi) (hdevice : c.mediasoupDevice = some device)
    (hr : readable J c.options device) : (joinImplRequest J c).isSome := by
  simp only [readable, Bool.and_eq_true, Bool.or_eq_true, Bool.not_eq_true'] at hr
  have hsctp : (if c.options.datachannel.getD false then
      (readCapabilities J JoinRequest.SCTPCapabilities device.sctpCapabilities).map some
      else some none).isSome := by
    split_ifs with hdata
    · rcases hr.1 with hno | hyes
      · rw [hdata] at hno
        cases hno
      · simpa using hyes.2
    · rfl
  have hrtp : (if c.options.consume.getD false then
      (readCapabilities J JoinRequest.RTPCapabilities device.rtpCapabilities).map some
      else some none).isSome := by
    split_ifs with hconsume
    · rcases hr.2 with hno | hyes
      · rw [hconsume] at hno
        cases hno
      · simpa using hyes
    · rfl
  obtain ⟨sctp, hsctp⟩ := Option.isSome_iff_exists.mp hsctp
  obtain ⟨rtp, hrtp⟩ := Option.isSome_iff_exists.mp hrtp
  simp only [joinImplRequest, hdevice, Option.bind_some, hsctp, hrtp, hapi, Bool.not_true,
    Bool.false_eq_true, ↓reduceIte, Option.map_some, Option.isSome_some]

/-- With a usable device the task makes its request. -/
theorem requestOf_isSome {t : MediasoupTask} {p : Option Stage} (ht : continuationOf t = some p)
    (hapi : c.hasApi)
    (hdevice : p ≠ none → ∃ device, deviceFor o t c = some device ∧ readable J c.options device) :
    (requestOf J o t c).isSome := by
  cases t with
  | getRouterRtpCapabilities => simp [requestOf, hapi]
  | loadMediasoupDevice seq response =>
    cases ht
    obtain ⟨device, hloaded, hreadable⟩ := hdevice (Option.some_ne_none _)
    change c.loadDevice o = some device at hloaded
    simp only [requestOf, hloaded]
    split_ifs
    · exact createTransportRequest_isSome hapi rfl hreadable
    · exact createTransportRequest_isSome hapi rfl hreadable
    · exact joinImplRequest_isSome hapi rfl hreadable
  | createTransport seq producing consuming response =>
    obtain ⟨q, hq, rfl⟩ := Option.map_eq_some_iff.mp ht
    obtain ⟨device, hhas, hreadable⟩ := hdevice (Option.some_ne_none _)
    simp only [requestOf]
    split_ifs with hp hconsume hc
    · exact createTransportRequest_isSome hapi hhas hreadable
    · exact joinImplRequest_isSome hapi hhas hreadable
    · exact joinImplRequest_isSome hapi hhas hreadable
    · simp [Stage.ofTransport, hp, hc] at hq
  | closed => cases ht
  | joined seq state response => cases ht
  | newConsumer seq request => cases ht
  | newDataConsumer seq request => cases ht
  | updateConsumer seq tid paused => cases ht
  | consumerClosed seq notification => cases ht

/-- A continuation is always followed by a request. -/
theorem following_continuation {t : MediasoupTask} {p : Option Stage}
    (ht : continuationOf t = some p) (options : Options) : (following options p).isSome := by
  have hne : p ≠ some .join := by
    rintro rfl
    cases t with
    | createTransport seq producing consuming response =>
      cases producing <;> cases consuming <;> simp [continuationOf, Stage.ofTransport] at ht
    | _ => cases ht
  unfold following
  split
  · rfl
  · split_ifs <;> rfl
  · split_ifs <;> rfl
  · rfl
  · exact absurd rfl hne

/-- Something goes on: a continuation is on its way, a request waits, or the join is answered. -/
def Moves (before : List RoomState) (n : Negotiation) : Prop :=
  tokens n.client ≠ 0 ∨ (∃ k s, stageAt k n.client.signalingClient = some s) ∨
    n.client.Told before ∧ .issued .join ∈ n.trace

structure Live (J : JsonText) (before : List RoomState) (n : Negotiation) : Prop where
  api : n.client.hasApi
  signaling : n.client.signalingClient.isSome
  usable : ∀ device ∈ n.client.mediasoupDevice, readable J n.client.options device
  reports : before <+: n.client.notified
  moves : n.opened → Moves before n

variable {options : Options} {n n' : Negotiation} {opened : Bool}
variable {trace : List (Foundation.Exchange Stage)} {before : List RoomState}

/-- A step that loses nothing. -/
theorem Live.holds (h : Live J before n) (hk : Holds keys n.client c')
    (hfree : ∀ k ∈ keys, stageAt k n.client.signalingClient = none)
    (htrace : ∀ s, .issued s ∈ n.trace → .issued s ∈ trace)
    (hopened : opened → n.opened ∨ tokens c' ≠ 0) : Live J before ⟨c', opened, trace⟩ where
  api := hk.hasApi.trans h.api
  signaling := hk.table.isSome h.signaling
  usable := by
    rw [hk.device, hk.options]
    exact h.usable
  reports := h.reports.trans hk.notified
  moves ho := by
    rcases hopened ho with hold | hnew
    · rcases h.moves hold with htokens | ⟨k, s, hs⟩ | ⟨htold, hissued⟩
      · left
        intro hz
        have hle := hk.tokens
        change Negotiation.tokens c' = 0 at hz
        rw [hz, nonpos_iff_eq_zero] at hle
        exact htokens hle
      · refine Or.inr (Or.inl ⟨k, s, hk.table.stage k s (fun hmem => ?_) hs⟩)
        rw [hfree k hmem] at hs
        cases hs
      · exact Or.inr (Or.inr ⟨hk.told before htold, htrace _ hissued⟩)
    · exact Or.inl hnew

/-- A step in which a request of the negotiation is answered or made. -/
theorem Live.advances {n' : Negotiation} (h : Live J before n) (hk : Holds keys n.client n'.client)
    (hmoves : Moves before n') : Live J before n' where
  api := hk.hasApi.trans h.api
  signaling := hk.table.isSome h.signaling
  usable := by
    rw [hk.device, hk.options]
    exact h.usable
  reports := h.reports.trans hk.notified
  moves _ := hmoves

theorem Live.call_step {a : ApiCall} (h : Live J before n) (hi : Inv options n)
    (ha : Cooperates J n (.call a o)) (hs : n.client.step J (.call a o) = .ok c') :
    Live J before { n with client := c' } := by
  have hfree : ∀ k ∈ [(o.requestId 0).val], stageAt k n.client.signalingClient = none := ha.2.1
  cases a with
  | join hostname port roomId displayName options' =>
    have hsame : n.client.step J (.call (.join hostname port roomId displayName options') o) =
        .ok n.client := join_ongoing hi.state
    rw [hsame, Except.ok.injEq] at hs
    subst hs
    exact h
  | leave => exact absurd ha.1 id
  | destroy => exact absurd ha.1 id
  | enableAudio enabled =>
    exact h.holds (holds_usesMedia (fun _ _ => Media.enableAudio_sends) hs) hfree
      (fun _ => id) Or.inl
  | muteAudio muted =>
    have hmute : ∀ m m' : Media, m.outgoing = [] →
        (.ok (m.muteAudio muted) : Except Fault Media) = .ok m' → Sends [] m'.outgoing := by
      intro m m' hm hop
      cases hop
      exact Media.muteAudio_sends muted hm
    exact h.holds (holds_usesMedia hmute hs) hfree (fun _ => id) Or.inl
  | enableVideo enabled trackName =>
    exact h.holds (holds_usesMedia (fun _ _ => Media.enableVideo_sends) hs) hfree
      (fun _ => id) Or.inl

theorem Live.socket_step {e : SocketEvent} (h : Live J before n) (ha : Cooperates J n (.socket e)) :
    Live J before { n with
      client := n.client.onSocket e, opened := n.opened || opens (.socket e) } := by
  cases e with
  | opened =>
    apply h.holds (holds_postTransport .onOpened) (List.forall_mem_nil _) (fun _ => id)
    intro _
    right
    rw [tokens_postTransport, openingOf, Option.toList_some, Multiset.coe_singleton,
      Multiset.singleton_add]
    exact Multiset.cons_ne_zero
  | closed => exact absurd ha.1 id
  | failed => exact absurd ha.1 id
  | message json =>
    have harrived : Holds [] n.client { n.client with arrived := n.client.arrived + 1 } :=
      ⟨rfl, rfl, rfl, .refl _ _, le_rfl, List.prefix_rfl, fun _ => id⟩
    apply h.holds (harrived.trans (holds_postTransport (.onMessage n.client.arrived json)))
      (List.forall_mem_nil _) (fun _ => id)
    intro ho
    exact Or.inl (by simpa [opens] using ho)

/-- A response either belongs to no request of the negotiation, or carries it on. -/
theorem Live.response_step {seq : ℕ} {json : String} {rest : List TransportTask}
    (h : Live J before n) (hi : Inv options n) (ha : Cooperates J n .transport)
    (ht : n.client.transportTasks = .handleResponse seq json :: rest)
    (hs : { n.client with transportTasks := rest }.runTransport J (.handleResponse seq json) =
      .ok c') :
    Live J before
      { n with client := c', trace := n.trace ++ (answers J n.client).map .answered } := by
  obtain ⟨sc, hsc⟩ := Option.isSome_iff_exists.mp h.signaling
  have hrun : { n.client with transportTasks := rest }.handleResponse J seq json sc = .ok c' := by
    simpa only [runTransport, hsc] using hs
  have hsc' : { n.client with transportTasks := rest }.signalingClient = some sc := hsc
  have hhandled := holds_handleResponse hsc' hrun
  have hkeep := Holds.of_transport ht hhandled (by simpa [openingOf] using hhandled.tokens)
  by_cases hfree : ∀ k ∈ handledKey J.rapidjson json, stageAt k n.client.signalingClient = none
  · exact h.holds hkeep hfree (fun _ => List.mem_append_left _) Or.inl
  · push Not at hfree
    obtain ⟨k, hk, hne⟩ := hfree
    obtain ⟨s, hstage⟩ := Option.ne_none_iff_exists'.mp hne
    rw [hsc] at hstage
    obtain ⟨callback, hwaits, hcallback, hcalls⟩ := handleResponse_stage hk hstage
    have hissued : .issued s ∈ n.trace := hi.waits callback (hsc ▸ hwaits) s hcallback
    have hanswers : answers J n.client = [s] := by
      simp [answers, ht, hsc, hcalls, hcallback]
    have hpasses : passes J json s := by
      have hall := ha.2.2
      simpa [cooperates, ht, hanswers] using hall
    simp only [RoomClient.handleResponse, hcalls, List.foldlM_cons, List.foldlM_nil, bind_ok,
      pure, Except.pure, Except.ok.injEq, exists_eq_right] at hrun
    have hbefore : before <+: ({ n.client with
        transportTasks := rest
        signalingClient := some (sc.handleResponse J.rapidjson json).1 }.apply seq).notified :=
      h.reports
    apply h.advances hkeep
    rcases invoke_carries hcallback hpasses hbefore hrun with htoken | ⟨rfl, htold⟩
    · left
      intro hz
      change tokens c' = 0 at hz
      rw [hz] at htoken
      exact Multiset.notMem_zero _ htoken
    · exact Or.inr (Or.inr ⟨htold, List.mem_append_left _ hissued⟩)

theorem Live.transport_step (h : Live J before n) (hi : Inv options n)
    (ha : Cooperates J n .transport) (hs : n.client.step J .transport = .ok c') :
    Live J before
      { n with client := c', trace := n.trace ++ (answers J n.client).map .answered } := by
  rcases step_transport hs with ⟨-, rfl⟩ | ⟨t, rest, ht, hs⟩
  · exact h.holds (.refl [] _) (List.forall_mem_nil _) (fun _ => List.mem_append_left _) Or.inl
  · by_cases hresponse : ∃ seq json, t = .handleResponse seq json
    · obtain ⟨seq, json, rfl⟩ := hresponse
      exact h.response_step hi ha ht hs
    · have hd : ¬ Disconnects t := hi.transport t (by simp [ht])
      have hsome : { n.client with transportTasks := rest }.signalingClient.isSome := h.signaling
      obtain ⟨hkeep, htokens⟩ := runTransport_holds hd hsome
        (fun seq json he => hresponse ⟨seq, json, he⟩) hs
      exact h.holds (Holds.of_transport ht hkeep htokens) (List.forall_mem_nil _)
        (fun _ => List.mem_append_left _) Or.inl

variable (htext : ∀ id r, (J.request id r).isEmpty = false)

/-- The device that the next request needs was loaded before. -/
theorem Inv.has_device {t : MediasoupTask} {rest : List MediasoupTask} {q : Stage}
    (h : Inv options n) (ht : n.client.mediasoupTasks = t :: rest)
    (hp : continuationOf t = some (some q)) (hq : q ≠ .getRouterRtpCapabilities) :
    n.client.mediasoupDevice.isSome := by
  have htokens : allTokens n.opened n.client =
      some q ::ₘ allTokens n.opened { n.client with mediasoupTasks := rest } := by
    rw [allTokens, allTokens, tokens_mediasoup ht, hp, Option.toList_some,
      Multiset.coe_singleton, Multiset.singleton_add, Multiset.add_cons]
  have hprogress := h.progress
  rw [htokens] at hprogress
  have hequipped := h.equipped q (hprogress.issued_of_token rfl)
  cases q with
  | getRouterRtpCapabilities => exact absurd rfl hq
  | createSendTransport => exact hequipped
  | createRecvTransport => exact hequipped.1
  | join => exact hequipped.1

theorem Live.usable_device {t : MediasoupTask} {rest : List MediasoupTask} {device : Device}
    (h : Live J before n) (ha : Cooperates J n (.mediasoup o))
    (ht : n.client.mediasoupTasks = t :: rest)
    (hdevice : deviceFor o t { n.client with mediasoupTasks := rest } = some device) :
    readable J n.client.options device := by
  have hother : n.client.mediasoupDevice = some device → readable J n.client.options device :=
    fun hd => h.usable device hd
  cases t with
  | loadMediasoupDevice seq response =>
    have hload := ha.2.2
    simp only [cooperates, ht] at hload
    simp only [deviceFor, loadDevice] at hdevice
    split_ifs at hdevice
    rw [hdevice] at hload
    exact hload
  | _ => exact hother hdevice

/-- The next task of the mediasoup thread makes the next request. -/
theorem Live.issue {t : MediasoupTask} {rest : List MediasoupTask} {p : Option Stage}
    (htext : ∀ id r, (J.request id r).isEmpty = false) (h : Live J before n) (hi : Inv options n)
    (ha : Cooperates J n (.mediasoup o)) (ht : n.client.mediasoupTasks = t :: rest)
    (hp : continuationOf t = some p)
    (hs : { n.client with mediasoupTasks := rest }.runMediasoup J t o = .ok c') :
    Live J before ⟨c', opened, trace⟩ := by
  obtain ⟨hapi, hnotified, hdevice, hloaded⟩ := runMediasoup_device hp hs
  obtain ⟨d, hprep, hover⟩ := runMediasoup_prepares hp hs
  have hneeds : p ≠ none →
      ∃ device, deviceFor o t { n.client with mediasoupTasks := rest } = some device ∧
        readable J n.client.options device := by
    intro hne
    obtain ⟨q, rfl⟩ := Option.ne_none_iff_exists'.mp hne
    have hsome : (deviceFor o t { n.client with mediasoupTasks := rest }).isSome := by
      by_cases hq : q = .getRouterRtpCapabilities
      · exact hloaded (by rw [hq])
      · have hhas := hi.has_device ht hp hq
        cases t with
        | loadMediasoupDevice seq response =>
          cases hp
          exact absurd rfl hq
        | _ => exact hhas
    obtain ⟨device, hhas⟩ := Option.isSome_iff_exists.mp hsome
    exact ⟨device, hhas, h.usable_device ha ht hhas⟩
  obtain ⟨r, hr⟩ := Option.isSome_iff_exists.mp
    (requestOf_isSome (c := { n.client with mediasoupTasks := rest }) (J := J) hp h.api hneeds)
  obtain ⟨s, hstage⟩ := Option.isSome_iff_exists.mp (following_continuation hp n.client.options)
  rw [hr] at hover
  have hsignaling : d.signalingClient.isSome := by
    rw [hprep.signalingClient]
    exact h.signaling
  have hwaits : stageAt (o.requestId 0).val c'.signalingClient = some s := by
    rw [stageAt_request (htext _ _) hsignaling hover, requestOf_stage hp hr]
    exact hstage
  have hoptions : c'.options = n.client.options := by
    obtain ⟨sc, rfl, -⟩ := request_ok hover
    exact hprep.options
  have hreports : before <+: c'.notified := by
    rw [hnotified]
    exact h.reports
  refine ⟨hapi.trans h.api, ?_, ?_, hreports, fun _ => Or.inr (Or.inl ⟨_, s, hwaits⟩)⟩
  · cases hsc : c'.signalingClient with
    | none =>
      rw [hsc] at hwaits
      cases hwaits
    | some sc => rfl
  · intro device hmem
    rw [hoptions]
    exact h.usable_device ha ht (hdevice.symm.trans hmem)

theorem Live.mediasoup_step (htext : ∀ id r, (J.request id r).isEmpty = false) (h : Live J before n)
    (hi : Inv options n) (ha : Cooperates J n (.mediasoup o))
    (hs : n.client.step J (.mediasoup o) = .ok c') :
    Live J before { n with
      client := c', trace := n.trace ++ (issues J o n.client).toList.map .issued } := by
  rcases step_mediasoup hs with ⟨-, rfl⟩ | ⟨t, rest, ht, hs⟩
  · exact h.holds (.refl [] _) (List.forall_mem_nil _) (fun _ => List.mem_append_left _) Or.inl
  · cases hp : continuationOf t with
    | some p => exact h.issue htext hi ha ht hp hs
    | none =>
      have hends : ¬ Ends t := hi.mediasoup t (by simp [ht])
      have hfree := ha.2.1
      simp only [keysOf, ht, List.head?_cons, Option.elim_some] at hfree
      exact h.holds (runMediasoup_holds ht hends hp hs) hfree
        (fun _ => List.mem_append_left _) Or.inl

theorem Live.step {a : Action} (htext : ∀ id r, (J.request id r).isEmpty = false)
    (h : Live J before n) (hi : Inv options n) (ha : Cooperates J n a) (hs : n.step J a = .ok n') :
    Live J before n' := by
  simp only [Negotiation.step, bind_ok, pure, Except.pure, Except.ok.injEq] at hs
  obtain ⟨client, hclient, rfl⟩ := hs
  cases a with
  | call a o => simpa [events, opens] using h.call_step hi ha hclient
  | socket e =>
    cases hclient
    simpa [events] using h.socket_step ha
  | listener l o =>
    have hkeep := h.holds (listen_holds hclient) ha.2.1 (fun _ => id) Or.inl
    simpa [events, opens] using hkeep
  | transport => simpa [events, opens] using h.transport_step hi ha hclient
  | mediasoup o => simpa [events, opens] using h.mediasoup_step htext hi ha hclient

/-- An accepted join of a client that was not connected before begins it. -/
theorem Quiet.live {hostname : String} {port : ℕ} {roomId displayName : String}
    {options : Option Options} (J : JsonText) (hapi : c.hasApi) (hdevice : c.mediasoupDevice = none)
    (ha : c.Accepts hostname roomId displayName)
    (hs : c.step J (.call (.join hostname port roomId displayName options) o) = .ok c') :
    Live J c'.notified { client := c' } := by
  rcases join_ok hs with ⟨hn, -⟩ | ⟨-, sc, hsc, rfl⟩
  · exact absurd ha hn
  · refine ⟨hapi, rfl, fun device hmem => ?_, List.prefix_rfl, nofun⟩
    change device ∈ c.mediasoupDevice at hmem
    rw [hdevice] at hmem
    cases hmem

/-- When nothing is queued and no request of the negotiation waits, the join was answered. -/
theorem Live.told (h : Live J before n) (hopened : n.opened)
    (htransport : n.client.transportTasks = []) (hmediasoup : n.client.mediasoupTasks = [])
    (howed : owed n.client.signalingClient = []) :
    n.client.Told before ∧ .issued .join ∈ n.trace := by
  rcases h.moves hopened with htokens | ⟨k, s, hs⟩ | hdone
  · refine absurd ?_ htokens
    simp [tokens, htransport, hmediasoup]
  · have hmem := mem_owed hs
    rw [howed] at hmem
    cases hmem
  · exact hdone

/-- A negotiation with an SFU that accepts what the client asks for does not come to rest before
the client is connected: in every interleaving, when the socket has opened, both threads are idle
and no request of the negotiation waits for its answer, the application has been told that the
client is connected, and the transports that the options ask for are there. -/
theorem rests_connected (J : JsonText) {hostname : String} {port : ℕ}
    {roomId displayName : String} {options : Option Options} {o : Oracle} {c₀ c : RoomClient}
    (htext : ∀ id r, (J.request id r).isEmpty = false) (hquiet : Quiet c₀) (hapi : c₀.hasApi)
    (hdevice : c₀.mediasoupDevice = none) (haccepts : c₀.Accepts hostname roomId displayName)
    (hjoin : c₀.step J (.call (.join hostname port roomId displayName options) o) = .ok c)
    {run : List Action} (hrun : Guarded (step J) (Cooperates J) { client := c } run) :
    ∀ pre, pre <+: run → ∀ n, exec (step J) { client := c } pre = .ok n →
      n.opened → n.client.transportTasks = [] → n.client.mediasoupTasks = [] →
      owed n.client.signalingClient = [] →
        n.client.state = .connected ∧
        (∃ later, n.client.notified = c.notified ++ later ∧ .connected ∈ later) ∧
        ((options.getD {}).produce.getD false → n.client.sendTransport.isSome) ∧
        ((options.getD {}).consume.getD false → n.client.recvTransport.isSome) := by
  rintro pre ⟨post, rfl⟩ n hn hopened htransport hmediasoup howed
  have hstart : Inv (options.getD {}) { client := c } ∧ Live J c.notified { client := c } :=
    ⟨hquiet.start haccepts hjoin, Quiet.live J hapi hdevice haccepts hjoin⟩
  have hsession := guarded_inSession hquiet haccepts hjoin (fun _ _ ha => ha.1) hrun
  have hboth : Inv (options.getD {}) n ∧ Live J c.notified n :=
    exec_invariant (I := fun n => Inv (options.getD {}) n ∧ Live J c.notified n)
      (fun _ _ _ hi hok hs => ⟨hi.1.step hok.1 hs, hi.2.step htext hi.1 hok.2 hs⟩)
      (guarded_append.mp hsession).1 hstart hn
  obtain ⟨htold, hissued⟩ := hboth.2.told hopened htransport hmediasoup howed
  have hequipped := hboth.1.equipped .join hissued
  rw [Equipped, hboth.1.same] at hequipped
  obtain ⟨hconnected, later, hlater, hnotified | ⟨seq, response, hmem⟩⟩ := htold
  · exact ⟨hconnected, ⟨later, hlater, hnotified⟩, hequipped.2⟩
  · rw [hmediasoup] at hmem
    cases hmem

/-- A session that sends and receives, up to the report that it is connected. -/
theorem rests_connected_session :
    ∃ n, exec (step mediaJson) { client := joined } mediaNegotiation = .ok n ∧
      n.client.state = .connected ∧
      (∃ later, n.client.notified = joined.notified ++ later ∧ .connected ∈ later) ∧
      n.client.sendTransport.isSome ∧ n.client.recvTransport.isSome := by
  have hguard : Guarded (step mediaJson) (Cooperates mediaJson) { client := joined }
      mediaNegotiation := by
    decide +kernel
  have haccepts : initial.Accepts "sfu" "room" "alice" :=
    ⟨rfl, by decide, by decide, by decide, rfl⟩
  have htext : ∀ id r, (mediaJson.request id r).isEmpty = false := by
    intro id r
    cases r with
    | createWebRtcTransport consuming producing forceTcp caps => cases producing <;> rfl
    | _ => rfl
  have hobserved : (exec (step mediaJson) { client := joined } mediaNegotiation).toOption.map
      (fun n => (n.opened, n.client.transportTasks.length, n.client.mediasoupTasks.length,
        owed n.client.signalingClient)) = some (true, 0, 0, []) := by
    decide +kernel
  obtain ⟨n, hn, hfacts⟩ := exec_of_observed hobserved
  simp only [Prod.mk.injEq, List.length_eq_zero_iff] at hfacts
  obtain ⟨hopened, htransport, hmediasoup, howed⟩ := hfacts
  obtain ⟨hconnected, hlater, hsend, hrecv⟩ := rests_connected mediaJson htext initial_quiet rfl
    rfl haccepts rfl hguard _ (List.prefix_refl _) n hn hopened htransport hmediasoup howed
  exact ⟨n, hn, hconnected, hlater, hsend rfl, hrecv rfl⟩

end Negotiation

end RoomClient
end MediasoupSdk
