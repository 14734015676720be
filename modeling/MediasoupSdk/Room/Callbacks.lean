import MediasoupSdk.Room.Changes

/-! The callbacks of the six requests and the `ok` member of the responses that they receive. -/
namespace MediasoupSdk
open Foundation Signaling
namespace RoomClient

/-- A response as the callback of its request receives it. -/
inductive Delivered where
  | capabilities (response : Response GetRouterRtpCapabilitiesResponse.Data.Val)
  | transport (producing consuming : Bool)
      (response : Response CreateWebRtcTransportResponse.Data)
  | joined (response : Response JoinResponse.Data)
  | connected (response : Response Unit)
  | produced (response : Response ProduceResponse.Data)

namespace Delivered

def ok : Delivered → Option Bool
  | capabilities response => response.ok
  | transport _ _ response => response.ok
  | joined response => response.ok
  | connected response => response.ok
  | produced response => response.ok

/-- The response is that of `connectWebRtcTransport`, whose callback does the same in every
branch. -/
def IsConnect : Delivered → Prop
  | connected _ => True
  | _ => False

/-- The body of the callback. -/
def handle (seq : ℕ) (c : RoomClient) : Delivered → Except Fault RoomClient
  | capabilities response => .ok (c.onRouterRtpCapabilitiesReply seq ⟨0, "", some response⟩)
  | transport producing consuming response =>
    .ok (c.onCreateWebRtcTransportReply seq producing consuming ⟨0, "", some response⟩)
  | joined response => .ok (c.onJoinReply seq ⟨0, "", some response⟩)
  | connected response => do
    MediasoupApi.onConnectReply true ⟨0, "", some response⟩
    return c
  | produced response => do
    let _ ← MediasoupApi.onProduceReply true ⟨0, "", some response⟩
    return c

/-- A produce callback sets its promise to the empty id and reads no data. -/
def EmptyId : Delivered → Prop
  | produced response => ∀ data,
      MediasoupApi.onProduceReply true ⟨0, "", some { response with data }⟩ = .ok ""
  | _ => True

end Delivered

variable (J : JsonText)

/-- What a callback receives for a text. -/
inductive Receives (json : String) : Callback → Delivered → Prop where
  | capabilities {r} (hr : decodeGetRouterRtpCapabilitiesResponse J.rapidjson json = .ok r) :
      Receives json .getRouterRtpCapabilities (.capabilities r)
  | transport {producing consuming r}
      (hr : decodeCreateWebRtcTransportResponse J.rapidjson json = .ok r) :
      Receives json (.createWebRtcTransport producing consuming) (.transport producing consuming r)
  | joined {r} (hr : decodeJoinResponse J.rapidjson json = .ok r) :
      Receives json .join (.joined r)
  | connected {r} (hr : decodeBasicResponse J.rapidjson json = .ok r) :
      Receives json .connectWebRtcTransport (.connected r)
  | produced {r} (hr : decodeProduceResponse J.rapidjson json = .ok r) :
      Receives json .produce (.produced r)
  | producedData {r} (hr : decodeProduceResponse J.rapidjson json = .ok r) :
      Receives json .produceData (.produced r)

/-- The next task of the transport thread hands the response to the callback that waits. -/
def Delivers (c : RoomClient) (d : Delivered) : Prop :=
  ∃ seq json rest sc callback, c.transportTasks = .handleResponse seq json :: rest ∧
    c.signalingClient = some sc ∧
    (sc.handleResponse J.rapidjson json).2 = [.resolved callback json] ∧
    json.isEmpty = false ∧ Receives J json callback d

/-- The texts that the client has sent. -/
def sent (c : RoomClient) : Option (List (ℕ × ℤ × String)) :=
  c.signalingClient.map fun sc => sc.transport.sent

/-- The session is where it was: no change of state, no component created, no continuation
posted, no request sent. -/
structure SameSession (c c' : RoomClient) : Prop where
  state : c'.state = c.state
  notified : c'.notified = c.notified
  device : c'.mediasoupDevice = c.mediasoupDevice
  created : c'.created = c.created
  tasks : c'.mediasoupTasks = c.mediasoupTasks
  sent : c'.sent = c.sent

/-- The delivery of the response completes and leaves the session as it was. -/
def FailurePath (c : RoomClient) (d : Delivered) : Prop :=
  (∃ c', c.step J .transport = .ok c' ∧ SameSession c c') ∧ d.EmptyId

/-- If the action delivers a response whose `ok` is absent or false, the callback takes its
failure path. -/
def TakesFailurePath (c : RoomClient) (a : Action) : Prop :=
  a = .transport → ∀ d, c.Delivers J d → d.ok ≠ some true → c.FailurePath J d

/-- The action delivers no response whose `ok` is false, except to the callback of
`connectWebRtcTransport`. -/
def NoneRefused (c : RoomClient) (a : Action) : Prop :=
  a = .transport → ∀ d, c.Delivers J d → d.ok = some false → d.IsConnect

variable {J} {c c' : RoomClient} {d : Delivered}

theorem accepted_absent {D : Type} {r : Response D} (hr : r.ok = none) :
    accepted (⟨0, "", some r⟩ : MediasoupApi.Reply (Response D)) = none := by
  simp [accepted, hr]

/-- The guards pass as soon as the member is there. -/
theorem accepted_present {D : Type} {r : Response D} {value : Bool} (hr : r.ok = some value) :
    accepted (⟨0, "", some r⟩ : MediasoupApi.Reply (Response D)) = some r := by
  simp [accepted, Option.filter, hr]

theorem onSuccess_eq {D : Type} {decode : String → Except JsonError D} {json : String} {r : D}
    (hjson : json.isEmpty = false) (hr : decode json = .ok r) :
    MediasoupApi.onSuccess decode json = [⟨0, "", some r⟩] := by
  simp [MediasoupApi.onSuccess, hjson, hr]

theorem invoke_eq_handle {seq : ℕ} {json : String} {callback : Callback}
    (hjson : json.isEmpty = false) (hd : Receives J json callback d) :
    invoke J seq (.resolved callback json) c = d.handle seq c := by
  cases hd with
  | capabilities hr => simp [invoke, MediasoupApi.replies, onSuccess_eq hjson hr, Delivered.handle]
  | transport hr => simp [invoke, MediasoupApi.replies, onSuccess_eq hjson hr, Delivered.handle]
  | joined hr => simp [invoke, MediasoupApi.replies, onSuccess_eq hjson hr, Delivered.handle]
  | connected hr => simp [invoke, MediasoupApi.replies, onSuccess_eq hjson hr, Delivered.handle]
  | produced hr => simp [invoke, MediasoupApi.replies, onSuccess_eq hjson hr, Delivered.handle]
  | producedData hr => simp [invoke, MediasoupApi.replies, onSuccess_eq hjson hr, Delivered.handle]

theorem handleResponse_transport (R : Rapidjson) (json : String) (sc : SignalingClient Callback) :
    (sc.handleResponse R json).1.transport = sc.transport := by
  unfold SignalingClient.handleResponse
  split
  · rfl
  · rename_i id hid
    unfold SignalingClient.takeRequest
    cases sc.requestMap.lookup id with
    | none => rfl
    | some r => rfl

/-- A delivery is the body of the callback in a client that differs from the one before in the
queue, the table of requests and the record of effects. -/
theorem Delivers.step_eq (h : c.Delivers J d) :
    ∃ seq rest sc', sc'.map (fun sc => sc.transport.sent) = c.sent ∧
      c.step J .transport = d.handle seq ({ c with
        transportTasks := rest, signalingClient := sc' }.apply seq) := by
  obtain ⟨seq, json, rest, sc, callback, htasks, hsc, hcall, hjson, hd⟩ := h
  refine ⟨seq, rest, some (sc.handleResponse J.rapidjson json).1, ?_, ?_⟩
  · simp [sent, hsc, handleResponse_transport]
  · simp only [step, htasks, runTransport, hsc, handleResponse, hcall, List.foldlM_cons,
      List.foldlM_nil, bind_pure]
    exact invoke_eq_handle hjson hd

/-- Without an `ok` member every callback ends at its guards. -/
theorem Delivers.failurePath_of_absent (h : c.Delivers J d) (hok : d.ok = none) :
    c.FailurePath J d := by
  obtain ⟨seq, rest, sc', hsent, hstep⟩ := h.step_eq
  rw [FailurePath, hstep]
  cases d with
  | capabilities r =>
    refine ⟨⟨_, rfl, ?_⟩, trivial⟩
    rw [onRouterRtpCapabilitiesReply, accepted_absent hok]
    exact ⟨rfl, rfl, rfl, rfl, rfl, hsent⟩
  | transport producing consuming r =>
    refine ⟨⟨_, rfl, ?_⟩, trivial⟩
    rw [onCreateWebRtcTransportReply, accepted_absent hok]
    exact ⟨rfl, rfl, rfl, rfl, rfl, hsent⟩
  | joined r =>
    refine ⟨⟨_, rfl, ?_⟩, trivial⟩
    rw [onJoinReply, accepted_absent hok]
    exact ⟨rfl, rfl, rfl, rfl, rfl, hsent⟩
  | connected r => exact ⟨⟨_, rfl, ⟨rfl, rfl, rfl, rfl, rfl, hsent⟩⟩, trivial⟩
  | produced r =>
    have hempty : ∀ data, MediasoupApi.onProduceReply true
        ⟨0, "", some { r with data }⟩ = .ok "" := by
      intro data
      simp [MediasoupApi.onProduceReply, show r.ok = none from hok]
    rw [Delivered.handle, hempty r.data]
    exact ⟨⟨_, rfl, ⟨rfl, rfl, rfl, rfl, rfl, hsent⟩⟩, hempty⟩

theorem Delivers.failurePath_of_connect (h : c.Delivers J d) (hd : d.IsConnect) :
    c.FailurePath J d := by
  obtain ⟨seq, rest, sc', hsent, hstep⟩ := h.step_eq
  rw [FailurePath, hstep]
  cases d with
  | connected r => exact ⟨⟨_, rfl, ⟨rfl, rfl, rfl, rfl, rfl, hsent⟩⟩, trivial⟩
  | capabilities r => exact absurd hd id
  | transport producing consuming r => exact absurd hd id
  | joined r => exact absurd hd id
  | produced r => exact absurd hd id

/-- With `ok` there and false, the callback goes on: a continuation is posted, or the promise
is set to the id of the data. -/
theorem Delivers.not_failurePath (h : c.Delivers J d) (hok : d.ok = some false)
    (hd : ¬ d.IsConnect) : ¬ c.FailurePath J d := by
  obtain ⟨seq, rest, sc', hsent, hstep⟩ := h.step_eq
  rintro ⟨⟨c', hc', hsame⟩, hempty⟩
  rw [hstep] at hc'
  have htasks := hsame.tasks
  cases d with
  | connected r => exact hd trivial
  | capabilities r =>
    cases hc'
    simp [onRouterRtpCapabilitiesReply, accepted_present hok, postMediasoup, RoomClient.apply]
      at htasks
  | transport producing consuming r =>
    cases hc'
    simp [onCreateWebRtcTransportReply, accepted_present hok, postMediasoup, RoomClient.apply]
      at htasks
  | joined r =>
    cases hc'
    simp [onJoinReply, accepted_present hok, postMediasoup, RoomClient.apply] at htasks
  | produced r =>
    have hid := hempty (some ⟨some "producer"⟩)
    simp [MediasoupApi.onProduceReply, show r.ok = some false from hok, bind, Except.bind, pure,
      Except.pure] at hid

/-- The failure path is taken on every response that asks for it exactly when no response with
a false `ok` is delivered. -/
theorem takesFailurePath_iff (c : RoomClient) (a : Action) :
    c.TakesFailurePath J a ↔ c.NoneRefused J a := by
  constructor
  · intro h ha d hd hok
    by_contra hconnect
    exact hd.not_failurePath hok hconnect (h ha d hd (by simp [hok]))
  · intro h ha d hd hok
    cases hvalue : d.ok with
    | none => exact hd.failurePath_of_absent hvalue
    | some value =>
      cases value with
      | true => exact absurd hvalue hok
      | false => exact hd.failurePath_of_connect (h ha d hd hvalue)

/-- A connected client has received a join response whose `ok` is true. -/
def JoinedTruly (c : RoomClient) : Prop := c.state = .connected → some true ∈ c.joinReplies

/-- A task of the transport thread changes the state only through a join response with an `ok`
member, and then it posts the report. -/
theorem TransportChange.joins {t : TransportTask} {rest : List TransportTask}
    (ht : c.transportTasks = t :: rest)
    (hc : TransportChange J { c with transportTasks := rest } t c') :
    (c'.state = c.state ∧ c'.joinReplies = c.joinReplies ∧
        ∃ ms, c'.mediasoupTasks = c.mediasoupTasks ++ ms ∧
          ∀ seq state response, .joined seq state response ∉ ms) ∨
      ∃ r, c.Delivers J (.joined r) ∧ c'.joinReplies = c.joinReplies ++ [r.ok] ∧
        (r.ok = none ∧ c'.state = c.state ∧ c'.mediasoupTasks = c.mediasoupTasks ∨
          r.ok ≠ none ∧ c'.state = .connected ∧
            ∃ seq, c'.mediasoupTasks = c.mediasoupTasks ++ [.joined seq .connected r]) := by
  have hnone : ∃ ms, c.mediasoupTasks = c.mediasoupTasks ++ ms ∧
      ∀ seq state response, .joined seq state response ∉ ms := ⟨[], by simp, by simp⟩
  have hone (m : MediasoupTask) (hm : ∀ seq state response, m ≠ .joined seq state response) :
      ∃ ms, c.mediasoupTasks ++ [m] = c.mediasoupTasks ++ ms ∧
        ∀ seq state response, .joined seq state response ∉ ms :=
    ⟨[m], rfl, fun seq state response hin => hm _ _ _ (List.mem_singleton.mp hin).symm⟩
  cases hc with
  | gone hsc => exact Or.inl ⟨rfl, rfl, hnone⟩
  | opened => exact Or.inl ⟨rfl, rfl, hone _ (by simp)⟩
  | failed => exact Or.inl ⟨rfl, rfl, hone _ (by simp)⟩
  | closed hsc => exact Or.inl ⟨rfl, rfl, hone _ (by simp)⟩
  | dispatched hkind hd he =>
    rcases hd with ⟨pc, volume, effects, rfl, -⟩ | ⟨m, hm, rfl⟩
    · exact Or.inl ⟨rfl, rfl, hnone⟩
    · refine Or.inl ⟨rfl, rfl, hone m ?_⟩
      rintro seq state response rfl
      exact hm
  | reposted hkind => exact Or.inl ⟨rfl, rfl, hnone⟩
  | unanswered hsc hw => exact Or.inl ⟨rfl, rfl, hnone⟩
  | answered hsc hw hcallback hcall hi =>
    rcases invoke_ok hi with rfl | ⟨_, _, -, rfl⟩ | ⟨_, _, _, _, -, rfl⟩ |
      ⟨_, r, he, hjson, hr, rfl⟩
    · exact Or.inl ⟨rfl, rfl, hnone⟩
    · exact Or.inl ⟨rfl, rfl, hone _ (by simp)⟩
    · exact Or.inl ⟨rfl, rfl, hone _ (by simp)⟩
    · cases he
      have hd : c.Delivers J (.joined r) :=
        ⟨_, _, rest, _, .join, ht, hsc, hcall, hjson, .joined hr⟩
      cases hok : r.ok with
      | none =>
        simp only [onJoinReply, accepted_absent hok]
        exact Or.inr ⟨r, hd, rfl, Or.inl ⟨hok, rfl, rfl⟩⟩
      | some value =>
        simp only [onJoinReply, accepted_present hok]
        exact Or.inr ⟨r, hd, rfl, Or.inr ⟨by simp [hok], rfl, _, rfl⟩⟩

theorem JoinedTruly.transport {t : TransportTask} {rest : List TransportTask}
    (h : c.JoinedTruly) (ht : c.transportTasks = t :: rest) (hq : c.NoneRefused J .transport)
    (hc : TransportChange J { c with transportTasks := rest } t c') : c'.JoinedTruly := by
  intro hconnected
  rcases hc.joins ht with ⟨hstate, hreplies, -⟩ | ⟨r, hd, hreplies, hr⟩
  · rw [hreplies]
    exact h (hstate.symm.trans hconnected)
  · rw [hreplies, List.mem_append, List.mem_singleton]
    rcases hr with ⟨-, hstate, -⟩ | ⟨hok, -⟩
    · exact Or.inl (h (hstate.symm.trans hconnected))
    · right
      obtain ⟨value, hvalue⟩ := Option.ne_none_iff_exists'.mp hok
      cases value with
      | true => exact hvalue.symm
      | false => exact absurd (hq rfl _ hd hvalue) id

theorem JoinedTruly.step {a : Action} (h : c.JoinedTruly) (hq : c.NoneRefused J a)
    (hs : c.step J a = .ok c') : c'.JoinedTruly := by
  cases step_change hs with
  | refused hn => exact h
  | accepted ha hsc => exact nofun
  | stayed hs => exact h
  | left hopen hsc => exact nofun
  | destroyed => exact h
  | media ha hm hu =>
    obtain ⟨mc, pc, sc, rfl, -⟩ := hu
    exact h
  | socket =>
    rename_i e
    cases e <;> exact h
  | listened hr hcallback =>
    obtain ⟨sc, rfl, -⟩ := hr
    exact h
  | transportIdle ht => exact h
  | transport ht hc => exact h.transport ht hq hc
  | mediasoupIdle ht => exact h
  | mediasoup ht hc =>
    obtain ⟨-, hreplies, hstate | hstate⟩ := hc.same
    · rw [JoinedTruly, hreplies, hstate]
      exact h
    · rw [JoinedTruly, hstate]
      exact nofun

/-- In every run the callbacks take their failure paths exactly when no response with a false
`ok` is delivered to them, and in such a run the client is connected only after a join response
whose `ok` is true. -/
theorem failure_paths_iff_none_refused (J : JsonText) (run : List Action) :
    (Guarded (step J) (TakesFailurePath J) initial run ↔
      Guarded (step J) (NoneRefused J) initial run) ∧
    (Guarded (step J) (NoneRefused J) initial run → ∀ pre t, pre <+: run →
      exec (step J) initial pre = .ok t → t.state = .connected → some true ∈ t.joinReplies) := by
  constructor
  · constructor
    · exact Guarded.mono fun c a => (takesFailurePath_iff c a).mp
    · exact Guarded.mono fun c a => (takesFailurePath_iff c a).mpr
  · rintro hg pre t ⟨post, rfl⟩ ht
    have hinitial : initial.JoinedTruly := nofun
    exact exec_invariant (fun _ _ _ hi hok hs => JoinedTruly.step hi hok hs)
      (guarded_append.mp hg).1 hinitial ht

/-- The SFU refuses the join request, and the client is connected. -/
theorem refused_join_connects :
    ∃ c t, exec (step sessionJson) initial
        (negotiation ++ [.socket (.message rejectedText), .transport]) = .ok c ∧
      ¬ c.TakesFailurePath sessionJson .transport ∧
      c.step sessionJson .transport = .ok t ∧ t.state = .connected ∧ some true ∉ t.joinReplies := by
  have hrun : ∃ c t, exec (step sessionJson) initial
        (negotiation ++ [.socket (.message rejectedText), .transport]) = .ok c ∧
      c.Delivers sessionJson (.joined ⟨some false, none⟩) ∧
      c.step sessionJson .transport = .ok t ∧ t.state = .connected ∧
      t.joinReplies = [some false] := by
    refine ⟨_, _, rfl, ⟨_, _, _, _, .join, rfl, rfl, ?_, ?_, .joined rfl⟩, rfl, rfl, rfl⟩
    · decide
    · decide
  obtain ⟨c, t, hc, hd, ht, hstate, hreplies⟩ := hrun
  refine ⟨c, t, hc, ?_, ht, hstate, by simp [hreplies]⟩
  rw [takesFailurePath_iff]
  exact fun hnone => hnone rfl _ hd rfl

end RoomClient
end MediasoupSdk
