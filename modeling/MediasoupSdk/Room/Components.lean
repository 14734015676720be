import MediasoupSdk.Room.Callbacks
import MediasoupSdk.Room.Faults

/-! The media controller, the participant controller and the device over whole runs. `init`
creates the controllers, closing destroys them, and nothing creates them again. -/
namespace MediasoupSdk
open Foundation Signaling
namespace RoomClient

/-- A null dereference of the media controller or of the device. -/
def NullComponent (e : Fault) : Prop :=
  e = .nullPointer .mediaController ∨ e = .nullPointer .mediasoupDevice

/-- While the client is connecting or connected, its controllers are there. -/
def HasControllers (c : RoomClient) : Prop :=
  c.state ≠ .closed → c.mediaController.isSome ∧ c.participantController.isSome

variable (J : JsonText)

/-- The step dereferences no null component and does not leave an open client without its
controllers. -/
def KeepsComponents (c : RoomClient) (a : Action) : Prop :=
  Avoids NullComponent (c.step J a) ∧ ∀ c', c.step J a = .ok c' → c'.HasControllers

/-- The continuation of a created transport reads the device: `requestCreateTransport` for data
channels, `joinImpl` also to consume. -/
def readsDevice (options : Options) (producing consuming : Bool) : Bool :=
  if producing then options.datachannel.getD false
  else consuming && (options.consume.getD false || options.datachannel.getD false)

/-- The task reads a component that closing has destroyed. -/
def ReadsComponent (c : RoomClient) (o : Oracle) : MediasoupTask → Prop
  | .loadMediasoupDevice _ response => response.data.isSome ∧ (c.loadDevice o).isSome
  | .createTransport _ producing consuming _ => readsDevice c.options producing consuming = true
  | _ => False

/-- The action needs the components: a `join` that is accepted, a call for the media controller,
a join response with an `ok` member, a task of the negotiation. -/
inductive NeedsComponents (c : RoomClient) : Action → Prop where
  | session {a} (hs : c.StartsSession a) : NeedsComponents c a
  | media {a o} (ha : ApiCall.IsMedia a) : NeedsComponents c (.call a o)
  | joined {r} (hd : c.Delivers J (.joined r)) (hr : r.ok ≠ none) : NeedsComponents c .transport
  | task {o t rest} (ht : c.mediasoupTasks = t :: rest) (hr : c.ReadsComponent o t) :
      NeedsComponents c (.mediasoup o)

/-- Once the client has closed, the action needs no component. -/
def SparesComponents (c : RoomClient) (a : Action) : Prop :=
  RoomState.closed ∈ c.notified → ¬ c.NeedsComponents J a

/-- The actions other than `destroy`. -/
def Action.Stays (a : Action) : Prop := ∀ o, a ≠ .call .destroy o

variable {J} {c c' : RoomClient}

def CreatesATransport : MediasoupTask → Prop
  | .createTransport _ _ _ _ => True
  | _ => False

/-- The continuation of a join that reports the client as closed. -/
def ReportsClosed : MediasoupTask → Prop
  | .joined _ state _ => state = .closed
  | _ => False

/-- What holds as long as the client is not destroyed. -/
structure Alive (c : RoomClient) : Prop where
  api : c.hasApi = true
  connectionOptions : c.hasPeerConnectionOptions = true
  joined : ∀ t ∈ c.mediasoupTasks, ¬ ReportsClosed t

/-- The client has not closed; a transport is requested only with a device. -/
structure Fresh (c : RoomClient) : Prop extends Alive c where
  notified : RoomState.closed ∉ c.notified
  media : c.mediaController.isSome
  participants : c.participantController.isSome
  requested : c.mediasoupDevice = none → ∀ producing consuming,
    Callback.createWebRtcTransport producing consuming ∉ waiting c.signalingClient
  posted : c.mediasoupDevice = none → ∀ t ∈ c.mediasoupTasks, ¬ CreatesATransport t

/-- The client has closed and has no components. -/
structure Gone (c : RoomClient) : Prop extends Alive c where
  notified : RoomState.closed ∈ c.notified
  media : c.mediaController = none
  device : c.mediasoupDevice = none

/-- The client is in one of the two phases, and closed in the second. -/
def Phased (c : RoomClient) : Prop := c.Fresh ∨ (c.Gone ∧ c.state = .closed)

theorem not_reportsClosed_connected (seq : ℕ) (response : Response JoinResponse.Data) :
    ¬ ReportsClosed (.joined seq .connected response) := by
  show ¬ RoomState.connected = .closed
  decide

theorem isMedia_plain {seq : ℕ} {t : MediasoupTask} (ht : IsMedia seq t) :
    ¬ ReportsClosed t ∧ ¬ CreatesATransport t := by
  cases t with
  | newConsumer n request => exact ⟨id, id⟩
  | newDataConsumer n request => exact ⟨id, id⟩
  | updateConsumer n tid paused => exact ⟨id, id⟩
  | consumerClosed n notification => exact ⟨id, id⟩
  | getRouterRtpCapabilities => exact absurd ht id
  | closed => exact absurd ht id
  | loadMediasoupDevice n response => exact absurd ht id
  | createTransport n producing consuming response => exact absurd ht id
  | joined n state response => exact absurd ht id

theorem Alive.posts {t : MediasoupTask} (h : c.Alive) (ht : ¬ ReportsClosed t) :
    (c.postMediasoup t).Alive := by
  refine ⟨h.api, h.connectionOptions, ?_⟩
  intro t' hmem
  rcases List.mem_append.mp hmem with hold | hnew
  · exact h.joined t' hold
  · rwa [List.mem_singleton.mp hnew]

/-- Only the table of requests changed, and it asks for no transport without a device. -/
theorem Fresh.withClient (h : c.Fresh) {sc : Option (SignalingClient Callback)}
    (hsc : c.mediasoupDevice = none → ∀ producing consuming,
      Callback.createWebRtcTransport producing consuming ∉ waiting sc) :
    Fresh { c with signalingClient := sc } :=
  { h with requested := hsc }

theorem Fresh.requests {callback : Callback} (h : c.Fresh) (hr : Requests callback c c')
    (hcallback : c.mediasoupDevice = none → ∀ producing consuming,
      callback ≠ .createWebRtcTransport producing consuming) : c'.Fresh := by
  obtain ⟨sc, rfl, hw⟩ := hr
  refine h.withClient ?_
  intro hdevice producing consuming hmem
  rcases hw hmem with hold | hnew
  · exact h.requested hdevice producing consuming hold
  · exact hcallback hdevice producing consuming hnew.symm

theorem Fresh.usesMedia (h : c.Fresh) (hu : UsesMedia c c') : c'.Fresh := by
  obtain ⟨mc, pc, sc, rfl, hpc, hw⟩ := hu
  refine { h with media := rfl, participants := ?_, requested := ?_ }
  · rw [hpc]
    exact h.participants
  · intro hdevice producing consuming hmem
    rcases hw hmem with hold | hnew
    · exact h.requested hdevice producing consuming hold
    · cases hnew

/-- A task was posted that is neither a transport without a device nor a closing join. -/
theorem Fresh.posts {t : MediasoupTask} (h : c.Fresh) (hjoined : ¬ ReportsClosed t)
    (hcreate : c.mediasoupDevice = none → ¬ CreatesATransport t) :
    (c.postMediasoup t).Fresh := by
  refine ⟨h.toAlive.posts hjoined, h.notified, h.media, h.participants, h.requested, ?_⟩
  intro hdevice t' hmem
  rcases List.mem_append.mp hmem with hold | hnew
  · exact h.posted hdevice t' hold
  · rw [List.mem_singleton.mp hnew]
    exact hcreate hdevice

theorem Fresh.applied (h : c.Fresh) (seq : ℕ) : (c.apply seq).Fresh :=
  { h with }

theorem Fresh.dispatches {seq : ℕ} (h : c.Fresh) (hd : Dispatches seq c c') : c'.Fresh := by
  rcases hd with ⟨pc, volume, effects, rfl, hpc, -⟩ | ⟨t, ht, rfl⟩
  · refine { h with participants := ?_ }
    rw [hpc]
    exact h.participants
  · exact h.posts (isMedia_plain ht).1 fun _ => (isMedia_plain ht).2

theorem Fresh.invoke {seq : ℕ} {callback : Callback} {json : String} (h : c.Fresh)
    (hcallback : c.mediasoupDevice = none → ∀ producing consuming,
      callback ≠ .createWebRtcTransport producing consuming)
    (hi : RoomClient.invoke J seq (.resolved callback json) c = .ok c') : c'.Fresh := by
  rcases invoke_ok hi with rfl | ⟨_, _, -, rfl⟩ | ⟨_, _, _, _, hcall, rfl⟩ | ⟨_, r, -, -, -, rfl⟩
  · exact h
  · exact h.posts id fun _ => id
  · cases hcall
    refine h.posts id ?_
    intro hdevice
    exact absurd rfl (hcallback hdevice _ _)
  · have hlogged : Fresh { c with joinReplies := c.joinReplies ++ [r.ok] } :=
      { h with }
    cases hok : r.ok with
    | none =>
      simp only [onJoinReply, accepted_absent hok]
      exact hlogged
    | some value =>
      simp only [onJoinReply, accepted_present hok]
      refine Fresh.posts ?_ (not_reportsClosed_connected _ _) fun _ => id
      exact { h with }

theorem Fresh.transport {t : TransportTask} (h : c.Fresh) (hc : TransportChange J c t c') :
    c'.Fresh := by
  have hless : ∀ {sc sc' : SignalingClient Callback}, c.signalingClient = some sc →
      waiting (some sc') ⊆ waiting (some sc) → Fresh { c with signalingClient := some sc' } := by
    intro sc sc' hsc hw
    refine h.withClient fun hdevice producing consuming hmem => ?_
    exact h.requested hdevice producing consuming (hsc ▸ hw hmem)
  cases hc with
  | gone hsc => exact h
  | opened => exact h.posts id fun _ => id
  | failed => exact h.posts id fun _ => id
  | closed hsc =>
    refine (hless hsc ?_).posts id fun _ => id
    rw [waiting_cleared]
    exact Set.empty_subset _
  | dispatched hkind hd => exact h.dispatches hd
  | reposted hkind =>
    exact { h with }
  | unanswered hsc hw => exact hless hsc hw
  | answered hsc hw hcallback hcall hi =>
    refine ((hless hsc hw).applied _).invoke ?_ hi
    rintro hdevice producing consuming rfl
    exact h.requested hdevice producing consuming (hsc ▸ hcallback)

/-- A task of the mediasoup thread keeps the client fresh or closes it. -/
theorem Fresh.mediasoup {t : MediasoupTask} (h : c.Fresh)
    (hjoined : ¬ ReportsClosed t)
    (hcreate : c.mediasoupDevice = none → ¬ CreatesATransport t)
    (hc : MediasoupChange c t c') : c'.Phased := by
  cases hc with
  | requested hr => exact Or.inl (h.requests hr fun _ => nofun)
  | closed =>
    refine Or.inr ⟨{ h with notified := ?_, media := rfl, device := rfl }, rfl⟩
    exact List.mem_append_right _ (List.mem_singleton_self _)
  | loaded hm =>
    exact Or.inl { h with media := rfl, requested := nofun, posted := nofun }
  | skipped => exact Or.inl h
  | transport hd hr =>
    have hdevice : c.mediasoupDevice ≠ none := fun hnone => hcreate hnone trivial
    left
    rcases hd with rfl | ⟨-, -, mc, send, recv, component, rfl⟩
    · exact (h.applied _).requests hr fun hnone => absurd hnone hdevice
    · refine Fresh.requests ?_ hr fun hnone => absurd hnone hdevice
      exact { h with media := rfl }
  | joined hd hpc =>
    rename_i seq state response d pc
    have hopen : state ≠ .closed := hjoined
    have hd' := onRoomStateChanged_open hopen hd
    subst hd'
    left
    refine { h with notified := ?_, participants := ?_ }
    · intro hmem
      rcases List.mem_append.mp hmem with hold | hnew
      · exact h.notified hold
      · exact hopen (List.mem_singleton.mp hnew).symm
    · rw [hpc]
      exact h.participants
  | idle ht hm => exact Or.inl h
  | media ht hm hd => exact Or.inl ((h.usesMedia hd).applied _)

theorem Fresh.step {a : Action} (h : c.Fresh) (ha : a.Stays) (hs : c.step J a = .ok c') :
    c'.Phased := by
  have hsame : ∀ {d : RoomClient}, d.hasApi = c.hasApi →
      d.hasPeerConnectionOptions = c.hasPeerConnectionOptions →
      d.mediasoupTasks = c.mediasoupTasks → RoomState.closed ∉ d.notified →
      d.mediaController = c.mediaController →
      d.participantController = c.participantController →
      d.mediasoupDevice = c.mediasoupDevice →
      waiting d.signalingClient ⊆ waiting c.signalingClient → d.Fresh := by
    intro d hapi hoptions htasks hnotified hm hpc hdevice hw
    refine ⟨⟨hapi ▸ h.api, hoptions ▸ h.connectionOptions, htasks ▸ h.joined⟩, hnotified,
      hm ▸ h.media, hpc ▸ h.participants, ?_, ?_⟩
    · intro hnone producing consuming hmem
      exact h.requested (hdevice ▸ hnone) producing consuming (hw hmem)
    · rw [htasks, hdevice]
      exact h.posted
  cases step_change hs with
  | refused hn => exact Or.inl (hsame rfl rfl rfl h.notified rfl rfl rfl Set.Subset.rfl)
  | accepted haccepts hsc =>
    refine Or.inl (hsame rfl rfl rfl ?_ rfl rfl rfl ?_)
    · intro hmem
      rcases List.mem_append.mp hmem with hold | hnew
      · exact h.notified hold
      · cases List.mem_singleton.mp hnew
    · rw [hsc]
      exact waiting_reconnected _ _
  | stayed hs => exact Or.inl (hsame rfl rfl rfl h.notified rfl rfl rfl Set.Subset.rfl)
  | left hopen hsc =>
    refine Or.inr ⟨{ h with notified := ?_, media := rfl, device := rfl }, rfl⟩
    exact List.mem_append_right _ (List.mem_singleton_self _)
  | destroyed => exact absurd rfl (ha _)
  | media hmedia hm hu => exact Or.inl (h.usesMedia hu)
  | socket =>
    rename_i e
    cases e <;> exact Or.inl (hsame rfl rfl rfl h.notified rfl rfl rfl Set.Subset.rfl)
  | listened hr hcallback => exact Or.inl (h.requests hr fun _ => hcallback)
  | transportIdle ht => exact Or.inl h
  | transport ht hc =>
    refine Or.inl (Fresh.transport ?_ hc)
    exact hsame rfl rfl rfl h.notified rfl rfl rfl Set.Subset.rfl
  | mediasoupIdle ht => exact Or.inl h
  | mediasoup ht hc =>
    rename_i o t rest
    have hsub : ∀ t' ∈ rest, t' ∈ c.mediasoupTasks := by
      intro t' ht'
      rw [ht]
      exact List.mem_cons_of_mem t ht'
    have hhead : t ∈ c.mediasoupTasks := by
      rw [ht]
      exact List.mem_cons_self
    have hrest : Fresh { c with mediasoupTasks := rest } :=
      ⟨⟨h.api, h.connectionOptions, fun t' hmem => h.joined t' (hsub t' hmem)⟩,
        h.notified, h.media, h.participants, h.requested,
        fun hdevice t' hmem => h.posted hdevice t' (hsub t' hmem)⟩
    exact hrest.mediasoup (h.joined t hhead) (fun hdevice => h.posted hdevice t hhead) hc

theorem Gone.requests {callback : Callback} (h : c.Gone) (hr : Requests callback c c') :
    c'.Gone := by
  obtain ⟨sc, rfl, -⟩ := hr
  exact { h with }

theorem Gone.posts {t : MediasoupTask} (h : c.Gone) (ht : ¬ ReportsClosed t) :
    (c.postMediasoup t).Gone :=
  ⟨h.toAlive.posts ht, h.notified, h.media, h.device⟩

theorem Gone.invoke {seq : ℕ} {call : Invocation Callback} (h : c.Gone)
    (hi : RoomClient.invoke J seq call c = .ok c') : c'.Gone := by
  rcases invoke_ok hi with rfl | ⟨_, _, -, rfl⟩ | ⟨_, _, _, _, -, rfl⟩ | ⟨_, r, -, -, -, rfl⟩
  · exact h
  · exact h.posts id
  · exact h.posts id
  · have hsame : ∀ state, Gone { c with joinReplies := c.joinReplies ++ [r.ok], state } :=
      fun _ => { h with }
    cases hok : r.ok with
    | none =>
      simp only [onJoinReply, accepted_absent hok]
      exact hsame c.state
    | some value =>
      simp only [onJoinReply, accepted_present hok]
      exact (hsame .connected).posts (not_reportsClosed_connected _ _)

theorem Gone.transport {t : TransportTask} (h : c.Gone) (hc : TransportChange J c t c') :
    c'.Gone := by
  have hclient : ∀ sc, Gone { c with signalingClient := sc } :=
    fun _ => { h with }
  cases hc with
  | gone hsc => exact h
  | opened => exact h.posts id
  | failed => exact h.posts id
  | closed hsc => exact (hclient _).posts id
  | dispatched hkind hd =>
    rcases hd with ⟨pc, volume, effects, rfl, -⟩ | ⟨t, ht, rfl⟩
    · exact { h with }
    · exact h.posts (isMedia_plain ht).1
  | reposted hkind =>
    exact { h with }
  | unanswered hsc hw => exact hclient _
  | answered hsc hw hcallback hcall hi =>
    refine Gone.invoke ?_ hi
    exact { h with }

theorem Gone.mediasoup {t : MediasoupTask} (h : c.Gone) (hc : MediasoupChange c t c') :
    c'.Gone := by
  have hmedia : ¬ c.mediaController.isSome := by simp [h.media]
  cases hc with
  | requested hr => exact h.requests hr
  | closed =>
    exact { h with notified := List.mem_append_left _ h.notified, media := rfl, device := rfl }
  | loaded hm => exact absurd hm hmedia
  | skipped => exact h
  | transport hd hr =>
    rcases hd with rfl | ⟨-, hm, -⟩
    · refine Gone.requests ?_ hr
      exact { h with }
    · exact absurd hm hmedia
  | joined hd hpc =>
    rename_i seq state response d pc
    by_cases hstate : state = .closed
    · subst hstate
      rw [onRoomStateChanged_closed hd]
      exact { h with notified := List.mem_append_left _ h.notified, media := rfl, device := rfl }
    · rw [onRoomStateChanged_open hstate hd]
      exact { h with notified := List.mem_append_left _ h.notified }
  | idle ht hm => exact h
  | media ht hm hd => exact absurd hm hmedia

theorem Gone.step {a : Action} (h : c.Gone) (ha : a.Stays) (hs : c.step J a = .ok c') :
    c'.Gone := by
  have hmedia : ¬ c.mediaController.isSome := by simp [h.media]
  cases step_change hs with
  | refused hn => exact { h with }
  | accepted haccepts hsc =>
    exact { h with notified := List.mem_append_left _ h.notified }
  | stayed hs => exact { h with }
  | left hopen hsc =>
    exact { h with notified := List.mem_append_left _ h.notified, media := rfl, device := rfl }
  | destroyed => exact absurd rfl (ha _)
  | media hcall hm hu => exact absurd hm hmedia
  | socket =>
    rename_i e
    cases e <;> exact { h with }
  | listened hr hcallback => exact h.requests hr
  | transportIdle ht => exact h
  | transport ht hc =>
    refine Gone.transport ?_ hc
    exact { h with }
  | mediasoupIdle ht => exact h
  | mediasoup ht hc =>
    refine Gone.mediasoup ?_ hc
    refine ⟨⟨h.api, h.connectionOptions, fun t hmem => h.joined t ?_⟩, h.notified, h.media,
      h.device⟩
    rw [ht]
    exact List.mem_cons_of_mem _ hmem

section Dereferences

variable {o : Oracle}

theorem nullComponent_nullPointer {p : Pointer} :
    NullComponent (.nullPointer p) ↔ p = .mediaController ∨ p = .mediasoupDevice := by
  simp [NullComponent]

theorem not_nullComponent_websocket : ¬ NullComponent (.nullPointer .websocket) := by
  simp [nullComponent_nullPointer]

theorem not_nullComponent_consumer : ¬ NullComponent (.nullPointer .consumer) := by
  simp [nullComponent_nullPointer]

theorem not_nullComponent_disengaged : ¬ NullComponent .disengaged := by
  simp [NullComponent]

theorem not_nullComponent_uncaught : ¬ NullComponent .uncaught := by
  simp [NullComponent]

theorem createTransportImpl_kept {producing consuming : Bool} {d : RoomClient}
    {response : Response CreateWebRtcTransportResponse.Data}
    (h : c.createTransportImpl producing consuming response o = .ok d) :
    d.options = c.options ∧ d.mediasoupDevice = c.mediasoupDevice := by
  rcases createTransportImpl_ok h with rfl | ⟨-, -, mc, send, recv, component, rfl⟩
  · exact ⟨rfl, rfl⟩
  · exact ⟨rfl, rfl⟩

theorem createTransportImpl_avoids {producing consuming : Bool}
    {response : Response CreateWebRtcTransportResponse.Data}
    (hdevice : c.mediasoupDevice = none → c.hasPeerConnectionOptions = true)
    (hmedia : c.mediasoupDevice ≠ none → c.mediaController.isSome) :
    Avoids NullComponent (c.createTransportImpl producing consuming response o) := by
  unfold createTransportImpl
  cases hd : c.mediasoupDevice with
  | none =>
    simp only [hdevice hd, Option.isNone_none, Bool.and_self, ↓reduceIte]
    exact avoids_pure c
  | some device =>
    obtain ⟨mc, hmc⟩ := Option.isSome_iff_exists.mp (hmedia (by simp [hd]))
    have hne := not_nullComponent_disengaged
    simp only [Option.isNone_some, Bool.false_and, Bool.false_eq_true, ↓reduceIte]
    refine (avoids_engaged hne _).bind fun data _ => ?_
    refine (avoids_engaged hne _).bind fun ice _ => ?_
    refine (avoids_engaged hne _).bind fun candidates _ => ?_
    refine (avoids_engaged hne _).bind fun dtls _ => ?_
    refine (avoids_engaged hne _).bind fun sctp _ => ?_
    rw [hmc]
    split_ifs
    · exact (avoids_mayThrow not_nullComponent_uncaught _).bind fun _ _ => avoids_pure _
    · exact (avoids_mayThrow not_nullComponent_uncaught _).bind fun _ _ => avoids_pure _
    · exact avoids_pure _

/-- The device that was just loaded is there for the next request. -/
theorem onLoadMediasoupDevice_avoids
    {response : Response GetRouterRtpCapabilitiesResponse.Data.Val}
    (hmedia : response.data.isSome → (c.loadDevice o).isSome → c.mediaController.isSome) :
    Avoids NullComponent (c.onLoadMediasoupDevice J response o) := by
  have hw := not_nullComponent_websocket
  refine (avoids_engaged not_nullComponent_disengaged _).bind fun data hdata => ?_
  refine (avoids_mayThrow not_nullComponent_uncaught _).bind fun device hload => ?_
  refine (avoids_deref fun hnone => ?_).bind fun mc _ => ?_
  · have hdata' : response.data.isSome := by
      cases hr : response.data with
      | none =>
        rw [hr] at hdata
        cases hdata
      | some d => rfl
    have hload' : (c.loadDevice o).isSome := by
      cases hl : c.loadDevice o with
      | none =>
        rw [hl] at hload
        cases hload
      | some d => rfl
    have hsome := hmedia hdata' hload'
    have hnone' : c.mediaController = none := hnone
    simp [hnone'] at hsome
  · simp only
    split_ifs
    · exact requestCreateTransport_avoids hw _ _ _ _ nofun
    · exact requestCreateTransport_avoids hw _ _ _ _ nofun
    · exact joinImpl_avoids hw _ nofun

theorem onCreateSendTransport_avoids {response : Response CreateWebRtcTransportResponse.Data}
    (himpl : Avoids NullComponent (c.createTransportImpl true false response o))
    (hdevice : c.options.datachannel.getD false = true → c.mediasoupDevice ≠ none) :
    Avoids NullComponent (c.onCreateSendTransport J response o) := by
  have hw := not_nullComponent_websocket
  refine himpl.bind fun d hd => ?_
  obtain ⟨hoptions, hsame⟩ := createTransportImpl_kept hd
  rw [← hoptions, ← hsame] at hdevice
  split_ifs with hconsume
  · refine requestCreateTransport_avoids hw _ _ _ _ fun hdata hnone => ?_
    exact absurd hnone (hdevice hdata)
  · refine joinImpl_avoids hw _ fun hreads hnone => ?_
    rw [Bool.not_eq_true] at hconsume
    rw [hconsume, Bool.false_or] at hreads
    exact absurd hnone (hdevice hreads)

theorem onCreateRecvTransport_avoids {response : Response CreateWebRtcTransportResponse.Data}
    (himpl : Avoids NullComponent (c.createTransportImpl false true response o))
    (hdevice : (c.options.consume.getD false || c.options.datachannel.getD false) = true →
      c.mediasoupDevice ≠ none) : Avoids NullComponent (c.onCreateRecvTransport J response o) := by
  refine himpl.bind fun d hd => ?_
  obtain ⟨hoptions, hsame⟩ := createTransportImpl_kept hd
  rw [← hoptions, ← hsame] at hdevice
  refine joinImpl_avoids not_nullComponent_websocket _ fun hreads hnone => ?_
  exact absurd hnone (hdevice hreads)

/-- A task of the mediasoup thread finds what it reads when the controller is there for a device
that loads or has loaded, and the device for a continuation that reads it. -/
theorem runMediasoup_avoids {t : MediasoupTask}
    (hoptions : c.hasPeerConnectionOptions = true)
    (hload : ∀ seq response, t = .loadMediasoupDevice seq response → c.ReadsComponent o t →
      c.mediaController.isSome)
    (hmedia : c.mediasoupDevice ≠ none → c.mediaController.isSome)
    (hdevice : ∀ seq producing consuming response,
      t = .createTransport seq producing consuming response → c.ReadsComponent o t →
        c.mediasoupDevice ≠ none) :
    Avoids NullComponent (c.runMediasoup J t o) := by
  have hw := not_nullComponent_websocket
  have hc := not_nullComponent_consumer
  have hd := not_nullComponent_disengaged
  have hu := not_nullComponent_uncaught
  have hstate : ∀ state d, Avoids NullComponent (onRoomStateChanged state d) :=
    onRoomStateChanged_avoids (by simp [nullComponent_nullPointer])
      (by simp [nullComponent_nullPointer]) hc
  cases t with
  | getRouterRtpCapabilities => exact getRouterRtpCapabilities_avoids hw c
  | closed => exact hstate .closed { c with state := .closed }
  | loadMediasoupDevice seq response =>
    refine onLoadMediasoupDevice_avoids fun hdata hloads => ?_
    exact hload seq response rfl ⟨hdata, hloads⟩
  | createTransport seq producing consuming response =>
    have himpl : ∀ producing consuming, Avoids NullComponent
        ((c.apply seq).createTransportImpl producing consuming response o) :=
      fun _ _ => createTransportImpl_avoids (fun _ => hoptions) hmedia
    simp only [runMediasoup]
    split_ifs with hp hq
    · subst hp
      exact onCreateSendTransport_avoids (himpl true false) fun hdata =>
        hdevice seq true consuming response rfl hdata
    · subst hq
      rw [Bool.not_eq_true] at hp
      subst hp
      exact onCreateRecvTransport_avoids (himpl false true) fun hreads =>
        hdevice seq false true response rfl hreads
    · exact avoids_ok _
  | joined seq state response =>
    refine (hstate _ _).bind fun d _ => ?_
    split
    · exact avoids_pure _
    · exact (avoids_engaged hd _).bind fun _ _ => avoids_pure _
  | newConsumer seq request =>
    exact runMedia_avoids hw (Media.createNewConsumer_avoids hc hd hu request _) seq c
  | newDataConsumer seq request =>
    exact runMedia_avoids hw (Media.createNewDataConsumer_avoids hd hu request _) seq c
  | updateConsumer seq tid paused =>
    exact runMedia_avoids hw (Media.updateConsumer_avoids hc tid paused) seq c
  | consumerClosed seq notification =>
    exact runMedia_avoids hw (Media.onConsumerClosed_avoids hc hd notification) seq c

end Dereferences

/-- A step finds what it reads when a call for the media controller finds the controller and a
task of the mediasoup thread finds its components. -/
theorem step_avoids {a : Action} (hcall : ∀ call o, a = .call call o → call.IsMedia →
      c.mediaController.isSome)
    (htask : ∀ o t rest, a = .mediasoup o → c.mediasoupTasks = t :: rest →
      Avoids NullComponent ({ c with mediasoupTasks := rest }.runMediasoup J t o)) :
    Avoids NullComponent (c.step J a) := by
  cases a with
  | call a o =>
    refine call_avoids not_nullComponent_websocket (by simp [nullComponent_nullPointer])
      (by simp [nullComponent_nullPointer]) not_nullComponent_consumer
      not_nullComponent_uncaught ?_
    intro hmedia hnone
    have hsome := hcall a o rfl hmedia
    simp [hnone] at hsome
  | socket e => exact avoids_ok _
  | listener l o => exact listen_avoids not_nullComponent_websocket l c
  | transport =>
    simp only [step]
    split
    · exact avoids_ok _
    · exact runTransport_avoids not_nullComponent_disengaged _ _
  | mediasoup o =>
    simp only [step]
    cases ht : c.mediasoupTasks with
    | nil => exact avoids_ok _
    | cons t rest => exact htask o t rest rfl ht

theorem Fresh.step_avoids (h : c.Fresh) (a : Action) : Avoids NullComponent (c.step J a) := by
  refine RoomClient.step_avoids (fun _ _ _ _ => h.media) ?_
  rintro o t rest - ht
  refine runMediasoup_avoids h.connectionOptions (fun _ _ _ _ => h.media) (fun _ => h.media) ?_
  rintro seq producing consuming response rfl - hnone
  have hmem : MediasoupTask.createTransport seq producing consuming response ∈
      c.mediasoupTasks := by
    rw [ht]
    exact List.mem_cons_self
  exact h.posted hnone _ hmem trivial

theorem Gone.step_avoids {a : Action} (h : c.Gone) (hn : ¬ c.NeedsComponents J a) :
    Avoids NullComponent (c.step J a) := by
  refine RoomClient.step_avoids ?_ ?_
  · rintro call o rfl hcall
    exact absurd (.media hcall) hn
  · rintro o t rest rfl ht
    have hreads : ¬ c.ReadsComponent o t := fun hr => hn (.task ht hr)
    refine runMediasoup_avoids h.connectionOptions ?_ ?_ ?_
    · rintro seq response rfl hr
      exact absurd hr hreads
    · exact fun hdevice => absurd h.device hdevice
    · rintro seq producing consuming response rfl hr
      exact absurd hr hreads

/-- After closing, only an accepted `join` and a join response open the client. -/
theorem Gone.state_step {a : Action} (h : c.Gone) (hstate : c.state = .closed)
    (hn : ¬ c.NeedsComponents J a) (hs : c.step J a = .ok c') : c'.state = .closed := by
  have hmedia : ¬ c.mediaController.isSome := by simp [h.media]
  cases step_change hs with
  | refused hn => exact hstate
  | accepted ha hsc => exact absurd (.session ⟨_, _, _, _, _, _, rfl, ha⟩) hn
  | stayed hs => exact hstate
  | left hopen hsc => rfl
  | destroyed => exact hstate
  | media ha hm hu => exact absurd hm hmedia
  | socket =>
    rename_i e
    cases e <;> exact hstate
  | listened hr hcallback =>
    obtain ⟨sc, rfl, -⟩ := hr
    exact hstate
  | transportIdle ht => exact hstate
  | transport ht hc =>
    rcases hc.joins ht with ⟨hsame, -⟩ | ⟨r, hd, -, ⟨-, hsame, -⟩ | ⟨hok, -⟩⟩
    · exact hsame.trans hstate
    · exact hsame.trans hstate
    · exact absurd (.joined hd hok) hn
  | mediasoupIdle ht => exact hstate
  | mediasoup ht hc =>
    obtain ⟨-, -, hsame | hclosed⟩ := hc.same
    · exact hsame.trans hstate
    · exact hclosed

section Breaks

variable {o : Oracle}

theorem requestCreateTransport_null {forceTcp producing consuming : Bool}
    (hapi : c.hasApi = true) (hdata : c.options.datachannel.getD false = true)
    (hdevice : c.mediasoupDevice = none) :
    c.requestCreateTransport J forceTcp producing consuming o =
      .error (.nullPointer .mediasoupDevice) := by
  simp only [requestCreateTransport, hapi, hdata, hdevice, Bool.not_true, Bool.false_eq_true,
    ↓reduceIte]
  rfl

theorem joinImpl_null (hapi : c.hasApi = true)
    (hreads : (c.options.consume.getD false || c.options.datachannel.getD false) = true)
    (hdevice : c.mediasoupDevice = none) :
    c.joinImpl J o = .error (.nullPointer .mediasoupDevice) := by
  cases hconsume : c.options.consume.getD false with
  | true =>
    simp only [joinImpl, hapi, hconsume, hdevice, Bool.not_true, Bool.false_eq_true, ↓reduceIte]
    rfl
  | false =>
    have hdata : c.options.datachannel.getD false = true := by simpa [hconsume] using hreads
    simp only [joinImpl, joinWith, hapi, hconsume, hdata, hdevice, Bool.not_true,
      Bool.false_eq_true, ↓reduceIte]
    rfl

/-- Without a device no transport is created, and the negotiation goes on. -/
theorem createTransportImpl_gone {producing consuming : Bool}
    {response : Response CreateWebRtcTransportResponse.Data} (h : c.Gone) :
    c.createTransportImpl producing consuming response o = .ok c := by
  simp only [createTransportImpl, h.device, h.connectionOptions, Option.isNone_none, Bool.and_self,
    ↓reduceIte]
  rfl

theorem Gone.task_null {t : MediasoupTask} (h : c.Gone) (hr : c.ReadsComponent o t) :
    ∃ e, c.runMediasoup J t o = .error e ∧ NullComponent e := by
  have happly : ∀ seq, (c.apply seq).Gone :=
    fun seq => { h with }
  cases t with
  | loadMediasoupDevice seq response =>
    obtain ⟨hdata, hload⟩ := hr
    obtain ⟨data, hdata⟩ := Option.isSome_iff_exists.mp hdata
    obtain ⟨device, hload⟩ := Option.isSome_iff_exists.mp hload
    have hload' : (c.apply seq).loadDevice o = some device := hload
    have hmedia : (c.apply seq).mediaController = none := h.media
    refine ⟨.nullPointer .mediaController, ?_, Or.inl rfl⟩
    simp only [runMediasoup, onLoadMediasoupDevice, hdata, hload', hmedia]
    rfl
  | createTransport seq producing consuming response =>
    refine ⟨.nullPointer .mediasoupDevice, ?_, Or.inr rfl⟩
    have hreads : readsDevice c.options producing consuming = true := hr
    cases producing with
    | true =>
      have hdata : c.options.datachannel.getD false = true := hreads
      simp only [runMediasoup, ↓reduceIte, onCreateSendTransport,
        createTransportImpl_gone (happly seq)]
      change (if c.options.consume.getD false = true then _ else _) = _
      split_ifs with hconsume
      · exact requestCreateTransport_null (happly seq).api hdata (happly seq).device
      · refine joinImpl_null (happly seq).api ?_ (happly seq).device
        change (c.options.consume.getD false || c.options.datachannel.getD false) = true
        rw [hdata, Bool.or_true]
    | false =>
      cases consuming with
      | true =>
        simp only [runMediasoup, ↓reduceIte, Bool.false_eq_true, onCreateRecvTransport,
          createTransportImpl_gone (happly seq)]
        exact joinImpl_null (happly seq).api hreads (happly seq).device
      | false => cases hreads
  | getRouterRtpCapabilities => exact absurd hr id
  | closed => exact absurd hr id
  | joined seq state response => exact absurd hr id
  | newConsumer seq request => exact absurd hr id
  | newDataConsumer seq request => exact absurd hr id
  | updateConsumer seq tid paused => exact absurd hr id
  | consumerClosed seq notification => exact absurd hr id

end Breaks

theorem Gone.not_hasControllers (h : c.Gone) (hstate : c.state ≠ .closed) :
    ¬ c.HasControllers := by
  intro hhas
  have hmedia := (hhas hstate).1
  simp [h.media] at hmedia

/-- An accepted `join` opens a client without controllers. -/
theorem Gone.join_opens {a : Action} (h : c.Gone) (hs : c.StartsSession a) :
    ∃ c', c.step J a = .ok c' ∧ ¬ c'.HasControllers := by
  obtain ⟨hostname, port, roomId, displayName, options, o, rfl, ha⟩ := hs
  obtain ⟨sc, hsc⟩ := Option.isSome_iff_exists.mp ha.2.2.2.2
  have hjoin : c.step J (.call (.join hostname port roomId displayName options) o) =
      onRoomStateChanged .connecting { c with
        hostname, port := some port, roomId, displayName, options := options.getD {}
        peerId := o.peerId, state := .connecting
        signalingClient := some (sc.disconnect.connect o.connectionId) } := by
    simp only [RoomClient.step, RoomClient.call, join, ha.1, ha.2.1, ha.2.2.1, ha.2.2.2.1, hsc,
      ne_eq, not_true_eq_false, Bool.false_eq_true, ↓reduceIte]
  refine ⟨_, hjoin, Gone.not_hasControllers ?_ ?_⟩
  · exact { h with notified := List.mem_append_left _ h.notified }
  · show RoomState.connecting ≠ .closed
    decide

/-- So does a join response with an `ok` member. -/
theorem Gone.join_response_opens {r : Response JoinResponse.Data} (h : c.Gone)
    (hd : c.Delivers J (.joined r)) (hr : r.ok ≠ none) :
    ∃ c', c.step J .transport = .ok c' ∧ ¬ c'.HasControllers := by
  obtain ⟨value, hok⟩ := Option.ne_none_iff_exists'.mp hr
  obtain ⟨seq, rest, sc', -, hstep⟩ := hd.step_eq
  rw [Delivered.handle, onJoinReply] at hstep
  simp only [accepted_present hok] at hstep
  refine ⟨_, hstep, Gone.not_hasControllers ?_ ?_⟩
  · refine ⟨?_, h.notified, h.media, h.device⟩
    refine Alive.posts ?_ (not_reportsClosed_connected _ _)
    exact { h with }
  · show RoomState.connected ≠ .closed
    decide

theorem Gone.call_null {call : ApiCall} {o : Oracle} (h : c.Gone) (ha : call.IsMedia) :
    c.step J (.call call o) = .error (.nullPointer .mediaController) := by
  cases call with
  | enableAudio enabled =>
    simp only [RoomClient.step, RoomClient.call, enableAudio, h.media]
    rfl
  | muteAudio muted =>
    simp only [RoomClient.step, RoomClient.call, muteAudio, h.media]
    rfl
  | enableVideo enabled trackName =>
    simp only [RoomClient.step, RoomClient.call, enableVideo, h.media]
    rfl
  | join hostname port roomId displayName options => exact absurd ha id
  | leave => exact absurd ha id
  | destroy => exact absurd ha id

theorem Gone.not_keeps {a : Action} (h : c.Gone) (hn : c.NeedsComponents J a) :
    ¬ c.KeepsComponents J a := by
  rintro ⟨havoids, hhas⟩
  cases hn with
  | session hs =>
    obtain ⟨c', hstep, hnone⟩ := h.join_opens hs
    exact hnone (hhas c' hstep)
  | media ha => exact havoids _ (h.call_null ha) (Or.inl rfl)
  | joined hd hr =>
    obtain ⟨c', hstep, hnone⟩ := h.join_response_opens hd hr
    exact hnone (hhas c' hstep)
  | task ht hr =>
    rename_i o t rest
    have hrest : Gone { c with mediasoupTasks := rest } := by
      refine ⟨⟨h.api, h.connectionOptions, fun t hmem => h.joined t ?_⟩, h.notified, h.media,
        h.device⟩
      rw [ht]
      exact List.mem_cons_of_mem _ hmem
    obtain ⟨e, he, hnull⟩ := hrest.task_null (J := J) (o := o) (t := t) hr
    have hfault : c.step J (.mediasoup o) = .error e := by
      simp only [RoomClient.step, ht]
      exact he
    exact havoids e hfault hnull

theorem initial_fresh : initial.Fresh := by
  have htasks : ∀ P : MediasoupTask → Prop, ∀ t ∈ initial.mediasoupTasks, ¬ P t :=
    fun P t ht => absurd ht List.not_mem_nil
  refine ⟨⟨rfl, rfl, htasks _⟩, List.not_mem_nil, rfl, rfl, ?_, fun _ => htasks _⟩
  rintro - producing consuming ⟨s, k, r, hs, hl, -⟩
  cases hs
  cases hl

theorem keeps_iff_spares {a : Action} (h : c.Phased) (ha : a.Stays) :
    c.KeepsComponents J a ↔ c.SparesComponents J a := by
  rcases h with hfresh | ⟨hgone, hstate⟩
  · constructor
    · intro _ hclosed
      exact absurd hclosed hfresh.notified
    · intro _
      refine ⟨hfresh.step_avoids a, fun c' hs => ?_⟩
      rcases hfresh.step ha hs with hfresh' | ⟨-, hclosed⟩
      · exact fun _ => ⟨hfresh'.media, hfresh'.participants⟩
      · exact fun hopen => absurd hclosed hopen
  · constructor
    · intro hkeeps _ hn
      exact hgone.not_keeps hn hkeeps
    · intro hspares
      have hn := hspares hgone.notified
      refine ⟨hgone.step_avoids hn, fun c' hs hopen => ?_⟩
      exact absurd (hgone.state_step hstate hn hs) hopen

theorem Phased.step {a : Action} (h : c.Phased) (ha : a.Stays) (hk : c.KeepsComponents J a)
    (hs : c.step J a = .ok c') : c'.Phased := by
  rcases h with hfresh | ⟨hgone, hstate⟩
  · exact hfresh.step ha hs
  · have hgone' := hgone.step ha hs
    refine Or.inr ⟨hgone', ?_⟩
    by_contra hopen
    exact hgone'.not_hasControllers hopen (hk.2 c' hs)

/-- Along every run without `destroy`, no step dereferences a null media controller or device and
no state reached is open without its controllers exactly when, once the client has closed, no
action needs a component. -/
theorem components_kept_iff_spared (J : JsonText) {run : List Action}
    (hrun : ∀ a ∈ run, a.Stays) :
    Guarded (step J) (KeepsComponents J) initial run ↔
      Guarded (step J) (SparesComponents J) initial run :=
  guarded_congr (fun _ _ a ha hp hk hs => Phased.step hp (hrun a ha) hk hs)
    (fun _ a ha hp => keeps_iff_spares hp (hrun a ha)) (Or.inl initial_fresh)

/-- The session that joins, changes its microphone and leaves. -/
def onceOnly : List Action :=
  [sessionJoin, .call (.enableAudio true) firstRequest, .call .leave firstRequest]

theorem components_kept_once :
    Guarded (step sessionJson) (KeepsComponents sessionJson) initial onceOnly := by
  have hrun : ∀ a ∈ onceOnly, a.Stays := by
    intro a ha o he
    subst he
    simp [onceOnly, sessionJoin] at ha
  have hstates : ∃ c₁ c₂, initial.step sessionJson sessionJoin = .ok c₁ ∧
      c₁.step sessionJson (.call (.enableAudio true) firstRequest) = .ok c₂ ∧
      initial.notified = [] ∧ c₁.notified = [.connecting] ∧ c₂.notified = [.connecting] :=
    ⟨_, _, rfl, rfl, rfl, rfl, rfl⟩
  obtain ⟨c₁, c₂, h₁, h₂, hn₀, hn₁, hn₂⟩ := hstates
  have hspares : ∀ (c : RoomClient) (a : Action), RoomState.closed ∉ c.notified →
      c.SparesComponents sessionJson a := fun c a hn hclosed => absurd hclosed hn
  refine (components_kept_iff_spared sessionJson hrun).mpr ⟨hspares _ _ (by simp [hn₀]), ?_⟩
  intro c hc
  obtain rfl : c₁ = c := Except.ok.inj (h₁.symm.trans hc)
  refine ⟨hspares _ _ (by simp [hn₁]), ?_⟩
  intro c hc
  obtain rfl : c₂ = c := Except.ok.inj (h₂.symm.trans hc)
  exact ⟨hspares _ _ (by simp [hn₂]), fun _ _ => trivial⟩

/-- A second `join` connects without controllers, and the next call dereferences a null one. -/
theorem rejoin_without_components :
    ∃ t, exec (step sessionJson) initial
        [sessionJoin, .call .leave firstRequest, sessionJoin] = .ok t ∧
      t.state = .connecting ∧ t.mediaController = none ∧ t.participantController = none ∧
      t.step sessionJson (.call (.enableAudio true) firstRequest) =
        .error (.nullPointer .mediaController) :=
  ⟨_, rfl, rfl, rfl, rfl, rfl⟩

end RoomClient
end MediasoupSdk
