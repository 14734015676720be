import MediasoupSdk.Media.Produce
import MediasoupSdk.Media.Sound
import MediasoupSdk.Room.Callbacks
import MediasoupSdk.Room.Negotiation

/-! The options of a session. The room client takes those of the join call; the media controller
keeps the object that it got from the constructor of the room client. -/
namespace MediasoupSdk
open Foundation Signaling

/-- The controller does what the options ask for. -/
structure MediaController.ActsOn (options : Options) (mc : MediaController) : Prop where
  encodings : ∀ (m : Media) enabled trackName arguments, m.controller = mc →
    m.videoProduce enabled trackName = some arguments →
    arguments.encodings =
      if options.useSimulcast.getD false then some configVideoEncodings else none
  consumer : ∀ (m : Media) request consumed, m.controller = mc →
    m.createNewConsumer request consumed ≠ .ok m → options.consume.getD false = true
  dataConsumer : ∀ (m : Media) request consumed, m.controller = mc →
    m.createNewDataConsumer request consumed ≠ .ok m → options.datachannel.getD false = true

/-- It is enough that the two agree where the controller has the transport. -/
theorem MediaController.actsOn_of {options : Options} {mc : MediaController}
    (hsend : mc.sendTransport.isSome →
      mc.options.useSimulcast.getD false = options.useSimulcast.getD false)
    (hrecv : mc.recvTransport.isSome →
      options.consume.getD false = true ∧ options.datachannel.getD false = true) :
    mc.ActsOn options where
  encodings m enabled trackName arguments hm hp := by
    obtain ⟨hsome, harguments⟩ := Media.videoProduce_eq_some hp
    rw [MediaController.produceArguments_eq, Option.some.injEq] at harguments
    subst harguments hm
    rw [hsend hsome]
  consumer m request consumed hm hp := by
    by_contra hno
    apply hp
    apply Media.createNewConsumer_refused
    rintro ⟨-, hsome⟩
    exact hno (hrecv (hm ▸ hsome)).1
  dataConsumer m request consumed hm hp := by
    by_contra hno
    apply hp
    apply Media.createNewDataConsumer_refused
    rintro ⟨⟨-, hsome⟩, -⟩
    exact hno (hrecv (hm ▸ hsome)).2

namespace RoomClient

variable {J : JsonText} {o : Oracle} {c c' : RoomClient}

theorem following_mem {options : Options} {p : Option Stage} {s : Stage}
    (h : following options p = some s) : s ∈ schedule options := by
  unfold following at h
  split at h
  · cases h
    simp [schedule]
  · split_ifs at h with hp hc
    · cases h
      simp [schedule, hp]
    · cases h
      simp [schedule, hc]
    · cases h
      simp [schedule]
  · split_ifs at h with hc
    · cases h
      simp [schedule, hc]
    · cases h
      simp [schedule]
  · cases h
    simp [schedule]
  · cases h

/-- Only `join` sets the options. -/
theorem step_options {a : Action} (h : c.step J a = .ok c')
    (ha : ∀ hostname port roomId displayName options o,
      a ≠ .call (.join hostname port roomId displayName options) o) : c'.options = c.options := by
  cases step_change h with
  | refused hn => exact absurd rfl (ha _ _ _ _ _ _)
  | accepted haccepts hsc => exact absurd rfl (ha _ _ _ _ _ _)
  | stayed hs => rfl
  | left hopen hsc => rfl
  | destroyed => rfl
  | media hmedia hm hu =>
    obtain ⟨mc, pc, sc, rfl, -⟩ := hu
    rfl
  | socket =>
    rename_i e
    cases e <;> rfl
  | listened hr hcallback =>
    obtain ⟨sc, rfl, -⟩ := hr
    rfl
  | transportIdle ht => rfl
  | transport ht hc =>
    obtain ⟨-, hoptions, -⟩ := hc.same
    exact hoptions
  | mediasoupIdle ht => rfl
  | mediasoup ht hc =>
    obtain ⟨hoptions, -⟩ := hc.same
    exact hoptions

/-- The controller afterwards is the one before, with at most the transports that the tasks on
their way create. -/
def Inherits (c c' : RoomClient) : Prop :=
  ∀ mc', c'.mediaController = some mc' → ∃ mc, c.mediaController = some mc ∧
    mc'.options = mc.options ∧
    (mc'.sendTransport.isSome →
      mc.sendTransport.isSome ∨ some .createSendTransport ∈ Negotiation.tokens c) ∧
    (mc'.recvTransport.isSome →
      mc.recvTransport.isSome ∨ some .createRecvTransport ∈ Negotiation.tokens c)

theorem inherits_of_eq (h : c'.mediaController = c.mediaController) : Inherits c c' := by
  intro mc' hmc'
  rw [h] at hmc'
  exact ⟨mc', hmc', rfl, Or.inl, Or.inl⟩

theorem inherits_of_none (h : c'.mediaController = none) : Inherits c c' := by
  intro mc' hmc'
  rw [h] at hmc'
  cases hmc'

theorem withMedia_inherits {op : Media → Except Fault Media} {mc : MediaController}
    (hop : ∀ m m', op m = .ok m' → Media.Keeps m m') (hmc : c.mediaController = some mc)
    (h : c.withMedia J o op mc = .ok c') : Inherits c c' := by
  simp only [withMedia, bind_ok, pure, Except.pure, Except.ok.injEq] at h
  obtain ⟨m, hm, sc, -, rfl⟩ := h
  have hset := (hop _ m hm).settings
  rintro mc' ⟨⟩
  refine ⟨mc, hmc, hset.options, ?_, ?_⟩
  · rw [hset.sendTransport]
    exact Or.inl
  · rw [hset.recvTransport]
    exact Or.inl

theorem deref_withMedia_inherits {op : Media → Except Fault Media}
    (hop : ∀ m m', op m = .ok m' → Media.Keeps m m')
    (h : (deref Pointer.mediaController c.mediaController >>= fun mc =>
      c.withMedia J o op mc) = .ok c') : Inherits c c' := by
  simp only [bind_ok, deref_eq_ok] at h
  obtain ⟨mc, hmc, h⟩ := h
  exact withMedia_inherits hop hmc h

theorem runMedia_inherits {op : Media → Except Fault Media} {seq : ℕ}
    (hop : ∀ m m', op m = .ok m' → Media.Keeps m m') (h : c.runMedia J seq op o = .ok c') :
    Inherits c c' := by
  unfold runMedia at h
  cases hmc : c.mediaController with
  | none =>
    rw [hmc] at h
    cases h
    exact inherits_of_eq rfl
  | some mc =>
    rw [hmc] at h
    simp only [bind_ok, pure, Except.pure, Except.ok.injEq] at h
    obtain ⟨d, hd, rfl⟩ := h
    have hinherits := withMedia_inherits hop hmc hd
    exact hinherits

theorem handsOver_requests {r : Option ApiRequest} {d : RoomClient} (h : HandsOver J o r d c') :
    ∃ sc, c' = { d with signalingClient := sc } ∧
      waiting sc ⊆ waiting d.signalingClient ∪
        {callback | ∃ q, r = some q ∧ callback = callbackOf q} := by
  cases r with
  | none =>
    cases h
    exact ⟨c'.signalingClient, rfl, Set.subset_union_left⟩
  | some q =>
    obtain ⟨sc, rfl, hw⟩ := request_ok h
    refine ⟨sc, rfl, fun callback hcallback => ?_⟩
    rcases hw hcallback with hold | hnew
    · exact Or.inl hold
    · exact Or.inr ⟨q, rfl, hnew⟩

theorem runMediasoup_inherits {t : MediasoupTask} {rest : List MediasoupTask}
    (ht : c.mediasoupTasks = t :: rest)
    (h : { c with mediasoupTasks := rest }.runMediasoup J t o = .ok c') : Inherits c c' := by
  have hrest {d : RoomClient} (hd : Inherits { c with mediasoupTasks := rest } d) :
      Inherits c d := by
    intro mc' hmc'
    obtain ⟨mc, hmc, hoptions, hsend, hrecv⟩ := hd mc' hmc'
    have htokens := Negotiation.tokens_mediasoup ht
    refine ⟨mc, hmc, hoptions, fun hs => ?_, fun hr => ?_⟩
    · rw [htokens]
      exact (hsend hs).imp_right fun hmem => Multiset.mem_add.mpr (Or.inr hmem)
    · rw [htokens]
      exact (hrecv hr).imp_right fun hmem => Multiset.mem_add.mpr (Or.inr hmem)
  cases hp : continuationOf t with
  | some p =>
    obtain ⟨d, hprep, hover⟩ := runMediasoup_prepares hp h
    obtain ⟨sc, rfl, -⟩ := handsOver_requests hover
    intro mc' hmc'
    obtain ⟨mc, hmc, hoptions, hsend, hrecv⟩ := hprep.media mc' hmc'
    have htoken : p ∈ Negotiation.tokens c := by
      rw [Negotiation.tokens_mediasoup ht, hp]
      simp
    refine ⟨mc, hmc, hoptions, fun hs => ?_, fun hr => ?_⟩
    · by_cases hcreate : p = some .createSendTransport
      · exact Or.inr (hcreate ▸ htoken)
      · rw [hsend hcreate] at hs
        exact Or.inl hs
    · by_cases hcreate : p = some .createRecvTransport
      · exact Or.inr (hcreate ▸ htoken)
      · rw [hrecv hcreate] at hr
        exact Or.inl hr
  | none =>
    cases t with
    | getRouterRtpCapabilities => cases hp
    | loadMediasoupDevice seq response => cases hp
    | closed =>
      rw [onRoomStateChanged_closed h]
      exact inherits_of_none rfl
    | createTransport seq producing consuming response =>
      cases producing <;> cases consuming <;> simp [continuationOf, Stage.ofTransport] at hp
      cases h
      exact inherits_of_eq rfl
    | joined seq state response =>
      obtain ⟨d, pc, hd, rfl, -⟩ := onJoined_ok h
      by_cases hs : state = .closed
      · subst hs
        rw [onRoomStateChanged_closed hd]
        exact inherits_of_none rfl
      · rw [onRoomStateChanged_open hs hd]
        exact inherits_of_eq rfl
    | newConsumer seq request =>
      exact hrest (runMedia_inherits (fun _ _ => Media.createNewConsumer_keeps) h)
    | newDataConsumer seq request =>
      exact hrest (runMedia_inherits (fun _ _ => Media.createNewDataConsumer_keeps) h)
    | updateConsumer seq tid paused =>
      exact hrest (runMedia_inherits (fun _ _ => Media.updateConsumer_keeps) h)
    | consumerClosed seq notification =>
      exact hrest (runMedia_inherits (fun _ _ => Media.onConsumerClosed_keeps) h)

theorem step_inherits {a : Action} (h : c.step J a = .ok c') : Inherits c c' := by
  cases a with
  | call a o =>
    cases a with
    | join hostname port roomId displayName options =>
      rcases join_ok h with ⟨-, _, _, _, _, _, _, rfl⟩ | ⟨-, sc, -, rfl⟩
      · exact inherits_of_eq rfl
      · exact inherits_of_eq rfl
    | leave =>
      rcases leave_ok h with ⟨-, rfl⟩ | ⟨-, sc, -, rfl⟩
      · exact inherits_of_eq rfl
      · exact inherits_of_none rfl
    | destroy =>
      rw [destroy_ok h]
      exact inherits_of_none rfl
    | enableAudio enabled =>
      exact deref_withMedia_inherits (fun _ _ => Media.enableAudio_keeps) h
    | muteAudio muted =>
      exact deref_withMedia_inherits
        (fun m m' hm => by cases hm; exact Media.muteAudio_keeps muted m) h
    | enableVideo enabled trackName =>
      exact deref_withMedia_inherits (fun _ _ => Media.enableVideo_keeps) h
  | socket e =>
    cases h
    cases e <;> exact inherits_of_eq rfl
  | listener l o =>
    obtain ⟨callback, ⟨sc, rfl, -⟩, -⟩ := listen_ok h
    exact inherits_of_eq rfl
  | transport =>
    rcases step_transport h with ⟨-, rfl⟩ | ⟨t, rest, -, hrun⟩
    · exact inherits_of_eq rfl
    · obtain ⟨-, -, -, hmc, -⟩ := (runTransport_ok hrun).same
      exact inherits_of_eq hmc
  | mediasoup o =>
    rcases step_mediasoup h with ⟨-, rfl⟩ | ⟨t, rest, ht, hrun⟩
    · exact inherits_of_eq rfl
    · exact runMediasoup_inherits ht hrun

/-- The callback of the request waits, or its answer has posted the task that goes on. -/
def Awaited (c : RoomClient) (s : Stage) : Prop :=
  (∃ callback ∈ waiting c.signalingClient, Stage.ofCallback callback = some s) ∨
    some s ∈ Negotiation.tokens c

theorem awaited_of {extra : Multiset (Option Stage)} {s : Stage}
    (hw : ∀ callback ∈ waiting c'.signalingClient,
      callback ∈ waiting c.signalingClient ∨ Stage.ofCallback callback = none)
    (ht : Negotiation.tokens c' ≤ extra + Negotiation.tokens c) (h : Awaited c' s) :
    Awaited c s ∨ some s ∈ extra := by
  rcases h with ⟨callback, hcallback, hs⟩ | hs
  · rcases hw callback hcallback with hold | hn
    · exact Or.inl (Or.inl ⟨callback, hold, hs⟩)
    · rw [hn] at hs
      cases hs
  · rcases Multiset.mem_add.mp (Multiset.mem_of_le ht hs) with hextra | hold
    · exact Or.inr hextra
    · exact Or.inl (Or.inr hold)

theorem Awaited.of_keeps {extra : Multiset (Option Stage)} {s : Stage}
    (hk : Negotiation.Keeps extra c c') (h : Awaited c' s) : Awaited c s ∨ some s ∈ extra :=
  awaited_of hk.waits hk.tokens h

/-- A step that sends nothing and posts nothing of the negotiation. -/
theorem awaited_of_subset {s : Stage}
    (hw : waiting c'.signalingClient ⊆ waiting c.signalingClient)
    (ht : Negotiation.tokens c' ≤ Negotiation.tokens c) (h : Awaited c' s) : Awaited c s := by
  have hle : Negotiation.tokens c' ≤ 0 + Negotiation.tokens c := by rwa [zero_add]
  have h' := awaited_of (fun callback hc => Or.inl (hw hc)) hle h
  exact h'.resolve_right (Multiset.notMem_zero _)

theorem runTransport_awaited {t : TransportTask} {s : Stage} (h : c.runTransport J t = .ok c')
    (hs : Awaited c' s) : Awaited c s ∨ some s ∈ ((openingOf t).toList : Multiset _) := by
  by_cases hd : Negotiation.Disconnects t
  · left
    cases runTransport_ok h with
    | gone hsc => exact hs
    | failed =>
      refine awaited_of_subset ?_ ?_ hs
      · exact Set.Subset.rfl
      · simp [Negotiation.tokens_postMediasoup, continuationOf]
    | closed hsc =>
      refine awaited_of_subset ?_ ?_ hs
      · simp only [postMediasoup, waiting_cleared]
        exact Set.empty_subset _
      · rw [Negotiation.tokens_postMediasoup]
        simp [continuationOf, Negotiation.tokens]
    | opened => exact absurd hd id
    | dispatched hkind hd' he => exact absurd hd id
    | reposted hkind => exact absurd hd id
    | unanswered hsc hw => exact absurd hd id
    | answered hsc hw hcallback hcall hi => exact absurd hd id
  · by_cases hresponse : ∃ seq json, t = .handleResponse seq json
    · obtain ⟨seq, json, rfl⟩ := hresponse
      left
      cases hsc : c.signalingClient with
      | none =>
        simp only [runTransport, hsc, Except.ok.injEq] at h
        exact h ▸ hs
      | some sc =>
        simp only [runTransport, hsc] at h
        rcases Negotiation.keeps_handleResponse hsc h with ⟨-, hk⟩ | ⟨callback, hw, -, hk⟩
        · exact (hs.of_keeps hk).resolve_right (Multiset.notMem_zero _)
        · rcases hs.of_keeps hk with hold | hnew
          · exact hold
          · exact Or.inl ⟨callback, hw, by simpa using hnew⟩
    · exact hs.of_keeps
        (Negotiation.keeps_runTransport hd (fun seq json he => hresponse ⟨seq, json, he⟩) h)

theorem runMediasoup_awaited {t : MediasoupTask} {rest : List MediasoupTask} {s : Stage}
    (ht : c.mediasoupTasks = t :: rest)
    (h : { c with mediasoupTasks := rest }.runMediasoup J t o = .ok c') (hs : Awaited c' s) :
    Awaited c s ∨ s ∈ schedule c.options := by
  have htokens := Negotiation.tokens_mediasoup ht
  have hle : Negotiation.tokens { c with mediasoupTasks := rest } ≤ Negotiation.tokens c := by
    rw [htokens]
    exact Multiset.le_add_left _ _
  have hrest (hd : Awaited { c with mediasoupTasks := rest } s) : Awaited c s := by
    refine awaited_of_subset ?_ hle hd
    exact Set.Subset.rfl
  cases hp : continuationOf t with
  | some p =>
    obtain ⟨d, hprep, hover⟩ := runMediasoup_prepares hp h
    obtain ⟨sc, rfl, hw⟩ := handsOver_requests hover
    rcases hs with ⟨callback, hcallback, hstage⟩ | hs
    · rcases hw hcallback with hold | ⟨r, hr, rfl⟩
      · rw [hprep.signalingClient] at hold
        exact Or.inl (Or.inl ⟨callback, hold, hstage⟩)
      · rw [Negotiation.ofCallback_callbackOf, requestOf_stage hp hr] at hstage
        exact Or.inr (following_mem hstage)
    · left
      right
      apply Multiset.mem_of_le hle
      simpa only [Negotiation.tokens, hprep.transportTasks, hprep.mediasoupTasks] using hs
  | none =>
    left
    by_cases hends : Negotiation.Ends t
    · cases t with
      | closed =>
        rw [onRoomStateChanged_closed h] at hs
        exact hrest hs
      | joined seq state response =>
        obtain ⟨d, pc, hd, rfl, -⟩ := onJoined_ok h
        have hclosed : state = .closed := hends
        subst hclosed
        rw [onRoomStateChanged_closed hd] at hs
        exact hrest hs
      | getRouterRtpCapabilities => exact absurd hends id
      | loadMediasoupDevice seq response => exact absurd hends id
      | createTransport seq producing consuming response => exact absurd hends id
      | newConsumer seq request => exact absurd hends id
      | newDataConsumer seq request => exact absurd hends id
      | updateConsumer seq tid paused => exact absurd hends id
      | consumerClosed seq notification => exact absurd hends id
    · have hk := Negotiation.Keeps.of_mediasoup ht (Negotiation.keeps_runMediasoup hends hp h)
      exact (hs.of_keeps hk).resolve_right (Multiset.notMem_zero _)

/-- No call of the application adds to what is awaited. -/
theorem call_awaited {a : ApiCall} {s : Stage} (h : c.step J (.call a o) = .ok c')
    (hs : Awaited c' s) : Awaited c s := by
  have hmedia (hu : UsesMedia c c') : Awaited c s :=
    (hs.of_keeps (Negotiation.keeps_media hu)).resolve_right (Multiset.notMem_zero _)
  cases a with
  | join hostname port roomId displayName options =>
    rcases join_ok h with ⟨-, _, _, _, _, _, _, rfl⟩ | ⟨-, sc, hsc, rfl⟩
    · exact hs
    · refine awaited_of_subset ?_ ?_ hs
      · rw [hsc]
        exact waiting_reconnected sc _
      · exact le_rfl
  | leave =>
    rcases leave_ok h with ⟨-, rfl⟩ | ⟨-, sc, hsc, rfl⟩
    · exact hs
    · refine awaited_of_subset ?_ ?_ hs
      · rintro callback ⟨sc', k, r, hsc', hl, hr⟩
        cases hsc'
        exact ⟨sc, k, r, hsc, hl, hr⟩
      · exact le_rfl
  | destroy =>
    rw [destroy_ok h] at hs
    refine awaited_of_subset ?_ ?_ hs
    · simp only [waiting_none]
      exact Set.empty_subset _
    · exact le_rfl
  | enableAudio enabled =>
    obtain ⟨hu, -⟩ := deref_withMedia_ok (fun _ _ => Media.enableAudio_keeps) h
    exact hmedia hu
  | muteAudio muted =>
    obtain ⟨hu, -⟩ := deref_withMedia_ok
      (fun m m' hm => by cases hm; exact Media.muteAudio_keeps muted m) h
    exact hmedia hu
  | enableVideo enabled trackName =>
    obtain ⟨hu, -⟩ := deref_withMedia_ok (fun _ _ => Media.enableVideo_keeps) h
    exact hmedia hu

theorem socket_awaited {e : SocketEvent} {s : Stage} (hs : Awaited (c.onSocket e) s) :
    Awaited c s := by
  have hposted {d : RoomClient} {t : TransportTask} (hw : d.signalingClient = c.signalingClient)
      (ht : Negotiation.tokens d = Negotiation.tokens c) (hd : Awaited (d.postTransport t) s) :
      Awaited c s := by
    have hle : Negotiation.tokens (d.postTransport t) ≤
        ((openingOf t).toList : Multiset _) + Negotiation.tokens c := by
      rw [Negotiation.tokens_postTransport, ht]
    rcases awaited_of (fun callback hc => Or.inl (hw ▸ hc)) hle hd with hold | hnew
    · exact hold
    · cases t <;> simp [openingOf] at hnew
  cases e with
  | opened => exact hposted rfl rfl hs
  | closed => exact hposted rfl rfl hs
  | failed => exact hposted rfl rfl hs
  | message json => exact hposted (d := { c with arrived := c.arrived + 1 }) rfl rfl hs

/-- A task of the transport thread takes its token along. -/
theorem transport_awaited {s : Stage} (h : c.step J .transport = .ok c') (hs : Awaited c' s) :
    Awaited c s := by
  rcases step_transport h with ⟨-, rfl⟩ | ⟨t, rest, ht, hrun⟩
  · exact hs
  · have htokens := Negotiation.tokens_transport ht
    rcases runTransport_awaited hrun hs with hold | hnew
    · refine awaited_of_subset ?_ ?_ hold
      · exact Set.Subset.rfl
      · rw [htokens]
        exact Multiset.le_add_left _ _
    · right
      rw [htokens]
      exact Multiset.mem_add.mpr (Or.inl hnew)

/-- A step awaits only what the options schedule, and only a task of the mediasoup thread adds
to what is awaited. -/
theorem step_awaited {a : Action} {s : Stage} (h : c.step J a = .ok c') (hs : Awaited c' s) :
    Awaited c s ∨ (c.mediasoupTasks ≠ [] ∧ s ∈ schedule c.options) := by
  cases a with
  | call a o => exact Or.inl (call_awaited h hs)
  | socket e =>
    cases h
    exact Or.inl (socket_awaited hs)
  | listener l o =>
    obtain ⟨callback, hr, hcallback⟩ := listen_requests h
    have hn : Stage.ofCallback callback = none := by
      rcases hcallback with rfl | rfl | rfl <;> rfl
    have hold := hs.of_keeps (Negotiation.keeps_requests hr hn)
    exact Or.inl (hold.resolve_right (Multiset.notMem_zero _))
  | transport => exact Or.inl (transport_awaited h hs)
  | mediasoup o =>
    rcases step_mediasoup h with ⟨-, rfl⟩ | ⟨t, rest, ht, hrun⟩
    · exact Or.inl hs
    · exact (runMediasoup_awaited ht hrun hs).imp_right fun hmem => ⟨by simp [ht], hmem⟩

/-- A task of the mediasoup thread closes the room only together with its components. -/
theorem MediasoupChange.open_or_gone {t : MediasoupTask} (hc : MediasoupChange c t c') :
    c'.state = c.state ∨ c'.mediaController = none := by
  cases hc with
  | requested hr =>
    obtain ⟨sc, rfl, -⟩ := hr
    exact Or.inl rfl
  | closed => exact Or.inr rfl
  | loaded hm => exact Or.inl rfl
  | skipped => exact Or.inl rfl
  | transport hd hr =>
    obtain ⟨sc, rfl, -⟩ := hr
    rcases hd with rfl | ⟨-, -, mc, send, recv, component, rfl⟩
    · exact Or.inl rfl
    · exact Or.inl rfl
  | joined hd hpc =>
    rename_i seq state response d pc
    by_cases hs : state = .closed
    · subst hs
      rw [onRoomStateChanged_closed hd]
      exact Or.inr rfl
    · rw [onRoomStateChanged_open hs hd]
      exact Or.inl rfl
  | idle ht hm => exact Or.inl rfl
  | media ht hm hd =>
    obtain ⟨mc, pc, sc, rfl, -⟩ := hd
    exact Or.inl rfl

/-- While the media controller is there, the room that is not closed stays so. -/
theorem step_open {a : Action} (h : c.step J a = .ok c') (hopen : c.state ≠ .closed)
    (hmc : c'.mediaController ≠ none) : c'.state ≠ .closed := by
  cases step_change h with
  | refused hn => exact hopen
  | accepted ha hsc => simp
  | stayed hs => exact hopen
  | left hs hsc => exact absurd rfl hmc
  | destroyed => exact absurd rfl hmc
  | media ha hm hu =>
    obtain ⟨mc, pc, sc, rfl, -⟩ := hu
    exact hopen
  | socket =>
    rename_i e
    cases e <;> exact hopen
  | listened hr hcallback =>
    obtain ⟨sc, rfl, -⟩ := hr
    exact hopen
  | transportIdle ht => exact hopen
  | transport ht hc =>
    rcases hc.joins ht with ⟨hstate, -⟩ | ⟨r, -, -, ⟨-, hstate, -⟩ | ⟨-, hstate, -⟩⟩
    · rwa [hstate]
    · rwa [hstate]
    · simp [hstate]
  | mediasoupIdle ht => exact hopen
  | mediasoup ht hc =>
    rcases hc.open_or_gone with hstate | hgone
    · rwa [hstate]
    · exact absurd hgone hmc

/-- Before the first session nothing happens on the threads. -/
structure Idle (c : RoomClient) : Prop where
  state : c.state = .closed
  transport : c.transportTasks = []
  mediasoup : c.mediasoupTasks = []

theorem Idle.step {a : Action} (hi : Idle c) (h : c.step J a = .ok c')
    (hsocket : ∀ e, a ≠ .socket e) (hjoin : ¬ StartsSession c a) : Idle c' := by
  cases step_change h with
  | refused hn => exact ⟨hi.state, hi.transport, hi.mediasoup⟩
  | accepted ha hsc => exact absurd ⟨_, _, _, _, _, _, rfl, ha⟩ hjoin
  | stayed hs => exact ⟨hi.state, hi.transport, hi.mediasoup⟩
  | left hs hsc => exact absurd hi.state hs
  | destroyed => exact ⟨hi.state, hi.transport, hi.mediasoup⟩
  | media ha hm hu =>
    obtain ⟨mc, pc, sc, rfl, -⟩ := hu
    exact ⟨hi.state, hi.transport, hi.mediasoup⟩
  | socket => exact absurd rfl (hsocket _)
  | listened hr hcallback =>
    obtain ⟨sc, rfl, -⟩ := hr
    exact ⟨hi.state, hi.transport, hi.mediasoup⟩
  | transportIdle ht => exact hi
  | transport ht hc =>
    rw [hi.transport] at ht
    cases ht
  | mediasoupIdle ht => exact hi
  | mediasoup ht hc =>
    rw [hi.mediasoup] at ht
    cases ht

theorem request_gone {r : ApiRequest} {callback : Callback} (hsc : c.signalingClient = none)
    (h : c.request J o r callback = .ok c') : c'.signalingClient = none := by
  simp only [request, hsc, MediasoupApi.send, bind_ok, pure, Except.pure, Except.ok.injEq] at h
  obtain ⟨p, rfl, rfl⟩ := h
  rfl

theorem sendOutgoing_gone {outgoing : List Outgoing} :
    ∀ {n : ℕ} {sc : Option (SignalingClient Callback)},
      sendOutgoing J o n outgoing none = .ok sc → sc = none := by
  induction outgoing with
  | nil =>
    intro n sc h
    cases h
    rfl
  | cons m rest ih =>
    intro n sc h
    cases m with
    | request r =>
      simp only [sendOutgoing, MediasoupApi.send, bind_ok, Except.ok.injEq] at h
      obtain ⟨p, rfl, h⟩ := h
      exact ih h
    | answer id =>
      simp only [sendOutgoing, MediasoupApi.response, bind_ok, Except.ok.injEq] at h
      obtain ⟨sc', rfl, h⟩ := h
      exact ih h

theorem withMedia_gone {op : Media → Except Fault Media} {mc : MediaController}
    (hsc : c.signalingClient = none) (h : c.withMedia J o op mc = .ok c') :
    c'.signalingClient = none := by
  simp only [withMedia, hsc, bind_ok, pure, Except.pure, Except.ok.injEq] at h
  obtain ⟨m, -, sc, hsend, rfl⟩ := h
  exact sendOutgoing_gone hsend

theorem runMedia_gone {op : Media → Except Fault Media} {seq : ℕ}
    (hsc : c.signalingClient = none) (h : c.runMedia J seq op o = .ok c') :
    c'.signalingClient = none := by
  unfold runMedia at h
  split at h
  · cases h
    exact hsc
  · simp only [bind_ok, pure, Except.pure, Except.ok.injEq] at h
    obtain ⟨d, hd, rfl⟩ := h
    have hgone := withMedia_gone hsc hd
    exact hgone

theorem listen_gone {l : ListenerCall} (hsc : c.signalingClient = none)
    (h : c.listen J l o = .ok c') : c'.signalingClient = none := by
  unfold listen at h
  split_ifs at h
  · cases h
    exact hsc
  · cases l with
    | onConnect transportId dtlsParameters =>
      simp only at h
      split at h
      · cases h
        exact hsc
      · exact request_gone hsc h
    | onProduce transportId kind rtpParameters trackName =>
      simp only at h
      split at h
      · cases h
        exact hsc
      · exact request_gone hsc h
    | onProduceData transportId sctpStreamParameters label protocol =>
      simp only at h
      split at h
      · cases h
        exact hsc
      · exact request_gone hsc h

theorem runMediasoup_gone {t : MediasoupTask} (hsc : c.signalingClient = none)
    (h : c.runMediasoup J t o = .ok c') : c'.signalingClient = none := by
  cases hp : continuationOf t with
  | some p =>
    obtain ⟨d, hprep, hover⟩ := runMediasoup_prepares hp h
    have hd := hprep.signalingClient.trans hsc
    cases hr : requestOf J o t c with
    | none =>
      rw [hr] at hover
      cases hover
      exact hd
    | some r =>
      rw [hr] at hover
      exact request_gone hd hover
  | none =>
    cases t with
    | getRouterRtpCapabilities => cases hp
    | loadMediasoupDevice seq response => cases hp
    | closed =>
      rw [onRoomStateChanged_closed h]
      exact hsc
    | createTransport seq producing consuming response =>
      cases producing <;> cases consuming <;> simp [continuationOf, Stage.ofTransport] at hp
      cases h
      exact hsc
    | joined seq state response =>
      obtain ⟨d, pc, hd, rfl, -⟩ := onJoined_ok h
      by_cases hs : state = .closed
      · subst hs
        rw [onRoomStateChanged_closed hd]
        exact hsc
      · rw [onRoomStateChanged_open hs hd]
        exact hsc
    | newConsumer seq request => exact runMedia_gone hsc h
    | newDataConsumer seq request => exact runMedia_gone hsc h
    | updateConsumer seq tid paused => exact runMedia_gone hsc h
    | consumerClosed seq notification => exact runMedia_gone hsc h

/-- No step brings the signaling client back, and the room stays closed without it. -/
theorem step_gone {a : Action} (hsc : c.signalingClient = none) (hclosed : c.state = .closed)
    (h : c.step J a = .ok c') : c'.signalingClient = none ∧ c'.state = .closed := by
  cases a with
  | call a o =>
    have hmedia {op : Media → Except Fault Media}
        (hop : ∀ m m', op m = .ok m' → Media.Keeps m m')
        (hm : (deref Pointer.mediaController c.mediaController >>= fun mc =>
          c.withMedia J o op mc) = .ok c') : c'.signalingClient = none ∧ c'.state = .closed := by
      obtain ⟨⟨mc, pc, sc, hc', -⟩, -⟩ := deref_withMedia_ok hop hm
      simp only [bind_ok, deref_eq_ok] at hm
      obtain ⟨mc, -, hm⟩ := hm
      refine ⟨withMedia_gone hsc hm, ?_⟩
      rw [hc']
      exact hclosed
    cases a with
    | join hostname port roomId displayName options =>
      rcases join_ok h with ⟨-, _, _, _, _, _, _, rfl⟩ | ⟨-, sc, hsome, rfl⟩
      · exact ⟨hsc, hclosed⟩
      · rw [hsc] at hsome
        cases hsome
    | leave =>
      rcases leave_ok h with ⟨-, rfl⟩ | ⟨hopen, sc, -, rfl⟩
      · exact ⟨hsc, hclosed⟩
      · exact absurd hclosed hopen
    | destroy =>
      rw [destroy_ok h]
      exact ⟨rfl, hclosed⟩
    | enableAudio enabled => exact hmedia (fun _ _ => Media.enableAudio_keeps) h
    | muteAudio muted =>
      exact hmedia (fun m m' hm => by cases hm; exact Media.muteAudio_keeps muted m) h
    | enableVideo enabled trackName => exact hmedia (fun _ _ => Media.enableVideo_keeps) h
  | socket e =>
    cases h
    cases e <;> exact ⟨hsc, hclosed⟩
  | listener l o =>
    refine ⟨listen_gone hsc h, ?_⟩
    obtain ⟨callback, ⟨sc, rfl, -⟩, -⟩ := listen_ok h
    exact hclosed
  | transport =>
    rcases step_transport h with ⟨-, rfl⟩ | ⟨t, rest, -, hrun⟩
    · exact ⟨hsc, hclosed⟩
    · simp only [runTransport, hsc, Except.ok.injEq] at hrun
      subst hrun
      exact ⟨rfl, hclosed⟩
  | mediasoup o =>
    rcases step_mediasoup h with ⟨-, rfl⟩ | ⟨t, rest, -, hrun⟩
    · exact ⟨hsc, hclosed⟩
    · have hrest : { c with mediasoupTasks := rest }.signalingClient = none := hsc
      refine ⟨runMediasoup_gone hrest hrun, ?_⟩
      obtain ⟨-, -, hstate | hstate⟩ := (runMediasoup_ok hrun).same
      · exact hstate.trans hclosed
      · exact hstate

/-- The options of a join call that is accepted; no options stand for the defaults. -/
def acceptedOptions (c : RoomClient) : Action → Option Options
  | .call (.join hostname _ roomId displayName options) _ =>
    if c.Accepts hostname roomId displayName then some (options.getD {}) else none
  | _ => none

theorem acceptedOptions_eq_some {a : Action} {options : Options}
    (h : acceptedOptions c a = some options) :
    ∃ hostname port roomId displayName given o,
      a = .call (.join hostname port roomId displayName given) o ∧
      c.Accepts hostname roomId displayName ∧ options = given.getD {} := by
  unfold acceptedOptions at h
  split at h
  · split_ifs at h with ha
    cases h
    exact ⟨_, _, _, _, _, _, rfl, ha, rfl⟩
  · cases h

theorem not_startsSession {a : Action} (h : acceptedOptions c a = none) : ¬ StartsSession c a := by
  rintro ⟨hostname, port, roomId, displayName, options, o, rfl, ha⟩
  simp [acceptedOptions, ha] at h

/-- A join call that is not accepted stores its options only when there is no signaling client. -/
theorem step_options_refused {a : Action} (h : c.step J a = .ok c')
    (ha : acceptedOptions c a = none) :
    c'.options = c.options ∨ (c.signalingClient = none ∧ c.state = .closed) := by
  by_cases hjoin : ∃ hostname port roomId displayName options o,
      a = .call (.join hostname port roomId displayName options) o
  · obtain ⟨hostname, port, roomId, displayName, options, o, rfl⟩ := hjoin
    have hn : ¬ c.Accepts hostname roomId displayName := by
      intro haccepts
      simp [acceptedOptions, haccepts] at ha
    simp only [step, call, join] at h
    split_ifs at h with hs hh hr hd
    · cases h
      exact Or.inl rfl
    · cases h
      exact Or.inl rfl
    · cases h
      exact Or.inl rfl
    · cases h
      exact Or.inl rfl
    · right
      refine ⟨?_, not_not.mp hs⟩
      by_contra hsc
      exact hn ⟨not_not.mp hs, by simpa using hh, by simpa using hr, by simpa using hd,
        Option.isSome_iff_ne_none.mpr hsc⟩
  · left
    apply step_options h
    intro hostname port roomId displayName options o heq
    exact hjoin ⟨_, _, _, _, _, _, heq⟩

/-- The client with the options of the last accepted join call. -/
structure Session where
  client : RoomClient := initial
  joined : Option Options := none

namespace Session

variable (J) in
def step (s : Session) (a : Action) : Except Fault Session := do
  let client ← s.client.step J a
  return { client, joined := (acceptedOptions s.client a).or s.joined }

/-- In a session both act on the options of the last accepted join call. -/
def Agrees (s : Session) : Prop :=
  s.client.state ≠ .closed → s.joined = some s.client.options ∧
    ∀ mc, s.client.mediaController = some mc → mc.ActsOn s.client.options

/-- Options with which the defaults of the media controller do no harm: no simulcast where a
transport for sending is created, and data channels where one for receiving is. -/
def LikeDefaults (options : Options) : Prop :=
  (options.produce.getD false = true → options.useSimulcast.getD false = false) ∧
    (options.consume.getD false = true → options.datachannel.getD false = true)

instance (options : Options) : Decidable (LikeDefaults options) :=
  inferInstanceAs (Decidable (_ ∧ _))

/-- The socket reports what happens to a connection, which only a join call makes; and a join
call that is accepted while the media controller is there passes options like the defaults. -/
def Plain (s : Session) : Action → Prop
  | .socket _ => s.joined.isSome
  | .call (.join hostname _ roomId displayName options) _ =>
    s.client.Accepts hostname roomId displayName → s.client.mediaController.isSome →
      LikeDefaults (options.getD {})
  | _ => True

instance (s : Session) : (a : Action) → Decidable (Plain s a)
  | .socket _ => inferInstanceAs (Decidable (s.joined.isSome = true))
  | .call (.join ..) _ => inferInstanceAs (Decidable (_ → _ → LikeDefaults _))
  | .call .leave _ | .call .destroy _ | .call (.enableAudio _) _ | .call (.muteAudio _) _
  | .call (.enableVideo _ _) _ | .listener _ _ | .transport | .mediasoup _ => .isTrue trivial

/-- The requests that the session may make. -/
def planned : Option Options → List Stage
  | none => []
  | some options => schedule options

/-- What is on its way and what is there belongs to the plan. -/
structure Within (plan : List Stage) (c : RoomClient) (mc : MediaController) : Prop where
  awaited : ∀ s, c.Awaited s → s ∈ plan
  send : mc.sendTransport.isSome → .createSendTransport ∈ plan
  recv : mc.recvTransport.isSome → .createRecvTransport ∈ plan

structure Inv (s : Session) : Prop where
  idle : s.joined = none → Idle s.client
  options : s.joined = none ∨ s.joined = some s.client.options ∨
    (s.client.signalingClient = none ∧ s.client.state = .closed)
  media : ∀ mc, s.client.mediaController = some mc →
    mc.options = {} ∧ Within (planned s.joined) s.client mc ∧
      ∀ options, s.joined = some options →
        s.client.state ≠ .closed ∧ s.client.options = options ∧ LikeDefaults options

variable {s s' : Session}

theorem inv_start : Inv {} where
  idle _ := ⟨rfl, rfl, rfl⟩
  options := Or.inl rfl
  media mc hmc := by
    cases hmc
    refine ⟨rfl, ⟨?_, nofun, nofun⟩, nofun⟩
    intro s hs
    rcases hs with ⟨callback, hw, hstage⟩ | htoken
    · rw [Negotiation.initial_quiet.waiting callback hw] at hstage
      cases hstage
    · rw [Negotiation.initial_quiet.tokens_eq] at htoken
      exact absurd htoken (Multiset.notMem_zero _)

theorem Inv.agrees (h : Inv s) : s.Agrees := by
  intro hopen
  have hjoined : s.joined = some s.client.options := by
    rcases h.options with hnone | hsome | ⟨-, hclosed⟩
    · exact absurd (h.idle hnone).state hopen
    · exact hsome
    · exact absurd hclosed hopen
  refine ⟨hjoined, fun mc hmc => ?_⟩
  obtain ⟨hdefault, hwithin, hlike⟩ := h.media mc hmc
  obtain ⟨-, -, hproduce, hconsume⟩ := hlike _ hjoined
  rw [hjoined] at hwithin
  apply MediaController.actsOn_of
  · intro hsend
    have hmem := hwithin.send hsend
    have hp : s.client.options.produce.getD false = true := by
      by_contra hno
      simp [planned, schedule, hno] at hmem
    rw [hdefault, hproduce hp]
    rfl
  · intro hrecv
    have hmem := hwithin.recv hrecv
    have hc : s.client.options.consume.getD false = true := by
      by_contra hno
      simp [planned, schedule, hno] at hmem
    exact ⟨hc, hconsume hc⟩

/-- The plan covers what a step awaits and creates. -/
theorem Inv.within {a : Action} {client : RoomClient} {mc mc' : MediaController} (h : Inv s)
    (hs : s.client.step J a = .ok client) (hmc : s.client.mediaController = some mc)
    (hsend : mc'.sendTransport.isSome →
      mc.sendTransport.isSome ∨ some .createSendTransport ∈ Negotiation.tokens s.client)
    (hrecv : mc'.recvTransport.isSome →
      mc.recvTransport.isSome ∨ some .createRecvTransport ∈ Negotiation.tokens s.client) :
    Within (planned s.joined) client mc' := by
  obtain ⟨-, hwithin, hlike⟩ := h.media mc hmc
  refine ⟨fun st hst => ?_, fun hsome => ?_, fun hsome => ?_⟩
  · rcases step_awaited hs hst with hold | ⟨htasks, hmem⟩
    · exact hwithin.awaited st hold
    · cases hjoined : s.joined with
      | none => exact absurd (h.idle hjoined).mediasoup htasks
      | some options =>
        obtain ⟨-, heq, -⟩ := hlike options hjoined
        rwa [heq] at hmem
  · rcases hsend hsome with hold | htoken
    · exact hwithin.send hold
    · exact hwithin.awaited _ (Or.inr htoken)
  · rcases hrecv hsome with hold | htoken
    · exact hwithin.recv hold
    · exact hwithin.awaited _ (Or.inr htoken)

/-- A join call that is accepted while the media controller is there is the first one. -/
theorem Inv.accept {a : Action} {client : RoomClient} {options : Options} (h : Inv s)
    (ha : Plain s a) (hacc : acceptedOptions s.client a = some options)
    (hs : s.client.step J a = .ok client) : Inv ⟨client, some options⟩ := by
  obtain ⟨hostname, port, roomId, displayName, given, o, rfl, haccepts, rfl⟩ :=
    acceptedOptions_eq_some hacc
  rcases join_ok hs with ⟨hn, -⟩ | ⟨-, sc, hsc, hclient⟩
  · exact absurd haccepts hn
  have hoptions : client.options = given.getD {} := by rw [hclient]
  have hstate : client.state ≠ .closed := by simp [hclient]
  refine ⟨nofun, Or.inr (Or.inl (congrArg some hoptions.symm)), fun mc' hmc' => ?_⟩
  obtain ⟨mc, hmc, hsettings, hsend, hrecv⟩ := step_inherits hs mc' hmc'
  obtain ⟨hdefault, -, hlike⟩ := h.media mc hmc
  have hfirst : s.joined = none := by
    cases hjoined : s.joined with
    | none => rfl
    | some options => exact absurd haccepts.1 (hlike options hjoined).1
  have hwithin := h.within hs hmc hsend hrecv
  rw [hfirst] at hwithin
  refine ⟨hsettings.trans hdefault, ⟨fun st hst => ?_, fun hsome => ?_, fun hsome => ?_⟩, ?_⟩
  · exact absurd (hwithin.awaited st hst) List.not_mem_nil
  · exact absurd (hwithin.send hsome) List.not_mem_nil
  · exact absurd (hwithin.recv hsome) List.not_mem_nil
  · rintro options ⟨⟩
    exact ⟨hstate, hoptions, ha haccepts (by simp [hmc])⟩

theorem Inv.step {a : Action} (h : Inv s) (ha : Plain s a) (hs : s.step J a = .ok s') :
    Inv s' := by
  simp only [Session.step, bind_ok, pure, Except.pure, Except.ok.injEq] at hs
  obtain ⟨client, hclient, rfl⟩ := hs
  cases hacc : acceptedOptions s.client a with
  | some options => exact h.accept ha hacc hclient
  | none =>
    simp only [Option.none_or]
    refine ⟨fun hnone => ?_, ?_, fun mc' hmc' => ?_⟩
    · apply (h.idle hnone).step hclient _ (not_startsSession hacc)
      rintro e rfl
      have hsome : s.joined.isSome := ha
      rw [show s.joined = none from hnone] at hsome
      cases hsome
    · rcases h.options with hnone | hsome | ⟨hsc, hclosed⟩
      · exact Or.inl hnone
      · rcases step_options_refused hclient hacc with heq | ⟨hsc, hclosed⟩
        · exact Or.inr (Or.inl (by rw [hsome, heq]))
        · exact Or.inr (Or.inr (step_gone hsc hclosed hclient))
      · exact Or.inr (Or.inr (step_gone hsc hclosed hclient))
    · obtain ⟨mc, hmc, hsettings, hsend, hrecv⟩ := step_inherits hclient mc' hmc'
      obtain ⟨hdefault, -, hlike⟩ := h.media mc hmc
      refine ⟨hsettings.trans hdefault, h.within hclient hmc hsend hrecv, ?_⟩
      intro options hjoined
      obtain ⟨hopen, heq, hdefaults⟩ := hlike options hjoined
      have hgiven : client.mediaController ≠ none := by
        intro hgone
        rw [show client.mediaController = some mc' from hmc'] at hgone
        cases hgone
      refine ⟨step_open hclient hopen hgiven, ?_, hdefaults⟩
      rcases step_options_refused hclient hacc with hsame | ⟨-, hclosed⟩
      · exact hsame.trans heq
      · exact absurd hclosed hopen

/-- In every run whose join calls pass such options, the room client and the media controller
act on the options of the last accepted join call. -/
theorem agrees_of_plain {run : List Action} (h : Guarded (step J) Plain {} run) :
    ∀ pre, pre <+: run → ∀ s, exec (step J) {} pre = .ok s → s.Agrees := by
  rintro pre ⟨post, rfl⟩ s hs
  exact (exec_invariant (fun _ _ _ hi hok hs => Inv.step hi hok hs) (guarded_append.mp h).1
    inv_start hs).agrees

def simulcastOptions : Options :=
  { produce := some true, consume := some false, datachannel := some false,
    useSimulcast := some true }

def simulcastJoin : Action :=
  .call (.join "sfu" 4443 "room" "alice" (some simulcastOptions)) firstMedia

/-- The session up to the point where the transport for sending exists. -/
def simulcastRun : List Action := simulcastJoin :: mediaNegotiation.take 11

/-- The encodings of the call of `Produce` that enabling the track makes. -/
def encodingsFor (trackName : String) (c : RoomClient) : Option (Option (List VideoEncoding)) :=
  (c.mediaController.bind fun mc => Media.videoProduce true trackName { controller := mc }).map
    ProduceArguments.encodings

theorem Agrees.encodingsFor_eq {trackName : String} {encodings : Option (List VideoEncoding)}
    (h : s.Agrees) (hopen : s.client.state ≠ .closed)
    (he : encodingsFor trackName s.client = some encodings) :
    encodings =
      if s.client.options.useSimulcast.getD false then some configVideoEncodings else none := by
  obtain ⟨arguments, hproduce, rfl⟩ := Option.map_eq_some_iff.mp he
  obtain ⟨mc, hmc, hproduce⟩ := Option.bind_eq_some_iff.mp hproduce
  exact ((h hopen).2 mc hmc).encodings _ _ _ _ rfl hproduce

/-- After the first join call only a further one matters. -/
theorem plain_of_joined {run : List Action}
    (hjoin : ∀ hostname port roomId displayName options o,
      .call (.join hostname port roomId displayName options) o ∉ run) :
    ∀ {s : Session}, s.joined.isSome → Guarded (step J) Plain s run := by
  induction run with
  | nil => exact fun _ => trivial
  | cons a run ih =>
    intro s hs
    refine ⟨?_, fun s' hs' => ih (fun _ _ _ _ _ _ hmem => ?_) ?_⟩
    · unfold Plain
      split
      · exact hs
      · exact absurd List.mem_cons_self (hjoin _ _ _ _ _ _)
      · trivial
    · exact hjoin _ _ _ _ _ _ (List.mem_cons_of_mem _ hmem)
    · simp only [step, bind_ok, pure, Except.pure, Except.ok.injEq] at hs'
      obtain ⟨client, -, rfl⟩ := hs'
      simp [hs]

/-- The consumers and data consumers that are held. -/
def held (c : RoomClient) : ℕ × ℕ :=
  c.mediaController.elim (0, 0) fun mc =>
    (mc.consumerMap.values.length, mc.dataConsumerMap.values.length)

/-- A session that sends and receives: a further track would be produced without simulcast, and the
consumer and the data consumer of the peer are there. -/
theorem mediaSession_agrees :
    ∃ s, exec (step mediaJson) {} (mediaJoin :: (mediaNegotiation ++ mediaExchange)) = .ok s ∧
      s.client.state = .connected ∧ encodingsFor "screen" s.client = some none ∧
      held s.client = (1, 1) ∧ s.Agrees := by
  have hguard : Guarded (step mediaJson) Plain {}
      (mediaJoin :: (mediaNegotiation ++ mediaExchange)) := by
    refine ⟨by decide +kernel, fun s hs => plain_of_joined ?_ ?_⟩
    · intro _ _ _ _ _ _ hmem
      simp [mediaNegotiation, mediaExchange] at hmem
    · cases hs
      rfl
  have hrun : (exec (step mediaJson) {}
      (mediaJoin :: (mediaNegotiation ++ mediaExchange))).toOption.map (fun s =>
        (s.client.state, encodingsFor "screen" s.client, held s.client)) =
          some (.connected, some none, (1, 1)) := by
    decide +kernel
  obtain ⟨s, hs, hfacts⟩ := exec_of_observed hrun
  simp only [Prod.mk.injEq] at hfacts
  obtain ⟨hstate, hencodings, hheld⟩ := hfacts
  exact ⟨s, hs, hstate, hencodings, hheld, agrees_of_plain hguard _ (List.prefix_refl _) s hs⟩

set_option maxRecDepth 8000 in
/-- The room client acts on the options of the call, and the media controller does not: the
video is produced without the simulcast encodings. -/
theorem simulcast_disagrees :
    ∃ s, exec (step mediaJson) {} simulcastRun = .ok s ∧
      s.joined = some simulcastOptions ∧ s.client.options = simulcastOptions ∧ ¬ s.Agrees := by
  refine ⟨_, rfl, rfl, rfl, fun h => ?_⟩
  have hencodings : none = some configVideoEncodings :=
    h.encodingsFor_eq (by decide +kernel) (show encodingsFor "t" _ = some none from rfl)
  cases hencodings

end Session
end RoomClient
end MediasoupSdk
