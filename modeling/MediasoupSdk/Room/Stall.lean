import MediasoupSdk.Room.Callbacks
import MediasoupSdk.Room.Completion

/-! A negotiation that lost its continuation. A session brings no other one: there is no retry and
no timeout, and the client stays as it is. -/
namespace MediasoupSdk
open Foundation Signaling
namespace RoomClient
namespace Negotiation

variable {J : JsonText} {o : Oracle} {c c' : RoomClient} {options : Options}
variable {n n' : Negotiation}

/-- Every request that was made is answered, and nothing carries the negotiation on. -/
structure Stalled (n : Negotiation) : Prop where
  opened : n.opened
  tokens : tokens n.client = 0
  answered : ∀ s, .issued s ∈ n.trace → .answered s ∈ n.trace
  state : n.client.state = .connecting

/-- In a session only the answer to the join request makes the client connected. -/
theorem Inv.state_step {a : Action} (h : Inv options n) (ha : InSession J n a)
    (hs : n.client.step J a = .ok c') :
    c'.state = n.client.state ∨ c'.state = .closed ∨
      .answered .join ∈ events J n.client a := by
  cases step_change hs with
  | refused hn => exact Or.inl rfl
  | accepted haccepts hsc => exact absurd haccepts.1 h.state
  | stayed hs => exact absurd ha id
  | left hopen hsc => exact absurd ha id
  | destroyed => exact absurd ha id
  | media hmedia hm hu =>
    obtain ⟨mc, pc, sc, rfl, -⟩ := hu
    exact Or.inl rfl
  | socket =>
    rename_i e
    cases e <;> exact Or.inl rfl
  | listened hr hcallback =>
    obtain ⟨sc, rfl, -⟩ := hr
    exact Or.inl rfl
  | transportIdle ht => exact Or.inl rfl
  | transport ht hc =>
    rcases hc.joins ht with ⟨hstate, -⟩ | ⟨r, ⟨seq, json, rest, sc, callback, ht, hsc, hcalls, -,
      hreceives⟩, -⟩
    · exact Or.inl hstate
    · cases hreceives
      exact Or.inr (Or.inr (by simp [events, answers, ht, hsc, hcalls, Stage.ofCallback]))
  | mediasoupIdle ht => exact Or.inl rfl
  | mediasoup ht hc =>
    obtain ⟨-, -, hstate | hstate⟩ := hc.same
    · exact Or.inl hstate
    · exact Or.inr (Or.inl hstate)

theorem openingOf_of_tokens {t : TransportTask} {rest : List TransportTask}
    (h : tokens c = 0) (ht : c.transportTasks = t :: rest) : openingOf t = none := by
  rw [tokens_transport ht, add_eq_zero] at h
  cases hp : openingOf t with
  | none => rfl
  | some p => simp [hp] at h

theorem continuationOf_of_tokens {t : MediasoupTask} {rest : List MediasoupTask}
    (h : tokens c = 0) (ht : c.mediasoupTasks = t :: rest) : continuationOf t = none := by
  rw [tokens_mediasoup ht, add_eq_zero] at h
  cases hp : continuationOf t with
  | none => rfl
  | some p => simp [hp] at h

theorem Stalled.answers_eq (h : Stalled n) (hi : Inv options n) (ha : InSession J n .transport) :
    answers J n.client = [] := by
  rcases answers_cases (J := J) n.client with hnone | ⟨seq, json, rest, sc, callback, s, -, -,
    hwaits, -, hs, hanswers⟩
  · exact hnone
  · have hissued := hi.waits callback hwaits s hs
    exact absurd (h.answered s hissued) (ha s (by simp [hanswers]))

theorem Stalled.issues_eq (h : Stalled n) : issues J o n.client = none := by
  unfold issues requestMade
  cases ht : n.client.mediasoupTasks with
  | nil => rfl
  | cons t rest =>
    simp only
    rw [requestOf_eq_none (continuationOf_of_tokens h.tokens ht), Option.bind_none]

theorem Stalled.events_eq {a : Action} (h : Stalled n) (hi : Inv options n)
    (ha : InSession J n a) : events J n.client a = [] := by
  cases a with
  | call a o => rfl
  | socket e => rfl
  | listener l o => rfl
  | transport => simp [events, h.answers_eq hi ha]
  | mediasoup o => simp [events, h.issues_eq]

/-- A task of the transport thread that opens nothing and answers no request of the negotiation. -/
theorem keeps_quietly {t : TransportTask} (hd : ¬ Disconnects t) (hn : openingOf t = none)
    (hcalls : ∀ seq json sc callback, t = .handleResponse seq json → c.signalingClient = some sc →
      (sc.handleResponse J.rapidjson json).2 = [.resolved callback json] →
        Stage.ofCallback callback = none)
    (h : c.runTransport J t = .ok c') : Keeps 0 c c' := by
  by_cases hresponse : ∃ seq json, t = .handleResponse seq json
  · obtain ⟨seq, json, rfl⟩ := hresponse
    unfold runTransport at h
    split at h
    · cases h
      exact Keeps.refl _
    · next sc hsc =>
      rcases keeps_handleResponse hsc h with ⟨-, hk⟩ | ⟨callback, -, hcall, hk⟩
      · exact hk
      · rw [hcalls seq json sc callback rfl hsc hcall] at hk
        exact hk
  · have hk := keeps_runTransport hd (fun seq json he => hresponse ⟨seq, json, he⟩) h
    rw [hn] at hk
    exact hk

theorem Stalled.transport_keeps (h : Stalled n) (hi : Inv options n)
    (ha : InSession J n .transport) (hs : n.client.step J .transport = .ok c') :
    Keeps 0 n.client c' := by
  rcases step_transport hs with ⟨-, rfl⟩ | ⟨t, rest, ht, hs⟩
  · exact Keeps.refl _
  · have hd : ¬ Disconnects t := hi.transport t (by simp [ht])
    have hopening := openingOf_of_tokens h.tokens ht
    apply Keeps.of_transport ht
    rw [hopening]
    apply keeps_quietly hd hopening _ hs
    rintro seq json sc callback rfl hsc hcalls
    have hanswers := h.answers_eq hi ha
    have hsc : n.client.signalingClient = some sc := hsc
    cases hstage : Stage.ofCallback callback with
    | none => rfl
    | some s => simp [answers, ht, hsc, hcalls, hstage] at hanswers

theorem Stalled.keeps {a : Action} (h : Stalled n) (hi : Inv options n) (ha : InSession J n a)
    (hs : n.client.step J a = .ok c') : Keeps 0 n.client c' := by
  cases a with
  | call a o =>
    cases a with
    | join hostname port roomId displayName options' =>
      have hsame : n.client.step J (.call (.join hostname port roomId displayName options') o) =
          .ok n.client := join_ongoing hi.state
      rw [hsame, Except.ok.injEq] at hs
      exact hs ▸ Keeps.refl _
    | leave => exact absurd ha id
    | destroy => exact absurd ha id
    | enableAudio enabled =>
      obtain ⟨hu, -⟩ := deref_withMedia_ok (fun _ _ => Media.enableAudio_keeps) hs
      exact keeps_media hu
    | muteAudio muted =>
      obtain ⟨hu, -⟩ := deref_withMedia_ok
        (fun m m' hm => by cases hm; exact Media.muteAudio_keeps muted m) hs
      exact keeps_media hu
    | enableVideo enabled trackName =>
      obtain ⟨hu, -⟩ := deref_withMedia_ok (fun _ _ => Media.enableVideo_keeps) hs
      exact keeps_media hu
  | socket e =>
    cases hs
    cases e with
    | opened => exact absurd h.opened (by simp [show n.opened = false from ha])
    | closed => exact absurd ha id
    | failed => exact absurd ha id
    | message json =>
      have harrived : Keeps 0 n.client { n.client with arrived := n.client.arrived + 1 } := by
        constructor <;> simp +contextual [Negotiation.tokens]
      exact harrived.trans_zero
        (keeps_postTransport (t := .onMessage n.client.arrived json) id)
  | listener l o =>
    obtain ⟨callback, hr, hcallback⟩ := listen_requests hs
    have hn : Stage.ofCallback callback = none := by
      rcases hcallback with rfl | rfl | rfl <;> rfl
    exact keeps_requests hr hn
  | transport => exact h.transport_keeps hi ha hs
  | mediasoup o =>
    rcases step_mediasoup hs with ⟨-, rfl⟩ | ⟨t, rest, ht, hs⟩
    · exact Keeps.refl _
    · have hends : ¬ Ends t := hi.mediasoup t (by simp [ht])
      have hp := continuationOf_of_tokens h.tokens ht
      exact Keeps.of_mediasoup ht (keeps_runMediasoup hends hp hs)

theorem Stalled.step {a : Action} (h : Stalled n) (hi : Inv options n) (ha : InSession J n a)
    (hs : n.step J a = .ok n') : Stalled n' ∧ n'.trace = n.trace := by
  have hevents := h.events_eq hi ha
  have hi' := hi.step ha hs
  simp only [Negotiation.step, bind_ok, pure, Except.pure, Except.ok.injEq] at hs
  obtain ⟨client, hclient, rfl⟩ := hs
  have htokens := (h.keeps hi ha hclient).tokens
  rw [h.tokens, add_zero, nonpos_iff_eq_zero] at htokens
  have htrace : n.trace ++ events J n.client a = n.trace := by rw [hevents, List.append_nil]
  refine ⟨⟨by simp [h.opened], htokens, ?_, ?_⟩, htrace⟩
  · simp only [htrace]
    exact h.answered
  · rcases hi.state_step ha hclient with hsame | hclosed | hjoined
    · exact hsame.trans h.state
    · exact absurd hclosed hi'.state
    · rw [hevents] at hjoined
      cases hjoined

/-- A connected client got the answer to its join request. -/
theorem connected_step {a : Action} (hi : Inv options n) (ha : InSession J n a)
    (h : n.client.state = .connected → .answered .join ∈ n.trace) (hs : n.step J a = .ok n') :
    n'.client.state = .connected → .answered .join ∈ n'.trace := by
  simp only [Negotiation.step, bind_ok, pure, Except.pure, Except.ok.injEq] at hs
  obtain ⟨client, hclient, rfl⟩ := hs
  intro hconnected
  rcases hi.state_step ha hclient with hsame | hclosed | hjoined
  · exact List.mem_append_left _ (h (hsame.symm.trans hconnected))
  · rw [hclosed] at hconnected
    cases hconnected
  · exact List.mem_append_right _ hjoined

theorem refused_of_any {D : Type} {decode : String → Except JsonError (Response D)}
    {json : String}
    (h : (MediasoupApi.onSuccess decode json).any (fun reply => (accepted reply).isSome) = false) :
    MediasoupApi.onSuccess decode json = [] ∨
      ∃ r, MediasoupApi.onSuccess decode json = [⟨0, "", some r⟩] ∧
        accepted (⟨0, "", some r⟩ : MediasoupApi.Reply (Response D)) = none := by
  rcases onSuccess_cases decode json with hs | ⟨r, -, -, hs⟩
  · exact Or.inl hs
  · rw [hs, List.any_cons, List.any_nil, Bool.or_false, Option.isSome_eq_false_iff,
      Option.isNone_iff_eq_none] at h
    exact Or.inr ⟨r, hs, h⟩

/-- The callback drops a reply that its guards do not let through. -/
theorem invoke_refused {seq : ℕ} {callback : Callback} {json : String} {s : Stage}
    (hs : Stage.ofCallback callback = some s) (hp : passes J json s = false)
    (h : invoke J seq (.resolved callback json) c = .ok c') :
    tokens c' = tokens c ∧ c'.state = c.state := by
  cases callback with
  | getRouterRtpCapabilities =>
    cases hs
    rcases refused_of_any hp with hreply | ⟨r, hreply, hrefused⟩
    · simp only [invoke, MediasoupApi.replies, hreply, List.foldl_nil, Except.ok.injEq] at h
      exact h ▸ ⟨rfl, rfl⟩
    · simp only [invoke, MediasoupApi.replies, hreply, List.foldl_cons, List.foldl_nil,
        onRouterRtpCapabilitiesReply, hrefused, Except.ok.injEq] at h
      exact h ▸ ⟨rfl, rfl⟩
  | createWebRtcTransport producing consuming =>
    have hdecodes : (MediasoupApi.onSuccess
        (decodeCreateWebRtcTransportResponse J.rapidjson) json).any
          (fun reply => (accepted reply).isSome) = false := by
      cases producing <;> cases consuming <;> cases hs <;> exact hp
    rcases refused_of_any hdecodes with hreply | ⟨r, hreply, hrefused⟩
    · simp only [invoke, MediasoupApi.replies, hreply, List.foldl_nil, Except.ok.injEq] at h
      exact h ▸ ⟨rfl, rfl⟩
    · simp only [invoke, MediasoupApi.replies, hreply, List.foldl_cons, List.foldl_nil,
        onCreateWebRtcTransportReply, hrefused, Except.ok.injEq] at h
      exact h ▸ ⟨rfl, rfl⟩
  | join =>
    cases hs
    rcases refused_of_any hp with hreply | ⟨r, hreply, hrefused⟩
    · simp only [invoke, MediasoupApi.replies, hreply, List.foldl_nil, Except.ok.injEq] at h
      exact h ▸ ⟨rfl, rfl⟩
    · simp only [invoke, MediasoupApi.replies, hreply, List.foldl_cons, List.foldl_nil,
        onJoinReply, hrefused, Except.ok.injEq] at h
      exact h ▸ ⟨rfl, rfl⟩
  | connectWebRtcTransport => cases hs
  | produce => cases hs
  | produceData => cases hs
  | ignored => cases hs

theorem join_notMem_of_schedule {done rest : List Stage} {s : Stage}
    (h : schedule options = done ++ s :: rest) : .join ∉ done := by
  intro hmem
  have hinit : Stage.join ∈ (schedule options).dropLast := by
    rw [h, List.dropLast_append_of_ne_nil (List.cons_ne_nil _ _)]
    exact List.mem_append_left _ hmem
  rw [schedule, ← List.cons_append, List.dropLast_concat] at hinit
  split_ifs at hinit <;> simp at hinit

/-- The callback of a response that the guards refuse is run, and nothing is posted. -/
theorem handleResponse_refused {seq : ℕ} {callback : Callback} {json : String} {s : Stage}
    {rest : List TransportTask} {sc : SignalingClient Callback}
    (ht : c.transportTasks = .handleResponse seq json :: rest) (hsc : c.signalingClient = some sc)
    (hcalls : (sc.handleResponse J.rapidjson json).2 = [.resolved callback json])
    (hstage : Stage.ofCallback callback = some s) (hp : passes J json s = false)
    (hs : c.step J .transport = .ok c') : tokens c' = tokens c ∧ c'.state = c.state := by
  simp only [RoomClient.step, ht, runTransport, hsc, RoomClient.handleResponse, hcalls,
    List.foldlM_cons, List.foldlM_nil, bind_ok, pure, Except.pure, Except.ok.injEq,
    exists_eq_right] at hs
  obtain ⟨htokens, hstate⟩ := invoke_refused hstage hp hs
  have hopening : openingOf (.handleResponse seq json) = none := rfl
  refine ⟨htokens.trans ?_, hstate⟩
  rw [tokens_transport ht, hopening, Option.toList_none, Multiset.coe_nil, zero_add]
  rfl

/-- The step in which a callback drops the reply to a request of the negotiation. -/
theorem Inv.refused (h : Inv options n) (ha : InSession J n .transport)
    (hconnected : n.client.state = .connected → .answered .join ∈ n.trace)
    (hrefused : cooperates J n.client .transport = false) (hs : n.step J .transport = .ok n') :
    Stalled n' := by
  simp only [Negotiation.step, bind_ok, pure, Except.pure, Except.ok.injEq] at hs
  obtain ⟨client, hclient, rfl⟩ := hs
  rcases answers_cases (J := J) n.client with hnone | ⟨seq, json, rest, sc, callback, s, ht, hsc,
    hwaits, hcalls, hstage, hanswers⟩
  · simp only [cooperates, hnone, List.all_nil] at hrefused
    split at hrefused
    · cases hrefused
    · cases hrefused
  · have hunanswered : .answered s ∉ n.trace := ha s (by simp [hanswers])
    obtain ⟨done, later, hschedule, htrace, hnone⟩ :=
      h.progress.of_waiting (h.waits callback hwaits s hstage) hunanswered
    rw [allTokens, add_eq_zero] at hnone
    have hp : passes J json s = false := by simpa [cooperates, ht, hanswers] using hrefused
    obtain ⟨htokens, hstate⟩ := handleResponse_refused ht hsc hcalls hstage hp hclient
    refine ⟨?_, htokens.trans hnone.2, ?_, hstate.trans ?_⟩
    · cases hopened : n.opened with
      | true => rfl
      | false => simp [hopened] at hnone
    · intro s' hs'
      simpa [events, hanswers, htrace] using hs'
    · cases hclosed : n.client.state with
      | closed => exact absurd hclosed h.state
      | connecting => rfl
      | connected =>
        have hjoined := hconnected hclosed
        rw [htrace] at hjoined
        have hdone : .join ∈ done := by simpa using hjoined
        exact absurd hdone (join_notMem_of_schedule hschedule)

/-- One reply that is not accepted ends the negotiation: in every interleaving the session stays
connecting from then on, and no request of the negotiation is made or answered any more. -/
theorem refused_reply_stalls (J : JsonText) {hostname : String} {port : ℕ}
    {roomId displayName : String} {options : Option Options} {o : Oracle} {c₀ c : RoomClient}
    (hquiet : Quiet c₀) (haccepts : c₀.Accepts hostname roomId displayName)
    (hjoin : c₀.step J (.call (.join hostname port roomId displayName options) o) = .ok c)
    {pre post : List Action}
    (hrun : Guarded (step J) Ongoing { client := c } (pre ++ .transport :: post))
    {n : Negotiation} (hn : exec (step J) { client := c } pre = .ok n)
    (hrefused : cooperates J n.client .transport = false) :
    ∀ later, later <+: post → ∀ m, exec (step J) n (.transport :: later) = .ok m →
      m.client.state = .connecting ∧ m.trace = n.trace ++ events J n.client .transport := by
  rintro later ⟨rest, rfl⟩ m hm
  have hsessions := (guarded_inSession hquiet haccepts hjoin (fun _ _ ha => ha) hrun).mono
    fun _ _ => And.left
  obtain ⟨hpre, hpost⟩ := guarded_append.mp hsessions
  have hstate : c.state = .connecting := by
    rcases join_ok hjoin with ⟨hno, -⟩ | ⟨-, sc, -, rfl⟩
    · exact absurd haccepts hno
    · rfl
  have hbefore : Inv (options.getD {}) n ∧
      (n.client.state = .connected → .answered .join ∈ n.trace) :=
    exec_invariant (I := fun n => Inv (options.getD {}) n ∧
        (n.client.state = .connected → .answered .join ∈ n.trace))
      (fun _ _ _ hi hok hs => ⟨hi.1.step hok hs, connected_step hi.1 hok hi.2 hs⟩) hpre
      ⟨hquiet.start haccepts hjoin, by simp [hstate]⟩ hn
  obtain ⟨hsession, hguard⟩ := hpost n hn
  obtain ⟨n₁, hs, hm⟩ := exec_cons_ok.mp hm
  have htrace : n₁.trace = n.trace ++ events J n.client .transport := by
    simp only [Negotiation.step, bind_ok, pure, Except.pure, Except.ok.injEq] at hs
    obtain ⟨client, -, rfl⟩ := hs
    rfl
  have hstart : Inv (options.getD {}) n₁ ∧ Stalled n₁ ∧ n₁.trace = n₁.trace :=
    ⟨hbefore.1.step hsession hs, hbefore.1.refused hsession hbefore.2 hrefused hs, rfl⟩
  have hafter : Inv (options.getD {}) m ∧ Stalled m ∧ m.trace = n₁.trace :=
    exec_invariant (I := fun m => Inv (options.getD {}) m ∧ Stalled m ∧ m.trace = n₁.trace)
      (fun _ _ _ hi hok hs =>
        ⟨hi.1.step hok hs, (hi.2.1.step hi.1 hok hs).1,
          (hi.2.1.step hi.1 hok hs).2.trans hi.2.2⟩)
      (guarded_append.mp (hguard n₁ hs)).1 hstart hm
  exact ⟨hafter.2.1.state, hafter.2.2.trans htrace⟩

/-- A response that has no member `ok`. -/
def errorText : String := "\x7b\"response\":true,\"id\":2,\"errorCode\":500\x7d"

def errorJson : JsonText where
  rapidjson := ⟨fun text =>
    if text = errorText then
      some (.object [("response", .bool true), ("id", .int 2), ("errorCode", .int 500)])
    else mediaJson.rapidjson.parse text⟩
  request := mediaJson.request
  answer := mediaJson.answer

/-- The SFU refuses the transport for sending. Neither does the reply that it sends later bring the
client into the room. -/
theorem refused_reply_stalls_session :
    ∃ n m, exec (step errorJson) { client := joined }
        (mediaNegotiation.take 7 ++ [.socket (.message errorText), .transport]) = .ok n ∧
      exec (step errorJson) n
        [.transport, .socket (.message sendTransportText), .transport, .transport] = .ok m ∧
      m.client.state = .connecting ∧ m.trace = n.trace ++ [.answered .createSendTransport] := by
  have hguard : Guarded (step errorJson) Ongoing { client := joined }
      (mediaNegotiation.take 7 ++ [.socket (.message errorText), .transport] ++
        .transport :: [.socket (.message sendTransportText), .transport, .transport]) := by
    decide +kernel
  have haccepts : initial.Accepts "sfu" "room" "alice" :=
    ⟨rfl, by decide, by decide, by decide, rfl⟩
  have hbefore : (exec (step errorJson) { client := joined }
      (mediaNegotiation.take 7 ++ [.socket (.message errorText), .transport])).toOption.map
        (fun n => (cooperates errorJson n.client .transport, events errorJson n.client .transport,
          (exec (step errorJson) n [.transport, .socket (.message sendTransportText), .transport,
            .transport]).toOption.isSome)) =
        some (false, [.answered .createSendTransport], true) := by
    decide +kernel
  obtain ⟨n, hn, hfacts⟩ := exec_of_observed hbefore
  simp only [Prod.mk.injEq] at hfacts
  obtain ⟨hrefused, hevents, hlater⟩ := hfacts
  obtain ⟨m, hm⟩ := Option.isSome_iff_exists.mp hlater
  rw [toOption_eq_some] at hm
  obtain ⟨hstate, htrace⟩ := refused_reply_stalls errorJson initial_quiet haccepts rfl hguard hn
    hrefused _ (List.prefix_refl _) m hm
  rw [hevents] at htrace
  exact ⟨n, m, hn, hm, hstate, htrace⟩

end Negotiation
end RoomClient
end MediasoupSdk
