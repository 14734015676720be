import MediasoupSdk.Room.Handover

/-! One session with the requests that the client makes and the answers that its callbacks get, in
any interleaving with the rest of the system. -/
namespace MediasoupSdk
open Foundation Signaling
namespace RoomClient

variable {J : JsonText} {o : Oracle} {c c' : RoomClient}

/-- The client with the requests that it made and the answers that its callbacks got. -/
structure Negotiation where
  client : RoomClient
  opened : Bool := false
  trace : List (Foundation.Exchange Stage) := []

namespace Negotiation

variable (J)

/-- The requests whose callbacks the next task of the transport thread invokes. -/
def answers (c : RoomClient) : List Stage :=
  match c.transportTasks, c.signalingClient with
  | .handleResponse _ json :: _, some sc =>
    (sc.handleResponse J.rapidjson json).2.filterMap fun
      | .resolved callback _ => Stage.ofCallback callback
      | .rejected callback _ _ => Stage.ofCallback callback
  | _, _ => []

/-- The request that the next task of the mediasoup thread makes. -/
def issues (o : Oracle) (c : RoomClient) : Option Stage :=
  (requestMade J c (.mediasoup o)).bind Stage.ofRequest

def events (c : RoomClient) : Action → List (Foundation.Exchange Stage)
  | .transport => (answers J c).map .answered
  | .mediasoup o => (issues J o c).toList.map .issued
  | _ => []

def opens : Action → Bool
  | .socket .opened => true
  | _ => false

def step (n : Negotiation) (a : Action) : Except Fault Negotiation := do
  let client ← n.client.step J a
  return { client, opened := n.opened || opens a, trace := n.trace ++ events J n.client a }

/-- The session goes on: the socket opens once and is neither closed nor lost, no callback is
invoked a second time, and the application neither leaves nor destroys the client. -/
def InSession (n : Negotiation) : Action → Prop
  | .call .leave _ => False
  | .call .destroy _ => False
  | .socket .opened => n.opened = false
  | .socket .closed => False
  | .socket .failed => False
  | .transport => ∀ s ∈ answers J n.client, .answered s ∉ n.trace
  | _ => True

instance (n : Negotiation) (a : Action) : Decidable (InSession J n a) := by
  unfold InSession
  split <;> infer_instance

variable {J}

/-- A task that ends the session. -/
def Ends : MediasoupTask → Prop
  | .closed => True
  | .joined _ state _ => state = .closed
  | _ => False

def Disconnects : TransportTask → Prop
  | .onClosed => True
  | .onFailed => True
  | _ => False

/-- The continuations on their way. -/
def tokens (c : RoomClient) : Multiset (Option Stage) :=
  (c.transportTasks.filterMap openingOf : Multiset (Option Stage)) +
    (c.mediasoupTasks.filterMap continuationOf : Multiset (Option Stage))

/-- The session is kept, and at most the given continuations are added. -/
structure Keeps (extra : Multiset (Option Stage)) (c c' : RoomClient) : Prop where
  options : c'.options = c.options
  state : c.state ≠ .closed → c'.state ≠ .closed
  device : c.mediasoupDevice.isSome → c'.mediasoupDevice.isSome
  send : c.sendTransport.isSome → c'.sendTransport.isSome
  recv : c.recvTransport.isSome → c'.recvTransport.isSome
  waits : ∀ callback ∈ waiting c'.signalingClient,
    callback ∈ waiting c.signalingClient ∨ Stage.ofCallback callback = none
  transport : ∀ t ∈ c'.transportTasks, t ∈ c.transportTasks ∨ ¬ Disconnects t
  mediasoup : ∀ t ∈ c'.mediasoupTasks, t ∈ c.mediasoupTasks ∨ ¬ Ends t
  tokens : tokens c' ≤ extra + tokens c

theorem Keeps.equipped {extra : Multiset (Option Stage)} {s : Stage} (h : Keeps extra c c')
    (hs : c.Equipped s) : c'.Equipped s := by
  cases s with
  | getRouterRtpCapabilities => trivial
  | createSendTransport => exact h.device hs
  | createRecvTransport =>
    refine ⟨h.device hs.1, fun hp => ?_⟩
    rw [h.options] at hp
    exact h.send (hs.2 hp)
  | join =>
    refine ⟨h.device hs.1, fun hp => ?_, fun hc => ?_⟩
    · rw [h.options] at hp
      exact h.send (hs.2.1 hp)
    · rw [h.options] at hc
      exact h.recv (hs.2.2 hc)

theorem Keeps.refl (c : RoomClient) : Keeps 0 c c := by
  constructor <;> simp +contextual

theorem Keeps.trans {e₁ e₂ : Multiset (Option Stage)} {d : RoomClient} (h₁ : Keeps e₁ c d)
    (h₂ : Keeps e₂ d c') : Keeps (e₁ + e₂) c c' where
  options := h₂.options.trans h₁.options
  state hs := h₂.state (h₁.state hs)
  device hd := h₂.device (h₁.device hd)
  send hs := h₂.send (h₁.send hs)
  recv hr := h₂.recv (h₁.recv hr)
  waits callback hw := by
    rcases h₂.waits callback hw with hw | hn
    · exact h₁.waits callback hw
    · exact Or.inr hn
  transport t ht := by
    rcases h₂.transport t ht with ht | hn
    · exact h₁.transport t ht
    · exact Or.inr hn
  mediasoup t ht := by
    rcases h₂.mediasoup t ht with ht | hn
    · exact h₁.mediasoup t ht
    · exact Or.inr hn
  tokens := by
    calc Negotiation.tokens c' ≤ e₂ + Negotiation.tokens d := h₂.tokens
      _ ≤ e₂ + (e₁ + Negotiation.tokens c) := by gcongr; exact h₁.tokens
      _ = e₁ + e₂ + Negotiation.tokens c := by abel

theorem Keeps.trans_zero {d : RoomClient} (h₁ : Keeps 0 c d) (h₂ : Keeps 0 d c') :
    Keeps 0 c c' := by
  have h := h₁.trans h₂
  rwa [add_zero] at h

/-- Only the signaling client changes, and it waits for nothing new of the negotiation. -/
theorem keeps_signaling {sc : Option (SignalingClient Callback)}
    (hw : ∀ callback ∈ waiting sc,
      callback ∈ waiting c.signalingClient ∨ Stage.ofCallback callback = none) :
    Keeps 0 c { c with signalingClient := sc } where
  options := rfl
  state hs := hs
  device hd := hd
  send hs := hs
  recv hr := hr
  waits := hw
  transport _ ht := Or.inl ht
  mediasoup _ ht := Or.inl ht
  tokens := by simp [Negotiation.tokens]

theorem keeps_requests {callback : Callback} (hr : Requests callback c c')
    (hn : Stage.ofCallback callback = none) : Keeps 0 c c' := by
  obtain ⟨sc, rfl, hw⟩ := hr
  apply keeps_signaling
  intro k hk
  rcases hw hk with hk | hk
  · exact Or.inl hk
  · rw [Set.mem_singleton_iff] at hk
    exact Or.inr (hk ▸ hn)

theorem keeps_media (hu : UsesMedia c c') : Keeps 0 c c' := by
  obtain ⟨mc, pc, sc, rfl, -, hw⟩ := hu
  have hr : Requests .ignored c { c with signalingClient := sc } := ⟨sc, rfl, hw⟩
  apply (keeps_requests hr rfl).trans_zero
  constructor <;> simp +contextual [tokens]

theorem keeps_touches {seq : ℕ} (ht : Touches seq c c') : Keeps 0 c c' := by
  obtain ⟨pc, volume, effects, rfl, -, -⟩ := ht
  constructor <;> simp +contextual [tokens]

theorem tokens_postMediasoup (t : MediasoupTask) :
    tokens (c.postMediasoup t) = ((continuationOf t).toList : Multiset _) + tokens c := by
  cases ht : continuationOf t with
  | none => simp [tokens, postMediasoup, ht]
  | some p =>
    simp only [tokens, postMediasoup, List.filterMap_append, List.filterMap_cons, ht,
      List.filterMap_nil, Option.toList_some, ← Multiset.coe_add]
    abel

theorem keeps_post {t : MediasoupTask} (ht : ¬ Ends t) :
    Keeps ((continuationOf t).toList : Multiset _) c (c.postMediasoup t) where
  options := rfl
  state hs := hs
  device hd := hd
  send hs := hs
  recv hr := hr
  waits _ hw := Or.inl hw
  transport _ ht := Or.inl ht
  mediasoup u hu := by
    rcases List.mem_append.mp hu with hu | hu
    · exact Or.inl hu
    · rw [List.mem_singleton] at hu
      exact Or.inr (hu ▸ ht)
  tokens := (tokens_postMediasoup t).le

theorem tokens_postTransport (t : TransportTask) :
    tokens (c.postTransport t) = ((openingOf t).toList : Multiset _) + tokens c := by
  cases ht : openingOf t with
  | none => simp [tokens, postTransport, ht]
  | some p =>
    simp only [tokens, postTransport, List.filterMap_append, List.filterMap_cons, ht,
      List.filterMap_nil, Option.toList_some, ← Multiset.coe_add]
    abel

theorem keeps_postTransport {t : TransportTask} (ht : ¬ Disconnects t) :
    Keeps ((openingOf t).toList : Multiset _) c (c.postTransport t) where
  options := rfl
  state hs := hs
  device hd := hd
  send hs := hs
  recv hr := hr
  waits _ hw := Or.inl hw
  transport u hu := by
    rcases List.mem_append.mp hu with hu | hu
    · exact Or.inl hu
    · rw [List.mem_singleton] at hu
      exact Or.inr (hu ▸ ht)
  mediasoup _ ht := Or.inl ht
  tokens := (tokens_postTransport t).le

theorem tokens_transport {t : TransportTask} {rest : List TransportTask}
    (ht : c.transportTasks = t :: rest) :
    tokens c = ((openingOf t).toList : Multiset _) + tokens { c with transportTasks := rest } := by
  cases hp : openingOf t with
  | none => simp [tokens, ht, hp]
  | some p => simp [tokens, ht, hp]

theorem tokens_mediasoup {t : MediasoupTask} {rest : List MediasoupTask}
    (ht : c.mediasoupTasks = t :: rest) :
    tokens c =
      ((continuationOf t).toList : Multiset _) + tokens { c with mediasoupTasks := rest } := by
  cases hp : continuationOf t with
  | none => simp [tokens, ht, hp]
  | some p => simp [tokens, ht, hp]

/-- A task of the transport thread is taken, with the continuation that it carries. -/
theorem Keeps.of_transport {t : TransportTask} {rest : List TransportTask}
    {extra : Multiset (Option Stage)} (ht : c.transportTasks = t :: rest)
    (h : Keeps ((openingOf t).toList + extra) { c with transportTasks := rest } c') :
    Keeps extra c c' where
  options := h.options
  state := h.state
  device := h.device
  send := h.send
  recv := h.recv
  waits := h.waits
  transport u hu := by
    rcases h.transport u hu with hu | hn
    · rw [ht]
      exact Or.inl (List.mem_cons_of_mem t hu)
    · exact Or.inr hn
  mediasoup := h.mediasoup
  tokens := by
    rw [tokens_transport ht]
    apply h.tokens.trans_eq
    abel

theorem Keeps.of_mediasoup {t : MediasoupTask} {rest : List MediasoupTask}
    (ht : c.mediasoupTasks = t :: rest) (h : Keeps 0 { c with mediasoupTasks := rest } c') :
    Keeps 0 c c' where
  options := h.options
  state := h.state
  device := h.device
  send := h.send
  recv := h.recv
  waits := h.waits
  transport := h.transport
  mediasoup u hu := by
    rcases h.mediasoup u hu with hu | hn
    · rw [ht]
      exact Or.inl (List.mem_cons_of_mem t hu)
    · exact Or.inr hn
  tokens := by
    rw [tokens_mediasoup ht]
    apply h.tokens.trans
    simp

theorem Keeps.mono {e₁ e₂ : Multiset (Option Stage)} (h : Keeps e₁ c c') (hle : e₁ ≤ e₂) :
    Keeps e₂ c c' :=
  { h with tokens := h.tokens.trans (by gcongr) }

/-- A callback posts at most the continuation of its own request. -/
theorem keeps_invoke {seq : ℕ} {callback : Callback} {json : String}
    (h : invoke J seq (.resolved callback json) c = .ok c') :
    Keeps (((Stage.ofCallback callback).map some).toList : Multiset _) c c' := by
  rcases invoke_ok h with rfl | ⟨_, r, he, rfl⟩ | ⟨producing, consuming, _, r, he, rfl⟩ |
    ⟨_, r, he, -, -, rfl⟩
  · exact (Keeps.refl _).mono (Multiset.zero_le _)
  · cases he
    exact keeps_post (t := .loadMediasoupDevice seq r) id
  · cases he
    exact keeps_post (t := .createTransport seq producing consuming r) id
  · cases he
    unfold onJoinReply
    cases accepted (⟨0, "", some r⟩ : MediasoupApi.Reply _) with
    | none =>
      have hreplies : Keeps 0 c { c with joinReplies := c.joinReplies ++ [r.ok] } := by
        constructor <;> simp +contextual [tokens]
      exact hreplies.mono (Multiset.zero_le _)
    | some reply =>
      have hstate : Keeps 0 c
          { c with state := .connected, joinReplies := c.joinReplies ++ [r.ok] } := by
        constructor <;> simp +contextual [tokens]
      have hpost := hstate.trans (keeps_post (t := .joined seq .connected reply) nofun)
      exact hpost.mono (Multiset.zero_le _)

theorem keeps_handleResponse {seq : ℕ} {json : String} {sc : SignalingClient Callback}
    (hsc : c.signalingClient = some sc) (h : c.handleResponse J seq json sc = .ok c') :
    ((sc.handleResponse J.rapidjson json).2 = [] ∧ Keeps 0 c c') ∨
      ∃ callback ∈ waiting c.signalingClient,
        (sc.handleResponse J.rapidjson json).2 = [.resolved callback json] ∧
        Keeps (((Stage.ofCallback callback).map some).toList : Multiset _) c c' := by
  have hkeep {sc' : SignalingClient Callback} (hw : waiting (some sc') ⊆ waiting (some sc)) :
      Keeps 0 c { c with signalingClient := some sc' } := by
    apply keeps_signaling
    intro k hk
    rw [hsc]
    exact Or.inl (hw hk)
  obtain ⟨sc', hw, ⟨hcalls, rfl⟩ | ⟨callback, hcallback, hcalls, hi⟩⟩ := handleResponse_ok h
  · exact Or.inl ⟨hcalls, hkeep hw⟩
  · have happly : Keeps 0 c ({ c with signalingClient := some sc' }.apply seq) := by
      apply (hkeep hw).trans_zero
      constructor <;> simp +contextual [tokens, RoomClient.apply]
    have hall := happly.trans (keeps_invoke hi)
    rw [zero_add] at hall
    rw [hsc]
    exact Or.inr ⟨callback, hcallback, hcalls, hall⟩

theorem isMedia_quiet {seq : ℕ} {t : MediasoupTask} (ht : IsMedia seq t) :
    ¬ Ends t ∧ continuationOf t = none := by
  cases t with
  | newConsumer n request => exact ⟨id, rfl⟩
  | newDataConsumer n request => exact ⟨id, rfl⟩
  | updateConsumer n tid paused => exact ⟨id, rfl⟩
  | consumerClosed n notification => exact ⟨id, rfl⟩
  | getRouterRtpCapabilities => exact absurd ht id
  | closed => exact absurd ht id
  | loadMediasoupDevice n response => exact absurd ht id
  | createTransport n producing consuming response => exact absurd ht id
  | joined n state response => exact absurd ht id

/-- A task of the transport thread that is not the end of the session. -/
theorem keeps_runTransport {t : TransportTask} (hd : ¬ Disconnects t)
    (hn : ∀ seq json, t ≠ .handleResponse seq json) (h : c.runTransport J t = .ok c') :
    Keeps ((openingOf t).toList : Multiset _) c c' := by
  cases runTransport_ok h with
  | gone hsc => exact (Keeps.refl c).mono (Multiset.zero_le _)
  | opened => exact keeps_post (t := .getRouterRtpCapabilities) id
  | failed => exact absurd trivial hd
  | closed hsc => exact absurd trivial hd
  | dispatched hkind hd he =>
    rcases hd with ht | ⟨t, ht, rfl⟩
    · exact keeps_touches ht
    · obtain ⟨he, hn⟩ := isMedia_quiet ht
      have hpost := keeps_post (c := c) he
      rw [hn] at hpost
      exact hpost
  | reposted hkind => exact keeps_postTransport (t := .handleResponse _ _) id
  | unanswered hsc hw => exact absurd rfl (hn _ _)
  | answered hsc hw hcallback hcall hi => exact absurd rfl (hn _ _)

/-- A task of the mediasoup thread that neither ends the session nor makes the next request. -/
theorem keeps_runMediasoup {t : MediasoupTask} (he : ¬ Ends t) (hn : continuationOf t = none)
    (h : c.runMediasoup J t o = .ok c') : Keeps 0 c c' := by
  have hmedia {seq : ℕ} {op : Media → Except Fault Media}
      (hop : ∀ m m', op m = .ok m' → Media.Keeps m m')
      (hm : c.runMedia J seq op o = .ok c') : Keeps 0 c c' := by
    rcases runMedia_ok hop hm with ⟨-, rfl⟩ | ⟨d, -, hu, rfl⟩
    · exact Keeps.refl _
    · apply (keeps_media hu).trans_zero
      constructor <;> simp +contextual [tokens, RoomClient.apply]
  cases t with
  | getRouterRtpCapabilities => cases hn
  | closed => exact absurd trivial he
  | loadMediasoupDevice seq response => cases hn
  | createTransport seq producing consuming response =>
    have hskip : producing = false ∧ consuming = false := by
      cases producing <;> cases consuming <;> simp [continuationOf, Stage.ofTransport] at hn ⊢
    obtain ⟨rfl, rfl⟩ := hskip
    cases h
    exact Keeps.refl _
  | joined seq state response =>
    obtain ⟨d, pc, hd, rfl, -⟩ := onJoined_ok h
    rw [onRoomStateChanged_open he hd]
    constructor <;> simp +contextual [tokens, RoomClient.apply]
  | newConsumer seq request => exact hmedia (fun _ _ => Media.createNewConsumer_keeps) h
  | newDataConsumer seq request => exact hmedia (fun _ _ => Media.createNewDataConsumer_keeps) h
  | updateConsumer seq tid paused => exact hmedia (fun _ _ => Media.updateConsumer_keeps) h
  | consumerClosed seq notification => exact hmedia (fun _ _ => Media.onConsumerClosed_keeps) h

/-- The socket has still to open, or its continuation is among those on their way. -/
def allTokens (opened : Bool) (c : RoomClient) : Multiset (Option Stage) :=
  (if opened then 0 else {none}) + tokens c

structure Inv (options : Options) (n : Negotiation) : Prop where
  same : n.client.options = options
  state : n.client.state ≠ .closed
  transport : ∀ t ∈ n.client.transportTasks, ¬ Disconnects t
  mediasoup : ∀ t ∈ n.client.mediasoupTasks, ¬ Ends t
  waits : ∀ callback ∈ waiting n.client.signalingClient, ∀ s,
    Stage.ofCallback callback = some s → .issued s ∈ n.trace
  equipped : ∀ s, .issued s ∈ n.trace → n.client.Equipped s
  progress : Progress (schedule options) n.trace (allTokens n.opened n.client)

variable {options : Options} {n n' : Negotiation}

/-- A step that makes no request. -/
theorem Inv.keeps {extra : Multiset (Option Stage)} {opened : Bool}
    {trace : List (Foundation.Exchange Stage)} (h : Inv options n) (hk : Keeps extra n.client c')
    (htrace : ∀ s, .issued s ∈ trace ↔ .issued s ∈ n.trace)
    (hprogress : Progress (schedule options) trace (allTokens opened c')) :
    Inv options ⟨c', opened, trace⟩ where
  same := hk.options.trans h.same
  state := hk.state h.state
  transport t ht := by
    rcases hk.transport t ht with ht | hn
    · exact h.transport t ht
    · exact hn
  mediasoup t ht := by
    rcases hk.mediasoup t ht with ht | hn
    · exact h.mediasoup t ht
    · exact hn
  waits callback hw s hs := by
    rcases hk.waits callback hw with hw | hn
    · exact (htrace s).mpr (h.waits callback hw s hs)
    · rw [hn] at hs
      cases hs
  equipped s hs := hk.equipped (h.equipped s ((htrace s).mp hs))
  progress := hprogress

theorem Inv.keeps_zero (h : Inv options n) (hk : Keeps 0 n.client c') :
    Inv options { n with client := c' } := by
  apply h.keeps hk fun _ => Iff.rfl
  apply h.progress.mono
  have ht := hk.tokens
  rw [zero_add] at ht
  unfold allTokens
  gcongr

theorem ofCallback_callbackOf (r : ApiRequest) :
    Stage.ofCallback (callbackOf r) = Stage.ofRequest r := by
  cases r <;> rfl

theorem keeps_prepared {p : Option Stage} {d : RoomClient} (h : Prepares p c d) :
    Keeps 0 c d where
  options := h.options
  state hs := by rwa [h.state]
  device := h.device
  send := h.send
  recv := h.recv
  waits callback hw := by
    rw [h.signalingClient] at hw
    exact Or.inl hw
  transport t ht := by
    rw [h.transportTasks] at ht
    exact Or.inl ht
  mediasoup t ht := by
    rw [h.mediasoupTasks] at ht
    exact Or.inl ht
  tokens := by simp [Negotiation.tokens, h.transportTasks, h.mediasoupTasks]

/-- The request is made by a client that is equipped for it and had the token for it. -/
theorem Inv.request {r : ApiRequest} {p : Option Stage} {s : Stage} (h : Inv options n)
    (hp : following options p = some s) (he : n.client.Equipped s)
    (htoken : Progress (schedule options) n.trace (p ::ₘ allTokens n.opened n.client))
    (hr : Stage.ofRequest r = some s) (hc : n.client.request J o r (callbackOf r) = .ok c') :
    Inv options { n with client := c', trace := n.trace ++ [.issued s] } := by
  obtain ⟨sc, rfl, hw⟩ := request_ok hc
  refine ⟨h.same, h.state, h.transport, h.mediasoup, ?_, ?_, ?_⟩
  · intro callback hcallback s' hs'
    rcases hw hcallback with hold | hnew
    · exact List.mem_append_left _ (h.waits callback hold s' hs')
    · rw [Set.mem_singleton_iff] at hnew
      rw [hnew, ofCallback_callbackOf, hr, Option.some.injEq] at hs'
      simp [hs']
  · intro s' hs'
    rcases List.mem_append.mp hs' with hold | hnew
    · have hequipped := h.equipped s' hold
      cases s' <;> exact hequipped
    · have hss : s' = s := by simpa using hnew
      subst hss
      cases s' <;> exact he
  · exact Progress.issue (following_schedules options) htoken hp

/-- The next task of the mediasoup thread makes a request. -/
theorem Inv.issue {t : MediasoupTask} {rest : List MediasoupTask} {p : Option Stage}
    (h : Inv options n) (ht : n.client.mediasoupTasks = t :: rest) (hp : continuationOf t = some p)
    (hc : { n.client with mediasoupTasks := rest }.runMediasoup J t o = .ok c') :
    Inv options { n with
      client := c', trace := n.trace ++ (issues J o n.client).toList.map .issued } := by
  obtain ⟨d, hprep, hover⟩ := runMediasoup_prepares hp hc
  have hd : Inv options { n with client := d } :=
    h.keeps_zero (Keeps.of_mediasoup ht (keeps_prepared hprep))
  have htoken : Progress (schedule options) n.trace (p ::ₘ allTokens n.opened d) := by
    have htokens : allTokens n.opened n.client = p ::ₘ allTokens n.opened d := by
      have hrest : tokens d = tokens { n.client with mediasoupTasks := rest } := by
        simp [tokens, hprep.transportTasks, hprep.mediasoupTasks]
      rw [allTokens, allTokens, tokens_mediasoup ht, hp, hrest, Option.toList_some,
        Multiset.coe_singleton, Multiset.singleton_add, Multiset.add_cons]
    rw [← htokens]
    exact h.progress
  have hequips : ∀ s, following options p = some s → d.Equipped s := by
    intro s hs
    have hready : ∀ q, p = some q → { n.client with mediasoupTasks := rest }.Equipped q := by
      intro q hq
      have hequipped := h.equipped q (htoken.issued_of_token hq)
      cases q <;> exact hequipped
    apply Prepares.equips hprep hready
    rw [← hs, ← h.same]
  cases hr : requestOf J o t { n.client with mediasoupTasks := rest } with
  | none =>
    rw [hr] at hover
    cases hover
    simpa [issues, requestMade, ht, hr] using hd
  | some r =>
    rw [hr] at hover
    have hstage := requestOf_stage hp hr
    rw [show _ = options from h.same] at hstage
    cases hs : following options p with
    | none =>
      have hq := keeps_requests (request_ok hover)
        ((ofCallback_callbackOf r).trans (hstage.trans hs))
      simpa [issues, requestMade, ht, hr, hstage, hs] using hd.keeps_zero hq
    | some s =>
      have hdone := hd.request hs (hequips s hs) htoken (hstage.trans hs) hover
      simpa [issues, requestMade, ht, hr, hstage, hs] using hdone

theorem Inv.mediasoup_step (h : Inv options n) (hs : n.client.step J (.mediasoup o) = .ok c') :
    Inv options { n with
      client := c', trace := n.trace ++ (issues J o n.client).toList.map .issued } := by
  rcases step_mediasoup hs with ⟨ht, rfl⟩ | ⟨t, rest, ht, hs⟩
  · simpa [issues, requestMade, ht] using h
  · cases hp : continuationOf t with
    | some p => exact h.issue ht hp hs
    | none =>
      have hends : ¬ Ends t := h.mediasoup t (by simp [ht])
      have hnone := requestOf_eq_none (J := J) (o := o)
        (c := { n.client with mediasoupTasks := rest }) hp
      have hkeep := h.keeps_zero (Keeps.of_mediasoup ht (keeps_runMediasoup hends hp hs))
      simpa [issues, requestMade, ht, hnone] using hkeep

/-- A callback is invoked, and for a request of the negotiation its answer is noted. -/
theorem Inv.answer {callback : Callback} (h : Inv options n)
    (hcallback : callback ∈ waiting n.client.signalingClient)
    (hn : ∀ s, Stage.ofCallback callback = some s → .answered s ∉ n.trace)
    (hk : Keeps (((Stage.ofCallback callback).map some).toList : Multiset _) n.client c') :
    Inv options { n with
      client := c'
      trace := n.trace ++ (Stage.ofCallback callback).toList.map .answered } := by
  cases hs : Stage.ofCallback callback with
  | none =>
    rw [hs] at hk
    simpa using h.keeps_zero hk
  | some s =>
    rw [hs] at hk
    apply h.keeps hk (by simp)
    have hanswer := h.progress.answer (h.waits callback hcallback s hs) (hn s hs)
    apply hanswer.mono
    have htokens := hk.tokens
    calc allTokens n.opened c'
        ≤ (if n.opened then 0 else {none}) + ({some s} + tokens n.client) := by
          unfold allTokens
          gcongr
          exact htokens
      _ = some s ::ₘ allTokens n.opened n.client := by
          rw [allTokens, Multiset.singleton_add, Multiset.add_cons]

theorem Inv.transport_step (h : Inv options n)
    (hn : ∀ s ∈ answers J n.client, .answered s ∉ n.trace)
    (hs : n.client.step J .transport = .ok c') :
    Inv options
      { n with client := c', trace := n.trace ++ (answers J n.client).map .answered } := by
  rcases step_transport hs with ⟨ht, rfl⟩ | ⟨t, rest, ht, hs⟩
  · simpa [answers, ht] using h
  · have hd : ¬ Disconnects t := h.transport t (by simp [ht])
    by_cases hresponse : ∃ seq json, t = .handleResponse seq json
    · obtain ⟨seq, json, rfl⟩ := hresponse
      cases hsc : n.client.signalingClient with
      | none =>
        simp only [runTransport, hsc, Except.ok.injEq] at hs
        subst hs
        have hkeep := h.keeps_zero
          (Keeps.of_transport ht ((Keeps.refl _).mono (Multiset.zero_le _)))
        simpa [answers, ht, hsc] using hkeep
      | some sc =>
        have hrun : { n.client with transportTasks := rest }.handleResponse J seq json sc =
            .ok c' := by
          simpa only [runTransport, hsc] using hs
        have hsc' : { n.client with transportTasks := rest }.signalingClient = some sc := hsc
        rcases keeps_handleResponse hsc' hrun with ⟨hcalls, hk⟩ | ⟨callback, hcallback, hcalls, hk⟩
        · have hkeep := h.keeps_zero (Keeps.of_transport ht (hk.mono (Multiset.zero_le _)))
          simpa [answers, ht, hsc, hcalls] using hkeep
        · have hanswers : answers J n.client = (Stage.ofCallback callback).toList := by
            cases hstage : Stage.ofCallback callback <;> simp [answers, ht, hsc, hcalls, hstage]
          rw [hanswers] at hn ⊢
          apply h.answer hcallback (fun s hs => hn s (by simp [hs]))
          exact Keeps.of_transport ht (hk.mono (Multiset.le_add_left _ _))
    · have hnone : answers J n.client = [] := by
        cases t with
        | handleResponse seq json => exact absurd ⟨seq, json, rfl⟩ hresponse
        | onOpened => simp [answers, ht]
        | onClosed => simp [answers, ht]
        | onFailed => simp [answers, ht]
        | onMessage seq json => simp [answers, ht]
      have hk := keeps_runTransport hd (fun seq json he => hresponse ⟨seq, json, he⟩) hs
      have hkeep := h.keeps_zero (Keeps.of_transport ht (hk.mono (Multiset.le_add_right _ _)))
      simpa [hnone] using hkeep

theorem Inv.call_step {a : ApiCall} (h : Inv options n) (ha : InSession J n (.call a o))
    (hs : n.client.step J (.call a o) = .ok c') : Inv options { n with client := c' } := by
  cases a with
  | join hostname port roomId displayName options' =>
    simp only [RoomClient.step, call, RoomClient.join, ne_eq, h.state, not_false_eq_true,
      ↓reduceIte, Except.ok.injEq] at hs
    subst hs
    exact h
  | leave => exact absurd ha id
  | destroy => exact absurd ha id
  | enableAudio enabled =>
    obtain ⟨hu, -⟩ := deref_withMedia_ok (fun _ _ => Media.enableAudio_keeps) hs
    exact h.keeps_zero (keeps_media hu)
  | muteAudio muted =>
    obtain ⟨hu, -⟩ := deref_withMedia_ok
      (fun m m' hm => by cases hm; exact Media.muteAudio_keeps muted m) hs
    exact h.keeps_zero (keeps_media hu)
  | enableVideo enabled trackName =>
    obtain ⟨hu, -⟩ := deref_withMedia_ok (fun _ _ => Media.enableVideo_keeps) hs
    exact h.keeps_zero (keeps_media hu)

theorem Inv.socket_step {e : SocketEvent} (h : Inv options n) (ha : InSession J n (.socket e)) :
    Inv options { n with
      client := n.client.onSocket e, opened := n.opened || opens (.socket e) } := by
  cases e with
  | opened =>
    have hopened : n.opened = false := ha
    apply h.keeps (keeps_postTransport (t := .onOpened) id) fun _ => Iff.rfl
    apply h.progress.mono
    simp [allTokens, hopened, opens, tokens_postTransport, openingOf]
  | closed => exact absurd ha id
  | failed => exact absurd ha id
  | message json =>
    have harrived : Keeps 0 n.client { n.client with arrived := n.client.arrived + 1 } := by
      constructor <;> simp +contextual [tokens]
    have hpost := harrived.trans_zero
      (keeps_postTransport (t := .onMessage n.client.arrived json) id)
    simpa [opens, onSocket] using h.keeps_zero hpost

theorem Inv.step {a : Action} (h : Inv options n) (ha : InSession J n a)
    (hs : n.step J a = .ok n') : Inv options n' := by
  simp only [Negotiation.step, bind_ok, pure, Except.pure, Except.ok.injEq] at hs
  obtain ⟨client, hclient, rfl⟩ := hs
  cases a with
  | call a o => simpa [events, opens] using h.call_step ha hclient
  | socket e =>
    cases hclient
    simpa [events] using h.socket_step ha
  | listener l o =>
    obtain ⟨callback, hr, hcallback⟩ := listen_requests hclient
    have hn : Stage.ofCallback callback = none := by
      rcases hcallback with rfl | rfl | rfl <;> rfl
    simpa [events, opens] using h.keeps_zero (keeps_requests hr hn)
  | transport => simpa [events, opens] using h.transport_step ha hclient
  | mediasoup o => simpa [events, opens] using h.mediasoup_step hclient

/-- Nothing of a negotiation is left from earlier sessions. -/
structure Quiet (c : RoomClient) : Prop where
  transport : ∀ t ∈ c.transportTasks, openingOf t = none ∧ ¬ Disconnects t
  mediasoup : ∀ t ∈ c.mediasoupTasks, continuationOf t = none ∧ ¬ Ends t
  waiting : ∀ callback ∈ waiting c.signalingClient, Stage.ofCallback callback = none

theorem Quiet.tokens_eq (h : Quiet c) : tokens c = 0 := by
  have ht : c.transportTasks.filterMap openingOf = [] := by
    rw [List.filterMap_eq_nil_iff]
    exact fun t ht => (h.transport t ht).1
  have hm : c.mediasoupTasks.filterMap continuationOf = [] := by
    rw [List.filterMap_eq_nil_iff]
    exact fun t ht => (h.mediasoup t ht).1
  simp [tokens, ht, hm]

/-- An accepted join begins the session. -/
theorem Quiet.start {hostname : String} {port : ℕ} {roomId displayName : String}
    {options : Option Options} (h : Quiet c) (ha : c.Accepts hostname roomId displayName)
    (hs : c.step J (.call (.join hostname port roomId displayName options) o) = .ok c') :
    Inv (options.getD {}) { client := c' } := by
  rcases join_ok hs with ⟨hn, -⟩ | ⟨-, sc, hsc, rfl⟩
  · exact absurd ha hn
  have hno (s : Stage) : .issued s ∉ ([] : List (Foundation.Exchange Stage)) := List.not_mem_nil
  refine ⟨rfl, by simp, fun t ht => (h.transport t ht).2, fun t ht => (h.mediasoup t ht).2, ?_,
    fun s hs => absurd hs (hno s), ?_⟩
  · intro callback hw s hs
    have hold := waiting_reconnected sc _ hw
    rw [← hsc] at hold
    rw [h.waiting callback hold] at hs
    cases hs
  · apply Progress.start
    have htokens := h.tokens_eq
    simpa [allTokens, tokens] using htokens

/-- In a session the requests and their answers come in the order of the schedule, each request
once and after the answer to the one before, and the join request is made with the transports
that the options ask for. Each step sends for the negotiation only what it is said to issue. -/
theorem negotiates_in_order (J : JsonText) {hostname : String} {port : ℕ}
    {roomId displayName : String} {options : Option Options} {o : Oracle} {c₀ c : RoomClient}
    (hquiet : Quiet c₀) (haccepts : c₀.Accepts hostname roomId displayName)
    (hjoin : c₀.step J (.call (.join hostname port roomId displayName options) o) = .ok c)
    {run : List Action} (hrun : Guarded (step J) (InSession J) { client := c } run) :
    ∀ pre, pre <+: run → ∀ n, exec (step J) { client := c } pre = .ok n →
      n.trace <+: Foundation.Exchange.complete (schedule (options.getD {})) ∧
      (.issued .join ∈ n.trace →
        ((options.getD {}).produce.getD false → n.client.sendTransport.isSome) ∧
        ((options.getD {}).consume.getD false → n.client.recvTransport.isSome)) ∧
      (∀ a n', pre ++ [a] <+: run → n.step J a = .ok n' →
        n'.trace = n.trace ++ events J n.client a ∧ SendsOnly J n.client a n'.client) := by
  rintro pre ⟨post, rfl⟩ n hn
  have hinv : Inv (options.getD {}) n :=
    exec_invariant (fun _ _ _ hi hok hs => Inv.step hi hok hs) (guarded_append.mp hrun).1
      (hquiet.start haccepts hjoin) hn
  refine ⟨hinv.progress.prefix_complete, fun hissued => ?_, fun a n' _ hs => ?_⟩
  · have hequipped := hinv.equipped .join hissued
    rw [← hinv.same]
    exact hequipped.2
  · simp only [Negotiation.step, bind_ok, pure, Except.pure, Except.ok.injEq] at hs
    obtain ⟨client, hclient, rfl⟩ := hs
    exact ⟨rfl, step_sendsOnly hclient⟩

theorem initial_quiet : Quiet initial where
  transport _ ht := absurd ht List.not_mem_nil
  mediasoup _ ht := absurd ht List.not_mem_nil
  waiting callback hw := by
    obtain ⟨sc, k, r, hsc, hl, -⟩ := hw
    simp only [initial, init, Option.getD_none, Option.some.injEq] at hsc
    subst hsc
    simp at hl

/-- The client after the call that the session begins with. -/
def joined : RoomClient := (initial.step mediaJson mediaJoin).toOption.getD {}

/-- A session that sends and receives: all four requests are made and answered. -/
theorem negotiation_in_order :
    ∃ n, exec (step mediaJson) { client := joined } mediaNegotiation = .ok n ∧
      n.trace = Foundation.Exchange.complete [.getRouterRtpCapabilities, .createSendTransport,
        .createRecvTransport, .join] ∧
      n.trace <+: Foundation.Exchange.complete (schedule mediaOptions) ∧
      n.client.sendTransport.isSome ∧ n.client.recvTransport.isSome := by
  have hguard : Guarded (step mediaJson) (InSession mediaJson) { client := joined }
      mediaNegotiation := by
    decide +kernel
  have haccepts : initial.Accepts "sfu" "room" "alice" :=
    ⟨rfl, by decide, by decide, by decide, rfl⟩
  have hobserved : (exec (step mediaJson) { client := joined } mediaNegotiation).toOption.map
      Negotiation.trace = some (Foundation.Exchange.complete [.getRouterRtpCapabilities,
        .createSendTransport, .createRecvTransport, .join]) := by
    decide +kernel
  obtain ⟨n, hn, htrace⟩ := exec_of_observed hobserved
  obtain ⟨horder, htransports, -⟩ := negotiates_in_order mediaJson initial_quiet haccepts rfl
    hguard mediaNegotiation (List.prefix_refl _) n hn
  obtain ⟨hsend, hrecv⟩ := htransports (by simp [htrace])
  exact ⟨n, hn, htrace, horder, hsend rfl, hrecv rfl⟩

end Negotiation

end RoomClient
end MediasoupSdk
