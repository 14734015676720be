import MediasoupSdk.Room.Order

/-! Sessions one after another. Every connection reports to the same objects through the same two
queues; here each queued task carries the session whose connection caused it. -/
namespace MediasoupSdk
open Foundation Signaling

/-- A report that a connection was opened, closed or failed. -/
def TransportTask.IsReport : TransportTask → Prop
  | .onOpened => True
  | .onClosed => True
  | .onFailed => True
  | _ => False

/-- The task that such a report posts to the mediasoup thread. -/
def MediasoupTask.IsReport : MediasoupTask → Prop
  | .getRouterRtpCapabilities => True
  | .closed => True
  | _ => False

namespace RoomClient

variable {J : JsonText} {c c' : RoomClient} {o : Oracle}

instance : DecidablePred c.StartsSession
  | .call (.join hostname _ roomId displayName _) _ =>
    decidable_of_iff (c.Accepts hostname roomId displayName) <| by
      constructor
      · exact fun h => ⟨_, _, _, _, _, _, rfl, h⟩
      · rintro ⟨_, _, _, _, _, _, he, h⟩
        cases he
        exact h
  | .call .leave _ | .call (.enableAudio _) _ | .call (.muteAudio _) _
  | .call (.enableVideo _ _) _ | .call .destroy _ | .socket _ | .listener _ _ | .transport
  | .mediasoup _ => isFalse <| by
    rintro ⟨_, _, _, _, _, _, he, -⟩
    cases he

/-- The room state, the components and the transport to the SFU are as before. -/
def Undisturbed (c c' : RoomClient) : Prop :=
  c'.state = c.state ∧ c'.mediasoupDevice = c.mediasoupDevice ∧
    c'.sendTransport = c.sendTransport ∧ c'.recvTransport = c.recvTransport ∧
    c'.mediaController = c.mediaController ∧
    c'.participantController = c.participantController ∧
    c'.signalingClient.map SignalingClient.transport =
      c.signalingClient.map SignalingClient.transport

/-- Nothing is left to destroy. -/
def Bare (c : RoomClient) : Prop :=
  c.mediasoupDevice = none ∧ c.sendTransport = none ∧ c.recvTransport = none ∧
    c.mediaController = none ∧ c.participantController = none

/-- A request for the capabilities would go to the signaling client. -/
def CanNegotiate (c : RoomClient) : Prop := c.hasApi = true ∧ c.signalingClient.isSome

/-- On the transport thread a report is only passed on, and pending requests are given up. -/
theorem runTransport_report {t : TransportTask} (ht : t.IsReport) :
    ∃ c', c.runTransport J t = .ok c' ∧ Undisturbed c c' := by
  unfold runTransport
  cases hsc : c.signalingClient with
  | none => exact ⟨c, rfl, rfl, rfl, rfl, rfl, rfl, rfl, rfl⟩
  | some sc =>
    cases t with
    | onOpened => exact ⟨_, rfl, rfl, rfl, rfl, rfl, rfl, rfl, rfl⟩
    | onFailed => exact ⟨_, rfl, rfl, rfl, rfl, rfl, rfl, rfl, rfl⟩
    | onClosed =>
      refine ⟨{ c with signalingClient := some sc.clearRequests }.postMediasoup .closed, ?_, ?_⟩
      · simp only [SignalingClient.onClosed, foldlM_rejected]
        rfl
      · refine ⟨rfl, rfl, rfl, rfl, rfl, rfl, ?_⟩
        rw [hsc]
        rfl
    | onMessage seq json => exact ht.elim
    | handleResponse seq json => exact ht.elim

/-- A report of a closed connection leaves the client alone exactly if it is closed already and
nothing is left of its components. -/
theorem runMediasoup_closed_iff :
    (∃ c', c.runMediasoup J .closed o = .ok c' ∧ Undisturbed c c') ↔
      c.state = .closed ∧ c.Bare := by
  constructor
  · rintro ⟨c', h, hu⟩
    have hc' := onRoomStateChanged_closed h
    subst hc'
    obtain ⟨hstate, hdevice, hsend, hrecv, hmedia, hparticipants, -⟩ := hu
    exact ⟨hstate.symm, hdevice.symm, hsend.symm, hrecv.symm, hmedia.symm, hparticipants.symm⟩
  · rintro ⟨hstate, hdevice, hsend, hrecv, hmedia, hparticipants⟩
    have hrun : c.runMediasoup J .closed o =
        .ok { c.tornDown with state := .closed, notified := c.notified ++ [.closed] } := by
      simp only [runMediasoup, onRoomStateChanged, destroyComponents, hmedia]
      rfl
    exact ⟨_, hrun, hstate.symm, hdevice.symm, hsend.symm, hrecv.symm, hmedia.symm,
      hparticipants.symm, rfl⟩

/-- A report of an open connection starts a negotiation when it can. -/
theorem runMediasoup_opened (h : ¬ c.CanNegotiate) :
    ∃ c', c.runMediasoup J .getRouterRtpCapabilities o = .ok c' ∧ Undisturbed c c' := by
  simp only [runMediasoup, getRouterRtpCapabilities]
  by_cases hapi : c.hasApi = true
  · have hsc : c.signalingClient = none := by
      rw [← Option.not_isSome_iff_eq_none]
      exact fun hsc => h ⟨hapi, hsc⟩
    simp only [hapi, Bool.not_true, Bool.false_eq_true, ↓reduceIte, request, hsc,
      MediasoupApi.send, bind, Except.bind]
    exact ⟨_, rfl, rfl, rfl, rfl, rfl, rfl, rfl, by rw [hsc]⟩
  · simp only [hapi, Bool.not_false, ↓reduceIte]
    exact ⟨c, rfl, rfl, rfl, rfl, rfl, rfl, rfl, rfl⟩

/-- A task of the transport thread adds to the ends of the queues; a report to the mediasoup thread
comes from a report. -/
theorem transport_posts {t : TransportTask} (hc : TransportChange J c t c') :
    ∃ ts ms, c'.transportTasks = c.transportTasks ++ ts ∧
      c'.mediasoupTasks = c.mediasoupTasks ++ ms ∧
      (∀ t' ∈ ts, ¬ t'.IsReport) ∧ ∀ m ∈ ms, m.IsReport → t.IsReport := by
  have hnone : ∀ {d : RoomClient}, d.transportTasks = c.transportTasks →
      d.mediasoupTasks = c.mediasoupTasks → ∃ ts ms, d.transportTasks = c.transportTasks ++ ts ∧
        d.mediasoupTasks = c.mediasoupTasks ++ ms ∧
        (∀ t' ∈ ts, ¬ t'.IsReport) ∧ ∀ m ∈ ms, m.IsReport → t.IsReport := by
    intro d ht hm
    exact ⟨[], [], by simp [ht], by simp [hm], by simp, by simp⟩
  have hpost : ∀ {d : RoomClient} {m : MediasoupTask}, d.transportTasks = c.transportTasks →
      d.mediasoupTasks = c.mediasoupTasks → (m.IsReport → t.IsReport) →
      ∃ ts ms, (d.postMediasoup m).transportTasks = c.transportTasks ++ ts ∧
        (d.postMediasoup m).mediasoupTasks = c.mediasoupTasks ++ ms ∧
        (∀ t' ∈ ts, ¬ t'.IsReport) ∧ ∀ m ∈ ms, m.IsReport → t.IsReport := by
    intro d m ht hm hreport
    exact ⟨[], [m], by simp [postMediasoup, ht], by simp [postMediasoup, hm], by simp,
      by simpa using hreport⟩
  cases hc with
  | gone hsc => exact hnone rfl rfl
  | opened => exact hpost rfl rfl fun _ => trivial
  | failed => exact hpost rfl rfl fun _ => trivial
  | closed hsc => exact hpost rfl rfl fun _ => trivial
  | dispatched hkind hd he =>
    rcases hd with ⟨pc, volume, effects, rfl, -, -⟩ | ⟨m, hm, rfl⟩
    · exact hnone rfl rfl
    · refine hpost rfl rfl fun hreport => ?_
      cases m with
      | getRouterRtpCapabilities | closed => exact hm.elim
      | _ => exact hreport.elim
  | reposted hkind =>
    exact ⟨[_], [], rfl, by simp [postTransport], by simp [TransportTask.IsReport], by simp⟩
  | unanswered hsc hw => exact hnone rfl rfl
  | answered hsc hw hcallback hcall hi =>
    rcases invoke_ok hi with rfl | ⟨_, _, -, rfl⟩ | ⟨_, _, _, _, -, rfl⟩ | ⟨_, r, -, -, -, rfl⟩
    · exact hnone rfl rfl
    · exact hpost rfl rfl False.elim
    · exact hpost rfl rfl False.elim
    · simp only [onJoinReply]
      split
      · exact hnone rfl rfl
      · exact hpost rfl rfl False.elim

end RoomClient

/-- The session whose connection reported, and whether that session was still going on. -/
structure Origin where
  session : ℕ
  live : Bool
  deriving DecidableEq, Repr

/-- The client, the number of sessions begun, and the two queues with the origin of each task. -/
structure Sessions where
  client : RoomClient := RoomClient.initial
  session : ℕ := 0
  transport : List (TransportTask × Origin) := []
  mediasoup : List (MediasoupTask × Origin) := []

namespace Sessions

/-- An action; an event of the socket comes with the session of its connection. -/
abbrev Action := RoomClient.Action × ℕ

def reported (s : Sessions) (n : ℕ) : Origin := ⟨n, n = s.session ∧ s.client.state ≠ .closed⟩

/-- The tasks behind the first `old` ones, with their origin. -/
def tagged {τ : Type} (origin : Origin) (old : ℕ) (tasks : List τ) : List (τ × Origin) :=
  (tasks.drop old).map (·, origin)

def transportAfter (s : Sessions) (c : RoomClient) : Action → List (TransportTask × Origin)
  | (.socket _, n) => s.transport ++ tagged (s.reported n) s.transport.length c.transportTasks
  | (.transport, _) =>
    match s.transport with
    | [] => []
    | (_, origin) :: rest => rest ++ tagged origin rest.length c.transportTasks
  | _ => s.transport

/-- What a task posts has the origin of the task. -/
def mediasoupAfter (s : Sessions) (c : RoomClient) : Action → List (MediasoupTask × Origin)
  | (.transport, _) =>
    match s.transport with
    | [] => s.mediasoup
    | (_, origin) :: _ => s.mediasoup ++ tagged origin s.mediasoup.length c.mediasoupTasks
  | (.mediasoup _, _) => s.mediasoup.tail
  | _ => s.mediasoup

def step (J : JsonText) (s : Sessions) (a : Action) : Except Fault Sessions := do
  let c ← s.client.step J a.1
  return { client := c
           session := if s.client.StartsSession a.1 then s.session + 1 else s.session
           transport := s.transportAfter c a
           mediasoup := s.mediasoupAfter c a }

/-- The queues are those of the client. -/
structure Aligned (s : Sessions) : Prop where
  transport : s.transport.map Prod.fst = s.client.transportTasks
  mediasoup : s.mediasoup.map Prod.fst = s.client.mediasoupTasks

/-- A report that was queued while its session was going on, and a later session has begun. -/
def Stale (s : Sessions) (origin : Origin) : Prop :=
  origin.live = true ∧ origin.session ≠ s.session

instance {s : Sessions} {origin : Origin} : Decidable (s.Stale origin) :=
  inferInstanceAs (Decidable (_ ∧ _))

/-- The action takes a report with the given origin from the queue of its thread. -/
def Takes (s : Sessions) (origin : Origin) : Action → Prop
  | (.transport, _) => ∃ t rest, s.transport = (t, origin) :: rest ∧ t.IsReport
  | (.mediasoup _, _) => ∃ t rest, s.mediasoup = (t, origin) :: rest ∧ t.IsReport
  | _ => False

/-- The action asks the SFU for its capabilities. -/
def Negotiates (s : Sessions) : Action → Prop
  | (.mediasoup _, _) => ∃ rest, s.client.mediasoupTasks = .getRouterRtpCapabilities :: rest ∧
    s.client.CanNegotiate
  | _ => False

/-- A stale report that is taken changes neither the state nor the components, and it starts no
negotiation. -/
def Isolated (J : JsonText) (s : Sessions) (a : Action) : Prop :=
  ∀ origin, s.Takes origin a → s.Stale origin →
    (∃ s', s.step J a = .ok s' ∧ s.client.Undisturbed s'.client) ∧ ¬ s.Negotiates a

/-- The mediasoup thread takes a stale report only when no session goes on: of a closed connection
when the client is closed and bare, of an open one when nothing can be asked. -/
def Careful (s : Sessions) : Action → Prop
  | (.mediasoup _, _) =>
    match s.mediasoup with
    | (.closed, origin) :: _ => s.Stale origin → s.client.state = .closed ∧ s.client.Bare
    | (.getRouterRtpCapabilities, origin) :: _ => s.Stale origin → ¬ s.client.CanNegotiate
    | _ => True
  | _ => True

variable {J : JsonText} {s s' : Sessions} {a : Action}

theorem step_ok_iff : s.step J a = .ok s' ↔ ∃ c, s.client.step J a.1 = .ok c ∧
    s' = { client := c
           session := if s.client.StartsSession a.1 then s.session + 1 else s.session
           transport := s.transportAfter c a
           mediasoup := s.mediasoupAfter c a } := by
  simp only [step, bind_ok, pure, Except.pure, Except.ok.injEq]
  exact exists_congr fun c => and_congr_right fun _ => eq_comm

/-- The reports in the queues after a step: they were there before, the socket has just made
them, or a report of the transport thread has passed them on. -/
structure Moves (s s' : Sessions) : Prop where
  aligned : s'.Aligned
  transport : ∀ p ∈ s'.transport, p.1.IsReport → p ∈ s.transport ∨ ∃ n, p.2 = s.reported n
  mediasoup : ∀ p ∈ s'.mediasoup, p.1.IsReport →
    p ∈ s.mediasoup ∨ ∃ t, (t, p.2) ∈ s.transport ∧ t.IsReport

theorem Aligned.moves_of_same (h : s.Aligned) (ht : s'.transport = s.transport)
    (hm : s'.mediasoup = s.mediasoup) (ht' : s'.client.transportTasks = s.client.transportTasks)
    (hm' : s'.client.mediasoupTasks = s.client.mediasoupTasks) : Moves s s' where
  aligned := ⟨by rw [ht, ht', h.transport], by rw [hm, hm', h.mediasoup]⟩
  transport := fun p hp _ => Or.inl (ht ▸ hp)
  mediasoup := fun p hp _ => Or.inl (hm ▸ hp)

theorem Aligned.length_transport (h : s.Aligned) :
    s.transport.length = s.client.transportTasks.length := by
  rw [← h.transport, List.length_map]

theorem Aligned.length_mediasoup (h : s.Aligned) :
    s.mediasoup.length = s.client.mediasoupTasks.length := by
  rw [← h.mediasoup, List.length_map]

theorem Aligned.transport_eq_nil (h : s.Aligned) (ht : s.client.transportTasks = []) :
    s.transport = [] := by
  rw [← List.map_eq_nil_iff, h.transport, ht]

theorem Aligned.mediasoup_eq_nil (h : s.Aligned) (ht : s.client.mediasoupTasks = []) :
    s.mediasoup = [] := by
  rw [← List.map_eq_nil_iff, h.mediasoup, ht]

/-- What a task of the transport thread posts has its origin. -/
theorem Aligned.mediasoupAfter_transport {n : ℕ} {t : TransportTask} {origin : Origin}
    {rest : List (TransportTask × Origin)} {c : RoomClient} {ms : List MediasoupTask}
    (h : s.Aligned) (hqueue : s.transport = (t, origin) :: rest)
    (hms : c.mediasoupTasks = s.client.mediasoupTasks ++ ms) :
    s.mediasoupAfter c (.transport, n) = s.mediasoup ++ ms.map (·, origin) := by
  simp [mediasoupAfter, hqueue, tagged, hms, h.length_mediasoup]

/-- The socket adds a task to the queue of the transport thread. -/
theorem moves_socket {e : RoomClient.SocketEvent} (n : ℕ) (h : s.Aligned)
    (hclient : s'.client = s.client.onSocket e)
    (htransport : s'.transport = s.transportAfter (s.client.onSocket e) (.socket e, n))
    (hmediasoup : s'.mediasoup = s.mediasoup) : Moves s s' := by
  have hpost : ∃ t, (s.client.onSocket e).transportTasks = s.client.transportTasks ++ [t] ∧
      (s.client.onSocket e).mediasoupTasks = s.client.mediasoupTasks := by
    cases e with
    | opened | closed | failed | message => exact ⟨_, rfl, rfl⟩
  obtain ⟨t, ht, hm⟩ := hpost
  have ht' : s'.transport = s.transport ++ [(t, s.reported n)] := by
    rw [htransport]
    simp [transportAfter, tagged, h.length_transport, ht]
  constructor
  · refine ⟨?_, ?_⟩
    · rw [ht', hclient, List.map_append, h.transport, ht]
      rfl
    · rw [hmediasoup, hclient, h.mediasoup, hm]
  · intro p hp _
    rw [ht', List.mem_append] at hp
    rcases hp with hp | hp
    · exact Or.inl hp
    · rw [List.mem_singleton.mp hp]
      exact Or.inr ⟨n, rfl⟩
  · exact fun p hp _ => Or.inl (hmediasoup ▸ hp)

/-- A task of the transport thread hands its origin on. -/
theorem moves_transport (n : ℕ) {t : TransportTask} {origin : Origin}
    {rest : List (TransportTask × Origin)} {c : RoomClient} (h : s.Aligned)
    (hqueue : s.transport = (t, origin) :: rest)
    (hc : RoomClient.TransportChange J { s.client with transportTasks := rest.map Prod.fst } t c)
    (hclient : s'.client = c) (htransport : s'.transport = s.transportAfter c (.transport, n))
    (hmediasoup : s'.mediasoup = s.mediasoupAfter c (.transport, n)) : Moves s s' := by
  obtain ⟨ts, ms, hts, hms, hquiet, hreport⟩ := RoomClient.transport_posts hc
  have hts' : s'.transport = rest ++ ts.map (·, origin) := by
    rw [htransport]
    simp [transportAfter, hqueue, tagged, hts]
  have hms' : s'.mediasoup = s.mediasoup ++ ms.map (·, origin) :=
    hmediasoup.trans (h.mediasoupAfter_transport hqueue hms)
  constructor
  · refine ⟨?_, ?_⟩
    · rw [hts', hclient, hts]
      simp [Function.comp_def]
    · rw [hms', hclient, hms, List.map_append, h.mediasoup]
      simp [Function.comp_def]
  · intro p hp hp₁
    rw [hts', List.mem_append] at hp
    rcases hp with hp | hp
    · exact Or.inl (hqueue ▸ List.mem_cons_of_mem _ hp)
    · obtain ⟨t', ht', rfl⟩ := List.mem_map.mp hp
      exact absurd hp₁ (hquiet t' ht')
  · intro p hp hp₁
    rw [hms', List.mem_append] at hp
    rcases hp with hp | hp
    · exact Or.inl hp
    · obtain ⟨m, hm, rfl⟩ := List.mem_map.mp hp
      exact Or.inr ⟨t, hqueue ▸ List.mem_cons_self, hreport m hm hp₁⟩

theorem step_moves (h : s.Aligned) (hs : s.step J a = .ok s') : Moves s s' := by
  obtain ⟨a, n⟩ := a
  obtain ⟨c, hc, rfl⟩ := step_ok_iff.mp hs
  cases RoomClient.step_change hc with
  | refused hn => exact h.moves_of_same rfl rfl rfl rfl
  | accepted ha hsc => exact h.moves_of_same rfl rfl rfl rfl
  | stayed hs => exact h.moves_of_same rfl rfl rfl rfl
  | left hopen hsc => exact h.moves_of_same rfl rfl rfl rfl
  | destroyed => exact h.moves_of_same rfl rfl rfl rfl
  | media ha hm hu =>
    obtain ⟨mc, pc, sc, rfl, -⟩ := hu
    exact h.moves_of_same rfl rfl rfl rfl
  | socket => exact moves_socket n h rfl rfl rfl
  | listened hr hcallback =>
    obtain ⟨sc, rfl, -⟩ := hr
    exact h.moves_of_same rfl rfl rfl rfl
  | transportIdle ht =>
    have hnil := h.transport_eq_nil ht
    refine h.moves_of_same ?_ ?_ rfl rfl
    · simp only [transportAfter, hnil]
    · simp only [mediasoupAfter, hnil]
  | transport ht hchange =>
    rename_i t rest'
    have hmap := h.transport.trans ht
    obtain ⟨p, rest, hqueue, rfl, rfl⟩ := List.map_eq_cons_iff.mp hmap
    exact moves_transport n h hqueue hchange rfl rfl rfl
  | mediasoupIdle ht =>
    have hnil := h.mediasoup_eq_nil ht
    refine h.moves_of_same rfl ?_ rfl rfl
    simp only [mediasoupAfter, hnil, List.tail_nil]
  | mediasoup ht hchange =>
    obtain ⟨_, -, -, htransport, hmediasoup, -⟩ := RoomClient.mediasoup_handles hchange
    constructor
    · refine ⟨h.transport.trans htransport.symm, ?_⟩
      show s.mediasoup.tail.map Prod.fst = _
      rw [List.map_tail, h.mediasoup, ht, hmediasoup]
      rfl
    · exact fun p hp _ => Or.inl hp
    · exact fun p hp _ => Or.inl (List.mem_of_mem_tail hp)

section Step

variable {o : Oracle} {n : ℕ} {t : MediasoupTask} {origin origin' : Origin}
  {rest : List (MediasoupTask × Origin)}

theorem takes_mediasoup (hqueue : s.mediasoup = (t, origin) :: rest) :
    s.Takes origin' (.mediasoup o, n) ↔ origin' = origin ∧ t.IsReport := by
  constructor
  · rintro ⟨t', rest', hqueue', ht'⟩
    rw [hqueue, List.cons.injEq, Prod.mk.injEq] at hqueue'
    obtain ⟨⟨rfl, rfl⟩, -⟩ := hqueue'
    exact ⟨rfl, ht'⟩
  · rintro ⟨rfl, ht⟩
    exact ⟨t, rest, hqueue, ht⟩

theorem Aligned.mediasoupTasks (h : s.Aligned) (hqueue : s.mediasoup = (t, origin) :: rest) :
    s.client.mediasoupTasks = t :: rest.map Prod.fst := by
  rw [← h.mediasoup, hqueue]
  rfl

/-- A step of the mediasoup thread runs the task of its queue. -/
theorem undisturbed_mediasoup_iff (h : s.Aligned) (hqueue : s.mediasoup = (t, origin) :: rest) :
    (∃ s', s.step J (.mediasoup o, n) = .ok s' ∧ s.client.Undisturbed s'.client) ↔
      ∃ c, RoomClient.runMediasoup J t o { s.client with mediasoupTasks := rest.map Prod.fst } =
        .ok c ∧ s.client.Undisturbed c := by
  simp only [step_ok_iff, RoomClient.step, h.mediasoupTasks hqueue]
  constructor
  · rintro ⟨_, ⟨c, hc, rfl⟩, hu⟩
    exact ⟨c, hc, hu⟩
  · rintro ⟨c, hc, hu⟩
    exact ⟨_, ⟨c, hc, rfl⟩, hu⟩

theorem isolated_transport (h : s.Aligned) : s.Isolated J (.transport, n) := by
  rintro origin ⟨t, rest, hqueue, ht⟩ -
  have htask : s.client.transportTasks = t :: rest.map Prod.fst := by
    rw [← h.transport, hqueue]
    rfl
  obtain ⟨c, hc, hu⟩ := @RoomClient.runTransport_report J
    { s.client with transportTasks := rest.map Prod.fst } t ht
  refine ⟨⟨_, step_ok_iff.mpr ⟨c, ?_, rfl⟩, hu⟩, id⟩
  simp only [RoomClient.step, htask]
  exact hc

theorem isolated_closed_iff (h : s.Aligned) (hqueue : s.mediasoup = (.closed, origin) :: rest) :
    s.Isolated J (.mediasoup o, n) ↔
      (s.Stale origin → s.client.state = .closed ∧ s.client.Bare) := by
  have hclosed := (undisturbed_mediasoup_iff (n := n) h hqueue).trans
    (@RoomClient.runMediasoup_closed_iff J { s.client with mediasoupTasks := rest.map Prod.fst } o)
  constructor
  · intro hisolated hstale
    exact hclosed.mp (hisolated origin ((takes_mediasoup hqueue).mpr ⟨rfl, trivial⟩) hstale).1
  · intro hcare origin' htakes hstale
    obtain ⟨rfl, -⟩ := (takes_mediasoup hqueue).mp htakes
    refine ⟨hclosed.mpr (hcare hstale), ?_⟩
    rintro ⟨_, hask, -⟩
    rw [h.mediasoupTasks hqueue] at hask
    cases hask

theorem isolated_opened_iff (h : s.Aligned)
    (hqueue : s.mediasoup = (.getRouterRtpCapabilities, origin) :: rest) :
    s.Isolated J (.mediasoup o, n) ↔ (s.Stale origin → ¬ s.client.CanNegotiate) := by
  constructor
  · intro hisolated hstale hcan
    exact (hisolated origin ((takes_mediasoup hqueue).mpr ⟨rfl, trivial⟩) hstale).2
      ⟨_, h.mediasoupTasks hqueue, hcan⟩
  · intro hcare origin' htakes hstale
    obtain ⟨rfl, -⟩ := (takes_mediasoup hqueue).mp htakes
    refine ⟨(undisturbed_mediasoup_iff h hqueue).mpr
      (RoomClient.runMediasoup_opened (hcare hstale)), ?_⟩
    exact fun ⟨_, _, hcan⟩ => hcare hstale hcan

end Step

/-- Whether a step is isolated is decided by what it takes from the queue of the mediasoup
thread. -/
theorem isolated_iff_careful (h : s.Aligned) : s.Isolated J a ↔ s.Careful a := by
  obtain ⟨a, n⟩ := a
  cases a with
  | call a o => exact iff_of_true (fun _ htakes => htakes.elim) trivial
  | socket e => exact iff_of_true (fun _ htakes => htakes.elim) trivial
  | listener l o => exact iff_of_true (fun _ htakes => htakes.elim) trivial
  | transport => exact iff_of_true (isolated_transport h) trivial
  | mediasoup o =>
    unfold Careful
    simp only
    split
    · rename_i origin rest hqueue
      exact isolated_closed_iff h hqueue
    · rename_i origin rest hqueue
      exact isolated_opened_iff h hqueue
    · rename_i hclosed hopened
      refine iff_of_true ?_ trivial
      rintro origin ⟨t, rest, hqueue, ht⟩ -
      cases t with
      | closed => exact absurd hqueue (hclosed origin rest)
      | getRouterRtpCapabilities => exact absurd hqueue (hopened origin rest)
      | _ => exact ht.elim

theorem aligned_initial : ({} : Sessions).Aligned := ⟨rfl, rfl⟩

/-- A session begins only when no report of an earlier one is queued. -/
def QuietJoin (s : Sessions) (a : Action) : Prop :=
  s.client.StartsSession a.1 →
    (∀ p ∈ s.transport, p.1.IsReport → p.2.live = false) ∧
      ∀ p ∈ s.mediasoup, p.1.IsReport → p.2.live = false

/-- The reports that are queued come from the session that began last. -/
structure Current (s : Sessions) : Prop where
  aligned : s.Aligned
  transport : ∀ p ∈ s.transport, p.1.IsReport → ¬ s.Stale p.2
  mediasoup : ∀ p ∈ s.mediasoup, p.1.IsReport → ¬ s.Stale p.2

theorem not_stale_reported {n : ℕ} : ¬ s.Stale (s.reported n) := by
  rintro ⟨hlive, hne⟩
  simp only [reported, decide_eq_true_eq] at hlive
  exact hne hlive.1

theorem Current.step (h : s.Current) (hq : s.QuietJoin a) (hs : s.step J a = .ok s') :
    s'.Current := by
  have hmoves := step_moves h.aligned hs
  obtain ⟨c, -, hs'⟩ := step_ok_iff.mp hs
  by_cases hstart : s.client.StartsSession a.1
  · obtain ⟨htransport, hmediasoup⟩ := hq hstart
    -- a client that starts a session is closed, so that nothing reported now counts as live
    have hreported : ∀ n, (s.reported n).live = false := by
      obtain ⟨_, _, _, _, _, _, -, hclosed, -⟩ := hstart
      intro n
      simp [reported, hclosed]
    have hlive {origin : Origin} (hl : origin.live = false) : ¬ s'.Stale origin := by
      rintro ⟨ht, -⟩
      rw [hl] at ht
      cases ht
    refine ⟨hmoves.aligned, fun p hp hp₁ => hlive ?_, fun p hp hp₁ => hlive ?_⟩
    · rcases hmoves.transport p hp hp₁ with hmem | ⟨n, hn⟩
      · exact htransport p hmem hp₁
      · rw [hn]
        exact hreported n
    · rcases hmoves.mediasoup p hp hp₁ with hmem | ⟨t, hmem, ht⟩
      · exact hmediasoup p hmem hp₁
      · exact htransport _ hmem ht
  · have hsession : s'.session = s.session := by
      rw [hs']
      exact if_neg hstart
    have hsame {origin : Origin} (ho : ¬ s.Stale origin) : ¬ s'.Stale origin := by
      rintro ⟨hl, hne⟩
      exact ho ⟨hl, hsession ▸ hne⟩
    refine ⟨hmoves.aligned, fun p hp hp₁ => hsame ?_, fun p hp hp₁ => hsame ?_⟩
    · rcases hmoves.transport p hp hp₁ with hmem | ⟨n, hn⟩
      · exact h.transport p hmem hp₁
      · rw [hn]
        exact not_stale_reported
    · rcases hmoves.mediasoup p hp hp₁ with hmem | ⟨t, hmem, ht⟩
      · exact h.mediasoup p hmem hp₁
      · exact h.transport _ hmem ht

theorem Current.careful (h : s.Current) : s.Careful a := by
  unfold Careful
  split
  · split
    · rename_i origin rest hqueue
      have hhead := h.mediasoup (.closed, origin) (by rw [hqueue]; exact List.mem_cons_self)
      exact fun hstale => absurd hstale (hhead trivial)
    · rename_i origin rest hqueue
      have hhead := h.mediasoup (.getRouterRtpCapabilities, origin)
        (by rw [hqueue]; exact List.mem_cons_self)
      exact fun hstale => absurd hstale (hhead trivial)
    · trivial
  · trivial

/-- An application that joins only when the queues hold no report of an earlier connection keeps its
sessions apart. -/
theorem careful_of_quietJoin {run : List Action} (h : Guarded (step J) QuietJoin {} run) :
    Guarded (step J) Careful {} run := by
  have hboth : Guarded (step J) (fun s a => s.QuietJoin a ∧ s.Careful a) {} run := by
    refine (guarded_congr (I := Current) ?_ ?_ ?_).mp h
    · intro s s' a _ hI hq hs
      exact hI.step hq hs
    · intro s a _ hI
      exact ⟨fun hq => ⟨hq, hI.careful⟩, And.left⟩
    · exact ⟨aligned_initial, by simp, by simp⟩
  exact hboth.mono fun _ _ => And.right

/-- In a run no stale report touches a later session, exactly if the mediasoup thread takes stale
reports only when no session goes on; joins without leftovers see to that. -/
theorem sessions_isolated_iff (J : JsonText) (run : List Action) :
    ((∀ pre a, pre ++ [a] <+: run → ∀ s, exec (step J) {} pre = .ok s → s.Isolated J a) ↔
      Guarded (step J) Careful {} run) ∧
    (Guarded (step J) QuietJoin {} run →
      ∀ pre a, pre ++ [a] <+: run → ∀ s, exec (step J) {} pre = .ok s → s.Isolated J a) := by
  have hiff : (∀ pre a, pre ++ [a] <+: run → ∀ s, exec (step J) {} pre = .ok s →
      s.Isolated J a) ↔ Guarded (step J) Careful {} run := by
    refine guarded_iff_forall_prefix.symm.trans ?_
    refine guarded_congr (I := Aligned) ?_ ?_ aligned_initial
    · intro s s' a _ h _ hs
      exact (step_moves h hs).aligned
    · intro s a _ h
      exact isolated_iff_careful h
  exact ⟨hiff, fun hquiet => hiff.mpr (careful_of_quietJoin hquiet)⟩

/-- The first connection reports that it is closed, and the application leaves and joins again
before the report is handled. -/
def rejoinRun : List Action :=
  [(RoomClient.sessionJoin, 0), (.socket .closed, 1), (.call .leave RoomClient.firstRequest, 0),
    (RoomClient.sessionJoin, 0), (.transport, 0)]

/-- The report of the first connection closes the second session. -/
theorem stale_report_closes_session :
    ∃ s s', exec (step RoomClient.sessionJson) {} rejoinRun = .ok s ∧
      s.session = 2 ∧ s.Takes ⟨1, true⟩ (.mediasoup RoomClient.firstRequest, 0) ∧
      s.Stale ⟨1, true⟩ ∧ s.client.state = .connecting ∧
      s.step RoomClient.sessionJson (.mediasoup RoomClient.firstRequest, 0) = .ok s' ∧
      s'.client.state = .closed ∧
      ¬ s.Isolated RoomClient.sessionJson (.mediasoup RoomClient.firstRequest, 0) := by
  have htakes : Takes { session := 2, mediasoup := [(.closed, ⟨1, true⟩)] } ⟨1, true⟩
      (.mediasoup RoomClient.firstRequest, 0) := ⟨_, _, rfl, trivial⟩
  refine ⟨_, _, rfl, rfl, htakes, ⟨rfl, by decide⟩, rfl, rfl, rfl, fun hisolated => ?_⟩
  obtain ⟨⟨s', hs', hstate, -⟩, -⟩ := hisolated ⟨1, true⟩ htakes ⟨rfl, by decide⟩
  cases hs'
  cases hstate

end Sessions
end MediasoupSdk
