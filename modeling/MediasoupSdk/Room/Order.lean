import MediasoupSdk.Foundation.Arrivals
import MediasoupSdk.Room.Changes

/-! The order in which the messages of the SFU take effect. A response is posted to the transport
thread once more, and its continuation to the mediasoup thread, so a later message can overtake
it twice. -/
namespace MediasoupSdk
open Foundation Signaling

/-- The message that a task of the transport thread handles. -/
def TransportTask.seq? : TransportTask → Option ℕ
  | .onMessage seq _ => some seq
  | .handleResponse seq _ => some seq
  | .onOpened => none
  | .onClosed => none
  | .onFailed => none

namespace RoomClient

/-- The messages with a task in one of the queues. -/
def pending (c : RoomClient) : List ℕ :=
  c.transportTasks.filterMap TransportTask.seq? ++ c.mediasoupTasks.filterMap MediasoupTask.seq?

def arrivals (c : RoomClient) : Arrivals := ⟨c.arrived, c.pending, c.applied⟩

variable (J : JsonText)

/-- The action applies an effect of the message: a notification that is handled at once, a
response that resolves a request, a task of the mediasoup thread. -/
inductive Applies (c : RoomClient) : Action → ℕ → Prop where
  | notification {n json rest} (ht : c.transportTasks = .onMessage n json :: rest)
      (hn : HandledAtOnce J c json) : Applies c .transport n
  | response {n json rest sc} (ht : c.transportTasks = .handleResponse n json :: rest)
      (hsc : c.signalingClient = some sc)
      (hcalls : (sc.handleResponse J.rapidjson json).2 ≠ []) : Applies c .transport n
  | task {o t rest n} (ht : c.mediasoupTasks = t :: rest) (hn : t.seq? = some n)
      (hm : IsMedia n t → c.mediaController.isSome) : Applies c (.mediasoup o) n

/-- No effect of a message is applied while a task of an earlier message is queued. -/
def InTurn (c : RoomClient) (a : Action) : Prop :=
  ∀ n, c.Applies J a n → ∀ p ∈ c.pending, n ≤ p

/-- A message arrives only when no task of an earlier one is queued. -/
def OneAtATime (c : RoomClient) : Action → Prop
  | .socket (.message _) => c.pending = []
  | _ => True

instance (c : RoomClient) (a : Action) : Decidable (c.OneAtATime a) := by
  unfold OneAtATime
  split <;> infer_instance

variable {J} {c c' : RoomClient}

theorem mem_pending {p : ℕ} : p ∈ c.pending ↔
    (∃ t ∈ c.transportTasks, t.seq? = some p) ∨ ∃ t ∈ c.mediasoupTasks, t.seq? = some p := by
  simp only [pending, List.mem_append, List.mem_filterMap]

theorem mem_pending_postTransport {t : TransportTask} {p : ℕ} :
    p ∈ (c.postTransport t).pending ↔ p ∈ c.pending ∨ t.seq? = some p := by
  simp only [mem_pending, postTransport, List.mem_append, List.mem_singleton, or_and_right,
    exists_or, exists_eq_left]
  exact or_right_comm

theorem mem_pending_postMediasoup {t : MediasoupTask} {p : ℕ} :
    p ∈ (c.postMediasoup t).pending ↔ p ∈ c.pending ∨ t.seq? = some p := by
  simp only [mem_pending, postMediasoup, List.mem_append, List.mem_singleton, or_and_right,
    exists_or, exists_eq_left]
  exact or_assoc.symm

theorem mem_pending_transport {t : TransportTask} {rest : List TransportTask} {p : ℕ}
    (ht : c.transportTasks = t :: rest) :
    p ∈ c.pending ↔ p ∈ RoomClient.pending { c with transportTasks := rest } ∨ t.seq? = some p := by
  simp only [mem_pending, ht, List.mem_cons, or_and_right, exists_or, exists_eq_left]
  rw [or_assoc, or_comm]

theorem mem_pending_mediasoup {t : MediasoupTask} {rest : List MediasoupTask} {p : ℕ}
    (ht : c.mediasoupTasks = t :: rest) :
    p ∈ c.pending ↔ p ∈ RoomClient.pending { c with mediasoupTasks := rest } ∨ t.seq? = some p := by
  simp only [mem_pending, ht, List.mem_cons, or_and_right, exists_or, exists_eq_left]
  rw [or_left_comm, or_comm]

theorem Applies.pending {a : Action} {n : ℕ} (h : c.Applies J a n) : n ∈ c.pending := by
  cases h with
  | notification ht hn => exact (mem_pending_transport ht).mpr (Or.inr rfl)
  | response ht hsc hcalls => exact (mem_pending_transport ht).mpr (Or.inr rfl)
  | task ht hn hm => exact (mem_pending_mediasoup ht).mpr (Or.inr hn)

/-- A task of the transport thread applies its message, or nothing, and queues tasks for its
message only. -/
theorem transport_handles {t : TransportTask} (hc : TransportChange J c t c') :
    ∃ effects, c'.applied = c.applied ++ effects ∧ c'.arrived = c.arrived ∧
      (∀ p ∈ c'.pending, p ∈ c.pending ∨ t.seq? = some p) ∧
      ∀ n ∈ effects, (∃ json, t = .onMessage n json ∧ HandledAtOnce J c json) ∨
        ∃ json sc, t = .handleResponse n json ∧ c.signalingClient = some sc ∧
          (sc.handleResponse J.rapidjson json).2 ≠ [] := by
  have hpost : ∀ {d : RoomClient} {m : MediasoupTask} {p : ℕ}, d.pending = c.pending →
      m.seq? = t.seq? → p ∈ (d.postMediasoup m).pending → p ∈ c.pending ∨ t.seq? = some p := by
    intro d m p hd hm hp
    rw [mem_pending_postMediasoup, hd, hm] at hp
    exact hp
  cases hc with
  | gone hsc => exact ⟨[], by simp, rfl, fun p hp => Or.inl hp, nofun⟩
  | opened => exact ⟨[], by simp [postMediasoup], rfl, fun p hp => hpost rfl rfl hp, nofun⟩
  | failed => exact ⟨[], by simp [postMediasoup], rfl, fun p hp => hpost rfl rfl hp, nofun⟩
  | closed hsc => exact ⟨[], by simp [postMediasoup], rfl, fun p hp => hpost rfl rfl hp, nofun⟩
  | dispatched hkind hd he =>
    rename_i seq json
    rcases hd with ⟨pc, volume, effects, rfl, -, hseq⟩ | ⟨m, hm, rfl⟩
    · refine ⟨effects, rfl, rfl, fun p hp => Or.inl hp, fun n hn => Or.inl ?_⟩
      rcases he with he | he
      · have hnil : effects = [] := by simpa using he
        rw [hnil] at hn
        cases hn
      · exact ⟨json, by rw [hseq n hn], he⟩
    · refine ⟨[], by simp [postMediasoup], rfl, fun p hp => hpost rfl ?_ hp, nofun⟩
      exact isMedia_seq hm
  | reposted hkind =>
    refine ⟨[], by simp [postTransport], rfl, fun p hp => ?_, nofun⟩
    rwa [mem_pending_postTransport] at hp
  | unanswered hsc hw => exact ⟨[], by simp, rfl, fun p hp => Or.inl hp, nofun⟩
  | answered hsc hw hcallback hcall hi =>
    rename_i seq json sc sc' callback
    have heffect : ∀ n ∈ [seq],
        (∃ json', TransportTask.handleResponse seq json = .onMessage n json' ∧
          HandledAtOnce J c json') ∨
        ∃ json' sc, TransportTask.handleResponse seq json = .handleResponse n json' ∧
          c.signalingClient = some sc ∧ (sc.handleResponse J.rapidjson json').2 ≠ [] := by
      intro n hn
      rw [List.mem_singleton.mp hn]
      exact Or.inr ⟨json, sc, rfl, hsc, by simp [hcall]⟩
    refine ⟨[seq], ?_⟩
    rcases invoke_ok hi with rfl | ⟨_, _, -, rfl⟩ | ⟨_, _, _, _, -, rfl⟩ | ⟨_, r, -, -, -, rfl⟩
    · exact ⟨rfl, rfl, fun p hp => Or.inl hp, heffect⟩
    · exact ⟨rfl, rfl, fun p hp => hpost rfl rfl hp, heffect⟩
    · exact ⟨rfl, rfl, fun p hp => hpost rfl rfl hp, heffect⟩
    · simp only [onJoinReply]
      split
      · exact ⟨rfl, rfl, fun p hp => Or.inl hp, heffect⟩
      · exact ⟨rfl, rfl, fun p hp => hpost rfl rfl hp, heffect⟩

/-- A task of the mediasoup thread applies its message, or nothing, and queues nothing. -/
theorem mediasoup_handles {t : MediasoupTask} (hc : MediasoupChange c t c') :
    ∃ effects, c'.applied = c.applied ++ effects ∧ c'.arrived = c.arrived ∧
      c'.transportTasks = c.transportTasks ∧ c'.mediasoupTasks = c.mediasoupTasks ∧
      ∀ n ∈ effects, t.seq? = some n ∧ (IsMedia n t → c.mediaController.isSome) := by
  have hone : ∀ {seq : ℕ}, t.seq? = some seq → (IsMedia seq t → c.mediaController.isSome) →
      ∀ n ∈ [seq], t.seq? = some n ∧ (IsMedia n t → c.mediaController.isSome) := by
    intro seq hseq hmedia n hn
    rw [List.mem_singleton.mp hn]
    exact ⟨hseq, hmedia⟩
  cases hc with
  | requested hr =>
    obtain ⟨sc, rfl, -⟩ := hr
    exact ⟨[], by simp, rfl, rfl, rfl, nofun⟩
  | closed => exact ⟨[], by simp [tornDown], rfl, rfl, rfl, nofun⟩
  | loaded hm =>
    rename_i seq response device mc sc
    exact ⟨[seq], rfl, rfl, rfl, rfl, hone rfl fun _ => hm⟩
  | skipped => exact ⟨[], by simp, rfl, rfl, rfl, nofun⟩
  | transport hd hr =>
    rename_i seq producing consuming response d callback
    obtain ⟨sc, rfl, -⟩ := hr
    refine ⟨[seq], ?_⟩
    have heffect := hone rfl fun h => absurd h id
    rcases hd with rfl | ⟨-, -, mc, send, recv, component, rfl⟩
    · exact ⟨rfl, rfl, rfl, rfl, heffect⟩
    · exact ⟨rfl, rfl, rfl, rfl, heffect⟩
  | joined hd hpc =>
    rename_i seq state response d pc
    refine ⟨[seq], ?_⟩
    have heffect := hone rfl fun h => absurd h id
    by_cases hstate : state = .closed
    · subst hstate
      rw [onRoomStateChanged_closed hd]
      exact ⟨rfl, rfl, rfl, rfl, heffect⟩
    · rw [onRoomStateChanged_open hstate hd]
      exact ⟨rfl, rfl, rfl, rfl, heffect⟩
  | idle ht hm => exact ⟨[], by simp, rfl, rfl, rfl, nofun⟩
  | media ht hm hd =>
    rename_i seq d
    obtain ⟨mc, pc, sc, rfl, -⟩ := hd
    exact ⟨[seq], rfl, rfl, rfl, rfl, hone (isMedia_seq ht) fun _ => hm⟩

/-- A step that leaves the queues and the record of effects alone. -/
theorem step_still (htransport : c'.transportTasks = c.transportTasks)
    (hmediasoup : c'.mediasoupTasks = c.mediasoupTasks) (happlied : c'.applied = c.applied)
    (harrived : c'.arrived = c.arrived) : c.arrivals.Step c'.arrivals [] := by
  refine ⟨by simp [arrivals, happlied], harrived.ge, fun p hp => Or.inl ?_, nofun⟩
  have hp' : p ∈ c'.pending := hp
  rwa [RoomClient.pending, htransport, hmediasoup] at hp'

theorem socket_arrivals (e : SocketEvent) : c.arrivals.Step (c.onSocket e).arrivals [] := by
  have hquiet : ∀ t : TransportTask, t.seq? = none →
      c.arrivals.Step (c.postTransport t).arrivals [] := by
    intro t ht
    refine ⟨by simp [arrivals, postTransport], le_rfl, fun p hp => Or.inl ?_, nofun⟩
    rcases mem_pending_postTransport.mp hp with hp | hp
    · exact hp
    · rw [ht] at hp
      cases hp
  cases e with
  | opened => exact hquiet .onOpened rfl
  | closed => exact hquiet .onClosed rfl
  | failed => exact hquiet .onFailed rfl
  | message json =>
    refine ⟨by simp [arrivals, onSocket, postTransport], Nat.le_succ _, fun p hp => ?_, nofun⟩
    rcases mem_pending_postTransport.mp hp with hp | hp
    · exact Or.inl hp
    · cases hp
      exact Or.inr ⟨le_rfl, Nat.lt_succ_self _⟩

/-- Every step handles the messages in the way of `Arrivals.Step`. -/
theorem step_arrivals {a : Action} (hs : c.step J a = .ok c') :
    ∃ effects, c.arrivals.Step c'.arrivals effects ∧ ∀ n ∈ effects, c.Applies J a n := by
  cases step_change hs with
  | refused hn => exact ⟨[], step_still rfl rfl rfl rfl, nofun⟩
  | accepted ha hsc => exact ⟨[], step_still rfl rfl rfl rfl, nofun⟩
  | stayed hs => exact ⟨[], step_still rfl rfl rfl rfl, nofun⟩
  | left hopen hsc => exact ⟨[], step_still rfl rfl rfl rfl, nofun⟩
  | destroyed => exact ⟨[], step_still rfl rfl rfl rfl, nofun⟩
  | media ha hm hu =>
    obtain ⟨mc, pc, sc, rfl, -⟩ := hu
    exact ⟨[], step_still rfl rfl rfl rfl, nofun⟩
  | socket => exact ⟨[], socket_arrivals _, nofun⟩
  | listened hr hcallback =>
    obtain ⟨sc, rfl, -⟩ := hr
    exact ⟨[], step_still rfl rfl rfl rfl, nofun⟩
  | transportIdle ht => exact ⟨[], step_still rfl rfl rfl rfl, nofun⟩
  | transport ht hc =>
    obtain ⟨effects, happlied, harrived, hpending, heffects⟩ := transport_handles hc
    have happlies : ∀ n ∈ effects, c.Applies J .transport n := by
      intro n hn
      rcases heffects n hn with ⟨json, rfl, hatonce⟩ | ⟨json, sc, rfl, hsc, hcalls⟩
      · exact .notification ht hatonce
      · exact .response ht hsc hcalls
    refine ⟨effects, ⟨happlied, harrived.ge, fun p hp => Or.inl ?_, ?_⟩, happlies⟩
    · exact (mem_pending_transport ht).mpr (hpending p hp)
    · exact fun n hn => (happlies n hn).pending
  | mediasoupIdle ht => exact ⟨[], step_still rfl rfl rfl rfl, nofun⟩
  | mediasoup ht hc =>
    rename_i o t rest
    obtain ⟨effects, happlied, harrived, htransport, hmediasoup, heffects⟩ := mediasoup_handles hc
    have happlies : ∀ n ∈ effects, c.Applies J (.mediasoup o) n := by
      intro n hn
      obtain ⟨hseq, hm⟩ := heffects n hn
      exact .task ht hseq hm
    refine ⟨effects, ⟨happlied, harrived.ge, fun p hp => Or.inl ?_, ?_⟩, happlies⟩
    · refine (mem_pending_mediasoup ht).mpr (Or.inl ?_)
      have hp' : p ∈ c'.pending := hp
      rwa [RoomClient.pending, htransport, hmediasoup] at hp'
    · exact fun n hn => (happlies n hn).pending

/-- The messages that an action lets in. -/
def arriving : Action → ℕ
  | .socket (.message _) => 1
  | _ => 0

theorem step_arrived {a : Action} (hs : c.step J a = .ok c') :
    c'.arrived = c.arrived + arriving a := by
  cases step_change hs with
  | refused hn => rfl
  | accepted ha hsc => rfl
  | stayed hs => rfl
  | left hopen hsc => rfl
  | destroyed => rfl
  | media ha hm hu =>
    obtain ⟨mc, pc, sc, rfl, -⟩ := hu
    rfl
  | socket =>
    rename_i e
    cases e <;> rfl
  | listened hr hcallback =>
    obtain ⟨sc, rfl, -⟩ := hr
    rfl
  | transportIdle ht => rfl
  | transport ht hc =>
    obtain ⟨_, -, harrived, -⟩ := transport_handles hc
    exact harrived
  | mediasoupIdle ht => rfl
  | mediasoup ht hc =>
    obtain ⟨_, -, harrived, -⟩ := mediasoup_handles hc
    exact harrived

/-- The tasks that are queued belong to one message. -/
def Single (c : RoomClient) : Prop := ∀ p ∈ c.pending, ∀ q ∈ c.pending, p = q

theorem Single.inTurn {a : Action} (h : c.Single) : c.InTurn J a :=
  fun n hn p hp => (h n hn.pending p hp).le

theorem Single.step {a : Action} (h : c.Single) (ha : c.OneAtATime a) (hs : c.step J a = .ok c') :
    c'.Single := by
  obtain ⟨effects, hstep, -⟩ := step_arrivals hs
  have harrived := step_arrived hs
  have harriving : arriving a = 0 ∨ arriving a = 1 ∧ c.pending = [] := by
    cases a with
    | socket e =>
      cases e with
      | message json => exact Or.inr ⟨rfl, ha⟩
      | opened | closed | failed => exact Or.inl rfl
    | call _ _ | listener _ _ | transport | mediasoup _ => exact Or.inl rfl
  intro p hp q hq
  have hp' := hstep.pending p hp
  have hq' := hstep.pending q hq
  simp only [arrivals, harrived] at hp' hq'
  rcases harriving with hzero | ⟨hone, hnil⟩
  · rcases hp' with hp' | hp' <;> rcases hq' with hq' | hq'
    · exact h p hp' q hq'
    all_goals omega
  · -- the message that arrives is the only one
    simp only [hnil, List.not_mem_nil, false_or] at hp' hq'
    omega

theorem inTurn_of_oneAtATime {run : List Action} (h : Guarded (step J) OneAtATime initial run) :
    Guarded (step J) (InTurn J) initial run := by
  have hboth : Guarded (step J) (fun c a => c.OneAtATime a ∧ c.InTurn J a) initial run := by
    refine (guarded_congr (I := Single) ?_ ?_ ?_).mp h
    · intro c c' a _ hsingle ha hs
      exact hsingle.step ha hs
    · intro c a _ hsingle
      exact ⟨fun ha => ⟨ha, hsingle.inTurn⟩, And.left⟩
    · intro p hp
      cases hp
  exact hboth.mono fun _ _ => And.right

/-- Along each run whose steps are in turn, the effects of the messages are applied in arrival
order in every state reached; messages that come one at a time see to that. -/
theorem applied_in_arrival_order (J : JsonText) (run : List Action) :
    (Guarded (step J) (InTurn J) initial run →
      ∀ pre t, pre <+: run → exec (step J) initial pre = .ok t → t.applied.Pairwise (· ≤ ·)) ∧
    (Guarded (step J) OneAtATime initial run → Guarded (step J) (InTurn J) initial run) := by
  refine ⟨fun hturn pre t hpre ht => ?_, inTurn_of_oneAtATime⟩
  obtain ⟨post, rfl⟩ := hpre
  have hordered : t.arrivals.Ordered := by
    refine exec_invariant (I := fun c => c.arrivals.Ordered) ?_ (guarded_append.mp hturn).1 ?_ ht
    · intro c a c' hc hinturn hs
      obtain ⟨effects, hstep, happlies⟩ := step_arrivals hs
      exact hc.step hstep fun n hn => hinturn n (happlies n hn)
    · exact Arrivals.ordered_nil 0
  exact hordered.sorted

def newPeerText : String :=
  "\x7b\"notification\":true,\"method\":\"newPeer\",\"data\":\x7b\"id\":\"bob\"\x7d\x7d"

def newPeerJson : JsonText where
  rapidjson := ⟨fun text => ((newPeerText, .object [("notification", .bool true),
    ("method", .string "newPeer"), ("data", .object [("id", .string "bob")])]) ::
    sessionDocuments).lookup text⟩
  request _ r := sessionRequest r
  answer _ := "\x7b\"response\":true,\"ok\":true\x7d"

/-- Two notifications, each handled as it arrives. -/
def oneByOne : List Action :=
  [.socket (.message newPeerText), .transport, .socket (.message newPeerText), .transport]

theorem applied_in_arrival_order_oneByOne :
    ∃ t, exec (step newPeerJson) initial oneByOne = .ok t ∧ t.applied = [0, 1] ∧
      t.applied.Pairwise (· ≤ ·) := by
  have horder := applied_in_arrival_order newPeerJson oneByOne
  have hone : Guarded (step newPeerJson) OneAtATime initial oneByOne := by decide
  have hrun : ∃ t, exec (step newPeerJson) initial oneByOne = .ok t ∧ t.applied = [0, 1] :=
    ⟨_, rfl, rfl⟩
  obtain ⟨t, ht, happlied⟩ := hrun
  exact ⟨t, ht, happlied, horder.1 (horder.2 hone) _ t List.prefix_rfl ht⟩

/-- The join response and then `newPeer` arrive back to back: the peer is there before the join
callback runs. -/
theorem newPeer_overtakes_join_response :
    ∃ t, exec (step newPeerJson) initial (negotiation ++
        [.socket (.message joinedText), .socket (.message newPeerText), .transport, .transport,
          .transport]) = .ok t ∧
      t.applied = [0, 0, 2, 1] ∧ ¬ t.applied.Pairwise (· ≤ ·) := by
  have hrun : ∃ t, exec (step newPeerJson) initial (negotiation ++
        [.socket (.message joinedText), .socket (.message newPeerText), .transport, .transport,
          .transport]) = .ok t ∧ t.applied = [0, 0, 2, 1] := ⟨_, rfl, rfl⟩
  obtain ⟨t, ht, happlied⟩ := hrun
  refine ⟨t, ht, happlied, ?_⟩
  rw [happlied]
  decide

end RoomClient
end MediasoupSdk
