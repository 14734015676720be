import MediasoupSdk.Room.Callbacks

/-! After `leave` the client stays closed and creates nothing, as long as no late response of the
join negotiation is taken up. -/
namespace MediasoupSdk
open Foundation Signaling
namespace RoomClient

variable (J : JsonText)

/-- The mediasoup thread takes up the router capabilities. -/
def LoadsDevice (c : RoomClient) (a : Action) : Prop :=
  ∃ o seq response rest, a = .mediasoup o ∧
    c.mediasoupTasks = .loadMediasoupDevice seq response :: rest

/-- No new session starts, no join response with an `ok` member is delivered and no router
capabilities are taken up. -/
def Quiet (c : RoomClient) (a : Action) : Prop :=
  ¬ c.StartsSession a ∧ ¬ c.LoadsDevice a ∧
    (a = .transport → ∀ response, c.Delivers J (.joined response) → response.ok = none)

/-- Closed, without a device, and with nothing created beyond `created`. -/
structure Closed (created : List Component) (c : RoomClient) : Prop where
  state : c.state = .closed
  device : c.mediasoupDevice = none
  created : c.created = created

variable {J} {created : List Component} {c c' : RoomClient}

theorem Closed.requests {callback : Callback} (h : Closed created c)
    (hr : Requests callback c c') : Closed created c' := by
  obtain ⟨sc, rfl, -⟩ := hr
  exact { h with }

theorem Closed.usesMedia (h : Closed created c) (hu : UsesMedia c c') : Closed created c' := by
  obtain ⟨mc, pc, sc, rfl, -⟩ := hu
  exact { h with }

theorem Closed.transport {t : TransportTask} {rest : List TransportTask} (h : Closed created c)
    (ht : c.transportTasks = t :: rest)
    (hq : ∀ response, c.Delivers J (.joined response) → response.ok = none)
    (hc : TransportChange J { c with transportTasks := rest } t c') : Closed created c' := by
  obtain ⟨-, -, hcreated, -, hdevice⟩ := hc.same
  refine ⟨?_, hdevice.trans h.device, hcreated.trans h.created⟩
  rcases hc.joins ht with ⟨hstate, -⟩ | ⟨r, hd, -, ⟨-, hstate, -⟩ | ⟨hok, -⟩⟩
  · exact hstate.trans h.state
  · exact hstate.trans h.state
  · exact absurd (hq r hd) hok

theorem Closed.mediasoup {t : MediasoupTask} (h : Closed created c)
    (hq : ∀ seq response, t ≠ .loadMediasoupDevice seq response)
    (hc : MediasoupChange c t c') : Closed created c' := by
  cases hc with
  | requested hr => exact h.requests hr
  | closed => exact ⟨rfl, rfl, h.created⟩
  | loaded hm => exact absurd rfl (hq _ _)
  | skipped => exact h
  | transport hd hr =>
    rcases hd with rfl | ⟨hdevice, -⟩
    · refine Closed.requests ?_ hr
      exact { h with }
    · simp [RoomClient.apply, h.device] at hdevice
  | joined hd hpc =>
    rename_i seq state response d pc
    by_cases hs : state = .closed
    · subst hs
      rw [onRoomStateChanged_closed hd]
      exact ⟨h.state, rfl, h.created⟩
    · rw [onRoomStateChanged_open hs hd]
      exact { h with }
  | idle ht hm => exact h
  | media ht hm hd =>
    have hu := h.usesMedia hd
    exact ⟨hu.state, hu.device, hu.created⟩

theorem Closed.step {a : Action} (h : Closed created c) (hq : c.Quiet J a)
    (hs : c.step J a = .ok c') : Closed created c' := by
  obtain ⟨hstart, hload, hjoin⟩ := hq
  cases step_change hs with
  | refused hn => exact { h with }
  | accepted ha hsc => exact absurd ⟨_, _, _, _, _, _, rfl, ha⟩ hstart
  | stayed hs => exact { h with }
  | left hopen hsc => exact absurd h.state hopen
  | destroyed => exact ⟨h.state, rfl, h.created⟩
  | media ha hm hu => exact h.usesMedia hu
  | socket =>
    rename_i e
    cases e <;> exact { h with }
  | listened hr hcallback => exact h.requests hr
  | transportIdle ht => exact h
  | transport ht hc => exact h.transport ht (hjoin rfl) hc
  | mediasoupIdle ht => exact h
  | mediasoup ht hc =>
    rename_i o t rest
    refine Closed.mediasoup ?_ ?_ hc
    · exact { h with }
    · intro seq response he
      subst he
      exact hload ⟨o, seq, response, rest, rfl, ht⟩

/-- `leave` on an open client tears everything down. -/
theorem leave_closed {o : Oracle} (hopen : c.state ≠ .closed)
    (hleave : c.step J (.call .leave o) = .ok c') (hclosed : c'.state = .closed) :
    Closed c'.created c' := by
  cases step_change hleave with
  | stayed hs =>
    have hsame : c.state = .closed := hclosed
    exact absurd hsame hopen
  | left hs hsc => exact ⟨rfl, rfl, rfl⟩
  | media ha => exact absurd ha id

/-- In every state after a `leave` that closed the client, it is still closed and has created no
device and no transport, along each run whose steps are quiet. -/
theorem closed_after_leave {c₀ c₁ : RoomClient} {o : Oracle} (hopen : c₀.state ≠ .closed)
    (hleave : c₀.step J (.call .leave o) = .ok c₁) (hclosed : c₁.state = .closed)
    {run : List Action} (hquiet : Guarded (step J) (Quiet J) c₁ run)
    {pre : List Action} (hpre : pre <+: run) {t : RoomClient}
    (ht : exec (step J) c₁ pre = .ok t) : t.state = .closed ∧ t.created = c₁.created := by
  obtain ⟨post, rfl⟩ := hpre
  have hinv := exec_invariant (fun _ _ _ hi hok hs => Closed.step hi hok hs)
    (guarded_append.mp hquiet).1 (leave_closed hopen hleave hclosed) ht
  exact ⟨hinv.state, hinv.created⟩

theorem closed_after_leave_negotiation :
    ∃ c₀ c₁ t, exec (step sessionJson) initial negotiation = .ok c₀ ∧
      c₀.step sessionJson (.call .leave firstRequest) = .ok c₁ ∧
      exec (step sessionJson) c₁ [.socket .closed, .mediasoup firstRequest] = .ok t ∧
      t.state = .closed ∧ t.created = c₁.created := by
  have hquiet : ∀ c₁ : RoomClient, c₁.mediasoupTasks = [] →
      Guarded (step sessionJson) (Quiet sessionJson) c₁
        [.socket .closed, .mediasoup firstRequest] := by
    intro c₁ hempty
    refine ⟨⟨?_, ?_, nofun⟩, ?_⟩
    · rintro ⟨_, _, _, _, _, _, he, -⟩
      cases he
    · rintro ⟨_, _, _, _, he, -⟩
      cases he
    · rintro c ⟨⟩
      refine ⟨⟨?_, ?_, nofun⟩, fun _ _ => trivial⟩
      · rintro ⟨_, _, _, _, _, _, he, -⟩
        cases he
      · rintro ⟨_, _, _, _, he, ht⟩
        have htasks : c₁.mediasoupTasks = _ := ht
        rw [hempty] at htasks
        cases htasks
  have hrun : ∃ c₀ c₁ t, exec (step sessionJson) initial negotiation = .ok c₀ ∧
      c₀.step sessionJson (.call .leave firstRequest) = .ok c₁ ∧
      exec (step sessionJson) c₁ [.socket .closed, .mediasoup firstRequest] = .ok t ∧
      c₁.state = .closed ∧ c₁.mediasoupTasks = [] ∧ c₀.state ≠ .closed := by
    refine ⟨_, _, _, rfl, rfl, rfl, rfl, rfl, ?_⟩
    decide
  obtain ⟨c₀, c₁, t, hnegotiation, hleave, ht, hclosed, hempty, hopen⟩ := hrun
  exact ⟨c₀, c₁, t, hnegotiation, hleave, ht,
    closed_after_leave hopen hleave hclosed (hquiet c₁ hempty) (List.prefix_refl _) ht⟩

/-- The join response is queued on the transport thread when the application leaves. -/
theorem join_response_after_leave :
    ∃ c₀ c₁ t, exec (step sessionJson) initial
        (negotiation ++ [.socket (.message joinedText), .transport]) = .ok c₀ ∧
      c₀.state ≠ .closed ∧ c₀.step sessionJson (.call .leave firstRequest) = .ok c₁ ∧
      c₁.state = .closed ∧ exec (step sessionJson) c₁ [.transport] = .ok t ∧
      t.state = .connected := by
  refine ⟨_, _, _, rfl, ?_, rfl, rfl, rfl, rfl⟩
  decide

end RoomClient
end MediasoupSdk
