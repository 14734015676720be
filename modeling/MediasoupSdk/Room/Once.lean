import MediasoupSdk.Room.Negotiation

/-! No request of the negotiation is answered twice. Each waits under a single key of the table, and
a response takes it out of there. -/
namespace MediasoupSdk
open Foundation Signaling
namespace RoomClient

variable {J : JsonText} {o : Oracle} {c c' : RoomClient}

theorem waiting_of_stageAt {k : ℤ} {s : Stage} {sc : Option (SignalingClient Callback)}
    (h : stageAt k sc = some s) : ∃ callback ∈ waiting sc, Stage.ofCallback callback = some s := by
  simp only [stageAt, Option.bind_eq_some_iff] at h
  obtain ⟨client, rfl, r, hlookup, callback, hresolve, hs⟩ := h
  exact ⟨callback, ⟨client, k, r, rfl, hlookup, Or.inl hresolve⟩, hs⟩

theorem schedule_nodup (options : Options) : (schedule options).Nodup := by
  unfold schedule
  split_ifs <;> decide

namespace Negotiation

variable {options : Options} {n n' : Negotiation}

/-- An answer belongs to the request that waits for it. -/
theorem answers_cases (c : RoomClient) :
    answers J c = [] ∨ ∃ seq json rest sc callback s,
      c.transportTasks = .handleResponse seq json :: rest ∧ c.signalingClient = some sc ∧
      callback ∈ waiting c.signalingClient ∧
      (sc.handleResponse J.rapidjson json).2 = [.resolved callback json] ∧
      Stage.ofCallback callback = some s ∧ answers J c = [s] := by
  unfold answers
  split
  · next seq json rest sc ht hsc =>
    rcases handleResponse_calls J.rapidjson json sc with hcalls | ⟨callback, hwaits, hcalls⟩
    · exact Or.inl (by rw [hcalls, List.filterMap_nil])
    · rw [hcalls]
      cases hs : Stage.ofCallback callback with
      | none => exact Or.inl (by simp [hs])
      | some s =>
        refine Or.inr ⟨seq, json, rest, sc, callback, s, ht, hsc, ?_, hcalls, hs, by simp [hs]⟩
        rw [hsc]
        exact hwaits
  · exact Or.inl rfl

/-- The session goes on: the socket opens once and is neither closed nor lost, and the application
neither leaves nor destroys the client. -/
def Ongoing (n : Negotiation) : Action → Prop
  | .call .leave _ => False
  | .call .destroy _ => False
  | .socket .opened => n.opened = false
  | .socket .closed => False
  | .socket .failed => False
  | _ => True

instance (n : Negotiation) (a : Action) : Decidable (Ongoing n a) := by
  cases a with
  | call call => cases call <;> dsimp only [Ongoing] <;> infer_instance
  | socket e => cases e <;> dsimp only [Ongoing] <;> infer_instance
  | _ => dsimp only [Ongoing]; infer_instance

/-- A request waits under one key, and not any more once it is answered. -/
structure Once (n : Negotiation) : Prop where
  unique : ∀ k k' s, stageAt k n.client.signalingClient = some s →
    stageAt k' n.client.signalingClient = some s → k = k'
  answered : ∀ s, .answered s ∈ n.trace → ∀ k, stageAt k n.client.signalingClient ≠ some s

theorem Once.inSession {a : Action} (h : Once n) (ha : Ongoing n a) : InSession J n a := by
  cases a with
  | transport =>
    intro s hs hanswered
    rcases answers_cases (J := J) n.client with hnone | ⟨seq, json, rest, sc, callback, s', -, hsc,
      -, hcalls, hstage, hanswers⟩
    · rw [hnone] at hs
      cases hs
    · rw [hanswers, List.mem_singleton] at hs
      subst hs
      obtain ⟨k, -, hk⟩ := handleResponse_waited hcalls hstage
      rw [← hsc] at hk
      exact h.answered s hanswered k hk
  | call a o => cases a <;> exact ha
  | socket e => cases e <;> exact ha
  | listener l o => trivial
  | mediasoup o => trivial

/-- Nothing new waits, and no answer came in. -/
theorem Once.silent {opened : Bool} {trace : List (Foundation.Exchange Stage)} (h : Once n)
    (hsilent : Silent n.client.signalingClient c'.signalingClient)
    (htrace : ∀ s, .answered s ∈ trace → .answered s ∈ n.trace) : Once ⟨c', opened, trace⟩ where
  unique k k' s hk hk' := h.unique k k' s (hsilent k s hk) (hsilent k' s hk')
  answered s hs k hk := h.answered s (htrace s hs) k (hsilent k s hk)

/-- A response takes the one request out that it answers. -/
theorem Once.transport_step (h : Once n) (hs : n.client.step J .transport = .ok c') :
    Once { n with client := c', trace := n.trace ++ (answers J n.client).map .answered } := by
  have hsilent : Silent n.client.signalingClient c'.signalingClient := step_sendsOnly hs
  rcases answers_cases (J := J) n.client with hnone | ⟨seq, json, rest, sc, callback, s, ht, hsc,
    -, hcalls, hstage, hanswers⟩
  · rw [hnone]
    apply h.silent hsilent
    simp
  · refine ⟨fun k k' s hk hk' => h.unique k k' s (hsilent k s hk) (hsilent k' s hk'), ?_⟩
    intro s' hs' k hk
    rw [hanswers, List.map_singleton, List.mem_append, List.mem_singleton] at hs'
    rcases hs' with hold | hnew
    · exact h.answered s' hold k (hsilent k s' hk)
    · cases hnew
      -- the only key of the request is the one of the response
      obtain ⟨key, hkey, hwaited⟩ := handleResponse_waited hcalls hstage
      rw [← hsc] at hwaited
      have hsame : k = key := h.unique k key s (hsilent k s hk) hwaited
      have htable : c'.signalingClient = some (sc.handleResponse J.rapidjson json).1 := by
        simp only [RoomClient.step, ht, runTransport, hsc] at hs
        exact handleResponse_table hs
      change stageAt k c'.signalingClient = some s at hk
      rw [htable, hsame, handleResponse_takes hkey] at hk
      cases hk

/-- The request that is made is a new one, and it waits under its id. -/
theorem Once.mediasoup_step (h : Once n) (hi : Inv options n)
    (hs : n.client.step J (.mediasoup o) = .ok c') :
    Once { n with
      client := c', trace := n.trace ++ (issues J o n.client).toList.map .issued } := by
  have htrace : ∀ s, .answered s ∈ n.trace ++ (issues J o n.client).toList.map .issued →
      .answered s ∈ n.trace := by
    intro s hmem
    simpa using hmem
  have hsends := step_sendsOnly hs
  unfold SendsOnly at hsends
  cases hr : requestMade J n.client (.mediasoup o) with
  | none =>
    rw [hr] at hsends
    exact h.silent hsends htrace
  | some r =>
    rw [hr] at hsends
    obtain ⟨o', d, -, hd, hrequest⟩ := hsends
    have hadds : ∀ k s, stageAt k c'.signalingClient = some s →
        stageAt k n.client.signalingClient = some s ∨
          k = (o'.requestId 0).val ∧ Stage.ofRequest r = some s := by
      intro k s hk
      have hk := request_adds hrequest hk
      rwa [hd, ofCallback_callbackOf] at hk
    have hissues : issues J o n.client = Stage.ofRequest r := by simp [issues, hr]
    have hfresh : ∀ s, Stage.ofRequest r = some s →
        (∀ k, stageAt k n.client.signalingClient ≠ some s) ∧ .answered s ∉ n.trace := by
      intro s hstage
      have hprogress := (hi.mediasoup_step hs).progress
      rw [hissues, hstage, Option.toList_some, List.map_singleton] at hprogress
      obtain ⟨hissued, hanswered⟩ := hprogress.fresh (schedule_nodup options)
      refine ⟨fun k hk => ?_, hanswered⟩
      obtain ⟨callback, hwaits, hcallback⟩ := waiting_of_stageAt hk
      exact hissued (hi.waits callback hwaits s hcallback)
    refine ⟨fun k k' s hk hk' => ?_, fun s hmem k hk => ?_⟩
    · rcases hadds k s hk with hold | ⟨hkey, hstage⟩
      · rcases hadds k' s hk' with hold' | ⟨-, hstage⟩
        · exact h.unique k k' s hold hold'
        · exact absurd hold ((hfresh s hstage).1 k)
      · rcases hadds k' s hk' with hold' | ⟨hkey', -⟩
        · exact absurd hold' ((hfresh s hstage).1 k')
        · exact hkey.trans hkey'.symm
    · have hmem := htrace s hmem
      rcases hadds k s hk with hold | ⟨-, hstage⟩
      · exact h.answered s hmem k hold
      · exact (hfresh s hstage).2 hmem

theorem Once.step {a : Action} (h : Once n) (hi : Inv options n) (hs : n.step J a = .ok n') :
    Once n' := by
  simp only [Negotiation.step, bind_ok, pure, Except.pure, Except.ok.injEq] at hs
  obtain ⟨client, hclient, rfl⟩ := hs
  cases a with
  | transport =>
    have hdone := h.transport_step hclient
    exact ⟨hdone.unique, hdone.answered⟩
  | mediasoup o =>
    have hdone := h.mediasoup_step hi hclient
    exact ⟨hdone.unique, hdone.answered⟩
  | call _ _ | socket _ | listener _ _ =>
    have hsilent : Silent n.client.signalingClient client.signalingClient := step_sendsOnly hclient
    exact h.silent hsilent (by simp [events])

/-- When nothing of a negotiation is left, an accepted join begins without requests. -/
theorem Quiet.once {hostname : String} {port : ℕ} {roomId displayName : String}
    {options : Option Options} (h : Quiet c)
    (hs : c.step J (.call (.join hostname port roomId displayName options) o) = .ok c') :
    Once { client := c' } := by
  have hsilent : Silent c.signalingClient c'.signalingClient := step_sendsOnly hs
  have hnone : ∀ k s, stageAt k c'.signalingClient ≠ some s := by
    intro k s hk
    obtain ⟨callback, hwaits, hcallback⟩ := waiting_of_stageAt (hsilent k s hk)
    rw [h.waiting callback hwaits] at hcallback
    cases hcallback
  exact ⟨fun k _ s hk => absurd hk (hnone k s), fun _ hmem => absurd hmem List.not_mem_nil⟩

/-- A session that goes on invokes no callback a second time. -/
theorem guarded_inSession {hostname : String} {port : ℕ} {roomId displayName : String}
    {options : Option Options} {c₀ : RoomClient} (hquiet : Quiet c₀)
    (haccepts : c₀.Accepts hostname roomId displayName)
    (hjoin : c₀.step J (.call (.join hostname port roomId displayName options) o) = .ok c)
    {ok : Negotiation → Action → Prop} (hok : ∀ n a, ok n a → Ongoing n a) {run : List Action}
    (hrun : Guarded (step J) ok { client := c } run) :
    Guarded (step J) (fun n a => InSession J n a ∧ ok n a) { client := c } run := by
  refine (guarded_congr (I := fun n => Inv (options.getD {}) n ∧ Once n) ?_ ?_ ?_).mp hrun
  · intro n n' a _ hi ha hs
    have hsession := hi.2.inSession (J := J) (hok n a ha)
    exact ⟨hi.1.step hsession hs, hi.2.step hi.1 hs⟩
  · intro n a _ hi
    exact ⟨fun ha => ⟨hi.2.inSession (hok n a ha), ha⟩, And.right⟩
  · exact ⟨hquiet.start haccepts hjoin, hquiet.once hjoin⟩

end Negotiation
end RoomClient
end MediasoupSdk
