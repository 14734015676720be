import MediasoupSdk.Room.Changes

/-! A call of `join` that starts no session. The arguments are checked and assigned one by one, so
a check that fails leaves the earlier arguments assigned. -/
namespace MediasoupSdk
open Foundation Signaling
namespace RoomClient

variable {c c' : RoomClient} {hostname roomId displayName peerId : String} {port : ℕ}
  {options : Option Options} {o : Oracle}

/-- What the call assigns before it returns is what the client already holds. -/
def HoldsAssigned (c : RoomClient) (hostname : String) (port : ℕ) (roomId displayName : String)
    (options : Option Options) (o : Oracle) : Prop :=
  c.state ≠ .closed ∨ hostname.isEmpty ∨
    (c.hostname = hostname ∧ c.port = some port) ∧
      (roomId.isEmpty ∨ c.roomId = roomId ∧
        (displayName.isEmpty ∨
          c.displayName = displayName ∧ c.options = options.getD {} ∧ c.peerId = o.peerId))

/-- The state, the connection and the observers are left alone in any case. -/
theorem join_refused (hn : ¬ c.Accepts hostname roomId displayName)
    (h : c.join hostname port roomId displayName options o = .ok c') :
    c'.state = c.state ∧ c'.signalingClient = c.signalingClient ∧ c'.notified = c.notified := by
  rcases join_ok h with ⟨-, _, _, _, _, _, _, rfl⟩ | ⟨ha, -⟩
  · exact ⟨rfl, rfl, rfl⟩
  · exact absurd ha hn

/-- An assignment is without effect exactly if each member is the one that is held. -/
theorem assigned_eq_iff {options : Options} {port : Option ℕ} :
    { c with hostname, port, roomId, displayName, options, peerId } = c ↔
      (c.hostname = hostname ∧ c.port = port) ∧ c.roomId = roomId ∧
        c.displayName = displayName ∧ c.options = options ∧ c.peerId = peerId := by
  constructor
  · intro h
    rw [← h]
    simp
  · rintro ⟨⟨rfl, rfl⟩, rfl, rfl, rfl, rfl⟩
    rfl

/-- The exits of the call, each with the assignments before it. -/
theorem join_eq_self_iff (hn : ¬ c.Accepts hostname roomId displayName) :
    c.join hostname port roomId displayName options o = .ok c ↔
      c.HoldsAssigned hostname port roomId displayName options o := by
  unfold HoldsAssigned
  by_cases hs : c.state = .closed
  · cases hh : hostname.isEmpty with
    | true => simp [join, hs, hh]
    | false =>
      cases hr : roomId.isEmpty with
      | true =>
        have hexit : c.join hostname port roomId displayName options o =
            .ok { c with hostname, port := some port } := by simp [join, hs, hh, hr]
        rw [hexit, Except.ok.injEq, @assigned_eq_iff c]
        simp [hs]
      | false =>
        cases hd : displayName.isEmpty with
        | true =>
          have hexit : c.join hostname port roomId displayName options o =
              .ok { c with hostname, port := some port, roomId } := by simp [join, hs, hh, hr, hd]
          rw [hexit, Except.ok.injEq, @assigned_eq_iff c]
          simp [hs]
        | false =>
          have hsc : c.signalingClient = none := by
            by_contra hsc
            exact hn ⟨hs, hh, hr, hd, Option.isSome_iff_ne_none.mpr hsc⟩
          have hexit : c.join hostname port roomId displayName options o =
              .ok { c with hostname, port := some port, roomId, displayName
                           options := options.getD {}, peerId := o.peerId } := by
            simp [join, hs, hh, hr, hd, hsc]
          rw [hexit, Except.ok.injEq, @assigned_eq_iff c]
          simp [hs]
  · simp [join, hs]

/-- During a session the call does nothing. -/
theorem join_ongoing (hs : c.state ≠ .closed) :
    c.join hostname port roomId displayName options o = .ok c :=
  (join_eq_self_iff fun ha => hs ha.1).mpr (Or.inl hs)

/-- A call of `join` that starts no session leaves the client as it was exactly if it assigns
nothing new before the check that fails. -/
theorem refused_join_iff (c : RoomClient) (hostname : String) (port : ℕ)
    (roomId displayName : String) (options : Option Options) (o : Oracle) :
    (¬ c.Accepts hostname roomId displayName →
        c.join hostname port roomId displayName options o = .ok c) ↔
      (¬ c.Accepts hostname roomId displayName →
        c.HoldsAssigned hostname port roomId displayName options o) :=
  forall_congr' join_eq_self_iff

/-- Without a room id the new host stays, and without a display name the new room. -/
theorem refused_join_assigns :
    (¬ initial.Accepts "sfu" "" "alice" ∧ ∃ t, initial.join "sfu" 4443 "" "alice" none
        firstRequest = .ok t ∧ t.hostname ≠ initial.hostname) ∧
      ¬ initial.Accepts "sfu" "room" "" ∧ ∃ t, initial.join "sfu" 4443 "room" "" none
        firstRequest = .ok t ∧ t.roomId ≠ initial.roomId := by
  refine ⟨⟨by decide, _, rfl, by decide⟩, by decide, _, rfl, by decide⟩

end RoomClient
end MediasoupSdk
