import Mathlib.Logic.Function.Basic
import Mathlib.Tactic

/-! One party keeps things in slots, each with an id and a flag. Another is told what is opened,
closed and flagged, by id alone. -/
namespace Foundation

variable {Slot Id F : Type*}

inductive Command (Id F : Type*) where
  | opened (id : Id) (flag : F)
  | closed (id : Id)
  | flagged (id : Id) (flag : F)
  deriving DecidableEq

/-- The things that are open, with their flags. -/
abbrev Directory (Id F : Type*) := Id → Option F

namespace Directory

variable [DecidableEq Id]

/-- A thing is opened once, and only what is open is closed or flagged; else the command is
refused. -/
def follow (d : Directory Id F) : Command Id F → Option (Directory Id F)
  | .opened id flag =>
    match d id with
    | some _ => none
    | none => some (Function.update d id (some flag))
  | .closed id => (d id).map fun _ => Function.update d id none
  | .flagged id flag => (d id).map fun _ => Function.update d id (some flag)

def followAll (d : Directory Id F) (commands : List (Command Id F)) : Option (Directory Id F) :=
  commands.foldlM follow d

@[simp] theorem followAll_nil (d : Directory Id F) : d.followAll [] = some d := rfl

@[simp] theorem followAll_singleton (d : Directory Id F) (c : Command Id F) :
    d.followAll [c] = d.follow c := by
  cases h : d.follow c <;> simp [followAll, h]

end Directory

/-- At most one slot changes, and the commands say how. -/
inductive Moves [DecidableEq Slot] (slots : Slot → Option (Id × F)) :
    List (Command Id F) → (Slot → Option (Id × F)) → Prop
  | stay : Moves slots [] slots
  | put {slot : Slot} {id : Id} {flag : F} (hempty : slots slot = none) :
      Moves slots [.opened id flag] (Function.update slots slot (some (id, flag)))
  | drop {slot : Slot} {id : Id} {flag : F} (hslot : slots slot = some (id, flag)) :
      Moves slots [.closed id] (Function.update slots slot none)
  | set {slot : Slot} {id : Id} {flag flag' : F} (hslot : slots slot = some (id, flag)) :
      Moves slots [.flagged id flag'] (Function.update slots slot (some (id, flag')))

/-- A slot gets what it holds already. -/
theorem Moves.same [DecidableEq Slot] {slots : Slot → Option (Id × F)} {slot : Slot}
    {v : Option (Id × F)} (h : slots slot = v) : Moves slots [] (Function.update slots slot v) := by
  rw [← h, Function.update_eq_self]
  exact .stay

/-- What is open is what the slots hold, each in one slot. -/
structure Mirrors (slots : Slot → Option (Id × F)) (d : Directory Id F) : Prop where
  entry : ∀ id flag, d id = some flag ↔ ∃ slot, slots slot = some (id, flag)
  apart : ∀ slot slot' id flag flag',
    slots slot = some (id, flag) → slots slot' = some (id, flag') → slot = slot'

namespace Mirrors

variable {slots : Slot → Option (Id × F)} {d : Directory Id F} {slot : Slot} {id : Id}
  {flag flag' : F}

theorem nothing : Mirrors (fun _ : Slot => none) (fun _ : Id => (none : Option F)) := by
  constructor
  · simp
  · nofun

/-- What the slot holds is told apart from the rest by its id. -/
theorem alone (h : Mirrors slots d) (hslot : slots slot = some (id, flag)) :
    (∀ id' flag', slots slot = some (id', flag') → id' = id) ∧
      ∀ slot' flag', slots slot' = some (id, flag') → slot' = slot := by
  constructor
  · intro id' flag' heq
    rw [hslot, Option.some.injEq, Prod.mk.injEq] at heq
    exact heq.1.symm
  · exact fun slot' flag' heq => h.apart _ _ _ _ _ heq hslot

variable [DecidableEq Id] [DecidableEq Slot]

/-- A slot that may hold one thing, which no other slot holds, gets this thing or nothing. -/
theorem update (h : Mirrors slots d) (v : Option F)
    (hself : ∀ id' flag, slots slot = some (id', flag) → id' = id)
    (hother : ∀ slot' flag, slots slot' = some (id, flag) → slot' = slot) :
    Mirrors (Function.update slots slot (v.map (id, ·))) (Function.update d id v) := by
  have hnew {slot' : Slot} {id' : Id} {flag' : F} :
      Function.update slots slot (v.map (id, ·)) slot' = some (id', flag') ↔
        (slot' = slot ∧ id' = id ∧ v = some flag') ∨
          (slot' ≠ slot ∧ id' ≠ id ∧ slots slot' = some (id', flag')) := by
    by_cases hslot : slot' = slot
    · subst hslot
      rw [Function.update_self, Option.map_eq_some_iff]
      constructor
      · rintro ⟨flag, rfl, heq⟩
        obtain ⟨rfl, rfl⟩ := Prod.mk.inj heq
        exact Or.inl ⟨rfl, rfl, rfl⟩
      · rintro (⟨-, rfl, rfl⟩ | ⟨hne, -⟩)
        · exact ⟨flag', rfl, rfl⟩
        · exact absurd rfl hne
    · rw [Function.update_of_ne hslot]
      constructor
      · intro heq
        refine Or.inr ⟨hslot, ?_, heq⟩
        rintro rfl
        exact hslot (hother slot' flag' heq)
      · rintro (⟨heq, -⟩ | ⟨-, -, heq⟩)
        · exact absurd heq hslot
        · exact heq
  constructor
  · intro id' flag'
    simp only [hnew]
    by_cases hid : id' = id
    · subst hid
      rw [Function.update_self]
      constructor
      · exact fun hv => ⟨slot, Or.inl ⟨rfl, rfl, hv⟩⟩
      · rintro ⟨slot', ⟨-, -, hv⟩ | ⟨-, hne, -⟩⟩
        · exact hv
        · exact absurd rfl hne
    · rw [Function.update_of_ne hid, h.entry]
      constructor
      · rintro ⟨slot', heq⟩
        refine ⟨slot', Or.inr ⟨?_, hid, heq⟩⟩
        rintro rfl
        exact hid (hself id' flag' heq)
      · rintro ⟨slot', ⟨-, heq, -⟩ | ⟨-, -, heq⟩⟩
        · exact absurd heq hid
        · exact ⟨slot', heq⟩
  · intro slot₁ slot₂ id' flag₁ flag₂ h₁ h₂
    rw [hnew] at h₁ h₂
    rcases h₁ with ⟨rfl, rfl, -⟩ | ⟨-, hid, h₁⟩ <;> rcases h₂ with ⟨rfl, heq, -⟩ | ⟨-, hid', h₂⟩
    · rfl
    · exact absurd rfl hid'
    · exact absurd heq hid
    · exact h.apart _ _ _ _ _ h₁ h₂

/-- An empty slot is filled with a thing that is not open yet. -/
theorem put (h : Mirrors slots d) (hempty : slots slot = none) (hfresh : d id = none) :
    ∃ d', d.follow (.opened id flag) = some d' ∧
      Mirrors (Function.update slots slot (some (id, flag))) d' := by
  refine ⟨Function.update d id (some flag), by rw [Directory.follow, hfresh],
    h.update (some flag) ?_ ?_⟩
  · intro id' flag' heq
    rw [hempty] at heq
    cases heq
  · intro slot' flag' heq
    rw [(h.entry id flag').mpr ⟨slot', heq⟩] at hfresh
    cases hfresh

/-- A thing is closed and its slot emptied. -/
theorem drop (h : Mirrors slots d) (hslot : slots slot = some (id, flag)) :
    ∃ d', d.follow (.closed id) = some d' ∧ Mirrors (Function.update slots slot none) d' := by
  refine ⟨Function.update d id none, ?_, h.update none (h.alone hslot).1 (h.alone hslot).2⟩
  rw [Directory.follow, (h.entry id flag).mpr ⟨slot, hslot⟩, Option.map_some]

/-- The thing of a slot gets another flag. -/
theorem set (h : Mirrors slots d) (hslot : slots slot = some (id, flag)) :
    ∃ d', d.follow (.flagged id flag') = some d' ∧
      Mirrors (Function.update slots slot (some (id, flag'))) d' := by
  refine ⟨Function.update d id (some flag'), ?_,
    h.update (some flag') (h.alone hslot).1 (h.alone hslot).2⟩
  rw [Directory.follow, (h.entry id flag).mpr ⟨slot, hslot⟩, Option.map_some]

/-- The commands of a move are all taken, if what they open is not open yet. -/
theorem moves {slots' : Slot → Option (Id × F)} {commands : List (Command Id F)}
    (h : Mirrors slots d) (hmoves : Moves slots commands slots')
    (hfresh : ∀ id flag, .opened id flag ∈ commands → d id = none) :
    ∃ d', d.followAll commands = some d' ∧ Mirrors slots' d' := by
  cases hmoves with
  | stay => exact ⟨d, Directory.followAll_nil d, h⟩
  | put hempty =>
    rw [Directory.followAll_singleton]
    exact h.put hempty (hfresh _ _ (List.mem_singleton_self _))
  | drop hslot =>
    rw [Directory.followAll_singleton]
    exact h.drop hslot
  | set hslot =>
    rw [Directory.followAll_singleton]
    exact h.set hslot

end Mirrors
end Foundation
