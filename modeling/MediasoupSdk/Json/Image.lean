import MediasoupSdk.Json.RoundTrip
import MediasoupSdk.Json.Spelling

/-! The values that the decoder makes: their strings are cut, their unmapped members are as the
constructor left them, and what the constructor engaged is engaged. Writing such a value loses
nothing. -/
namespace MediasoupSdk

open Foundation

theorem forall_mem_of_decoded {α : Type} {P : α → Prop} {read : Json → α → Prop}
    (h : ∀ j v, read j v → P v) {items : List Json} {vs : List α}
    (hread : List.Forall₂ read items vs) : ∀ v ∈ vs, P v :=
  forall_mem_of_forall₂ hread (fun _ _ => trivial) fun j v hv (_ : True) => h j v hv

theorem forall_mem_of_assigned {α : Type} {P : α → Prop} {read : String → Json → α → Prop}
    (h : ∀ k j v, read k j v → P v) {members : List (String × Json)} {m : OrderedMap String α}
    (hm : Assigned read members m) : ∀ e ∈ m.entries, P e.2 := by
  obtain ⟨entries, hread, rfl⟩ := hm
  have hentries : ∀ e ∈ entries, P e.2 :=
    forall_mem_of_forall₂ hread (fun _ _ => trivial) fun e e' he (_ : True) => h _ _ _ he.2
  -- The map is built from the left, so what is assigned so far is generalised.
  have hfold : ∀ m : OrderedMap String α, (∀ e ∈ m.entries, P e.2) →
      ∀ e ∈ (entries.foldl (fun m e => m.assign e.1 e.2) m).entries, P e.2 := by
    clear hread
    induction entries with
    | nil => exact fun m hm => hm
    | cons entry rest ih =>
      intro m hm
      obtain ⟨hentry, hrest⟩ := List.forall_mem_cons.mp hentries
      refine ih hrest (m.assign entry.1 entry.2) fun e he => ?_
      rcases mem_assignEntries he with rfl | he
      · exact hentry
      · exact hm e he
  exact hfold .empty nofun

theorem nul_notMem_cStr (s : String) : '\x00' ∉ (cStr s).toList := by
  rw [cStr, String.toList_ofList]
  intro h
  have hne := List.mem_takeWhile_imp h
  simp at hne

theorem Native.nulFree_of_decodes {t : Native} {j : Json} {v : t.Val} (h : t.Decodes j v) :
    t.NulFree v := by
  induction t generalizing j with
  | bool => trivial
  | int => trivial
  | int64 => trivial
  | float => trivial
  | double => trivial
  | string =>
    cases j with
    | string s =>
      cases h
      exact nul_notMem_cStr s
    | _ => cases h
  | vector t ih =>
    cases j with
    | array items =>
      have hitems : List.Forall₂ t.Decodes items v := h
      exact forall_mem_of_decoded (fun _ _ hv => ih hv) hitems
    | _ => cases h
  | map t ih =>
    cases j with
    | object members =>
      have hmembers : Assigned (fun _ => t.Decodes) members v := h
      exact forall_mem_of_assigned (fun _ _ _ hv => ih hv) hmembers
    | _ => cases h

theorem Fields.nulFree_fresh : (fields : Fields) → fields.NulFree fields.fresh
  | .nil => trivial
  | .field _ _ rest => ⟨nofun, nulFree_fresh rest⟩
  | .unmapped _ rest => nulFree_fresh rest

theorem Fields.lossless_fresh : (fields : Fields) → fields.Lossless fields.fresh
  | .nil => trivial
  | .field _ _ rest => ⟨nofun, lossless_fresh rest⟩
  | .unmapped _ rest => ⟨rfl, lossless_fresh rest⟩

mutual

theorem FieldType.image_of_decodes : (t : FieldType) → (j : Json) → (v : t.Val) → t.Decodes j v →
    t.NulFree v ∧ t.Lossless v
  | .native t, _, _, h => ⟨Native.nulFree_of_decodes h, trivial⟩
  | .model fields, .object _, _, h =>
    Fields.image_of_reads fields (Fields.nulFree_fresh fields) (Fields.lossless_fresh fields) h
  | .vector fields, .array _, _, h => by
    have hall := forall_mem_of_decoded (P := fun v => fields.NulFree v ∧ fields.Lossless v)
      (fun j v hv => by
        obtain ⟨members, -, hreads⟩ := hv
        exact Fields.image_of_reads fields (Fields.nulFree_fresh fields)
          (Fields.lossless_fresh fields) hreads) h
    exact ⟨fun v hv => (hall v hv).1, fun v hv => (hall v hv).2⟩
  | .map fields, .object members, m, h => by
    have hmembers : Assigned
        (fun _ j v => ∃ inner, j = .object inner ∧ fields.Reads fields.fresh inner v)
        members m := h
    have hall := forall_mem_of_assigned (P := fun v => fields.NulFree v ∧ fields.Lossless v)
      (fun k j v hv => by
        obtain ⟨members, -, hreads⟩ := hv
        exact Fields.image_of_reads fields (Fields.nulFree_fresh fields)
          (Fields.lossless_fresh fields) hreads) hmembers
    exact ⟨fun e he => (hall e he).1, fun e he => (hall e he).2⟩

/-- A field is decoded, or it keeps what the constructor gave it. -/
theorem Fields.image_of_reads : (fields : Fields) → {initial value : fields.Val} →
    {members : List (String × Json)} → fields.NulFree initial → fields.Lossless initial →
    fields.Reads initial members value → fields.NulFree value ∧ fields.Lossless value
  | .nil, _, _, _, _, _, _ => ⟨trivial, trivial⟩
  | .unmapped _ rest, _, _, _, hnul, hlossless, h => by
    have ih := Fields.image_of_reads rest hnul hlossless.2 h.2
    exact ⟨ih.1, h.1.trans hlossless.1, ih.2⟩
  | .field key t rest, initial, value, members, hnul, hlossless, h => by
    rcases Fields.member_cases members key with hskip | ⟨j, hj, hnull⟩
    · obtain ⟨hvalue, hrest⟩ := (Fields.reads_field_skip hskip).mp h
      have ih := Fields.image_of_reads rest hnul.2 hlossless.2 hrest
      refine ⟨⟨?_, ih.1⟩, ?_, ih.2⟩
      · rw [hvalue]
        exact hnul.1
      · rw [hvalue]
        exact hlossless.1
    · obtain ⟨⟨v, hvalue, hv⟩, hrest⟩ := (Fields.reads_field_read hj hnull).mp h
      have ih := Fields.image_of_reads rest hnul.2 hlossless.2 hrest
      have iht := FieldType.image_of_decodes t j v hv
      refine ⟨⟨?_, ih.1⟩, ?_, ih.2⟩
      · intro v' hv'
        rw [hvalue] at hv'
        cases hv'
        exact iht.1
      · intro v' hv'
        rw [hvalue] at hv'
        cases hv'
        exact iht.2

end

theorem Fields.defaultsEngaged_of_reads : (fields : Fields) → {initial value : fields.Val} →
    {members : List (String × Json)} → fields.Reads initial members value →
    fields.DefaultsEngaged initial value
  | .nil, _, _, _, _ => trivial
  | .unmapped _ rest, _, _, _, h =>
    ⟨fun hsome => h.1 ▸ hsome, defaultsEngaged_of_reads rest h.2⟩
  | .field key _ rest, _, _, members, h => by
    rcases Fields.member_cases members key with hskip | ⟨j, hj, hnull⟩
    · obtain ⟨hvalue, hrest⟩ := (Fields.reads_field_skip hskip).mp h
      exact ⟨fun hsome => hvalue ▸ hsome, defaultsEngaged_of_reads rest hrest⟩
    · obtain ⟨⟨v, hvalue, -⟩, hrest⟩ := (Fields.reads_field_read hj hnull).mp h
      exact ⟨fun _ => hvalue ▸ rfl, defaultsEngaged_of_reads rest hrest⟩

/-- What is decoded, and that its own document is a normal form of what it was decoded from. -/
theorem Fields.decoded_iff {fields : Fields} (hmaps : fields.mapped ≠ [])
    (hpopulated : fields.Populated) (hdistinct : fields.Distinct) {initial : fields.Val}
    (hhidden : fields.NoHiddenDefault initial) (hnul : fields.NulFree initial)
    (hlossless : fields.Lossless initial) (v : fields.Val) :
    ((∃ j, fields.jdeserialize initial j = .ok v) ↔
        fields.NulFree v ∧ fields.Lossless v ∧ fields.DefaultsEngaged initial v) ∧
      ((∃ j, fields.jdeserialize initial j = .ok v) ↔
        fields.jdeserialize initial (fields.jserialize v) = .ok v) := by
  have himage : (∃ j, fields.jdeserialize initial j = .ok v) →
      fields.NulFree v ∧ fields.Lossless v ∧ fields.DefaultsEngaged initial v := by
    rintro ⟨j, hj⟩
    obtain ⟨members, rfl⟩ := Fields.exists_object_of_ok fields hmaps hj
    have hreads := (Fields.jdeserialize_ok fields hpopulated initial members v).mp hj
    obtain ⟨hnul, hlossless⟩ := Fields.image_of_reads fields hnul hlossless hreads
    exact ⟨hnul, hlossless, Fields.defaultsEngaged_of_reads fields hreads⟩
  have hback : fields.NulFree v ∧ fields.Lossless v ∧ fields.DefaultsEngaged initial v →
      fields.jdeserialize initial (fields.jserialize v) = .ok v := by
    rintro ⟨hnul, hlossless, hengaged⟩
    exact (Fields.jdeserialize_jserialize_iff hdistinct hhidden hengaged hnul).mpr hlossless
  exact ⟨⟨himage, fun h => ⟨_, hback h⟩⟩, fun h => hback (himage h), fun h => ⟨_, h⟩⟩

end MediasoupSdk
