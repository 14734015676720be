import Mathlib.Data.List.GetD
import MediasoupSdk.Foundation.AnnexB
import MediasoupSdk.Foundation.Loop

/-! `H264Reader`: the pusher reads a file of H.264 units over and over and hands on its slices. A
unit ends where the next start code has been read. -/
namespace MediasoupSdk
open Foundation

/-- `m_sps` and `m_pps`, with their start codes. -/
structure ParameterSets where
  sps : List UInt8 := []
  pps : List UInt8 := []
  deriving DecidableEq, Repr

structure H264Reader where
  file : List UInt8
  pos : ℕ := 0
  sets : ParameterSets := {}
  deriving DecidableEq

/-- `MAX_BUFFER_SIZE`. -/
def maxBufferSize : ℕ := 1024 * 1024

theorem maxBufferSize_pos : 0 < maxBufferSize := by decide

/-- The type of a unit, in its first byte. -/
def nalType (unit : List UInt8) : ℕ := (unit.headD 0 &&& 0x1F).toNat

/-- What the switch does with a unit and the code that has ended it: keep a parameter set, or hand
on a slice. -/
def ParameterSets.receive (sets : ParameterSets) (item : StartCode × List UInt8) :
    ParameterSets × Option (List UInt8) :=
  let bytes := item.1.bytes ++ item.2
  match nalType item.2 with
  | 1 => (sets, some bytes)
  | 5 => (sets, some (sets.sps ++ sets.pps ++ bytes))
  | 7 => ({ sets with sps := bytes }, none)
  | 8 => ({ sets with pps := bytes }, none)
  | _ => (sets, none)

namespace H264Reader

/-- The reader with the bytes of `m_buf` before `index`. -/
structure ReadState where
  reader : H264Reader
  buf : List UInt8 := []

/-- A unit has ended: the loop stops when it is a slice. -/
def finish (code : StartCode) (unit : List UInt8) (r : H264Reader) :
    ReadState ⊕ (H264Reader × Option (List UInt8)) :=
  match r.sets.receive (code, unit) with
  | (sets, some data) => .inr ({ r with sets }, some data)
  | (sets, none) => .inl { reader := { r with sets } }

/-- One round of the loop of `ReadOneNalu`; at the end of the file it goes back to the start. -/
def readByte (s : ReadState) : ReadState ⊕ (H264Reader × Option (List UInt8)) :=
  match s.reader.file[s.reader.pos]? with
  | none => .inl { s with reader := { s.reader with pos := 0 } }
  | some ch =>
    let reader := { s.reader with pos := s.reader.pos + 1 }
    let index := s.buf.length
    let buf := s.buf ++ [ch]
    if maxBufferSize - 1 ≤ index then .inr (reader, none)
    else if 3 < index ∧ StartCode.four.bytes <:+ buf then
      finish .four (buf.take (index - 3)) reader
    else if 3 < index ∧ StartCode.three.bytes <:+ buf then
      finish .three (buf.take (index - 2)) reader
    else .inl { reader, buf }

def readOneNalu (fuel : ℕ) (r : H264Reader) : Option (H264Reader × Option (List UInt8)) :=
  loop readByte fuel { reader := r }

/-- What so many calls of `ReadOneNalu` hand on. -/
def runLoop (fuel : ℕ) : ℕ → H264Reader → Option (H264Reader × List (List UInt8))
  | 0, r => some (r, [])
  | calls + 1, r => do
    let (r, data) ← r.readOneNalu fuel
    let (r, frames) ← runLoop fuel calls r
    return (r, data.toList ++ frames)

/-- A unit as the reader takes it from its buffer: behind its second byte no start code begins. -/
structure IsUnit (type : ℕ) (code : StartCode) (unit : List UInt8) : Prop where
  type : nalType unit = type
  nonempty : unit ≠ []
  fits : unit.length + code.bytes.length < maxBufferSize
  noCode : ¬ StartCode.three.bytes <:+: unit.drop 2

/-- A parameter set that has been read, or none. -/
def Kept (type : ℕ) (bytes : List UInt8) : Prop :=
  bytes = [] ∨ ∃ code unit, IsUnit type code unit ∧ bytes = code.bytes ++ unit

/-- The frames that the callback may get. -/
inductive IsFrame : List UInt8 → Prop
  | slice {code unit} (h : IsUnit 1 code unit) : IsFrame (code.bytes ++ unit)
  | idr {sps pps code unit} (hsps : Kept 7 sps) (hpps : Kept 8 pps) (h : IsUnit 5 code unit) :
    IsFrame (sps ++ pps ++ (code.bytes ++ unit))

structure ReadState.Sound (s : ReadState) : Prop where
  sps : Kept 7 s.reader.sets.sps
  pps : Kept 8 s.reader.sets.pps
  fits : s.buf.length < maxBufferSize
  noCode : ¬ StartCode.three.bytes <:+: s.buf.drop 2

namespace ReadState.Sound

variable {s : ReadState} {ch : UInt8}

end ReadState.Sound

/-- What a round may lead to: a sound state, or sound parameter sets and a frame. -/
def Good : ReadState ⊕ (H264Reader × Option (List UInt8)) → Prop
  | .inl s => s.Sound
  | .inr (r, data) => Kept 7 r.sets.sps ∧ Kept 8 r.sets.pps ∧ ∀ frame ∈ data, IsFrame frame

/-- What the reader needs to take a file apart: units of two bytes or more, without a zero at the
end, that fit its buffer with the code behind them. -/
structure Readable (us : List NalUnit) : Prop where
  nonempty : us ≠ []
  plain : ∀ u ∈ us, Plain u.payload
  long : ∀ u ∈ us, 1 < u.payload.length
  fits : ∀ u ∈ us, u.payload.length + 8 < maxBufferSize

/-- The units of the file, over and over. -/
def unitAt (us : List NalUnit) (k : ℕ) : NalUnit := us.getD (k % us.length) ⟨.three, []⟩

/-- What the reader takes for the units, each with the code that ends it. The first time, the first
unit comes with its own code. -/
def item (us : List NalUnit) (k : ℕ) : StartCode × List UInt8 :=
  ((unitAt us (k + 1)).code, if k = 0 then (unitAt us 0).bytes else (unitAt us k).payload)

/-- Where the `k`-th of them begins. -/
def start (us : List NalUnit) (k : ℕ) : ℕ :=
  if k = 0 then 0
  else (annexB (us.take (k % us.length))).length + (unitAt us k).code.bytes.length

section Reading

variable {r : H264Reader} {buf before w after body : List UInt8} {code : StartCode}

theorem goes_eof (hpos : r.pos = r.file.length) :
    Goes readByte ⟨r, buf⟩ ⟨{ r with pos := 0 }, buf⟩ := by
  rw [Goes, readByte, List.getElem?_eq_none hpos.ge]

/-- A byte that completes no start code goes to the buffer. -/
theorem goes_read {ch : UInt8} (hch : r.file[r.pos]? = some ch)
    (hquiet : 4 < (buf ++ [ch]).length → ¬ StartCode.three.bytes <:+ buf ++ [ch])
    (hfits : buf.length + 1 < maxBufferSize) :
    Goes readByte ⟨r, buf⟩ ⟨{ r with pos := r.pos + 1 }, buf ++ [ch]⟩ := by
  have hthree : ¬ (3 < buf.length ∧ StartCode.three.bytes <:+ buf ++ [ch]) := by
    rintro ⟨hlong, hsuffix⟩
    refine hquiet ?_ hsuffix
    rw [List.length_append, List.length_singleton]
    omega
  have hfour : ¬ (3 < buf.length ∧ StartCode.four.bytes <:+ buf ++ [ch]) := by
    rintro ⟨hlong, hsuffix⟩
    exact hthree ⟨hlong, (List.suffix_cons 0 _).trans hsuffix⟩
  simp only [Goes, readByte, hch]
  rw [if_neg (by omega), if_neg hfour, if_neg hthree]

/-- Bytes that complete no start code go to the buffer. -/
theorem reaches_read (hfile : r.file = before ++ w ++ after) (hpos : r.pos = before.length)
    (hquiet : ∀ seen, seen <+: w → 4 < (buf ++ seen).length →
      ¬ StartCode.three.bytes <:+ buf ++ seen)
    (hfits : buf.length + w.length < maxBufferSize) :
    Reaches readByte ⟨r, buf⟩ ⟨{ r with pos := (before ++ w).length }, buf ++ w⟩ := by
  induction w generalizing before buf r with
  | nil =>
    rw [List.append_nil, List.append_nil, ← hpos]
  | cons ch w ih =>
    rw [List.length_cons] at hfits
    have hch : r.file[r.pos]? = some ch := by
      rw [hfile, hpos]
      simp
    have hgoes := goes_read hch (hquiet [ch] (List.prefix_append [ch] w)) (by omega)
    have hrest := @ih { r with pos := r.pos + 1 } (buf ++ [ch]) (before ++ [ch]) (by simp [hfile])
      (by simp [hpos]) ?_ (by rw [List.length_append, List.length_singleton]; omega)
    · rw [List.append_assoc, List.append_assoc] at hrest
      exact Relation.ReflTransGen.head hgoes hrest
    · intro seen hseen hlong
      have hquiet' := hquiet (ch :: seen) (List.cons_prefix_cons.mpr ⟨rfl, hseen⟩)
      rw [List.append_assoc] at hlong ⊢
      exact hquiet' hlong

/-- A start code ends the unit in the buffer. -/
theorem reaches_code (hbody : Scans body) (hfile : r.file = before ++ code.bytes ++ after)
    (hpos : r.pos = before.length) (hlong : 4 < body.length + code.bytes.length)
    (hfits : body.length + code.bytes.length < maxBufferSize) :
    ∃ s, Reaches readByte ⟨r, body⟩ s ∧
      readByte s = finish code body { r with pos := (before ++ code.bytes).length } := by
  have hlength : code.bytes.length = code.zeros.length + 1 := by cases code <;> rfl
  rw [hlength] at hlong hfits
  have hzeros := @reaches_read r body before code.zeros (1 :: after)
    (by rw [hfile, StartCode.bytes_eq]; simp) hpos ?_ (by omega)
  · refine ⟨_, hzeros, ?_⟩
    have hch : r.file[(before ++ code.zeros).length]? = some 1 := by
      rw [hfile, StartCode.bytes_eq]
      simp
    have hsnoc : body ++ code.zeros ++ [1] = body ++ code.bytes := by
      rw [StartCode.bytes_eq, List.append_assoc]
    have hindex : (body ++ code.zeros).length = body.length + code.zeros.length :=
      List.length_append
    have hpos' : (before ++ code.zeros).length + 1 = (before ++ code.bytes).length := by
      rw [List.length_append, List.length_append, hlength, Nat.add_assoc]
    simp only [readByte, hch, hsnoc, hindex, hpos']
    rw [if_neg (by omega)]
    cases code with
    | four =>
      rw [if_pos ⟨by omega, hbody.four_suffix_iff.mpr rfl⟩]
      congr 1
      exact List.take_left' (by simp [StartCode.zeros])
    | three =>
      have hshort : ¬ StartCode.four.bytes <:+ body ++ StartCode.three.bytes :=
        fun h => StartCode.noConfusion (hbody.four_suffix_iff.mp h)
      rw [if_neg fun h => hshort h.2, if_pos ⟨by omega, three_suffix_append body .three⟩]
      congr 1
      exact List.take_left' (by simp [StartCode.zeros])
  · intro seen hseen hlong'
    have hprefix : body ++ seen <+: body ++ code.bytes := by
      rw [List.prefix_append_right_inj, StartCode.bytes_eq]
      exact hseen.trans (List.prefix_append _ _)
    refine hbody.quiet code _ hprefix ?_ hlong'
    intro heq
    have hle := hseen.length_le
    rw [List.append_cancel_left heq, hlength] at hle
    omega

end Reading

section Items

variable {us : List NalUnit} {r : H264Reader} {k : ℕ}

theorem unitAt_eq (h : k % us.length < us.length) : us[k % us.length] = unitAt us k :=
  (List.getD_eq_getElem us _ h).symm

theorem drop_eq_unitAt (h : us ≠ []) (k : ℕ) :
    us.drop (k % us.length) = unitAt us k :: us.drop (k % us.length + 1) := by
  have hlt := Nat.mod_lt k (List.length_pos_iff.mpr h)
  rw [← unitAt_eq hlt, List.drop_eq_getElem_cons hlt]

theorem take_succ_eq (h : us ≠ []) (k : ℕ) :
    us.take (k % us.length + 1) = us.take (k % us.length) ++ [unitAt us k] := by
  have hlt := Nat.mod_lt k (List.length_pos_iff.mpr h)
  rw [← unitAt_eq hlt, List.take_succ_eq_append_getElem hlt]

theorem unitAt_mem (h : us ≠ []) (k : ℕ) : unitAt us k ∈ us := by
  have hmem : unitAt us k ∈ us.drop (k % us.length) := by
    rw [drop_eq_unitAt h k]
    exact List.mem_cons_self
  exact List.mem_of_mem_drop hmem

/-- A unit of the file up to the code that ends it. -/
theorem exists_before_item (h : us ≠ []) (k : ℕ) :
    ∃ before, before ++ (item us k).2 = annexB (us.take (k % us.length + 1)) ∧
      before.length = start us k := by
  have htake : annexB (us.take (k % us.length + 1)) = annexB (us.take (k % us.length)) ++
      ((unitAt us k).code.bytes ++ (unitAt us k).payload) := by
    rw [take_succ_eq h k, annexB_append, annexB_cons]
    simp [annexB]
  by_cases hk : k = 0
  · subst hk
    refine ⟨[], ?_, rfl⟩
    rw [htake]
    simp [item, annexB, NalUnit.bytes]
  · refine ⟨annexB (us.take (k % us.length)) ++ (unitAt us k).code.bytes, ?_, ?_⟩
    · rw [htake, item, if_neg hk, List.append_assoc]
    · rw [start, if_neg hk, List.length_append]

theorem Readable.scans (h : Readable us) (k : ℕ) : Scans (item us k).2 := by
  rw [item]
  split_ifs with hk
  · exact (h.plain _ (unitAt_mem h.nonempty 0)).scans_first
  · exact (h.plain _ (unitAt_mem h.nonempty k)).scans

theorem Readable.length_item (h : Readable us) (k : ℕ) :
    1 < (item us k).2.length ∧ (item us k).2.length + 4 < maxBufferSize := by
  rw [item]
  split_ifs with hk
  · have hlong := h.long _ (unitAt_mem h.nonempty 0)
    have hfits := h.fits _ (unitAt_mem h.nonempty 0)
    have hcode := StartCode.length_le (unitAt us 0).code
    rw [NalUnit.bytes, List.length_append]
    omega
  · have hlong := h.long _ (unitAt_mem h.nonempty k)
    have hfits := h.fits _ (unitAt_mem h.nonempty k)
    exact ⟨hlong, show (unitAt us k).payload.length + 4 < maxBufferSize by omega⟩

/-- The reader reads a unit and the code that ends it, past the end of the file if need be. -/
theorem reaches_item (h : Readable us) (hfile : r.file = annexB us) (hpos : r.pos = start us k) :
    ∃ s, Reaches readByte ⟨r, []⟩ s ∧
      readByte s = finish (item us k).1 (item us k).2 { r with pos := start us (k + 1) } := by
  obtain ⟨before, hbefore, hstart⟩ := exists_before_item h.nonempty k
  obtain ⟨hlong, hfits⟩ := h.length_item k
  have hcode := StartCode.length_le (item us k).1
  have hsplit : annexB us = before ++ (item us k).2 ++ annexB (us.drop (k % us.length + 1)) := by
    rw [hbefore, ← annexB_append, List.take_append_drop]
  have hquiet : ∀ seen, seen <+: (item us k).2 → 4 < ([] ++ seen).length →
      ¬ StartCode.three.bytes <:+ [] ++ seen := by
    intro seen hseen hlong'
    refine (h.scans k).quiet (item us k).1 seen (List.prefix_append_of_prefix hseen) ?_ hlong'
    rintro rfl
    have hle := hseen.length_le
    rw [List.length_append] at hle
    omega
  have hbody := reaches_read (hfile.trans hsplit) (hpos.trans hstart.symm) hquiet
    (by simp only [List.length_nil]; omega)
  rw [List.nil_append, hbefore] at hbody
  have hmod : (k + 1) % us.length = (k % us.length + 1) % us.length := (Nat.mod_add_mod k _ 1).symm
  have hnext : Reaches readByte ⟨r, []⟩
      ⟨{ r with pos := (annexB (us.take ((k + 1) % us.length))).length }, (item us k).2⟩ := by
    by_cases hlast : k % us.length + 1 = us.length
    · rw [hlast, List.take_length] at hbody
      rw [hmod, hlast, Nat.mod_self]
      exact hbody.tail (goes_eof (by rw [hfile]))
    · have hlt := Nat.mod_lt k (List.length_pos_iff.mpr h.nonempty)
      rw [hmod, Nat.mod_eq_of_lt (by omega)]
      exact hbody
  have hfile' : annexB us = annexB (us.take ((k + 1) % us.length)) ++ (item us k).1.bytes ++
      ((unitAt us (k + 1)).payload ++ annexB (us.drop ((k + 1) % us.length + 1))) := by
    rw [List.append_assoc, item, ← annexB_cons, ← drop_eq_unitAt h.nonempty, ← annexB_append,
      List.take_append_drop]
  obtain ⟨s, hs, hdone⟩ := reaches_code
    (r := { r with pos := (annexB (us.take ((k + 1) % us.length))).length }) (h.scans k)
    (hfile.trans hfile') rfl (by omega) (by omega)
  refine ⟨s, hnext.trans hs, ?_⟩
  rw [hdone, start, if_neg (Nat.succ_ne_zero k), List.length_append]
  rfl

end Items

/-- The frames of some units, with the parameter sets after them. -/
def receiveAll (sets : ParameterSets) :
    List (StartCode × List UInt8) → ParameterSets × List (List UInt8)
  | [] => (sets, [])
  | item :: rest =>
    let (sets, data) := sets.receive item
    let (sets, frames) := receiveAll sets rest
    (sets, data.toList ++ frames)

theorem receiveAll_append (sets : ParameterSets) (l l' : List (StartCode × List UInt8)) :
    receiveAll sets (l ++ l') = ((receiveAll (receiveAll sets l).1 l').1,
      (receiveAll sets l).2 ++ (receiveAll (receiveAll sets l).1 l').2) := by
  induction l generalizing sets with
  | nil => rfl
  | cons item l ih => simp [receiveAll, ih]

def items (us : List NalUnit) (k : ℕ) : List (StartCode × List UInt8) :=
  (List.range k).map (item us)

/-- What the reader has kept and handed on after so many units of the file. -/
def received (us : List NalUnit) (k : ℕ) : ParameterSets × List (List UInt8) :=
  receiveAll {} (items us k)

theorem received_succ (us : List NalUnit) (k : ℕ) :
    received us (k + 1) = (((received us k).1.receive (item us k)).1,
      (received us k).2 ++ ((received us k).1.receive (item us k)).2.toList) := by
  rw [received, items, List.range_succ, List.map_append, receiveAll_append]
  simp [receiveAll, received, items]

def IsSlice (unit : List UInt8) : Prop := nalType unit = 1 ∨ nalType unit = 5

instance : DecidablePred IsSlice := fun _ => inferInstanceAs (Decidable (_ ∨ _))

theorem receive_isSome_iff {sets : ParameterSets} {item : StartCode × List UInt8} :
    (sets.receive item).2.isSome ↔ IsSlice item.2 := by
  unfold ParameterSets.receive IsSlice
  simp only
  split <;> simp_all

theorem exists_receive (sets : ParameterSets) {item : StartCode × List UInt8}
    (h : IsSlice item.2) : ∃ data, (sets.receive item).2 = some data :=
  Option.isSome_iff_exists.mp (receive_isSome_iff.mpr h)

theorem receive_eq_none (sets : ParameterSets) {item : StartCode × List UInt8}
    (h : ¬ IsSlice item.2) : (sets.receive item).2 = none :=
  Option.not_isSome_iff_eq_none.mp fun hsome => h (receive_isSome_iff.mp hsome)

section Calls

variable {us : List NalUnit} {r r' : H264Reader} {k : ℕ}

/-- The reader stands before the `k`-th unit with nothing in its buffer. -/
structure At (us : List NalUnit) (k : ℕ) (r : H264Reader) : Prop where
  file : r.file = annexB us
  pos : r.pos = start us k
  sets : r.sets = (received us k).1

/-- A unit that is no slice goes by. -/
theorem At.goes_by (h : At us k r) (hus : Readable us) (hslice : ¬ IsSlice (item us k).2) :
    ∃ r', At us (k + 1) r' ∧ Relation.TransGen (Goes readByte) ⟨r, []⟩ ⟨r', []⟩ := by
  obtain ⟨s, hs, hdone⟩ := reaches_item hus h.file h.pos
  obtain ⟨sets, hreceive⟩ : ∃ sets, r.sets.receive (item us k) = (sets, none) :=
    ⟨_, Prod.ext rfl (receive_eq_none r.sets hslice)⟩
  refine ⟨{ r with pos := start us (k + 1), sets }, ⟨h.file, rfl, ?_⟩, ?_⟩
  · rw [received_succ, ← h.sets, hreceive]
  · refine Relation.TransGen.tail' hs ?_
    rw [Goes, hdone, finish, hreceive]

/-- A slice is handed on. -/
theorem At.ends_with (h : At us k r) (hus : Readable us) (hslice : IsSlice (item us k).2) :
    ∃ r' data, At us (k + 1) r' ∧ Ends readByte ⟨r, []⟩ (r', some data) ∧
      (received us (k + 1)).2 = (received us k).2 ++ [data] := by
  obtain ⟨s, hs, hdone⟩ := reaches_item hus h.file h.pos
  obtain ⟨sets, data, hreceive⟩ :
      ∃ sets data, r.sets.receive (item us k) = (sets, some data) := by
    obtain ⟨data, hdata⟩ := exists_receive r.sets hslice
    exact ⟨_, data, Prod.ext rfl hdata⟩
  refine ⟨{ r with pos := start us (k + 1), sets }, data, ⟨h.file, rfl, ?_⟩, ?_, ?_⟩
  · rw [received_succ, ← h.sets, hreceive]
  · refine hs.ends_iff.mpr (ends_of_done ?_)
    rw [hdone, finish, hreceive]
  · rw [received_succ, ← h.sets, hreceive]
    rfl

/-- Before any unit there is a slice further on. -/
theorem exists_slice (hslice : ∃ u ∈ us, IsSlice u.payload) (k : ℕ) :
    ∃ d, IsSlice (item us (k + d)).2 := by
  obtain ⟨u, hu, hslice⟩ := hslice
  obtain ⟨i, hi, rfl⟩ := List.mem_iff_getElem.mp hu
  have hpos : 0 < us.length := by omega
  have hle : k + 1 ≤ us.length * (k + 1) := Nat.le_mul_of_pos_left _ hpos
  refine ⟨us.length * (k + 1) - k + i, ?_⟩
  have hplace : k + (us.length * (k + 1) - k + i) = i + us.length * (k + 1) := by omega
  have hunit : unitAt us (i + us.length * (k + 1)) = us[i] := by
    rw [unitAt, Nat.add_mul_mod_self_left, Nat.mod_eq_of_lt hi, List.getD_eq_getElem us _ hi]
  rw [hplace, item, if_neg (by omega), hunit]
  exact hslice

theorem nalType_bytes (u : NalUnit) : nalType u.bytes = 0 := by
  rw [NalUnit.bytes, nalType]
  cases u.code <;> simp [StartCode.bytes]

/-- The first unit is never taken for a slice: it begins with its code. -/
theorem not_isSlice_bytes (u : NalUnit) : ¬ IsSlice u.bytes := by
  rw [IsSlice, nalType_bytes]
  decide

theorem not_isSlice_item (hus : Readable us) (h : ¬ ∃ u ∈ us, IsSlice u.payload) (k : ℕ) :
    ¬ IsSlice (item us k).2 := by
  rw [item]
  split_ifs with hk
  · exact not_isSlice_bytes _
  · exact fun hslice => h ⟨_, unitAt_mem hus.nonempty k, hslice⟩

/-- A call of `ReadOneNalu` ends with the next slice. -/
theorem At.call (h : At us k r) (hus : Readable us) {d : ℕ} (hslice : IsSlice (item us (k + d)).2) :
    ∃ j r' data, IsSlice (item us j).2 ∧ At us (j + 1) r' ∧
      Ends readByte ⟨r, []⟩ (r', some data) ∧
      (received us (j + 1)).2 = (received us k).2 ++ [data] := by
  induction d generalizing k r with
  | zero =>
    obtain ⟨r', data, hr', hends, hframes⟩ := h.ends_with hus hslice
    exact ⟨k, r', data, hslice, hr', hends, hframes⟩
  | succ d ih =>
    by_cases hnow : IsSlice (item us k).2
    · obtain ⟨r', data, hr', hends, hframes⟩ := h.ends_with hus hnow
      exact ⟨k, r', data, hnow, hr', hends, hframes⟩
    · obtain ⟨r₁, hr₁, hgoes⟩ := h.goes_by hus hnow
      obtain ⟨j, r', data, hj, hr', hends, hframes⟩ :=
        ih hr₁ (by rwa [Nat.add_right_comm, Nat.add_assoc])
      refine ⟨j, r', data, hj, hr', (Reaches.ends_iff hgoes.to_reflTransGen).mpr hends, ?_⟩
      rw [hframes, received_succ, receive_eq_none _ hnow, Option.toList_none, List.append_nil]

theorem at_start (us : List NalUnit) : At us 0 { file := annexB us } := ⟨rfl, rfl, rfl⟩

theorem runLoop_mono {fuel fuel' calls : ℕ} {result : H264Reader × List (List UInt8)}
    (hle : fuel ≤ fuel') (h : runLoop fuel calls r = some result) :
    runLoop fuel' calls r = some result := by
  induction calls generalizing r result with
  | zero => exact h
  | succ calls ih =>
    simp only [runLoop, Option.bind_eq_bind, Option.bind_eq_some_iff] at h ⊢
    obtain ⟨p, hp, q, hq, heq⟩ := h
    exact ⟨p, loop_mono hp hle, q, ih hq, heq⟩

theorem At.runLoop (h : At us k r) (hus : Readable us) (hslice : ∃ u ∈ us, IsSlice u.payload)
    (calls : ℕ) : ∃ fuel k' r' frames, At us k' r' ∧
      (k' = k ∨ ∃ j, k' = j + 1 ∧ IsSlice (item us j).2) ∧
      H264Reader.runLoop fuel calls r = some (r', frames) ∧
      (received us k').2 = (received us k).2 ++ frames ∧ frames.length = calls := by
  induction calls generalizing k r with
  | zero => exact ⟨0, k, r, [], h, Or.inl rfl, rfl, (List.append_nil _).symm, rfl⟩
  | succ calls ih =>
    obtain ⟨d, hd⟩ := exists_slice hslice k
    obtain ⟨j, r₁, data, hj, hr₁, ⟨fuel₁, hone⟩, hdata⟩ := h.call hus hd
    obtain ⟨fuel₂, k₂, r₂, frames, hr₂, hlast, hrest, hframes, hlength⟩ := ih hr₁
    refine ⟨max fuel₁ fuel₂, k₂, r₂, data :: frames, hr₂, ?_, ?_, ?_, ?_⟩
    · rcases hlast with rfl | hlast
      · exact Or.inr ⟨j, rfl, hj⟩
      · exact Or.inr hlast
    · simp only [H264Reader.runLoop, readOneNalu, loop_mono hone (le_max_left fuel₁ fuel₂),
        Option.bind_eq_bind, Option.bind_some, runLoop_mono (le_max_right fuel₁ fuel₂) hrest]
      rfl
    · rw [hframes, hdata, List.append_assoc]
      rfl
    · rw [List.length_cons, hlength]

/-- From a readable file with a slice, any number of calls hands on as many frames: those of the
first units of the file read over and over. The first time the first unit is lost behind its own
start code. -/
theorem runLoop_delivers (hus : Readable us) (hslice : ∃ u ∈ us, IsSlice u.payload) (calls : ℕ) :
    ∃ fuel k r, runLoop fuel calls { file := annexB us } = some (r, (received us k).2) ∧
      (received us k).2.length = calls := by
  obtain ⟨fuel, k, r, frames, -, -, hrun, hframes, hlength⟩ :=
    (at_start us).runLoop hus hslice calls
  rw [show (received us 0).2 = [] from rfl, List.nil_append] at hframes
  exact ⟨fuel, k, r, hframes ▸ hrun, hframes ▸ hlength⟩

/-- Parameter sets, an IDR slice and another slice. -/
def shortFile : List NalUnit :=
  [⟨.four, [0x67, 0x42]⟩, ⟨.four, [0x68, 0xce]⟩, ⟨.four, [0x65, 0x88]⟩, ⟨.three, [0x41, 0x9a]⟩]

theorem readable_shortFile : Readable shortFile := by
  refine ⟨by decide, fun u hu => ?_, by decide, by decide⟩
  have hplain : ∀ u ∈ shortFile, ¬ StartCode.three.bytes <:+: u.payload ∧
      u.payload.getLast? ≠ some 0 := by decide
  exact ⟨(hplain u hu).1, (hplain u hu).2⟩

theorem runLoop_delivers_shortFile :
    ∃ fuel k r, runLoop fuel 3 { file := annexB shortFile } = some (r, (received shortFile k).2) ∧
      (received shortFile k).2.length = 3 :=
  runLoop_delivers readable_shortFile (by decide) 3

/-- Without a slice in the file the first call never returns. -/
theorem readOneNalu_returns_iff (hus : Readable us) :
    (∃ fuel result, readOneNalu fuel { file := annexB us } = some result) ↔
      ∃ u ∈ us, IsSlice u.payload := by
  constructor
  · rintro ⟨fuel, result, h⟩
    by_contra hnone
    have hgoes : ∀ s : ReadState, (∃ k r, s = ⟨r, []⟩ ∧ At us k r) →
        ∃ s', Relation.TransGen (Goes readByte) s s' ∧ ∃ k r, s' = ⟨r, []⟩ ∧ At us k r := by
      rintro s ⟨k, r, rfl, hr⟩
      obtain ⟨r', hr', hs'⟩ := hr.goes_by hus (not_isSlice_item hus hnone k)
      exact ⟨_, hs', k + 1, r', rfl, hr'⟩
    have hloop := loop_eq_none_of_progress hgoes ⟨0, _, rfl, at_start us⟩ fuel
    rw [readOneNalu, hloop] at h
    cases h
  · intro hslice
    obtain ⟨d, hd⟩ := exists_slice hslice 0
    obtain ⟨-, r', data, -, -, ⟨fuel, hfuel⟩, -⟩ := (at_start us).call hus hd
    exact ⟨fuel, (r', some data), hfuel⟩

theorem readOneNalu_returns_iff_shortFile :
    (∃ fuel result, readOneNalu fuel { file := annexB shortFile } = some result) ↔
      ∃ u ∈ shortFile, IsSlice u.payload :=
  readOneNalu_returns_iff readable_shortFile

end Calls

section Passes

variable {us : List NalUnit} {k : ℕ}

/-- So many units from the `k`-th on. -/
def window (us : List NalUnit) (k d : ℕ) : List (StartCode × List UInt8) :=
  (List.range' k d).map (item us)

theorem received_add (us : List NalUnit) (k d : ℕ) :
    received us (k + d) = ((receiveAll (received us k).1 (window us k d)).1,
      (received us k).2 ++ (receiveAll (received us k).1 (window us k d)).2) := by
  have hitems : items us (k + d) = items us k ++ window us k d := by
    rw [items, items, window, ← List.map_append, List.range_add]
    congr 2
    rw [List.range'_eq_map_range]
  rw [received, hitems, receiveAll_append]
  rfl

theorem unitAt_add (us : List NalUnit) (k : ℕ) : unitAt us (k + us.length) = unitAt us k := by
  rw [unitAt, unitAt, Nat.add_mod_right]

/-- From the second unit on a pass is like the one before. -/
theorem window_add (us : List NalUnit) (k d : ℕ) :
    window us (k + 1 + us.length) d = window us (k + 1) d := by
  have hitem (j : ℕ) (hj : j ≠ 0) : item us (us.length + j) = item us j := by
    rw [item, item, if_neg hj, if_neg (by omega), Nat.add_comm us.length j, unitAt_add,
      Nat.add_right_comm, unitAt_add]
  rw [window, window, Nat.add_comm, ← List.map_add_range', List.map_map]
  refine List.map_congr_left fun j hj => hitem j ?_
  have hle := (List.mem_range'_1.mp hj).1
  omega

/-- The last unit of a type among some, as it is kept. -/
def lastKept (type : ℕ) (l : List (StartCode × List UInt8)) : Option (List UInt8) :=
  (l.filter fun item => nalType item.2 = type).getLast?.map fun item => item.1.bytes ++ item.2

theorem lastKept_append (type : ℕ) (l : List (StartCode × List UInt8))
    (item : StartCode × List UInt8) :
    lastKept type (l ++ [item]) =
      if nalType item.2 = type then some (item.1.bytes ++ item.2) else lastKept type l := by
  rw [lastKept, List.filter_append, List.filter_singleton]
  split_ifs with h
  · simp [h]
  · simp [h, lastKept]

theorem lastKept_eq_none_iff {type : ℕ} {l : List (StartCode × List UInt8)} :
    lastKept type l = none ↔ ∀ item ∈ l, nalType item.2 ≠ type := by
  simp [lastKept]

theorem lastKept_ne_nil {type : ℕ} {l : List (StartCode × List UInt8)} :
    lastKept type l ≠ some [] := by
  intro h
  obtain ⟨item, -, hbytes⟩ := Option.map_eq_some_iff.mp h
  have hlength := congrArg List.length hbytes
  have hcode := StartCode.length_le item.1
  rw [List.length_append, List.length_nil] at hlength
  omega

theorem receive_sets (sets : ParameterSets) (item : StartCode × List UInt8) :
    (sets.receive item).1 =
      ⟨if nalType item.2 = 7 then item.1.bytes ++ item.2 else sets.sps,
        if nalType item.2 = 8 then item.1.bytes ++ item.2 else sets.pps⟩ := by
  unfold ParameterSets.receive
  simp only
  split <;> simp_all

theorem receiveAll_sets (sets : ParameterSets) (l : List (StartCode × List UInt8)) :
    (receiveAll sets l).1 = ⟨(lastKept 7 l).getD sets.sps, (lastKept 8 l).getD sets.pps⟩ := by
  induction l using List.reverseRecOn with
  | nil => rfl
  | append_singleton l item ih =>
    rw [receiveAll_append, ih, lastKept_append, lastKept_append]
    show (ParameterSets.receive _ item).1 = _
    rw [receive_sets]
    congr 1 <;> split_ifs <;> rfl

/-- Receiving the same units again changes nothing. -/
theorem receiveAll_twice (sets : ParameterSets) (l : List (StartCode × List UInt8)) :
    (receiveAll (receiveAll sets l).1 l).1 = (receiveAll sets l).1 := by
  simp only [receiveAll_sets]
  cases lastKept 7 l <;> cases lastKept 8 l <;> rfl

theorem receiveAll_length (sets : ParameterSets) (l : List (StartCode × List UInt8)) :
    (receiveAll sets l).2.length = l.countP fun item => IsSlice item.2 := by
  induction l generalizing sets with
  | nil => rfl
  | cons item l ih =>
    have hone : (sets.receive item).2.toList.length = if IsSlice item.2 then 1 else 0 := by
      split_ifs with h
      · obtain ⟨data, hdata⟩ := exists_receive sets h
        rw [hdata]
        rfl
      · rw [receive_eq_none sets h]
        rfl
    rw [receiveAll, List.length_append, hone, ih, List.countP_cons, Nat.add_comm]
    simp only [decide_eq_true_eq]

/-- How many slices the file has. -/
def slices (us : List NalUnit) : ℕ := us.countP fun u => IsSlice u.payload

/-- A pass from the second unit to the first one again. -/
theorem units_eq_rotate (us : List NalUnit) :
    (List.range' 1 us.length).map (unitAt us) = us.rotate 1 := by
  refine List.ext_getElem (by simp) fun i hi hi' => ?_
  have hlength : i < us.length := by simpa using hi
  have hmod : (1 + i) % us.length < us.length := Nat.mod_lt _ (by omega)
  rw [List.getElem_map, List.getElem_range', Nat.one_mul, List.getElem_rotate, unitAt,
    List.getD_eq_getElem us _ hmod]
  simp only [Nat.add_comm]

theorem countP_pass (us : List NalUnit) :
    ((window us 1 us.length).countP fun item => IsSlice item.2) = slices us := by
  have hunits : ((List.range' 1 us.length).map (unitAt us)).countP
      (fun u => IsSlice u.payload) = slices us := by
    rw [units_eq_rotate]
    exact (List.rotate_perm us 1).countP_eq _
  rw [← hunits, window, List.countP_map, List.countP_map]
  refine List.countP_congr fun j hj => ?_
  have hle := (List.mem_range'_1.mp hj).1
  simp only [Function.comp_apply, item, if_neg (show j ≠ 0 by omega)]

/-- Nothing comes of the first unit the first time. -/
theorem received_one (us : List NalUnit) : (received us 1).2 = [] := by
  rw [received_succ, receive_eq_none _ (show ¬ IsSlice (item us 0).2 from not_isSlice_bytes _)]
  rfl

/-- The frames of the first pass. -/
def firstPass (us : List NalUnit) : List (List UInt8) := (received us (1 + us.length)).2

/-- The frames of every later pass. -/
def laterPass (us : List NalUnit) : List (List UInt8) :=
  (receiveAll (received us (1 + us.length)).1 (window us 1 us.length)).2

theorem firstPass_length (us : List NalUnit) : (firstPass us).length = slices us := by
  rw [firstPass, received_add, received_one, List.nil_append, receiveAll_length, countP_pass]

theorem laterPass_length (us : List NalUnit) : (laterPass us).length = slices us := by
  rw [laterPass, receiveAll_length, countP_pass]

theorem window_pass (us : List NalUnit) (p : ℕ) :
    window us (1 + us.length + p * us.length) us.length = window us 1 us.length := by
  induction p with
  | zero =>
    have h := window_add us 0 us.length
    simpa [Nat.add_comm] using h
  | succ p ih =>
    have h := window_add us (us.length + p * us.length) us.length
    rw [← ih, Nat.add_mul, Nat.one_mul, ← Nat.add_assoc]
    convert h using 2 <;> omega

theorem received_passes (us : List NalUnit) (p : ℕ) :
    (received us (1 + us.length + p * us.length)).1 = (received us (1 + us.length)).1 ∧
      (received us (1 + us.length + p * us.length)).2 =
        firstPass us ++ (List.replicate p (laterPass us)).flatten := by
  induction p with
  | zero => simp [firstPass]
  | succ p ih =>
    rw [Nat.add_mul, Nat.one_mul, ← Nat.add_assoc, received_add, window_pass, ih.1, ih.2]
    constructor
    · rw [received_add us 1 us.length]
      exact receiveAll_twice _ _
    · rw [List.replicate_succ', List.flatten_append, List.append_assoc]
      simp [laterPass]

/-- After the first pass the reader hands on one and the same pass over and over, as many frames
each time. -/
theorem frames_repeat (hus : Readable us) (hslice : ∃ u ∈ us, IsSlice u.payload) :
    (firstPass us).length = slices us ∧ (laterPass us).length = slices us ∧
      ∀ calls, ∃ fuel p r frames, runLoop fuel calls { file := annexB us } = some (r, frames) ∧
        frames.length = calls ∧
        frames <+: firstPass us ++ (List.replicate p (laterPass us)).flatten := by
  refine ⟨firstPass_length us, laterPass_length us, fun calls => ?_⟩
  obtain ⟨fuel, k, r, frames, -, -, hrun, hframes, hlength⟩ :=
    (at_start us).runLoop hus hslice calls
  rw [show (received us 0).2 = [] from rfl, List.nil_append] at hframes
  refine ⟨fuel, k, r, frames, hrun, hlength, ?_⟩
  have hlength' := List.length_pos_iff.mpr hus.nonempty
  have hle : k ≤ 1 + us.length + k * us.length := by
    have hmul := Nat.le_mul_of_pos_right k hlength'
    omega
  obtain ⟨more, hmore⟩ := Nat.exists_eq_add_of_le hle
  rw [← (received_passes us k).2, hmore, received_add, hframes]
  exact List.prefix_append _ _

theorem frames_repeat_shortFile :
    (firstPass shortFile).length = slices shortFile ∧
      (laterPass shortFile).length = slices shortFile ∧
      ∀ calls, ∃ fuel p r frames,
        runLoop fuel calls { file := annexB shortFile } = some (r, frames) ∧
          frames.length = calls ∧
          frames <+: firstPass shortFile ++ (List.replicate p (laterPass shortFile)).flatten :=
  frames_repeat readable_shortFile (by decide)

theorem received_length_mono {k k' : ℕ} (h : k ≤ k') :
    (received us k).2.length ≤ (received us k').2.length := by
  obtain ⟨d, rfl⟩ := Nat.exists_eq_add_of_le h
  rw [received_add, List.length_append]
  exact Nat.le_add_right _ _

theorem received_length_succ (hslice : IsSlice (item us k).2) :
    (received us (k + 1)).2.length = (received us k).2.length + 1 := by
  obtain ⟨data, hdata⟩ := exists_receive (received us k).1 hslice
  rw [received_succ, hdata, List.length_append]
  rfl

theorem item_at_length (u : NalUnit) (rest : List NalUnit) :
    (item (u :: rest) (u :: rest).length).2 = u.payload := by
  have hunit : unitAt (u :: rest) (u :: rest).length = u := by
    rw [unitAt, Nat.mod_self]
    rfl
  rw [item, if_neg (by simp), hunit]

/-- A sequence parameter set that only begins the file is read after the first pass. -/
theorem received_sps_eq_nil_iff {u : NalUnit} {rest : List NalUnit} (htype : nalType u.payload = 7)
    (hrest : ∀ v ∈ rest, nalType v.payload ≠ 7) (k : ℕ) :
    (received (u :: rest) k).1.sps = [] ↔ k ≤ (u :: rest).length := by
  have hkept : (received (u :: rest) k).1.sps = [] ↔ lastKept 7 (items (u :: rest) k) = none := by
    rw [received, receiveAll_sets]
    cases hlast : lastKept 7 (items (u :: rest) k) with
    | none => simp
    | some bytes =>
      have hne : bytes ≠ [] := fun h => lastKept_ne_nil (h ▸ hlast)
      simp [hne]
  rw [hkept, lastKept_eq_none_iff]
  constructor
  · intro h
    by_contra hlt
    refine h (item (u :: rest) (u :: rest).length) ?_ (by rw [item_at_length, htype])
    exact List.mem_map_of_mem (List.mem_range.mpr (by omega))
  · intro hle it hit
    obtain ⟨j, hj, rfl⟩ := List.mem_map.mp hit
    have hlt := List.mem_range.mp hj
    rw [item]
    split_ifs with hzero
    · rw [nalType_bytes]
      decide
    · obtain ⟨i, rfl⟩ := Nat.exists_eq_succ_of_ne_zero hzero
      rw [List.length_cons] at hle
      have hunit : unitAt (u :: rest) (i + 1) = rest[i] := by
        rw [unitAt, Nat.mod_eq_of_lt (by rw [List.length_cons]; omega), List.getD_cons_succ,
          List.getD_eq_getElem rest _ (by omega)]
      rw [hunit]
      exact hrest _ (List.getElem_mem _)

/-- A file that begins with its only sequence parameter set is handed on without it once: the reader
has it after the slices of one pass. -/
theorem sps_after_first_pass {u : NalUnit} {rest : List NalUnit} (hus : Readable (u :: rest))
    (htype : nalType u.payload = 7) (hrest : ∀ v ∈ rest, nalType v.payload ≠ 7)
    (hslice : ∃ v ∈ rest, IsSlice v.payload) (calls : ℕ) :
    ∃ fuel r frames, runLoop fuel calls { file := annexB (u :: rest) } = some (r, frames) ∧
      frames.length = calls ∧ (r.sets.sps = [] ↔ calls ≤ slices (u :: rest)) := by
  obtain ⟨v, hv, hslice⟩ := hslice
  obtain ⟨fuel, k, r, frames, hat, hlast, hrun, hframes, hlength⟩ :=
    (at_start (u :: rest)).runLoop hus ⟨v, List.mem_cons_of_mem u hv, hslice⟩ calls
  rw [show (received (u :: rest) 0).2 = [] from rfl, List.nil_append] at hframes
  refine ⟨fuel, r, frames, hrun, hlength, ?_⟩
  rw [hat.sets, received_sps_eq_nil_iff htype hrest, ← hlength, ← hframes, ← firstPass_length,
    firstPass]
  constructor
  · intro hk
    exact received_length_mono (by omega)
  · intro hle
    by_contra hk
    rcases hlast with rfl | ⟨j, rfl, hj⟩
    · omega
    · have hne : j ≠ (u :: rest).length := by
        rintro rfl
        rw [item_at_length, IsSlice, htype] at hj
        omega
      have hmono := @received_length_mono (u :: rest) (1 + (u :: rest).length) j (by omega)
      rw [received_length_succ hj] at hle
      omega

theorem sps_after_first_pass_shortFile :
    ∃ fuel r frames, runLoop fuel 2 { file := annexB shortFile } = some (r, frames) ∧
      frames.length = 2 ∧ (r.sets.sps = [] ↔ 2 ≤ slices shortFile) :=
  sps_after_first_pass readable_shortFile (by decide) (by decide) (by decide) 2

end Passes

end H264Reader
end MediasoupSdk
