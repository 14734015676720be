import MediasoupSdk.Utils.StreamScan

/-! A description as a list of media sections, and what the scan reads of them: a video section,
unless the scan has read the section right before it. -/
namespace MediasoupSdk
open Foundation
namespace SDPUtils

/-- A media line and the lines up to the next one. -/
structure MediaSection where
  mline : String
  type : String
  body : List String
  isMline : parseMline mline = some type
  noMline : ∀ line ∈ body, parseMline line = none

def MediaSection.lines (m : MediaSection) : List String := m.mline :: m.body

structure Description where
  preamble : List String
  media : List MediaSection
  noMline : ∀ line ∈ preamble, parseMline line = none

namespace Description

def lines (d : Description) : List String := d.preamble ++ d.media.flatMap (·.lines)

/-- The sections of a list of lines. -/
def ofLines : List String → Description
  | [] => ⟨[], [], List.forall_mem_nil _⟩
  | line :: rest =>
    let d := ofLines rest
    match h : parseMline line with
    | some type => ⟨[], ⟨line, type, d.preamble, h, d.noMline⟩ :: d.media, List.forall_mem_nil _⟩
    | none => ⟨line :: d.preamble, d.media, List.forall_mem_cons.mpr ⟨h, d.noMline⟩⟩

theorem ofLines_lines (lines : List String) : (ofLines lines).lines = lines := by
  induction lines with
  | nil => rfl
  | cons line rest ih =>
    rw [ofLines]
    split
    · simpa [Description.lines, MediaSection.lines] using ih
    · simpa [Description.lines] using ih

def isVideo (d : Description) (k : ℕ) : Bool := d.media[k]?.any (·.type = "video")

/-- The scan reads section `k`. -/
def reads (d : Description) : ℕ → Bool
  | 0 => d.isVideo 0
  | k + 1 => d.isVideo (k + 1) && !d.reads k

def body (d : Description) (k : ℕ) : List String :=
  match d.media[k]? with
  | some m => m.body
  | none => []

/-- The lines read of the first `k` sections. -/
def readLines (d : Description) : ℕ → List String
  | 0 => []
  | k + 1 => d.readLines k ++ if d.reads k then d.body k else []

/-- The lines before section `k`. -/
def upTo (d : Description) (k : ℕ) : List String := d.preamble ++ (d.media.take k).flatMap (·.lines)

def start (d : Description) (k : ℕ) : ℕ := (d.upTo k).length

/-- The last section that is read and has a section after it. -/
def LastFollowed (d : Description) (j : ℕ) : Prop :=
  d.reads j ∧ j + 1 < d.media.length ∧ ∀ k, d.reads k → k + 1 < d.media.length → k ≤ j

variable {d : Description} {k : ℕ}

theorem upTo_succ (hk : k < d.media.length) :
    d.upTo (k + 1) = d.upTo k ++ d.media[k].lines := by
  rw [upTo, List.take_add_one, List.getElem?_eq_getElem hk, Option.toList_some,
    List.flatMap_append, List.flatMap_singleton, upTo, List.append_assoc]

/-- A video section is read if the section before it is not. -/
theorem reads_eq_isVideo (hprev : ∀ j, j + 1 = k → d.reads j = false) :
    d.reads k = d.isVideo k := by
  cases k with
  | zero => rfl
  | succ k => rw [reads, hprev k rfl, Bool.not_false, Bool.and_true]

/-- Two sections that are read are not next to each other. -/
theorem reads_gap {j : ℕ} (hk : d.reads k) (hj : d.reads j) (hkj : k < j) : k + 2 ≤ j := by
  by_contra hnext
  obtain rfl : j = k + 1 := by omega
  rw [reads, hk, Bool.not_true, Bool.and_false] at hj
  exact Bool.noConfusion hj

theorem isVideo_eq (hk : k < d.media.length) :
    d.isVideo k = decide (d.media[k].type = "video") := by
  simp [isVideo, List.getElem?_eq_getElem hk]

theorem body_eq (hk : k < d.media.length) : d.body k = d.media[k].body := by
  rw [body, List.getElem?_eq_getElem hk]

theorem start_succ (hk : k < d.media.length) :
    d.start (k + 1) = d.start k + 1 + (d.body k).length := by
  rw [start, upTo_succ hk, List.length_append, body_eq hk, start, MediaSection.lines,
    List.length_cons]
  omega

theorem start_mono {j : ℕ} (hjk : j ≤ k) (hk : k ≤ d.media.length) : d.start j ≤ d.start k := by
  induction k, hjk using Nat.le_induction with
  | base => exact le_refl _
  | succ k hjk ih =>
    have hstart := d.start_succ hk
    have hj := ih (Nat.le_of_succ_le hk)
    omega

theorem upTo_length : d.upTo d.media.length = d.lines := by
  rw [upTo, List.take_length, lines]

theorem take_start (k : ℕ) : d.lines.take (d.start k) = d.upTo k := by
  have hsplit : d.lines = d.upTo k ++ (d.media.drop k).flatMap (·.lines) := by
    rw [upTo, List.append_assoc, ← List.flatMap_append, List.take_append_drop, lines]
  rw [hsplit, start, List.take_left]

theorem start_length : d.start d.media.length = d.lines.length := by
  rw [start, upTo_length]

end Description

variable {d : Description} {st : ScanState} {i k : ℕ} {lines : List String} {m : MediaSection}

theorem scanFrom_body (h : ∀ line ∈ lines, parseMline line = none) :
    scanFrom i st lines =
      if st.video then { st with stream := lines.foldl Stream.read st.stream } else st := by
  induction lines generalizing i st with
  | nil => simp [scanFrom]
  | cons line lines ih =>
    rw [List.forall_mem_cons] at h
    rw [scanFrom, ih h.2]
    cases hv : st.video with
    | false => simp [scanLine, h.1, hv]
    | true => simp [scanLine, h.1, hv]

/-- A section ends the one that is read, or starts to be read, or is passed over. -/
theorem scanFrom_section :
    scanFrom i st m.lines =
      if st.video then { st with video := false, index2inject := i - 1 }
      else if m.type = "video" then
        { st with video := true, stream := m.body.foldl Stream.read st.stream }
      else st := by
  rw [MediaSection.lines, scanFrom, scanFrom_body m.noMline]
  cases hv : st.video with
  | true => simp [scanLine, m.isMline, hv]
  | false => by_cases htype : m.type = "video" <;> simp [scanLine, m.isMline, hv, htype]

/-- What the scan holds before section `k`. -/
structure ScanAt (d : Description) (k : ℕ) (st : ScanState) : Prop where
  video : st.video = true ↔ ∃ j, j + 1 = k ∧ d.reads j
  stream : st.stream = (d.readLines k).foldl Stream.read {}
  index : (∃ j, j + 1 < k ∧ d.reads j ∧ (∀ j', j' + 1 < k → d.reads j' → j' ≤ j) ∧
      st.index2inject = d.start (j + 1) - 1) ∨
    (∀ j, j + 1 < k → d.reads j = false) ∧ st.index2inject = 0

namespace ScanAt

theorem not_read (h : ScanAt d k st) (hv : ¬ st.video = true) :
    ∀ j, j + 1 = k → d.reads j = false := by
  intro j hj
  rw [h.video] at hv
  by_contra hread
  exact hv ⟨j, hj, by simpa using hread⟩

/-- A section is read if it is a video section and none is being read. -/
theorem reads_eq (h : ScanAt d k st) (hk : k < d.media.length) :
    d.reads k = if st.video then false else decide (d.media[k].type = "video") := by
  split_ifs with hv
  · obtain ⟨j, rfl, hj⟩ := h.video.mp hv
    simp [Description.reads, hj]
  · rw [d.reads_eq_isVideo (h.not_read hv), d.isVideo_eq hk]

/-- The index stays for a section that does not end the one that is read. -/
theorem index_succ (h : ScanAt d k st) (hprev : ∀ j, j + 1 = k → d.reads j = false) :
    (∃ j, j + 1 < k + 1 ∧ d.reads j ∧ (∀ j', j' + 1 < k + 1 → d.reads j' → j' ≤ j) ∧
        st.index2inject = d.start (j + 1) - 1) ∨
      (∀ j, j + 1 < k + 1 → d.reads j = false) ∧ st.index2inject = 0 := by
  have hearlier {j : ℕ} (hj : j + 1 < k + 1) (hread : d.reads j = true) : j + 1 < k := by
    by_contra hlast
    have hfalse := hprev j (by omega)
    rw [hread] at hfalse
    exact absurd hfalse (Bool.noConfusion ·)
  rcases h.index with ⟨j, hj, hread, hmax, hindex⟩ | ⟨hnone, hindex⟩
  · exact .inl ⟨j, by omega, hread, fun j' hj' hr => hmax j' (hearlier hj' hr) hr, hindex⟩
  · refine .inr ⟨fun j hj => ?_, hindex⟩
    by_contra hread
    rw [Bool.not_eq_false] at hread
    exact absurd (hnone j (hearlier hj hread)) (by simp [hread])

end ScanAt

theorem scanAt_upTo (hk : k ≤ d.media.length) : ScanAt d k (scan (d.upTo k)) := by
  induction k with
  | zero =>
    have hpreamble : scan (d.upTo 0) = {} := by
      simp [Description.upTo, scan, scanFrom_body d.noMline]
    rw [hpreamble]
    exact { video := by simp, stream := rfl, index := by simp }
  | succ k ih =>
    have ih := ih (Nat.le_of_succ_le hk)
    have hreads := ih.reads_eq hk
    rw [d.upTo_succ hk, scan_append, scanFrom_section]
    generalize scan (d.upTo k) = st at ih hreads
    split_ifs at hreads ⊢ with hv htype
    · obtain ⟨j, rfl, hj⟩ := ih.video.mp hv
      exact {
        video := by simp [hreads]
        stream := by simp [ih.stream, Description.readLines, hreads]
        index := .inl ⟨j, by omega, hj, by omega, rfl⟩ }
    · rw [decide_eq_true htype] at hreads
      exact {
        video := by simp [hreads]
        stream := by simp [ih.stream, Description.readLines, hreads, d.body_eq hk]
        index := ih.index_succ (ih.not_read hv) }
    · rw [decide_eq_false htype] at hreads
      exact {
        video := by simp [hreads, hv]
        stream := by simp [ih.stream, Description.readLines, hreads]
        index := ih.index_succ (ih.not_read hv) }

theorem scanAt_lines (d : Description) : ScanAt d d.media.length (scan d.lines) := by
  rw [← d.upTo_length]
  exact scanAt_upTo (le_refl _)

namespace Description

theorem LastFollowed.unique {j j' : ℕ} (h : d.LastFollowed j) (h' : d.LastFollowed j') :
    j = j' := by
  obtain ⟨hread, hnext, hmax⟩ := h
  obtain ⟨hread', hnext', hmax'⟩ := h'
  exact le_antisymm (hmax' j hread hnext) (hmax j' hread' hnext')

theorem exists_lastFollowed (hread : d.reads k) (hnext : k + 1 < d.media.length) :
    ∃ j, d.LastFollowed j ∧ k ≤ j := by
  rcases (scanAt_lines d).index with ⟨j, hj, hr, hmax, -⟩ | ⟨hnone, -⟩
  · exact ⟨j, ⟨hr, hj, fun k' hr' hk' => hmax k' hk' hr'⟩, hmax k hnext hread⟩
  · exact absurd (hnone k hnext) (by simp [hread])

theorem start_succ_pos (hk : k < d.media.length) : d.start (k + 1) ≠ 0 := by
  rw [start_succ hk]
  omega

/-- The lines go before the last line of the section that was read last, unless that is line 0 or
there is none. -/
theorem insertAt_cases (d : Description) :
    (∃ j, d.LastFollowed j ∧ d.start (j + 1) ≠ 1 ∧
        insertAt d.lines = d.start (j + 1) - 1) ∨
      (∀ j, d.LastFollowed j → d.start (j + 1) = 1) ∧
        insertAt d.lines = d.start d.media.length := by
  rw [insertAt, start_length]
  rcases (scanAt_lines d).index with ⟨j, hj, hread, hmax, hindex⟩ | ⟨hnone, hindex⟩
  · have hlast : d.LastFollowed j := ⟨hread, hj, fun k hr hk => hmax k hk hr⟩
    have hpos := d.start_succ_pos (Nat.lt_of_succ_lt hj)
    rw [hindex]
    split_ifs with hzero
    · refine .inr ⟨fun j' hj' => ?_, rfl⟩
      rw [← hlast.unique hj']
      omega
    · exact .inl ⟨j, hlast, by omega, rfl⟩
  · rw [if_pos hindex]
    refine .inr ⟨fun j hj => ?_, rfl⟩
    exact absurd (hnone j hj.2.1) (by simp [hj.1])

theorem LastFollowed.insertAt_eq {j : ℕ} (h : d.LastFollowed j) :
    insertAt d.lines =
      if d.start (j + 1) = 1 then d.start d.media.length else d.start (j + 1) - 1 := by
  rcases d.insertAt_cases with ⟨j', h', hne, hat⟩ | ⟨hall, hat⟩
  · rw [h.unique h', if_neg hne, hat]
  · rw [if_pos (hall j h), hat]

end Description

/-- The lines that are read describe a stream, and group no streams of a simulcast. -/
def Description.CanInject (d : Description) : Prop :=
  Describes (d.readLines d.media.length) ∧
    ∀ line ∈ d.readLines d.media.length, isSimLine line = false

theorem complete_scan :
    (scan d.lines).stream.Complete ↔ Describes (d.readLines d.media.length) := by
  rw [(scanAt_lines d).stream]
  exact Stream.complete_foldl rfl fun a => by cases a <;> rfl

theorem hasSimulcast_scan :
    (scan d.lines).stream.hasSimulcast = (d.readLines d.media.length).any isSimLine := by
  rw [(scanAt_lines d).stream, Stream.hasSimulcast_foldl]
  rfl

end SDPUtils
end MediasoupSdk
