import MediasoupSdk.Utils.MediaSections
import MediasoupSdk.Utils.Munging

/-! Where the injected lines go, and where what they repeat comes from. -/
namespace MediasoupSdk
open Foundation
namespace SDPUtils

/-- A field of the stream that keeps what it has found. -/
def Persistent (f : Stream → String) : Prop := ∀ s line, f s ≠ "" → f (s.read line) ≠ ""

theorem persistent_ssrc : Persistent Stream.ssrc := by
  intro s line hs
  rwa [Stream.read_known hs, Stream.readAttributes_ssrc.1]

theorem persistent_value (a : Attribute) : Persistent fun s => s.value a := by
  intro s line hvalue
  rcases s.value_read_eq a with hsame | ⟨ssrc, hparsed⟩
  · exact hsame.trans_ne hvalue
  · exact Attribute.parse_ne_empty hparsed

variable {f : Stream → String} {lines : List String} {d : Description} {i j k : ℕ}

theorem Persistent.step (hf : Persistent f) (h : f (scan (lines.take i)).stream ≠ "") :
    f (scan (lines.take (i + 1))).stream ≠ "" := by
  by_cases hi : i < lines.length
  · rw [scan_take_succ hi, scanLine_stream]
    split_ifs
    · exact hf _ _ h
    · exact h
  · rw [List.take_of_length_le (by omega)] at h ⊢
    exact h

theorem Persistent.mono (hf : Persistent f) (hij : i ≤ j)
    (h : f (scan (lines.take i)).stream ≠ "") : f (scan (lines.take j)).stream ≠ "" := by
  induction j, hij using Nat.le_induction with
  | base => exact h
  | succ j _ ih => exact hf.step ih

/-- A field that is found between two lines is found in one of them. -/
theorem exists_takenAt (hij : i ≤ j) (hi : f (scan (lines.take i)).stream = "")
    (hj : f (scan (lines.take j)).stream ≠ "") : ∃ k, i ≤ k ∧ k < j ∧ TakenAt f lines k := by
  induction j, hij using Nat.le_induction with
  | base => exact absurd hi hj
  | succ j hij ih =>
    by_cases hbefore : f (scan (lines.take j)).stream = ""
    · exact ⟨j, hij, by omega, hbefore, hj⟩
    · obtain ⟨k, hik, hkj, htaken⟩ := ih hbefore
      exact ⟨k, hik, by omega, htaken⟩

theorem getElem_start (hk : k < d.media.length) :
    d.lines[d.start k]? = some d.media[k].mline := by
  have hstart := d.start_succ hk
  rw [← List.getElem?_take_of_lt (j := d.start (k + 1)) (by omega), d.take_start, d.upTo_succ hk,
    Description.start, List.getElem?_append_right (le_refl _), Nat.sub_self]
  rfl

/-- Nothing is found in a media line. -/
theorem not_takenAt_start (hk : k < d.media.length) : ¬ TakenAt f d.lines (d.start k) := by
  intro ⟨hempty, hfound⟩
  obtain ⟨hlt, hline⟩ := List.getElem?_eq_some_iff.mp (getElem_start hk)
  have hmline : parseMline d.lines[d.start k] ≠ none := by
    rw [hline, d.media[k].isMline]
    exact Option.some_ne_none _
  rw [scan_take_succ hlt, scanLine_stream, if_neg (fun h => hmline h.1)] at hfound
  exact hfound hempty

/-- A field is taken from a section exactly if the scan of the section finds it. -/
theorem takenWithin_iff (hf : Persistent f) (hk : k < d.media.length) :
    (∃ i, d.start k < i ∧ i < d.start (k + 1) ∧ TakenAt f d.lines i) ↔
      f (scan (d.upTo k)).stream = "" ∧ f (scan (d.upTo (k + 1))).stream ≠ "" := by
  rw [← d.take_start k, ← d.take_start (k + 1)]
  constructor
  · rintro ⟨i, hlow, hhigh, hempty, hfound⟩
    constructor
    · by_contra hbefore
      exact hf.mono hlow.le hbefore hempty
    · exact hf.mono hhigh hfound
  · intro ⟨hempty, hfound⟩
    obtain ⟨i, hlow, hhigh, htaken⟩ :=
      exists_takenAt (d.start_mono (Nat.le_succ k) hk) hempty hfound
    refine ⟨i, lt_of_le_of_ne hlow ?_, hhigh, htaken⟩
    rintro rfl
    exact not_takenAt_start hk htaken

/-- All that the scan has found of the stream is taken from one video section, and `index` lies
behind its media line and not behind the next one. -/
def Placed (lines : List String) (index : ℕ) : Prop :=
  let d := Description.ofLines lines
  ∃ k, d.isVideo k ∧
    (∃ i, d.start k < i ∧ i < d.start (k + 1) ∧ TakenAt Stream.ssrc lines i) ∧
    (∀ a : Attribute,
      ∃ i, d.start k < i ∧ i < d.start (k + 1) ∧ TakenAt (fun s => s.value a) lines i) ∧
    d.start k < index ∧ index ≤ d.start (k + 1)

namespace Description

/-- The first section that names a stream, of those that are read, describes it alone. If it is not
the last section, no section read after it has one after itself; if it is, no section read before
it has more than line 0. -/
def Confined (d : Description) : Prop :=
  ∃ k, d.reads k ∧ (∀ line ∈ d.readLines k, ∀ ssrc, ¬ Names line ssrc) ∧ Describes (d.body k) ∧
    ∀ j, d.reads j → j + 1 < d.media.length →
      if k + 1 < d.media.length then j ≤ k else d.start (j + 1) = 1

theorem lt_of_isVideo (h : d.isVideo k) : k < d.media.length := by
  by_contra hk
  rw [isVideo, List.getElem?_eq_none (by omega)] at h
  exact absurd h (by simp)

theorem isVideo_of_reads (h : d.reads k) : d.isVideo k := by
  cases k with
  | zero => exact h
  | succ k =>
    rw [reads, Bool.and_eq_true] at h
    exact h.1

end Description

theorem Describes.ne_nil {lines : List String} (h : Describes lines) : lines ≠ [] := by
  obtain ⟨before, first, after, -, rfl, -⟩ := h
  simp

/-- The stream is taken from a section exactly if the section is read, describes the stream, and
no section read before it names one. -/
theorem takenFrom_iff (hk : k < d.media.length) :
    ((∃ i, d.start k < i ∧ i < d.start (k + 1) ∧ TakenAt Stream.ssrc d.lines i) ∧
        ∀ a : Attribute, ∃ i, d.start k < i ∧ i < d.start (k + 1) ∧
          TakenAt (fun s => s.value a) d.lines i) ↔
      d.reads k ∧ (∀ line ∈ d.readLines k, ∀ ssrc, ¬ Names line ssrc) ∧ Describes (d.body k) := by
  simp only [takenWithin_iff persistent_ssrc hk, takenWithin_iff (persistent_value _) hk,
    (scanAt_upTo hk.le).stream, (scanAt_upTo hk).stream, Description.readLines, List.foldl_append]
  have hempty (a : Attribute) : ({} : Stream).value a = "" := by
    cases a <;> rfl
  constructor
  · intro h
    obtain ⟨⟨hbefore, hssrc⟩, hvalue⟩ := h
    have hread : d.reads k = true := by
      by_contra hread
      rw [if_neg hread] at hssrc
      exact hssrc hbefore
    rw [if_pos hread] at hssrc hvalue
    refine ⟨hread, (Stream.ssrc_foldl rfl).mp hbefore, ?_⟩
    rw [← Stream.complete_foldl hbefore fun a => (hvalue a).1, Stream.complete_iff]
    exact ⟨hssrc, fun a => (hvalue a).2⟩
  · intro h
    obtain ⟨hread, hunnamed, hdescribes⟩ := h
    obtain ⟨hssrc, hvalue⟩ := Stream.foldl_unnamed (s := {}) rfl hunnamed
    have hnone (a : Attribute) : ((d.readLines k).foldl Stream.read {}).value a = "" :=
      (hvalue a).trans (hempty a)
    rw [if_pos hread]
    obtain ⟨hfound, hall⟩ :=
      Stream.complete_iff.mp ((Stream.complete_foldl hssrc hnone).mpr hdescribes)
    exact ⟨⟨hssrc, hfound⟩, fun a => ⟨hnone a, hall a⟩⟩

/-- No section moves the index out of the section that the lines go into. -/
theorem others_of_within (hread : d.reads k) (hbody : d.body k ≠ [])
    (hlow : d.start k < insertAt d.lines) (hhigh : insertAt d.lines ≤ d.start (k + 1))
    (hj : d.reads j) (hnext : j + 1 < d.media.length) :
    if k + 1 < d.media.length then j ≤ k else d.start (j + 1) = 1 := by
  have hk := d.lt_of_isVideo (d.isVideo_of_reads hread)
  have hstart := d.start_succ hk
  have hlength := List.length_pos_iff.mpr hbody
  obtain ⟨j', hlast, hjj'⟩ := d.exists_lastFollowed hj hnext
  have hnext' := hlast.2.1
  have hj' := Nat.lt_of_succ_lt hnext'
  have hmono : d.start (j + 1) ≤ d.start (j' + 1) :=
    d.start_mono (Nat.succ_le_succ hjj') hnext'.le
  have hpos := d.start_succ_pos (Nat.lt_of_succ_lt hnext)
  have hat := hlast.insertAt_eq
  split_ifs with hfollowed
  · by_contra hlater
    have hgap := d.reads_gap hread hlast.1 (by omega)
    have hlaterStart := d.start_mono hgap hj'.le
    have hnextStart : d.start (k + 2) = d.start (k + 1) + 1 + (d.body (k + 1)).length :=
      d.start_succ hfollowed
    have hlastStart := d.start_succ hj'
    split_ifs at hat <;> omega
  · have hbefore : d.start (j' + 1) ≤ d.start k := d.start_mono (by omega) hk.le
    split_ifs at hat <;> omega

theorem within_of_others (hread : d.reads k) (hbody : d.body k ≠ [])
    (hothers : ∀ j, d.reads j → j + 1 < d.media.length →
      if k + 1 < d.media.length then j ≤ k else d.start (j + 1) = 1) :
    d.start k < insertAt d.lines ∧ insertAt d.lines ≤ d.start (k + 1) := by
  have hk := d.lt_of_isVideo (d.isVideo_of_reads hread)
  have hstart := d.start_succ hk
  have hlength := List.length_pos_iff.mpr hbody
  by_cases hfollowed : k + 1 < d.media.length
  · obtain ⟨j, hlast, hkj⟩ := d.exists_lastFollowed hread hfollowed
    have hjk := hothers j hlast.1 hlast.2.1
    rw [if_pos hfollowed] at hjk
    obtain rfl := le_antisymm hkj hjk
    have hat := hlast.insertAt_eq
    rw [if_neg (by omega)] at hat
    omega
  · rcases d.insertAt_cases with ⟨j, hlast, hne, -⟩ | ⟨-, hat⟩
    · have hone := hothers j hlast.1 hlast.2.1
      rw [if_neg hfollowed] at hone
      exact absurd hone hne
    · rw [show d.media.length = k + 1 by omega] at hat
      omega

theorem placed_iff (lines : List String) :
    Placed lines (insertAt lines) ↔ (Description.ofLines lines).Confined := by
  have hlines := Description.ofLines_lines lines
  unfold Placed
  dsimp only
  generalize Description.ofLines lines = d at hlines ⊢
  subst hlines
  constructor
  · intro ⟨k, hvideo, hssrc, hvalue, hindex⟩
    obtain ⟨hread, hunnamed, hdescribes⟩ :=
      (takenFrom_iff (d.lt_of_isVideo hvideo)).mp ⟨hssrc, hvalue⟩
    exact ⟨k, hread, hunnamed, hdescribes,
      fun j => others_of_within hread hdescribes.ne_nil hindex.1 hindex.2⟩
  · intro ⟨k, hread, hunnamed, hdescribes, hothers⟩
    have hvideo := d.isVideo_of_reads hread
    obtain ⟨hssrc, hvalue⟩ :=
      (takenFrom_iff (d.lt_of_isVideo hvideo)).mpr ⟨hread, hunnamed, hdescribes⟩
    exact ⟨k, hvideo, hssrc, hvalue, within_of_others hread hdescribes.ne_nil hothers⟩

theorem injectSimulcast_ne_iff_canInject {simulcast : ℤ} {draws : ℕ → Draw} :
    injectSimulcast simulcast lines draws ≠ lines ↔
      (simulcast = 1 ∨ simulcast = 2) ∧ (Description.ofLines lines).CanInject := by
  have hlines := Description.ofLines_lines lines
  generalize Description.ofLines lines = d at hlines ⊢
  subst hlines
  rw [injectSimulcast_ne_iff, complete_scan, hasSimulcast_scan, List.any_eq_false,
    Description.CanInject, and_comm (a := Describes _)]
  simp

/-- Injected lines repeat one video section and lie inside it exactly if the description is
confined to that section. -/
theorem injected_placed_iff (simulcast : ℤ) (lines : List String) (draws : ℕ → Draw) :
    (injectSimulcast simulcast lines draws ≠ lines →
        (∃ block, injectSimulcast simulcast lines draws =
          lines.take (insertAt lines) ++ block ++ lines.drop (insertAt lines)) ∧
        Placed lines (insertAt lines)) ↔
      (simulcast = 1 ∨ simulcast = 2 → (Description.ofLines lines).CanInject →
        (Description.ofLines lines).Confined) := by
  rw [← and_imp, ← injectSimulcast_ne_iff_canInject, ← placed_iff]
  exact imp_congr_right fun hne => and_iff_right ⟨_, (injectSimulcast_eq.resolve_left hne).2⟩

/-- A video section that describes a stream, and a second one of the media line only. -/
def twoVideos : List String :=
  ["v=0\r", "m=video 9 \r", "a=ssrc:7 cname:c\r", "a=ssrc:7 mslabel:m\r", "a=ssrc:7 label:l\r",
    "m=audio 9 \r", "m=video 9 \r", "m=audio 9 \r"]

def drawOne : ℕ → Draw := fun _ => ⟨1, by decide⟩

/-- The lines go to the end of the audio section between them. -/
theorem injected_not_placed :
    injectSimulcast 1 twoVideos drawOne ≠ twoVideos ∧ ¬ Placed twoVideos (insertAt twoVideos) := by
  have hinsert : insertAt twoVideos = 6 := by decide
  constructor
  · rw [injectSimulcast_ne_iff]
    decide
  · rintro ⟨k, hvideo, -, -, hlow, hhigh⟩
    rw [hinsert] at hlow hhigh
    have hk := Description.lt_of_isVideo hvideo
    rw [show (Description.ofLines twoVideos).media.length = 4 by decide] at hk
    interval_cases k
    · exact absurd hhigh (by decide)
    · exact absurd hvideo (by decide)
    · exact absurd hlow (by decide)
    · exact absurd hvideo (by decide)

end SDPUtils
end MediasoupSdk
