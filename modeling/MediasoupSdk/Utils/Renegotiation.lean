import MediasoupSdk.Utils.Placement

/-! A description that is munged again. The simulcast that is already there is found only in a
section that the scan reads. -/
namespace MediasoupSdk
open Foundation
namespace SDPUtils

variable {lines block : List String} {line : String} {s : Stream} {draws : ℕ → Draw} {n i j p : ℕ}
  {st st' : ScanState}

/-- The position of a line is without effect on what is read. -/
theorem scanLine_agree (hs : st.stream = st'.stream) (hv : st.video = st'.video) :
    (scanLine i st line).stream = (scanLine j st' line).stream ∧
      (scanLine i st line).video = (scanLine j st' line).video := by
  rw [scanLine_stream, scanLine_stream, hs, hv]
  refine ⟨rfl, ?_⟩
  unfold scanLine
  rw [hv]
  split_ifs
  · rfl
  · rfl
  · rfl
  · exact hv

theorem scanFrom_agree (hs : st.stream = st'.stream) (hv : st.video = st'.video) :
    (scanFrom i st lines).stream = (scanFrom j st' lines).stream := by
  induction lines generalizing i j st st' with
  | nil => exact hs
  | cons line lines ih =>
    obtain ⟨hs', hv'⟩ := @scanLine_agree line i j st st' hs hv
    exact ih hs' hv'

/-- A simulcast that is found stays found. -/
theorem hasSimulcast_scanFrom (h : st.stream.hasSimulcast = true) :
    (scanFrom i st lines).stream.hasSimulcast = true := by
  induction lines generalizing i st with
  | nil => exact h
  | cons line lines ih =>
    apply ih
    rw [scanLine_stream]
    split_ifs
    · rw [Stream.hasSimulcast_read, h, Bool.true_or]
    · exact h

/-- Lines without a media line are found where a section is read, and passed over elsewhere. -/
theorem scan_inserted (hblock : ∀ line ∈ block, parseMline line = none)
    (hsim : block.any isSimLine = true) :
    if (scan (lines.take p)).video then
      (scan (lines.take p ++ block ++ lines.drop p)).stream.hasSimulcast = true
    else
      (scan (lines.take p ++ block ++ lines.drop p)).stream = (scan lines).stream := by
  have hscan : scan (lines.take p ++ block ++ lines.drop p) =
      scanFrom ((lines.take p).length + block.length)
        (scanFrom (lines.take p).length (scan (lines.take p)) block) (lines.drop p) := by
    rw [List.append_assoc, scan_append, scanFrom_append]
  have hlines : scan lines =
      scanFrom (lines.take p).length (scan (lines.take p)) (lines.drop p) := by
    rw [← scan_append, List.take_append_drop]
  rw [hscan, scanFrom_body hblock]
  split_ifs with hv
  · apply hasSimulcast_scanFrom
    rw [Stream.hasSimulcast_foldl, hsim, Bool.or_true]
  · rw [hlines]
    exact scanFrom_agree rfl rfl

theorem parseMline_of_clash {start rest : String}
    (hc : Clash Char.toLower start.toList "m=".toList) : parseMline (start ++ rest) = none := by
  have hstarts : start.toList <+: (start ++ rest).toList := by
    rw [String.toList_append]
    exact List.prefix_append _ _
  have hnone : matchPieces Char.toLower mlinePieces (start ++ rest).toList = none :=
    matchPieces_clash_literal hc (matchPieces_of_starts hstarts)
  rw [parseMline, hnone]

theorem parseMline_ssrcLines {ssrc : String} (h : line ∈ ssrcLines s ssrc) :
    parseMline line = none := by
  have hc : Clash Char.toLower "a=ssrc:".toList "m=".toList := by decide
  simp only [ssrcLines, List.mem_cons, List.not_mem_nil, or_false, String.append_assoc] at h
  rcases h with rfl | rfl | rfl | rfl
  · exact parseMline_of_clash hc
  · exact parseMline_of_clash hc
  · exact parseMline_of_clash hc
  · exact parseMline_of_clash hc

theorem parseMline_groupLines {fid : Bool} {ssrcs : String × String}
    (h : line ∈ groupLines s fid ssrcs) : parseMline line = none := by
  have hc : Clash Char.toLower "a=ssrc-group:FID ".toList "m=".toList := by decide
  unfold groupLines at h
  split_ifs at h
  · rw [List.mem_append, List.mem_append, List.mem_singleton] at h
    rcases h with (rfl | h) | h
    · simp only [String.append_assoc]
      exact parseMline_of_clash hc
    · exact parseMline_ssrcLines h
    · exact parseMline_ssrcLines h
  · exact parseMline_ssrcLines h

theorem parseMline_simulcastLines : ∀ line ∈ simulcastLines s n draws, parseMline line = none := by
  intro line h
  rw [simulcastLines_eq, List.mem_append, List.mem_flatMap, List.mem_singleton] at h
  rcases h with ⟨ssrcs, -, h⟩ | rfl
  · exact parseMline_groupLines h
  · have hc : Clash Char.toLower "a=ssrc-group:SIM ".toList "m=".toList := by decide
    rw [simLine_eq]
    exact parseMline_of_clash hc

theorem isSimLine_simLine {primaries : List String} : isSimLine (simLine s primaries) = true := by
  rw [isSimLine, List.isPrefixOf_iff_prefix, simLine_eq, String.toList_append]
  exact List.prefix_append _ _

theorem any_isSimLine : (simulcastLines s n draws).any isSimLine = true := by
  rw [simulcastLines_eq, List.any_append, List.any_cons, isSimLine_simLine, Bool.true_or,
    Bool.or_true]

namespace Description

variable {d : Description}

/-- The last section whose end the scan has seen has room for the lines, or is line 0. -/
def LastHasRoom (d : Description) : Prop :=
  ∀ j, d.LastFollowed j → d.body j ≠ [] ∨ d.start j = 0

/-- A video section groups the streams of a simulcast. -/
def HasSimulcast (d : Description) : Prop :=
  ∃ k, d.isVideo k ∧ ∃ line ∈ d.body k, isSimLine line

/-- Behind a media line the scan reads exactly if the section is read. -/
theorem video_within {k : ℕ} (hk : k < d.media.length) (hlow : d.start k < p)
    (hhigh : p ≤ d.start (k + 1)) :
    (scan (d.lines.take p)).video = d.reads k := by
  obtain ⟨q, rfl⟩ : ∃ q, p = d.start k + (q + 1) := ⟨p - d.start k - 1, by omega⟩
  let m : MediaSection := { d.media[k] with
    body := d.media[k].body.take q
    noMline := fun line h => d.media[k].noMline line (List.mem_of_mem_take h) }
  have htake : d.lines.take (d.start k + (q + 1)) = d.upTo k ++ m.lines := by
    rw [← Nat.min_eq_left hhigh, ← List.take_take, d.take_start, d.upTo_succ hk, start,
      List.take_length_add_append]
    rfl
  rw [htake, scan_append, scanFrom_section, (scanAt_upTo hk.le).reads_eq hk]
  split_ifs with hv htype
  · rfl
  · exact (decide_eq_true htype).symm
  · rw [decide_eq_false htype]
    simpa using hv

theorem exists_body_of_readLines (h : d.readLines n ≠ []) :
    ∃ k < n, d.reads k ∧ d.body k ≠ [] := by
  induction n with
  | zero => exact absurd rfl h
  | succ n ih =>
    by_cases hn : d.reads n ∧ d.body n ≠ []
    · exact ⟨n, Nat.lt_succ_self n, hn⟩
    · have hempty : (if d.reads n then d.body n else []) = [] := by
        split_ifs with hread
        · by_contra hbody
          exact hn ⟨hread, hbody⟩
        · rfl
      rw [readLines, hempty, List.append_nil] at h
      obtain ⟨k, hk, hread⟩ := ih h
      exact ⟨k, Nat.lt_succ_of_lt hk, hread⟩

/-- Where the lines go the scan reads exactly if the last section it has seen the end of has room
for them. -/
theorem video_insertAt (h : d.CanInject) :
    (scan (d.lines.take (insertAt d.lines))).video = true ↔ d.LastHasRoom := by
  rcases d.insertAt_cases with ⟨j, hlast, hne, hat⟩ | ⟨hall, hat⟩
  · have hj := Nat.lt_of_succ_lt hlast.2.1
    have hstart := d.start_succ hj
    rw [hat]
    cases hbody : d.body j with
    | nil =>
      -- the lines go before the media line, behind a section that is not read
      rw [hbody, List.length_nil] at hstart
      have hroom : ¬ d.LastHasRoom := by
        intro hroom
        rcases hroom j hlast with hne' | hzero
        · exact hne' hbody
        · omega
      rw [show d.start (j + 1) - 1 = d.start j by omega, d.take_start]
      refine iff_of_false (fun hvideo => ?_) hroom
      obtain ⟨i, rfl, hread⟩ := (scanAt_upTo hj.le).video.mp hvideo
      exact absurd hlast.1 (by simp [reads, hread])
    | cons line body =>
      rw [hbody, List.length_cons] at hstart
      rw [video_within hj (by omega) (by omega)]
      refine iff_of_true hlast.1 fun j' hlast' => ?_
      rw [← hlast.unique hlast', hbody]
      exact .inl (List.cons_ne_nil line body)
  · obtain ⟨k, hk, hread, hbody⟩ := exists_body_of_readLines h.1.ne_nil
    have hend : k + 1 = d.media.length := by
      by_contra hnext
      obtain ⟨j, hlast, hkj⟩ := d.exists_lastFollowed hread (by omega)
      have hmono : d.start (k + 1) ≤ d.start (j + 1) :=
        d.start_mono (Nat.succ_le_succ hkj) hlast.2.1.le
      have hone := hall j hlast
      have hstart := d.start_succ hk
      have hlength := List.length_pos_iff.mpr hbody
      omega
    rw [hat, d.take_start]
    refine iff_of_true ((scanAt_upTo (le_refl _)).video.mpr ⟨k, hend, hread⟩) fun j hlast => ?_
    have hone := hall j hlast
    have hstart := d.start_succ (Nat.lt_of_succ_lt hlast.2.1)
    right
    omega

end Description

/-- A second call finds the simulcast of the first exactly if the lines went where it reads. -/
theorem injectSimulcast_again_iff {a b : ℤ} {draws draws' : ℕ → Draw}
    (h : injectSimulcast a lines draws ≠ lines) :
    injectSimulcast b (injectSimulcast a lines draws) draws' = injectSimulcast a lines draws ↔
      (b = 1 ∨ b = 2 → (scan (lines.take (insertAt lines))).video = true) := by
  obtain ⟨-, hsim, hcomplete⟩ := injectSimulcast_ne_iff.mp h
  obtain ⟨-, heq⟩ := injectSimulcast_eq.resolve_left h
  have hblock : ∀ line ∈ simulcastLines (scan lines).stream a.toNat draws, parseMline line = none :=
    parseMline_simulcastLines
  have hscan := @scan_inserted lines _ (insertAt lines) hblock any_isSimLine
  rw [← heq] at hscan
  rw [← not_iff_not, ← ne_eq, injectSimulcast_ne_iff]
  split_ifs at hscan with hv
  · simp [hscan, hv]
  · rw [hscan]
    simp [hv, hsim, hcomplete, or_iff_not_imp_left]

/-- Injecting again changes nothing exactly if the first call found room in the section it put its
lines next to; and a simulcast in a video section is found exactly if a section that is read has
one, where a stream is found at all. -/
theorem injectSimulcast_once_iff (a b : ℤ) (lines : List String) (draws draws' : ℕ → Draw) :
    ((injectSimulcast a lines draws ≠ lines →
        injectSimulcast b (injectSimulcast a lines draws) draws' =
          injectSimulcast a lines draws) ↔
      (a = 1 ∨ a = 2 → (Description.ofLines lines).CanInject → b = 1 ∨ b = 2 →
        (Description.ofLines lines).LastHasRoom)) ∧
    (((Description.ofLines lines).HasSimulcast → injectSimulcast b lines draws' = lines) ↔
      ((Description.ofLines lines).HasSimulcast → b = 1 ∨ b = 2 →
        ¬ (Description.ofLines lines).CanInject)) := by
  constructor
  · rw [injectSimulcast_ne_iff_canInject, and_imp]
    refine imp_congr_right fun ha => imp_congr_right fun hinject => ?_
    rw [injectSimulcast_again_iff (injectSimulcast_ne_iff_canInject.mpr ⟨ha, hinject⟩)]
    have hroom := Description.video_insertAt hinject
    rw [Description.ofLines_lines] at hroom
    rw [hroom]
  · refine imp_congr_right fun _ => ?_
    rw [← not_iff_not, ← ne_eq, injectSimulcast_ne_iff_canInject]
    simp

/-- Of three video sections the middle one is not read, and the lines go to its end. -/
def threeVideos : List String :=
  ["v=0\r", "m=video 9 \r", "a=ssrc:7 cname:c\r", "a=ssrc:7 mslabel:m\r", "a=ssrc:7 label:l\r",
    "m=video 9 \r", "m=video 9 \r", "m=audio 9 \r"]

/-- The second call injects another simulcast. -/
theorem injectSimulcast_twice :
    injectSimulcast 1 threeVideos drawOne ≠ threeVideos ∧
      (Description.ofLines (injectSimulcast 1 threeVideos drawOne)).HasSimulcast ∧
      injectSimulcast 1 (injectSimulcast 1 threeVideos drawOne) drawOne ≠
        injectSimulcast 1 threeVideos drawOne := by
  refine ⟨?_, ⟨1, by decide, by decide⟩, ?_⟩
  · rw [injectSimulcast_ne_iff]
    decide
  · rw [injectSimulcast_ne_iff]
    decide

end SDPUtils
end MediasoupSdk
