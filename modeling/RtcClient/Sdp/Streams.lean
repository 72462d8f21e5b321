import Mathlib.Data.List.Nodup
import RtcClient.Sdp.MediaSection
import RtcClient.Lib.Tokens
import RtcClient.Lib.Checked

/-!
# Streams of an offered section

The `a=ssrc` and `a=ssrc-group` lines of a section (`deps/libmediasoupclient/src/sdp/Utils.cpp`):
the encodings that are read from them, and the legacy simulcast that is written over them when
a VP9 encoder sends several spatial layers. What is written is read back as one encoding a
layer, provided that the streams and their retransmissions have different numbers.
-/

namespace RtcClient.Sdp

open RtcClient.Ortc RtcClient.Lib

/-- Conversion to `uint32_t`. -/
def u32 (n : Nat) : Nat := n % 2 ^ 32

/-- The conversion of a token to a number; `std::stoull` throws when there is no digit and when
the number has more than 64 bits, and takes a minus sign modulo 2 ^ 64. -/
def stoull (s : String) : Except Failure Nat :=
  match readNumber s with
  | some (negative, n) =>
    if n < 2 ^ 64 then .ok (if negative then (2 ^ 64 - n) % 2 ^ 64 else n) else .error .outOfRange
  | none => .error .invalidArgument

/-- Reading an element of a vector without a check. -/
def token (v : List String) (i : Nat) : Except Failure String :=
  match v[i]? with
  | some s => .ok s
  | none => .error .undefined

/-- `std::list::unique`: of equal neighbours the first one stays. -/
def unique : List Nat → List Nat
  | [] => []
  | a :: l => match unique l with
    | [] => [a]
    | b :: r => if a = b then b :: r else a :: b :: r

/-- `getCname`: the value of the first line, whatever it is about; `Utils.cpp:388–411`. -/
def getCname (m : MediaObject) : String :=
  match m.ssrcs with
  | [] => ""
  | line :: _ => line.value

/-- The streams that are not retransmissions, and the retransmission of each. -/
structure Pairing where
  ssrcs : List Nat
  rtx : List (Nat × Nat) := []
  deriving DecidableEq, Repr

/-- One group of a section; `Utils.cpp:438–454`. -/
def Pairing.step (p : Pairing) (group : SsrcGroup) : Except Failure Pairing :=
  if group.semantics ≠ "FID" then .ok p
  else do
    let v := split group.ssrcs ' '
    let ssrc ← stoull (← token v 0)
    let rtxSsrc ← stoull (← token v 1)
    return { ssrcs := p.ssrcs.filter (· ≠ u32 rtxSsrc), rtx := (u32 ssrc, u32 rtxSsrc) :: p.rtx }

/-- `getRtpEncodings`; `Utils.cpp:413–476`. The parser leaves the list of a section without
`a=ssrc` lines out, and the list is read without a check, so the error for an empty one is never
thrown. -/
def getRtpEncodings (m : MediaObject) : Except Failure (List RtpEncodingParameters) :=
  if m.ssrcs.isEmpty then .error .undefined
  else do
    let start : Pairing := { ssrcs := unique (m.ssrcs.map fun line ↦ u32 line.id) }
    let p ← m.ssrcGroups.foldlM Pairing.step start
    return p.ssrcs.map fun ssrc ↦ { ssrc := some ssrc, rtx := p.rtx.lookup ssrc }

/-- The retransmission of a stream: the second number of the first group that starts with it,
whatever the group is for, or 0; `Utils.cpp:253–282`. -/
def findRtxSsrc (ssrc : Nat) : List SsrcGroup → Except Failure Nat
  | [] => .ok 0
  | group :: groups => do
    let v := split group.ssrcs ' '
    if (← stoull (← token v 0)) = ssrc then return u32 (← stoull (← token v 1))
    else findRtxSsrc ssrc groups

/-- The two lines of a stream. -/
def streamLines (cname msid : String) (ssrc : Nat) : List SsrcLine :=
  [⟨ssrc, "cname", cname⟩, ⟨ssrc, "msid", msid⟩]

/-- The number of a layer, from the number of the first. -/
def layerSsrc (first i : Nat) : Nat := u32 (first + i)

/-- The numbers of the layers, and those of their retransmissions if the first layer has one;
`Utils.cpp:303–309`. -/
def layerSsrcs (ssrc numStreams : Nat) : List Nat := (List.range numStreams).map (layerSsrc ssrc)

@[inherit_doc layerSsrcs]
def rtxLayerSsrcs (rtxSsrc numStreams : Nat) : List Nat :=
  if rtxSsrc = 0 then [] else layerSsrcs rtxSsrc numStreams

/-- A group that pairs a stream with its retransmission. -/
def fidGroup (p : Nat × Nat) : SsrcGroup :=
  ⟨"FID", toString p.1 ++ String.singleton ' ' ++ toString p.2⟩

/-- The section with a stream for each layer; `Utils.cpp:300–385`. -/
def writeLayers (m : MediaObject) (numStreams ssrc rtxSsrc : Nat) (cname msid : String) :
    MediaObject :=
  let ssrcs := layerSsrcs ssrc numStreams
  let rtxSsrcs := rtxLayerSsrcs rtxSsrc numStreams
  { m with
    ssrcGroups := ⟨"SIM", " ".intercalate (ssrcs.map toString)⟩ ::
      (ssrcs.zip rtxSsrcs).map fidGroup
    ssrcs := ssrcs.flatMap (streamLines cname msid) ++ rtxSsrcs.flatMap (streamLines cname msid) }

/-- `addLegacySimulcast`; `Utils.cpp:220–386`. -/
def addLegacySimulcast (m : MediaObject) (numStreams : Nat) : Except Failure MediaObject :=
  if numStreams ≤ 1 then .ok m
  else
    match m.ssrcs.find? fun line ↦ line.attr == "msid" with
    | none => .error (.error "a=ssrc line with msid information not found")
    | some msidLine => do
      let v := split msidLine.value ' '
      let streamId ← token v 0
      let trackId ← token v 1
      let ssrc := u32 msidLine.id
      let rtxSsrc ← findRtxSsrc ssrc m.ssrcGroups
      match m.ssrcs.find? fun line ↦ line.attr == "cname" with
      | none => throw (.error "CNAME line not found")
      | some cnameLine =>
        return writeLayers m numStreams ssrc rtxSsrc cnameLine.value (streamId ++ " " ++ trackId)

section Unique

private theorem head?_unique (l : List Nat) : (unique l).head? = l.head? := by
  induction l with
  | nil => rfl
  | cons a l ih =>
    simp only [unique]
    split
    · rfl
    · split
      · next h => simp [h]
      · rfl

private theorem mem_of_mem_unique {a : Nat} {l : List Nat} (h : a ∈ unique l) : a ∈ l := by
  induction l with
  | nil => exact h
  | cons b l ih =>
    simp only [unique] at h
    split at h
    · exact List.mem_cons.mpr (.inl (by simpa using h))
    · next b' r hu =>
      split at h
      · exact List.mem_cons_of_mem _ (ih (hu ▸ h))
      · rcases List.mem_cons.mp h with rfl | h
        · simp
        · exact List.mem_cons_of_mem _ (ih (hu ▸ h))

/-- Two lines for each stream count once. -/
theorem unique_flatMap_pair (l : List Nat) : unique (l.flatMap fun a ↦ [a, a]) = unique l := by
  induction l with
  | nil => rfl
  | cons a l ih =>
    rw [List.flatMap_cons]
    simp only [List.cons_append, List.nil_append, unique, ih]
    cases unique l with
    | nil => simp
    | cons b r =>
      by_cases hab : a = b
      · simp [hab]
      · simp [hab]

/-- Streams that are different from each other all stay, up to those that are
retransmissions. -/
theorem filter_unique_append {l r : List Nat} (hl : l.Nodup) :
    (unique (l ++ r)).filter (· ∉ r) = l.filter (· ∉ r) := by
  induction l with
  | nil =>
    rw [List.nil_append, List.filter_eq_nil_iff.mpr]
    · rfl
    · intro a ha
      simpa using mem_of_mem_unique ha
  | cons a l ih =>
    rw [List.nodup_cons] at hl
    have ih := ih hl.2
    have hhead := head?_unique (l ++ r)
    rw [List.cons_append, unique]
    cases hu : unique (l ++ r) with
    | nil =>
      rw [hu] at ih
      simp only [List.filter_cons, ← ih, List.filter_nil]
    | cons b t =>
      rw [hu] at ih hhead
      by_cases hab : a = b
      · -- the neighbour is the first retransmission, which is dropped
        subst hab
        have har : a ∈ r := by
          cases l with
          | nil => exact List.mem_of_head? (by simpa using hhead.symm)
          | cons c l => simp_all
        simp only [if_true, ih]
        simp [har]
      · simp only [if_neg hab]
        rw [List.filter_cons, ih, List.filter_cons]

end Unique

section Layers

private theorem u32_of_lt {n : Nat} (h : n < 2 ^ 32) : u32 n = n := Nat.mod_eq_of_lt h

private theorem layerSsrc_lt (first i : Nat) : layerSsrc first i < 2 ^ 32 :=
  Nat.mod_lt _ (by decide)

/-- The layers of a stream have different numbers, also behind the last number. -/
theorem layerSsrc_inj {first i j : Nat} (hi : i < 2 ^ 32) (hj : j < 2 ^ 32)
    (h : layerSsrc first i = layerSsrc first j) : i = j := by
  simp only [layerSsrc, u32] at h
  omega

private theorem nodup_layerSsrcs (first : Nat) {n : Nat} (hn : n ≤ 2 ^ 32) :
    (layerSsrcs first n).Nodup := by
  refine List.Nodup.map_on ?_ List.nodup_range
  intro i hi j hj hij
  rw [List.mem_range] at hi hj
  exact layerSsrc_inj (by omega) (by omega) hij

private theorem lt_of_mem_layerSsrcs {first n a : Nat} (h : a ∈ layerSsrcs first n) :
    a < 2 ^ 32 := by
  obtain ⟨i, -, rfl⟩ := List.mem_map.mp h
  exact layerSsrc_lt first i

private theorem lt_of_mem_rtxLayerSsrcs {first n a : Nat} (h : a ∈ rtxLayerSsrcs first n) :
    a < 2 ^ 32 := by
  rw [rtxLayerSsrcs] at h
  split at h
  · cases h
  · exact lt_of_mem_layerSsrcs h

private theorem stoull_toString {n : Nat} (h : n < 2 ^ 32) : stoull (toString n) = .ok n := by
  have h : n < 2 ^ 64 := by omega
  rw [stoull, readNumber_repr]
  exact if_pos h

private theorem Pairing.step_fidGroup (p : Pairing) {q : Nat × Nat} (ha : q.1 < 2 ^ 32)
    (hb : q.2 < 2 ^ 32) :
    p.step (fidGroup q) = .ok { ssrcs := p.ssrcs.filter (· ≠ q.2), rtx := q :: p.rtx } := by
  have hsplit : split (fidGroup q).ssrcs ' ' = [toString q.1, toString q.2] := by
    apply split_pair (sep_notMem_repr (by decide) q.1) (sep_notMem_repr (by decide) q.2)
    rw [Nat.toString_eq_repr]
    exact Nat.repr_ne_empty
  have hgroup : ¬ (fidGroup q).semantics ≠ "FID" := by simp [fidGroup]
  rw [Pairing.step, if_neg hgroup]
  simp only [hsplit, token, List.getElem?_cons_zero, List.getElem?_cons_succ,
    stoull_toString ha, stoull_toString hb, u32_of_lt ha, u32_of_lt hb, bind, Except.bind]
  rfl

/-- The groups of all pairs drop every retransmission and record it. -/
theorem Pairing.foldlM_fidGroup (pairs : List (Nat × Nat)) (p : Pairing)
    (h : ∀ q ∈ pairs, q.1 < 2 ^ 32 ∧ q.2 < 2 ^ 32) :
    (pairs.map fidGroup).foldlM Pairing.step p =
      .ok { ssrcs := p.ssrcs.filter (· ∉ pairs.map Prod.snd), rtx := pairs.reverse ++ p.rtx } := by
  induction pairs generalizing p with
  | nil => simp [pure, Except.pure]
  | cons q pairs ih =>
    obtain ⟨ha, hb⟩ := h q (by simp)
    rw [List.map_cons, List.foldlM_cons, Pairing.step_fidGroup p ha hb]
    refine (ih _ fun q hq ↦ h q (by simp [hq])).trans ?_
    rw [List.filter_filter]
    simp [Bool.and_comm, -List.mem_map]

private theorem zip_rtxLayerSsrcs (ssrc rtxSsrc n : Nat) :
    (layerSsrcs ssrc n).zip (rtxLayerSsrcs rtxSsrc n) =
      if rtxSsrc = 0 then []
      else (List.range n).map fun i ↦ (layerSsrc ssrc i, layerSsrc rtxSsrc i) := by
  rw [rtxLayerSsrcs]
  split
  · simp
  · rw [layerSsrcs, layerSsrcs, List.zip_map']

private theorem map_snd_zip_rtxLayerSsrcs (ssrc rtxSsrc n : Nat) :
    ((layerSsrcs ssrc n).zip (rtxLayerSsrcs rtxSsrc n)).map Prod.snd = rtxLayerSsrcs rtxSsrc n := by
  rw [zip_rtxLayerSsrcs, rtxLayerSsrcs]
  split
  · rfl
  · simp [layerSsrcs]

/-- What is read of a layer. -/
def layerEncoding (ssrc rtxSsrc i : Nat) : RtpEncodingParameters :=
  { ssrc := some (layerSsrc ssrc i)
    rtx := if rtxSsrc = 0 then none else some (layerSsrc rtxSsrc i) }

/-- The last pair written for a layer is the only one. -/
theorem lookup_layerSsrc (ssrc rtxSsrc : Nat) {n i : Nat} (hn : n ≤ 2 ^ 32) (hi : i < n) :
    ((layerSsrcs ssrc n).zip (rtxLayerSsrcs rtxSsrc n)).reverse.lookup (layerSsrc ssrc i) =
      (layerEncoding ssrc rtxSsrc i).rtx := by
  rw [zip_rtxLayerSsrcs, layerEncoding]
  split
  · rfl
  · obtain ⟨l₁, l₂, hl⟩ := List.append_of_mem (List.mem_range.mpr hi)
    have hnodup : (l₁ ++ i :: l₂).Nodup := hl ▸ List.nodup_range
    rw [hl, List.map_append, List.reverse_append, List.map_cons, List.reverse_cons,
      List.append_assoc]
    refine List.lookup_eq_some_iff.mpr ⟨_, _, rfl, ?_⟩
    intro p hp
    obtain ⟨j, hj, rfl⟩ := List.mem_map.mp (List.mem_reverse.mp hp)
    have hjn : j < n := List.mem_range.mp (hl ▸ by simp [hj])
    have hij : i ≠ j := by
      rintro rfl
      simp_all [List.nodup_append]
    simpa using fun h ↦ hij (layerSsrc_inj (by omega) (by omega) h)

/-- The encodings of a section with a stream for each layer: a layer is lost when its number is
that of a retransmission. -/
theorem getRtpEncodings_writeLayers (m : MediaObject) (ssrc rtxSsrc : Nat) (cname msid : String)
    {n : Nat} (hn : n ≤ 2 ^ 32) (hpos : 0 < n) :
    getRtpEncodings (writeLayers m n ssrc rtxSsrc cname msid) =
      .ok (((List.range n).filter (layerSsrc ssrc · ∉ rtxLayerSsrcs rtxSsrc n)).map
        (layerEncoding ssrc rtxSsrc)) := by
  have hlines : ∀ l : List Nat, (∀ a ∈ l, a < 2 ^ 32) →
      (l.flatMap (streamLines cname msid)).map (fun line ↦ u32 line.id) =
        l.flatMap fun a ↦ [a, a] := by
    intro l hl
    rw [List.map_flatMap]
    refine List.flatMap_congr fun a ha ↦ ?_
    simp [streamLines, u32_of_lt (hl a ha)]
  have hids : (writeLayers m n ssrc rtxSsrc cname msid).ssrcs.map (fun line ↦ u32 line.id) =
      (layerSsrcs ssrc n ++ rtxLayerSsrcs rtxSsrc n).flatMap fun a ↦ [a, a] := by
    rw [List.flatMap_append, writeLayers, List.map_append,
      hlines _ fun a ha ↦ lt_of_mem_layerSsrcs ha, hlines _ fun a ha ↦ lt_of_mem_rtxLayerSsrcs ha]
  have hne : (writeLayers m n ssrc rtxSsrc cname msid).ssrcs.isEmpty = false := by
    obtain ⟨k, rfl⟩ : ∃ k, n = k + 1 := ⟨n - 1, by omega⟩
    simp [writeLayers, layerSsrcs, List.range_succ_eq_map, streamLines]
  have hgroups : ∀ p : Pairing,
      (writeLayers m n ssrc rtxSsrc cname msid).ssrcGroups.foldlM Pairing.step p = .ok
        { ssrcs := p.ssrcs.filter (· ∉ rtxLayerSsrcs rtxSsrc n)
          rtx := ((layerSsrcs ssrc n).zip (rtxLayerSsrcs rtxSsrc n)).reverse ++ p.rtx } := by
    intro p
    have hpairs := Pairing.foldlM_fidGroup ((layerSsrcs ssrc n).zip (rtxLayerSsrcs rtxSsrc n)) p
      fun q hq ↦ ⟨lt_of_mem_layerSsrcs (List.of_mem_zip hq).1,
        lt_of_mem_rtxLayerSsrcs (List.of_mem_zip hq).2⟩
    rw [map_snd_zip_rtxLayerSsrcs] at hpairs
    -- the group of all layers comes first and is passed over
    exact hpairs
  rw [getRtpEncodings, hne, if_neg (by simp), hids, unique_flatMap_pair]
  simp only [hgroups, bind, Except.bind, pure, Except.pure, List.append_nil]
  rw [filter_unique_append (nodup_layerSsrcs ssrc hn), layerSsrcs, List.filter_map, List.map_map]
  refine congrArg Except.ok (List.map_congr_left fun i hi ↦ ?_)
  have hin : i < n := List.mem_range.mp (List.mem_filter.mp hi).1
  have hrtx := lookup_layerSsrc ssrc rtxSsrc hn hin
  rw [layerSsrcs] at hrtx
  simp only [Function.comp_apply, hrtx]
  rfl

/-- What the legacy simulcast writes, and from what. -/
theorem addLegacySimulcast_eq_ok {m m' : MediaObject} {n : Nat} (hn : 1 < n)
    (h : addLegacySimulcast m n = .ok m') :
    ∃ line rtxSsrc cname msid, m.ssrcs.find? (fun line ↦ line.attr == "msid") = some line ∧
      findRtxSsrc (u32 line.id) m.ssrcGroups = .ok rtxSsrc ∧
      m' = writeLayers m n (u32 line.id) rtxSsrc cname msid := by
  rw [addLegacySimulcast, if_neg (by omega)] at h
  split at h
  · cases h
  · next line hline =>
    obtain ⟨streamId, -, h⟩ := bind_eq_ok.mp h
    obtain ⟨trackId, -, h⟩ := bind_eq_ok.mp h
    obtain ⟨rtxSsrc, hrtx, h⟩ := bind_eq_ok.mp h
    split at h
    · cases h
    · exact ⟨line, rtxSsrc, _, _, hline, hrtx, (pure_eq_ok.mp h).symm⟩

/-- What the legacy simulcast writes is read back as the encodings of the layers, in their
order. A layer is missing exactly if its number is also the number of a retransmission, so all
are read if and only if the two runs of numbers do not meet. -/
theorem getRtpEncodings_addLegacySimulcast {m m' : MediaObject} {n : Nat} (hn : 1 < n)
    (hbyte : n < 256) (h : addLegacySimulcast m n = .ok m') :
    ∃ line rtxSsrc layers, m.ssrcs.find? (fun line ↦ line.attr == "msid") = some line ∧
      findRtxSsrc (u32 line.id) m.ssrcGroups = .ok rtxSsrc ∧
      layers = (List.range n).filter (layerSsrc (u32 line.id) · ∉ rtxLayerSsrcs rtxSsrc n) ∧
      getRtpEncodings m' = .ok (layers.map (layerEncoding (u32 line.id) rtxSsrc)) ∧
      (layers.length = n ↔ (layerSsrcs (u32 line.id) n).Disjoint (rtxLayerSsrcs rtxSsrc n)) := by
  obtain ⟨line, rtxSsrc, cname, msid, hline, hrtx, rfl⟩ := addLegacySimulcast_eq_ok hn h
  refine ⟨line, rtxSsrc, _, hline, hrtx, rfl,
    getRtpEncodings_writeLayers m _ rtxSsrc cname msid (by omega) (by omega), ?_⟩
  have hall := List.length_filter_eq_length_iff (l := List.range n)
    (p := (layerSsrc (u32 line.id) · ∉ rtxLayerSsrcs rtxSsrc n))
  rw [List.length_range] at hall
  rw [hall, List.disjoint_left, layerSsrcs, List.forall_mem_map]
  simp

/-- A section with one stream and its retransmission. -/
def retransmittedBy (rtxSsrc : Nat) : MediaObject where
  mid := "0"
  type := .video
  protocol := "UDP/TLS/RTP/SAVPF"
  ssrcs := streamLines "c" "s t" 1 ++ streamLines "c" "s t" rtxSsrc
  ssrcGroups := [fidGroup (1, rtxSsrc)]

/-- Three layers are written over a stream with number 1. All of them are read back when its
retransmission has number 10, and the last one is lost when it has number 3. -/
theorem getRtpEncodings_addLegacySimulcast_three :
    (∃ m', addLegacySimulcast (retransmittedBy 10) 3 = .ok m' ∧
      getRtpEncodings m' = .ok ([0, 1, 2].map (layerEncoding 1 10)) ∧
      (layerSsrcs 1 3).Disjoint (rtxLayerSsrcs 10 3)) ∧
    ∃ m', addLegacySimulcast (retransmittedBy 3) 3 = .ok m' ∧
      getRtpEncodings m' = .ok ([0, 1].map (layerEncoding 1 3)) ∧
      ¬(layerSsrcs 1 3).Disjoint (rtxLayerSsrcs 3 3) := by
  constructor
  · obtain ⟨line, rtxSsrc, layers, hline, hrtx, rfl, hread, hall⟩ :=
      getRtpEncodings_addLegacySimulcast (m := retransmittedBy 10) (n := 3) (by decide) (by decide)
        rfl
    obtain rfl : _ = line := Option.some.inj hline
    obtain rfl : 10 = rtxSsrc := Except.ok.inj hrtx
    exact ⟨_, rfl, hread, hall.mp rfl⟩
  · obtain ⟨line, rtxSsrc, layers, hline, hrtx, rfl, hread, hall⟩ :=
      getRtpEncodings_addLegacySimulcast (m := retransmittedBy 3) (n := 3) (by decide) (by decide)
        rfl
    obtain rfl : _ = line := Option.some.inj hline
    obtain rfl : 3 = rtxSsrc := Except.ok.inj hrtx
    exact ⟨_, rfl, hread, fun hdisjoint ↦ absurd (hall.mpr hdisjoint) (by decide)⟩

end Layers

/-- Spatial and temporal layers. -/
structure Layers where
  spatialLayers : Nat := 1
  temporalLayers : Nat := 1
  deriving DecidableEq, Repr

/-- A number of one or two digits that does not start with 0, and the rest of the text. -/
def takeLayerCount : List Char → Option (Nat × List Char)
  | a :: b :: rest =>
    if a.isDigit && a != '0' then
      if b.isDigit then some (readDigits [a, b], rest) else some (readDigits [a], b :: rest)
    else none
  | [a] => if a.isDigit && a != '0' then some (readDigits [a], []) else none
  | [] => none

/-- The match of `^[LS]([1-9]\d{0,1})T([1-9]\d{0,1}).*`. -/
def matchScalabilityMode (s : String) : Option Layers :=
  match s.toList with
  | c :: rest =>
    if c = 'L' ∨ c = 'S' then
      match takeLayerCount rest with
      | some (spatial, 'T' :: rest) =>
        match takeLayerCount rest with
        | some (temporal, rest) =>
          if '\n' ∉ rest ∧ '\r' ∉ rest then some ⟨spatial, temporal⟩ else none
        | none => none
      | _ => none
    else none
  | [] => none

/-- `parseScalabilityMode`; `scalabilityMode.cpp:14–46`. -/
def parseScalabilityMode (s : String) : Layers := (matchScalabilityMode s).getD {}

end RtcClient.Sdp
