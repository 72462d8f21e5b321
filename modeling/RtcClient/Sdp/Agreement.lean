import RtcClient.Sdp.Descriptions
import RtcClient.Sdp.RemoteSections
import RtcClient.Sdp.Handler

/-!
# The two sides of a sending transport

A send handler writes the answers of the server itself, from its own list of sections
(`deps/libmediasoupclient/src/Handler.cpp`, `src/sdp/RemoteSdp.cpp`), while WebRTC lays out the
offers from its transceivers. WebRTC refuses an answer whose m= lines are not those of the
offer, so that the two lists have to choose the same section for a new track, take the same
section out of use when a track is gone, and give it to the same track later.
`Aligned` says that they do.
-/

namespace RtcClient.Sdp

open RtcClient.Ortc RtcClient.Lib

namespace PeerConnection

variable {pc : PeerConnection} {d : List MediaObject}

/-- The m= line that a section of ours gets in the next offer. -/
def lineOf (pc : PeerConnection) (c : MediaObject) : Line :=
  ⟨c.mid, c.type, c.type != .application && (findByMid pc.transceivers c.mid).isNone⟩

/-- The m= lines of the next offer, without new transceivers. -/
def lines (pc : PeerConnection) : List Line := pc.ours.map pc.lineOf

/-- There is a section for data channels exactly if its mid is known, and it is in use. -/
structure DataAgree (m : Option String) (ls : List Line) : Prop where
  used : ∀ l ∈ ls, l.type = .application → m = some l.mid ∧ l.rejected = false
  known : ∀ mid, m = some mid → ∃ l ∈ ls, l.type = .application ∧ l.mid = mid

/-- The section of the data channels is known, and has always been in use. -/
structure DataSettled (pc : PeerConnection) : Prop where
  agree : DataAgree pc.dataMid pc.lines
  used : ∀ (i : Nat) (c : MediaObject), pc.ours[i]? = some c → c.type = .application →
    pc.hadBeenRejected i = false

section Lines

private theorem WF.offerExisting_lines (h : pc.WF) (hs : pc.DataSettled) :
    pc.offerExisting.options.map MediaDescriptionOptions.line = pc.lines := by
  apply List.ext_getElem?
  intro i
  rw [List.getElem?_map, offerExisting, h.existing_eq, List.getElem?_mapIdx, lines,
    List.getElem?_map, Option.map_map]
  cases hc : pc.ours[i]? with
  | none => rfl
  | some c =>
    rw [Option.map_some, Option.map_some, Function.comp_apply]
    by_cases happ : c.type = .application
    · have hrej := hs.used i c hc happ
      have hmid := (hs.agree.used _ (List.mem_map_of_mem (List.mem_of_getElem? hc)) happ).1
      simp [existingOptions_application happ, MediaDescriptionOptions.line, lineOf,
        happ, hmid, hrej]
    · cases hf : findByMid pc.transceivers c.mid with
      | none => simp [existingOptions_gone happ hf, MediaDescriptionOptions.line, lineOf, happ, hf]
      | some t =>
        obtain ⟨ht, hmid⟩ := findByMid_eq_some hf
        simp [h.existingOptions_owned happ hf, MediaDescriptionOptions.line, lineOf, hf,
          optionsForTransceiver, h.type_eq ht (List.mem_of_getElem? hc) hmid, h.live t ht]

private theorem WF.offerExisting_recycleable (h : pc.WF) :
    pc.offerExisting.recycleable = freePlaces Line.rejected pc.lines := by
  rw [offerExisting, h.existing_eq, freePlaces, lines, List.zipIdx_map, List.filter_map,
    List.map_map]
  refine congrArg (List.map Prod.snd) (List.filter_congr ?_)
  rintro ⟨c, i⟩ -
  rw [Bool.eq_iff_iff, h.recycleable_iff]
  simp [lineOf]

/-- The next mid is new. -/
theorem WF.next_notMem_lines (h : pc.WF) : toString pc.midGenerator ∉ pc.lines.map Line.mid := by
  intro hmem
  rw [lines, List.map_map] at hmem
  obtain ⟨c, hc, hmid⟩ := List.mem_map.mp hmem
  obtain ⟨k, hlt, hk⟩ := h.generated c hc
  exact hlt.ne (toString_injective (hk.symm.trans hmid))

private theorem foldl_add_of_mids {todo : List RtpTransceiver} (hmids : ∀ t ∈ todo, t.mid ≠ none)
    (o : Offering) :
    todo.foldl Offering.add o = { o with transceivers := o.transceivers ++ todo } := by
  induction todo generalizing o with
  | nil => simp
  | cons t todo ih =>
    have hsome : t.mid.isSome = true := Option.isSome_iff_ne_none.mpr (hmids t (by simp))
    rw [List.foldl_cons, ih fun t ht ↦ hmids t (by simp [ht])]
    simp [Offering.add, hsome]

/-- All transceivers have their section. -/
def AllPlaced (pc : PeerConnection) : Prop := ∀ t ∈ pc.transceivers, t.mid ≠ none

private theorem WF.marked_mids (h : pc.WF) (hp : pc.AllPlaced) :
    ∀ t ∈ pc.markMLineIndices, t.mid ≠ none := by
  intro t ht
  rw [h.markMLineIndices_eq] at ht
  obtain ⟨t₀, ht₀, rfl⟩ := List.mem_map.mp ht
  rw [markIn_mid]
  exact hp t₀ ht₀

/-- A data channel waits for its section. -/
def needsData (pc : PeerConnection) : Bool := pc.dataMid.isNone && pc.hasDataChannels

/-- Without anything new the offer has the lines that exist. -/
theorem WF.offer_lines (h : pc.WF) (hs : pc.DataSettled) (hp : pc.AllPlaced)
    (hdata : pc.needsData = false) :
    pc.getOptionsForOffer.options.map MediaDescriptionOptions.line = pc.lines := by
  rw [needsData] at hdata
  rw [getOptionsForOffer, foldl_add_of_mids (h.marked_mids hp), Offering.addData, hdata]
  exact h.offerExisting_lines hs

/-- The first data channel gets a section at the end. -/
theorem WF.offer_lines_data (h : pc.WF) (hs : pc.DataSettled) (hp : pc.AllPlaced)
    (hdata : pc.needsData = true) :
    pc.getOptionsForOffer.options.map MediaDescriptionOptions.line =
      pc.lines ++ [⟨toString pc.midGenerator, .application, false⟩] := by
  rw [needsData] at hdata
  rw [getOptionsForOffer, foldl_add_of_mids (h.marked_mids hp), Offering.addData, if_pos hdata,
    List.map_append]
  rw [h.offerExisting_lines hs]
  rfl

end Lines

section Adding

variable {kind : MediaType}

/-- A new transceiver has no section yet. -/
theorem WF.addTransceiver (h : pc.WF) (hk : kind ≠ .application) :
    (pc.addTransceiver kind).2.WF := by
  have hnew (mid : String) : findByMid (pc.addTransceiver kind).2.transceivers mid =
      findByMid pc.transceivers mid := by
    simp [findByMid, PeerConnection.addTransceiver, List.find?_append]
  have hmem {t : RtpTransceiver} (ht : t ∈ (pc.addTransceiver kind).2.transceivers) :
      t ∈ pc.transceivers ∨ t = (pc.addTransceiver kind).1 := by
    simpa [PeerConnection.addTransceiver] using ht
  refine ⟨?_, ?_, ?_, ?_, ?_, ?_, h.nodup, h.generated, h.covers, ?_, h.noError, h.noRemoteOffer⟩
  · simp only [PeerConnection.addTransceiver, List.map_append, List.map_singleton]
    refine List.nodup_append.mpr ⟨h.refs, List.nodup_singleton _, ?_⟩
    rintro a ha b hb rfl
    obtain ⟨t, ht, rfl⟩ := List.mem_map.mp ha
    exact (h.fresh t ht).ne (List.mem_singleton.mp hb)
  · intro t ht
    rcases hmem ht with ht | rfl
    · exact Nat.lt_succ_of_lt (h.fresh t ht)
    · exact Nat.lt_succ_self _
  · intro t ht
    rcases hmem ht with ht | rfl
    · exact h.live t ht
    · rfl
  · intro t ht
    rcases hmem ht with ht | rfl
    · exact h.media t ht
    · exact hk
  · intro t ht t' ht' mid hm hm'
    rcases hmem ht with ht | rfl
    · rcases hmem ht' with ht' | rfl
      · exact h.mids t ht t' ht' mid hm hm'
      · cases hm'
    · cases hm
  · intro t ht mid hm
    rcases hmem ht with ht | rfl
    · exact h.placed t ht mid hm
    · cases hm
  · intro i c hc happ hf
    exact h.gone i c hc happ (hnew c.mid ▸ hf)

private theorem lines_addTransceiver (pc : PeerConnection) (kind : MediaType) :
    (pc.addTransceiver kind).2.lines = pc.lines := by
  refine List.map_congr_left fun c _ ↦ ?_
  simp [lineOf, findByMid, PeerConnection.addTransceiver, List.find?_append]

/-- A new transceiver takes the first section that is free. -/
theorem WF.offer_lines_add (h : pc.WF) (hs : pc.DataSettled) (hp : pc.AllPlaced)
    (hdata : pc.needsData = false) (hk : kind ≠ .application) :
    (pc.addTransceiver kind).2.getOptionsForOffer.options.map MediaDescriptionOptions.line =
      place Line.rejected ⟨toString pc.midGenerator, kind, false⟩ pc.lines := by
  have h' := h.addTransceiver hk
  have hs' : (pc.addTransceiver kind).2.DataSettled :=
    ⟨lines_addTransceiver pc kind ▸ hs.agree, hs.used⟩
  have hdata' : ((pc.addTransceiver kind).2.dataMid.isNone &&
      (pc.addTransceiver kind).2.hasDataChannels) = false := hdata
  have hlines := h'.offerExisting_lines hs'
  have hqueue := h'.offerExisting_recycleable
  rw [lines_addTransceiver] at hlines hqueue
  have hmark : (pc.addTransceiver kind).2.markMLineIndices =
      pc.transceivers.map (markIn pc.ours) ++ [(pc.addTransceiver kind).1] := by
    rw [h'.markMLineIndices_eq]
    simp only [PeerConnection.addTransceiver, List.map_append, List.map_singleton, markIn_of_none]
    rfl
  have hmids : ∀ t ∈ pc.transceivers.map (markIn pc.ours), t.mid ≠ none := by
    rw [← h.markMLineIndices_eq]
    exact h.marked_mids hp
  rw [getOptionsForOffer, hmark, List.foldl_append, foldl_add_of_mids hmids, Offering.addData,
    hdata', place_eq_freePlaces, ← hqueue, ← hlines]
  simp only [List.foldl_cons, List.foldl_nil, Offering.add, Bool.false_eq_true, if_false]
  have hskip : ((pc.addTransceiver kind).1.mid.isSome || (pc.addTransceiver kind).1.stopped) =
      false := rfl
  rw [if_neg (by rw [hskip]; decide)]
  cases (pc.addTransceiver kind).2.offerExisting.recycleable with
  | nil =>
    dsimp only
    rw [List.map_append]
    rfl
  | cons i rest =>
    dsimp only
    rw [List.map_set]
    rfl

end Adding

section Exchange

variable {doc : List MediaObject} {m : Option String}

/-- The section for data channels, as a section. -/
theorem DataAgree.of_mem {ls : List Line} (h : DataAgree m ls) {c : MediaObject}
    (hc : c.line ∈ ls) (happ : c.type = .application) : m = some c.mid ∧ c.rejected = false :=
  h.used c.line hc happ

private theorem dataMidAfter_cons (c : MediaObject) (d : List MediaObject) (m : Option String) :
    dataMidAfter (c :: d) m =
      dataMidAfter d (if c.type = .application then updateDataMid m c else m) := rfl

/-- A description in which the section is the one that is known. -/
theorem dataMidAfter_of_known
    (h : ∀ c ∈ d, c.type = .application → m = some c.mid ∧ c.rejected = false) :
    dataMidAfter d m = m := by
  induction d with
  | nil => rfl
  | cons c d ih =>
    have ih := ih fun c hc ↦ h c (by simp [hc])
    rw [dataMidAfter_cons]
    split
    · next happ =>
      obtain ⟨rfl, hrej⟩ := h c (by simp) happ
      have hsame : updateDataMid (some c.mid) c = some c.mid := by simp [updateDataMid, hrej]
      rw [hsame, ih]
    · exact ih

/-- A description with the first section for data channels. -/
theorem dataMidAfter_of_new
    (h : ∀ c ∈ d, c.type = .application → m = some c.mid ∧ c.rejected = false)
    (hc : ∃ c ∈ d, c.type = .application) : dataMidAfter d none = m := by
  induction d with
  | nil => simp at hc
  | cons c d ih =>
    have htail : ∀ c ∈ d, c.type = .application → m = some c.mid ∧ c.rejected = false :=
      fun c hc ↦ h c (by simp [hc])
    rw [dataMidAfter_cons]
    by_cases happ : c.type = .application
    · obtain ⟨rfl, hrej⟩ := h c (by simp) happ
      have hset : updateDataMid none c = some c.mid := by simp [updateDataMid, hrej]
      rw [if_pos happ, hset, dataMidAfter_of_known htail]
    · rw [if_neg happ]
      obtain ⟨c', hc', happ'⟩ := hc
      rcases List.mem_cons.mp hc' with rfl | hc'
      · exact absurd happ' happ
      · exact ih htail ⟨c', hc', happ'⟩

/-- Either the mid is known already, or there is none yet. -/
theorem DataAgree.dataMidAfter_eq (h : DataAgree m (d.map MediaObject.line)) {start : Option String}
    (hstart : start = m ∨ start = none) : dataMidAfter d start = m := by
  have hd (c : MediaObject) (hc : c ∈ d) (happ : c.type = .application) :=
    h.of_mem (List.mem_map_of_mem hc) happ
  rcases hstart with rfl | rfl
  · exact dataMidAfter_of_known hd
  · cases m with
    | none => exact dataMidAfter_of_known hd
    | some mid =>
      obtain ⟨l, hl, happ, -⟩ := h.known mid rfl
      obtain ⟨c, hc, rfl⟩ := List.mem_map.mp hl
      exact dataMidAfter_of_new hd ⟨c, hc, happ⟩

/-- The answer keeps the sections and rejects those without a transceiver. -/
structure Answers (pc : PeerConnection) (d doc : List MediaObject) : Prop where
  keys : doc.map MediaObject.key = d.map MediaObject.key
  gone : ∀ c ∈ doc, c.type ≠ .application →
    findByMid (pc.withOffer d).transceivers c.mid = none → c.rejected = true

variable {nextRef : Nat}

/-- The answer to an offer is accepted. -/
theorem WF.exchange (h : pc.WF) (hd : pc.Offered d) (ha : pc.Answers d doc) :
    ∃ nextRef, pc.nextRef ≤ nextRef ∧ (pc.withOffer d).setRemoteDescription .answer doc =
      (.ok (), (pc.withOffer d).answered doc nextRef) :=
  (h.withOffer hd).setRemoteDescription_answer rfl ha.keys ha.gone

/-- The peer connection after an offer and its answer. -/
theorem WF.exchanged (h : pc.WF) (hd : pc.Offered d) (ha : pc.Answers d doc)
    (hn : pc.nextRef ≤ nextRef) : ((pc.withOffer d).answered doc nextRef).WF :=
  (h.withOffer hd).answered rfl ha.keys ha.gone hn

/-- Every transceiver that is left has its section. -/
theorem WF.exchanged_allPlaced (h : pc.WF) (hd : pc.Offered d) :
    ((pc.withOffer d).answered doc nextRef).AllPlaced := by
  intro t ht
  obtain ⟨t₀, ht₀, rfl⟩ := List.mem_map.mp ht
  obtain ⟨i, c, -, -, hmid, -⟩ := h.withOffer_section hd (List.mem_of_mem_filter ht₀)
  rw [markIn_mid, hmid]
  simp

/-- A description with the sections of the offer, which opens none that the offer has closed,
answers it. -/
theorem WF.answers (h : pc.WF) (hd : pc.Offered d)
    (hkeys : doc.map MediaObject.key = d.map MediaObject.key)
    (hrej : ∀ c ∈ d, ∀ c' ∈ doc, c.mid = c'.mid → c.rejected = true → c'.rejected = true) :
    pc.Answers d doc := by
  refine ⟨hkeys, fun c' hc' happ hf ↦ ?_⟩
  obtain ⟨c, hc, hkey⟩ := List.mem_map.mp (hkeys ▸ List.mem_map_of_mem hc')
  simp only [MediaObject.key, Prod.mk.injEq] at hkey
  refine hrej c hc c' hc' hkey.1 ((h.withOffer_rejected hd hc (hkey.2 ▸ happ)).mpr ?_)
  rw [hkey.1, hf]

/-- After the exchange both sides have the same lines. -/
theorem WF.exchanged_lines (h : pc.WF) (hd : pc.Offered d) (ha : pc.Answers d doc)
    (hdata : DataAgree m (doc.map MediaObject.line)) :
    ((pc.withOffer d).answered doc nextRef).lines = doc.map MediaObject.line := by
  have hours : ((pc.withOffer d).answered doc nextRef).ours = d := rfl
  rw [lines, hours]
  apply List.ext_getElem?
  intro i
  have hkey := congrArg (·[i]?) ha.keys
  simp only [List.getElem?_map] at hkey ⊢
  cases hc : doc[i]? with
  | none =>
    rw [hc, Option.map_none, eq_comm, Option.map_eq_none_iff] at hkey
    rw [hkey]
    rfl
  | some c =>
    rw [hc, Option.map_some, eq_comm, Option.map_eq_some_iff] at hkey
    obtain ⟨c', hc', hkey⟩ := hkey
    simp only [MediaObject.key, Prod.mk.injEq] at hkey
    have hmem := List.mem_of_getElem? hc
    rw [hc', Option.map_some, Option.map_some, lineOf, MediaObject.line, hkey.1, hkey.2]
    by_cases happ : c.type = .application
    · simp [happ, (hdata.of_mem (List.mem_map_of_mem hmem) happ).2]
    · have hrej := (h.withOffer hd).answered_rejected rfl ha.keys ha.gone nextRef hmem happ
      rw [← Option.isNone_iff_eq_none, ← Bool.eq_iff_iff] at hrej
      simp [happ, hrej]

/-- After the exchange the section of the data channels is settled. -/
theorem WF.exchanged_data (h : pc.WF) (nextRef : Nat) (hd : pc.Offered d) (ha : pc.Answers d doc)
    (hdata : DataAgree m (d.map MediaObject.line)) (hdata' : DataAgree m (doc.map MediaObject.line))
    (hstart : pc.dataMid = m ∨ pc.dataMid = none) :
    ((pc.withOffer d).answered doc nextRef).dataMid = m ∧
      ((pc.withOffer d).answered doc nextRef).DataSettled := by
  have hmid : ((pc.withOffer d).answered doc nextRef).dataMid = m := by
    change dataMidAfter doc (dataMidAfter d pc.dataMid) = m
    rw [hdata.dataMidAfter_eq hstart, hdata'.dataMidAfter_eq (.inl rfl)]
  refine ⟨hmid, ?_, ?_⟩
  · rw [hmid, h.exchanged_lines hd ha hdata']
    exact hdata'
  · intro i c hc happ
    have hc : d[i]? = some c := hc
    have hrej := (hdata.of_mem (List.mem_map_of_mem (List.mem_of_getElem? hc)) happ).2
    have hkey := congrArg (·[i]?) ha.keys
    simp only [List.getElem?_map, hc, Option.map_some, Option.map_eq_some_iff] at hkey
    obtain ⟨c', hc', hkey⟩ := hkey
    simp only [MediaObject.key, Prod.mk.injEq] at hkey
    have hrej' := (hdata'.of_mem (List.mem_map_of_mem (List.mem_of_getElem? hc'))
      (hkey.2.trans happ)).2
    have hcur : ((pc.withOffer d).answered doc nextRef).currentLocal = some d := rfl
    have hrem : ((pc.withOffer d).answered doc nextRef).currentRemote = some doc := rfl
    simp [hadBeenRejected, rejectedAt, hcur, hrem, hc, hc', hrej, hrej']

end Exchange

end PeerConnection

namespace RemoteSdp

variable {r : RemoteSdp}

/-- The m= lines of the document. -/
def lines (r : RemoteSdp) : List Line := r.sdpObject.media.map MediaObject.line

/-- The lines are those of the section objects. -/
theorem WF.lines_eq (h : r.WF) : r.lines = r.mediaSections.map fun m ↦ m.mediaObject.line := by
  rw [lines, h.mirror, List.map_map]
  rfl

/-- The mids are those of the lines. -/
theorem WF.mids_eq (h : r.WF) : r.mids = r.lines.map Line.mid := by
  rw [h.lines_eq, List.map_map]
  rfl

/-- The next section goes to the first closed line, or to the end. -/
theorem WF.getNextMediaSectionIdx_eq (h : r.WF) :
    r.getNextMediaSectionIdx = (r.lines.findIdx Line.rejected,
      ((r.lines.find? Line.rejected).map Line.mid).getD "") := by
  have hfun : (Line.rejected ∘ fun m : MediaSection ↦ m.mediaObject.line) = MediaSection.isClosed :=
    rfl
  rw [h.lines_eq, List.find?_map, List.findIdx_map, hfun, RemoteSdp.getNextMediaSectionIdx]
  cases hf : r.mediaSections.find? MediaSection.isClosed with
  | some m => rfl
  | none =>
    have hall := List.find?_eq_none.mp hf
    have hidx : r.mediaSections.findIdx MediaSection.isClosed = r.mediaSections.length :=
      List.findIdx_eq_length.mpr fun m hm ↦ by simpa using hall m hm
    rw [hidx]
    rfl

/-- The role is not on the m= lines. -/
theorem WF.lines_updateDtlsRole (h : r.WF) {role : String} (hr : role ∈ dtlsRoles) :
    (r.updateDtlsRole role).lines = r.lines := by
  rw [(h.updateDtlsRole hr).lines_eq, h.lines_eq]
  simp only [RemoteSdp.updateDtlsRole, List.map_map]
  rfl

/-- The ICE credentials are not on the m= lines. -/
theorem WF.lines_updateIceParameters (h : r.WF) (ice : IceParameters) :
    (r.updateIceParameters ice).lines = r.lines := by
  rw [(h.updateIceParameters ice).lines_eq, h.lines_eq]
  simp only [RemoteSdp.updateIceParameters, List.map_map]
  rfl

/-- What closing a mid does to a line. -/
def closeLine (first mid : String) (l : Line) : Line :=
  { l with rejected := l.rejected || (decide (l.mid = mid) && decide (mid ≠ first)) }

/-- What closing a section does to the lines. -/
theorem WF.lines_closeMediaSection (h : r.WF) {mid : String} (hm : mid ∈ r.mids) :
    ∃ r', r.closeMediaSection mid = .ok r' ∧ r'.WF ∧
      r'.lines = r.lines.map (closeLine r.firstMid mid) := by
  obtain ⟨r', heq, hw, -, -, hs⟩ := h.closeMediaSection hm
  refine ⟨r', heq, hw, ?_⟩
  rw [hw.lines_eq, h.lines_eq, hs, List.map_map, List.map_map]
  refine List.map_congr_left fun m _ ↦ ?_
  have hclosed := closeIn_isClosed r.firstMid mid m
  have hmid := closeIn_getMid r.firstMid mid m
  have htype : (closeIn r.firstMid mid m).mediaObject.type = m.mediaObject.type := by
    unfold closeIn
    split
    · split <;> rfl
    · rfl
  simp only [Function.comp_apply, MediaObject.line, closeLine, Line.mk.injEq]
  exact ⟨hmid, htype, hclosed⟩

/-- A new section at the end. -/
theorem WF.lines_addMediaSection (h : r.WF) {m : MediaSection} {mid : String} {type : MediaType}
    (hm : m.MadeFor r.transport mid type) (fresh : mid ∉ r.mids) (hne : mid ≠ "") :
    (r.addMediaSection m).WF ∧ (r.addMediaSection m).lines = r.lines ++ [⟨mid, type, false⟩] := by
  have hw := h.addMediaSection hm fresh hne
  have hline : m.mediaObject.line = ⟨mid, type, false⟩ := by
    rw [MediaObject.line, Line.mk.injEq]
    exact ⟨hm.mid_eq, hm.type_eq, hm.is_open⟩
  refine ⟨hw, ?_⟩
  rw [hw.lines_eq, h.lines_eq, ← hline]
  exact List.map_append

/-- A new section takes the first closed place. -/
theorem WF.lines_put (h : r.WF) {m : MediaSection} {mid : String} {type : MediaType}
    (hm : m.MadeFor r.transport mid type) (fresh : mid ∉ r.mids) (hne : mid ≠ "")
    {reuseMid : String} (hreuse : reuseMid = r.getNextMediaSectionIdx.2) {r' : RemoteSdp}
    (hput : (if reuseMid.isEmpty then .ok (r.addMediaSection m)
      else r.replaceMediaSection m reuseMid) = .ok r') :
    r'.WF ∧ r'.lines = place Line.rejected ⟨mid, type, false⟩ r.lines := by
  have hline : m.mediaObject.line = ⟨mid, type, false⟩ := by
    rw [MediaObject.line, Line.mk.injEq]
    exact ⟨hm.mid_eq, hm.type_eq, hm.is_open⟩
  cases hf : r.mediaSections.find? MediaSection.isClosed with
  | none =>
    have hempty : reuseMid.isEmpty = true := by
      rw [hreuse, RemoteSdp.getNextMediaSectionIdx, hf]
      rfl
    rw [if_pos hempty] at hput
    obtain rfl := Except.ok.inj hput
    obtain ⟨hw, hl⟩ := h.lines_addMediaSection hm fresh hne
    refine ⟨hw, ?_⟩
    rw [hl, place_eq_append]
    intro l hl
    rw [h.lines_eq] at hl
    obtain ⟨m, hm, rfl⟩ := List.mem_map.mp hl
    exact Bool.eq_false_iff.mpr (List.find?_eq_none.mp hf m hm)
  | some old =>
    have hold : reuseMid = old.getMid := by rw [hreuse, RemoteSdp.getNextMediaSectionIdx, hf]
    have hmem : old.getMid ∈ r.mids := List.mem_map_of_mem (List.mem_of_find?_eq_some hf)
    have hnonempty : ¬reuseMid.isEmpty = true := by
      rw [hold, String.isEmpty_iff]
      exact h.nonempty _ hmem
    rw [if_neg hnonempty, hold] at hput
    obtain ⟨r'', heq, hw, -, hs⟩ := h.replaceMediaSection hm fresh hne hf
    obtain rfl := Except.ok.inj (heq.symm.trans hput)
    refine ⟨hw, ?_⟩
    rw [hw.lines_eq, hs, h.lines_eq, ← hline]
    exact map_place _ m r.mediaSections fun _ _ ↦ rfl

end RemoteSdp

end RtcClient.Sdp
