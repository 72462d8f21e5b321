import RtcClient.Sdp.PeerConnection
import RtcClient.Lib.Recycle
import RtcClient.Lib.Tokens

/-!
# How an offer is laid out

What a peer connection of a sender keeps (`PeerConnection.WF`), and what follows for the offer
that it makes: every transceiver owns exactly one section, with its mid if it has one; a section
without an owner is rejected; the sections of the description before stay in their order, up to
those that may be recycled.
-/

namespace RtcClient.Sdp

open RtcClient.Ortc RtcClient.Lib

section Transceivers

variable {ts : List RtpTransceiver} {t : RtpTransceiver} {mid : String}

/-- Nobody has the mid. -/
theorem findByMid_eq_none : findByMid ts mid = none ↔ ∀ t ∈ ts, t.mid ≠ some mid := by
  simp [findByMid]

/-- The one that is found has the mid. -/
theorem findByMid_eq_some (h : findByMid ts mid = some t) : t ∈ ts ∧ t.mid = some mid :=
  ⟨List.mem_of_find?_eq_some h, by simpa using List.find?_some h⟩

/-- Mids that transceivers have are different. -/
def DistinctMids (ts : List RtpTransceiver) : Prop :=
  ∀ t ∈ ts, ∀ t' ∈ ts, ∀ mid, t.mid = some mid → t'.mid = some mid → t = t'

private theorem DistinctMids.findByMid (h : DistinctMids ts) (ht : t ∈ ts)
    (hmid : t.mid = some mid) :
    findByMid ts mid = some t := by
  cases hf : Sdp.findByMid ts mid with
  | none => exact absurd hmid (findByMid_eq_none.mp hf t ht)
  | some t' =>
    obtain ⟨ht', hmid'⟩ := findByMid_eq_some hf
    rw [h t ht t' ht' mid hmid hmid']

/-- The same object, if references are distinct. -/
theorem eq_of_ref_eq (h : (ts.map RtpTransceiver.ref).Nodup) {t t' : RtpTransceiver} (ht : t ∈ ts)
    (ht' : t' ∈ ts) (hr : t.ref = t'.ref) : t = t' :=
  List.inj_on_of_nodup_map h ht ht' hr

/-- A transceiver without its position in an offer. -/
def RtpTransceiver.unplaced (t : RtpTransceiver) : RtpTransceiver := { t with mlineIndex := none }

/-- The fields that a position does not touch. -/
theorem RtpTransceiver.fields_of_unplaced_eq {t t' : RtpTransceiver}
    (h : t.unplaced = t'.unplaced) :
    t.ref = t'.ref ∧ t.mediaType = t'.mediaType ∧ t.mid = t'.mid ∧ t.stopped = t'.stopped := by
  simp only [RtpTransceiver.unplaced, RtpTransceiver.mk.injEq] at h
  tauto

private theorem RtpTransceiver.eq_of_unplaced_eq {t t' : RtpTransceiver}
    (h : t.unplaced = t'.unplaced)
    (hi : t.mlineIndex = t'.mlineIndex) : t = t' := by
  cases t
  cases t'
  simp_all [RtpTransceiver.unplaced]

/-- What the negotiation knows of a transceiver, apart from its position. -/
def RtpTransceiver.core (t : RtpTransceiver) : Nat × MediaType × Option String × Bool :=
  (t.ref, t.mediaType, t.mid, t.stopped)

/-- Transceivers for media that are told apart by their references, all below `n`, and by their
mids. -/
structure Listed (ts : List RtpTransceiver) (n : Nat) : Prop where
  refs : (ts.map RtpTransceiver.ref).Nodup
  fresh : ∀ t ∈ ts, t.ref < n
  media : ∀ t ∈ ts, t.mediaType ≠ .application
  mids : DistinctMids ts

/-- What tells a transceiver apart. -/
def RtpTransceiver.identity (t : RtpTransceiver) : Nat × MediaType × Option String :=
  (t.ref, t.mediaType, t.mid)

/-- Only what identifies a transceiver matters. -/
theorem Listed.of_identity {ts' : List RtpTransceiver} {n : Nat} (h : Listed ts n)
    (hid : ts'.map RtpTransceiver.identity = ts.map RtpTransceiver.identity) : Listed ts' n := by
  have horigin {t' : RtpTransceiver} (ht' : t' ∈ ts') :
      ∃ t ∈ ts, t.ref = t'.ref ∧ t.mediaType = t'.mediaType ∧ t.mid = t'.mid := by
    obtain ⟨t, ht, he⟩ := List.mem_map.mp (hid ▸ List.mem_map_of_mem ht')
    simp only [RtpTransceiver.identity, Prod.mk.injEq] at he
    exact ⟨t, ht, he⟩
  have hrefs : ts'.map RtpTransceiver.ref = ts.map RtpTransceiver.ref := by
    have := congrArg (List.map Prod.fst) hid
    rwa [List.map_map, List.map_map] at this
  refine ⟨hrefs ▸ h.refs, fun t' ht' ↦ ?_, fun t' ht' ↦ ?_, fun t' ht' u' hu' mid hm hm' ↦ ?_⟩
  · obtain ⟨t, ht, hr, -⟩ := horigin ht'
    exact hr ▸ h.fresh t ht
  · obtain ⟨t, ht, -, hty, -⟩ := horigin ht'
    exact hty ▸ h.media t ht
  · obtain ⟨t, ht, hr, -, hmid⟩ := horigin ht'
    obtain ⟨u, hu, hur, -, humid⟩ := horigin hu'
    obtain rfl := h.mids t ht u hu mid (hmid.trans hm) (humid.trans hm')
    exact eq_of_ref_eq (hrefs ▸ h.refs) ht' hu' (hr.symm.trans hur)

/-- Transceivers may be removed. -/
theorem Listed.of_sublist {ts' : List RtpTransceiver} {n : Nat} (h : Listed ts n)
    (hs : ts'.Sublist ts) : Listed ts' n where
  refs := (hs.map _).nodup h.refs
  fresh t ht := h.fresh t (hs.subset ht)
  media t ht := h.media t (hs.subset ht)
  mids t ht t' ht' := h.mids t (hs.subset ht) t' (hs.subset ht')

end Transceivers

namespace PeerConnection

/-- The sections of the local description. -/
def ours (pc : PeerConnection) : List MediaObject := pc.localDescription.getD []

/-- What a peer connection that only makes offers keeps: none of its transceivers is stopped,
each owns at most one section of the local description, all mids are generated, and a section
without an owner is rejected by one of the sides. -/
structure WF (pc : PeerConnection) : Prop where
  refs : (pc.transceivers.map RtpTransceiver.ref).Nodup
  fresh : ∀ t ∈ pc.transceivers, t.ref < pc.nextRef
  live : ∀ t ∈ pc.transceivers, t.stopped = false
  media : ∀ t ∈ pc.transceivers, t.mediaType ≠ .application
  mids : DistinctMids pc.transceivers
  placed : ∀ t ∈ pc.transceivers, ∀ mid, t.mid = some mid →
    ∃ c ∈ pc.ours, c.mid = mid ∧ c.type = t.mediaType
  nodup : (pc.ours.map MediaObject.mid).Nodup
  generated : ∀ c ∈ pc.ours, ∃ k < pc.midGenerator, c.mid = toString k
  covers : (pc.remoteDescription.getD []).length ≤ pc.ours.length
  gone : ∀ i c, pc.ours[i]? = some c → c.type ≠ .application →
    findByMid pc.transceivers c.mid = none →
    c.rejected = true ∨ rejectedAt pc.remoteDescription i = true
  noError : pc.sessionError = false
  noRemoteOffer : pc.pendingRemote = none

variable {pc : PeerConnection}

/-- The transceivers of a peer connection. -/
theorem WF.listed (h : pc.WF) : Listed pc.transceivers pc.nextRef :=
  ⟨h.refs, h.fresh, h.media, h.mids⟩

/-- The sections that exist are ours: a remote description adds none. -/
theorem WF.existing_eq (h : pc.WF) : pc.existing = pc.ours := by
  have hdrop := List.drop_eq_nil_of_le h.covers
  simp only [existing]
  rw [show pc.localDescription.getD [] = pc.ours from rfl, hdrop, List.append_nil]

/-- The section of a mid is unique. -/
theorem WF.section_eq (h : pc.WF) {c c' : MediaObject} (hc : c ∈ pc.ours) (hc' : c' ∈ pc.ours)
    (hmid : c.mid = c'.mid) : c = c' :=
  List.inj_on_of_nodup_map h.nodup hc hc' hmid

/-- The section of a transceiver is of its type. -/
theorem WF.type_eq (h : pc.WF) {t : RtpTransceiver} (ht : t ∈ pc.transceivers) {c : MediaObject}
    (hc : c ∈ pc.ours) (hmid : t.mid = some c.mid) : c.type = t.mediaType := by
  obtain ⟨c', hc', hm, hty⟩ := h.placed t ht c.mid hmid
  rwa [h.section_eq hc' hc hm] at hty

/-- A section may be taken when its transceiver is gone. -/
theorem WF.recycleable_iff (h : pc.WF) (i : Nat) (c : MediaObject) :
    pc.recycleable i c = true ↔ c.type ≠ .application ∧ findByMid pc.transceivers c.mid = none := by
  simp only [recycleable, ne_eq, Bool.and_eq_true, decide_eq_true_eq]
  refine and_congr_right fun _ ↦ ?_
  cases hf : findByMid pc.transceivers c.mid with
  | none => simp
  | some t => simp [h.live t (findByMid_eq_some hf).1]

section Marks

/-- The position of a transceiver's section in a prefix of the description. -/
def markIn (l : List MediaObject) (t : RtpTransceiver) : RtpTransceiver :=
  match l.findIdx? fun c ↦ t.mid == some c.mid with
  | some i => { t with mlineIndex := some i }
  | none => t

/-- The transceiver stays the same. -/
@[simp] theorem markIn_ref (l : List MediaObject) (t : RtpTransceiver) :
    (markIn l t).ref = t.ref := by
  unfold markIn
  split <;> rfl

/-- Its mid stays. -/
@[simp] theorem markIn_mid (l : List MediaObject) (t : RtpTransceiver) :
    (markIn l t).mid = t.mid := by
  unfold markIn
  split <;> rfl

/-- Nothing but the position changes. -/
theorem markIn_unplaced (l : List MediaObject) (t : RtpTransceiver) :
    (markIn l t).unplaced = t.unplaced := by
  unfold markIn
  split <;> rfl

/-- A transceiver without a mid has no position. -/
theorem markIn_of_none {t : RtpTransceiver} (h : t.mid = none) (l : List MediaObject) :
    markIn l t = t := by
  have hfind : l.findIdx? (fun c ↦ t.mid == some c.mid) = none := by simp [h]
  simp only [markIn, hfind]

/-- The negotiation does not see positions. -/
theorem markIn_core (l : List MediaObject) (t : RtpTransceiver) : (markIn l t).core = t.core := by
  unfold markIn
  split <;> rfl

private theorem markIn_mlineIndex {l : List MediaObject}
    (hl : (l.map MediaObject.mid).Nodup) {i : Nat}
    {c : MediaObject} (hc : l[i]? = some c) {t : RtpTransceiver} (ht : t.mid = some c.mid) :
    (markIn l t).mlineIndex = some i := by
  have hfind : l.findIdx? (fun c ↦ t.mid == some c.mid) = some i := by
    rw [List.findIdx?_eq_some_iff_getElem]
    obtain ⟨hi, rfl⟩ := List.getElem?_eq_some_iff.mp hc
    refine ⟨hi, by simp [ht], fun j hj ↦ ?_⟩
    have hne := List.nodup_iff_getElem?_ne_getElem?.mp hl j i hj (by simpa using hi)
    have hjl : j < l.length := by omega
    simp only [ht, beq_iff_eq, Option.some.injEq]
    intro he
    exact hne (by simp [hjl, hi, he])
  simp only [markIn, hfind]

/-- Finding a transceiver commutes with the marks. -/
theorem findByMid_map_markIn (l : List MediaObject) (ts : List RtpTransceiver) (mid : String) :
    findByMid (ts.map (markIn l)) mid = (findByMid ts mid).map (markIn l) := by
  simp only [findByMid, List.find?_map, Function.comp_def, markIn_mid]

/-- A section of somebody else's mid does not matter. -/
theorem markIn_concat_of_ne {l : List MediaObject} {c : MediaObject} {t : RtpTransceiver}
    (h : t.mid ≠ some c.mid) : markIn (l ++ [c]) t = markIn l t := by
  have hc : (t.mid == some c.mid) = false := by simpa using h
  simp only [markIn, List.findIdx?_append, List.findIdx?_singleton, hc]
  cases l.findIdx? fun c ↦ t.mid == some c.mid <;> rfl

/-- The section behind a prefix marks its transceiver, and no other one. -/
theorem markIn_concat {ts : List RtpTransceiver} {n : Nat} (h : Listed ts n)
    {l : List MediaObject} {c : MediaObject} (hnodup : ((l ++ [c]).map MediaObject.mid).Nodup)
    {t t' : RtpTransceiver} (ht : t ∈ ts) (hmid : t.mid = some c.mid) (ht' : t' ∈ ts) :
    markIn (l ++ [c]) t' = if t'.ref = t.ref then { markIn l t' with mlineIndex := some l.length }
      else markIn l t' := by
  split
  · next hr =>
    obtain rfl := eq_of_ref_eq h.refs ht' ht hr
    have hidx := markIn_mlineIndex hnodup (i := l.length) (c := c) (by simp) hmid
    refine RtpTransceiver.eq_of_unplaced_eq ?_ hidx
    exact (markIn_unplaced (l ++ [c]) t').trans (markIn_unplaced l t').symm
  · next hr =>
    refine markIn_concat_of_ne fun hm ↦ hr ?_
    rw [h.mids t' ht' t ht c.mid hm hmid]

-- The step for the section behind a prefix.
private theorem WF.mark_step (h : pc.WF) {l : List MediaObject} {c : MediaObject}
    (hpre : l ++ [c] <+: pc.ours) :
    pc.markMLineIndex (pc.transceivers.map (markIn l)) (c, l.length) =
      pc.transceivers.map (markIn (l ++ [c])) := by
  have hc : c ∈ pc.ours := hpre.subset (by simp)
  have hnodup : ((l ++ [c]).map MediaObject.mid).Nodup := (hpre.map _).sublist.nodup h.nodup
  unfold markMLineIndex
  rw [findByMid_map_markIn]
  cases hf : findByMid pc.transceivers c.mid with
  | none =>
    -- nobody has this mid, so that no mark changes
    have heq : pc.transceivers.map (markIn l) = pc.transceivers.map (markIn (l ++ [c])) :=
      List.map_congr_left fun t ht ↦ (markIn_concat_of_ne (findByMid_eq_none.mp hf t ht)).symm
    rw [Option.map_none, ← heq]
    split <;> rfl
  | some t =>
    obtain ⟨ht, hmid⟩ := findByMid_eq_some hf
    have hopen : ¬(c.type = .application ∨ pc.recycleable l.length c = true) := by
      rw [h.recycleable_iff, hf, h.type_eq ht hc hmid]
      simp [h.media t ht]
    rw [if_neg hopen, Option.map_some]
    simp only [updateTransceiver, List.map_map]
    refine List.map_congr_left fun t' ht' ↦ ?_
    rw [markIn_concat h.listed hnodup ht hmid ht']
    simp only [Function.comp_apply, markIn_ref]

/-- Every transceiver that has a mid is marked with the position of its section. -/
theorem WF.markMLineIndices_eq (h : pc.WF) :
    pc.markMLineIndices = pc.transceivers.map (markIn pc.ours) := by
  have hall (l : List MediaObject) (hl : l <+: pc.ours) :
      l.zipIdx.foldl pc.markMLineIndex pc.transceivers = pc.transceivers.map (markIn l) := by
    induction l using List.reverseRecOn with
    | nil =>
      symm
      exact (List.map_congr_left fun _ _ ↦ rfl).trans (List.map_id _)
    | append_singleton l c ih =>
      rw [List.zipIdx_append, List.foldl_append, ih ((List.prefix_append l [c]).trans hl)]
      simp only [List.zipIdx_cons, List.zipIdx_nil, List.foldl_cons, List.foldl_nil, Nat.zero_add]
      exact h.mark_step hl
  rw [markMLineIndices, h.existing_eq]
  exact hall pc.ours (List.prefix_refl _)

end Marks

/-- What holds while an offer is laid out, for the transceivers `ts` that have a section so
far. -/
structure Laid (pc : PeerConnection) (o : Offering) (ts : List RtpTransceiver) : Prop where
  owner : ∀ t ∈ ts, ∃ (i : Nat) (opt : MediaDescriptionOptions), t.mlineIndex = some i ∧
    o.options[i]? = some opt ∧ opt.transceiver = some t.ref ∧ opt.type = t.mediaType ∧
    opt.stopped = false ∧ (∀ mid, t.mid = some mid → opt.mid = mid) ∧
    (t.mid = none → ∃ k, pc.midGenerator ≤ k ∧ opt.mid = toString k)
  owned : ∀ (i : Nat) (opt : MediaDescriptionOptions), o.options[i]? = some opt →
    opt.type ≠ .application → opt.stopped = true ∨ ∃ t ∈ ts, t.mlineIndex = some i
  old : ∀ (i : Nat) (c : MediaObject), pc.ours[i]? = some c →
    ∃ opt : MediaDescriptionOptions, o.options[i]? = some opt ∧
      ((opt.mid = c.mid ∧ opt.type = c.type) ∨ (opt.stopped = false ∧ c.type ≠ .application ∧
        findByMid pc.transceivers c.mid = none))
  queue : ∀ i ∈ o.recycleable, ∃ (c : MediaObject) (opt : MediaDescriptionOptions),
    pc.ours[i]? = some c ∧ o.options[i]? = some opt ∧ opt.transceiver = none ∧
    c.type ≠ .application ∧ findByMid pc.transceivers c.mid = none
  queue_nodup : o.recycleable.Nodup
  mids : (o.options.map MediaDescriptionOptions.mid).Nodup
  generated : ∀ opt ∈ o.options, ∃ k < o.midGenerator, opt.mid = toString k
  later : pc.midGenerator ≤ o.midGenerator

section Layout

variable {o : Offering} {ts ts' : List RtpTransceiver}

private theorem Laid.congr (h : Laid pc o ts) (hts : ∀ t, t ∈ ts' ↔ t ∈ ts) : Laid pc o ts' where
  owner t ht := h.owner t ((hts t).mp ht)
  owned i opt hi ht := (h.owned i opt hi ht).imp_right fun ⟨t, ht, hi⟩ ↦ ⟨t, (hts t).mpr ht, hi⟩
  old := h.old
  queue := h.queue
  queue_nodup := h.queue_nodup
  mids := h.mids
  generated := h.generated
  later := h.later

/-- The next mid is not in use. -/
theorem Laid.next_notMem (h : Laid pc o ts) :
    toString o.midGenerator ∉ o.options.map MediaDescriptionOptions.mid := by
  intro hmem
  obtain ⟨opt, hopt, hmid⟩ := List.mem_map.mp hmem
  obtain ⟨k, hk, hkmid⟩ := h.generated opt hopt
  rw [hkmid] at hmid
  exact hk.ne (toString_injective hmid)

-- A new transceiver takes a section that nobody owns.
private theorem Laid.put (h : Laid pc o ts) {t : RtpTransceiver} (hlive : t.stopped = false)
    (hnew : t.mid = none) {i : Nat} {o' : Offering}
    (hold : ∀ c : MediaObject, pc.ours[i]? = some c →
      c.type ≠ .application ∧ findByMid pc.transceivers c.mid = none)
    (hfree : ∀ opt : MediaDescriptionOptions, o.options[i]? = some opt → opt.transceiver = none)
    (hoptions : ∀ j : Nat, o'.options[j]? = if j = i then
      some (optionsForTransceiver t (toString o.midGenerator)) else o.options[j]?)
    (hqueue : ∀ j ∈ o'.recycleable, j ∈ o.recycleable ∧ j ≠ i) (hqnodup : o'.recycleable.Nodup)
    (hgen : o'.midGenerator = o.midGenerator + 1)
    (hts : ∀ t', t' ∈ ts' ↔ t' ∈ ts ∨ t' = { t with mlineIndex := some i }) :
    Laid pc o' ts' where
  owner t' ht' := by
    rcases (hts t').mp ht' with ht' | rfl
    · obtain ⟨j, opt, hj, hopt, hown, hrest⟩ := h.owner t' ht'
      have hji : j ≠ i := by
        rintro rfl
        rw [hfree opt hopt] at hown
        cases hown
      exact ⟨j, opt, hj, by rw [hoptions, if_neg hji, hopt], hown, hrest⟩
    · exact ⟨i, _, rfl, by rw [hoptions, if_pos rfl], rfl, rfl, hlive, by simp [hnew],
        fun _ ↦ ⟨o.midGenerator, h.later, rfl⟩⟩
  owned j opt hj hty := by
    by_cases hji : j = i
    · exact .inr ⟨_, (hts _).mpr (.inr rfl), by rw [hji]⟩
    · rw [hoptions, if_neg hji] at hj
      exact (h.owned j opt hj hty).imp_right fun ⟨t', ht', hi⟩ ↦ ⟨t', (hts t').mpr (.inl ht'), hi⟩
  old j c hc := by
    by_cases hji : j = i
    · subst hji
      exact ⟨_, by rw [hoptions, if_pos rfl], .inr ⟨hlive, hold c hc⟩⟩
    · rw [hoptions, if_neg hji]
      exact h.old j c hc
  queue j hj := by
    obtain ⟨hj, hji⟩ := hqueue j hj
    rw [hoptions, if_neg hji]
    exact h.queue j hj
  queue_nodup := hqnodup
  mids := by
    refine nodup_of_getElem?_eq_ite (i := i) ?_ h.mids h.next_notMem
    intro j
    rw [List.getElem?_map, hoptions, List.getElem?_map]
    split <;> rfl
  generated opt hopt := by
    obtain ⟨j, hj⟩ := List.mem_iff_getElem?.mp hopt
    rw [hoptions] at hj
    rw [hgen]
    split at hj
    · obtain rfl := Option.some.inj hj
      exact ⟨o.midGenerator, by omega, rfl⟩
    · obtain ⟨k, hk, hmid⟩ := h.generated opt (List.mem_of_getElem? hj)
      exact ⟨k, by omega, hmid⟩
  later := by
    have := h.later
    omega

/-- The transceivers that have a section when `todo` are still to come. -/
def Offering.settled (o : Offering) (todo : List RtpTransceiver) : List RtpTransceiver :=
  o.transceivers ++ todo.filter fun t ↦ t.mid.isSome

private theorem mem_settled_add {t u : RtpTransceiver} (hmid : t.mid = none)
    {todo : List RtpTransceiver} {o o' : Offering} (ho : o'.transceivers = o.transceivers ++ [u])
    (t' : RtpTransceiver) : t' ∈ o'.settled todo ↔ t' ∈ o.settled (t :: todo) ∨ t' = u := by
  simp only [Offering.settled, ho, List.mem_append, List.mem_singleton, List.filter_cons, hmid,
    Option.isSome_none, Bool.false_eq_true, if_false]
  tauto

/-- One transceiver. -/
theorem Laid.add {t : RtpTransceiver} {todo : List RtpTransceiver}
    (h : Laid pc o (o.settled (t :: todo))) (hlive : t.stopped = false) :
    Laid pc (o.add t) ((o.add t).settled todo) := by
  cases hmid : t.mid with
  | some mid =>
    have hadd : o.add t = { o with transceivers := o.transceivers ++ [t] } := by
      simp [Offering.add, hmid]
    rw [hadd]
    have hcongr :
        Laid pc o (Offering.settled { o with transceivers := o.transceivers ++ [t] } todo) :=
      h.congr (by simp [Offering.settled, hmid])
    exact ⟨hcongr.owner, hcongr.owned, hcongr.old, hcongr.queue, hcongr.queue_nodup, hcongr.mids,
      hcongr.generated, hcongr.later⟩
  | none =>
    have hskip : (t.mid.isSome || t.stopped) = false := by simp [hmid, hlive]
    cases hq : o.recycleable with
    | nil =>
      have hadd : o.add t =
          { options := o.options ++ [optionsForTransceiver t (toString o.midGenerator)]
            recycleable := []
            midGenerator := o.midGenerator + 1
            transceivers :=
              o.transceivers ++ [{ t with mlineIndex := some o.options.length }] } := by
        simp [Offering.add, hskip, hq]
      rw [hadd]
      refine h.put hlive hmid (i := o.options.length) ?_ ?_ ?_ (by simp) List.nodup_nil rfl ?_
      · intro c hc
        obtain ⟨opt, hopt, -⟩ := h.old _ c hc
        simp at hopt
      · simp
      · intro j
        by_cases hj : j = o.options.length
        · simp [hj]
        · rw [if_neg hj, List.getElem?_append]
          split
          · rfl
          · rw [List.getElem?_eq_none (by simp; omega), List.getElem?_eq_none (by omega)]
      · exact mem_settled_add hmid rfl
    | cons i rest =>
      have hadd : o.add t =
          { options := o.options.set i (optionsForTransceiver t (toString o.midGenerator))
            recycleable := rest
            midGenerator := o.midGenerator + 1
            transceivers := o.transceivers ++ [{ t with mlineIndex := some i }] } := by
        simp [Offering.add, hskip, hq]
      rw [hadd]
      obtain ⟨c, opt, hc, hopt, hfree, hgone⟩ := h.queue i (by simp [hq])
      have hqn := h.queue_nodup
      rw [hq, List.nodup_cons] at hqn
      refine h.put hlive hmid (i := i) ?_ ?_ ?_ ?_ hqn.2 rfl ?_
      · intro c' hc'
        rw [hc] at hc'
        exact Option.some.inj hc' ▸ hgone
      · intro opt' hopt'
        rw [hopt] at hopt'
        exact Option.some.inj hopt' ▸ hfree
      · intro j
        have hi : i < o.options.length := (List.getElem?_eq_some_iff.mp hopt).1
        rw [List.getElem?_set]
        by_cases hj : j = i
        · simp [hj, hi]
        · simp [hj, Ne.symm hj]
      · intro j hj
        refine ⟨by simp [hq, hj], ?_⟩
        rintro rfl
        exact hqn.1 hj
      · exact mem_settled_add hmid rfl

/-- All transceivers. -/
theorem Laid.foldl_add {todo : List RtpTransceiver} (h : Laid pc o (o.settled todo))
    (hlive : ∀ t ∈ todo, t.stopped = false) :
    Laid pc (todo.foldl Offering.add o) (todo.foldl Offering.add o).transceivers := by
  induction todo generalizing o with
  | nil => simpa [Offering.settled] using h
  | cons t todo ih => exact ih (h.add (hlive t (by simp))) fun t ht ↦ hlive t (by simp [ht])

private theorem Laid.addData (h : Laid pc o o.transceivers) :
    Laid pc (o.addData pc) (o.addData pc).transceivers := by
  unfold Offering.addData
  split
  · have hlt {i : Nat} {opt : MediaDescriptionOptions} (hopt : o.options[i]? = some opt)
        (l : List MediaDescriptionOptions) : (o.options ++ l)[i]? = some opt := by
      rw [List.getElem?_append_left (List.getElem?_eq_some_iff.mp hopt).1, hopt]
    refine ⟨?_, ?_, ?_, ?_, h.queue_nodup, ?_, ?_, h.later.trans (Nat.le_succ _)⟩
    · intro t ht
      obtain ⟨i, opt, hi, hopt, hrest⟩ := h.owner t ht
      exact ⟨i, opt, hi, hlt hopt _, hrest⟩
    · intro i opt hopt hty
      rw [List.getElem?_append] at hopt
      split at hopt
      · exact h.owned i opt hopt hty
      · obtain rfl := List.mem_singleton.mp (List.mem_of_getElem? hopt)
        exact absurd rfl hty
    · intro i c hc
      obtain ⟨opt, hopt, hrest⟩ := h.old i c hc
      exact ⟨opt, hlt hopt _, hrest⟩
    · intro i hi
      obtain ⟨c, opt, hc, hopt, hrest⟩ := h.queue i hi
      exact ⟨c, opt, hc, hlt hopt _, hrest⟩
    · rw [List.map_append, List.map_singleton]
      refine List.nodup_append.mpr ⟨h.mids, List.nodup_singleton _, fun a ha b hb hab ↦ ?_⟩
      have hb : b = toString o.midGenerator := List.mem_singleton.mp hb
      exact h.next_notMem (hb ▸ hab ▸ ha)
    · intro opt hopt
      rcases List.mem_append.mp hopt with hopt | hopt
      · obtain ⟨k, hk, hmid⟩ := h.generated opt hopt
        exact ⟨k, Nat.lt_succ_of_lt hk, hmid⟩
      · obtain rfl := List.mem_singleton.mp hopt
        exact ⟨o.midGenerator, Nat.lt_succ_self _, rfl⟩
  · exact h

section Existing

variable {i : Nat} {c : MediaObject}

private theorem existingOptions_mid (pc : PeerConnection) (i : Nat) (c : MediaObject) :
    (pc.existingOptions i c).mid = c.mid := by
  unfold existingOptions
  split
  · rfl
  · split
    · rfl
    · split <;> rfl

/-- The options of the section for data channels. -/
theorem existingOptions_application (hc : c.type = .application) :
    pc.existingOptions i c =
      { type := .application, mid := c.mid, direction := .sendrecv,
        stopped := pc.hadBeenRejected i || pc.dataMid != some c.mid } := by
  simp only [existingOptions, hc]

/-- A section whose transceiver is gone is rejected. -/
theorem existingOptions_gone (hc : c.type ≠ .application)
    (hf : findByMid pc.transceivers c.mid = none) :
    pc.existingOptions i c =
      { type := c.type, mid := c.mid, direction := .inactive, stopped := true } := by
  unfold existingOptions
  split
  · next h => exact absurd h hc
  · rw [hf]

/-- A section keeps its transceiver. -/
theorem WF.existingOptions_owned (h : pc.WF) (hc : c.type ≠ .application) {t : RtpTransceiver}
    (hf : findByMid pc.transceivers c.mid = some t) :
    pc.existingOptions i c = optionsForTransceiver t c.mid := by
  unfold existingOptions
  split
  · next h => exact absurd h hc
  · simp [hf, h.live t (findByMid_eq_some hf).1]

end Existing

/-- The sections that exist, before a new transceiver is looked at. -/
theorem WF.laid_existing (h : pc.WF) :
    Laid pc pc.offerExisting (pc.offerExisting.settled pc.markMLineIndices) := by
  have hoptions (i : Nat) :
      pc.offerExisting.options[i]? = pc.ours[i]?.map (pc.existingOptions i) := by
    rw [offerExisting, h.existing_eq, List.getElem?_mapIdx]
  have hsettled : pc.offerExisting.settled pc.markMLineIndices =
      (pc.transceivers.map (markIn pc.ours)).filter fun t ↦ t.mid.isSome := by
    rw [h.markMLineIndices_eq]
    rfl
  rw [hsettled]
  refine ⟨?_, ?_, ?_, ?_, ?_, ?_, ?_, le_refl _⟩
  · intro t' ht'
    obtain ⟨ht', hsome⟩ := List.mem_filter.mp ht'
    obtain ⟨t, ht, rfl⟩ := List.mem_map.mp ht'
    rw [markIn_mid] at hsome
    obtain ⟨mid, hmid⟩ := Option.isSome_iff_exists.mp hsome
    obtain ⟨c, hc, rfl, hty⟩ := h.placed t ht mid hmid
    obtain ⟨i, hi⟩ := List.mem_iff_getElem?.mp hc
    have hnot : c.type ≠ .application := hty ▸ h.media t ht
    have hown := h.existingOptions_owned (i := i) hnot (h.mids.findByMid ht hmid)
    have hun := markIn_unplaced pc.ours t
    refine ⟨i, _, markIn_mlineIndex h.nodup hi hmid,
      by rw [hoptions, hi, Option.map_some, hown], ?_, ?_,
      h.live t ht, ?_, ?_⟩
    · rw [markIn_ref]
      rfl
    · exact (congrArg RtpTransceiver.mediaType hun).symm
    · rw [markIn_mid, hmid]
      exact fun mid' hmid' ↦ Option.some.inj hmid'
    · rw [markIn_mid, hmid]
      simp
  · intro i opt hopt hty
    rw [hoptions, Option.map_eq_some_iff] at hopt
    obtain ⟨c, hc, rfl⟩ := hopt
    by_cases happ : c.type = .application
    · rw [existingOptions_application happ] at hty
      exact absurd rfl hty
    · cases hf : findByMid pc.transceivers c.mid with
      | none => exact .inl (by rw [existingOptions_gone happ hf])
      | some t =>
        obtain ⟨ht, hmid⟩ := findByMid_eq_some hf
        refine .inr ⟨markIn pc.ours t, List.mem_filter.mpr ⟨List.mem_map_of_mem ht, ?_⟩,
          markIn_mlineIndex h.nodup hc hmid⟩
        rw [markIn_mid, hmid]
        rfl
  · intro i c hc
    refine ⟨_, by rw [hoptions, hc, Option.map_some], .inl ⟨existingOptions_mid pc i c, ?_⟩⟩
    by_cases happ : c.type = .application
    · rw [existingOptions_application happ, happ]
    · cases hf : findByMid pc.transceivers c.mid with
      | none => rw [existingOptions_gone happ hf]
      | some t =>
        obtain ⟨ht, hmid⟩ := findByMid_eq_some hf
        rw [h.existingOptions_owned happ hf]
        exact (h.type_eq ht (List.mem_of_getElem? hc) hmid).symm
  · intro i hi
    rw [offerExisting, h.existing_eq] at hi
    obtain ⟨⟨c, i'⟩, hmem, rfl⟩ := List.mem_map.mp hi
    obtain ⟨hmem, hrec⟩ := List.mem_filter.mp hmem
    have hc : pc.ours[i']? = some c := List.mk_mem_zipIdx_iff_getElem?.mp hmem
    obtain ⟨happ, hf⟩ := (h.recycleable_iff i' c).mp hrec
    exact ⟨c, _, hc, by rw [hoptions, hc, Option.map_some], by rw [existingOptions_gone happ hf],
      happ, hf⟩
  · rw [offerExisting]
    refine List.Nodup.sublist (List.filter_sublist.map Prod.snd) ?_
    rw [List.zipIdx_map_snd]
    exact List.nodup_range'
  · have hmids : pc.offerExisting.options.map MediaDescriptionOptions.mid =
        pc.ours.map MediaObject.mid := by
      apply List.ext_getElem?
      intro i
      rw [List.getElem?_map, hoptions, List.getElem?_map, Option.map_map]
      cases pc.ours[i]? with
      | none => rfl
      | some c => exact congrArg some (existingOptions_mid pc i c)
    rw [hmids]
    exact h.nodup
  · intro opt hopt
    obtain ⟨i, hi⟩ := List.mem_iff_getElem?.mp hopt
    rw [hoptions, Option.map_eq_some_iff] at hi
    obtain ⟨c, hc, rfl⟩ := hi
    rw [existingOptions_mid]
    exact h.generated c (List.mem_of_getElem? hc)

/-- The offer of a peer connection, with all of its transceivers. -/
theorem WF.laid (h : pc.WF) : Laid pc pc.getOptionsForOffer pc.getOptionsForOffer.transceivers := by
  refine (h.laid_existing.foldl_add ?_).addData
  intro t' ht'
  rw [h.markMLineIndices_eq] at ht'
  obtain ⟨t, ht, rfl⟩ := List.mem_map.mp ht'
  exact (congrArg RtpTransceiver.stopped (markIn_unplaced pc.ours t)).trans (h.live t ht)

private theorem unplaced_foldl_add (todo : List RtpTransceiver) (o : Offering) :
    (todo.foldl Offering.add o).transceivers.map RtpTransceiver.unplaced =
      o.transceivers.map RtpTransceiver.unplaced ++ todo.map RtpTransceiver.unplaced := by
  induction todo generalizing o with
  | nil => simp
  | cons t todo ih =>
    have hadd : (o.add t).transceivers.map RtpTransceiver.unplaced =
        o.transceivers.map RtpTransceiver.unplaced ++ [t.unplaced] := by
      unfold Offering.add
      split
      · simp
      · dsimp only
        split <;> simp [RtpTransceiver.unplaced]
    rw [List.foldl_cons, ih, hadd, List.append_assoc]
    rfl

/-- An offer only moves positions. -/
theorem WF.unplaced_getOptionsForOffer (h : pc.WF) :
    pc.getOptionsForOffer.transceivers.map RtpTransceiver.unplaced =
      pc.transceivers.map RtpTransceiver.unplaced := by
  have hdata (o : Offering) : (o.addData pc).transceivers = o.transceivers := by
    unfold Offering.addData
    split <;> rfl
  rw [getOptionsForOffer, hdata, unplaced_foldl_add, h.markMLineIndices_eq, List.map_map]
  exact List.map_congr_left fun t _ ↦ markIn_unplaced pc.ours t

end Layout

end PeerConnection

end RtcClient.Sdp
