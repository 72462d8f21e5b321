import RtcClient.Store.RoomStore
import RtcClient.Lib.LastWrite

/-!
# The setters of the local user's state

Nine operations of `RoomStore` write the one `Me` object
(`com/zeewain/rtc/lv/RoomStore.java:67–110`, `com/zeewain/rtc/model/Me.java`).
What a call is named for is stated apart from what it writes: the two differ for
`setCanChangeCam`, which forwards to `setCanSendCam`. The history law says when a
sequence of calls leaves every property with the last argument given for it.
-/

namespace RtcClient.Store

open RtcClient.Lib

namespace Me

/-- `Me.java:27–29`. -/
def setId (m : Me) (id : Option String) : Me := { m with mId := id }

/-- `Me.java:36–38`. -/
def setDisplayName (m : Me) (displayName : Option String) : Me :=
  { m with mDisplayName := displayName }

/-- `Me.java:53–55`. -/
def setDevice (m : Me) (device : Option DeviceInfo) : Me := { m with mDevice := device }

/-- `Me.java:61–63`. -/
def setCanSendMic (m : Me) (canSendMic : Bool) : Me := { m with mCanSendMic := canSendMic }

/-- `Me.java:69–71`. -/
def setCanSendCam (m : Me) (canSendCam : Bool) : Me := { m with mCanSendCam := canSendCam }

/-- `Me.java:101–103`. -/
def setAudioOnly (m : Me) (audioOnly : Bool) : Me := { m with mAudioOnly := audioOnly }

/-- `Me.java:109–111`. -/
def setAudioOnlyInProgress (m : Me) (audioOnlyInProgress : Bool) : Me :=
  { m with mAudioOnlyInProgress := audioOnlyInProgress }

/-- `Me.java:117–119`. -/
def setAudioMuted (m : Me) (audioMuted : Bool) : Me := { m with mAudioMuted := audioMuted }

/-- `Me.java:125–127`. -/
def setRestartIceInProgress (m : Me) (restartIceInProgress : Bool) : Me :=
  { m with mRestartIceInProgress := restartIceInProgress }

end Me

namespace RoomStore

/-- `RoomStore.java:67–74`. -/
def setMe (st : RoomStore) (peerId displayName : Option String) (device : Option DeviceInfo) :
    RoomStore :=
  { st with me := ((st.me.setId peerId).setDisplayName displayName).setDevice device }

/-- `RoomStore.java:76–82`. -/
def setMediaCapabilities (st : RoomStore) (canSendMic canSendCam : Bool) : RoomStore :=
  { st with me := (st.me.setCanSendMic canSendMic).setCanSendCam canSendCam }

/-- The action calls `setCanSendCam`; `RoomStore.java:84–86`. -/
def setCanChangeCam (st : RoomStore) (canChangeCam : Bool) : RoomStore :=
  { st with me := st.me.setCanSendCam canChangeCam }

/-- `RoomStore.java:88–90`. -/
def setDisplayName (st : RoomStore) (displayName : Option String) : RoomStore :=
  { st with me := st.me.setDisplayName displayName }

/-- `RoomStore.java:92–94`. -/
def setAudioOnlyState (st : RoomStore) (enabled : Bool) : RoomStore :=
  { st with me := st.me.setAudioOnly enabled }

/-- `RoomStore.java:96–98`. -/
def setAudioOnlyInProgress (st : RoomStore) (enabled : Bool) : RoomStore :=
  { st with me := st.me.setAudioOnlyInProgress enabled }

/-- `RoomStore.java:100–102`. -/
def setAudioMutedState (st : RoomStore) (enabled : Bool) : RoomStore :=
  { st with me := st.me.setAudioMuted enabled }

/-- `RoomStore.java:104–106`. -/
def setRestartIceInProgress (st : RoomStore) (restartIceInProgress : Bool) : RoomStore :=
  { st with me := st.me.setRestartIceInProgress restartIceInProgress }

end RoomStore

/-- A call of one of the nine setters, with its arguments. -/
inductive MeCall where
  | setMe (peerId displayName : Option String) (device : Option DeviceInfo)
  | setMediaCapabilities (canSendMic canSendCam : Bool)
  | setCanChangeCam (canChangeCam : Bool)
  | setDisplayName (displayName : Option String)
  | setAudioOnlyState (enabled : Bool)
  | setAudioOnlyInProgress (enabled : Bool)
  | setAudioMutedState (enabled : Bool)
  | setRestartIceInProgress (restartIceInProgress : Bool)
  | setCamInProgress (inProgress : Bool)
  deriving DecidableEq, Repr

/-- The store after a call. -/
def RoomStore.meCall (st : RoomStore) : MeCall → RoomStore
  | .setMe peerId displayName device => st.setMe peerId displayName device
  | .setMediaCapabilities canSendMic canSendCam => st.setMediaCapabilities canSendMic canSendCam
  | .setCanChangeCam canChangeCam => st.setCanChangeCam canChangeCam
  | .setDisplayName displayName => st.setDisplayName displayName
  | .setAudioOnlyState enabled => st.setAudioOnlyState enabled
  | .setAudioOnlyInProgress enabled => st.setAudioOnlyInProgress enabled
  | .setAudioMutedState enabled => st.setAudioMutedState enabled
  | .setRestartIceInProgress inProgress => st.setRestartIceInProgress inProgress
  | .setCamInProgress inProgress => st.setCamInProgress inProgress

/-- The properties of `Me` the setters are named for. -/
inductive MeProperty where
  | id
  | displayName
  | device
  | canSendMic
  | canSendCam
  | canChangeCam
  | audioOnly
  | audioOnlyInProgress
  | audioMuted
  | restartIceInProgress
  | camInProgress
  deriving DecidableEq, Repr

/-- What a property holds. -/
abbrev MeProperty.Value : MeProperty → Type
  | .id | .displayName => Option String
  | .device => Option DeviceInfo
  | _ => Bool

/-- The getter of a property; `Me.java:22–123`. -/
def Me.get (m : Me) : (p : MeProperty) → p.Value
  | .id => m.mId
  | .displayName => m.mDisplayName
  | .device => m.mDevice
  | .canSendMic => m.mCanSendMic
  | .canSendCam => m.mCanSendCam
  | .canChangeCam => m.mCanChangeCam
  | .audioOnly => m.mAudioOnly
  | .audioOnlyInProgress => m.mAudioOnlyInProgress
  | .audioMuted => m.mAudioMuted
  | .restartIceInProgress => m.mRestartIceInProgress
  | .camInProgress => m.mCamInProgress

/-- The argument a call gives for a property it is named for. This is the intent that the
names and parameters of the setters state. -/
def MeCall.names : MeCall → (p : MeProperty) → Option p.Value
  | .setMe peerId _ _, .id => some peerId
  | .setMe _ displayName _, .displayName => some displayName
  | .setMe _ _ device, .device => some device
  | .setMediaCapabilities canSendMic _, .canSendMic => some canSendMic
  | .setMediaCapabilities _ canSendCam, .canSendCam => some canSendCam
  | .setCanChangeCam canChangeCam, .canChangeCam => some canChangeCam
  | .setDisplayName displayName, .displayName => some displayName
  | .setAudioOnlyState enabled, .audioOnly => some enabled
  | .setAudioOnlyInProgress enabled, .audioOnlyInProgress => some enabled
  | .setAudioMutedState enabled, .audioMuted => some enabled
  | .setRestartIceInProgress inProgress, .restartIceInProgress => some inProgress
  | .setCamInProgress inProgress, .camInProgress => some inProgress
  | _, _ => none

/-- After `calls` every property is the argument of the last call named for it, or what it
was in `st` if there is none. -/
def LastNamed (st : RoomStore) (calls : List MeCall) : Prop :=
  ∀ p, (run RoomStore.meCall st calls).me.get p = lastWrite (·.names p) (st.me.get p) calls

/-- No property is named by both calls. -/
def MeCall.Disjoint (c d : MeCall) : Prop := ∀ p, c.names p = none ∨ d.names p = none

/-- The two calls have the same effect in either order. -/
def RoomStore.Commute (st : RoomStore) (c d : MeCall) : Prop :=
  (st.meCall c).meCall d = (st.meCall d).meCall c

/-- `setCanChangeCam` in the way of the `setMediaCapabilities` that gives another value. -/
def MeCall.Crossed : MeCall → MeCall → Prop
  | .setCanChangeCam b, .setMediaCapabilities _ canSendCam => canSendCam ≠ b
  | .setMediaCapabilities _ canSendCam, .setCanChangeCam b => canSendCam ≠ b
  | _, _ => False

/-- The last `setCanChangeCam` of `calls`, if there is one, gives the value `canChangeCam`
has from the start; and it is followed by a call named for `canSendCam`, or it repeats what
the last such call before it gave. -/
def CanChangeCamHarmless (st : RoomStore) (calls : List MeCall) : Prop :=
  ∀ pre b post, calls = pre ++ .setCanChangeCam b :: post →
    (∀ c ∈ post, c.names .canChangeCam = none) →
    b = st.me.mCanChangeCam ∧
    ((∃ c ∈ post, c.names .canSendCam ≠ none) ∨
      lastWrite (·.names .canSendCam) st.me.mCanSendCam pre = b)

namespace MeCall

/-- What a call writes. -/
def writes : MeCall → (p : MeProperty) → Option p.Value
  | .setCanChangeCam b, .canSendCam => some b
  | .setCanChangeCam _, .canChangeCam => none
  | c, p => c.names p

/-- A call writes what it is named for, unless it is named for `canChangeCam`. -/
theorem writes_eq_names {c : MeCall} (hc : c.names .canChangeCam = none) (p : MeProperty) :
    c.writes p = c.names p := by
  cases c with
  | setCanChangeCam b => cases hc
  | _ => rfl

/-- Away from the two camera properties all calls write what they are named for. -/
theorem writes_eq_names_of_ne (c : MeCall) {p : MeProperty} (h : p ≠ .canSendCam)
    (h' : p ≠ .canChangeCam) : c.writes p = c.names p := by
  cases c with
  | setCanChangeCam b =>
    cases p with
    | canSendCam => exact absurd rfl h
    | canChangeCam => exact absurd rfl h'
    | _ => rfl
  | _ => rfl

/-- Nothing writes `canChangeCam`. -/
@[simp] theorem writes_canChangeCam (c : MeCall) : c.writes .canChangeCam = none := by
  cases c <;> rfl

end MeCall

/-- One call: each property it writes is replaced, every other one stays. -/
theorem RoomStore.meCall_get (st : RoomStore) (c : MeCall) (p : MeProperty) :
    (st.meCall c).me.get p = (c.writes p).getD (st.me.get p) := by
  cases c <;> cases p <;> rfl

/-- A sequence of calls: each property is the last value written to it. -/
theorem RoomStore.run_meCall_get (st : RoomStore) (calls : List MeCall) (p : MeProperty) :
    (run RoomStore.meCall st calls).me.get p = lastWrite (·.writes p) (st.me.get p) calls :=
  run_lastWrite (fun s : RoomStore ↦ s.me.get p) (fun s c ↦ s.meCall_get c p) st calls

/-- A `Me` is determined by its properties. -/
theorem Me.ext_get {m m' : Me} (h : ∀ p, m.get p = m'.get p) : m = m' := by
  cases m
  cases m'
  rw [Me.mk.injEq]
  exact ⟨h .id, h .displayName, h .device, h .canSendMic, h .canSendCam, h .canChangeCam,
    h .camInProgress, h .audioOnly, h .audioOnlyInProgress, h .audioMuted, h .restartIceInProgress⟩

/-- A call changes nothing but `Me`. -/
theorem RoomStore.meCall_eq (st : RoomStore) (c : MeCall) :
    st.meCall c = { st with me := (st.meCall c).me } := by
  cases c <;> rfl

/-- Two calls commute when each property comes out the same. -/
theorem RoomStore.commute_iff (st : RoomStore) (c d : MeCall) :
    st.Commute c d ↔ ∀ p, (d.writes p).getD ((c.writes p).getD (st.me.get p)) =
      (c.writes p).getD ((d.writes p).getD (st.me.get p)) := by
  constructor
  · intro h p
    have hp : ((st.meCall c).meCall d).me.get p = ((st.meCall d).meCall c).me.get p := by rw [h]
    simpa only [RoomStore.meCall_get] using hp
  · intro h
    have hme : ((st.meCall c).meCall d).me = ((st.meCall d).meCall c).me := by
      apply Me.ext_get
      intro p
      simpa only [RoomStore.meCall_get] using h p
    show (st.meCall c).meCall d = (st.meCall d).meCall c
    rw [RoomStore.meCall_eq (st.meCall c), RoomStore.meCall_eq (st.meCall d), hme,
      RoomStore.meCall_eq st c, RoomStore.meCall_eq st d]

/-- Calls that write no property both, or the same value to it, commute. -/
theorem RoomStore.commute_of_writes (st : RoomStore) {c d : MeCall}
    (h : ∀ p, c.writes p = none ∨ d.writes p = none ∨ c.writes p = d.writes p) :
    st.Commute c d := by
  rw [RoomStore.commute_iff]
  intro p
  rcases h p with hc | hd | he
  · rw [hc, Option.getD_none, Option.getD_none]
  · rw [hd, Option.getD_none, Option.getD_none]
  · rw [he]

namespace MeCall

/-- Only `setCanChangeCam` is named for `canChangeCam`. -/
theorem names_canChangeCam_eq_none_or (c : MeCall) :
    c.names .canChangeCam = none ∨ ∃ b, c = .setCanChangeCam b := by
  cases c with
  | setCanChangeCam b => exact .inr ⟨b, rfl⟩
  | _ => exact .inl rfl

/-- `setCanChangeCam` writes nothing but `canSendCam`. -/
theorem writes_setCanChangeCam_of_ne (b : Bool) {p : MeProperty} (hp : p ≠ .canSendCam) :
    (setCanChangeCam b).writes p = none := by
  cases p with
  | canSendCam => exact absurd rfl hp
  | _ => rfl

/-- Crossing is another value given for `canSendCam`. -/
theorem crossed_setCanChangeCam_iff (b : Bool) (d : MeCall) :
    (setCanChangeCam b).Crossed d ↔ ∃ v, d.names .canSendCam = some v ∧ v ≠ b := by
  cases d with
  | setMediaCapabilities canSendMic canSendCam =>
    constructor
    · intro h
      exact ⟨canSendCam, rfl, h⟩
    · rintro ⟨v, hv, hne⟩
      cases hv
      exact hne
  | _ => exact ⟨False.elim, by rintro ⟨v, hv, -⟩; cases hv⟩

private theorem crossed_comm (c d : MeCall) : c.Crossed d ↔ d.Crossed c := by
  cases c <;> cases d <;> exact Iff.rfl

private theorem not_crossed {c d : MeCall} (hc : c.names .canChangeCam = none)
    (hd : d.names .canChangeCam = none) : ¬ c.Crossed d := by
  cases c with
  | setCanChangeCam b => cases hc
  | setMediaCapabilities canSendMic canSendCam =>
    cases d with
    | setCanChangeCam b => cases hd
    | _ => exact id
  | _ => exact id

private theorem disjoint_comm (c d : MeCall) : c.Disjoint d ↔ d.Disjoint c :=
  forall_congr' fun _ ↦ or_comm

end MeCall

namespace RoomStore

private theorem commute_comm (st : RoomStore) (c d : MeCall) :
    st.Commute c d ↔ st.Commute d c := eq_comm

/-- `setCanChangeCam` fails to commute with a call it shares no name with exactly when they
are crossed. -/
theorem setCanChangeCam_not_commute_iff (st : RoomStore) (b : Bool) (d : MeCall) :
    (MeCall.setCanChangeCam b).Disjoint d ∧ ¬ st.Commute (.setCanChangeCam b) d ↔
      (MeCall.setCanChangeCam b).Crossed d := by
  constructor
  · rintro ⟨hdis, hcomm⟩
    have hd : d.names .canChangeCam = none :=
      (hdis .canChangeCam).resolve_left (by simp [MeCall.names])
    by_contra hx
    apply hcomm
    apply st.commute_of_writes
    intro p
    by_cases hp : p = .canSendCam
    · subst hp
      rw [MeCall.writes_eq_names hd]
      cases hv : d.names .canSendCam with
      | none => exact .inr (.inl rfl)
      | some v =>
        have hvb : v = b := by
          by_contra hne
          exact hx ((MeCall.crossed_setCanChangeCam_iff b d).mpr ⟨v, hv, hne⟩)
        exact .inr (.inr (by rw [hvb]; rfl))
    · exact .inl (MeCall.writes_setCanChangeCam_of_ne b hp)
  · intro hx
    cases d with
    | setMediaCapabilities canSendMic canSendCam =>
      constructor
      · intro p
        cases p with
        | canChangeCam => exact .inr rfl
        | _ => exact .inl rfl
      · intro hcomm
        have hcam := (st.commute_iff _ _).mp hcomm .canSendCam
        exact hx hcam
    | _ => exact hx.elim

/-- Disjointly named calls that do not commute are the crossed ones. -/
theorem disjoint_not_commute_iff (st : RoomStore) (c d : MeCall) :
    c.Disjoint d ∧ ¬ st.Commute c d ↔ c.Crossed d := by
  rcases c.names_canChangeCam_eq_none_or with hc | ⟨b, rfl⟩
  · rcases d.names_canChangeCam_eq_none_or with hd | ⟨b, rfl⟩
    · refine iff_of_false ?_ (MeCall.not_crossed hc hd)
      rintro ⟨hdis, hcomm⟩
      apply hcomm
      apply st.commute_of_writes
      intro p
      rw [MeCall.writes_eq_names hc, MeCall.writes_eq_names hd]
      exact (hdis p).imp_right .inl
    · rw [MeCall.disjoint_comm, commute_comm, MeCall.crossed_comm]
      exact st.setCanChangeCam_not_commute_iff b c
  · exact st.setCanChangeCam_not_commute_iff b d

end RoomStore

/-- Either no call is a `setCanChangeCam`, or one of them is the last. -/
theorem exists_last_setCanChangeCam (calls : List MeCall) :
    (∀ c ∈ calls, c.names .canChangeCam = none) ∨
    ∃ pre b post, calls = pre ++ .setCanChangeCam b :: post ∧
      ∀ c ∈ post, c.names .canChangeCam = none := by
  induction calls with
  | nil => exact .inl (by simp)
  | cons c calls ih =>
    rcases ih with h | ⟨pre, b, post, rfl, hpost⟩
    · rcases c.names_canChangeCam_eq_none_or with hc | ⟨b, rfl⟩
      · exact .inl (List.forall_mem_cons.mpr ⟨hc, h⟩)
      · exact .inr ⟨[], b, calls, rfl, h⟩
    · exact .inr ⟨c :: pre, b, post, rfl, hpost⟩

/-- The law holds of every property once it holds of the two camera properties. -/
theorem lastNamed_iff (st : RoomStore) (calls : List MeCall) :
    LastNamed st calls ↔
      lastWrite (·.names .canChangeCam) st.me.mCanChangeCam calls = st.me.mCanChangeCam ∧
      lastWrite (·.writes .canSendCam) st.me.mCanSendCam calls =
        lastWrite (·.names .canSendCam) st.me.mCanSendCam calls := by
  have hchange : lastWrite (·.writes .canChangeCam) (st.me.get .canChangeCam) calls =
      st.me.mCanChangeCam := lastWrite_of_none fun c _ ↦ c.writes_canChangeCam
  constructor
  · intro h
    constructor
    · have hrun := (st.run_meCall_get calls .canChangeCam).trans hchange
      exact (h .canChangeCam).symm.trans hrun
    · exact (st.run_meCall_get calls .canSendCam).symm.trans (h .canSendCam)
  · rintro ⟨h₁, h₂⟩ p
    rw [st.run_meCall_get]
    by_cases hs : p = .canSendCam
    · subst hs
      exact h₂
    · by_cases hc : p = .canChangeCam
      · subst hc
        exact hchange.trans h₁.symm
      · exact lastWrite_congr fun c _ ↦ c.writes_eq_names_of_ne hs hc

/-- The law at a sequence whose last `setCanChangeCam` stands between `pre` and `post`. -/
theorem lastNamed_of_last (st : RoomStore) {pre post : List MeCall} (b : Bool)
    (hpost : ∀ c ∈ post, c.names .canChangeCam = none) :
    LastNamed st (pre ++ .setCanChangeCam b :: post) ↔
      b = st.me.mCanChangeCam ∧
      ((∃ c ∈ post, c.names .canSendCam ≠ none) ∨
        lastWrite (·.names .canSendCam) st.me.mCanSendCam pre = b) := by
  have hw : ∀ c ∈ post, c.writes .canSendCam = c.names .canSendCam :=
    fun c hc ↦ MeCall.writes_eq_names (hpost c hc) _
  rw [lastNamed_iff, lastWrite_append, lastWrite_append, lastWrite_append, lastWrite_cons,
    lastWrite_cons, lastWrite_cons, lastWrite_of_none hpost, lastWrite_congr hw]
  refine and_congr Iff.rfl ?_
  show lastWrite (·.names .canSendCam) b post =
    lastWrite (·.names .canSendCam) (lastWrite (·.names .canSendCam) st.me.mCanSendCam pre) post ↔ _
  by_cases hex : ∃ c ∈ post, c.names .canSendCam ≠ none
  · exact iff_of_true (lastWrite_eq_of_some hex _ _) (.inl hex)
  · have hnone : ∀ c ∈ post, c.names .canSendCam = none := by
      intro c hc
      by_contra hne
      exact hex ⟨c, hc, hne⟩
    rw [lastWrite_of_none hnone, lastWrite_of_none hnone]
    exact ⟨fun h ↦ .inr h.symm, fun h ↦ (h.resolve_left hex).symm⟩

/-- Every property is the last argument given for it exactly when no `setCanChangeCam` is
harmful; and the calls that share no name and still do not commute are the crossed ones. -/
theorem lastNamed_iff_harmless (st : RoomStore) :
    (∀ calls, LastNamed st calls ↔ CanChangeCamHarmless st calls) ∧
    ∀ c d, c.Disjoint d ∧ ¬ st.Commute c d ↔ c.Crossed d := by
  refine ⟨?_, st.disjoint_not_commute_iff⟩
  intro calls
  constructor
  · rintro h pre b post rfl hpost
    exact (lastNamed_of_last st b hpost).mp h
  · intro h
    rcases exists_last_setCanChangeCam calls with hnone | ⟨pre, b, post, rfl, hpost⟩
    · rw [lastNamed_iff, lastWrite_of_none hnone]
      exact ⟨rfl, lastWrite_congr fun c hc ↦ MeCall.writes_eq_names (hnone c hc) _⟩
    · exact (lastNamed_of_last st b hpost).mpr (h pre b post rfl hpost)

/-- After `setMediaCapabilities(true, true)` and `setCanChangeCam(false)` the camera may not
be sent and may not be changed either; in the other order it may be sent. -/
theorem setCanChangeCam_writes_canSendCam :
    ¬ LastNamed {} [.setMediaCapabilities true true, .setCanChangeCam false] ∧
    ¬ LastNamed {} [.setCanChangeCam true] ∧
    ((MeCall.setMediaCapabilities true true).Disjoint (.setCanChangeCam false) ∧
      ¬ RoomStore.Commute {} (.setMediaCapabilities true true) (.setCanChangeCam false)) := by
  refine ⟨?_, ?_, ?_, ?_⟩
  · intro h
    exact absurd (h .canSendCam) (by decide)
  · intro h
    exact absurd (h .canChangeCam) (by decide)
  · intro p
    cases p with
    | canChangeCam => exact .inl rfl
    | _ => exact .inr rfl
  · intro h
    have hcam := congrArg (fun st : RoomStore ↦ st.me.mCanSendCam) h
    exact absurd hcam (by decide)

end RtcClient.Store
