import Mathlib.Logic.Relation
import RtcClient.Engine.Produce

/-!
# Media tasks as sequences of writes

Whatever a media task decides, it changes the engine by a finite sequence of elementary
writes: a local track, the progress flag, an outgoing call, an entry of a native table, a
producer field or the store's producers. What every write keeps, every media task keeps.
-/

namespace RtcClient.Engine

open RtcClient.Native RtcClient.Store

/-- Calls that media tasks make. -/
def Call.OfMedia : Call → Prop
  | .request (.createUserProduce _ _ _ _) | .request (.createUserTextProduce _ _ _ _)
  | .request (.closeUserProducer _) | .request (.startFusion _ _) | .answered _ _ | .produced _
  | .producedData _ | .callback (.onError _) => True
  | _ => False

/-- One elementary write of a media task. -/
inductive MediaWrite (e : RtcEngineEx) : RtcEngineEx → Prop
  | track (tr : Option LocalTrack) (k : Kind) : MediaWrite e (e.setLocalTrack tr k)
  | camInProgress (b : Bool) : MediaWrite e (e.setCamInProgress b)
  | call (c : Call) (h : c.OfMedia) : MediaWrite e (e.emit c)
  | file (t : SendTransport) :
      MediaWrite e { e with nextRef := e.nextRef + 1, mSendTransport := some t }
  | store (p : Producer) : MediaWrite e (e.storeProducer p)
  | close (p : Producer) : MediaWrite e (e.closeProducer p)
  | remove (producerId : String) : MediaWrite e (e.removeProducer producerId)
  | clear (k : Kind) : MediaWrite e (e.setProducer none k)
  | setData (p : DataProducer) (l : Label) : MediaWrite e (e.setDataProducer (some p) l)

/-- A sequence of such writes. -/
abbrev MediaWrites : RtcEngineEx → RtcEngineEx → Prop := Relation.ReflTransGen MediaWrite

/-- A projection that every write keeps is kept by a sequence of writes. -/
theorem MediaWrites.keeps {β : Type} (f : RtcEngineEx → β)
    (h : ∀ e e', MediaWrite e e' → f e' = f e) {e e' : RtcEngineEx} (hw : MediaWrites e e') :
    f e' = f e := by
  induction hw with
  | refl => rfl
  | tail _ hwrite ih => exact (h _ _ hwrite).trans ih

/-- One write to anything but the state of the local user. -/
def QuietWrite (e e' : RtcEngineEx) : Prop := MediaWrite e e' ∧ e'.mStore.me = e.mStore.me

namespace QuietWrite

variable (e : RtcEngineEx)

private theorem track (tr : Option LocalTrack) (k : Kind) : QuietWrite e (e.setLocalTrack tr k) :=
  ⟨.track tr k, by cases k <;> rfl⟩

private theorem call (c : Call) (h : c.OfMedia) : QuietWrite e (e.emit c) := ⟨.call c h, rfl⟩

private theorem file (t : SendTransport) :
    QuietWrite e { e with nextRef := e.nextRef + 1, mSendTransport := some t } := ⟨.file t, rfl⟩

private theorem store (p : Producer) : QuietWrite e (e.storeProducer p) := ⟨.store p, rfl⟩

private theorem close (p : Producer) : QuietWrite e (e.closeProducer p) :=
  ⟨.close p, by
    unfold RtcEngineEx.closeProducer
    split <;> rfl⟩

private theorem remove (producerId : String) : QuietWrite e (e.removeProducer producerId) :=
  ⟨.remove producerId, rfl⟩

private theorem clear (k : Kind) : QuietWrite e (e.setProducer none k) :=
  ⟨.clear k, by cases k <;> rfl⟩

private theorem setData (p : DataProducer) (l : Label) :
    QuietWrite e (e.setDataProducer (some p) l) :=
  ⟨.setData p l, by cases l <;> rfl⟩

end QuietWrite

/-- A sequence of such writes. -/
abbrev QuietWrites : RtcEngineEx → RtcEngineEx → Prop := Relation.ReflTransGen QuietWrite

/-- Quiet writes are writes. -/
theorem QuietWrites.writes {e e' : RtcEngineEx} (h : QuietWrites e e') : MediaWrites e e' := by
  have hle : QuietWrite ≤ MediaWrite := fun _ _ hw ↦ hw.1
  exact Relation.ReflTransGen.mono hle _ _ h

/-- Quiet writes leave the local user alone. -/
theorem QuietWrites.me {e e' : RtcEngineEx} (h : QuietWrites e e') :
    e'.mStore.me = e.mStore.me := by
  induction h with
  | refl => rfl
  | tail _ hwrite ih => exact hwrite.2.trans ih

namespace RtcEngineEx

variable (e : RtcEngineEx)

private theorem writes_emitAll {cs : List Call} (h : ∀ c ∈ cs, c.OfMedia) :
    QuietWrites e (e.emitAll cs) := by
  induction cs using List.reverseRecOn with
  | nil =>
    rw [emitAll_nil]
  | append_singleton cs c ih =>
    have hlast : e.emitAll (cs ++ [c]) = (e.emitAll cs).emit c := by
      simp [emitAll, emit]
    rw [hlast]
    exact (ih fun c hc ↦ h c (by simp [hc])).tail (.call _ c (h c (by simp)))

private theorem ofMedia_askCalls (transportId : String) (kind : Kind) (answer : Answer) :
    ∀ c ∈ e.askCalls transportId kind answer, c.OfMedia := by
  unfold askCalls
  split
  · simp
  · cases answer <;> simp [Call.OfMedia]

private theorem ofMedia_askDataCalls (transportId : String) (label : Label) :
    ∀ c ∈ e.askDataCalls transportId label, c.OfMedia := by
  unfold askDataCalls
  split <;> simp [Call.OfMedia]

private theorem writes_produce (t : SendTransport) (kind : Kind) (o : ProduceOutcome) :
    QuietWrites e (e.produce t kind o).1 := by
  have hprod := e.produce_step t kind o
  generalize e.produce t kind o = r at hprod
  cases hprod with
  | disposed _ => exact .refl
  | failed _ _ => exact .refl
  | refused answer _ _ _ _ => exact e.writes_emitAll (e.ofMedia_askCalls t.id kind answer)
  | filed answer id _ _ _ _ =>
    have hask := e.writes_emitAll (e.ofMedia_askCalls t.id kind answer)
    exact (hask.tail (.file _ _)).tail (.call _ _ trivial)

private theorem writes_withTrack (kind : Kind) : QuietWrites e (e.withTrack kind) :=
  .single (.track _ _ _)

/-- The `try` block of the enable tasks is a sequence of quiet writes, however it ends. -/
theorem writes_tryProduce (kind : Kind) (camera : CameraOutcome) (o : ProduceOutcome) :
    QuietWrites e (e.tryProduce kind camera o).engine := by
  have hstep := e.tryProduce_step kind camera o
  generalize e.tryProduce kind camera o = exit at hstep
  cases hstep with
  | returned _ => exact .refl
  | threw _ => exact .refl
  | produced t _ =>
    have hprod := (e.writes_withTrack kind).trans ((e.withTrack kind).writes_produce t kind o)
    generalize (e.withTrack kind).produce t kind o = r at hprod
    obtain ⟨y, ex | p⟩ := r
    · exact hprod
    · exact hprod.tail (.store _ _)

private theorem writes_afterCamera (available : Bool) :
    MediaWrites e (e.afterCamera available).engine := by
  obtain ⟨cs, hcs, hcalls⟩ := e.afterCamera_calls available
  have hmedia : ∀ c ∈ cs, c.OfMedia := by
    intro c hc
    rcases hcalls c hc with ⟨roomId, userId, rfl⟩ | rfl
    · trivial
    · trivial
  rw [hcs]
  exact (Relation.ReflTransGen.single (.camInProgress false)).trans (writes_emitAll _ hmedia).writes

private theorem writes_enableCameraImpl (camera : CameraOutcome) (o : ProduceOutcome)
    (available : Bool) : MediaWrites e (e.enableCameraImpl camera o available).engine := by
  have htry := (Relation.ReflTransGen.single (MediaWrite.camInProgress (e := e) true)).trans
    ((e.setCamInProgress true).writes_tryProduce .video camera o).writes
  have hend := e.enableCameraImpl_end camera o available
  generalize (e.enableCameraImpl camera o available).engine = e' at hend
  cases hend with
  | left => exact htry
  | ended => exact htry.trans (writes_afterCamera _ available)
  | handled => exact (htry.tail (.track _ _)).trans (writes_afterCamera _ available)

private theorem writes_enableAudioImpl (o : ProduceOutcome) :
    QuietWrites e (e.enableAudioImpl o).engine := by
  have htry := e.writes_tryProduce .audio .opened o
  rcases e.enableAudioImpl_end o with hend | hend
  · rw [hend]
    exact htry
  · rw [hend]
    exact htry.tail (.track _ _ _)

private theorem writes_disableProducer (kind : Kind) : QuietWrites e (e.disableProducer kind) := by
  unfold disableProducer
  split
  · exact .refl
  · next p _ =>
    simp only [closeUserProducer_eq]
    have hclosed := (Relation.ReflTransGen.single (QuietWrite.close e p)).tail (.remove _ p.id)
    refine (hclosed.trans (writes_emitAll _ ?_)).tail (.clear _ kind)
    split <;> simp [Call.OfMedia]

private theorem writes_enableDataProducer (label : Label) (o : ProduceOutcome) :
    QuietWrites e (e.enableDataProducer label o).engine := by
  have hask := fun transportId ↦ e.writes_emitAll (e.ofMedia_askDataCalls transportId label)
  have hstep := e.enableDataProducer_dataStep label o
  generalize (e.enableDataProducer label o).engine = x at hstep
  cases hstep with
  | skipped => exact .refl
  | refused transportId => exact hask transportId
  | filed t id _ _ _ =>
    have hfiled : QuietWrites e ((e.emitAll (e.askDataCalls t.id label)).fileDataProducer t
        ⟨e.nextRef, id, label⟩) := ((hask t.id).tail (.file _ _)).tail (.call _ _ trivial)
    exact hfiled.tail (.setData _ _ _)

private theorem writes_setupLocalVideo (camera : CameraOutcome) :
    QuietWrites e (e.setupLocalVideo camera).engine := by
  unfold setupLocalVideo
  split
  · exact .refl
  · next hx =>
    rw [e.eq_withTrack_of_ensureTrack hx]
    exact e.writes_withTrack .video

/-- Every media task but the camera's is a sequence of quiet writes. -/
theorem runMediaTask_quiet (env : Environment) {task : MediaTask} (h : task ≠ .enable .video) :
    QuietWrites e (e.runMediaTask env task).engine := by
  cases task with
  | setupLocalVideo => exact e.writes_setupLocalVideo env.camera
  | enable kind =>
    cases kind with
    | audio => exact e.writes_enableAudioImpl env.produce
    | video => exact absurd rfl h
  | disable kind => cases kind <;> exact e.writes_disableProducer _
  | enableData label => cases label <;> exact e.writes_enableDataProducer _ env.produce

/-- Every media task is a sequence of writes. -/
theorem runMediaTask_writes (env : Environment) (task : MediaTask) :
    MediaWrites e (e.runMediaTask env task).engine := by
  by_cases h : task = .enable .video
  · rw [h]
    exact e.writes_enableCameraImpl env.camera env.produce env.available
  · exact (e.runMediaTask_quiet env h).writes

/-- A media task only adds calls of its own to the log. -/
theorem runMediaTask_calls (env : Environment) (task : MediaTask) :
    ∃ cs, (e.runMediaTask env task).engine.calls = e.calls ++ cs ∧ ∀ c ∈ cs, c.OfMedia := by
  have hwrites := e.runMediaTask_writes env task
  generalize (e.runMediaTask env task).engine = e' at hwrites
  induction hwrites with
  | refl => exact ⟨[], by simp, by simp⟩
  | @tail x y _ hwrite ih =>
    obtain ⟨cs, hcalls, hcs⟩ := ih
    have hsame : (∃ c, c.OfMedia ∧ y.calls = x.calls ++ [c]) ∨ y.calls = x.calls := by
      cases hwrite with
      | call c h => exact .inl ⟨c, h, rfl⟩
      | track tr k => cases k <;> exact .inr rfl
      | camInProgress b => exact .inr rfl
      | file t => exact .inr rfl
      | store p =>
        unfold storeProducer
        cases p.kind <;> exact .inr rfl
      | close p =>
        obtain ⟨_, _, hwrites⟩ := x.closeProducer_writes p
        exact .inr (by rw [hwrites])
      | remove id => exact .inr rfl
      | clear k => cases k <;> exact .inr rfl
      | setData p l => cases l <;> exact .inr rfl
    rcases hsame with ⟨c, hc, hy⟩ | hy
    · refine ⟨cs ++ [c], by rw [hy, hcalls, List.append_assoc], ?_⟩
      intro d hd
      rcases List.mem_append.mp hd with hd | hd
      · exact hcs d hd
      · rw [List.mem_singleton.mp hd]
        exact hc
    · exact ⟨cs, by rw [hy, hcalls], hcs⟩

/-- A projection that every write keeps is kept by every media task. -/
theorem runMediaTask_keeps {β : Type} (f : RtcEngineEx → β)
    (h : ∀ e e', MediaWrite e e' → f e' = f e) (env : Environment) (task : MediaTask) :
    f (e.runMediaTask env task).engine = f e :=
  (e.runMediaTask_writes env task).keeps f h

end RtcEngineEx

end RtcClient.Engine
