import RtcClient.Lib.Run
import RtcClient.System.Machine

/-!
# Calls that wait for the server's verdict

`nativeJoinChannel`, `nativeLeaveChannel`, `nativeCloseChannel` and
`nativeUpdateFusionBackground` (`RtcEngineEx.java:155–251,1290–1312`) each send one request,
give its future a listener and wait for the same future. The listener acts on `isSuccess` or
on a switch over the response code, the return value is 0 for code 0 only. A call is modelled
up to the point where both have run.
-/

namespace RtcClient.System

open RtcClient.Native RtcClient.Store RtcClient.Engine RtcClient.Lib

/-- A completed future: failed, or successful with a response code and the `serverRoomId` of
its data, if it has data. -/
inductive Future where
  | failed
  | success (code : Int) (data : Option (Option String))
  deriving DecidableEq, Repr

/-- What a call meets: no network, or a future that completes. -/
inductive Outcome where
  | unavailable
  | completed (f : Future)
  deriving DecidableEq, Repr

/-- What a call does besides sending and returning; `onDisconnected` and `onClose` of the
internal handler only log. -/
inductive Effect where
  | registerReceiver
  | setServerRoomId (serverRoomId : Option String)
  | onOpen
  | onError (err : ErrorCode)
  /-- A task posted to the worker that throws `RuntimeException`. -/
  | postThrow
  | onLeaveChannel
  | setBackgroundUrl (imageUrl : Option String)
  deriving DecidableEq, Repr

/-- Listener of `nativeJoinChannel`: a response without data ends it after
`registerReceiver`, and code 1 has no `break`. `RtcEngineEx.java:168–191`. -/
def joinListener : Future → List Effect
  | .failed => [.onError .notReady]
  | .success code data =>
    if code = 0 then
      .registerReceiver ::
        match data with
        | none => []
        | some r => [.setServerRoomId r, .onOpen]
    else
      (if code = 1 then [.onError .invalidToken, .postThrow] else []) ++
        if code = 1 ∨ code = 1000 then [.onError .configParameterNotMatch, .postThrow] else []

/-- Listener of `nativeLeaveChannel` and of `nativeCloseChannel`;
`RtcEngineEx.java:212–217,238–243`. -/
def leaveListener : Future → List Effect
  | .failed => []
  | .success _ _ => [.onLeaveChannel]

/-- Listener of `nativeUpdateFusionBackground`; `RtcEngineEx.java:1300–1304`. -/
def backgroundListener (imageUrl : Option String) : Future → List Effect
  | .failed => []
  | .success _ _ => [.setBackgroundUrl imageUrl]

/-- `code == 0 ? 0 : -1`, and -1 for a failed future; `RtcEngineEx.java:193–198`. -/
def returnValue : Future → Int
  | .failed => -1
  | .success code _ => if code = 0 then 0 else -1

/-- What one call has come to. -/
structure Verdict where
  engine : RtcEngineEx
  effects : List Effect
  returned : Except Throwable Int

/-- An effect on the engine's fields and on the application; processors and queues are kept by
the client. -/
def applyEffect (e : RtcEngineEx) : Effect → RtcEngineEx
  | .setServerRoomId r => { e with serverRoomId := r }
  | .setBackgroundUrl url =>
    { e with rtcEngineConfig := { e.rtcEngineConfig with backgroundUrl := url } }
  | .onError err => e.callback (.onError err)
  | .onLeaveChannel => e.callback .onLeaveChannel
  | .registerReceiver | .onOpen | .postThrow => e

/-- The common shape of the four calls, with the request and the listener of each. Without a
client the call throws before it sends. -/
def awaitVerdict (e : RtcEngineEx) (r : Request) (listener : Future → List Effect) :
    Outcome → Verdict
  | .unavailable =>
    ⟨e.callback (.onError .connectionLost), [.onError .connectionLost], .ok (-1)⟩
  | .completed f =>
    match e.send r with
    | .error ex => ⟨e, [], .error ex⟩
    | .ok e => ⟨(listener f).foldl applyEffect e, listener f, .ok (returnValue f)⟩

/-- `RtcEngineEx.java:155–199`. -/
def nativeJoinChannel (e : RtcEngineEx) : Outcome → Verdict :=
  awaitVerdict e (.initClient e.rtcEngineConfig) joinListener

/-- `RtcEngineEx.java:201–225`. -/
def nativeLeaveChannel (e : RtcEngineEx) : Outcome → Verdict :=
  awaitVerdict e (.exitRoom e.rtcEngineConfig.userId e.serverRoomId) leaveListener

/-- `RtcEngineEx.java:227–251`. -/
def nativeCloseChannel (e : RtcEngineEx) : Outcome → Verdict :=
  awaitVerdict e (.closeRoom e.rtcEngineConfig.userId e.serverRoomId) leaveListener

/-- `RtcEngineEx.java:1290–1312`. -/
def nativeUpdateFusionBackground (e : RtcEngineEx) (imageUrl : Option String) :
    Outcome → Verdict :=
  awaitVerdict e (.updateFusionBackground imageUrl e.serverRoomId e.rtcEngineConfig.userId)
    (backgroundListener imageUrl)

/-- The four calls, with their arguments. -/
inductive Method where
  | joinChannel
  | leaveChannel
  | closeChannel
  | updateFusionBackground (imageUrl : Option String)
  deriving DecidableEq, Repr

namespace Method

/-- Make the call. -/
def call (e : RtcEngineEx) : Method → Outcome → Verdict
  | .joinChannel => nativeJoinChannel e
  | .leaveChannel => nativeLeaveChannel e
  | .closeChannel => nativeCloseChannel e
  | .updateFusionBackground imageUrl => nativeUpdateFusionBackground e imageUrl

/-- The listener the call gives its future. -/
def listener : Method → Future → List Effect
  | .joinChannel => joinListener
  | .leaveChannel | .closeChannel => leaveListener
  | .updateFusionBackground imageUrl => backgroundListener imageUrl

/-- The effects by which the call succeeds have all happened. -/
def Succeeded (fx : List Effect) : Method → Prop
  | .joinChannel => .registerReceiver ∈ fx ∧ (∃ r, .setServerRoomId r ∈ fx) ∧ .onOpen ∈ fx
  | .leaveChannel | .closeChannel => .onLeaveChannel ∈ fx
  | .updateFusionBackground imageUrl => .setBackgroundUrl imageUrl ∈ fx

/-- None of them has happened. -/
def Failed (fx : List Effect) : Method → Prop
  | .joinChannel => .registerReceiver ∉ fx ∧ (∀ r, .setServerRoomId r ∉ fx) ∧ .onOpen ∉ fx
  | .leaveChannel | .closeChannel => .onLeaveChannel ∉ fx
  | .updateFusionBackground imageUrl => .setBackgroundUrl imageUrl ∉ fx

/-- Number of `eventHandler.onError` calls. -/
def errors (fx : List Effect) : Nat :=
  fx.countP fun
    | .onError _ => true
    | _ => false

/-- The return value is the whole verdict: 0 with all the success effects, anything else with
none of them and both fields unchanged, and at most one error is reported. -/
structure OneVerdict (e : RtcEngineEx) (m : Method) (o : Outcome) : Prop where
  success : (m.call e o).returned = .ok 0 → m.Succeeded (m.call e o).effects
  failure : (m.call e o).returned ≠ .ok 0 → m.Failed (m.call e o).effects ∧
    (m.call e o).engine.serverRoomId = e.serverRoomId ∧
    (m.call e o).engine.rtcEngineConfig.backgroundUrl = e.rtcEngineConfig.backgroundUrl
  errors : errors (m.call e o).effects ≤ 1

/-- The response is one on which listener and return value agree: a join is not answered with
code 1 nor with code 0 and no data, another request only with code 0. -/
def AgreedResponse : Method → Outcome → Prop
  | .joinChannel, .completed (.success code data) => code ≠ 1 ∧ (code = 0 → data ≠ none)
  | _, .completed (.success code _) => code = 0
  | _, _ => True

variable {e : RtcEngineEx} {m : Method}

/-- All four calls share their shape. -/
theorem call_eq (m : Method) (o : Outcome) : ∃ r, m.call e o = awaitVerdict e r m.listener o := by
  cases m <;> exact ⟨_, rfl⟩

private theorem call_unavailable (m : Method) :
    m.call e .unavailable =
      ⟨e.callback (.onError .connectionLost), [.onError .connectionLost], .ok (-1)⟩ := by
  obtain ⟨r, hr⟩ := call_eq (e := e) m .unavailable
  rw [hr]
  rfl

/-- Without a client nothing is sent and nothing happens. -/
theorem call_of_none (m : Method) (f : Future) (h : e.mStartupClient = none) :
    m.call e (.completed f) = ⟨e, [], .error .nullPointer⟩ := by
  obtain ⟨r, hr⟩ := call_eq (e := e) m (.completed f)
  rw [hr]
  simp only [awaitVerdict, RtcEngineEx.send, h]

/-- With a client the listener runs and the future's code is returned. -/
theorem call_of_some (m : Method) (f : Future) (h : e.mStartupClient ≠ none) :
    ∃ r, m.call e (.completed f) =
      ⟨(m.listener f).foldl applyEffect (e.request r), m.listener f, .ok (returnValue f)⟩ := by
  obtain ⟨r, hr⟩ := call_eq (e := e) m (.completed f)
  obtain ⟨c, hc⟩ := Option.ne_none_iff_exists'.mp h
  refine ⟨r, ?_⟩
  rw [hr]
  simp only [awaitVerdict, RtcEngineEx.send, hc]

-- Nothing succeeds when nothing happens, or only errors are reported.
private theorem failed_of_errors {fx : List Effect}
    (h : ∀ x ∈ fx, ∃ err, x = .onError err) : m.Failed fx := by
  have hnot : ∀ x, (∀ err, x ≠ .onError err) → x ∉ fx := by
    intro x hx hmem
    obtain ⟨err, he⟩ := h x hmem
    exact hx err he
  cases m with
  | joinChannel => exact ⟨hnot _ (by simp), fun r ↦ hnot _ (by simp), hnot _ (by simp)⟩
  | leaveChannel => exact hnot _ (by simp)
  | closeChannel => exact hnot _ (by simp)
  | updateFusionBackground imageUrl => exact hnot _ (by simp)

private theorem oneVerdict_unavailable : OneVerdict e m .unavailable where
  success h := by
    rw [call_unavailable] at h
    cases h
  failure _ := by
    rw [call_unavailable]
    exact ⟨failed_of_errors (by simp), rfl, rfl⟩
  errors := by
    rw [call_unavailable]
    simp [Method.errors]

private theorem oneVerdict_of_none (f : Future) (h : e.mStartupClient = none) :
    OneVerdict e m (.completed f) where
  success h' := by
    rw [call_of_none m f h] at h'
    cases h'
  failure _ := by
    rw [call_of_none m f h]
    exact ⟨failed_of_errors (by simp), rfl, rfl⟩
  errors := by
    rw [call_of_none m f h]
    simp [Method.errors]

-- Fields that only the two assignments write.
private theorem foldl_applyEffect_fields (fx : List Effect) (e : RtcEngineEx)
    (h : ∀ x ∈ fx, (∀ r, x ≠ .setServerRoomId r) ∧ ∀ url, x ≠ .setBackgroundUrl url) :
    (fx.foldl applyEffect e).serverRoomId = e.serverRoomId ∧
      (fx.foldl applyEffect e).rtcEngineConfig = e.rtcEngineConfig := by
  induction fx generalizing e with
  | nil => exact ⟨rfl, rfl⟩
  | cons x fx ih =>
    obtain ⟨hroom, hconfig⟩ := ih (applyEffect e x) fun y hy ↦ h y (by simp [hy])
    obtain ⟨hr, hu⟩ := h x (by simp)
    rw [List.foldl_cons, hroom, hconfig]
    cases x with
    | setServerRoomId r => exact absurd rfl (hr r)
    | setBackgroundUrl url => exact absurd rfl (hu url)
    | _ => exact ⟨rfl, rfl⟩

-- With a client, the verdict is decided by what the listener did and by the return value.
private theorem oneVerdict_iff_listener (f : Future) (h : e.mStartupClient ≠ none)
    (hfields : returnValue f ≠ 0 → m.Failed (m.listener f) → ∀ x ∈ m.listener f,
      (∀ r, x ≠ .setServerRoomId r) ∧ ∀ url, x ≠ .setBackgroundUrl url) :
    OneVerdict e m (.completed f) ↔
      (returnValue f = 0 → m.Succeeded (m.listener f)) ∧
        (returnValue f ≠ 0 → m.Failed (m.listener f)) ∧ errors (m.listener f) ≤ 1 := by
  obtain ⟨r, hcall⟩ := call_of_some m f h
  constructor
  · rintro ⟨hs, hf, he⟩
    rw [hcall] at hs hf he
    refine ⟨fun hz ↦ hs (by rw [hz]), fun hn ↦ (hf ?_).1, he⟩
    intro hz
    exact hn (Except.ok.inj hz)
  · rintro ⟨hs, hf, he⟩
    constructor
    · rw [hcall]
      intro hz
      exact hs (Except.ok.inj hz)
    · rw [hcall]
      intro hn
      have hn : returnValue f ≠ 0 := fun hz ↦ hn (by rw [hz])
      have hkept := foldl_applyEffect_fields _ (e.request r) (hfields hn (hf hn))
      exact ⟨hf hn, hkept.1, by rw [hkept.2]; rfl⟩
    · rw [hcall]
      exact he

private theorem join_response_iff (f : Future) :
    (returnValue f = 0 → Succeeded (joinListener f) .joinChannel) ∧
        (returnValue f ≠ 0 → Failed (joinListener f) .joinChannel) ∧ errors (joinListener f) ≤ 1 ↔
      AgreedResponse .joinChannel (.completed f) := by
  cases f with
  | failed => simp [returnValue, joinListener, Failed, errors, AgreedResponse]
  | success code data =>
    by_cases h0 : code = 0
    · cases data <;> simp [returnValue, joinListener, Succeeded, errors, AgreedResponse, h0]
    · by_cases h1 : code = 1
      · simp [returnValue, joinListener, errors, AgreedResponse, h1]
      · by_cases h1000 : code = 1000
        · simp [returnValue, joinListener, Failed, errors, AgreedResponse, h1000]
        · simp [returnValue, joinListener, Failed, errors, AgreedResponse, h0, h1, h1000]

private theorem join_fields (f : Future) (h : returnValue f ≠ 0) : ∀ x ∈ joinListener f,
    (∀ r, x ≠ .setServerRoomId r) ∧ ∀ url, x ≠ .setBackgroundUrl url := by
  cases f with
  | failed => simp [joinListener]
  | success code data =>
    have h0 : code ≠ 0 := by
      intro h0
      simp [returnValue, h0] at h
    by_cases h1 : code = 1
    · simp [joinListener, h1]
    · by_cases h1000 : code = 1000 <;> simp [joinListener, h0, h1, h1000]

/-- The verdict of a call is one exactly when the engine has no client, in which case the call
throws before it sends, or the response is one that listener and return value agree on. -/
theorem oneVerdict_iff (e : RtcEngineEx) (m : Method) (o : Outcome) :
    OneVerdict e m o ↔ e.mStartupClient = none ∨ m.AgreedResponse o := by
  cases o with
  | unavailable =>
    have hagreed : m.AgreedResponse .unavailable := by cases m <;> trivial
    exact iff_of_true oneVerdict_unavailable (.inr hagreed)
  | completed f =>
    by_cases h : e.mStartupClient = none
    · exact iff_of_true (oneVerdict_of_none f h) (.inl h)
    · rw [or_iff_right h]
      cases m with
      | joinChannel =>
        rw [oneVerdict_iff_listener (m := .joinChannel) f h fun hn _ ↦ join_fields f hn]
        exact join_response_iff f
      | leaveChannel =>
        rw [oneVerdict_iff_listener f h (by cases f <;> simp [listener, leaveListener])]
        cases f <;>
          simp [listener, leaveListener, returnValue, Succeeded, Failed, errors, AgreedResponse]
      | closeChannel =>
        rw [oneVerdict_iff_listener f h (by cases f <;> simp [listener, leaveListener])]
        cases f <;>
          simp [listener, leaveListener, returnValue, Succeeded, Failed, errors, AgreedResponse]
      | updateFusionBackground imageUrl =>
        rw [oneVerdict_iff_listener f h (by
          cases f <;> simp [listener, backgroundListener, Failed])]
        cases f <;> simp [listener, backgroundListener, returnValue, Succeeded, Failed, errors,
          AgreedResponse]

/-- A rejected `EXIT_ROOM` is announced as a leave, an invalid token is reported twice, and a
rejected background is kept. -/
theorem oneVerdict_fails_rejected :
    ¬ OneVerdict joinedEngine .leaveChannel (.completed (.success 500 none)) ∧
      ¬ OneVerdict joinedEngine .joinChannel (.completed (.success 1 none)) ∧
      ¬ OneVerdict joinedEngine (.updateFusionBackground (some "url"))
        (.completed (.success 500 none)) := by
  refine ⟨fun h ↦ ?_, fun h ↦ ?_, fun h ↦ ?_⟩
  · exact (h.failure (by decide)).1 (by decide)
  · exact absurd h.errors (by decide)
  · exact absurd (h.failure (by decide)).2.2 (by decide)

end Method

namespace Client

/-! ### The same calls as steps of the client -/

/-- `joinChannel` answered with this code, and all of its listener. -/
def joinAnswered (code : Int) (serverRoomId : Option String) : List Action :=
  [.joinChannel true, .initReply (.code code serverRoomId)] ++
    if code = 0 then [.initListener (.registerReceiver serverRoomId),
      .initListener (.setServerRoomId serverRoomId), .initListener .onOpen]
    else []

/-- A client that waits for no other `INIT_CLIENT` ends with the engine of the call. -/
theorem joinAnswered_engine {s : Client} (hr : s.initRequests = 0) (hl : s.initListeners = [])
    (code : Int) (serverRoomId : Option String) :
    (run step s (joinAnswered code serverRoomId)).engine =
      (nativeJoinChannel s.engine (.completed (.success code (some serverRoomId)))).engine := by
  have hpost : ∀ (x : Client) t, (x.post t).engine = x.engine := by
    intro x t
    unfold post
    split <;> rfl
  cases hc : s.engine.mStartupClient with
  | none =>
    by_cases h0 : code = 0 <;>
      simp [joinAnswered, h0, step, joinChannel, RtcEngineEx.send, hc, initReply, hr, initListener,
        hl, nativeJoinChannel, awaitVerdict]
  | some c =>
    by_cases h0 : code = 0
    · simp [joinAnswered, h0, step, joinChannel, RtcEngineEx.send, hc, initReply, hr, initListener,
        hl, hpost, nativeJoinChannel, awaitVerdict, joinListener, applyEffect]
    · by_cases h1 : code = 1
      · simp [joinAnswered, h1, step, joinChannel, RtcEngineEx.send, hc, initReply, hr,
          Client.callback, withEngine, hpost, nativeJoinChannel, awaitVerdict, joinListener,
          applyEffect]
      · by_cases h1000 : code = 1000
        · simp [joinAnswered, h1000, step, joinChannel, RtcEngineEx.send, hc, initReply, hr,
            Client.callback, withEngine, hpost, nativeJoinChannel, awaitVerdict, joinListener,
            applyEffect]
        · simp [joinAnswered, h0, h1, h1000, step, joinChannel, RtcEngineEx.send, hc, initReply, hr,
            nativeJoinChannel, awaitVerdict, joinListener]

/-- The same for `leaveChannel`, whose listener does not look at the code. -/
theorem leaveAnswered_engine {s : Client} (hr : s.exitRequests = 0) (code : Int)
    (data : Option (Option String)) :
    (run step s [.leaveChannel true, .exitReply true]).engine =
      (nativeLeaveChannel s.engine (.completed (.success code data))).engine := by
  cases hc : s.engine.mStartupClient with
  | none =>
    simp [step, leaveChannel, RtcEngineEx.send, hc, exitReply, hr, nativeLeaveChannel, awaitVerdict]
  | some c =>
    simp [step, leaveChannel, RtcEngineEx.send, hc, exitReply, hr, Client.callback, withEngine,
      nativeLeaveChannel, awaitVerdict, leaveListener, applyEffect]

end Client

end RtcClient.System
