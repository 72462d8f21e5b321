import RtcClient.Native.Transport
import RtcClient.Lib.Run

/-!
# The handles behind the Java wrappers

`Device`, `SendTransport` and `RecvTransport` of `org/mediasoup/droid` keep the address
of a native object in a `long` that `dispose` sets to 0. Each method decides by itself
whether it tests the address before it hands it to native code. The methods `Transport`
implements pass no address: native code asks the object for it
(`jni/transport_jni.cpp:92–97`), and `getNativeTransport` reads it from the freed object
without a test. A run is a sequence of calls on one wrapper, each with whatever the
arguments and native code decide.
-/

namespace RtcClient.Native.Handles

open RtcClient.Lib

/-- A Java `long` that holds the address of a native object. -/
abbrev Handle := Int64

/-- The native functions of the three wrappers; `Device.java:275–321`,
`SendTransport.java:170–193`, `RecvTransport.java:114–137`, `Transport.java:119–136`. -/
inductive NativeFn where
  | nativeFreeDevice
  | nativeLoad
  | nativeIsLoaded
  | nativeGetRtpCapabilities
  | nativeGetSctpCapabilities
  | nativeCanProduce
  | nativeCreateSendTransport
  | nativeCreateRecvTransport
  | nativeFreeTransport
  | nativeGetNativeTransport
  | nativeProduce
  | nativeProduceData
  | nativeConsume
  | nativeConsumeData
  | nativeGetId
  | nativeGetConnectionState
  | nativeGetAppData
  | nativeGetStats
  | nativeIsClosed
  | nativeRestartIce
  | nativeUpdateIceServers
  | nativeClose
  deriving DecidableEq, Repr

/-- An invocation of a native function, with the handle it is given if it takes one. -/
structure NativeCall where
  fn : NativeFn
  handle : Option Handle
  deriving DecidableEq, Repr

/-- How a call of a method ends; `crashed` is a fault in native code. -/
inductive Outcome where
  | returned
  | threw (ex : Throwable)
  | crashed
  deriving DecidableEq, Repr

/-- What a call meets on its way: the evaluation of its Java arguments, whether its JSON
arguments parse in native code, and the rest of the native function. -/
structure CallEnv where
  arguments : Except Throwable Unit := .ok ()
  parses : Bool := true
  native : Outcome := .returned

/-- The shapes the method bodies have.
* `dispose`: test, free the object, `mNative… = 0`.
* `guarded`: test, then the native function with the handle.
* `unguarded`: the native function with the handle.
* `inherited`: a native function without a handle, which extracts the transport through
  `getNativeTransport` after parsing its argument, if it has one. -/
inductive Body where
  | dispose (free : NativeFn)
  | guarded (fn : NativeFn)
  | unguarded (fn : NativeFn) (parses : Bool)
  | inherited (fn : NativeFn) (parses : Bool)
  deriving DecidableEq, Repr

/-- The methods of `Device`; a shorter overload only fills in arguments of the longest. -/
inductive DeviceMethod where
  | dispose
  | load
  | isLoaded
  | getRtpCapabilities
  | getSctpCapabilities
  | canProduce
  | createSendTransport
  | createRecvTransport
  deriving DecidableEq, Repr

/-- `Device.java:14–267`. -/
def DeviceMethod.body : DeviceMethod → Body
  | .dispose => .dispose .nativeFreeDevice
  | .load => .guarded .nativeLoad
  | .isLoaded => .guarded .nativeIsLoaded
  | .getRtpCapabilities => .guarded .nativeGetRtpCapabilities
  | .getSctpCapabilities => .guarded .nativeGetSctpCapabilities
  | .canProduce => .guarded .nativeCanProduce
  | .createSendTransport => .guarded .nativeCreateSendTransport
  | .createRecvTransport => .guarded .nativeCreateRecvTransport

/-- The methods both transports inherit from `Transport`. -/
inductive TransportMethod where
  | getId
  | getConnectionState
  | getAppData
  | getStats
  | isClosed
  | restartIce
  | updateIceServers
  | close
  deriving DecidableEq, Repr

/-- `Transport.java:23–95`, `jni/transport_jni.cpp:99–192`; `restartIce` and
`updateIceServers` parse their argument before the transport is extracted. -/
def TransportMethod.body : TransportMethod → Body
  | .getId => .inherited .nativeGetId false
  | .getConnectionState => .inherited .nativeGetConnectionState false
  | .getAppData => .inherited .nativeGetAppData false
  | .getStats => .inherited .nativeGetStats false
  | .isClosed => .inherited .nativeIsClosed false
  | .restartIce => .inherited .nativeRestartIce true
  | .updateIceServers => .inherited .nativeUpdateIceServers true
  | .close => .inherited .nativeClose false

/-- The methods of `SendTransport`. -/
inductive SendTransportMethod where
  | inherited (m : TransportMethod)
  | dispose
  | getNativeTransport
  | produce
  | produceData
  deriving DecidableEq, Repr

/-- `SendTransport.java:56–168`; `produceData` parses `appData`. -/
def SendTransportMethod.body : SendTransportMethod → Body
  | .inherited m => m.body
  | .dispose => .dispose .nativeFreeTransport
  | .getNativeTransport => .unguarded .nativeGetNativeTransport false
  | .produce => .guarded .nativeProduce
  | .produceData => .unguarded .nativeProduceData true

/-- The methods of `RecvTransport`. -/
inductive RecvTransportMethod where
  | inherited (m : TransportMethod)
  | dispose
  | getNativeTransport
  | consume
  | consumeData
  deriving DecidableEq, Repr

/-- `RecvTransport.java:16–112`. -/
def RecvTransportMethod.body : RecvTransportMethod → Body
  | .inherited m => m.body
  | .dispose => .dispose .nativeFreeTransport
  | .getNativeTransport => .unguarded .nativeGetNativeTransport false
  | .consume => .guarded .nativeConsume
  | .consumeData => .guarded .nativeConsumeData

/-- What one call has done. -/
structure CallResult where
  natives : List NativeCall
  outcome : Outcome
  handle : Handle
  deriving DecidableEq, Repr

/-- Native code that reads through the handle faults on 0. -/
def deref (handle : Handle) (env : CallEnv) : Outcome :=
  if handle = 0 then .crashed else env.native

/-- Native code that parses its argument first throws a `MediasoupException` on a bad one,
before it reads through the handle. -/
def parseThen (parses : Bool) (env : CallEnv) (next : List NativeCall × Outcome) :
    List NativeCall × Outcome :=
  if parses && !env.parses then ([], .threw .mediasoup) else next

/-- One call of a method on a wrapper that holds `handle`. -/
def Body.exec (handle : Handle) (env : CallEnv) : Body → CallResult
  | .dispose free =>
    if handle = 0 then ⟨[], .threw .illegalState, handle⟩
    else ⟨[⟨free, some handle⟩], .returned, 0⟩
  | .guarded fn =>
    if handle = 0 then ⟨[], .threw .illegalState, handle⟩
    else match env.arguments with
      | .error ex => ⟨[], .threw ex, handle⟩
      | .ok _ => ⟨[⟨fn, some handle⟩], deref handle env, handle⟩
  | .unguarded fn parses =>
    let r := parseThen parses env ([], deref handle env)
    ⟨⟨fn, some handle⟩ :: r.1, r.2, handle⟩
  | .inherited fn parses =>
    let r := parseThen parses env ([⟨.nativeGetNativeTransport, some handle⟩], deref handle env)
    ⟨⟨fn, none⟩ :: r.1, r.2, handle⟩

/-- The body tests the handle before it does anything else. -/
def Body.Checks : Body → Prop
  | .dispose _ | .guarded _ => True
  | .unguarded _ _ | .inherited _ _ => False

instance : DecidablePred Body.Checks
  | .dispose _ | .guarded _ => isTrue trivial
  | .unguarded _ _ | .inherited _ _ => isFalse id

/-- The call is a `dispose` that returns. -/
def Body.disposes (handle : Handle) (env : CallEnv) : Body → Bool
  | .dispose free => ((Body.dispose free).exec handle env).outcome == .returned
  | _ => false

/-- A call in the history of a wrapper, and whether `dispose` had returned before it. -/
structure CallRecord where
  afterDispose : Bool
  natives : List NativeCall
  outcome : Outcome
  deriving DecidableEq, Repr

/-- A wrapper with its history; a fault ends the process and with it the history. -/
structure Wrapper where
  handle : Handle
  disposed : Bool := false
  crashed : Bool := false
  history : List CallRecord := []
  deriving DecidableEq, Repr

/-- One call on the wrapper. -/
def Wrapper.call {M : Type} (body : M → Body) (s : Wrapper) (c : M × CallEnv) : Wrapper :=
  if s.crashed then s
  else
    let r := (body c.1).exec s.handle c.2
    { handle := r.handle
      disposed := s.disposed || (body c.1).disposes s.handle c.2
      crashed := r.outcome == .crashed
      history := s.history ++ [⟨s.disposed, r.natives, r.outcome⟩] }

/-- After `dispose` a call throws `IllegalStateException`, and no native function is ever
given the handle 0. -/
def CallRecord.Safe (r : CallRecord) : Prop :=
  (r.afterDispose = true → r.outcome = .threw .illegalState) ∧
  ∀ n ∈ r.natives, n.handle ≠ some 0

instance : DecidablePred CallRecord.Safe := fun _ ↦ inferInstanceAs (Decidable (_ ∧ _))

/-- Every call so far was safe. -/
def Wrapper.Safe (s : Wrapper) : Prop := ∀ r ∈ s.history, r.Safe

instance : DecidablePred Wrapper.Safe :=
  fun s ↦ inferInstanceAs (Decidable (∀ r ∈ s.history, r.Safe))

/-- Calls on a wrapper that has been disposed are confined to `allowed`. -/
def OnlyAfterDispose {M : Type} (allowed : M → Prop) (s : Wrapper) (c : M × CallEnv) : Prop :=
  s.crashed = false → s.disposed = true → allowed c.1

/-- The handle is 0 exactly when the wrapper has been disposed. -/
def Wrapper.HandleOk (s : Wrapper) : Prop := s.handle = 0 ↔ s.disposed = true

namespace Body

variable {handle : Handle} {env : CallEnv} {b : Body}

/-- A body that tests the handle throws on 0 and calls nothing. -/
theorem exec_zero_of_checks (hb : b.Checks) :
    b.exec 0 env = ⟨[], .threw .illegalState, 0⟩ := by
  cases b with
  | dispose free => rfl
  | guarded fn => rfl
  | unguarded fn parses => exact hb.elim
  | inherited fn parses => exact hb.elim

private theorem parseThen_cases (parses : Bool) (env : CallEnv) (next : List NativeCall × Outcome) :
    parseThen parses env next = next ∨ parseThen parses env next = ([], .threw .mediasoup) := by
  rw [parseThen]
  split
  · exact .inr rfl
  · exact .inl rfl

/-- A native function is given the handle the wrapper holds or none. -/
theorem handle_of_mem_exec {n : NativeCall} (hn : n ∈ (b.exec handle env).natives) :
    n.handle = some handle ∨ n.handle = none := by
  cases b with
  | dispose free =>
    simp only [exec] at hn
    split at hn
    · simp at hn
    · rw [List.mem_singleton.mp hn]
      exact .inl rfl
  | guarded fn =>
    simp only [exec] at hn
    split at hn
    · simp at hn
    · split at hn
      · simp at hn
      · rw [List.mem_singleton.mp hn]
        exact .inl rfl
  | unguarded fn parses =>
    rcases parseThen_cases parses env ([], deref handle env) with h | h <;>
      simp only [exec, h, List.mem_singleton] at hn <;> exact .inl (by rw [hn])
  | inherited fn parses =>
    rcases parseThen_cases parses env
        ([⟨.nativeGetNativeTransport, some handle⟩], deref handle env) with h | h
    · simp only [exec, h, List.mem_cons, List.not_mem_nil, or_false] at hn
      rcases hn with rfl | rfl
      · exact .inr rfl
      · exact .inl rfl
    · simp only [exec, h, List.mem_singleton] at hn
      exact .inr (by rw [hn])

/-- On the handle 0 a body that does not test it is unsafe after `dispose`. -/
theorem not_safe_of_not_checks (hb : ¬ b.Checks) :
    ¬ CallRecord.Safe ⟨true, (b.exec 0 env).natives, (b.exec 0 env).outcome⟩ := by
  rintro ⟨hthrow, hnative⟩
  cases b with
  | dispose free => exact hb trivial
  | guarded fn => exact hb trivial
  | unguarded fn parses => exact hnative ⟨fn, some 0⟩ List.mem_cons_self rfl
  | inherited fn parses =>
    -- A bad argument hides the handle, but not behind an `IllegalStateException`.
    rcases parseThen_cases parses env
        ([⟨.nativeGetNativeTransport, some 0⟩], deref 0 env) with h | h
    · simp only [exec, h] at hnative
      exact hnative ⟨.nativeGetNativeTransport, some 0⟩ (by simp) rfl
    · have hout : (exec 0 env (.inherited fn parses)).outcome = .threw .mediasoup := by
        simp only [exec, h]
      cases hout.symm.trans (hthrow rfl)

/-- Only a `dispose` that returns changes the handle. -/
theorem exec_handle (b : Body) (handle : Handle) (env : CallEnv) :
    (b.exec handle env).handle = if b.disposes handle env then 0 else handle := by
  cases b with
  | dispose free =>
    by_cases h : handle = 0
    · simp [exec, disposes, h]
    · simp [exec, disposes, h]
  | guarded fn =>
    simp only [exec, disposes]
    split
    · rfl
    · split <;> rfl
  | unguarded fn parses => rfl
  | inherited fn parses => rfl

end Body

namespace Wrapper

variable {M : Type} {body : M → Body} {s : Wrapper} {c : M × CallEnv}

/-- Once native code has faulted nothing happens any more. -/
theorem call_of_crashed (h : s.crashed = true) : s.call body c = s := if_pos h

/-- A call adds one record. -/
theorem history_call (h : s.crashed = false) :
    (s.call body c).history = s.history ++ [⟨s.disposed, ((body c.1).exec s.handle c.2).natives,
      ((body c.1).exec s.handle c.2).outcome⟩] := by
  rw [call, if_neg (by simp [h])]

/-- The handle and the flag stay together. -/
theorem HandleOk.call (h : s.HandleOk) (c : M × CallEnv) : (s.call body c).HandleOk := by
  rw [Wrapper.call]
  split
  · exact h
  · show ((body c.1).exec s.handle c.2).handle = 0 ↔
      (s.disposed || (body c.1).disposes s.handle c.2) = true
    rw [Body.exec_handle, Bool.or_eq_true]
    split
    · next hd => exact iff_of_true rfl (.inr hd)
    · next hd => exact h.trans (or_iff_left hd).symm

/-- A call on a wrapper that was safe so far is safe exactly when the method tests the
handle or the wrapper is not disposed. -/
theorem safe_call_iff (hok : s.HandleOk) (hs : s.Safe) :
    (s.call body c).Safe ↔ OnlyAfterDispose (fun m ↦ (body m).Checks) s c := by
  cases hcr : s.crashed with
  | true =>
    rw [call_of_crashed hcr]
    refine iff_of_true hs ?_
    intro hcr'
    rw [hcr] at hcr'
    cases hcr'
  | false =>
    have hlast : (s.call body c).Safe ↔ CallRecord.Safe ⟨s.disposed,
        ((body c.1).exec s.handle c.2).natives, ((body c.1).exec s.handle c.2).outcome⟩ := by
      rw [Wrapper.Safe, history_call hcr, List.forall_mem_append, List.forall_mem_singleton]
      exact and_iff_right hs
    rw [hlast]
    cases hd : s.disposed with
    | false =>
      refine iff_of_true ⟨by simp, ?_⟩ ?_
      · intro n hn hzero
        have hne : s.handle ≠ 0 := by
          intro h0
          rw [hok.mp h0] at hd
          cases hd
        rcases Body.handle_of_mem_exec hn with h | h
        · exact hne (Option.some_inj.mp (h.symm.trans hzero))
        · rw [h] at hzero
          cases hzero
      · intro _ hd'
        rw [hd] at hd'
        cases hd'
    | true =>
      rw [hok.mpr hd]
      constructor
      · intro hsafe _ _
        by_contra hb
        exact Body.not_safe_of_not_checks hb hsafe
      · intro hch
        rw [Body.exec_zero_of_checks (hch hcr hd)]
        exact ⟨fun _ ↦ rfl, by simp⟩

/-- Along every sequence of calls on a new wrapper: all calls are safe exactly when only
methods that test the handle are called after `dispose`. -/
theorem always_safe_iff {handle : Handle} (hne : handle ≠ 0) (body : M → Body)
    (calls : List (M × CallEnv)) :
    Always (call body) Safe { handle := handle } calls ↔
      Guarded (call body) (OnlyAfterDispose fun m ↦ (body m).Checks)
        { handle := handle } calls := by
  refine always_iff_guarded HandleOk ?_ ?_ ?_ ?_
  · exact iff_of_false hne (by simp)
  · intro r hr
    simp at hr
  · intro s c _ hs
    exact hs.call c
  · intro s c _ hok hs
    exact safe_call_iff hok hs

end Wrapper

/-- Every method of `Device` tests the handle. -/
theorem DeviceMethod.checks (m : DeviceMethod) : m.body.Checks := by
  cases m <;> trivial

/-- Of the methods of `SendTransport` only `dispose` and `produce` test the handle. -/
theorem SendTransportMethod.checks_iff (m : SendTransportMethod) :
    m.body.Checks ↔ m = .dispose ∨ m = .produce := by
  cases m with
  | inherited m => cases m <;> simp [body, TransportMethod.body, Body.Checks]
  | _ => simp [body, Body.Checks]

/-- Of the methods of `RecvTransport` only `dispose`, `consume` and `consumeData` test the
handle. -/
theorem RecvTransportMethod.checks_iff (m : RecvTransportMethod) :
    m.body.Checks ↔ m = .dispose ∨ m = .consume ∨ m = .consumeData := by
  cases m with
  | inherited m => cases m <;> simp [body, TransportMethod.body, Body.Checks]
  | _ => simp [body, Body.Checks]

/-- No call on a device is ever unsafe. On a transport all calls are safe exactly when,
after `dispose`, nothing but `dispose` and `produce`, or `dispose`, `consume` and
`consumeData`, is called. -/
theorem wrappers_safe_iff (handle : Handle) (hne : handle ≠ 0) :
    (∀ calls, Always (Wrapper.call DeviceMethod.body) Wrapper.Safe { handle := handle } calls) ∧
    (∀ calls, Always (Wrapper.call SendTransportMethod.body) Wrapper.Safe
        { handle := handle } calls ↔
      Guarded (Wrapper.call SendTransportMethod.body)
        (OnlyAfterDispose fun m ↦ m = .dispose ∨ m = .produce) { handle := handle } calls) ∧
    (∀ calls, Always (Wrapper.call RecvTransportMethod.body) Wrapper.Safe
        { handle := handle } calls ↔
      Guarded (Wrapper.call RecvTransportMethod.body)
        (OnlyAfterDispose fun m ↦ m = .dispose ∨ m = .consume ∨ m = .consumeData)
        { handle := handle } calls) := by
  refine ⟨?_, ?_, ?_⟩
  · intro calls
    rw [Wrapper.always_safe_iff hne]
    intro pre c _ _ _
    exact c.1.checks
  · intro calls
    rw [Wrapper.always_safe_iff hne]
    simp only [SendTransportMethod.checks_iff]
  · intro calls
    rw [Wrapper.always_safe_iff hne]
    simp only [RecvTransportMethod.checks_iff]

/-- A disposed send transport that is asked for its id or to open a data channel hands 0 to
native code, and so does a disposed receive transport that is told to close. -/
theorem disposed_transport_unsafe :
    ¬ Always (Wrapper.call SendTransportMethod.body) Wrapper.Safe { handle := 1 }
      [(.dispose, {}), (.inherited .getId, {})] ∧
    ¬ Always (Wrapper.call SendTransportMethod.body) Wrapper.Safe { handle := 1 }
      [(.dispose, {}), (.produceData, {})] ∧
    ¬ Always (Wrapper.call RecvTransportMethod.body) Wrapper.Safe { handle := 1 }
      [(.dispose, {}), (.inherited .close, {})] := by
  refine ⟨?_, ?_, ?_⟩
  · intro h
    exact absurd h.last (by decide)
  · intro h
    exact absurd h.last (by decide)
  · intro h
    exact absurd h.last (by decide)

/-- The wrapper at address 1. -/
theorem wrappers_safe_iff_one : (1 : Handle) ≠ 0 ∧
    (∀ calls, Always (Wrapper.call DeviceMethod.body) Wrapper.Safe { handle := 1 } calls) ∧
    (∀ calls, Always (Wrapper.call SendTransportMethod.body) Wrapper.Safe { handle := 1 } calls ↔
      Guarded (Wrapper.call SendTransportMethod.body)
        (OnlyAfterDispose fun m ↦ m = .dispose ∨ m = .produce) { handle := 1 } calls) ∧
    (∀ calls, Always (Wrapper.call RecvTransportMethod.body) Wrapper.Safe { handle := 1 } calls ↔
      Guarded (Wrapper.call RecvTransportMethod.body)
        (OnlyAfterDispose fun m ↦ m = .dispose ∨ m = .consume ∨ m = .consumeData)
        { handle := 1 } calls) :=
  ⟨by decide, wrappers_safe_iff 1 (by decide)⟩

section EngineModel

/-- The end of a call whose result is given. -/
def Outcome.ofExcept {α : Type} : Except Throwable α → Outcome
  | .ok _ => .returned
  | .error ex => .threw ex

variable {handle : Handle} {α : Type} {x : Except Throwable α}

/-- A guarded method ends as `x` says if `x` throws `IllegalStateException` on the handle 0
and native code decides the rest. -/
theorem Body.guarded_outcome (fn : NativeFn) (hx : handle = 0 → x = .error .illegalState) :
    ((Body.guarded fn).exec handle { native := .ofExcept x }).outcome = .ofExcept x := by
  by_cases h : handle = 0
  · rw [hx h]
    simp only [exec, if_pos h]
    rfl
  · simp only [exec, if_neg h, deref]

/-- Where the engine's model of the native objects tests `disposed`, the wrapper tests its
handle: the guarded methods of both end alike. -/
theorem guarded_methods_agree {d : Device} {t : RecvTransport} (hd : handle = 0 ↔ d.disposed = true)
    (ht : handle = 0 ↔ t.disposed = true) (kind : Kind) (caps : RouterCapabilities) (ref : Ref)
    (id producerId : String) (o : RecvTransport.ConsumeOutcome) :
    (DeviceMethod.isLoaded.body.exec handle { native := .ofExcept d.isLoaded }).outcome =
      .ofExcept d.isLoaded ∧
    (DeviceMethod.canProduce.body.exec handle { native := .ofExcept (d.canProduce kind) }).outcome =
      .ofExcept (d.canProduce kind) ∧
    (DeviceMethod.load.body.exec handle { native := .ofExcept (d.load caps) }).outcome =
      .ofExcept (d.load caps) ∧
    (RecvTransportMethod.consume.body.exec handle
      { native := .ofExcept (t.consume ref id producerId o) }).outcome =
      .ofExcept (t.consume ref id producerId o) := by
  refine ⟨?_, ?_, ?_, ?_⟩ <;> apply Body.guarded_outcome <;> intro h
  · simp only [Device.isLoaded, hd.mp h, if_true]
  · simp only [Device.canProduce, hd.mp h, if_true]
  · simp only [Device.load, hd.mp h, if_true]
  · simp only [RecvTransport.consume, RecvTransport.requireOpen, ht.mp h, if_true]

end EngineModel

end RtcClient.Native.Handles
