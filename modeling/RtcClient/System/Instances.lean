import RtcClient.System.Process

/-!
# Engines and each other's statics

The network client is created once and closed by the first destroy task that runs
(`ClientFactory.java:52–66`, `RtcEngineEx.java:1324–1328`), the processor table has one entry
a code and is cleared as a whole. The current instance keeps both exactly as long as no
engine is created over a closed client, no destroy task runs while there is an instance, and
no other engine registers over its processors.
-/

namespace RtcClient.System

open RtcClient.Native RtcClient.Store RtcClient.Engine RtcClient.Lib

namespace Process

/-- The current instance holds a client that was never closed and, once it has registered
them, all its processors. -/
structure Undisturbed (s : Process) : Prop where
  client : ∀ i c r, s.mInstance = some i → s.engines[i]? = some c →
    c.engine.mStartupClient = some r → r ∉ s.closedClients
  processors : ∀ i, s.mInstance = some i → i ∈ s.registrars →
    ∀ code ∈ MsgCode.all, s.processorTable code = some i

/-- The step keeps the engines apart. -/
def KeepsApart (s : Process) : ProcessAction → Prop
  | .create none => True
  | .create (some _) => s.mInstance = none → ∀ r, s.startupClient = some r → r ∉ s.closedClients
  | .destroy => True
  | .act i a => ∀ c, s.engines[i]? = some c →
    (c.registersReceiver a = true → ∀ j, s.mInstance = some j → j ≠ i → j ∉ s.registrars) ∧
      (c.runsDestroy a = true → s.mInstance = none)

/-- What holds of the engines and the statics in every run. -/
structure Wired (s : Process) : Prop where
  phases : ∀ (i : Nat) (c : Client), s.engines[i]? = some c → c.PhaseInv
  ledger : ∀ (i : Nat) (c : Client), s.engines[i]? = some c → c.Ledger
  client : ∀ (i : Nat) (c : Client) (r : Ref), s.engines[i]? = some c →
    c.engine.mStartupClient = some r → s.startupClient = some r
  current : ∀ i, s.mInstance = some i → ∃ c, s.engines[i]? = some c ∧ c.engine.mClosed = false
  registrars : ∀ i ∈ s.registrars, i < s.engines.length
  created : ∀ r, s.startupClient = some r → r < s.createdClients
  closed : ∀ r ∈ s.closedClients, r < s.createdClients

variable {s : Process}

/-! ### The statics -/

private theorem register_foldl (s : Process) (i : Nat) (codes : List MsgCode) :
    codes.foldl (fun s code ↦ s.register i code) s =
      { s with processorTable := fun code ↦
        if code ∈ codes then some i else s.processorTable code } := by
  induction codes generalizing s with
  | nil => rfl
  | cons code codes ih =>
    rw [List.foldl_cons, ih]
    have htable : (fun x ↦ if x ∈ codes then some i else (s.register i code).processorTable x) =
        fun x ↦ if x ∈ code :: codes then some i else s.processorTable x := by
      funext x
      by_cases hx : x = code
      · simp [register, hx]
      · simp [register, hx]
    rw [htable]
    rfl

-- After `registerReceiver` every code has a processor of this engine.
private theorem registerReceiver_eq (s : Process) (i : Nat) :
    s.registerReceiver i =
      { s with
        processorTable := fun _ ↦ some i
        registrars := insert i s.registrars } := by
  have hall : ∀ code, code ∈ MsgCode.all := by
    intro code
    cases code <;> decide
  unfold registerReceiver
  rw [register_foldl]
  simp [hall]

-- The client that `ClientFactory.get` returns is the static one from then on.
private theorem get_spec (s : Process) :
    s.get.1.startupClient = some s.get.2 ∧ (∀ r, s.startupClient = some r → s.get.2 = r) ∧
      s.createdClients ≤ s.get.1.createdClients := by
  unfold get
  split
  · next r hr =>
    refine ⟨hr, ?_, Nat.le_refl _⟩
    intro r' hr'
    rw [hr] at hr'
    exact Option.some.inj hr'
  · next hr =>
    refine ⟨rfl, ?_, Nat.le_succ _⟩
    intro r' hr'
    rw [hr] at hr'
    cases hr'

private theorem get_rest (s : Process) :
    s.get.1.closedClients = s.closedClients ∧ s.get.1.processorTable = s.processorTable ∧
      s.get.1.registrars = s.registrars := by
  unfold get
  split <;> exact ⟨rfl, rfl, rfl⟩

private theorem Wired.get_lt (h : s.Wired) : s.get.2 < s.get.1.createdClients := by
  unfold get
  split
  · next r hr => exact h.created r hr
  · exact Nat.lt_succ_self _

-- A client that is created only now has not been closed.
private theorem Wired.get_open_iff (h : s.Wired) :
    s.get.2 ∉ s.closedClients ↔ ∀ r, s.startupClient = some r → r ∉ s.closedClients := by
  cases hr : s.startupClient with
  | some r =>
    have hget : s.get.2 = r := s.get_spec.2.1 r hr
    rw [hget]
    simp
  | none =>
    have hfresh : s.get.2 ∉ s.closedClients := by
      have hget : s.get.2 = s.createdClients := by simp only [get, hr]
      rw [hget]
      intro hc
      exact Nat.lt_irrefl _ (h.closed _ hc)
    simp [hfresh]

/-! ### One engine -/

private theorem hear_engine (s : Process) (i : Nat) (c : Client) (a : Action) :
    (s.hear i c a).engine = c.engine := by
  cases a <;> rfl

private theorem hear_inv (s : Process) (i : Nat) {c : Client} (a : Action) (hp : c.PhaseInv)
    (hl : c.Ledger) : (s.hear i c a).PhaseInv ∧ (s.hear i c a).Ledger := by
  cases a with
  | deliver n o =>
    exact ⟨hp.imp_right fun h ↦ ⟨h.link, h.pc, h.sent⟩,
      ⟨hl.closing, hl.joined, hl.consumers, hl.acks, hl.stages, hl.room⟩⟩
  | _ => exact ⟨hp, hl⟩

-- An engine about to run its destroy task has been destroyed and still has its client.
private theorem runsDestroy_spec {c : Client} {a : Action} (hp : c.PhaseInv) (hl : c.Ledger)
    (h : c.runsDestroy a = true) :
    c.engine.mClosed = true ∧ ∃ r, c.engine.mStartupClient = some r := by
  unfold Client.runsDestroy at h
  split at h
  · obtain ⟨hidle, hhead⟩ := of_decide_eq_true h
    have hmem : Task.destroy ∈ c.workQueue := List.mem_of_mem_head? hhead
    have hclient := (hp.phases (by simp [hidle])).link.client
    exact ⟨hl.closing (.inl hmem), Option.isSome_iff_exists.mp hclient⟩
  · cases h

-- What an action of one engine does to the statics.
private theorem shared_cases (s : Process) (i : Nat) {c : Client} (a : Action) (hp : c.PhaseInv)
    (hl : c.Ledger) :
    (c.registersReceiver a = true ∧ c.runsDestroy a = false ∧
        s.shared i c a = s.registerReceiver i) ∨
      (c.registersReceiver a = false ∧ c.runsDestroy a = true ∧
        ∃ r, c.engine.mStartupClient = some r ∧ s.shared i c a = s.closeClient r) ∨
      (c.registersReceiver a = false ∧ c.runsDestroy a = false ∧ s.shared i c a = s) := by
  unfold shared
  by_cases hr : c.registersReceiver a = true
  · left
    rw [if_pos hr]
    refine ⟨hr, ?_, rfl⟩
    unfold Client.registersReceiver at hr
    split at hr
    · rfl
    · cases hr
  · right
    rw [if_neg hr]
    have hr := Bool.eq_false_iff.mpr hr
    by_cases hd : c.runsDestroy a = true
    · obtain ⟨-, r, hclient⟩ := runsDestroy_spec hp hl hd
      rw [if_pos hd, hclient]
      exact .inl ⟨hr, hd, r, rfl, rfl⟩
    · rw [if_neg hd]
      exact .inr ⟨hr, Bool.eq_false_iff.mpr hd, rfl⟩

-- An action runs on an engine that exists and is not `RtcEngine.destroy`, or nothing
-- happens.
private theorem act_cases (s : Process) (i : Nat) (a : Action) :
    (s.act i a = s ∧ ∀ c, s.engines[i]? = some c →
        c.registersReceiver a = false ∧ c.runsDestroy a = false) ∨
      ∃ c, s.engines[i]? = some c ∧ a ≠ .destroy ∧ s.act i a =
        { s.shared i c a with engines := s.engines.set i ((s.hear i c a).step a) } := by
  unfold act
  split
  · next hc =>
    refine .inl ⟨rfl, ?_⟩
    intro c hc'
    rw [hc] at hc'
    cases hc'
  · exact .inl ⟨rfl, fun _ _ ↦ ⟨rfl, rfl⟩⟩
  · next c hc ha => exact .inr ⟨c, hc, fun h ↦ ha h, rfl⟩

-- What one action leaves of an engine's own invariants and flags.
private theorem hear_step (s : Process) (i : Nat) {c : Client} {a : Action} (hp : c.PhaseInv)
    (hl : c.Ledger) (ha : a ≠ .destroy) :
    ((s.hear i c a).step a).PhaseInv ∧ ((s.hear i c a).step a).Ledger ∧
      (∀ r, ((s.hear i c a).step a).engine.mStartupClient = some r →
        c.engine.mStartupClient = some r) ∧
      ((s.hear i c a).step a).engine.mClosed = c.engine.mClosed := by
  obtain ⟨hp', hl'⟩ := s.hear_inv i a hp hl
  have hclient := (s.hear i c a).mStartupClient_step hp' a
  have hclosed := (s.hear i c a).mClosed_step hp' ha
  rw [s.hear_engine] at hclient hclosed
  refine ⟨hp'.step (Client.step_clientStep _ a), hl'.step hp' a, ?_, hclosed⟩
  intro r hr
  rcases hclient with hsame | ⟨-, hnone⟩
  · exact hsame.symm.trans hr
  · rw [hnone] at hr
    cases hr

private theorem set_cases {i j : Nat} {c c' x : Client} (hc : s.engines[i]? = some c)
    (h : (s.engines.set i c')[j]? = some x) :
    (j = i ∧ x = c') ∨ (j ≠ i ∧ s.engines[j]? = some x) := by
  obtain ⟨hlt, -⟩ := List.getElem?_eq_some_iff.mp hc
  rw [List.getElem?_set] at h
  by_cases hij : i = j
  · rw [if_pos hij, if_pos hlt] at h
    exact .inl ⟨hij.symm, (Option.some.inj h).symm⟩
  · rw [if_neg hij] at h
    exact .inr ⟨Ne.symm hij, h⟩

private theorem concat_cases {j : Nat} {c x : Client} (h : (s.engines ++ [c])[j]? = some x) :
    (j = s.engines.length ∧ x = c) ∨ (j ≠ s.engines.length ∧ s.engines[j]? = some x) := by
  rcases Nat.lt_trichotomy j s.engines.length with hj | hj | hj
  · rw [List.getElem?_append_left hj] at h
    exact .inr ⟨Nat.ne_of_lt hj, h⟩
  · rw [hj, List.getElem?_concat_length] at h
    exact .inl ⟨hj, (Option.some.inj h).symm⟩
  · have hnone : (s.engines ++ [c])[j]? = none := by
      rw [List.getElem?_eq_none_iff, List.length_append, List.length_singleton]
      exact hj
    rw [hnone] at h
    cases h

/-! ### Every run -/

private theorem Wired.create (h : s.Wired) (config : Option RtcEngineConfig) :
    (s.create config).Wired := by
  unfold Process.create
  split
  · exact h
  · exact h
  · next config _ =>
    obtain ⟨hstatic, hsame, hcreated⟩ := s.get_spec
    obtain ⟨hclosed, -, hregistrars⟩ := s.get_rest
    constructor
    · intro j c hj
      rcases concat_cases hj with ⟨-, rfl⟩ | ⟨-, hj⟩
      · exact .inr (Client.initial_phases config _)
      · exact h.phases j c hj
    · intro j c hj
      rcases concat_cases hj with ⟨-, rfl⟩ | ⟨-, hj⟩
      · exact Client.initial_ledger config _
      · exact h.ledger j c hj
    · intro j c r hj hr
      rcases concat_cases hj with ⟨-, rfl⟩ | ⟨-, hj⟩
      · exact hstatic.trans hr
      · rw [← hsame r (h.client j c r hj hr)]
        exact hstatic
    · intro j hj
      cases hj
      exact ⟨_, List.getElem?_concat_length, rfl⟩
    · intro j hj
      rw [List.length_append]
      exact Nat.lt_add_right _ (h.registrars j (hregistrars ▸ hj))
    · intro r hr
      rw [← Option.some.inj (hstatic.symm.trans hr)]
      exact h.get_lt
    · intro r hr
      exact Nat.lt_of_lt_of_le (h.closed r (hclosed ▸ hr)) hcreated

private theorem Wired.destroy (h : s.Wired) : s.destroy.Wired := by
  unfold Process.destroy
  split
  · exact h
  · next i _ =>
    have hcases : ∀ (j : Nat) (x : Client), (s.engines.modify i Client.destroy)[j]? = some x →
        ∃ c, s.engines[j]? = some c ∧ (x = c ∨ x = c.step .destroy) := by
      intro j x hx
      rw [List.getElem?_modify] at hx
      split at hx
      · obtain ⟨c, hc, hx⟩ := Option.map_eq_some_iff.mp hx
        exact ⟨c, hc, .inr hx.symm⟩
      · exact ⟨x, by simpa using hx, .inl rfl⟩
    constructor
    · intro j x hj
      obtain ⟨c, hc, rfl | rfl⟩ := hcases j x hj
      · exact h.phases j x hc
      · exact (h.phases j c hc).step (c.step_clientStep _)
    · intro j x hj
      obtain ⟨c, hc, rfl | rfl⟩ := hcases j x hj
      · exact h.ledger j x hc
      · exact (h.ledger j c hc).step (h.phases j c hc) _
    · intro j x r hj hr
      obtain ⟨c, hc, rfl | rfl⟩ := hcases j x hj
      · exact h.client j x r hc hr
      · apply h.client j c r hc
        rcases c.mStartupClient_step (h.phases j c hc) .destroy with hsame | ⟨-, hnone⟩
        · exact hsame.symm.trans hr
        · rw [hnone] at hr
          cases hr
    · intro j hj
      cases hj
    · intro j hj
      rw [List.length_modify]
      exact h.registrars j hj
    · exact h.created
    · exact h.closed

private theorem Wired.act (h : s.Wired) (i : Nat) (a : Action) : (s.act i a).Wired := by
  rcases s.act_cases i a with ⟨hsame, -⟩ | ⟨c, hc, ha, hact⟩
  · rw [hsame]
    exact h
  · rw [hact]
    have hp := h.phases i c hc
    have hl := h.ledger i c hc
    obtain ⟨hp', hl', hclient, hclosed⟩ := s.hear_step i hp hl ha
    -- the statics: the instance and the factory stay, registrars and closed clients may grow
    have hstatic : (s.shared i c a).mInstance = s.mInstance ∧
        (s.shared i c a).startupClient = s.startupClient ∧
        (s.shared i c a).createdClients = s.createdClients ∧
        (∀ j ∈ (s.shared i c a).registrars, j = i ∨ j ∈ s.registrars) ∧
        ∀ r ∈ (s.shared i c a).closedClients, s.startupClient = some r ∨ r ∈ s.closedClients := by
      rcases s.shared_cases i a hp hl with ⟨-, -, heq⟩ | ⟨-, -, r, hr, heq⟩ | ⟨-, -, heq⟩
      · rw [heq, registerReceiver_eq]
        exact ⟨rfl, rfl, rfl, fun j hj ↦ Finset.mem_insert.mp hj, fun r hr ↦ .inr hr⟩
      · rw [heq]
        refine ⟨rfl, rfl, rfl, fun j hj ↦ .inr hj, ?_⟩
        intro r' hr'
        rcases Finset.mem_insert.mp hr' with rfl | hr'
        · exact .inl (h.client i c r' hc hr)
        · exact .inr hr'
      · rw [heq]
        exact ⟨rfl, rfl, rfl, fun j hj ↦ .inr hj, fun r hr ↦ .inr hr⟩
    obtain ⟨hinstance, hfactory, hcreated, hregistrars, hclosedClients⟩ := hstatic
    constructor
    · intro j x hj
      rcases set_cases hc hj with ⟨-, rfl⟩ | ⟨-, hj⟩
      · exact hp'
      · exact h.phases j x hj
    · intro j x hj
      rcases set_cases hc hj with ⟨-, rfl⟩ | ⟨-, hj⟩
      · exact hl'
      · exact h.ledger j x hj
    · intro j x r hj hr
      rw [hfactory]
      rcases set_cases hc hj with ⟨-, rfl⟩ | ⟨-, hj⟩
      · exact h.client i c r hc (hclient r hr)
      · exact h.client j x r hj hr
    · intro j hj
      rw [hinstance] at hj
      obtain ⟨x, hx, hopen⟩ := h.current j hj
      by_cases hij : i = j
      · rw [hij, hx] at hc
        cases hc
        refine ⟨_, ?_, hclosed.trans hopen⟩
        rw [← hij]
        exact List.getElem?_set_self (List.getElem?_eq_some_iff.mp (hij ▸ hx)).1
      · exact ⟨x, (List.getElem?_set_ne hij).trans hx, hopen⟩
    · intro j hj
      rw [List.length_set]
      rcases hregistrars j hj with rfl | hj
      · exact (List.getElem?_eq_some_iff.mp hc).1
      · exact h.registrars j hj
    · rw [hfactory, hcreated]
      exact h.created
    · intro r hr
      rw [hcreated]
      rcases hclosedClients r hr with hr | hr
      · exact h.created r hr
      · exact h.closed r hr

/-- Every step keeps the engines wired to the statics. -/
theorem Wired.step (h : s.Wired) (a : ProcessAction) : (s.step a).Wired := by
  cases a with
  | create config => exact h.create config
  | destroy => exact h.destroy
  | act i a => exact h.act i a

/-! ### What disturbs the instance -/

-- An engine that was not destroyed holds the network client.
private theorem Wired.holds_client (h : s.Wired) {i : Nat} {c : Client}
    (hc : s.engines[i]? = some c) (hopen : c.engine.mClosed = false) :
    ∃ r, c.engine.mStartupClient = some r := by
  have hquit : c.worker ≠ .quit := by
    intro hquit
    have hclosed := (h.ledger i c hc).closing (.inr hquit)
    rw [hopen] at hclosed
    cases hclosed
  exact Option.isSome_iff_exists.mp ((h.phases i c hc).phases hquit).link.client

private theorem undisturbed_create (h : s.Wired) (hs : s.Undisturbed)
    (config : Option RtcEngineConfig) :
    (s.create config).Undisturbed ↔ s.KeepsApart (.create config) := by
  cases config with
  | none => exact ⟨fun _ ↦ trivial, fun _ ↦ hs⟩
  | some config =>
    cases hi : s.mInstance with
    | some i =>
      have hsame : s.create (some config) = s := by simp only [create, hi]
      rw [hsame]
      exact ⟨fun _ hnone ↦ absurd (hi.symm.trans hnone) (by simp), fun _ ↦ hs⟩
    | none =>
      obtain ⟨hclosed, -, hregistrars⟩ := s.get_rest
      have hnew : s.create (some config) =
          { s.get.1 with
            engines := s.engines ++ [Client.initial config s.get.2]
            mInstance := some s.engines.length } := by
        simp only [create, hi]
      have hkeeps : s.KeepsApart (.create (some config)) ↔ s.get.2 ∉ s.closedClients :=
        ⟨fun hk ↦ h.get_open_iff.mpr (hk hi), fun hk _ ↦ h.get_open_iff.mp hk⟩
      rw [hnew, hkeeps]
      constructor
      · intro hu
        rw [← hclosed]
        exact hu.client _ _ _ rfl List.getElem?_concat_length rfl
      · intro hfree
        constructor
        · intro j c r hj hc hr
          cases hj
          rw [List.getElem?_concat_length] at hc
          cases hc
          cases hr
          change _ ∉ s.get.1.closedClients
          rw [hclosed]
          exact hfree
        · intro j hj hmem
          cases hj
          change _ ∈ s.get.1.registrars at hmem
          rw [hregistrars] at hmem
          exact absurd (h.registrars _ hmem) (Nat.lt_irrefl _)

private theorem undisturbed_destroy (hs : s.Undisturbed) : s.destroy.Undisturbed := by
  unfold Process.destroy
  split
  · exact hs
  · exact ⟨fun _ _ _ hi ↦ (Option.some_ne_none _ hi.symm).elim,
      fun _ hi ↦ (Option.some_ne_none _ hi.symm).elim⟩

private theorem undisturbed_act (h : s.Wired) (hs : s.Undisturbed) (i : Nat) (a : Action) :
    (s.act i a).Undisturbed ↔ s.KeepsApart (.act i a) := by
  rcases s.act_cases i a with ⟨hsame, hquiet⟩ | ⟨c, hc, ha, hact⟩
  · rw [hsame]
    refine ⟨fun _ c hc ↦ ?_, fun _ ↦ hs⟩
    obtain ⟨hr, hd⟩ := hquiet c hc
    simp [hr, hd]
  · have hp := h.phases i c hc
    have hl := h.ledger i c hc
    obtain ⟨-, -, hclient, -⟩ := s.hear_step i hp hl ha
    have hkeeps : s.KeepsApart (.act i a) ↔
        (c.registersReceiver a = true → ∀ j, s.mInstance = some j → j ≠ i → j ∉ s.registrars) ∧
          (c.runsDestroy a = true → s.mInstance = none) := by
      constructor
      · intro hk
        exact hk c hc
      · intro hk c' hc'
        rw [hc] at hc'
        cases hc'
        exact hk
    -- the step gives no engine a client that it did not hold
    have hheld : ∀ (j : Nat) (x : Client) (r : Ref), s.mInstance = some j →
        (s.engines.set i ((s.hear i c a).step a))[j]? = some x →
        x.engine.mStartupClient = some r → r ∉ s.closedClients := by
      intro j x r hj hx hr
      rcases set_cases hc hx with ⟨rfl, rfl⟩ | ⟨-, hx⟩
      · exact hs.client j c r hj hc (hclient r hr)
      · exact hs.client j x r hj hx hr
    rw [hact, hkeeps]
    rcases s.shared_cases i a hp hl with ⟨hr, hd, heq⟩ | ⟨hr, hd, r, hcr, heq⟩ | ⟨hr, hd, heq⟩
    · rw [heq, registerReceiver_eq]
      simp only [hr, hd, forall_const, Bool.false_eq_true, false_imp_iff, and_true]
      constructor
      · intro hu j hj hne hmem
        have hcode := hu.processors j hj (Finset.mem_insert_of_mem hmem) .roomJoined (by decide)
        exact hne (Option.some.inj hcode).symm
      · intro hk
        refine ⟨hheld, ?_⟩
        intro j hj hmem code _
        by_cases hji : j = i
        · exact congrArg some hji.symm
        · exact absurd (Finset.mem_of_mem_insert_of_ne hmem hji) (hk j hj hji)
    · rw [heq]
      simp only [hr, hd, forall_const, Bool.false_eq_true, false_imp_iff, true_and]
      constructor
      · intro hu
        cases hj : s.mInstance with
        | none => rfl
        | some j =>
          -- the instance is open, so it is not the engine that runs its destroy task
          obtain ⟨x, hx, hopen⟩ := h.current j hj
          have hne : i ≠ j := by
            intro hij
            rw [hij, hx] at hc
            cases hc
            rw [(runsDestroy_spec hp hl hd).1] at hopen
            cases hopen
          obtain ⟨r', hr'⟩ := h.holds_client hx hopen
          have hrr : r' = r :=
            Option.some.inj ((h.client j x r' hx hr').symm.trans (h.client i c r hc hcr))
          have hfree := hu.client j x r hj ((List.getElem?_set_ne hne).trans hx) (hrr ▸ hr')
          exact absurd (Finset.mem_insert_self r s.closedClients) hfree
      · intro hnone
        have hvoid : ∀ j, s.mInstance ≠ some j := fun j hj ↦ by simp [hnone] at hj
        exact ⟨fun j _ _ hj ↦ absurd hj (hvoid j), fun j hj ↦ absurd hj (hvoid j)⟩
    · rw [heq]
      simp only [hr, hd, Bool.false_eq_true, false_imp_iff, and_true, iff_true]
      exact ⟨hheld, hs.processors⟩

/-- One step leaves the instance undisturbed exactly when it keeps the engines apart. -/
theorem undisturbed_step_iff (h : s.Wired) (hs : s.Undisturbed) (a : ProcessAction) :
    (s.step a).Undisturbed ↔ s.KeepsApart a := by
  cases a with
  | create config => exact undisturbed_create h hs config
  | destroy => exact ⟨fun _ ↦ trivial, fun _ ↦ undisturbed_destroy hs⟩
  | act i a => exact undisturbed_act h hs i a

/-- Before the first engine there is nothing to disturb. -/
theorem initial_wired : Wired {} where
  phases i c hc := by simp at hc
  ledger i c hc := by simp at hc
  client i c r hc := by simp at hc
  current i hi := by simp at hi
  registrars i hi := by simp at hi
  created r hr := by simp at hr
  closed r hr := by simp at hr

private theorem initial_undisturbed : Undisturbed {} where
  client i c r hi := by simp at hi
  processors i hi := by simp at hi

/-- The current instance keeps its network client open and its processors registered
throughout a run exactly when every step keeps the engines apart. -/
theorem undisturbed_always_iff (as : List ProcessAction) :
    Always step Undisturbed {} as ↔ Guarded step KeepsApart {} as :=
  always_iff_guarded Wired initial_wired initial_undisturbed (fun _ a _ h ↦ h.step a)
    fun _ a _ h hs ↦ undisturbed_step_iff h hs a

private theorem length_step (s : Process) {a : ProcessAction} (ha : ∀ config, a ≠ .create config) :
    (s.step a).engines.length = s.engines.length := by
  cases a with
  | create config => exact absurd rfl (ha config)
  | destroy =>
    change s.destroy.engines.length = _
    unfold Process.destroy
    split
    · rfl
    · exact List.length_modify ..
  | act i a =>
    change (s.act i a).engines.length = _
    rcases s.act_cases i a with ⟨hsame, -⟩ | ⟨c, -, -, hact⟩
    · rw [hsame]
    · rw [hact]
      exact List.length_set

-- The only engine of a process cannot get in its own way: its destroy task runs after
-- `RtcEngine.destroy` has cleared `mInstance`.
private theorem keepsApart_of_one (h : s.Wired) (hone : s.engines.length ≤ 1) {a : ProcessAction}
    (ha : ∀ config, a ≠ .create config) : s.KeepsApart a := by
  cases a with
  | create config => exact absurd rfl (ha config)
  | destroy => trivial
  | act i a =>
    intro c hc
    have hsame : ∀ j, s.mInstance = some j → j = i := by
      intro j hj
      obtain ⟨x, hx, -⟩ := h.current j hj
      have hi := (List.getElem?_eq_some_iff.mp hc).1
      have hj := (List.getElem?_eq_some_iff.mp hx).1
      omega
    refine ⟨fun _ j hj hne ↦ absurd (hsame j hj) hne, ?_⟩
    intro hd
    cases hj : s.mInstance with
    | none => rfl
    | some j =>
      obtain ⟨x, hx, hopen⟩ := h.current j hj
      rw [hsame j hj, hc] at hx
      cases hx
      rw [(runsDestroy_spec (h.phases i c hc) (h.ledger i c hc) hd).1] at hopen
      cases hopen

/-- A process that creates one engine never disturbs it. -/
theorem undisturbed_one_engine (config : Option RtcEngineConfig) {as : List ProcessAction}
    (has : ∀ a ∈ as, ∀ config, a ≠ .create config) :
    Always step Undisturbed (({} : Process).create config) as := by
  have hwired := initial_wired.create config
  have hfirst : (({} : Process).create config).Undisturbed := by
    apply (undisturbed_create initial_wired initial_undisturbed config).mpr
    cases config with
    | none => trivial
    | some config => exact fun _ r hr ↦ absurd hr (by simp)
  have hone : (({} : Process).create config).engines.length ≤ 1 := by
    cases config <;> simp [create]
  intro pre hpre
  refine (run_invariant_of_mem (fun s : Process ↦ s.Wired ∧ s.Undisturbed ∧ s.engines.length ≤ 1)
    ⟨hwired, hfirst, hone⟩ ?_).2.1
  rintro s a ha ⟨hw, hu, hl⟩
  have ha := has a (hpre.subset ha)
  exact ⟨hw.step a, (undisturbed_step_iff hw hu a).mpr (keepsApart_of_one hw hl ha),
    (s.length_step ha).le.trans hl⟩

end Process

/-- An engine is created after the destroy task of the first one has run. -/
def createAgain : List ProcessAction :=
  [.create (some {}), .destroy, .act 0 (.work (workGood "t")), .create (some {})]

/-- The destroy task of the first engine runs after the second one has opened its channel. -/
def destroyLate : List ProcessAction :=
  [.create (some {}), .destroy, .create (some {})] ++ openChannel.map (.act 1) ++
    [.act 0 (.work (workGood "t"))]

/-- The second engine gets the closed client in one run and loses its processors in the
other. -/
theorem undisturbed_fails_second_engine :
    ((run Process.step {} createAgain).mInstance = some 1 ∧
      (run Process.step {} createAgain).startupClient = some 0 ∧
      0 ∈ (run Process.step {} createAgain).closedClients ∧
      ¬ Always Process.step Process.Undisturbed {} createAgain) ∧
    (run Process.step {} destroyLate).mInstance = some 1 ∧
      1 ∈ (run Process.step {} destroyLate).registrars ∧
      (∀ code ∈ MsgCode.all, (run Process.step {} destroyLate).processorTable code = none) ∧
      ¬ Always Process.step Process.Undisturbed {} destroyLate := by
  have hagain : ∃ c, (run Process.step {} createAgain).engines[1]? = some c ∧
      c.engine.mStartupClient = some 0 := ⟨_, rfl, by decide⟩
  have hclosed : 0 ∈ (run Process.step {} createAgain).closedClients := by decide
  have hregistered : 1 ∈ (run Process.step {} destroyLate).registrars := by decide
  have hcleared : ∀ code ∈ MsgCode.all,
      (run Process.step {} destroyLate).processorTable code = none := by decide
  refine ⟨⟨rfl, rfl, hclosed, ?_⟩, rfl, hregistered, hcleared, ?_⟩
  · intro halways
    obtain ⟨c, hc, hclient⟩ := hagain
    exact halways.last.client 1 c 0 rfl hc hclient hclosed
  · intro halways
    have hlost := halways.last.processors 1 rfl hregistered .roomJoined (by decide)
    rw [hcleared .roomJoined (by decide)] at hlost
    cases hlost

end RtcClient.System
