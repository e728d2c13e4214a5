import SignedSetup.Proofs.Setup.Application
import SignedSetup.Setup.History

/-!
# The last request that says something

A history of requests leaves each field of a node's configuration at what the last applied request
said of it (`run_eq_lastWritten`). A request says the same to every configuration, so it is known
beforehand which requests of a history are applied; the rest of the argument is one step for each
field and an induction over the history.
-/

namespace SignedSetup

namespace Setup

/-! ## What a request says -/

namespace Request

/-- What a node hears in the request, whatever the node's configuration. -/
def heard (r : Request) : Except ApplicationFault Reading :=
  Setup.heard r.payload r.signature r.admin

theorem result_attempt (r : Request) (current : NodeConfig) :
    (r.attempt current).result = r.heard.map (·.applyTo current) :=
  result_apply r.payload r.signature r.admin current

/-- The request is applied over a configuration. -/
def isApplied (r : Request) (current : NodeConfig) : Bool := (r.attempt current).result.isOk

theorem isApplied_eq (r : Request) (current : NodeConfig) :
    r.isApplied current = r.heard.isOk := by
  rw [isApplied, result_attempt]
  cases r.heard <;> rfl

/-- The recovered signer is the administrator that the request is held against. -/
def IsAuthorized (r : Request) : Prop :=
  ∃ request, verify r.payload r.signature = .ok request ∧
    Address.ofText? r.admin = some request.signer

/-- The text of a field of the message, if the field is a string. -/
def text? (r : Request) (f : ConfigField) : Option Text :=
  match verify r.payload r.signature with
  | .error _ => none
  | .ok request => textField? request.envelope.message f.wireName

/-- The unsigned 64-bit integer of a field of the message, if the field spells one. -/
def number? (r : Request) (f : ConfigField) : Option Nat :=
  (r.text? f).bind fun t => (unsigned? t).toOption.join

theorem number?_le {r : Request} {f : ConfigField} {n : Nat} (h : r.number? f = some n) :
    n ≤ maxUnsigned := by
  obtain ⟨t, -, hn⟩ := Option.bind_eq_some_iff.1 h
  cases hread : unsigned? t with
  | error e =>
    rw [hread] at hn
    cases hn
  | ok m =>
    rw [hread] at hn
    obtain rfl : m = some n := hn
    exact unsigned?_le hread

/-- The network of the message: zero where it is no string. -/
def network (r : Request) : Nat := (r.number? .network).getD 0

/-- The unsigned 64-bit integer that a text spells, if it spells one. -/
theorem number?_eq {message : List (Text × Json)} {f : ConfigField} {n : Option Nat}
    (h : Setup.number? message f = .ok n) :
    (textField? message f.wireName).bind (fun t => (unsigned? t).toOption.join) = n := by
  unfold Setup.number? at h
  split at h
  · next htext =>
    rw [htext]
    exact Except.ok.inj h
  · next t htext =>
    rw [htext, Option.bind_some, h]
    rfl

theorem network_eq {message : List (Text × Json)} {n : Nat} (h : networkField message = .ok n) :
    ((textField? message ConfigField.network.wireName).bind
      fun t => (unsigned? t).toOption.join).getD 0 = n := by
  rw [networkField_eq] at h
  split at h
  · next htext =>
    rw [htext]
    exact Except.ok.inj h
  · next t htext =>
    rw [htext, Option.bind_some]
    split at h
    · cases h
    · cases h
    · next m hm =>
      rw [hm]
      exact Except.ok.inj h

/-- An applied request is the administrator's, and what it says is in the fields of its message. -/
theorem heard_eq_ok {r : Request} {reading : Reading} (h : r.heard = .ok reading) :
    r.IsAuthorized ∧
      reading = ⟨r.number? .minRollupSize, r.number? .rollupInterval, r.network,
        r.text? .evmNodeRpc, r.text? .arNodeUrl⟩ := by
  unfold heard Setup.heard at h
  cases hverify : verify r.payload r.signature with
  | error e =>
    rw [hverify] at h
    cases h
  | ok request =>
    rw [hverify] at h
    obtain ⟨hadmin, hreading⟩ := authorized_eq_ok h
    obtain ⟨hnetwork, hminRollupSize, hrollupInterval, hevmNodeUrl, harNodeUrl⟩ :=
      reading_eq_ok hreading
    have htext (f : ConfigField) : r.text? f = textField? request.envelope.message f.wireName := by
      rw [text?, hverify]
    refine ⟨⟨request, hverify, hadmin⟩, ?_⟩
    simp only [network, number?, htext, number?_eq hminRollupSize, number?_eq hrollupInterval,
      network_eq hnetwork, hevmNodeUrl, harNodeUrl]

end Request

/-! ## One step -/

theorem step_eq (current : NodeConfig) (r : Request) :
    step current r = match r.heard with
      | .ok reading => reading.applyTo current
      | .error _ => current := by
  rw [step, r.result_attempt]
  cases r.heard <;> rfl

/-- A request that is not applied leaves the configuration as it was. -/
theorem step_of_not_isApplied {r : Request} {current : NodeConfig}
    (h : r.isApplied current = false) : step current r = current := by
  rw [Request.isApplied_eq] at h
  rw [step_eq]
  cases hr : r.heard with
  | error e => rfl
  | ok reading =>
    rw [hr] at h
    cases h

/-- A request that is applied puts what its message says in the place of what was there. -/
theorem step_of_isApplied {r : Request} {current : NodeConfig} (h : r.isApplied current = true) :
    step current r = ⟨(r.number? .minRollupSize).getD current.minRollupSize,
      (r.number? .rollupInterval).getD current.rollupInterval, r.network,
      (r.text? .evmNodeRpc).getD current.evmNodeUrl,
      (r.text? .arNodeUrl).getD current.arNodeUrl⟩ := by
  rw [Request.isApplied_eq] at h
  rw [step_eq]
  cases hr : r.heard with
  | error e =>
    rw [hr] at h
    cases h
  | ok reading =>
    obtain ⟨-, rfl⟩ := Request.heard_eq_ok hr
    rfl

/-! ## A whole history -/

/-- The last of the values that the elements of a list give, or a default. -/
def lastOf {α β : Type} (value? : α → Option β) (l : List α) (default : β) : β :=
  (l.filterMap value?).getLast?.getD default

theorem lastOf_cons {α β : Type} (value? : α → Option β) (a : α) (l : List α) (default : β) :
    lastOf value? (a :: l) default = lastOf value? l ((value? a).getD default) := by
  unfold lastOf
  rw [List.filterMap_cons]
  cases value? a with
  | none => rfl
  | some b =>
    dsimp only
    rw [List.getLast?_cons, Option.getD_some, Option.getD_some]

/-- What the applied requests of a history leave of a configuration: each field as the last of them
that gives it a value says. -/
def lastWritten (applied : List Request) (initial : NodeConfig) : NodeConfig where
  minRollupSize := lastOf (·.number? .minRollupSize) applied initial.minRollupSize
  rollupInterval := lastOf (·.number? .rollupInterval) applied initial.rollupInterval
  networkId := lastOf (fun r => some r.network) applied initial.networkId
  evmNodeUrl := lastOf (·.text? .evmNodeRpc) applied initial.evmNodeUrl
  arNodeUrl := lastOf (·.text? .arNodeUrl) applied initial.arNodeUrl

theorem run_eq_lastWritten (initial other : NodeConfig) (history : List Request) :
    run initial history = lastWritten (history.filter (·.isApplied other)) initial := by
  -- The configuration moves on; which requests are applied is asked of `other`, which stays.
  induction history generalizing initial with
  | nil => rfl
  | cons r history ih =>
    show run (step initial r) history = _
    rw [ih, List.filter_cons]
    cases happlied : r.isApplied other with
    | false =>
      rw [step_of_not_isApplied (by rw [r.isApplied_eq, ← r.isApplied_eq other, happlied])]
      rfl
    | true =>
      rw [step_of_isApplied (by rw [r.isApplied_eq, ← r.isApplied_eq other, happlied])]
      simp only [lastWritten, if_true, lastOf_cons]
      rfl

/-! ## Bounds -/

end Setup

/-- The numbers of the configuration are unsigned 64-bit integers. -/
structure NodeConfig.IsBounded (c : NodeConfig) : Prop where
  minRollupSize : c.minRollupSize ≤ Setup.maxUnsigned
  rollupInterval : c.rollupInterval ≤ Setup.maxUnsigned
  networkId : c.networkId ≤ Setup.maxUnsigned

namespace Setup

theorem getD_number?_le (r : Request) (f : ConfigField) {default : Nat}
    (h : default ≤ maxUnsigned) : (r.number? f).getD default ≤ maxUnsigned := by
  cases hn : r.number? f with
  | none => exact h
  | some n => exact Request.number?_le hn

theorem isBounded_step {current : NodeConfig} (h : current.IsBounded) (r : Request) :
    (step current r).IsBounded := by
  cases happlied : r.isApplied current with
  | false =>
    rw [step_of_not_isApplied happlied]
    exact h
  | true =>
    rw [step_of_isApplied happlied]
    exact ⟨getD_number?_le r .minRollupSize h.minRollupSize,
      getD_number?_le r .rollupInterval h.rollupInterval,
      getD_number?_le r .network (Nat.zero_le _)⟩

theorem isBounded_run {initial : NodeConfig} (h : initial.IsBounded) (history : List Request) :
    (run initial history).IsBounded := by
  induction history generalizing initial with
  | nil => exact h
  | cons r history ih => exact ih (isBounded_step h r)

/-- The history of a node. Only requests of their administrator are applied, whether one is does
not depend on the configuration, and one that is not changes nothing. After a history each field is
what the last applied request that gives it a value says, the network as every applied request
does. Numbers that are unsigned 64-bit integers at the beginning are so all the time. -/
theorem run_lastWritten (initial : NodeConfig) (history : List Request) :
    (∀ (r : Request) (current : NodeConfig), r.isApplied current = true → r.IsAuthorized) ∧
    (∀ (r : Request) (current other : NodeConfig), r.isApplied current = r.isApplied other) ∧
    (∀ (r : Request) (current : NodeConfig),
      r.isApplied current = false → step current r = current) ∧
    run initial history = lastWritten (history.filter (·.isApplied initial)) initial ∧
    (initial.IsBounded → ∀ past, past <+: history → (run initial past).IsBounded) := by
  refine ⟨?_, ?_, fun r current => step_of_not_isApplied,
    run_eq_lastWritten initial initial history, fun h past _ => isBounded_run h past⟩
  · intro r current h
    rw [r.isApplied_eq] at h
    cases hr : r.heard with
    | error e =>
      rw [hr] at h
      cases h
    | ok reading => exact (Request.heard_eq_ok hr).1
  · intro r current other
    rw [r.isApplied_eq, r.isApplied_eq]

end Setup

end SignedSetup
