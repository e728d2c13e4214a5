import SignedSetup.Proofs.Setup.Sources

/-!
# What a signer does with one operation

An envelope with a fault that a worker cannot report breaks the workers; nothing else that is signed
or fails to be signed touches them. Each envelope that is signed is logged once. Where one of
several envelopes fails, those behind it are signed but logged late, so that the law is about what
was logged and what is to be logged together (`Signs`, `signs_perform`).

A signer without workers refuses to sign (`refuses_of_not_started`), and a signer with workers gives
what signing under its key gives (`signsAs`).
-/

namespace SignedSetup.Signer

/-! ## One envelope -/

/-- The envelope has a fault that a worker cannot report. -/
def breaks (envelope : Json) : Bool :=
  match TypedData.digest envelope with
  | .error e => isUnreported e
  | .ok _ => false

/-- The envelope has a digest to be signed. -/
def isSignable (envelope : Json) : Bool := (TypedData.digest envelope).isOk

/-- How the signing of an envelope can go. -/
inductive Signing (s : Signer) (envelope : Json) : Except Fault Signature → Prop where
  | unstarted : s.pool = .absent → Signing s envelope (.error .notStarted)
  | broken : s.pool = .broken → Signing s envelope (.error .brokenPool)
  | breaking : s.pool = .ready → breaks envelope = true → isSignable envelope = false →
      Signing s envelope (.error .brokenPool)
  | faulty (e : TypedData.Fault) : s.pool = .ready → breaks envelope = false →
      isSignable envelope = false → Signing s envelope (.error (.typedData e))
  | signed (signature : Signature) : s.pool = .ready → breaks envelope = false →
      isSignable envelope = true → s.key.signTypedData envelope = .ok signature →
      Signing s envelope (.ok signature)

theorem signing_sign (s : Signer) (envelope : Json) : s.Signing envelope (s.sign envelope) := by
  rw [sign]
  cases hpool : s.pool with
  | absent => exact .unstarted hpool
  | broken => exact .broken hpool
  | ready =>
    cases hdigest : TypedData.digest envelope with
    | ok digest =>
      have hsign : s.key.signTypedData envelope = .ok (Signature.sign s.key digest) := by
        rw [PrivateKey.signTypedData, hdigest]
        rfl
      rw [hsign]
      exact .signed _ hpool (by rw [breaks, hdigest]) (by rw [isSignable, hdigest]; rfl) hsign
    | error e =>
      have hsign : s.key.signTypedData envelope = .error e := by
        rw [PrivateKey.signTypedData, hdigest]
        rfl
      have hsignable : isSignable envelope = false := by
        rw [isSignable, hdigest]
        rfl
      have hbreaks : breaks envelope = isUnreported e := by rw [breaks, hdigest]
      rw [hsign]
      show Signing s envelope (.error (ofWorker e))
      rw [ofWorker]
      split
      · next he => exact .breaking hpool (hbreaks.trans he) hsignable
      · next he => exact .faulty e hpool (hbreaks.trans (Bool.eq_false_iff.2 he)) hsignable

theorem sign_eq_ok_iff {s : Signer} {envelope : Json} {signature : Signature} :
    s.sign envelope = .ok signature ↔
      s.pool = .ready ∧ s.key.signTypedData envelope = .ok signature := by
  constructor
  · intro h
    have hsigning := s.signing_sign envelope
    rw [h] at hsigning
    cases hsigning with
    | signed _ hpool _ _ hsign => exact ⟨hpool, hsign⟩
  · rintro ⟨hpool, hsign⟩
    rw [sign, hpool, hsign]
    rfl

/-! ## Several envelopes -/

/-- The envelopes among the given ones that are signed: those that have a digest, up to the first
that breaks the workers. -/
def signed (s : Signer) (envelopes : List Json) : List Json :=
  if s.pool = .ready then (envelopes.takeWhile fun e => !breaks e).filter isSignable else []

/-- The workers after they were given envelopes. -/
def poolAfter (s : Signer) (envelopes : List Json) : Pool :=
  if s.pool = .ready && envelopes.any breaks then .broken else s.pool

section Workers

variable {s : Signer} {envelope : Json} {envelopes : List Json}

@[simp]
theorem signed_nil (s : Signer) : s.signed [] = [] := ite_self _

@[simp]
theorem poolAfter_nil (s : Signer) : s.poolAfter [] = s.pool := by
  rw [poolAfter, List.any_nil, Bool.and_false]
  rfl

theorem signed_of_ne (h : s.pool ≠ .ready) : s.signed envelopes = [] := if_neg h

theorem poolAfter_of_ne (h : s.pool ≠ .ready) : s.poolAfter envelopes = s.pool := by
  rw [poolAfter, decide_eq_false h]
  rfl

theorem signed_cons_of_breaks (h : breaks envelope = true) :
    s.signed (envelope :: envelopes) = [] := by
  rw [signed, List.takeWhile_cons_of_neg (by simp [h])]
  exact ite_self _

theorem poolAfter_cons_of_breaks (hpool : s.pool = .ready) (h : breaks envelope = true) :
    s.poolAfter (envelope :: envelopes) = .broken := by
  rw [poolAfter, List.any_cons, h, decide_eq_true hpool]
  rfl

theorem signed_cons_of_signable (hpool : s.pool = .ready) (h : breaks envelope = false)
    (hsignable : isSignable envelope = true) :
    s.signed (envelope :: envelopes) = envelope :: s.signed envelopes := by
  rw [signed, signed, if_pos hpool, if_pos hpool, List.takeWhile_cons_of_pos (by simp [h]),
    List.filter_cons_of_pos hsignable]

theorem signed_cons_of_not_signable (h : breaks envelope = false)
    (hsignable : isSignable envelope = false) :
    s.signed (envelope :: envelopes) = s.signed envelopes := by
  rw [signed, signed, List.takeWhile_cons_of_pos (by simp [h]),
    List.filter_cons_of_neg (by simp [hsignable])]

theorem poolAfter_cons (h : breaks envelope = false) :
    s.poolAfter (envelope :: envelopes) = s.poolAfter envelopes := by
  rw [poolAfter, poolAfter, List.any_cons, h, Bool.false_or]

end Workers

/-- What the workers do with all of the envelopes. -/
theorem signRest_eq (s : Signer) (envelopes : List Json) :
    s.signRest envelopes = ((s.signed envelopes).map s.signedEvent, s.poolAfter envelopes) := by
  induction envelopes with
  | nil =>
    rw [signed_nil, poolAfter_nil]
    rfl
  | cons envelope envelopes ih =>
    have hsigning := s.signing_sign envelope
    rw [signRest]
    generalize s.sign envelope = result at hsigning
    cases hsigning with
    | unstarted hpool =>
      have hne : s.pool ≠ .ready := hpool ▸ nofun
      simp only [ih, signed_of_ne hne, poolAfter_of_ne hne]
    | broken hpool =>
      have hne : s.pool ≠ .ready := hpool ▸ nofun
      simp only [signed_of_ne hne, poolAfter_of_ne hne, hpool, List.map_nil]
    | breaking hpool hbreaks =>
      rw [signed_cons_of_breaks hbreaks, poolAfter_cons_of_breaks hpool hbreaks]
      rfl
    | faulty e hpool hbreaks hsignable =>
      rw [signed_cons_of_not_signable hbreaks hsignable, poolAfter_cons hbreaks]
      exact ih
    | signed signature hpool hbreaks hsignable =>
      rw [signed_cons_of_signable hpool hbreaks hsignable, poolAfter_cons hbreaks]
      simp only [ih, List.map_cons]

/-- Either all envelopes are signed, or they are up to the first that is not. -/
theorem signEach_cases (s : Signer) (envelopes : List Json) :
    (∃ signatures, List.Forall₂ (fun e g => s.sign e = .ok g) envelopes signatures ∧
        s.signEach envelopes = (signatures, none)) ∨
      ∃ before envelope after signatures fault, envelopes = before ++ envelope :: after ∧
        List.Forall₂ (fun e g => s.sign e = .ok g) before signatures ∧
        s.sign envelope = .error fault ∧ s.signEach envelopes = (signatures, some fault) := by
  induction envelopes with
  | nil => exact .inl ⟨[], .nil, rfl⟩
  | cons envelope envelopes ih =>
    rw [signEach]
    cases hsign : s.sign envelope with
    | error fault => exact .inr ⟨[], envelope, envelopes, [], fault, rfl, .nil, hsign, rfl⟩
    | ok signature =>
      rcases ih with ⟨signatures, hall, heq⟩ |
        ⟨before, failed, after, signatures, fault, rfl, hall, hfailed, heq⟩
      · exact .inl ⟨signature :: signatures, .cons hsign hall, by rw [heq]⟩
      · exact .inr ⟨envelope :: before, failed, after, signature :: signatures, fault, rfl,
          .cons hsign hall, hfailed, by rw [heq]⟩

/-- What the operations about envelopes do to a signer and its log. -/
structure Signs (s : Signer) (envelopes : List Json) (outcome : Outcome) : Prop where
  key : outcome.signer.key = s.key
  maxWorkers : outcome.signer.maxWorkers = s.maxWorkers
  pool : outcome.signer.pool = s.poolAfter envelopes
  /-- Nothing is logged beside the envelopes that are signed, and these are logged once. -/
  events : outcome.events ++ outcome.signer.late =
    s.late ++ (s.signed envelopes).map s.signedEvent

section Batch

variable {s : Signer} {envelope : Json} {before envelopes : List Json}
  {signatures : List Signature}

/-- Envelopes that are all signed come before those that are signed of the others. -/
theorem signed_append (h : List.Forall₂ (fun e g => s.sign e = .ok g) before signatures)
    (envelopes : List Json) : s.signed (before ++ envelopes) = before ++ s.signed envelopes := by
  induction h with
  | nil => rfl
  | @cons envelope signature before signatures hsign _ ih =>
    have hsigning := s.signing_sign envelope
    rw [hsign] at hsigning
    cases hsigning with
    | signed _ hpool hbreaks hsignable =>
      rw [List.cons_append, signed_cons_of_signable hpool hbreaks hsignable, ih, List.cons_append]

/-- Envelopes that are all signed leave the workers as they are. -/
theorem poolAfter_append (h : List.Forall₂ (fun e g => s.sign e = .ok g) before signatures)
    (envelopes : List Json) : s.poolAfter (before ++ envelopes) = s.poolAfter envelopes := by
  induction h with
  | nil => rfl
  | @cons envelope signature before signatures hsign _ ih =>
    have hsigning := s.signing_sign envelope
    rw [hsign] at hsigning
    cases hsigning with
    | signed _ _ hbreaks => rw [List.cons_append, poolAfter_cons hbreaks, ih]

theorem poolAfter_of_signed (h : List.Forall₂ (fun e g => s.sign e = .ok g) before signatures) :
    s.poolAfter before = s.pool := by
  have hpool := poolAfter_append h []
  rwa [List.append_nil, poolAfter_nil] at hpool

theorem signed_of_signed (h : List.Forall₂ (fun e g => s.sign e = .ok g) before signatures) :
    s.signed before = before := by
  have hsigned := signed_append h []
  rwa [List.append_nil, signed_nil, List.append_nil] at hsigned

theorem signed_afterFault_brokenPool (s : Signer) (envelopes : List Json) :
    (s.afterFault .brokenPool).signed envelopes = [] := by
  refine signed_of_ne ?_
  show Pool.broken ≠ .ready
  decide

theorem poolAfter_afterFault_brokenPool (s : Signer) (envelopes : List Json) :
    (s.afterFault .brokenPool).poolAfter envelopes = .broken := by
  refine poolAfter_of_ne ?_
  show Pool.broken ≠ .ready
  decide

/-- The envelopes behind one that is not signed are left to the workers that it leaves. -/
theorem afterFault_cons {fault : Fault} (h : s.sign envelope = .error fault)
    (envelopes : List Json) :
    s.signed (envelope :: envelopes) = (s.afterFault fault).signed envelopes ∧
      s.poolAfter (envelope :: envelopes) = (s.afterFault fault).poolAfter envelopes := by
  have hsigning := s.signing_sign envelope
  rw [h] at hsigning
  cases hsigning with
  | unstarted hpool =>
    have hne : s.pool ≠ .ready := hpool ▸ nofun
    exact ⟨(signed_of_ne hne).trans (signed_of_ne hne).symm,
      (poolAfter_of_ne hne).trans (poolAfter_of_ne hne).symm⟩
  | broken hpool =>
    have hne : s.pool ≠ .ready := hpool ▸ nofun
    rw [signed_afterFault_brokenPool, poolAfter_afterFault_brokenPool]
    exact ⟨signed_of_ne hne, (poolAfter_of_ne hne).trans hpool⟩
  | breaking hpool hbreaks =>
    rw [signed_afterFault_brokenPool, poolAfter_afterFault_brokenPool]
    exact ⟨signed_cons_of_breaks hbreaks, poolAfter_cons_of_breaks hpool hbreaks⟩
  | faulty e hpool hbreaks hsignable =>
    exact ⟨signed_cons_of_not_signable hbreaks hsignable, poolAfter_cons hbreaks⟩

/-- A batch in which every envelope is signed. -/
theorem signAll_of_signed (hall : List.Forall₂ (fun e g => s.sign e = .ok g) envelopes signatures)
    (heq : s.signEach envelopes = (signatures, none)) :
    s.signAll envelopes =
      if envelopes.isEmpty then ⟨s, [], .signatures []⟩
      else s.waited (envelopes.map s.signedEvent) (.signatures signatures) := by
  have htake : envelopes.take signatures.length = envelopes :=
    List.take_of_length_le (List.Forall₂.length_eq hall).le
  rw [signAll]
  simp only [heq, htake]

/-- A batch in which an envelope is not signed, the first such one. -/
theorem signAll_of_failed {after : List Json} {fault : Fault}
    (hall : List.Forall₂ (fun e g => s.sign e = .ok g) before signatures)
    (heq : s.signEach (before ++ envelope :: after) = (signatures, some fault)) :
    s.signAll (before ++ envelope :: after) =
      ⟨{ s with
          pool := (s.afterFault fault).poolAfter after
          late := ((s.afterFault fault).signed after).map s.signedEvent },
        s.late ++ before.map s.signedEvent, .failed fault⟩ := by
  have hlength := List.Forall₂.length_eq hall
  have htake : (before ++ envelope :: after).take signatures.length = before :=
    List.take_left' hlength
  have hdrop : (before ++ envelope :: after).drop (signatures.length + 1) = after := by
    rw [← hlength, List.drop_length_add_append]
    rfl
  rw [signAll]
  simp only [heq, htake, hdrop, signRest_eq]
  cases fault <;> rfl

/-- A batch does what is done with its envelopes. -/
theorem signs_signAll (s : Signer) (envelopes : List Json) :
    Signs s envelopes (s.signAll envelopes) := by
  rcases s.signEach_cases envelopes with ⟨signatures, hall, heq⟩ |
    ⟨before, envelope, after, signatures, fault, rfl, hall, hfailed, heq⟩
  · rw [signAll_of_signed hall heq]
    split
    · next hempty =>
      rw [List.isEmpty_iff.1 hempty]
      exact ⟨rfl, rfl, (poolAfter_nil s).symm, by simp⟩
    · refine ⟨rfl, rfl, (poolAfter_of_signed hall).symm, ?_⟩
      rw [signed_of_signed hall]
      exact List.append_nil _
  · obtain ⟨hsigned, hpool⟩ := afterFault_cons hfailed after
    rw [signAll_of_failed hall heq]
    refine ⟨rfl, rfl, ?_, ?_⟩
    · rw [poolAfter_append hall, hpool]
    · rw [signed_append hall, hsigned, List.map_append, List.append_assoc]

/-- The outcome of an operation about one envelope, which answers what becomes of it. -/
def ofSigning (s : Signer) (envelope : Json) (answer : Except Fault Signature → Answer) : Outcome :=
  match s.sign envelope with
  | .ok signature => s.waited [s.signedEvent envelope] (answer (.ok signature))
  | .error .notStarted => ⟨s, [], answer (.error .notStarted)⟩
  | .error e => (s.afterFault e).waited [] (answer (.error e))

variable {answer : Except Fault Signature → Answer}

theorem ofSigning_of_ok {signature : Signature} (h : s.sign envelope = .ok signature) :
    s.ofSigning envelope answer = s.waited [s.signedEvent envelope] (answer (.ok signature)) := by
  rw [ofSigning, h]

theorem answer_ofSigning : (s.ofSigning envelope answer).answer = answer (s.sign envelope) := by
  rw [ofSigning]
  cases s.sign envelope with
  | ok signature => rfl
  | error fault => cases fault <;> rfl

theorem signs_ofSigning : Signs s [envelope] (s.ofSigning envelope answer) := by
  cases hsign : s.sign envelope with
  | ok signature =>
    have hall : List.Forall₂ (fun e g => s.sign e = .ok g) [envelope] [signature] :=
      .cons hsign .nil
    rw [ofSigning_of_ok hsign]
    refine ⟨rfl, rfl, (poolAfter_of_signed hall).symm, ?_⟩
    rw [signed_of_signed hall]
    exact List.append_nil _
  | error fault =>
    obtain ⟨hsigned, hpool⟩ := afterFault_cons hsign []
    rw [signed_nil] at hsigned
    rw [poolAfter_nil] at hpool
    have hevents : s.late ++ (s.signed [envelope]).map s.signedEvent = s.late := by
      rw [hsigned]
      exact List.append_nil _
    rw [ofSigning, hsign]
    cases fault with
    | notStarted => exact ⟨rfl, rfl, hpool.symm, hevents.symm⟩
    | _ => exact ⟨rfl, rfl, hpool.symm, by rw [hevents]; simp [waited, afterFault]⟩

theorem late_ofSigning : (s.ofSigning envelope answer).signer.late = [] ∨
    (s.ofSigning envelope answer).signer.late = s.late := by
  rw [ofSigning]
  cases s.sign envelope with
  | ok signature => exact .inl rfl
  | error fault => cases fault <;> first | exact .inr rfl | exact .inl rfl

end Batch

/-! ## Operations -/

/-- The operation is about envelopes, and not about the workers. -/
def Operation.IsSigning : Operation → Prop
  | .start | .shutdown => False
  | .sign _ | .signAll _ | .generate _ => True

theorem Operation.eq_or_isSigning (operation : Operation) :
    operation = .start ∨ operation = .shutdown ∨ operation.IsSigning := by
  cases operation with
  | start => exact .inl rfl
  | shutdown => exact .inr (.inl rfl)
  | sign | signAll | generate => exact .inr (.inr trivial)

/-- The envelopes that an operation wants signed. -/
def Operation.envelopes : Operation → List Json
  | .start | .shutdown => []
  | .sign envelope => [envelope]
  | .signAll envelopes => envelopes
  | .generate source =>
    match source.message with
    | .error _ => []
    | .ok message => [(Setup.envelope message).json]

/-- What is answered where an envelope is to be signed. -/
def signedAnswer : Except Fault Signature → Answer
  | .ok signature => .signature signature
  | .error e => .failed e

/-- What is answered where a payload is to be signed. -/
def generatedAnswer (payload : Bytes) : Except Fault Signature → Answer
  | .ok signature => .generated (.ok ⟨signature, payload⟩)
  | .error e => .generated (.error (.signer e))

theorem perform_sign (s : Signer) (envelope : Json) :
    s.perform (.sign envelope) = s.ofSigning envelope signedAnswer := by
  rw [perform, ofSigning]
  cases s.sign envelope with
  | ok signature => rfl
  | error fault => cases fault <;> rfl

theorem perform_generate (s : Signer) {source : Setup.Source} {message : List (Text × Json)}
    (h : source.message = .ok message) :
    s.perform (.generate source) = s.ofSigning (Setup.envelope message).json
      (generatedAnswer (Payload.encode (Setup.envelope message).json)) := by
  rw [perform, ofSigning]
  simp only [Setup.generate, h]
  cases s.sign (Setup.envelope message).json with
  | ok signature => rfl
  | error fault => cases fault <;> rfl

theorem perform_generate_of_error (s : Signer) {source : Setup.Source} {e : Setup.MappingFault}
    (h : source.message = .error e) :
    s.perform (.generate source) = ⟨s, [], .generated (.error (.source e))⟩ := by
  rw [perform]
  simp only [Setup.generate, h]

/-- Whatever is asked about envelopes, the signer does with them what workers do. -/
theorem signs_perform (s : Signer) {operation : Operation} (h : operation.IsSigning) :
    Signs s operation.envelopes (s.perform operation) := by
  cases operation with
  | start | shutdown => exact h.elim
  | sign envelope =>
    rw [perform_sign]
    exact signs_ofSigning
  | signAll envelopes => exact s.signs_signAll envelopes
  | generate source =>
    cases hmessage : source.message with
    | error e =>
      rw [perform_generate_of_error s hmessage, Operation.envelopes, hmessage]
      exact ⟨rfl, rfl, (poolAfter_nil s).symm, by simp⟩
    | ok message =>
      rw [perform_generate s hmessage, Operation.envelopes, hmessage]
      exact signs_ofSigning

/-- A start finds the signer started, or fails, or starts it. -/
theorem start_cases (s : Signer) :
    (s.started = true ∧ s.perform .start = ⟨s, [], .started true⟩) ∨
      (s.started = false ∧ ∃ e, s.perform .start = ⟨s, [], .failed e⟩) ∨
      s.started = false ∧ s.perform .start =
        ⟨{ s with pool := .ready }, [.started s.key.address s.maxWorkers], .started false⟩ := by
  rw [perform, start]
  cases hstarted : s.started with
  | true => exact .inl ⟨rfl, rfl⟩
  | false =>
    cases workersFault? s.maxWorkers with
    | some e => exact .inr (.inl ⟨rfl, e, rfl⟩)
    | none => exact .inr (.inr ⟨rfl, rfl⟩)

/-- A shutdown finds the signer stopped, or stops it. -/
theorem shutdown_cases (s : Signer) :
    (s.started = false ∧ s.perform .shutdown = ⟨s, [], .stopped⟩) ∨
      s.started = true ∧ s.perform .shutdown =
        ⟨{ s with pool := .absent }, [.stopped s.key.address], .stopped⟩ := by
  rw [perform, shutdown]
  cases hstarted : s.started with
  | true => exact .inr ⟨rfl, rfl⟩
  | false => exact .inl ⟨rfl, rfl⟩

/-- Only a batch that fails leaves something to be logged late. -/
theorem late_perform {s : Signer} {operation : Operation}
    (h : (s.perform operation).signer.late ≠ []) :
    s.late ≠ [] ∨ ∃ envelopes fault, operation = .signAll envelopes ∧
      (s.perform (.signAll envelopes)).answer = .failed fault := by
  cases operation with
  | start =>
    rcases s.start_cases with ⟨-, heq⟩ | ⟨-, e, heq⟩ | ⟨-, heq⟩ <;> rw [heq] at h <;> exact .inl h
  | shutdown =>
    rcases s.shutdown_cases with ⟨-, heq⟩ | ⟨-, heq⟩ <;> rw [heq] at h <;> exact .inl h
  | sign envelope =>
    rw [perform_sign] at h
    exact .inl (late_ofSigning.resolve_left h ▸ h)
  | signAll envelopes =>
    rcases s.signEach_cases envelopes with ⟨signatures, hall, heq⟩ |
      ⟨before, envelope, after, signatures, fault, rfl, hall, hfailed, heq⟩
    · rw [perform, signAll_of_signed hall heq] at h
      split at h
      · exact .inl h
      · exact absurd rfl h
    · refine .inr ⟨_, fault, rfl, ?_⟩
      rw [perform, signAll_of_failed hall heq]
  | generate source =>
    cases hmessage : source.message with
    | error e =>
      rw [perform_generate_of_error s hmessage] at h
      exact .inl h
    | ok message =>
      rw [perform_generate s hmessage] at h
      exact .inl (late_ofSigning.resolve_left h ▸ h)

/-! ## Answers -/

section Answers

variable {s : Signer}

theorem started_eq_false_iff : s.started = false ↔ s.pool = .absent := by
  rw [started, decide_eq_false_iff_not, not_not]

/-- A number of workers is zero or less. -/
def IsAtMostZero : Json → Prop
  | .bool b => b = false
  | .int n => n ≤ 0
  | .float x => x.isAtMostZero = true
  | _ => False

theorem workersFault?_of_isAtMostZero {maxWorkers : Json} (h : IsAtMostZero maxWorkers) :
    workersFault? maxWorkers = some .noWorkers := by
  cases maxWorkers with
  | bool b =>
    cases h
    rfl
  | int n => exact if_pos h
  | float x => exact congrArg some (if_pos h)
  | _ => exact h.elim

/-- How a signer starts and stops. -/
structure Switches (s : Signer) : Prop where
  start_of_started : s.started = true → s.perform .start = ⟨s, [], .started true⟩
  start_of_isAtMostZero : s.started = false → IsAtMostZero s.maxWorkers →
    s.perform .start = ⟨s, [], .failed .noWorkers⟩
  start_of_pos (n : Int) : s.started = false → s.maxWorkers = .int n → 0 < n → n ≤ mostWorkers →
    (s.perform .start).signer = { s with pool := .ready }
  shutdown : (s.perform .shutdown).signer = { s with pool := .absent }

theorem switches (s : Signer) : Switches s := by
  refine ⟨fun h => if_pos h, fun h hzero => ?_, fun n h hn hpos hle => ?_, ?_⟩
  · rw [perform, start, if_neg (by rw [h]; exact Bool.false_ne_true),
      workersFault?_of_isAtMostZero hzero]
  · have hnone : workersFault? s.maxWorkers = none := by
      rw [hn, workersFault?, if_neg (Int.not_le.2 hpos), if_neg (Int.not_lt.2 hle)]
    rw [perform, start, if_neg (by rw [h]; exact Bool.false_ne_true), hnone]
  · rcases s.shutdown_cases with ⟨h, heq⟩ | ⟨-, heq⟩
    · rw [heq, ← started_eq_false_iff.1 h]
    · rw [heq]

/-- Nothing is signed without workers, and nothing is logged for it. Only who asks for a batch waits
and has what was late logged. -/
structure Refuses (s : Signer) : Prop where
  sign (envelope : Json) : s.perform (.sign envelope) = ⟨s, [], .failed .notStarted⟩
  generate (source : Setup.Source) (message : List (Text × Json)) : source.message = .ok message →
    s.perform (.generate source) = ⟨s, [], .generated (.error (.signer .notStarted))⟩
  signAll (envelopes : List Json) : envelopes ≠ [] →
    s.perform (.signAll envelopes) = ⟨{ s with late := [] }, s.late, .failed .notStarted⟩

theorem refuses_of_not_started (h : s.started = false) : Refuses s := by
  have hpool : s.pool = .absent := started_eq_false_iff.1 h
  have hne : s.pool ≠ .ready := hpool ▸ nofun
  have hsign (envelope : Json) : s.sign envelope = .error .notStarted := by rw [Signer.sign, hpool]
  refine ⟨fun envelope => ?_, fun source message hmessage => ?_, fun envelopes henvelopes => ?_⟩
  · rw [perform_sign, ofSigning, hsign]
    rfl
  · rw [perform_generate s hmessage, ofSigning, hsign]
    rfl
  · obtain ⟨envelope, after, rfl⟩ := List.exists_cons_of_ne_nil henvelopes
    have heq : s.signEach ([] ++ envelope :: after) = ([], some .notStarted) := by
      rw [List.nil_append, signEach, hsign]
    have hall := signAll_of_failed .nil heq
    have hfault : s.afterFault .notStarted = s := rfl
    rw [hfault, signed_of_ne hne, poolAfter_of_ne hne, List.map_nil, List.append_nil] at hall
    exact hall

theorem signTypedData_eq_ok_iff {k : Text} {key : PrivateKey} (hkey : PrivateKey.ofText k = .ok key)
    {envelope : Json} {signature : Signature} :
    signTypedData envelope k = .ok signature ↔ key.signTypedData envelope = .ok signature := by
  rw [signTypedData, PrivateKey.signTypedData, hkey]
  cases TypedData.digest envelope with
  | error e => constructor <;> intro h <;> cases h
  | ok digest =>
    exact ⟨fun h => congrArg _ (Except.ok.inj h), fun h => congrArg _ (Except.ok.inj h)⟩

theorem sign_eq_ok_iff_signTypedData {k : Text} (hkey : PrivateKey.ofText k = .ok s.key)
    {envelope : Json} {signature : Signature} :
    s.sign envelope = .ok signature ↔
      s.pool = .ready ∧ signTypedData envelope k = .ok signature := by
  rw [sign_eq_ok_iff, signTypedData_eq_ok_iff hkey]

/-- A batch gives signatures iff each of its envelopes is signed, and gives them in their order. -/
theorem answer_signAll_iff {envelopes : List Json} {signatures : List Signature} :
    (s.perform (.signAll envelopes)).answer = .signatures signatures ↔
      List.Forall₂ (fun e g => s.sign e = .ok g) envelopes signatures := by
  have hunique : Relator.RightUnique fun e g => s.sign e = .ok g :=
    fun _ _ _ h₁ h₂ => Except.ok.inj (h₁.symm.trans h₂)
  show (s.signAll envelopes).answer = _ ↔ _
  rcases s.signEach_cases envelopes with ⟨made, hall, heq⟩ |
    ⟨before, envelope, after, made, fault, rfl, hall, hfailed, heq⟩
  · have hanswer : (s.signAll envelopes).answer = .signatures made := by
      rw [signAll_of_signed hall heq]
      split
      · next hempty =>
        rw [List.isEmpty_iff.1 hempty] at hall
        cases hall
        rfl
      · rfl
    rw [hanswer]
    constructor
    · intro h
      rw [← Answer.signatures.inj h]
      exact hall
    · intro h
      rw [List.right_unique_forall₂' hunique hall h]
  · rw [signAll_of_failed hall heq]
    constructor
    · exact nofun
    · intro h
      obtain ⟨g, -, hg⟩ := exists_mem_of_forall₂ h (List.mem_append_right before List.mem_cons_self)
      rw [hfailed] at hg
      cases hg

theorem forall₂_sign_iff {k : Text} (hkey : PrivateKey.ofText k = .ok s.key)
    {envelopes : List Json} {signatures : List Signature} :
    List.Forall₂ (fun e g => s.sign e = .ok g) envelopes signatures ↔
      (envelopes = [] ∨ s.pool = .ready) ∧
        List.Forall₂ (fun e g => signTypedData e k = .ok g) envelopes signatures := by
  constructor
  · intro h
    refine ⟨?_, h.imp fun e g hsign => ((sign_eq_ok_iff_signTypedData hkey).1 hsign).2⟩
    cases h with
    | nil => exact .inl rfl
    | cons hsign _ => exact .inr ((sign_eq_ok_iff_signTypedData hkey).1 hsign).1
  · rintro ⟨rfl | hpool, h⟩
    · cases h
      exact .nil
    · exact h.imp fun e g hsign => (sign_eq_ok_iff_signTypedData hkey).2 ⟨hpool, hsign⟩

/-- The name of the event of an envelope that was signed. -/
def signedName : Text := "account.signed_typed_data"

/-- A signer signs as the key does that a text spells, and logs it. -/
structure SignsAs (s : Signer) (k : Text) : Prop where
  sign (envelope : Json) (signature : Signature) :
    (s.perform (.sign envelope)).answer = .signature signature ↔
      s.pool = .ready ∧ signTypedData envelope k = .ok signature
  generate (source : Setup.Source) (signed : Setup.SignedPayload Signature) :
    (s.perform (.generate source)).answer = .generated (.ok signed) ↔
      ∃ message, source.message = .ok message ∧ s.pool = .ready ∧
        signTypedData (Setup.envelope message).json k = .ok signed.signature ∧
        signed.payload = Payload.encode (Setup.envelope message).json
  signAll (envelopes : List Json) (signatures : List Signature) :
    (s.perform (.signAll envelopes)).answer = .signatures signatures ↔
      (envelopes = [] ∨ s.pool = .ready) ∧
        List.Forall₂ (fun e g => signTypedData e k = .ok g) envelopes signatures
  /-- One event is logged for one envelope that is signed, after those that are late. -/
  logged (envelope : Json) (signature : Signature) :
    (s.perform (.sign envelope)).answer = .signature signature →
      ∃ event, (s.perform (.sign envelope)).events = s.late ++ [event] ∧
        event.logged.name = signedName

theorem signsAs {k : Text} (hkey : PrivateKey.ofText k = .ok s.key) : SignsAs s k := by
  have hone (envelope : Json) (signature : Signature) :
      (s.perform (.sign envelope)).answer = .signature signature ↔
        s.sign envelope = .ok signature := by
    rw [perform_sign, answer_ofSigning]
    cases s.sign envelope with
    | error e => exact ⟨nofun, nofun⟩
    | ok made =>
      exact ⟨fun h => congrArg _ (Answer.signature.inj h), fun h => congrArg _ (Except.ok.inj h)⟩
  refine ⟨fun envelope signature => ?_, fun source signed => ?_, fun envelopes signatures => ?_,
    fun envelope signature h => ?_⟩
  · rw [hone, sign_eq_ok_iff_signTypedData hkey]
  · cases hmessage : source.message with
    | error e =>
      rw [perform_generate_of_error s hmessage]
      exact ⟨nofun, nofun⟩
    | ok message =>
      have hsigned : (s.perform (.generate source)).answer = .generated (.ok signed) ↔
          s.sign (Setup.envelope message).json = .ok signed.signature ∧
            signed.payload = Payload.encode (Setup.envelope message).json := by
        rw [perform_generate s hmessage, answer_ofSigning]
        cases s.sign (Setup.envelope message).json with
        | error e => exact ⟨nofun, nofun⟩
        | ok made =>
          constructor
          · intro h
            rw [← Except.ok.inj (Answer.generated.inj h)]
            exact ⟨rfl, rfl⟩
          · rintro ⟨hmade, hpayload⟩
            rw [Except.ok.inj hmade, ← hpayload]
            rfl
      rw [hsigned, sign_eq_ok_iff_signTypedData hkey, and_assoc]
      constructor
      · exact fun h => ⟨message, rfl, h⟩
      · rintro ⟨_, hother, h⟩
        rw [Except.ok.inj hother]
        exact h
  · rw [answer_signAll_iff, forall₂_sign_iff hkey]
  · have hsign := (hone envelope signature).1 h
    rw [perform_sign, ofSigning_of_ok hsign]
    exact ⟨s.signedEvent envelope, rfl, rfl⟩

end Answers

end SignedSetup.Signer
