import Mathlib.Data.List.Chain
import SignedSetup.Proofs.Account.Operations
import SignedSetup.Proofs.Setup.Verification
import SignedSetup.Proofs.TypedData.SizedTypes

/-!
# A signer from start to shutdown

A signer has workers iff a start succeeded after the last shutdown (`started_performAll`), and its
log tells so: starts and stops take turns in it (`takesTurns_performAll`). Both are said of one
operation first and hold of a run by induction on its operations. With what one operation does, this
is the life of a signer (`performAll_lifecycle`).
-/

namespace SignedSetup.Signer

/-! ## Starts and stops in the log -/

/-- An event that tells whether there are workers. -/
inductive Phase where
  | started
  | stopped
deriving DecidableEq

/-- What an event tells of the workers, if it does. -/
def Phase.ofLogged? (event : Log.Event) : Option Phase :=
  if event.name = "account.signer_started" then some .started
  else if event.name = "account.signer_shutdown" then some .stopped
  else none

/-- What events tell of the workers. -/
def phases (events : List Event) : List Phase :=
  events.filterMap fun event => Phase.ofLogged? event.logged

theorem phases_append (l₁ l₂ : List Event) : phases (l₁ ++ l₂) = phases l₁ ++ phases l₂ :=
  List.filterMap_append

/-- Starts and stops lead from a state of the workers, which are there or not, to another. -/
inductive TakesTurns : Bool → List Phase → Bool → Prop where
  | nil (b : Bool) : TakesTurns b [] b
  | start {l : List Phase} {b : Bool} : TakesTurns true l b → TakesTurns false (.started :: l) b
  | stop {l : List Phase} {b : Bool} : TakesTurns false l b → TakesTurns true (.stopped :: l) b

theorem TakesTurns.append {a b c : Bool} {l₁ l₂ : List Phase} (h₁ : TakesTurns a l₁ b)
    (h₂ : TakesTurns b l₂ c) : TakesTurns a (l₁ ++ l₂) c := by
  induction h₁ with
  | nil => exact h₂
  | start _ ih => exact .start (ih h₂)
  | stop _ ih => exact .stop (ih h₂)

/-- The first of the turns is what can come next, and each is followed by the other. -/
theorem TakesTurns.isChain {a b : Bool} {l : List Phase} (h : TakesTurns a l b) :
    (∀ phase ∈ l.head?, phase = if a then .stopped else .started) ∧ l.IsChain (· ≠ ·) := by
  induction h with
  | nil b => exact ⟨nofun, .nil⟩
  | start _ ih =>
    refine ⟨fun phase hphase => (Option.some.inj hphase).symm,
      List.isChain_cons.2 ⟨fun phase hphase => ?_, ih.2⟩⟩
    rw [ih.1 phase hphase]
    decide
  | stop _ ih =>
    refine ⟨fun phase hphase => (Option.some.inj hphase).symm,
      List.isChain_cons.2 ⟨fun phase hphase => ?_, ih.2⟩⟩
    rw [ih.1 phase hphase]
    decide

theorem TakesTurns.count {a b : Bool} {l : List Phase} (h : TakesTurns a l b) :
    l.count .started + a.toNat = l.count .stopped + b.toNat := by
  induction h with
  | nil b => rfl
  | start _ ih =>
    rw [List.count_cons_self, List.count_cons_of_ne (by decide), ← ih]
    rfl
  | stop _ ih =>
    rw [List.count_cons_self, List.count_cons_of_ne (by decide), Nat.add_right_comm, ← ih]
    rfl

/-- Starts and stops alternate, a start first, and the last is a start iff there are workers. -/
structure Alternates (phases : List Phase) (started : Bool) : Prop where
  isChain : phases.IsChain (· ≠ ·)
  head : ∀ phase ∈ phases.head?, phase = .started
  count : phases.count .started = phases.count .stopped + started.toNat

theorem TakesTurns.alternates {l : List Phase} {b : Bool} (h : TakesTurns false l b) :
    Alternates l b :=
  ⟨h.isChain.2, h.isChain.1, h.count⟩

/-! ## One operation -/

section Step

variable {s : Signer}

/-- A signer whose late events are all of envelopes that were signed. -/
def LateSigned (s : Signer) : Prop := ∀ event ∈ s.late, event.logged.name = signedName

theorem phases_of_signed {events : List Event}
    (h : ∀ event ∈ events, event.logged.name = signedName) : phases events = [] := by
  refine List.filterMap_eq_nil_iff.2 fun event hevent => ?_
  rw [Phase.ofLogged?, h event hevent]
  rfl

/-- Operations about envelopes log nothing else than that these were signed. -/
theorem Signs.logged {envelopes : List Json} {outcome : Outcome} (h : Signs s envelopes outcome)
    (hlate : LateSigned s) : (∀ event ∈ outcome.events, event.logged.name = signedName) ∧
      LateSigned outcome.signer := by
  have hall : ∀ event ∈ outcome.events ++ outcome.signer.late,
      event.logged.name = signedName := by
    rw [h.events]
    intro event hevent
    rcases List.mem_append.1 hevent with hevent | hevent
    · exact hlate event hevent
    · obtain ⟨envelope, -, rfl⟩ := List.mem_map.1 hevent
      rfl
  exact List.forall_mem_append.1 hall

theorem Signs.started {envelopes : List Json} {outcome : Outcome} (h : Signs s envelopes outcome) :
    outcome.signer.started = s.started := by
  rw [Signer.started, Signer.started, h.pool, poolAfter]
  cases s.pool <;> cases envelopes.any breaks <;> rfl

/-- An operation that is a start and succeeds. -/
def Starts (s : Signer) (operation : Operation) : Prop :=
  operation = .start ∧ ∃ before, (s.perform .start).answer = .started before

/-- There are workers after a start that succeeds, and after what leaves them there. -/
theorem started_perform (s : Signer) (operation : Operation) :
    (s.perform operation).signer.started = true ↔
      Starts s operation ∨ s.started = true ∧ operation ≠ .shutdown := by
  rcases operation.eq_or_isSigning with rfl | rfl | hsigning
  · rcases s.start_cases with ⟨hstarted, h⟩ | ⟨hstarted, e, h⟩ | ⟨hstarted, h⟩
    · rw [Starts, h]
      exact ⟨fun _ => .inl ⟨rfl, true, rfl⟩, fun _ => hstarted⟩
    · rw [Starts, h, hstarted]
      exact ⟨nofun, by rintro (⟨-, _, hanswer⟩ | ⟨hstarted, -⟩) <;> contradiction⟩
    · rw [Starts, h]
      exact ⟨fun _ => .inl ⟨rfl, false, rfl⟩, fun _ => rfl⟩
  · have hstopped : (s.perform .shutdown).signer.started = false := by
      rw [s.switches.shutdown]
      rfl
    rw [hstopped]
    exact ⟨nofun, by rintro (⟨h, -⟩ | ⟨-, h⟩) <;> contradiction⟩
  · rw [(s.signs_perform hsigning).started]
    constructor
    · rintro h
      refine .inr ⟨h, ?_⟩
      rintro rfl
      exact hsigning
    · rintro (⟨rfl, -⟩ | ⟨h, -⟩)
      · exact hsigning.elim
      · exact h

/-- Starts and stops are logged as they take effect. -/
theorem takesTurns_perform (hlate : LateSigned s) (operation : Operation) :
    TakesTurns s.started (phases (s.perform operation).events)
      (s.perform operation).signer.started := by
  rcases operation.eq_or_isSigning with rfl | rfl | hsigning
  · rcases s.start_cases with ⟨hstarted, h⟩ | ⟨hstarted, e, h⟩ | ⟨hstarted, h⟩
    · rw [h]
      exact .nil _
    · rw [h]
      exact .nil _
    · rw [h, hstarted]
      exact .start (.nil _)
  · rcases s.shutdown_cases with ⟨hstarted, h⟩ | ⟨hstarted, h⟩
    · rw [h]
      exact .nil _
    · rw [h, hstarted]
      exact .stop (.nil _)
  · have hsigns := s.signs_perform hsigning
    rw [hsigns.started, phases_of_signed (hsigns.logged hlate).1]
    exact .nil _

/-- What no operation changes. -/
structure Keeps (s t : Signer) : Prop where
  key : t.key = s.key
  maxWorkers : t.maxWorkers = s.maxWorkers
  late : LateSigned s → LateSigned t

theorem keeps_perform (s : Signer) (operation : Operation) :
    Keeps s (s.perform operation).signer := by
  rcases operation.eq_or_isSigning with rfl | rfl | hsigning
  · rcases s.start_cases with ⟨-, h⟩ | ⟨-, e, h⟩ | ⟨-, h⟩ <;> rw [h] <;> exact ⟨rfl, rfl, id⟩
  · rcases s.shutdown_cases with ⟨-, h⟩ | ⟨-, h⟩ <;> rw [h] <;> exact ⟨rfl, rfl, id⟩
  · have hsigns := s.signs_perform hsigning
    exact ⟨hsigns.key, hsigns.maxWorkers, fun hlate => (hsigns.logged hlate).2⟩

end Step

/-! ## A run of operations -/

/-- A start succeeded in a run, and no shutdown came after it. -/
def StartedSince (s : Signer) (operations : List Operation) : Prop :=
  ∃ past later, operations = past ++ .start :: later ∧ .shutdown ∉ later ∧
    ∃ before, ((s.performAll past).1.perform .start).answer = .started before

/-- A batch failed in a run. -/
def FailedBatch (s : Signer) (operations : List Operation) : Prop :=
  ∃ past envelopes later fault, operations = past ++ .signAll envelopes :: later ∧
    ((s.performAll past).1.perform (.signAll envelopes)).answer = .failed fault

section Run

variable {s : Signer} {operation : Operation} {operations : List Operation}

theorem performAll_cons (s : Signer) (operation : Operation) (operations : List Operation) :
    s.performAll (operation :: operations) =
      (((s.perform operation).signer.performAll operations).1,
        (s.perform operation).events ++ ((s.perform operation).signer.performAll operations).2) :=
  rfl

/-- The last successful start is the first operation of a run, or it comes behind it. -/
theorem startedSince_cons :
    StartedSince s (operation :: operations) ↔
      (Starts s operation ∧ .shutdown ∉ operations) ∨
        StartedSince (s.perform operation).signer operations := by
  constructor
  · rintro ⟨past, later, heq, hlater, hstart⟩
    cases past with
    | nil =>
      obtain ⟨rfl, rfl⟩ := List.cons.inj heq
      exact .inl ⟨⟨rfl, hstart⟩, hlater⟩
    | cons first past =>
      obtain ⟨rfl, rfl⟩ := List.cons.inj heq
      exact .inr ⟨past, later, rfl, hlater, hstart⟩
  · rintro (⟨⟨rfl, hstart⟩, hlater⟩ | ⟨past, later, rfl, hlater, hstart⟩)
    · exact ⟨[], operations, rfl, hlater, hstart⟩
    · exact ⟨operation :: past, later, rfl, hlater, hstart⟩

/-- There are workers after a run iff a start succeeded in it after the last shutdown, or they were
there before and there was no shutdown. -/
theorem started_performAll (s : Signer) (operations : List Operation) :
    (s.performAll operations).1.started = true ↔
      StartedSince s operations ∨ s.started = true ∧ .shutdown ∉ operations := by
  induction operations generalizing s with
  | nil =>
    have hnot : ¬ StartedSince s [] := by
      rintro ⟨past, later, heq, -⟩
      cases past <;> cases heq
    constructor
    · exact fun h => .inr ⟨h, List.not_mem_nil⟩
    · exact fun h => (h.resolve_left hnot).1
  | cons operation operations ih =>
    rw [performAll_cons, ih, started_perform, startedSince_cons, List.mem_cons, not_or,
      or_and_right, and_assoc, ne_comm, or_left_comm, ← or_assoc]

theorem keeps_performAll (s : Signer) (operations : List Operation) :
    Keeps s (s.performAll operations).1 := by
  induction operations generalizing s with
  | nil => exact ⟨rfl, rfl, id⟩
  | cons operation operations ih =>
    obtain ⟨hkey, hmaxWorkers, hlate⟩ := s.keeps_perform operation
    obtain ⟨hkey', hmaxWorkers', hlate'⟩ := ih (s.perform operation).signer
    exact ⟨hkey'.trans hkey, hmaxWorkers'.trans hmaxWorkers, hlate' ∘ hlate⟩

/-- What is to be logged late was there before, or a batch failed. -/
theorem late_performAll (h : (s.performAll operations).1.late ≠ []) :
    s.late ≠ [] ∨ FailedBatch s operations := by
  induction operations generalizing s with
  | nil => exact .inl h
  | cons operation operations ih =>
    rcases ih h with hlate | ⟨past, envelopes, later, fault, rfl, hfailed⟩
    · rcases late_perform hlate with hlate | ⟨envelopes, fault, rfl, hfailed⟩
      · exact .inl hlate
      · exact .inr ⟨[], envelopes, operations, fault, rfl, hfailed⟩
    · exact .inr ⟨operation :: past, envelopes, later, fault, rfl, hfailed⟩

/-- Starts and stops take turns in the log of a run. -/
theorem takesTurns_performAll (hlate : LateSigned s) (operations : List Operation) :
    TakesTurns s.started (phases (s.performAll operations).2)
      (s.performAll operations).1.started := by
  induction operations generalizing s with
  | nil => exact .nil _
  | cons operation operations ih =>
    rw [performAll_cons, phases_append]
    exact (takesTurns_perform hlate operation).append
      (ih ((s.keeps_perform operation).late hlate))

/-- No start succeeds with no workers. -/
theorem not_started_of_isAtMostZero (hzero : IsAtMostZero s.maxWorkers)
    (hstarted : s.started = false) (operations : List Operation) :
    (s.performAll operations).1.started = false := by
  induction operations generalizing s with
  | nil => exact hstarted
  | cons operation operations ih =>
    have hnot : (s.perform operation).signer.started = false := by
      rw [Bool.eq_false_iff, Ne, started_perform, hstarted]
      rintro (⟨-, before, hanswer⟩ | ⟨h, -⟩)
      · rw [s.switches.start_of_isAtMostZero hstarted hzero] at hanswer
        cases hanswer
      · cases h
    exact ih ((s.keeps_perform operation).maxWorkers ▸ hzero) hnot

end Run

/-- What is known of a signer that signs as a spelled key does and has come, with the events that
it logged, from a first state through a run. -/
structure Lifecycle (k : Text) (first : Signer) (operations : List Operation) (s : Signer)
    (events : List Event) : Prop where
  started_iff : s.started = true ↔ StartedSince first operations
  alternates : Alternates (phases events) s.started
  maxWorkers : s.maxWorkers = first.maxWorkers
  not_started : IsAtMostZero first.maxWorkers → s.started = false
  switches : Switches s
  refuses : s.started = false → Refuses s
  signs (operation : Operation) : operation.IsSigning →
    Signs s operation.envelopes (s.perform operation)
  signsAs : SignsAs s k
  /-- What is late are envelopes that were signed, in a batch that failed. -/
  late : LateSigned s ∧ (s.late ≠ [] → FailedBatch first operations)

/-- The life of a signer, whatever is asked of it from the time it is made. -/
theorem performAll_lifecycle {k : Text} {key : PrivateKey} (hkey : PrivateKey.ofText k = .ok key)
    (maxWorkers : Json) (operations : List Operation) :
    Lifecycle k (new key maxWorkers) operations ((new key maxWorkers).performAll operations).1
      ((new key maxWorkers).performAll operations).2 := by
  have hlate : LateSigned (new key maxWorkers) := nofun
  have hkeeps := keeps_performAll (new key maxWorkers) operations
  have hkey' : PrivateKey.ofText k = .ok ((new key maxWorkers).performAll operations).1.key := by
    rw [hkeeps.key]
    exact hkey
  constructor
  case started_iff =>
    have hstarted := started_performAll (new key maxWorkers) operations
    have hnew : (new key maxWorkers).started = false := rfl
    rw [hstarted, hnew]
    exact or_iff_left fun h => nomatch h.1
  case alternates => exact (takesTurns_performAll hlate operations).alternates
  case maxWorkers => exact hkeeps.maxWorkers
  case not_started => exact fun hzero => not_started_of_isAtMostZero hzero rfl operations
  case switches => exact Signer.switches _
  case refuses => exact refuses_of_not_started
  case signs => exact fun operation hsigning => signs_perform _ hsigning
  case signsAs => exact Signer.signsAs hkey'
  case late => exact ⟨hkeeps.late hlate, fun h => (late_performAll h).resolve_left (absurd rfl)⟩

/-! ## A signer with the sample key -/

open Setup (sampleKey)

/-- The sample key, spelled. -/
def sampleKeyText : Text := "0xac0974bec39a17e36ba4a6b4d238ff944bacb478cbed5efcae784d7bf4f2ff80"

theorem ofText_sampleKeyText : PrivateKey.ofText sampleKeyText = .ok sampleKey := rfl

/-- An envelope that can be signed. -/
def networkEnvelope : Json := (Setup.envelope [("network", .text "1")]).json

theorem signTypedData_networkEnvelope :
    sampleKey.signTypedData networkEnvelope =
      .ok (Signature.sign sampleKey Setup.sampleDigest) := by
  rw [PrivateKey.signTypedData, networkEnvelope, Setup.digest_network]
  rfl

/-- A signer that was started a second time signs. -/
theorem sign_of_restarted :
    PrivateKey.ofText sampleKeyText = .ok sampleKey ∧
      let run := (new sampleKey (.int 1)).performAll [.start, .shutdown, .start]
      Alternates (phases run.2) true ∧
        ∃ signature, (run.1.perform (.sign networkEnvelope)).answer = .signature signature := by
  have hlife := performAll_lifecycle ofText_sampleKeyText (.int 1) [.start, .shutdown, .start]
  have hsignature := (signTypedData_eq_ok_iff ofText_sampleKeyText).2 signTypedData_networkEnvelope
  exact ⟨ofText_sampleKeyText, hlife.alternates, _,
    (hlife.signsAs.sign networkEnvelope _).2 ⟨rfl, hsignature⟩⟩

/-- The sample signer after a start. -/
def readySigner : Signer := ⟨sampleKey, .int 1, .ready, []⟩

theorem sign_networkEnvelope :
    readySigner.sign networkEnvelope = .ok (Signature.sign sampleKey Setup.sampleDigest) :=
  sign_eq_ok_iff.2 ⟨rfl, signTypedData_networkEnvelope⟩

/-- The signer after it was given envelopes of which the first cannot be signed. -/
theorem perform_signAll_null :
    (readySigner.perform (.signAll [.null, networkEnvelope])).signer =
      { readySigner with late := [readySigner.signedEvent networkEnvelope] } := by
  obtain ⟨e, hnull⟩ : ∃ e, readySigner.sign .null = .error (.typedData e) := ⟨_, rfl⟩
  have heq : readySigner.signEach ([] ++ .null :: [networkEnvelope]) =
      ([], some (.typedData e)) := by
    rw [List.nil_append, signEach, hnull]
  have hall : List.Forall₂ (fun e g => readySigner.sign e = .ok g) [networkEnvelope]
      [Signature.sign sampleKey Setup.sampleDigest] := .cons sign_networkEnvelope .nil
  have hfault : readySigner.afterFault (.typedData e) = readySigner := rfl
  have hbatch := signAll_of_failed .nil heq
  rw [hfault, poolAfter_of_signed hall, signed_of_signed hall] at hbatch
  exact congrArg Outcome.signer hbatch

theorem isPositive_overlongDigits : TypedData.IsPositive Setup.overlongDigits := by
  have hne : Setup.overlongDigits ≠ [CodePoint.ofChar '0'] := by
    intro h
    have hlength := congrArg List.length h
    rw [Setup.overlongDigits, List.length_replicate] at hlength
    exact absurd hlength (by decide)
  obtain ⟨hdigits, hhead⟩ := Setup.isWhole_overlongDigits.resolve_left hne
  exact ⟨hdigits, hhead⟩

/-- An envelope whose fault is not reported. -/
def breakingEnvelope : Json := (TypedData.sizedEnvelope Setup.overlongDigits).json

theorem sign_breakingEnvelope : readySigner.sign breakingEnvelope = .error .brokenPool := by
  have hlong : Decimal.limit < Setup.overlongDigits.length := by
    rw [Setup.overlongDigits, List.length_replicate]
    exact Nat.lt_succ_self _
  have hdigest : TypedData.digest breakingEnvelope = .error .longNumber :=
    TypedData.digest_sizedEnvelope isPositive_overlongDigits hlong
  have hready : readySigner.pool = .ready := rfl
  rw [sign, hready, PrivateKey.signTypedData, hdigest]
  rfl

/-- A signing that fails can break the workers, so that another fails which would not have. And a
batch can be logged after the workers are gone, where another batch is refused. -/
theorem sign_breaks_workers :
    (let s := ((new sampleKey (.int 1)).performAll [.start]).1
      let t := s.perform (.sign breakingEnvelope)
      s.pool = .ready ∧ t.answer = .failed .brokenPool ∧ t.signer.pool = .broken ∧
        (∃ signature, (s.perform (.sign networkEnvelope)).answer = .signature signature) ∧
        (t.signer.perform (.sign networkEnvelope)).answer = .failed .brokenPool) ∧
      let s := ((new sampleKey (.int 1)).performAll
        [.start, .signAll [.null, networkEnvelope], .shutdown]).1
      s.started = false ∧ (s.perform (.signAll [networkEnvelope])).events ≠ [] := by
  have hstart : ((new sampleKey (.int 1)).performAll [.start]).1 = readySigner := rfl
  have hbreaking : readySigner.perform (.sign breakingEnvelope) =
      (readySigner.afterFault .brokenPool).waited [] (.failed .brokenPool) := by
    rw [perform_sign, ofSigning, sign_breakingEnvelope]
    rfl
  have hrun : ((new sampleKey (.int 1)).performAll
      [.start, .signAll [.null, networkEnvelope], .shutdown]).1 =
        { readySigner with
          pool := .absent
          late := [readySigner.signedEvent networkEnvelope] } := by
    show ((readySigner.perform (.signAll [.null, networkEnvelope])).signer.perform
      .shutdown).signer = _
    rw [perform_signAll_null]
    rfl
  have hsigned : (readySigner.perform (.sign networkEnvelope)).answer =
      .signature (Signature.sign sampleKey Setup.sampleDigest) := by
    rw [perform_sign, ofSigning_of_ok sign_networkEnvelope]
    rfl
  refine ⟨?_, ?_⟩
  · rw [hstart]
    dsimp only
    rw [hbreaking]
    refine ⟨rfl, rfl, rfl, ⟨_, hsigned⟩, ?_⟩
    rw [perform_sign, answer_ofSigning]
    rfl
  · rw [hrun]
    refine ⟨rfl, ?_⟩
    rw [(refuses_of_not_started rfl).signAll _ (List.cons_ne_nil _ _)]
    exact List.cons_ne_nil _ _

end SignedSetup.Signer
