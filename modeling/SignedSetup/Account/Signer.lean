import SignedSetup.Account.Signing
import SignedSetup.Log.Record
import SignedSetup.Setup.Generation

/-!
# The life of a signer

A signer holds a key and works only between a start and the next shutdown, with a pool of workers.
Starting a started signer and shutting down a stopped one change nothing. A fault that a worker
cannot report breaks the pool, which then signs nothing until it is replaced by a shutdown and a
start. Every operation gives the signer after it, its answer and the events that it logs.

Several envelopes that are signed at once are given up at the first fault. The workers still go on
with the others, but what they sign then is logged late: by the next operation that waits for the
workers.
-/

namespace SignedSetup

/-- What a signer logs. -/
inductive Signer.Event where
  | started (address : Address) (maxWorkers : Json)
  | stopped (address : Address)
  /-- Typed data was signed; its primary type is null if it names none. -/
  | signed (address : Address) (primaryType : Json)

/-- The workers of a signer. -/
inductive Pool where
  /-- There are none between a shutdown and the next start. -/
  | absent
  | ready
  /-- Workers that sign nothing more. -/
  | broken
deriving DecidableEq

/-- A signer: its key, the number of workers it is to start with as it was given, its workers, and
the events that are to be logged late. -/
structure Signer where
  key : PrivateKey
  maxWorkers : Json
  pool : Pool
  late : List Signer.Event

namespace Signer

/-- A signer that has not started. -/
def new (key : PrivateKey) (maxWorkers : Json) : Signer := ⟨key, maxWorkers, .absent, []⟩

/-- A signer that has not started and takes the place of another, whose late events it logs. -/
def inPlaceOf (s : Signer) (key : PrivateKey) (maxWorkers : Json) : Signer :=
  { new key maxWorkers with late := s.late }

/-- A signer has started and was not shut down since. -/
def started (s : Signer) : Bool := s.pool ≠ .absent

/-- The name of the logger of these events. -/
def loggerName : Text := "web3_infra.account"

/-- The event as it is logged. -/
def Event.logged : Event → Log.Event
  | .started address maxWorkers =>
    ⟨loggerName, .info, "account.signer_started",
      [("address", .json (.text address.checksummed)), ("max_workers", .json maxWorkers)]⟩
  | .stopped address =>
    ⟨loggerName, .info, "account.signer_shutdown",
      [("address", .json (.text address.checksummed))]⟩
  | .signed address primaryType =>
    ⟨loggerName, .debug, "account.signed_typed_data",
      [("address", .json (.text address.checksummed)), ("primary_type", .json primaryType)]⟩

/-- Why an operation fails. -/
inductive Fault where
  /-- The signer cannot start without a worker. -/
  | noWorkers
  /-- The signer cannot start with more workers than are counted. -/
  | tooManyWorkers
  /-- The number of workers is no integer. -/
  | uncountedWorkers
  | notStarted
  /-- The workers are broken, or were just broken by what was to be signed. -/
  | brokenPool
  | typedData (e : TypedData.Fault)

/-- What is said where a signer cannot start. -/
def noWorkersMessage : Text := "max_workers must be greater than 0"

/-- What is said where a signer has not started. -/
def notStartedMessage : Text := "LocalAccountSigner not started — call start() first"

/-- What can be asked of a signer. -/
inductive Operation where
  | start
  | shutdown
  | sign (envelope : Json)
  /-- Several envelopes are signed at once. -/
  | signAll (envelopes : List Json)
  | generate (source : Setup.Source)

/-- What a signer answers. -/
inductive Answer where
  /-- The signer has started; it may have been before. -/
  | started (before : Bool)
  | stopped
  | signature (s : Signature)
  | signatures (ss : List Signature)
  | generated (r : Except (Setup.GenerationFault Fault) (Setup.SignedPayload Signature))
  | failed (e : Fault)

/-- An operation's outcome. -/
structure Outcome where
  signer : Signer
  events : List Event
  answer : Answer

/-- The event of an envelope that was signed. -/
def signedEvent (s : Signer) (envelope : Json) : Event :=
  .signed s.key.address
    (((envelope.members?.getD []).lookup EnvelopeMember.primaryType.key).getD .null)

/-- The most workers that a signer can start with. -/
def mostWorkers : Int := 2 ^ 31 - 2

/-- Why a signer does not start with a number of workers, if it does not. Null leaves the number
open, and a truth value counts as zero or one. -/
def workersFault? : Json → Option Fault
  | .null => none
  | .bool b => if b then none else some .noWorkers
  | .int n =>
    if n ≤ 0 then some .noWorkers
    else if mostWorkers < n then some .tooManyWorkers
    else none
  | .float x => some (if x.isAtMostZero then .noWorkers else .uncountedWorkers)
  | _ => some .uncountedWorkers

/-- A worker that meets the fault cannot report it. -/
def isUnreported : TypedData.Fault → Bool
  | .longNumber => true
  | _ => false

/-- What a worker's fault is to the signer. -/
def ofWorker (e : TypedData.Fault) : Fault := if isUnreported e then .brokenPool else .typedData e

/-- The signature of an envelope, if there are workers for it. -/
def sign (s : Signer) (envelope : Json) : Except Fault Signature :=
  match s.pool with
  | .absent => .error .notStarted
  | .broken => .error .brokenPool
  | .ready => (s.key.signTypedData envelope).mapError ofWorker

/-- The signer after a fault of an operation. -/
def afterFault (s : Signer) : Fault → Signer
  | .brokenPool => { s with pool := .broken }
  | _ => s

/-- The signatures of envelopes up to the first that is not signed, and the fault of that one. -/
def signEach (s : Signer) : List Json → List Signature × Option Fault
  | [] => ([], none)
  | envelope :: envelopes =>
    match s.sign envelope with
    | .error e => ([], some e)
    | .ok signature =>
      let (signatures, fault) := s.signEach envelopes
      (signature :: signatures, fault)

/-- The events of the envelopes that the workers sign, whatever becomes of the others, and the
workers after that. -/
def signRest (s : Signer) : List Json → List Event × Pool
  | [] => ([], s.pool)
  | envelope :: envelopes =>
    match s.sign envelope with
    | .error .brokenPool => ([], .broken)
    | .error _ => s.signRest envelopes
    | .ok _ =>
      let (events, pool) := s.signRest envelopes
      (s.signedEvent envelope :: events, pool)

/-- The outcome of an operation that waited for the workers: late events come before its own. -/
def waited (s : Signer) (events : List Event) (answer : Answer) : Outcome :=
  ⟨{ s with late := [] }, s.late ++ events, answer⟩

/-- The signer started. -/
def start (s : Signer) : Outcome :=
  if s.started then ⟨s, [], .started true⟩
  else
    match workersFault? s.maxWorkers with
    | some e => ⟨s, [], .failed e⟩
    | none => ⟨{ s with pool := .ready }, [.started s.key.address s.maxWorkers], .started false⟩

/-- The signer stopped. -/
def shutdown (s : Signer) : Outcome :=
  if s.started then ⟨{ s with pool := .absent }, [.stopped s.key.address], .stopped⟩
  else ⟨s, [], .stopped⟩

/-- The envelopes signed at once. There is nothing to wait for if there are none. -/
def signAll (s : Signer) (envelopes : List Json) : Outcome :=
  let (signatures, fault) := s.signEach envelopes
  let events := (envelopes.take signatures.length).map s.signedEvent
  match fault with
  | none =>
    if envelopes.isEmpty then ⟨s, [], .signatures []⟩
    else s.waited events (.signatures signatures)
  | some e =>
    let outcome := (s.afterFault e).waited events (.failed e)
    let (late, pool) := outcome.signer.signRest (envelopes.drop (signatures.length + 1))
    { outcome with signer := { outcome.signer with pool := pool, late := late } }

/-- The outcome of an operation. Workers that are not there are not waited for. -/
def perform (s : Signer) : Operation → Outcome
  | .start => s.start
  | .shutdown => s.shutdown
  | .sign envelope =>
    match s.sign envelope with
    | .ok signature => s.waited [s.signedEvent envelope] (.signature signature)
    | .error .notStarted => ⟨s, [], .failed .notStarted⟩
    | .error e => (s.afterFault e).waited [] (.failed e)
  | .signAll envelopes => s.signAll envelopes
  | .generate source =>
    let generation := Setup.generate (some fun e => s.sign e.json) source
    match generation.result with
    | .ok signed =>
      s.waited (generation.calls.map fun e => s.signedEvent e.json) (.generated (.ok signed))
    | .error (.signer .notStarted) => ⟨s, [], .generated (.error (.signer .notStarted))⟩
    | .error (.signer e) => (s.afterFault e).waited [] (.generated (.error (.signer e)))
    | .error e => ⟨s, [], .generated (.error e)⟩

/-- The signer after a list of operations, with all events. -/
def performAll (s : Signer) : List Operation → Signer × List Event
  | [] => (s, [])
  | operation :: operations =>
    let outcome := s.perform operation
    let (last, events) := outcome.signer.performAll operations
    (last, outcome.events ++ events)

end Signer

end SignedSetup
