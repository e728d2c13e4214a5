import SignedSetup.Envelope
import SignedSetup.Json.Parser
import SignedSetup.Json.Printer
import SignedSetup.Text.Utf8

/-!
# Payloads

A payload is the octets of an envelope, exactly as they are handed on with a signature: compact
JSON in UTF-8, members in order. Any value can be written. A surrogate has no octets, so the
replacement character is written in its place; what is read back from a written payload is the
value scrubbed (`Json.scrub`).
-/

namespace SignedSetup.Payload

/-- The octets of a value. -/
def encode (v : Json) : Bytes := (v.render .compact).utf8

/-- Why octets are no payload. -/
inductive Fault where
  | utf8 (e : Utf8.Fault)
  | json (e : Json.Fault)
  | envelope (e : Envelope.Fault)
deriving DecidableEq

/-- What is said of octets that are no payload. -/
def Fault.message : Fault → Text
  | .utf8 e => e.message
  | .json e => e.message
  | .envelope e => e.message

/-- The envelope that octets spell. -/
def decode (payload : Bytes) : Except Fault Envelope := do
  let text ← (Utf8.decode payload).mapError .utf8
  let value ← (Json.parse text).mapError .json
  (Envelope.ofJson value).mapError .envelope

end SignedSetup.Payload
