import SignedSetup.Proofs.Json.Reading
import SignedSetup.Proofs.Payload
import SignedSetup.Proofs.Text.Utf8Reading

/-!
# Octets that spell an envelope

Octets are read as an envelope exactly if they are the UTF-8 of a document without integers of too
many digits, whose value is an object with the four members of typed data, each of its kind
(`decode_eq_ok_iff`). The envelope is what the document spells, with members of equal keys merged.
-/

namespace SignedSetup

theorem Envelope.ofJson_eq_ok_iff {v : Json} {e : Envelope} : ofJson v = .ok e ↔ e.json = v := by
  constructor
  · intro h
    cases v with
    | obj members =>
      obtain ⟨types, -, h⟩ := bind_eq_ok h
      obtain ⟨primaryType, -, h⟩ := bind_eq_ok h
      obtain ⟨domain, -, h⟩ := bind_eq_ok h
      obtain ⟨message, -, h⟩ := bind_eq_ok h
      rw [← Except.ok.inj h]
      rfl
    | null | bool _ | int _ | float _ | text _ | arr _ => cases h
  · rintro rfl
    exact ofJson_json e

namespace Payload

/-- Octets are the UTF-8 of a document that spells a value. -/
def Spells (payload : Bytes) (raw : Json) : Prop :=
  ∃ t : Text, t.isScalar = true ∧ payload = t.flatMap CodePoint.utf8 ∧ Json.IsDocument raw t

theorem decode_of_parse_error {payload : Bytes} {t : Text} {x : Json.Fault}
    (htext : Utf8.decode payload = .ok t) (h : Json.parse t = .error x) :
    decode payload = .error (.json x) := by
  rw [decode, htext]
  show ((Json.parse t).mapError Fault.json).bind _ = _
  rw [h]
  rfl

/-- Octets are read as an envelope iff they spell it, up to members of equal keys, and none of the
integers that they spell has too many digits. -/
theorem decode_eq_ok_iff {payload : Bytes} {e : Envelope} :
    decode payload = .ok e ↔
      ∃ raw, Spells payload raw ∧ raw.isReadable = true ∧ raw.merge = e.json := by
  constructor
  · intro h
    obtain ⟨t, htext, h⟩ := bind_eq_ok h
    obtain ⟨v, hvalue, h⟩ := bind_eq_ok h
    obtain ⟨hscalar, hoctets⟩ := Utf8.decode_eq_ok_iff.1 (mapError_eq_ok htext)
    obtain ⟨raw, hdocument, hreadable, rfl⟩ := Json.parse_eq_ok_iff.1 (mapError_eq_ok hvalue)
    have hjson := Envelope.ofJson_eq_ok_iff.1 (mapError_eq_ok h)
    exact ⟨raw, ⟨t, hscalar, hoctets, hdocument⟩, hreadable, hjson.symm⟩
  · rintro ⟨raw, ⟨t, hscalar, hoctets, hdocument⟩, hreadable, hmerge⟩
    have htext := Utf8.decode_eq_ok_iff.2 ⟨hscalar, hoctets⟩
    have hvalue := Json.parse_eq_ok_iff.2 ⟨raw, hdocument, hreadable, hmerge⟩
    rw [decode, htext]
    show ((Json.parse t).mapError Fault.json).bind _ = _
    rw [hvalue]
    show (Envelope.ofJson e.json).mapError Fault.envelope = _
    rw [Envelope.ofJson_json]
    rfl

end Payload

end SignedSetup
