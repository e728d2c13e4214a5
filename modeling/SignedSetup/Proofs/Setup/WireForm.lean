import SignedSetup.Config.ConfigRecord
import SignedSetup.Proofs.Setup.Sources

/-!
# Configurations and their wire form

A configuration is read from an object exactly if the object gives a text for each of the nine
fields, and else every field that it gives no text has one issue (`SystemConfig.ofJson_iff_gives`).
An object gives a field one value at most: the one under the attribute name counts only where the
wire name is not there at all. What a configuration is written as has the wire names alone, is read
back as the configuration, and so tells configurations apart. In octets a surrogate is written as
the replacement character, and two configurations have the same payload if that is all they differ
in.
-/

namespace SignedSetup

namespace SystemConfig

open Validation

/-! ## What an object gives -/

/-- The object gives the field a value under a name. -/
inductive Gives (members : List (Text × Json)) (f : ConfigField) : Text → Json → Prop where
  | byWireName {v : Json} (h : members.lookup f.wireName = some v) : Gives members f f.wireName v
  | byAttributeName {v : Json} (hwire : members.lookup f.wireName = none)
      (h : members.lookup f.attributeName = some v) : Gives members f f.attributeName v

/-- What is wrong with a field of the object: it gives no value, or one that is no text. -/
inductive IsIssue (members : List (Text × Json)) (f : ConfigField) : Issue → Prop where
  | missing (h : ∀ name v, ¬ Gives members f name v) :
      IsIssue members f ⟨.missing, [f.wireName]⟩
  | notText {name : Text} {v : Json} (h : Gives members f name v) (hv : v.text? = none) :
      IsIssue members f ⟨.notText, [name]⟩

section Reading

variable {members : List (Text × Json)} {c : SystemConfig}

theorem Gives.eq {f : ConfigField} {name name' : Text} {v v' : Json}
    (h : Gives members f name v) (h' : Gives members f name' v') : name = name' ∧ v = v' := by
  cases h with
  | byWireName h =>
    cases h' with
    | byWireName h' => exact ⟨rfl, Option.some.inj (h.symm.trans h')⟩
    | byAttributeName hwire _ => cases h.symm.trans hwire
  | byAttributeName hwire h =>
    cases h' with
    | byWireName h' => cases h'.symm.trans hwire
    | byAttributeName _ h' => exact ⟨rfl, Option.some.inj (h.symm.trans h')⟩

theorem field_eq_missing {f : ConfigField} (h : ∀ name v, ¬ Gives members f name v) :
    field members f = .error ⟨.missing, [f.wireName]⟩ := by
  cases hwire : members.lookup f.wireName with
  | some v => exact absurd (.byWireName hwire) (h _ v)
  | none =>
    cases hattribute : members.lookup f.attributeName with
    | some v => exact absurd (.byAttributeName hwire hattribute) (h _ v)
    | none => rw [field, hwire, hattribute]

theorem field_eq_of_gives {f : ConfigField} {name : Text} {v : Json} (h : Gives members f name v) :
    field members f = (text v).mapError (⟨·, [name]⟩) := by
  cases h with
  | byWireName h => rw [field, h]
  | byAttributeName hwire h => rw [field, hwire, h]

theorem text_of_text?_eq_none {v : Json} (h : v.text? = none) : text v = .error .notText := by
  cases v with
  | text t => cases h
  | _ => rfl

/-- A field is read as the text that the object gives it. -/
theorem field_eq_ok_iff {f : ConfigField} {t : Text} :
    field members f = .ok t ↔ ∃ name, Gives members f name (.text t) := by
  constructor
  · intro hread
    by_cases hgiven : ∃ name v, Gives members f name v
    · obtain ⟨name, v, h⟩ := hgiven
      rw [field_eq_of_gives h] at hread
      have htext := mapError_eq_ok hread
      cases v with
      | text t' => exact ⟨name, Except.ok.inj htext ▸ h⟩
      | _ => cases htext
    · rw [field_eq_missing fun name v h => hgiven ⟨name, v, h⟩] at hread
      cases hread
  · rintro ⟨name, h⟩
    rw [field_eq_of_gives h]
    rfl

/-- A field that is not read has an issue of its own. -/
theorem isIssue_of_field {f : ConfigField} {issue : Issue}
    (h : field members f = .error issue) : IsIssue members f issue := by
  by_cases hgiven : ∃ name v, Gives members f name v
  · obtain ⟨name, v, hv⟩ := hgiven
    rw [field_eq_of_gives hv] at h
    cases htext : v.text? with
    | some t =>
      obtain rfl : v = .text t := by
        cases v with
        | text t' => rw [Option.some.inj htext]
        | _ => cases htext
      cases h
    | none =>
      rw [text_of_text?_eq_none htext] at h
      cases h
      exact .notText hv htext
  · rw [field_eq_missing fun name v hv => hgiven ⟨name, v, hv⟩] at h
    cases h
    exact .missing fun name v hv => hgiven ⟨name, v, hv⟩

/-- An object is read as a configuration iff it gives each field the text of the configuration. -/
theorem ofMembers_eq_ok_iff :
    ofMembers members = .ok c ↔ ∀ f, ∃ name, Gives members f name (.text (c.value f)) := by
  constructor
  · exact fun h f => field_eq_ok_iff.1 (Setup.field_of_ofMembers h f)
  · exact fun h => Setup.ofMembers_of_field fun f => field_eq_ok_iff.2 (h f)

/-- A field is offending if it is not read. -/
theorem isSome_issue?_iff {f : ConfigField} :
    (issue? (field members f)).isSome = true ↔
      ¬ ∃ name t, Gives members f name (.text t) := by
  constructor
  · rintro h ⟨name, t, hgives⟩
    rw [field_eq_ok_iff.2 ⟨name, hgives⟩] at h
    cases h
  · intro h
    cases hread : field members f with
    | error issue => rfl
    | ok t => exact absurd ((field_eq_ok_iff.1 hread).imp fun name hgives => ⟨t, hgives⟩) h

/-- The issues are those of the offending fields, one for each, in the order of the fields. -/
theorem forall₂_isIssue (fields : List ConfigField) :
    List.Forall₂ (IsIssue members)
      (fields.filter fun f => (issue? (field members f)).isSome)
      (fields.filterMap fun f => issue? (field members f)) := by
  induction fields with
  | nil => exact .nil
  | cons f fields ih =>
    cases hread : field members f with
    | ok t =>
      rw [List.filter_cons_of_neg (by rw [hread]; exact Bool.false_ne_true),
        List.filterMap_cons_none (by rw [hread]; rfl)]
      exact ih
    | error issue =>
      rw [List.filter_cons_of_pos (by rw [hread]; rfl),
        List.filterMap_cons_some (b := issue) (by rw [hread]; rfl)]
      exact .cons (isIssue_of_field hread) ih

/-- An object that is not read as a configuration has issues. -/
theorem ofMembers_eq_error {f : ConfigField} (hf : ¬ ∃ name t, Gives members f name (.text t)) :
    ofMembers members = .error (issues members) := by
  have hmem : f ∈ ConfigField.all.filter fun f => (issue? (field members f)).isSome :=
    List.mem_filter.2 ⟨Setup.mem_all f, isSome_issue?_iff.2 hf⟩
  have hissues : issues members ≠ [] := by
    intro hnil
    have h : List.Forall₂ (IsIssue members) _ (issues members) := forall₂_isIssue ConfigField.all
    rw [hnil, List.forall₂_nil_right_iff] at h
    rw [h] at hmem
    cases hmem
  rw [ofMembers]
  split
  · next h => exact absurd h hissues
  · rfl

end Reading

/-! ## What a configuration is written as -/

theorem message_injective {c d : SystemConfig} (h : c.message = d.message) : c = d := by
  refine SystemConfig.ext (funext fun f => ?_)
  have hlookup := Setup.lookup_message c f
  rw [h, Setup.lookup_message d f] at hlookup
  exact (Json.text.inj (Option.some.inj hlookup)).symm

theorem ofJson_message (c : SystemConfig) : ofJson (.obj c.message) = .ok c :=
  Setup.ofMembers_of_lookup (Setup.lookup_message c)

theorem scrubbed_message (c : SystemConfig) :
    Json.mapMembers Text.scrub c.message =
      ConfigField.all.map fun f => (f.wireName, Json.text (c.value f).scrub) := rfl

/-- Configurations have the same payload iff their values are the same scrubbed. -/
theorem encode_envelope_eq_iff (c d : SystemConfig) :
    Payload.encode (Setup.envelope c.message).json =
        Payload.encode (Setup.envelope d.message).json ↔
      ∀ f, (c.value f).scrub = (d.value f).scrub := by
  have hencode (c : SystemConfig) : Payload.encode (Setup.envelope c.message).json =
      (((Setup.envelope c.message).json.mapTexts Text.scrub).render .compact).flatMap
        CodePoint.utf8 :=
    congrArg (List.flatMap CodePoint.utf8) (Json.scrub_renderAt _ 0)
  constructor
  · intro h f
    have hread (c : SystemConfig) := Setup.decode_encode_envelope
      (Json.isReadable_of_isPlain (Setup.isPlain_message c))
    have hlookup (c : SystemConfig) : (Setup.messageRead c.message).lookup f.wireName =
        some (.text (c.value f).scrub) :=
      Setup.lookup_messageRead (show (Entries.keys c.message).Nodup from Setup.nodup_wireNames)
        (Setup.lookup_message c f)
    obtain ⟨e, he, -, hemessage⟩ := hread c
    obtain ⟨e', he', -, hemessage'⟩ := hread d
    rw [h, he'] at he
    have hvalue := hlookup c
    rw [← hemessage, ← Except.ok.inj he, hemessage', hlookup d] at hvalue
    exact (Json.text.inj (Option.some.inj hvalue)).symm
  · intro h
    have hmessage :
        Json.mapMembers Text.scrub c.message = Json.mapMembers Text.scrub d.message := by
      rw [scrubbed_message, scrubbed_message]
      exact List.map_congr_left fun f _ => by rw [h f]
    rw [hencode, hencode]
    simp only [Setup.envelope, Envelope.json, Json.mapTexts, Json.mapMembers, hmessage]

/-! ## Reading and writing -/

/-- A message has the names that the envelope declares. Written by attribute or by alias, a
configuration is the same. -/
theorem keys_message (c : SystemConfig) :
    Entries.keys c.message = Setup.wireNames ∧
    (Setup.envelope c.message).types.lookup Setup.primaryTypeName =
      some (.arr (Setup.wireNames.map fun name =>
        .obj [("name", .text name), ("type", .text "string")])) ∧
    (ConfigRecord.ofConfig c).message? = some c.message ∧
    (ConfigRecord.ofConfig c).aliased = c.message :=
  ⟨rfl, rfl, rfl, rfl⟩

/-- Reading and writing configurations. An object is read iff it gives each of the nine fields a
text, surrogates or not, and then as these texts. Else each field that it gives no text has exactly
one issue, in the order of the fields, and so has a field with another value under its wire name,
whatever stands under the attribute name. What was read is written under the nine wire names in
their order, which are those that the envelope declares, with the values that were given; the same
is written by way of the record, under aliases or from its attributes, and read back. Messages tell
configurations apart. Payloads tell their values apart up to the replacement of surrogates, and
hence the configurations if no value has any. -/
theorem ofJson_iff_gives (members : List (Text × Json)) :
    (∀ c, ofJson (.obj members) = .ok c ↔
      ∀ f, ∃ name, Gives members f name (.text (c.value f))) ∧
    ((∃ c, ofJson (.obj members) = .ok c) ↔ ∀ f, ∃ name t, Gives members f name (.text t)) ∧
    ((∃ f, ¬ ∃ name t, Gives members f name (.text t)) →
      ∃ issues offending, ofJson (.obj members) = .error issues ∧
        offending.Sublist ConfigField.all ∧
        (∀ f, f ∈ offending ↔ ¬ ∃ name t, Gives members f name (.text t)) ∧
        List.Forall₂ (IsIssue members) offending issues) ∧
    (∀ (f : ConfigField) v, members.lookup f.wireName = some v → v.text? = none →
      ∃ issues, ofJson (.obj members) = .error issues ∧ ⟨.notText, [f.wireName]⟩ ∈ issues) ∧
    ∀ c, ofJson (.obj members) = .ok c →
      Entries.keys c.message = Setup.wireNames ∧
      (Setup.envelope c.message).types.lookup Setup.primaryTypeName =
        some (.arr (Setup.wireNames.map fun name =>
          .obj [("name", .text name), ("type", .text "string")])) ∧
      (∀ f name v, Gives members f name v → c.message.lookup f.wireName = some v) ∧
      (ConfigRecord.ofConfig c).message? = some c.message ∧
      (ConfigRecord.ofConfig c).aliased = c.message ∧
      ofJson (.obj c.message) = .ok c ∧
      ∀ members' d, ofJson (.obj members') = .ok d →
        (c.message = d.message → c = d) ∧
        (Payload.encode (Setup.envelope c.message).json =
            Payload.encode (Setup.envelope d.message).json ↔
          ∀ f, (c.value f).scrub = (d.value f).scrub) ∧
        ((∀ f, (c.value f).isScalar = true ∧ (d.value f).isScalar = true) →
          Payload.encode (Setup.envelope c.message).json =
            Payload.encode (Setup.envelope d.message).json → c = d) := by
  have herror {f : ConfigField} (hf : ¬ ∃ name t, Gives members f name (.text t)) :
      ofJson (.obj members) = .error (issues members) := ofMembers_eq_error hf
  refine ⟨fun c => ofMembers_eq_ok_iff, ?_, ?_, ?_, ?_⟩
  · constructor
    · rintro ⟨c, hc⟩ f
      obtain ⟨name, hname⟩ := ofMembers_eq_ok_iff.1 hc f
      exact ⟨name, _, hname⟩
    · intro h
      choose name value hgives using h
      exact ⟨⟨value⟩, ofMembers_eq_ok_iff.2 fun f => ⟨name f, hgives f⟩⟩
  · rintro ⟨f, hf⟩
    refine ⟨issues members, _, herror hf, List.filter_sublist, fun f => ?_,
      forall₂_isIssue ConfigField.all⟩
    rw [List.mem_filter, isSome_issue?_iff]
    exact and_iff_right (Setup.mem_all f)
  · intro f v hv hvalue
    have hf : ¬ ∃ name t, Gives members f name (.text t) := by
      rintro ⟨name, t, h⟩
      rw [(h.eq (.byWireName hv)).2.symm] at hvalue
      cases hvalue
    refine ⟨issues members, herror hf, List.mem_filterMap.2 ⟨f, Setup.mem_all f, ?_⟩⟩
    rw [field_eq_of_gives (.byWireName hv), text_of_text?_eq_none hvalue]
    rfl
  · intro c hc
    obtain ⟨hkeys, hdeclared, hmessage, haliased⟩ := keys_message c
    refine ⟨hkeys, hdeclared, fun f name v hv => ?_, hmessage, haliased, ofJson_message c,
      fun members' d hd => ⟨message_injective, encode_envelope_eq_iff c d, fun hscalar h => ?_⟩⟩
    · obtain ⟨name', htext⟩ := ofMembers_eq_ok_iff.1 hc f
      rw [Setup.lookup_message, (hv.eq htext).2]
    · refine SystemConfig.ext (funext fun f => ?_)
      have hscrub := (encode_envelope_eq_iff c d).1 h f
      rwa [Text.scrub_eq_self (hscalar f).1, Text.scrub_eq_self (hscalar f).2] at hscrub

/-- An object that gives the first field under its attribute name and the last one under both, with
a surrogate among the texts and a key that names nothing. -/
def mixedObject : List (Text × Json) :=
  (Text.ofString "note", .null) :: (ConfigField.minGcOffset.attributeName, .int 1) ::
    (ConfigField.rollupInterval.attributeName, .text [0xDC00]) ::
    ConfigField.all.tail.map fun f => (f.wireName, .text "1")

/-- An object with a text for each attribute name and a number for one wire name. -/
def shadowedObject : List (Text × Json) :=
  (ConfigField.minGcOffset.wireName, .int 1) :: Setup.sampleConfig.attributes

/-- The one object is read, surrogate included; the other one has an issue with the number. -/
theorem ofJson_iff_gives_mixedObject :
    (∃ c, ofJson (.obj mixedObject) = .ok c ∧
      c.message.lookup ConfigField.rollupInterval.wireName = some (.text [0xDC00])) ∧
    ∃ issues, ofJson (.obj shadowedObject) = .error issues ∧
      ⟨.notText, [ConfigField.minGcOffset.wireName]⟩ ∈ issues := by
  obtain ⟨-, hread, -, -, hwritten⟩ := ofJson_iff_gives mixedObject
  have hgives : ∀ f, ∃ name t, Gives mixedObject f name (.text t) := by
    intro f
    cases f with
    | rollupInterval => exact ⟨_, _, .byAttributeName rfl rfl⟩
    | _ => exact ⟨_, _, .byWireName rfl⟩
  obtain ⟨c, hc⟩ := hread.2 hgives
  obtain ⟨-, -, hlookup, -⟩ := hwritten c hc
  refine ⟨⟨c, hc, hlookup _ _ _ (.byAttributeName rfl rfl)⟩, ?_⟩
  exact (ofJson_iff_gives shadowedObject).2.2.2.1 .minGcOffset (.int 1) rfl rfl

/-- A configuration with a replacement character where another one has a surrogate. -/
def replacedConfig : SystemConfig := ⟨fun f => (Setup.surrogateConfig.value f).scrub⟩

/-- An object with a surrogate under a wire name is read, and the configuration is not the only one
with its payload. -/
theorem encode_surrogateConfig :
    Setup.surrogateConfig.message.lookup ConfigField.arNodeUrl.wireName =
      some (.text [0xD800]) ∧
    ofJson (.obj Setup.surrogateConfig.message) = .ok Setup.surrogateConfig ∧
    ofJson (.obj replacedConfig.message) = .ok replacedConfig ∧
    Payload.encode (Setup.envelope Setup.surrogateConfig.message).json =
      Payload.encode (Setup.envelope replacedConfig.message).json ∧
    Setup.surrogateConfig ≠ replacedConfig := by
  refine ⟨rfl, ofJson_message _, ofJson_message _, (encode_envelope_eq_iff _ _).2 fun f => ?_,
    fun h => ?_⟩
  · exact (Text.scrub_eq_self (Text.isScalar_scrub _)).symm
  · have hvalue : Setup.surrogateConfig.value .arNodeUrl = replacedConfig.value .arNodeUrl := by
      rw [h]
    exact absurd hvalue (by decide)

end SystemConfig

end SignedSetup
