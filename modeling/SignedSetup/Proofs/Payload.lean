import SignedSetup.Payload
import SignedSetup.Proofs.Json.Writing

/-!
# What is read back from a payload

A payload is written from an envelope and read by whoever is handed it. The replacement of
surrogates is done to the written text as a whole, yet it comes to the same as scrubbing the value
(`decode_encode`): escapes are ASCII and pass unchanged, and a reader merges the members whose keys
the replacement has made equal. An envelope without surrogates therefore is read as it was.
-/

namespace SignedSetup

/-! ## Scrubbing what is written -/

namespace Json

theorem isScalar_unitEscape {n : Nat} (h : n < 0x10000) : (unitEscape n).isScalar = true := by
  have hdigit (m : Nat) : (Hex.digit (m % 16)).isSurrogate = false := by
    have : ∀ d : Fin 16, (Hex.digit d.val).isSurrogate = false := by decide
    exact this ⟨m % 16, Nat.mod_lt m (by decide)⟩
  have hfirst : n / 0x1000 = n / 0x1000 % 16 := by omega
  rw [unitEscape, Hex.numeral_four h, hfirst]
  show Text.isScalar (CodePoint.ofChar '\\' :: CodePoint.ofChar 'u' :: _) = true
  simp [hdigit, show (CodePoint.ofChar '\\').isSurrogate = false by decide,
    show (CodePoint.ofChar 'u').isSurrogate = false by decide]

/-- An escape is ASCII; a character that is written as it is can be a surrogate. -/
theorem scrub_escapeChar (c : CodePoint) :
    Text.scrub (escapeChar false c) = escapeChar false c.scrub := by
  cases hlookup : shortEscapes.lookup c with
  | some e =>
    have hshort : shortEscapes.all fun ce =>
        Text.scrub (escapeChar false ce.1) = escapeChar false ce.1.scrub := by decide
    obtain ⟨_, _, hmem, -⟩ := List.lookup_eq_some_iff.1 hlookup
    exact of_decide_eq_true (List.all_eq_true.1 hshort (c, e) (by rw [hmem]; simp))
  | none =>
    rw [escapeChar_of_lookup_eq_none hlookup]
    by_cases hs : c.isSurrogate = true
    · have hrange : 0xD800 ≤ c.val ∧ c.val < 0xE000 := by simpa [CodePoint.isSurrogate] using hs
      rw [if_neg (by omega), CodePoint.scrub, if_pos hs]
      show Text.scrub [c] = [CodePoint.replacement]
      rw [Text.scrub, List.map_singleton, CodePoint.scrub, if_pos hs]
    · rw [Bool.not_eq_true] at hs
      rw [CodePoint.scrub_of_not_isSurrogate hs, escapeChar_of_lookup_eq_none hlookup]
      split
      · exact Text.scrub_eq_self (isScalar_unitEscape (by omega))
      · exact Text.scrub_eq_self (by simp [hs])

theorem scrub_renderText (t : Text) :
    Text.scrub (renderText false t) = renderText false t.scrub := by
  have hflat : Text.scrub (t.flatMap (escapeChar false)) = t.scrub.flatMap (escapeChar false) := by
    induction t with
    | nil => rfl
    | cons c t ih =>
      rw [List.flatMap_cons, Text.scrub_append, ih, scrub_escapeChar]
      rfl
  have hquote : Text.scrub [CodePoint.ofChar '"'] = [CodePoint.ofChar '"'] := rfl
  show Text.scrub ([CodePoint.ofChar '"'] ++ _ ++ [CodePoint.ofChar '"']) =
    [CodePoint.ofChar '"'] ++ _ ++ [CodePoint.ofChar '"']
  rw [Text.scrub_append, Text.scrub_append, hflat, hquote]

/-- A number is written in ASCII. -/
theorem SpellsNumber.isScalar {v : Json} {t : Text} (h : SpellsNumber v t) : t.isScalar = true := by
  rw [Text.isScalar, List.all_eq_true]
  intro c hc
  have hrange := val_of_isNumeric (List.all_eq_true.1 h.all_isNumeric c hc)
  have hlow : ¬ 0xD800 ≤ c.val := by omega
  rw [CodePoint.isSurrogate, decide_eq_false hlow]
  rfl

theorem isScalar_jsonText (x : Double) : x.jsonText.isScalar = true := by
  cases x with
  | nan => rfl
  | infinite negative => cases negative <;> rfl
  | finite negative significand exponent =>
    obtain ⟨y, hy⟩ := Double.spellsNumber_finiteText negative significand exponent
    exact hy.isScalar

theorem ascii_compact : Style.compact.ascii = false := rfl

mutual

/-- The written form of a value becomes that of the value with its texts scrubbed. -/
theorem scrub_renderAt : ∀ (v : Json) (depth : Nat),
    Text.scrub (renderAt .compact depth v) = renderAt .compact depth (v.mapTexts Text.scrub)
  | .null, _ => rfl
  | .bool true, _ => rfl
  | .bool false, _ => rfl
  | .int n, _ => Text.scrub_eq_self (spellsNumber_ofInt n).isScalar
  | .float x, _ => Text.scrub_eq_self (isScalar_jsonText x)
  | .text t, _ => scrub_renderText t
  | .arr [], _ => rfl
  | .arr (item :: items), depth => by
    rw [mapTexts, mapItems]
    simp only [renderAt, Text.scrub_append, scrub_renderAt item, scrub_renderItems items]
    rfl
  | .obj [], _ => rfl
  | .obj ((key, v) :: members), depth => by
    rw [mapTexts, mapMembers]
    simp only [renderAt, Text.scrub_append, ascii_compact, scrub_renderText, scrub_renderAt v,
      scrub_renderMembers members]
    rfl
termination_by structural v => v

theorem scrub_renderItems : ∀ (items : List Json) (depth : Nat),
    Text.scrub (renderItems .compact depth items) =
      renderItems .compact depth (mapItems Text.scrub items)
  | [], _ => rfl
  | item :: items, depth => by
    rw [mapItems]
    simp only [renderItems, Text.scrub_append, scrub_renderAt item, scrub_renderItems items]
    rfl
termination_by structural vs => vs

theorem scrub_renderMembers : ∀ (members : List (Text × Json)) (depth : Nat),
    Text.scrub (renderMembers .compact depth members) =
      renderMembers .compact depth (mapMembers Text.scrub members)
  | [], _ => rfl
  | (key, v) :: members, depth => by
    rw [mapMembers]
    simp only [renderMembers, Text.scrub_append, ascii_compact, scrub_renderText, scrub_renderAt v,
      scrub_renderMembers members]
    rfl
termination_by structural ms => ms

end

theorem isReadable_of_isPlain {v : Json} (h : v.isPlain = true) : v.isReadable = true :=
  all_mono (fun v hv => by cases v <;> first | exact hv | rfl) v h

/-- What is read of a written value is the value scrubbed, its doubles reread. -/
theorem parse_scrub_render {v : Json} (hv : v.isReadable = true) :
    parse (v.render .compact).scrub = .ok v.scrub.reread := by
  have hscrub : (v.render .compact).scrub = (v.mapTexts Text.scrub).render .compact :=
    scrub_renderAt v 0
  have hreadable : (v.mapTexts Text.scrub).isReadable = true :=
    all_mapTexts (fun v hv => by cases v <;> exact hv) v hv
  have hparse := parse_render_append Style.isReadable_compact hreadable nofun (rfl : IsBlanks [])
  rwa [List.append_nil, merge_reread, ← scrub_eq_merge, ← hscrub] at hparse

end Json

/-! ## Members under ASCII keys -/

theorem Text.scrub_eq_iff {k : Text} (hk : k.isAscii = true) (t : Text) : t.scrub = k ↔ t = k := by
  induction t generalizing k with
  | nil => rfl
  | cons c t ih =>
    cases k with
    | nil => exact ⟨nofun, nofun⟩
    | cons d k =>
      rw [Text.isAscii, List.all_cons, Bool.and_eq_true] at hk
      have hd : d.val < 0x80 := of_decide_eq_true hk.1
      have hc : c.scrub = d ↔ c = d := by
        by_cases hs : c.isSurrogate = true
        · have hrange : 0xD800 ≤ c.val ∧ c.val < 0xE000 := by simpa [CodePoint.isSurrogate] using hs
          rw [CodePoint.scrub, if_pos hs]
          constructor
          · rintro rfl
            exact absurd hd (by decide)
          · rintro rfl
            omega
        · rw [CodePoint.scrub_of_not_isSurrogate (Bool.eq_false_iff.2 hs)]
      show (c.scrub :: Text.scrub t = d :: k) ↔ _
      rw [List.cons.injEq, List.cons.injEq, hc, ih hk.2]

namespace Json

theorem scrubMembers_eq_map (members : List (Text × Json)) :
    scrubMembers members = members.map fun m => (m.1.scrub, m.2.scrub) := by
  induction members with
  | nil => rfl
  | cons member members ih => rw [List.map_cons, ← ih, scrubMembers]

/-- An ASCII key is no other key scrubbed, so its value is found where it was. -/
theorem lookup_ofList_scrubMembers {members : List (Text × Json)}
    (h : (Entries.keys members).Nodup) {k : Text} (hk : k.isAscii = true) :
    (Entries.ofList (scrubMembers members)).lookup k = (members.lookup k).map scrub := by
  have hlookup (ms : List (Text × Json)) :
      (ms.map fun m => (m.1.scrub, m.2.scrub)).lookup k = (ms.lookup k).map scrub := by
    induction ms with
    | nil => rfl
    | cons m ms ih =>
      have hkey : (k == m.1.scrub) = (k == m.1) := by
        rw [Bool.eq_iff_iff, beq_iff_eq, beq_iff_eq, eq_comm, Text.scrub_eq_iff hk, eq_comm]
      rw [List.map_cons, List.lookup_cons, List.lookup_cons, hkey, ih]
      cases k == m.1 <;> rfl
  rw [Entries.lookup_ofList, scrubMembers_eq_map, ← List.map_reverse, hlookup,
    Entries.lookup_reverse h]

end Json

namespace Envelope

theorem objectMember_eq_ok {members ms : List (Text × Json)} {member : EnvelopeMember}
    (h : members.lookup member.key = some (.obj ms)) :
    objectMember members member = .ok ⟨ms, h⟩ := by
  unfold objectMember
  revert h
  generalize members.lookup member.key = v
  rintro rfl
  rfl

theorem textMember_eq_ok {members : List (Text × Json)} {t : Text} {member : EnvelopeMember}
    (h : members.lookup member.key = some (.text t)) :
    textMember members member = .ok ⟨t, h⟩ := by
  unfold textMember
  revert h
  generalize members.lookup member.key = v
  rintro rfl
  rfl

/-- An envelope is the one that its members make. -/
theorem ofJson_json (e : Envelope) : ofJson e.json = .ok e := by
  rw [json, ofJson, ofMembers, objectMember_eq_ok e.lookup_types,
    textMember_eq_ok e.lookup_primaryType, objectMember_eq_ok e.lookup_domain,
    objectMember_eq_ok e.lookup_message]
  rfl

theorem eq_of_json_eq {e f : Envelope} (h : e.json = f.json) : e = f := by
  have hok : Except.ok (ε := Fault) e = .ok f := by rw [← ofJson_json e, h, ofJson_json f]
  exact Except.ok.inj hok

/-- The envelope with each of its texts scrubbed. -/
def scrub (e : Envelope) (h : (Entries.keys e.members).Nodup) : Envelope where
  members := Entries.ofList (Json.scrubMembers e.members)
  types := Entries.ofList (Json.scrubMembers e.types)
  primaryType := e.primaryType.scrub
  domain := Entries.ofList (Json.scrubMembers e.domain)
  message := Entries.ofList (Json.scrubMembers e.message)
  lookup_types := by
    rw [Json.lookup_ofList_scrubMembers h (by decide), e.lookup_types, Option.map_some, Json.scrub]
  lookup_primaryType := by
    rw [Json.lookup_ofList_scrubMembers h (by decide), e.lookup_primaryType, Option.map_some,
      Json.scrub]
  lookup_domain := by
    rw [Json.lookup_ofList_scrubMembers h (by decide), e.lookup_domain, Option.map_some, Json.scrub]
  lookup_message := by
    rw [Json.lookup_ofList_scrubMembers h (by decide), e.lookup_message, Option.map_some,
      Json.scrub]

@[simp]
theorem json_scrub (e : Envelope) (h : (Entries.keys e.members).Nodup) :
    (e.scrub h).json = e.json.scrub := by
  rw [json, json, Json.scrub]
  rfl

/-- The envelope with each of its doubles reread. -/
def reread (e : Envelope) : Envelope where
  members := Json.rereadMembers e.members
  types := Json.rereadMembers e.types
  primaryType := e.primaryType
  domain := Json.rereadMembers e.domain
  message := Json.rereadMembers e.message
  lookup_types := by rw [Json.lookup_rereadMembers, e.lookup_types, Option.map_some, Json.reread]
  lookup_primaryType := by
    rw [Json.lookup_rereadMembers, e.lookup_primaryType, Option.map_some, Json.reread]
  lookup_domain := by rw [Json.lookup_rereadMembers, e.lookup_domain, Option.map_some, Json.reread]
  lookup_message := by
    rw [Json.lookup_rereadMembers, e.lookup_message, Option.map_some, Json.reread]

@[simp]
theorem json_reread (e : Envelope) : e.reread.json = e.json.reread := by
  rw [json, json, Json.reread]
  rfl

theorem nodup_keys_of_isPlain {e : Envelope} (h : e.json.isPlain = true) :
    (Entries.keys e.members).Nodup :=
  Json.nodup_keys_of_isPlainNode e.members (Json.all_self h)

end Envelope

namespace Payload

/-- What is read of a written envelope is the envelope scrubbed, its doubles reread. -/
theorem decode_encode_eq_reread {e : Envelope} (h : e.json.isReadable = true)
    (hkeys : (Entries.keys e.members).Nodup) :
    decode (encode e.json) = .ok (e.scrub hkeys).reread := by
  rw [decode, encode, Utf8.decode_utf8]
  show ((Json.parse (e.json.render .compact).scrub).mapError Fault.json).bind _ = _
  rw [Json.parse_scrub_render h, ← Envelope.json_scrub e hkeys, ← Envelope.json_reread]
  show (Envelope.ofJson _).mapError Fault.envelope = _
  rw [Envelope.ofJson_json]
  rfl

/-- A plain envelope is read as the envelope scrubbed. -/
theorem decode_encode_eq_scrub {e : Envelope} (h : e.json.isPlain = true) :
    decode (encode e.json) = .ok (e.scrub (Envelope.nodup_keys_of_isPlain h)) := by
  have hexact : (e.json.mapTexts Text.scrub).isExact = true :=
    Json.all_mapTexts (fun v hv => by cases v <;> first | rfl | cases hv) e.json h
  have hreread : e.json.scrub.reread = e.json.scrub := by
    rw [Json.scrub_eq_merge, ← Json.merge_reread, Json.reread_eq_self _ hexact]
  have heq : (e.scrub (Envelope.nodup_keys_of_isPlain h)).reread =
      e.scrub (Envelope.nodup_keys_of_isPlain h) := by
    apply Envelope.eq_of_json_eq
    rw [Envelope.json_reread, Envelope.json_scrub, hreread]
  rw [decode_encode_eq_reread (Json.isReadable_of_isPlain h) (Envelope.nodup_keys_of_isPlain h),
    heq]

/-- A plain envelope without surrogates is read as it was written. -/
theorem decode_encode_of_isScalar {e : Envelope} (h : e.json.isPlain = true)
    (hs : e.json.isScalar = true) : decode (encode e.json) = .ok e := by
  have heq : e.scrub (Envelope.nodup_keys_of_isPlain h) = e := by
    apply Envelope.eq_of_json_eq
    rw [Envelope.json_scrub, Json.scrub_eq_self h hs]
  rw [decode_encode_eq_scrub h, heq]

theorem encode_isValidUTF8 (v : Json) : (encode v).toByteArray.IsValidUTF8 := by
  rw [encode, Utf8.utf8_toByteArray]
  exact String.isValidUTF8 _

/-- The codec of payloads. Whatever plain values an envelope holds, its octets are UTF-8 and are
read as the envelope scrubbed. Without surrogates nothing is lost: the envelope itself is read, no
other such envelope has the same octets, and writing what was read gives them again. -/
theorem decode_encode (e : Envelope) (h : e.json.isPlain = true) :
    (encode e.json).toByteArray.IsValidUTF8 ∧
    (∃ e', decode (encode e.json) = .ok e' ∧ e'.json = e.json.scrub) ∧
    (e.json.isScalar = true →
      decode (encode e.json) = .ok e ∧
      (∀ f : Envelope, f.json.isPlain = true → f.json.isScalar = true →
        encode f.json = encode e.json → f = e) ∧
      ∀ e', decode (encode e.json) = .ok e' → encode e'.json = encode e.json) := by
  refine ⟨encode_isValidUTF8 e.json, ⟨_, decode_encode_eq_scrub h, Envelope.json_scrub e _⟩, ?_⟩
  intro hs
  have he := decode_encode_of_isScalar h hs
  refine ⟨he, ?_, ?_⟩
  · intro f hf hfs heq
    have hfe := decode_encode_of_isScalar hf hfs
    rw [heq, he] at hfe
    exact (Except.ok.inj hfe).symm
  · intro e' he'
    rw [he] at he'
    rw [← Except.ok.inj he']

/-- An envelope with the given message and nothing declared. -/
def bare (message : List (Text × Json)) : Envelope where
  members := [("types", .obj []), ("primaryType", .text []), ("domain", .obj []),
    ("message", .obj message)]
  types := []
  primaryType := []
  domain := []
  message := message
  lookup_types := rfl
  lookup_primaryType := rfl
  lookup_domain := rfl
  lookup_message := rfl

/-- Two keys that differ in a surrogate alone are one key to the reader, at the place of the first
and with the value of the last. -/
theorem decode_encode_surrogate_keys :
    ∃ e, decode (encode (bare
        [([0xD800], .text "a"), ("k", .null), ([0xDFFF], .text "b")]).json) = .ok e ∧
      e.json = (bare [([0xFFFD], .text "b"), ("k", .null)]).json := by
  obtain ⟨-, ⟨e, he, hjson⟩, -⟩ := decode_encode
    (bare [([0xD800], .text "a"), ("k", .null), ([0xDFFF], .text "b")]) (by decide)
  exact ⟨e, he, hjson⟩

end Payload

end SignedSetup
