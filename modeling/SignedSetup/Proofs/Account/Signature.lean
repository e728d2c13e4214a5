import SignedSetup.Account.Signature

/-!
# Signatures are read as they were made

A signature is handed on as 65 octets in hexadecimal. What the curve gave for it, two numbers below
the order and a bit, is read from these octets again (`signer_sign`): what a node recovers from a
signature is what the curve recovers.
-/

namespace SignedSetup

namespace Curve.Ecdsa

theorem signWith_lt_order (key : Nat) (digest : Bytes) (secret : Nat) :
    (signWith key digest secret).r < order ∧ (signWith key digest secret).s < order := by
  unfold signWith
  generalize ((Point.generator.multiple secret).affine?).getD (0, 0) = point
  obtain ⟨x, y⟩ := point
  dsimp only
  split
  · exact ⟨Fin.isLt _, Fin.isLt _⟩
  · refine ⟨Fin.isLt _, ?_⟩
    dsimp only
    exact Fin.isLt _

/-- The numbers of a signature are below the order of the curve, whichever candidate made it. -/
theorem sign_lt_order (key : Nat) (digest : Bytes) :
    (sign key digest).r < order ∧ (sign key digest).s < order := by
  suffices h : ∀ (count : Nat) (d : Drawing),
      (signFrom key digest d count).r < order ∧ (signFrom key digest d count).s < order from
    h 64 (Drawing.start key digest)
  intro count
  induction count with
  | zero => exact fun d => signWith_lt_order key digest 1
  | succ count ih =>
    intro d
    unfold signFrom
    dsimp only
    split
    · exact ih d.next.2
    · split
      · exact ih d.next.2
      · exact signWith_lt_order key digest d.next.1

/-- Recovery in steps: the point that the signature names, and the key that it leads to. -/
theorem recover_eq_ok {digest : Bytes} {raw : RawSignature} {point : Point}
    {key : Coordinate × Coordinate}
    (hpoint : Point.lift? (Fin.ofNat prime raw.r) raw.odd = some point)
    (hr : Fin.ofNat order raw.r ≠ 0) (hs : Fin.ofNat order raw.s ≠ 0)
    (hkey : ((Point.generator.multiple (-scalarOfDigest digest).val +
      point.multiple (Fin.ofNat order raw.s).val).multiple
        (Modular.inverse (Fin.ofNat order raw.r)).val).affine? = some key) :
    recover digest raw = .ok key := by
  simp only [recover, hpoint, hr, hs, hkey, decide_false, Bool.or_self, Bool.false_eq_true,
    if_false]

end Curve.Ecdsa

/-- An address is read as it was written. -/
theorem Address.ofText?_ofBytes (a : Address) :
    Address.ofText? ("0x" ++ Hex.ofBytes a.bytes) = some a := by
  have hdrop : Address.dropHexPrefix ("0x" ++ Hex.ofBytes a.bytes) = Hex.ofBytes a.bytes := rfl
  rw [Address.ofText?, hdrop, Hex.readExact?_ofBytes]
  exact dif_pos a.length_bytes

namespace Signature

/-- A signature is read as it was written. -/
theorem ofText_text (s : Signature) : ofText s.text = .ok s := by
  have hdrop : Address.dropHexPrefix s.text = Hex.ofBytes s.bytes := rfl
  rw [ofText, hdrop, Hex.read_ofBytes]
  exact dif_pos s.length_bytes

variable {raw : Curve.RawSignature}

theorem r_ofRaw (h : raw.r < Curve.order) : (ofRaw raw).r = raw.r := by
  have hbytes : (ofRaw raw).bytes.take 32 = BigEndian.ofNat 32 raw.r := by
    show (BigEndian.ofNat 32 raw.r ++ BigEndian.ofNat 32 raw.s ++ [_]).take 32 = _
    rw [List.append_assoc, List.take_left' (BigEndian.length_ofNat 32 raw.r)]
  rw [r, hbytes, BigEndian.value_ofNat]
  exact Nat.mod_eq_of_lt (Nat.lt_trans h (by decide))

theorem s_ofRaw (h : raw.s < Curve.order) : (ofRaw raw).s = raw.s := by
  have hbytes : ((ofRaw raw).bytes.drop 32).take 32 = BigEndian.ofNat 32 raw.s := by
    show ((BigEndian.ofNat 32 raw.r ++ BigEndian.ofNat 32 raw.s ++ [_]).drop 32).take 32 = _
    rw [List.append_assoc, List.drop_left' (BigEndian.length_ofNat 32 raw.r),
      List.take_left' (BigEndian.length_ofNat 32 raw.s)]
  rw [Signature.s, hbytes, BigEndian.value_ofNat]
  exact Nat.mod_eq_of_lt (Nat.lt_trans h (by decide))

theorem oddOfMark?_ofRaw (raw : Curve.RawSignature) :
    oddOfMark? (ofRaw raw).mark = some raw.odd := by
  have hbytes : (ofRaw raw).bytes.drop 64 = [if raw.odd then 28 else 27] :=
    List.drop_left' (by simp)
  rw [mark, hbytes]
  cases raw.odd <;> rfl

/-- The signer is whom the curve recovers. -/
theorem signer_ofRaw (hr : raw.r < Curve.order) (hs : raw.s < Curve.order) (digest : Bytes) :
    (ofRaw raw).signer digest =
      match Curve.Ecdsa.recover digest raw with
      | .error e => .error (.curve e)
      | .ok point => .ok (Address.ofPublicKey point.1 point.2) := by
  rw [signer, oddOfMark?_ofRaw, r_ofRaw hr, s_ofRaw hs]
  dsimp only
  rw [if_neg (Nat.not_le_of_lt hr), if_neg (Nat.not_le_of_lt hs)]
  obtain ⟨r, s, odd⟩ := raw
  cases Curve.Ecdsa.recover digest ⟨r, s, odd⟩ <;> rfl

end Signature

namespace PrivateKey

/-- The coordinates of the key's public key. -/
def coordinates (key : PrivateKey) : Curve.Coordinate × Curve.Coordinate :=
  ((Curve.Ecdsa.publicKey key.value).affine?).getD (0, 0)

theorem address_eq (key : PrivateKey) :
    key.address = Address.ofPublicKey key.coordinates.1 key.coordinates.2 := by
  unfold address coordinates
  generalize ((Curve.Ecdsa.publicKey key.value).affine?).getD (0, 0) = point
  obtain ⟨x, y⟩ := point
  rfl

/-- The curve recovers the key's public key from the signature that it makes of a digest. -/
def Recovers (key : PrivateKey) (digest : Bytes) : Prop :=
  Curve.Ecdsa.recover digest (Curve.Ecdsa.sign key.value digest) = .ok key.coordinates

/-- What signs a digest is the account of the key, if the curve recovers its public key. -/
theorem signer_sign {key : PrivateKey} {digest : Bytes} (h : key.Recovers digest) :
    (Signature.sign key digest).signer digest = .ok key.address := by
  obtain ⟨hr, hs⟩ := Curve.Ecdsa.sign_lt_order key.value digest
  unfold Recovers at h
  rw [Signature.sign, Signature.signer_ofRaw hr hs, h, address_eq]

end PrivateKey

end SignedSetup
