import SignedSetup.Number.Decimal

/-!
# Hexadecimal octets

Octets are written as two lower-case digits each. They are read with either case and with ASCII
blanks before, between and after the pairs, never inside one.
-/

namespace SignedSetup.Hex

/-- The lower-case digit of a number below 16. -/
def digit (n : Nat) : CodePoint :=
  CodePoint.ofNat (if n < 10 then 0x30 + n else 0x57 + n)

/-- The value of a digit in either case. -/
def digit? (c : CodePoint) : Option Nat :=
  let n := c.val
  if 0x30 ≤ n && n ≤ 0x39 then some (n - 0x30)
  else if 0x41 ≤ n && n ≤ 0x46 then some (n - 0x37)
  else if 0x61 ≤ n && n ≤ 0x66 then some (n - 0x57)
  else none

/-- A hexadecimal digit. -/
def isDigit (c : CodePoint) : Bool := (digit? c).isSome

/-- The two digits of an octet. -/
def ofByte (b : UInt8) : Text := [digit (b.toNat / 16), digit (b.toNat % 16)]

/-- The digits of octets. -/
def ofBytes (bytes : Bytes) : Text := bytes.flatMap ofByte

/-- The number that digits spell; other characters count as zero. -/
def value (digits : Text) : Nat :=
  digits.foldl (fun acc c => 16 * acc + (digit? c).getD 0) 0

/-- The shortest lower-case numeral of a number. -/
def ofNat (n : Nat) : Text :=
  if n < 16 then [digit n] else ofNat (n / 16) ++ [digit (n % 16)]

/-- The shortest lower-case numeral of a number, filled up with zeros to a given width. -/
def numeral (width n : Nat) : Text :=
  List.replicate (width - (ofNat n).length) (digit 0) ++ ofNat n

/-- A blank that may stand around pairs. -/
def isBlank (c : CodePoint) : Bool := c.val = 0x20 || (0x09 ≤ c.val && c.val ≤ 0x0D)

/-- The first character that cannot stand where it stands, by its offset. -/
structure Fault where
  offset : Nat
deriving DecidableEq

/-- What is said of a text that is not hexadecimal. -/
def Fault.message (e : Fault) : Text :=
  "non-hexadecimal number found in fromhex() arg at position " ++ Decimal.ofNat e.offset

/-- Read pairs of digits that follow `offset` characters. A pair that breaks off is a fault at the
place where its second digit should stand. -/
def pairs (offset : Nat) : Text → Except Fault Bytes
  | [] => .ok []
  | c :: rest =>
    if isBlank c then pairs (offset + 1) rest
    else
      match digit? c, rest with
      | none, _ => .error ⟨offset⟩
      | some _, [] => .error ⟨offset + 1⟩
      | some high, d :: rest =>
        match digit? d with
        | none => .error ⟨offset + 1⟩
        | some low => (pairs (offset + 2) rest).map (UInt8.ofNat (16 * high + low) :: ·)

/-- The octets that a text spells. A character outside ASCII is a fault that comes before all
others. -/
def read (t : Text) : Except Fault Bytes :=
  match t.findIdx? fun c => !c.isAscii with
  | some offset => .error ⟨offset⟩
  | none => pairs 0 t

/-- The octets of digits without blanks, two for each. -/
def readExact? : Text → Option Bytes
  | [] => some []
  | [_] => none
  | c :: d :: rest => do
    let high ← digit? c
    let low ← digit? d
    let bytes ← readExact? rest
    return UInt8.ofNat (16 * high + low) :: bytes

/-! ## Writing and reading back -/

theorem digit?_digit {n : Nat} (h : n < 16) : digit? (digit n) = some n := by
  have : ∀ n : Fin 16, digit? (digit n.val) = some n.val := by decide
  exact this ⟨n, h⟩

theorem isBlank_digit {n : Nat} (h : n < 16) : isBlank (digit n) = false := by
  have : ∀ n : Fin 16, isBlank (digit n.val) = false := by decide
  exact this ⟨n, h⟩

theorem isAscii_digit {n : Nat} (h : n < 16) : (digit n).isAscii = true := by
  have : ∀ n : Fin 16, (digit n.val).isAscii = true := by decide
  exact this ⟨n, h⟩

theorem ofNat_digits (b : UInt8) : UInt8.ofNat (16 * (b.toNat / 16) + b.toNat % 16) = b := by
  rw [Nat.div_add_mod, UInt8.ofNat_toNat]

theorem high_lt (b : UInt8) : b.toNat / 16 < 16 := by
  have := b.toNat_lt
  omega

theorem low_lt (b : UInt8) : b.toNat % 16 < 16 := Nat.mod_lt _ (by decide)

theorem ofBytes_cons (b : UInt8) (rest : Bytes) :
    ofBytes (b :: rest) = digit (b.toNat / 16) :: digit (b.toNat % 16) :: ofBytes rest := rfl

theorem isAscii_of_mem_ofBytes {bytes : Bytes} {c : CodePoint} (h : c ∈ ofBytes bytes) :
    c.isAscii = true := by
  obtain ⟨b, -, hc⟩ := List.mem_flatMap.1 h
  rcases List.mem_cons.1 hc with rfl | hc
  · exact isAscii_digit (high_lt b)
  · obtain rfl := List.mem_singleton.1 hc
    exact isAscii_digit (low_lt b)

theorem pairs_ofBytes (bytes : Bytes) (offset : Nat) :
    pairs offset (ofBytes bytes) = .ok bytes := by
  induction bytes generalizing offset with
  | nil => rfl
  | cons b rest ih =>
    rw [ofBytes_cons, pairs.eq_def]
    simp only [isBlank_digit (high_lt b), digit?_digit (high_lt b), digit?_digit (low_lt b),
      Bool.false_eq_true, if_false]
    rw [ih, ofNat_digits]
    rfl

@[simp]
theorem read_ofBytes (bytes : Bytes) : read (ofBytes bytes) = .ok bytes := by
  have h : (ofBytes bytes).findIdx? (fun c => !c.isAscii) = none := by
    rw [List.findIdx?_eq_none_iff]
    intro c hc
    simp [isAscii_of_mem_ofBytes hc]
  rw [read, h]
  exact pairs_ofBytes bytes 0

@[simp]
theorem readExact?_ofBytes (bytes : Bytes) : readExact? (ofBytes bytes) = some bytes := by
  induction bytes with
  | nil => rfl
  | cons b rest ih =>
    rw [ofBytes_cons, readExact?, digit?_digit (high_lt b), digit?_digit (low_lt b), ih]
    exact congrArg (fun x => some (x :: rest)) (ofNat_digits b)

end SignedSetup.Hex
