import SignedSetup.Proofs.Json.NumberReading
import SignedSetup.Proofs.Text.Utf8
import SignedSetup.Proofs.TypedData.Coverage

/-!
# Types with a size in their name

The name of a type is read as a base and the number behind it (`ofText?_sized`). A number of too
many digits is a fault of its own, whatever the base is, and it can be met in an envelope that
declares it behind the name of an atomic type, where the search for dependencies does not look at
it (`digest_sizedEnvelope`).
-/

namespace SignedSetup

theorem Decimal.isAscii_of_isDigit {c : CodePoint} (h : isDigit c = true) :
    c.isAscii = true := by
  unfold isDigit digit? at h
  split at h
  · next hc =>
    simp only [Bool.and_eq_true, decide_eq_true_eq] at hc
    have hlt : c.val < 0x80 := by omega
    exact decide_eq_true hlt
  · cases h

namespace TypedData

/-- A numeral of a positive number: digits of which the first is no zero. -/
structure IsPositive (digits : Text) : Prop where
  isDigits : Json.IsDigits digits
  head_ne : digits.head? ≠ some (CodePoint.ofChar '0')

/-! ## Reading -/

namespace TypeExpression

theorem number?_isPositive {digits : Text} (h : IsPositive digits) :
    number? digits = some (Decimal.value digits, []) := by
  have hrun : digits.takeWhile Decimal.isDigit = digits :=
    List.takeWhile_eq_self_iff.2 h.isDigits.2
  have hempty : digits.isEmpty = false := List.isEmpty_eq_false_iff.2 h.isDigits.1
  have hzero : decide (digits.head? = some (Decimal.digit 0)) = false := decide_eq_false h.head_ne
  rw [number?]
  simp only [hrun, hempty, hzero, Bool.or_self, Bool.false_eq_true, if_false, List.drop_length]

theorem readSize_isPositive {digits : Text} (h : IsPositive digits) :
    readSize digits = (.single (Decimal.value digits), []) := by
  rw [readSize, number?_isPositive h]
  rfl

theorem readArrays_nil (fuel : Nat) (e : TypeExpression) : readArrays fuel e [] = (e, []) := by
  cases fuel <;> rfl

theorem isLetter_of_isDigit {c : CodePoint} (h : Decimal.isDigit c = true) :
    isLetter c = false := by
  unfold Decimal.isDigit Decimal.digit? at h
  split at h
  · next hc =>
    simp only [Bool.and_eq_true, decide_eq_true_eq] at hc
    simp only [isLetter, Bool.or_eq_false_iff, Bool.and_eq_false_iff, decide_eq_false_iff_not]
    omega
  · cases h

/-- The base of a name with digits behind it is what stands before these. -/
theorem takeWhile_isLetter {base digits : Text} (hletters : ∀ c ∈ base, isLetter c = true)
    (hdigits : Json.IsDigits digits) : (base ++ digits).takeWhile isLetter = base := by
  obtain ⟨hne, hdigits⟩ := hdigits
  obtain ⟨d, ds, rfl⟩ := List.exists_cons_of_ne_nil hne
  have hd : ¬ isLetter d = true := by
    rw [isLetter_of_isDigit (hdigits d List.mem_cons_self)]
    exact Bool.false_ne_true
  rw [List.takeWhile_append_of_pos hletters, List.takeWhile_cons_of_neg hd, List.append_nil]

/-- A base with a number behind it is read as this base with this size. -/
theorem ofText?_sized {base digits : Text} (hbase : base ≠ [])
    (hletters : ∀ c ∈ base, isLetter c = true) (hdigits : IsPositive digits) :
    ofText? (base ++ digits) = some (.basic base (.single (Decimal.value digits))) := by
  have hparenthesis : Text.dropWord? "(" (base ++ digits) = none := by
    obtain ⟨b, rest, rfl⟩ := List.exists_cons_of_ne_nil hbase
    refine if_neg ?_
    rintro rfl
    exact absurd (hletters _ List.mem_cons_self) (by decide)
  have hempty : base.isEmpty = false := List.isEmpty_eq_false_iff.2 hbase
  rw [ofText?, read]
  simp only [hparenthesis, takeWhile_isLetter hletters hdigits.isDigits, hempty,
    Bool.false_eq_true, if_false, List.drop_left, readSize_isPositive hdigits, readArrays_nil]

end TypeExpression

/-- A size of too many digits is found before anything else is. -/
theorem ValueType.ofText_sized {base digits : Text} (hbase : base ≠ [])
    (hletters : ∀ c ∈ base, TypeExpression.isLetter c = true) (hdigits : IsPositive digits)
    (hlong : Decimal.limit < digits.length) :
    ValueType.ofText (base ++ digits) = .error .longNumber := by
  have hexceeds : Decimal.exceedsLimit (Decimal.value digits) = true := by
    rw [← Bool.not_eq_false]
    intro h
    have hle := (Json.exceedsLimit_value (.inr ⟨hdigits.isDigits, hdigits.head_ne⟩)).1 h
    exact absurd hlong (Nat.not_lt_of_le hle)
  rw [ValueType.ofText, TypeExpression.ofText?_sized hbase hletters hdigits]
  exact if_pos hexceeds

/-! ## An envelope with a long number -/

section SizedEnvelope

variable {digits : Text}

/-- The name of a type of integers with such digits for its bits. -/
def sizedName (digits : Text) : Text := "uint" ++ digits

/-- The name of an atomic type. -/
def atomicName : Text := "string"

/-- The types of an envelope, of which one is named as an atomic type is. It has one member. -/
def sizedTypes (digits : Text) : List (Text × Json) :=
  [(atomicName, .arr [.obj [("name", .text "a"), ("type", .text (sizedName digits))]])]

/-- An envelope of these types. -/
def sizedEnvelope (digits : Text) : Envelope where
  members :=
    [(EnvelopeMember.types.key, .obj (sizedTypes digits)), (EnvelopeMember.domain.key, .obj []),
      (EnvelopeMember.primaryType.key, .text atomicName),
      (EnvelopeMember.message.key, .obj [("a", .int 1)])]
  types := sizedTypes digits
  primaryType := atomicName
  domain := []
  message := [("a", .int 1)]
  lookup_types := rfl
  lookup_primaryType := rfl
  lookup_domain := rfl
  lookup_message := rfl

theorem isArrayName_sizedName (h : Json.IsDigits digits) :
    isArrayName (sizedName digits) = false := by
  have hlast : (sizedName digits).getLast? = some (digits.getLast h.1) :=
    List.getLast?_append_of_ne_nil _ h.1 |>.trans (List.getLast?_eq_some_getLast h.1)
  rw [isArrayName, hlast, decide_eq_false_iff_not]
  intro hbracket
  have hdigit := h.2 _ (List.getLast_mem h.1)
  rw [Option.some.inj hbracket] at hdigit
  cases hdigit

theorem coreName_sizedName (h : Json.IsDigits digits) :
    coreName (sizedName digits) = .ok (sizedName digits) := by
  rw [coreName, isArrayName_sizedName h]
  rfl

theorem sizedName_ne (digits : Text) : sizedName digits ≠ atomicName := by
  intro heq
  exact absurd (List.cons.inj heq).1 (by decide)

theorem isScalar_sizedName (h : Json.IsDigits digits) : (sizedName digits).isScalar = true := by
  have hdigits : digits.isScalar = true :=
    Text.isScalar_of_isAscii fun c hc => Decimal.isAscii_of_isDigit (h.2 c hc)
  show (Text.ofString "uint" ++ digits).isScalar = true
  rw [Text.isScalar_append, hdigits]
  rfl

/-- The declarations of the envelope. -/
def sizedDeclarations (digits : Text) : Declarations :=
  [(atomicName, [⟨some (.text "a"), sizedName digits⟩])]

theorem ofMembers_sizedTypes (h : Json.IsDigits digits) :
    Declarations.ofMembers (sizedTypes digits) = .ok (sizedDeclarations digits) := by
  have hmember : Declarations.memberOf
      (.obj [("name", .text "a"), ("type", .text (sizedName digits))]) =
        .ok ⟨some (.text "a"), sizedName digits⟩ := by
    show (coreName (sizedName digits) >>= fun _ => _) = _
    rw [coreName_sizedName h]
    rfl
  simp only [Declarations.ofMembers, sizedTypes, List.mapM_cons, List.mapM_nil,
    Declarations.itemsOf, hmember, ok_bind]
  rfl

theorem primaryType_sizedDeclarations (h : Json.IsDigits digits) :
    (sizedDeclarations digits).primaryType = .ok atomicName := by
  have hreferences : Declarations.references [⟨some (.text "a"), sizedName digits⟩] =
      .ok [sizedName digits] := by
    simp only [Declarations.references, List.mapM_cons, List.mapM_nil, coreName_sizedName h,
      ok_bind]
    rfl
  have hfilter : [sizedName digits].filter (· ≠ atomicName) = [sizedName digits] := by
    rw [List.filter_singleton, decide_eq_true (sizedName_ne digits)]
    rfl
  simp only [Declarations.primaryType, sizedDeclarations, List.mapM_cons, List.mapM_nil,
    hreferences, ok_bind, hfilter]
  rfl

/-- The type of the envelope's message, spelled out. -/
def spelledSizedType (digits : Text) : Text :=
  atomicName ++ "(" ++ (sizedName digits ++ " " ++ Text.ofString "a") ++ ")"

theorem encodeType_sizedDeclarations (digits : Text) :
    (sizedDeclarations digits).encodeType atomicName = .ok (spelledSizedType digits) := by
  have hreach : (sizedDeclarations digits).reach ((sizedDeclarations digits).length + 1) []
      atomicName = .ok [] := rfl
  have hdependencies : (sizedDeclarations digits).dependencies atomicName = .ok [] := by
    rw [Declarations.dependencies, hreach]
    exact congrArg Except.ok List.mergeSort_nil
  have hone : (sizedDeclarations digits).encodeOne atomicName = .ok (spelledSizedType digits) := by
    show Except.ok (atomicName ++ "(" ++ (sizedName digits ++ " " ++ Text.ofString "a" ++ []) ++
      ")") = _
    rw [List.append_nil]
    rfl
  rw [Declarations.encodeType, hdependencies, ok_bind]
  show ([atomicName].mapM (sizedDeclarations digits).encodeOne >>= fun one => .ok one.flatten) = _
  rw [List.mapM_cons, hone, List.mapM_nil]
  exact congrArg Except.ok (List.append_nil _)

theorem isScalar_spelledSizedType (h : Json.IsDigits digits) :
    (spelledSizedType digits).isScalar = true := by
  have hname := isScalar_sizedName h
  show (((atomicName ++ Text.ofString "(") ++ ((sizedName digits ++ Text.ofString " ") ++
    Text.ofString "a")) ++ Text.ofString ")").isScalar = true
  simp only [Text.isScalar_append, hname]
  rfl

/-- The member cannot be given a word. -/
theorem memberWord_sizedName (h : IsPositive digits) (hlong : Decimal.limit < digits.length) :
    memberWord (sizedDeclarations digits) [("a", .int 1)] ⟨some (.text "a"), sizedName digits⟩ =
      .ok (.untyped .longNumber) := by
  have hletters : ∀ c ∈ Text.ofString "uint", TypeExpression.isLetter c = true :=
    List.all_eq_true.1 rfl
  have htype : ValueType.ofText (sizedName digits) = .error .longNumber :=
    ValueType.ofText_sized (List.cons_ne_nil _ _) hletters h hlong
  have hatom : Word.ofAtom (sizedName digits) (.int 1) =
      .ok (Word.ofValue (sizedName digits) (.int 1)) := rfl
  have hdeclared : Entries.has (sizedName digits) (sizedDeclarations digits) = false := rfl
  show presentWord (sizedDeclarations digits) (.int 1) none none (.text "a")
    (sizedName digits) = _
  rw [presentWord, hdeclared, isArrayName_sizedName h.isDigits, hatom, Word.ofValue, htype]
  rfl

theorem structHash_sizedDeclarations (h : IsPositive digits)
    (hlong : Decimal.limit < digits.length) :
    structHash (sizedDeclarations digits) atomicName (.obj [("a", .int 1)]) =
      .error .longNumber := by
  have hmembers : ((sizedDeclarations digits).lookup atomicName).getD [] =
      [⟨some (.text "a"), sizedName digits⟩] := rfl
  have hoctets := Setup.octetsOfText_of_isScalar (isScalar_spelledSizedType h.isDigits)
  show (structOctets (sizedDeclarations digits) atomicName
    (some (encoders (sizedDeclarations digits) [("a", .int 1)]))).map Keccak.hash = _
  rw [structOctets_encoders, encodeType_sizedDeclarations, ok_bind, hoctets, ok_bind, hmembers,
    List.mapM_cons, memberWord_sizedName h hlong, ok_bind, List.mapM_nil]
  rfl

/-- An envelope with a member of a type whose number has too many digits has no digest. -/
theorem digest_sizedEnvelope (h : IsPositive digits) (hlong : Decimal.limit < digits.length) :
    digest (sizedEnvelope digits).json = .error .longNumber := by
  have htypes : messageTypes (.obj (sizedEnvelope digits).types)
      (.obj (sizedEnvelope digits).domain) = .ok (sizedTypes digits) := rfl
  have hread := ofMembers_sizedTypes h.isDigits
  have hprimary := primaryType_sizedDeclarations h.isDigits
  have hchecked : checkPrimaryType (sizedTypes digits)
      (some (.text (sizedEnvelope digits).primaryType)) = .ok () :=
    checkPrimaryType_eq_ok_iff.2 ⟨_, hread, hprimary⟩
  have hmessage : messageHash (sizedTypes digits) (.obj (sizedEnvelope digits).message) =
      .error .longNumber := by
    rw [messageHash, hread, ok_bind, hprimary, ok_bind]
    exact structHash_sizedDeclarations h hlong
  have hdomain : domainHash (.obj (sizedEnvelope digits).domain) = domainHash (.obj []) := rfl
  rw [Setup.digest_json, htypes, ok_bind, hchecked, ok_bind, hdomain, Setup.domainHash_nil, ok_bind,
    hmessage]
  rfl

end SizedEnvelope

end TypedData

end SignedSetup
