import SignedSetup.Proofs.Json.Unpaired

/-!
# Surrogate pairs in ASCII

In a style of ASCII alone a character past the first plane is written as the two units of its pair,
and so are two surrogates that stand side by side as if they were halves of one. What is written
does not tell the two apart: a reader joins such halves (`Text.joined`), and a value is written in
ASCII as the value with its texts joined is (`renderAt_mapTexts_joined`). So any value is read
again from what is written of it in ASCII, whatever surrogates its texts hold
(`parse_render_ascii`), and what is read differs from the value in no text that has no such halves.

In a style that writes all on one line every character written in ASCII is visible
(`isAsciiLine_renderAt`).
-/

namespace SignedSetup

/-- The text with each first half of a surrogate pair joined to a second half right after it. -/
def Text.joined (t : Text) : Text := Json.joinParts (t.map fun c => .unit c.val)

namespace Json

/-! ## Joining -/

theorem isUnpaired_joined (t : Text) : t.joined.isUnpaired = true := by
  refine isUnpaired_joinParts fun c hc => ?_
  obtain ⟨d, -, hd⟩ := List.mem_map.1 hc
  cases hd

/-- Halves that are joined are the units of the character that they are joined to. -/
theorem units_of_pair? {c d e : CodePoint} (h : pair? c.val d.val = some e) :
    c.val = 0xD800 + (e.val - 0x10000) / 0x400 ∧
      d.val = 0xDC00 + (e.val - 0x10000) % 0x400 ∧ 0x10000 ≤ e.val := by
  unfold pair? at h
  split at h
  · next hhalves =>
    have he := congrArg Fin.val (Option.some.inj h)
    simp only [CodePoint.ofNat_val, CodePoint.isHighSurrogate, CodePoint.isLowSurrogate,
      Bool.and_eq_true, decide_eq_true_eq] at hhalves
    have hlt : 0x10000 + (c.val - 0xD800) * 0x400 + (d.val - 0xDC00) < 0x110000 := by omega
    simp only [CodePoint.ofNat, hlt, dif_pos] at he
    omega
  · cases h

theorem joined_cons_cons (c d : CodePoint) (t : Text) :
    Text.joined (c :: d :: t) =
      match pair? c.val d.val with
      | some e => e :: Text.joined t
      | none => c :: Text.joined (d :: t) := by
  show joinParts (.unit c.val :: .unit d.val :: _) = _
  rw [joinParts]
  cases pair? c.val d.val with
  | some e => rfl
  | none =>
    show CodePoint.ofNat c.val :: _ = _
    rw [CodePoint.ofNat_val]
    rfl

/-- A text without halves side by side has nothing to join. -/
theorem joined_eq_self {t : Text} (h : t.isUnpaired = true) : t.joined = t := by
  induction t with
  | nil => rfl
  | cons c t ih =>
    cases t with
    | nil =>
      show [CodePoint.ofNat c.val] = [c]
      rw [CodePoint.ofNat_val]
    | cons d t =>
      rw [Text.isUnpaired, Bool.and_eq_true, Bool.not_eq_true'] at h
      have hpair : pair? c.val d.val = none := by
        rw [pair?, CodePoint.ofNat_val, CodePoint.ofNat_val, h.1]
        rfl
      rw [joined_cons_cons, hpair, ih h.2]

/-! ## Writing in ASCII -/

/-- A character past ASCII is written as its unit or as its two units. -/
theorem escapeChar_true_of_le {c : CodePoint} (h : 0x7F ≤ c.val) :
    escapeChar true c =
      if c.val < 0x10000 then unitEscape c.val
      else
        unitEscape (0xD800 + (c.val - 0x10000) / 0x400) ++
          unitEscape (0xDC00 + (c.val - 0x10000) % 0x400) := by
  have hnone : shortEscapes.lookup c = none := by
    refine List.lookup_eq_none_iff.2 fun entry hentry => ?_
    have hlt : entry.1.val < 0x7F := by
      have hall : shortEscapes.all fun entry => entry.1.val < 0x7F := by decide
      exact of_decide_eq_true (List.all_eq_true.1 hall entry hentry)
    have hne : c ≠ entry.1 := fun heq => by rw [← heq] at hlt; omega
    simpa using hne
  rw [escapeChar_of_lookup_eq_none hnone, if_neg (by omega),
    if_neg (by simpa using h)]

/-- Halves side by side are written as the character that they are joined to. -/
theorem escapeChar_of_pair? {c d e : CodePoint} (h : pair? c.val d.val = some e) :
    escapeChar true e = escapeChar true c ++ escapeChar true d := by
  obtain ⟨hc, hd, he⟩ := units_of_pair? h
  have hlt := e.isLt
  rw [escapeChar_true_of_le (c := e) (by omega), if_neg (by omega),
    escapeChar_true_of_le (c := c) (by omega), if_pos (by omega),
    escapeChar_true_of_le (c := d) (by omega), if_pos (by omega), hc, hd]

/-- A text is written in ASCII as the joined text is. -/
theorem flatMap_escapeChar_joined : ∀ t : Text,
    t.joined.flatMap (escapeChar true) = t.flatMap (escapeChar true)
  | [] => rfl
  | [c] => by rw [joined_eq_self rfl]
  | c :: d :: t => by
    rw [joined_cons_cons, List.flatMap_cons, List.flatMap_cons]
    cases hpair : pair? c.val d.val with
    | some e =>
      show List.flatMap _ (e :: _) = _
      rw [List.flatMap_cons, flatMap_escapeChar_joined t, escapeChar_of_pair? hpair,
        List.append_assoc]
    | none =>
      show List.flatMap _ (c :: _) = _
      rw [List.flatMap_cons, flatMap_escapeChar_joined (d :: t), List.flatMap_cons]

theorem renderText_joined {s : Style} (hs : s.ascii = true) (t : Text) :
    renderText s.ascii t.joined = renderText s.ascii t := by
  rw [renderText, renderText, hs, flatMap_escapeChar_joined]

mutual

/-- A value is written in ASCII as the value with its texts joined is. -/
theorem renderAt_mapTexts_joined {s : Style} (hs : s.ascii = true) : ∀ (v : Json) (depth : Nat),
    renderAt s depth (v.mapTexts Text.joined) = renderAt s depth v
  | .null, _ | .bool _, _ | .int _, _ | .float _, _ => rfl
  | .text t, _ => renderText_joined hs t
  | .arr [], _ => rfl
  | .arr (item :: items), depth => by
    rw [mapTexts, mapItems]
    simp only [renderAt, renderAt_mapTexts_joined hs item, renderItems_mapItems_joined hs items]
  | .obj [], _ => rfl
  | .obj ((key, v) :: members), depth => by
    rw [mapTexts, mapMembers]
    simp only [renderAt, renderText_joined hs, renderAt_mapTexts_joined hs v,
      renderMembers_mapMembers_joined hs members]
termination_by structural v => v

theorem renderItems_mapItems_joined {s : Style} (hs : s.ascii = true) :
    ∀ (items : List Json) (depth : Nat),
      renderItems s depth (mapItems Text.joined items) = renderItems s depth items
  | [], _ => rfl
  | item :: items, depth => by
    rw [mapItems]
    simp only [renderItems, renderAt_mapTexts_joined hs item, renderItems_mapItems_joined hs items]
termination_by structural vs => vs

theorem renderMembers_mapMembers_joined {s : Style} (hs : s.ascii = true) :
    ∀ (members : List (Text × Json)) (depth : Nat),
      renderMembers s depth (mapMembers Text.joined members) = renderMembers s depth members
  | [], _ => rfl
  | (key, v) :: members, depth => by
    rw [mapMembers]
    simp only [renderMembers, renderText_joined hs, renderAt_mapTexts_joined hs v,
      renderMembers_mapMembers_joined hs members]
termination_by structural ms => ms

end

/-! ## Reading what was written in ASCII -/

/-- What is read of a value that was written in ASCII: its texts are joined, and members of equal
keys are merged. -/
def asRead (v : Json) : Json := (v.mapTexts Text.joined).merge

/-- A printable value is read as it is. -/
theorem asRead_eq_self {v : Json} (h : v.IsPrintable) : v.asRead = v := by
  rw [asRead, mapTexts_eq_self (fun _ ht => joined_eq_self ht)
      (fun _ hkeys k hk => joined_eq_self (List.all_eq_true.1 hkeys k hk)) v h.unpaired,
    merge_eq_self (fun _ hnodup => of_decide_eq_true hnodup) v h.distinct]

theorem asRead_text {t : Text} (h : t.isScalar = true) : (Json.text t).asRead = .text t :=
  asRead_eq_self (isPrintable_text (Text.isUnpaired_of_isScalar h))

theorem mergeMembers_mapMembers (f : Text → Text) (members : List (Text × Json)) :
    mergeMembers (mapMembers f members) = members.map fun m => (f m.1, (m.2.mapTexts f).merge) := by
  induction members with
  | nil => rfl
  | cons member members ih =>
    obtain ⟨key, v⟩ := member
    rw [mapMembers, mergeMembers, ih, List.map_cons]

/-- What is read of an object under a key is what is read of the value that was under it. -/
theorem asRead_obj {members : List (Text × Json)}
    (hkeys : ∀ k ∈ Entries.keys members, k.isUnpaired = true)
    (hnodup : (Entries.keys members).Nodup) :
    (Json.obj members).asRead = .obj (members.map fun m => (m.1, m.2.asRead)) := by
  have hself : (members.map fun m => (m.1.joined, (m.2.mapTexts Text.joined).merge)) =
      members.map fun m => (m.1, (m.2.mapTexts Text.joined).merge) :=
    List.map_congr_left fun m hm => by rw [joined_eq_self (hkeys m.1 (List.mem_map_of_mem hm))]
  rw [asRead, mapTexts, merge, mergeMembers_mapMembers, hself, Entries.ofList_eq_self]
  · rfl
  · rw [Entries.keys, List.map_map]
    exact hnodup

/-- Any value without integers of too many digits is read from what is written of it in ASCII. -/
theorem parse_render_ascii {s : Style} (hs : s.IsReadable) (hascii : s.ascii = true) {v : Json}
    (hv : v.isReadable = true) (hdoubles : v.isCanonical = true) :
    parse (render s v) = .ok v.asRead := by
  have hreadable : (v.mapTexts Text.joined).isReadable = true :=
    all_mapTexts (fun v hv => by cases v <;> exact hv) v hv
  have hunpaired : (v.mapTexts Text.joined).isUnpaired = true := by
    refine all_mapTexts (fun v _ => ?_) v hv
    cases v with
    | text t => exact isUnpaired_joined t
    | obj members =>
      rw [mapTexts, isUnpairedNode, keys_mapMembers, List.all_map]
      exact List.all_eq_true.2 fun k _ => isUnpaired_joined k
    | _ => rfl
  have hcanonical : (v.mapTexts Text.joined).isCanonical = true :=
    all_mapTexts (fun v hv => by cases v <;> exact hv) v hdoubles
  have hparse := parse_render_append hs hreadable (fun _ => hunpaired) (rfl : IsBlanks [])
  rw [List.append_nil, reread_of_isCanonical _ hcanonical] at hparse
  rw [render, ← renderAt_mapTexts_joined hascii]
  exact hparse

theorem Style.isReadable_spaced : Style.spaced.IsReadable :=
  ⟨⟨[CodePoint.ofChar ' '], rfl, rfl⟩, ⟨[CodePoint.ofChar ' '], rfl, rfl⟩⟩

end Json

/-! ## One line of ASCII -/

/-- A character of ASCII that is no control. -/
def CodePoint.isVisible (c : CodePoint) : Bool := 0x20 ≤ c.val && c.val < 0x7F

/-- A text of ASCII alone, without controls and hence without line ends. -/
def Text.isAsciiLine (t : Text) : Bool := t.all CodePoint.isVisible

namespace Json

@[simp]
theorem isAsciiLine_append (t u : Text) :
    Text.isAsciiLine (t ++ u) = (t.isAsciiLine && u.isAsciiLine) := List.all_append

theorem isAsciiLine_unitEscape {n : Nat} (h : n < 0x10000) :
    (unitEscape n).isAsciiLine = true := by
  have hdigit : ∀ d : Fin 16, (Hex.digit d.val).isVisible = true := by decide
  have hmod (m : Nat) : (Hex.digit (m % 16)).isVisible = true :=
    hdigit ⟨m % 16, Nat.mod_lt m (by decide)⟩
  have hfirst : n / 0x1000 = n / 0x1000 % 16 := by omega
  have hu : Text.isAsciiLine "\\u" = true := by decide
  rw [unitEscape, Hex.numeral_four h, hfirst, isAsciiLine_append, hu]
  simp only [Text.isAsciiLine, List.all_cons, List.all_nil, hmod, Bool.and_self]

theorem isAsciiLine_escapeChar (c : CodePoint) : (escapeChar true c).isAsciiLine = true := by
  have hlt := c.isLt
  cases hlookup : shortEscapes.lookup c with
  | some e =>
    have hshort : shortEscapes.all fun ce => (escapeChar true ce.1).isAsciiLine = true := by decide
    obtain ⟨_, _, hmem, -⟩ := List.lookup_eq_some_iff.1 hlookup
    exact of_decide_eq_true (List.all_eq_true.1 hshort (c, e) (by rw [hmem]; simp))
  | none =>
    rw [escapeChar_of_lookup_eq_none hlookup]
    split_ifs with hcontrol hself hunit
    · exact isAsciiLine_unitEscape (by omega)
    · have hvisible : c.isVisible = true := by
        simp only [Bool.not_true, Bool.false_or, decide_eq_true_eq] at hself
        simp only [CodePoint.isVisible, Bool.and_eq_true, decide_eq_true_eq]
        omega
      rw [Text.isAsciiLine, List.all_cons, hvisible]
      rfl
    · exact isAsciiLine_unitEscape hunit
    · rw [isAsciiLine_append, isAsciiLine_unitEscape (by omega), isAsciiLine_unitEscape (by omega)]
      rfl

theorem isAsciiLine_renderText (t : Text) : (renderText true t).isAsciiLine = true := by
  have hquote : Text.isAsciiLine "\"" = true := by decide
  have hflat : Text.isAsciiLine (t.flatMap (escapeChar true)) = true := by
    rw [Text.isAsciiLine, List.all_flatMap, List.all_eq_true]
    exact fun c _ => isAsciiLine_escapeChar c
  rw [renderText, isAsciiLine_append, isAsciiLine_append, hquote, hflat]
  rfl

theorem SpellsNumber.isAsciiLine {v : Json} {t : Text} (h : SpellsNumber v t) :
    t.isAsciiLine = true := by
  refine List.all_eq_true.2 fun c hc => ?_
  have hrange := val_of_isNumeric (List.all_eq_true.1 h.all_isNumeric c hc)
  rw [CodePoint.isVisible, decide_eq_true hrange.1, decide_eq_true hrange.2]
  rfl

theorem isAsciiLine_jsonText (x : Double) : x.jsonText.isAsciiLine = true := by
  cases x with
  | nan => decide
  | infinite negative => cases negative <;> decide
  | finite negative significand exponent =>
    obtain ⟨y, hy⟩ := Double.spellsNumber_finiteText negative significand exponent
    exact hy.isAsciiLine

/-- A style that writes ASCII alone, on one line. -/
structure Style.IsLinear (s : Style) : Prop where
  ascii : s.ascii = true
  indent : s.indent = none
  comma : s.comma.isAsciiLine = true
  colon : s.colon.isAsciiLine = true

theorem Style.isLinear_spaced : Style.spaced.IsLinear := ⟨rfl, rfl, by decide, by decide⟩

theorem Style.IsLinear.newline {s : Style} (hs : s.IsLinear) (depth : Nat) :
    s.newline depth = [] := by
  rw [Style.newline, hs.indent]

section Linear

variable {s : Style} (hs : s.IsLinear)
include hs

mutual

/-- A value is written as one line of ASCII. -/
theorem isAsciiLine_renderAt : ∀ (v : Json) (depth : Nat), (renderAt s depth v).isAsciiLine = true
  | .null, _ => rfl
  | .bool true, _ => rfl
  | .bool false, _ => rfl
  | .int n, _ => (spellsNumber_ofInt n).isAsciiLine
  | .float x, _ => isAsciiLine_jsonText x
  | .text t, _ => by rw [renderAt, hs.ascii, isAsciiLine_renderText]
  | .arr [], _ => rfl
  | .arr (item :: items), depth => by
    simp only [renderAt, hs.newline, isAsciiLine_append, isAsciiLine_renderAt item,
      isAsciiLine_renderItems items]
    decide
  | .obj [], _ => rfl
  | .obj ((key, v) :: members), depth => by
    simp only [renderAt, hs.newline, isAsciiLine_append, hs.ascii, hs.colon,
      isAsciiLine_renderText, isAsciiLine_renderAt v, isAsciiLine_renderMembers members]
    decide
termination_by structural v => v

theorem isAsciiLine_renderItems : ∀ (items : List Json) (depth : Nat),
    (renderItems s depth items).isAsciiLine = true
  | [], _ => rfl
  | item :: items, depth => by
    simp only [renderItems, hs.newline, isAsciiLine_append, hs.comma, isAsciiLine_renderAt item,
      isAsciiLine_renderItems items]
    decide
termination_by structural vs => vs

theorem isAsciiLine_renderMembers : ∀ (members : List (Text × Json)) (depth : Nat),
    (renderMembers s depth members).isAsciiLine = true
  | [], _ => rfl
  | (key, v) :: members, depth => by
    simp only [renderMembers, hs.newline, isAsciiLine_append, hs.ascii, hs.comma, hs.colon,
      isAsciiLine_renderText, isAsciiLine_renderAt v, isAsciiLine_renderMembers members]
    decide
termination_by structural ms => ms

end

end Linear

end Json

end SignedSetup
