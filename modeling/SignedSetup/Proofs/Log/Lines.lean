import SignedSetup.Proofs.Json.Standard
import SignedSetup.Proofs.Log.Records

/-!
# Lines of records

A logger writes the calls at or above its threshold in their order, each as the text of its record
if the record has one (`Logger.written_eq`). That fails only where an integer has too many digits
(`Entry.isSome_line`). As JSON a record is one line of ASCII that is read as the record was, but for
surrogates that stand side by side as the halves of a pair, and it is JSON for other readers iff its
doubles are finite (`written_after_setups`). Each of these limits is met (`written_exceptions`).
-/

namespace SignedSetup.Log

/-- What a logger writes for a call, if it writes anything. -/
def Logger.lineOf (logger : Logger) (x : Entry) : Option Text :=
  match x.event with
  | .ok e => logger.line x.time e
  | .error _ => none

/-- The lines that a logger writes for calls. -/
def Logger.written (logger : Logger) (entries : List Entry) : List Text :=
  entries.filterMap logger.lineOf

/-! ## What is written -/

/-- What a logger writes for a call: the text of its record, if the call is at or above the
threshold. -/
theorem Logger.lineOf_eq {logger : Logger} {renderer : Renderer}
    (hr : logger.renderer = some renderer) {x : Entry} (h : x.IsUnreserved) :
    logger.lineOf x =
      if logger.threshold ≤ x.call.level.rank then renderer.line (x.record logger.app)
      else none := by
  rw [lineOf, Entry.event_eq_ok h]
  dsimp only
  rw [line, hr, writes]
  simp only [decide_eq_true_eq]
  rfl

/-- The calls at or above the threshold are written in their order, and no others. -/
theorem Logger.written_eq {logger : Logger} {renderer : Renderer}
    (hr : logger.renderer = some renderer) {entries : List Entry}
    (h : ∀ x ∈ entries, x.IsUnreserved) :
    logger.written entries =
      (entries.filter fun x => logger.threshold ≤ x.call.level.rank).filterMap fun x =>
        renderer.line (x.record logger.app) := by
  rw [written, List.filterMap_filter]
  refine List.filterMap_congr fun x hx => ?_
  simp only [lineOf_eq hr (h x hx), decide_eq_true_eq]

/-- The text of a record as JSON. -/
theorem Renderer.line_json {record : List (Text × Json)}
    (h : (Json.obj record).isReadable = true) :
    Renderer.json.line record = some ((Json.obj record).render .spaced) := by
  rw [line, if_pos h]

/-- Where each of a list gives something, they are given one by one. -/
theorem map_some_filterMap {α β : Type} {f : α → Option β} {l : List α}
    (h : ∀ a ∈ l, (f a).isSome = true) : (l.filterMap f).map some = l.map f := by
  rw [List.map_filterMap_some_eq_filter_map_isSome, List.filter_eq_self]
  exact List.forall_mem_map.2 h

namespace Entry

/-- The values that the call gives are such as there are: the parts of their doubles are in their
bounds, and no object has a key twice. -/
def IsProper (x : Entry) : Prop :=
  ∀ name v, (name, .json v) ∈ x.fields → v.isCanonical = true ∧ v.hasDistinctKeys = true

/-- No integer of the call has too many digits to be written. -/
def IsReadable (x : Entry) : Prop :=
  ∀ name v, (name, .json v) ∈ x.fields → v.isReadable = true

/-- No text of a call holds a first half of a surrogate pair right before a second half. -/
structure IsUnpaired (x : Entry) : Prop where
  event : x.name.isUnpaired = true
  logger : x.logger.isUnpaired = true
  time : x.time.isUnpaired = true
  names : ∀ field ∈ x.fields, field.1.isUnpaired = true
  values : ∀ name v, (name, .json v) ∈ x.fields → v.isUnpaired = true

section Record

variable {x : Entry} {app : Option Json} (h : x.IsUnreserved)
include h

/-- A property of every object, text and truth value is one of the record and all within it, if it
is one of the values of the call and the application. -/
theorem all_record {p : Json → Bool} (hobj : ∀ members, p (.obj members) = true)
    (htext : ∀ t, p (.text t) = true) (hbool : ∀ b, p (.bool b) = true)
    (hfields : ∀ name v, (name, .json v) ∈ x.fields → v.all p = true)
    (happ : ∀ v, app = some v → v.all p = true) : (Json.obj (x.record app)).all p = true := by
  refine Bool.and_eq_true_iff.2 ⟨hobj _, Json.allMembers_of_forall fun entry hentry => ?_⟩
  obtain ⟨name, v⟩ := entry
  cases (isRecordOf_record h app).isEntryOf hentry with
  | app h => exact happ v h
  | flag => exact hbool true
  | @field _ v h =>
    cases v with
    | json v => exact hfields _ _ h
    | bytes b => exact htext _
  | _ => exact htext _

theorem keys_record (hnames : ∀ field ∈ x.fields, field.1.isUnpaired = true) :
    ∀ name ∈ Entries.keys (x.record app), name.isUnpaired = true := by
  intro name hname
  obtain ⟨⟨name, v⟩, hentry, rfl⟩ := List.mem_map.1 hname
  cases (isRecordOf_record h app).isEntryOf hentry with
  | field h => exact hnames _ h
  | _ => rfl

/-- The record of a call is printable if it can be written and the texts of the call hold no
pairs. -/
theorem isPrintable_record (hproper : x.IsProper)
    (hreadable : (Json.obj (x.record app)).isReadable = true) (hx : x.IsUnpaired)
    (happ : ∀ v, app = some v → v.IsPrintable) : (Json.obj (x.record app)).IsPrintable := by
  have hrecord := isRecordOf_record h app
  refine Json.isPrintable_obj (List.all_eq_true.2 (keys_record h hx.names)) hrecord.nodup
    fun entry hentry => ?_
  have hentryReadable := Json.isReadable_obj_iff.1 hreadable entry hentry
  obtain ⟨name, v⟩ := entry
  cases hrecord.isEntryOf hentry with
  | event => exact Json.isPrintable_text hx.event
  | level => exact Json.isPrintable_text (by cases x.call.level <;> rfl)
  | logger =>
    refine Json.isPrintable_text ?_
    rw [loggerName]
    split
    · rfl
    · exact hx.logger
  | time => exact Json.isPrintable_text hx.time
  | app h => exact happ v h
  | flag => exact ⟨rfl, rfl, rfl, rfl⟩
  | @field _ v h =>
    cases v with
    | json v => exact ⟨hx.values _ _ h, hentryReadable, (hproper _ _ h).2, (hproper _ _ h).1⟩
    | bytes b =>
      exact Json.isPrintable_text (Text.isUnpaired_of_isScalar (Utf8.isScalar_decodeLossy b))

/-- An entry of a record can be shown on the console iff it can be written. -/
theorem isShown_of_mem_record {name : Text} {v : Json} (hentry : (name, v) ∈ x.record app) :
    isShown name v = v.isReadable := by
  suffices hname : name = exceptionFlagKey ∧ v = .bool true ∨
      name ∉ [stackKey, exceptionKey, exceptionFlagKey] by
    rcases hname with ⟨rfl, rfl⟩ | hname
    · rfl
    · simp only [List.mem_cons, List.not_mem_nil, or_false, not_or] at hname
      simp only [isShown, hname, decide_false, Bool.or_self, Bool.false_or, Bool.false_eq_true,
        if_false]
  cases (isRecordOf_record h app).isEntryOf hentry with
  | flag => exact .inl ⟨rfl, rfl⟩
  | field hfield =>
    have hreserved : ∀ name ∈ [stackKey, exceptionKey, exceptionFlagKey], name ∈ reservedNames := by
      decide
    exact .inr fun hname => h _ hfield (hreserved _ hname)
  | event | level | logger | time | app _ => exact .inr (by decide)

/-- A record has a text in either form unless one of its integers has too many digits. -/
theorem isSome_line (renderer : Renderer) :
    (renderer.line (x.record app)).isSome = (Json.obj (x.record app)).isReadable := by
  cases renderer with
  | json =>
    show (if _ then _ else _ : Option Text).isSome = _
    cases (Json.obj (x.record app)).isReadable <;> rfl
  | console =>
    have hshown : ((x.record app).all fun entry => isShown entry.1 entry.2) =
        (Json.obj (x.record app)).isReadable := by
      rw [Bool.eq_iff_iff, List.all_eq_true, Json.isReadable_obj_iff]
      exact forall₂_congr fun entry hentry =>
        iff_of_eq (congrArg (· = true) (isShown_of_mem_record h hentry))
    show (if ((x.record app).all fun entry => isShown entry.1 entry.2) = true then _ else _ :
      Option Text).isSome = _
    rw [hshown]
    cases (Json.obj (x.record app)).isReadable <;> rfl

end Record

end Entry

/-! ## Setups and calls -/

theorem boundApp_eq_text (s : Settings) (requests : List SetupRequest) {v : Json}
    (h : boundApp s.members requests = some v) : v = .text s.appName := by
  rw [boundApp] at h
  split at h
  · exact (Option.some.inj h).symm
  · cases h

/-- What is logged after setups. Whatever levels the setups asked for, also unknown ones, the calls
at or above the threshold of the last setup that succeeded (that of warnings, if none did) are
written in their order by the renderer of the last setup, and no other call is. Each of them is
written exactly once if none of its integers has too many digits; a record with such an integer has
no text and is passed over. The record holds the event, the level, the logger and the time, whatever
fields of these names the call gave; the call's own application, or else the one that is bound, if a
setup succeeded; and the other fields of the call, octets as text. As JSON it is one line of ASCII,
and JSON for any reader iff its doubles are finite. It is read as the record with its texts joined.
So if no name of a field has two halves of a surrogate pair side by side, what is read holds the
same as the record, each value as it is read; and if there are no such halves at all, it is the
record. -/
theorem written_after_setups (s : Settings) (requests : List SetupRequest) (last : SetupRequest)
    (entries : List Entry) (h : ∀ x ∈ entries, x.IsUnreserved)
    (hproper : ∀ x ∈ entries, x.IsProper) :
    let setups := requests ++ [last]
    let app := boundApp s.members setups
    let renderer := last.renderer s.members
    let written := (Logger.initial.setups s.members setups).written entries
    let due := entries.filter fun x => rootThreshold s.members setups ≤ x.call.level.rank
    written = due.filterMap (fun x => renderer.line (x.record app)) ∧
    ((∀ x ∈ due, x.IsReadable) →
      written.map some = due.map fun x => renderer.line (x.record app)) ∧
    ∀ x ∈ entries,
      let record := x.record app
      x.IsRecordOf app id record ∧
      (renderer.line record).isSome = (Json.obj record).isReadable ∧
      ∀ line, Renderer.json.line record = some line →
        line.isAsciiLine = true ∧
        (Json.IsStandard line ↔ (Json.obj record).isFinite = true) ∧
        Json.parse line = .ok (Json.obj record).asRead ∧
        ((∀ field ∈ x.fields, field.1.isUnpaired = true) →
          ∃ members, Json.parse line = .ok (.obj members) ∧
            x.IsRecordOf app Json.asRead members) ∧
        (x.IsUnpaired → s.appName.isUnpaired = true → Json.parse line = .ok (.obj record)) := by
  intro setups app renderer written due
  have hafter := Logger.isAfter_setups s.members setups
  have hrenderer : (Logger.initial.setups s.members setups).renderer = some renderer := by
    rw [hafter.renderer, List.getLast?_concat]
    rfl
  have happ {v : Json} (hv : app = some v) : v = .text s.appName := boundApp_eq_text s setups hv
  have hwritten : written = due.filterMap fun x => renderer.line (x.record app) := by
    have heq := Logger.written_eq hrenderer h
    rwa [hafter.threshold, hafter.app] at heq
  refine ⟨hwritten, fun hreadable => ?_, fun x hx => ⟨?_, ?_, fun line hline => ?_⟩⟩
  · rw [hwritten]
    refine map_some_filterMap fun x hx => ?_
    have hunreserved := h x (List.mem_of_mem_filter hx)
    rw [Entry.isSome_line hunreserved]
    exact Entry.all_record hunreserved (fun _ => rfl) (fun _ => rfl) (fun _ => rfl)
      (hreadable x hx) fun v hv => by rw [happ hv]; rfl
  · exact Entry.isRecordOf_record (h x hx) app
  · exact Entry.isSome_line (h x hx) renderer
  · have hrecord := Entry.isRecordOf_record (h x hx) app
    have hreadable : (Json.obj (x.record app)).isReadable = true := by
      rw [← Entry.isSome_line (h x hx) .json, hline]
      rfl
    have hcanonical : (Json.obj (x.record app)).isCanonical = true :=
      Entry.all_record (h x hx) (fun _ => rfl) (fun _ => rfl) (fun _ => rfl)
        (fun name v hv => (hproper x hx name v hv).1) fun v hv => by rw [happ hv]; rfl
    obtain rfl := Option.some.inj ((Renderer.line_json hreadable).symm.trans hline)
    have hparse := Json.parse_render_ascii Json.Style.isReadable_spaced rfl hreadable hcanonical
    refine ⟨Json.isAsciiLine_renderAt Json.Style.isLinear_spaced _ 0,
      Json.isStandard_render_iff Json.Style.isReadable_spaced rfl hreadable hcanonical, hparse,
      fun hnames => ⟨_, ?_, hrecord.asRead⟩, fun hunpaired hname => ?_⟩
    · rw [hparse, Json.asRead_obj (Entry.keys_record (h x hx) hnames) hrecord.nodup]
    · have hprintable := Entry.isPrintable_record (h x hx) (hproper x hx) hreadable hunpaired
        fun v hv => by rw [happ hv]; exact Json.isPrintable_text hname
      rw [hparse, Json.asRead_eq_self hprintable]

/-- A call below the threshold of information. -/
def sampleDetail : Entry := ⟨"2024-05-01T12:00:00Z", .plain .debug, "cli", "detail", []⟩

/-- A call with a field of a name that the logger overrides, octets that are no UTF-8, a tenth, and
nested texts with a line end, a quote and a surrogate. -/
def sampleEntry : Entry :=
  ⟨"2024-05-01T12:00:01Z", .plain .info, "cli", "loaded",
    [(levelKey, .json (.text "mine")), (Text.ofString "note", .bytes [0xFF, 0x41]),
      (Text.ofString "part", .json (.float (.finite false 7205759403792794 (-56)))),
      (Text.ofString "items", .json (.arr [.text "a\n\"", .text [0xD800]]))]⟩

/-- A setup for information on the console, and then one of JSON that fails on its level: the one
call is not written, the other as JSON with the application, and read as it was written. -/
theorem written_after_setups_sampleEntry :
    ∃ line members, (Logger.initial.setups Settings.default.members
        [⟨.text "info", some false⟩, ⟨.text "loud", some true⟩]).written
          [sampleDetail, sampleEntry] = [line] ∧
      line.isAsciiLine = true ∧ Json.IsStandard line ∧ Json.parse line = .ok (.obj members) ∧
      members.lookup levelKey = some (.text "info") ∧
      members.lookup appKey = some (.text "db3-config-sig") ∧
      members.lookup (Text.ofString "note") = some (.text [0xFFFD, 0x41]) ∧
      members.lookup (Text.ofString "part") =
        some (.float (.finite false 7205759403792794 (-56))) := by
  have hunreserved : ∀ x ∈ [sampleDetail, sampleEntry], x.IsUnreserved := by
    have hnames : ∀ name ∈ sampleEntry.fields.map Prod.fst, name ∉ reservedNames := by decide
    simp only [List.forall_mem_cons, List.not_mem_nil, false_imp_iff, implies_true, and_true]
    exact ⟨nofun, fun field hfield => hnames _ (List.mem_map_of_mem hfield)⟩
  have hvalue {name : Text} {v : Json} (hv : (name, .json v) ∈ sampleEntry.fields) :
      v = .text "mine" ∨ v = .float (.finite false 7205759403792794 (-56)) ∨
        v = .arr [.text "a\n\"", .text [0xD800]] := by
    simp only [sampleEntry, List.mem_cons, Prod.mk.injEq, Value.json.injEq, reduceCtorEq,
      and_false, false_or, List.not_mem_nil, or_false] at hv
    exact hv.imp And.right (Or.imp And.right And.right)
  have hproper : ∀ x ∈ [sampleDetail, sampleEntry], x.IsProper := by
    simp only [List.forall_mem_cons, List.not_mem_nil, false_imp_iff, implies_true, and_true]
    refine ⟨nofun, fun name v hv => ?_⟩
    rcases hvalue hv with rfl | rfl | rfl <;> exact ⟨by decide, by decide⟩
  have hreadable : sampleEntry.IsReadable := by
    intro name v hv
    rcases hvalue hv with rfl | rfl | rfl <;> rfl
  have hunpaired : sampleEntry.IsUnpaired := by
    have hnames : (sampleEntry.fields.all fun field => field.1.isUnpaired) = true := by decide
    refine ⟨by decide, by decide, by decide, List.all_eq_true.1 hnames, fun name v hv => ?_⟩
    rcases hvalue hv with rfl | rfl | rfl <;> decide
  obtain ⟨-, honce, hentries⟩ := written_after_setups Settings.default
    [⟨.text "info", some false⟩] ⟨.text "loud", some true⟩ [sampleDetail, sampleEntry] hunreserved
    hproper
  obtain ⟨hrecord, hsome, hlines⟩ := hentries sampleEntry (by simp)
  obtain ⟨line, hline⟩ := Option.isSome_iff_exists.1 (hsome.trans rfl)
  obtain ⟨hascii, hstandard, -, -, hexact⟩ := hlines line hline
  have hwritten := honce fun x hx => by
    obtain rfl : x = sampleEntry := List.mem_singleton.1 hx
    exact hreadable
  have hlast := hwritten.trans (congrArg (fun o => [o]) hline)
  exact ⟨line, _, List.map_injective_iff.2 (Option.some_injective _) hlast, hascii,
    hstandard.2 (by decide), hexact hunpaired (by decide), hrecord.level, hrecord.app,
    hrecord.field _ (by decide), hrecord.field _ (by decide)⟩

/-- A call with one field. -/
def fieldEntry (v : Json) : Entry :=
  ⟨"2024-05-01T12:00:00Z", .plain .info, "x", "e", [(Text.ofString "n", .json v)]⟩

theorem isUnreserved_fieldEntry (v : Json) : (fieldEntry v).IsUnreserved := by
  intro field hfield
  obtain rfl := List.mem_singleton.1 hfield
  exact (by decide : Text.ofString "n" ∉ reservedNames)

/-- The logger after a setup of JSON for information. -/
def jsonLogger : Logger :=
  Logger.initial.setups Settings.default.members [⟨.text "INFO", some true⟩]

/-- The record of such a call after the setup. -/
def fieldRecord (v : Json) : List (Text × Json) := (fieldEntry v).record jsonLogger.app

theorem isRecordOf_fieldRecord (v : Json) :
    (fieldEntry v).IsRecordOf jsonLogger.app id (fieldRecord v) :=
  Entry.isRecordOf_record (isUnreserved_fieldEntry v) _

theorem lookup_fieldRecord (v : Json) : (fieldRecord v).lookup (Text.ofString "n") = some v :=
  (isRecordOf_fieldRecord v).field _ (by decide)

theorem threshold_le_fieldEntry (v : Json) :
    jsonLogger.threshold ≤ (fieldEntry v).call.level.rank := by
  show jsonLogger.threshold ≤ Level.info.rank
  decide

theorem written_fieldEntry (v : Json) :
    jsonLogger.written [fieldEntry v] = (Renderer.json.line (fieldRecord v)).toList := by
  have hrenderer : jsonLogger.renderer = some .json := rfl
  have hline : jsonLogger.lineOf (fieldEntry v) = Renderer.json.line (fieldRecord v) := by
    rw [Logger.lineOf_eq hrenderer (isUnreserved_fieldEntry v), if_pos (threshold_le_fieldEntry v)]
    rfl
  rw [Logger.written, List.filterMap_cons, List.filterMap_nil, hline]
  cases Renderer.json.line (fieldRecord v) <;> rfl

/-- The line of such a call, if its field can be written. -/
theorem written_fieldEntry_of_isReadable {v : Json}
    (h : (Json.obj (fieldRecord v)).isReadable = true) :
    jsonLogger.written [fieldEntry v] = [(Json.obj (fieldRecord v)).render .spaced] := by
  rw [written_fieldEntry, Renderer.line_json h]
  rfl

/-- Calls at or above the threshold whose one field is an integer of too many digits, which is not
written at all; the two halves of a pair, which are read as the one character; and an infinite
double, which is written as no other reader of JSON reads it. -/
theorem written_exceptions :
    (∀ v, (fieldEntry v).IsUnreserved ∧ jsonLogger.threshold ≤ (fieldEntry v).call.level.rank) ∧
    jsonLogger.written [fieldEntry (.int (10 ^ Decimal.limit : Nat))] = [] ∧
    (∃ line members, jsonLogger.written [fieldEntry (.text [0xD83D, 0xDE00])] = [line] ∧
      Json.parse line = .ok (.obj members) ∧
      members.lookup (Text.ofString "n") = some (.text [0x1F600])) ∧
    ∃ line, jsonLogger.written [fieldEntry (.float (.infinite false))] = [line] ∧
      ¬ Json.IsStandard line := by
  refine ⟨fun v => ⟨isUnreserved_fieldEntry v, threshold_le_fieldEntry v⟩, ?_, ?_, ?_⟩
  · rw [written_fieldEntry, Option.toList_eq_nil_iff, ← Option.not_isSome_iff_eq_none,
      fieldRecord, Entry.isSome_line (isUnreserved_fieldEntry _), Json.isReadable_obj_iff]
    intro hreadable
    have hfield := hreadable _ (Entries.mem_of_lookup_eq_some (lookup_fieldRecord _))
    have hexceeds : Decimal.exceedsLimit (10 ^ Decimal.limit) = true := decide_eq_true le_rfl
    rw [Json.isReadable, Json.all, Json.isReadableNode, Int.natAbs_natCast, hexceeds] at hfield
    cases hfield
  · have hrecord := isRecordOf_fieldRecord (.text [0xD83D, 0xDE00])
    have hreadable : (Json.obj (fieldRecord (.text [0xD83D, 0xDE00]))).isReadable = true := rfl
    have hcanonical : (Json.obj (fieldRecord (.text [0xD83D, 0xDE00]))).isCanonical = true := rfl
    have hnames : ∀ name ∈ Entries.keys (fieldRecord (.text [0xD83D, 0xDE00])),
        name.isUnpaired = true := by decide
    have hjoined : Text.joined [0xD83D, 0xDE00] = [0x1F600] := by decide
    have hparse := Json.parse_render_ascii Json.Style.isReadable_spaced rfl hreadable hcanonical
    rw [Json.asRead_obj hnames hrecord.nodup] at hparse
    refine ⟨_, _, written_fieldEntry_of_isReadable hreadable, hparse, ?_⟩
    rw [hrecord.asRead.field _ (by decide), ← hjoined]
    rfl
  · have hreadable : (Json.obj (fieldRecord (.float (.infinite false)))).isReadable = true := rfl
    refine ⟨_, written_fieldEntry_of_isReadable hreadable, ?_⟩
    rw [Json.isStandard_render_iff Json.Style.isReadable_spaced rfl hreadable rfl]
    decide

end SignedSetup.Log
