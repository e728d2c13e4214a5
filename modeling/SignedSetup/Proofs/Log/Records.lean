import Mathlib.Data.List.Induction
import SignedSetup.Log.Call
import SignedSetup.Log.Logger
import SignedSetup.Proofs.Json.Ascii
import SignedSetup.Proofs.Text.Utf8Reading

/-!
# Records of calls

Setups are done one after another, and each of them leaves a renderer behind, also one that fails on
the name of its level; the threshold and the application are those of setups that succeed
(`isAfter_setups`). The record of a call that is made then has each field of the call and the
entries of the logger (`isRecordOf_record`), and no others (`IsRecordOf.isEntryOf`).
-/

namespace SignedSetup.Log

/-! ## A sequence of setups -/

/-- The logger after setups, one after another. -/
def Logger.setups (logger : Logger) (settings : Settings.Source) (requests : List SetupRequest) :
    Logger :=
  requests.foldl (fun logger r => (logger.setup settings r).1) logger

/-- The threshold of the last setup that succeeded, or that of warnings. -/
def rootThreshold (settings : Settings.Source) (requests : List SetupRequest) : Nat :=
  (requests.filterMap fun r => (r.threshold settings).toOption).getLast?.getD Level.warning.rank

/-- The application that is bound: that of the settings, if some setup succeeded. -/
def boundApp (settings : Settings.Source) (requests : List SetupRequest) : Option Json :=
  if requests.any fun r => (r.threshold settings).isOk then some (settings.value "APP_NAME")
  else none

/-- A logger after setups. -/
structure Logger.IsAfter (settings : Settings.Source) (requests : List SetupRequest)
    (logger : Logger) : Prop where
  renderer : logger.renderer = requests.getLast?.map fun r => r.renderer settings
  threshold : logger.threshold = rootThreshold settings requests
  app : logger.app = boundApp settings requests

section Setups

variable {settings : Settings.Source} {requests : List SetupRequest} {logger : Logger}

theorem Logger.isAfter_nil : Logger.initial.IsAfter settings [] := ⟨rfl, rfl, rfl⟩

/-- One more setup puts its renderer in place. It sets the threshold and the application if it
knows the level, and else leaves both as they were. -/
theorem Logger.IsAfter.setup (h : logger.IsAfter settings requests) (r : SetupRequest) :
    (logger.setup settings r).1.IsAfter settings (requests ++ [r]) := by
  rw [Logger.setup]
  cases hr : r.threshold settings with
  | ok threshold =>
    refine ⟨by rw [List.getLast?_concat]; rfl, ?_, ?_⟩
    · rw [rootThreshold, List.filterMap_append, List.filterMap_cons_some (by rw [hr]; rfl),
        List.filterMap_nil, List.getLast?_concat]
      rfl
    · rw [boundApp, if_pos]
      rw [List.any_append, List.any_cons, hr]
      exact Bool.or_true _
  | error e =>
    refine ⟨by rw [List.getLast?_concat]; rfl, ?_, ?_⟩
    · rw [rootThreshold, List.filterMap_append, List.filterMap_cons_none (by rw [hr]; rfl),
        List.filterMap_nil, List.append_nil]
      exact h.threshold
    · rw [boundApp, List.any_append, List.any_cons, hr, List.any_nil]
      show logger.app = if (_ || (false || false)) = true then _ else _
      rw [Bool.or_self, Bool.or_false]
      exact h.app

theorem Logger.isAfter_setups (settings : Settings.Source) (requests : List SetupRequest) :
    (Logger.initial.setups settings requests).IsAfter settings requests := by
  induction requests using List.reverseRecOn with
  | nil => exact isAfter_nil
  | append_singleton requests r ih =>
    rw [Logger.setups, List.foldl_append]
    exact ih.setup r

end Setups

/-! ## Calls -/

/-- A call that logs, as it is made at a time: with the name of its logger, its event and its
fields. -/
structure Entry where
  time : Text
  call : Call
  logger : Text
  name : Text
  fields : List (Text × Value)

/-- The names that mean something to the logger itself. -/
def reservedNames : List Text :=
  ["event", "self", "method_name", "stack_info", "_record", "_from_structlog", "exc_info", "stack",
    "exception"]

namespace Entry

/-- No field of the call has a reserved name. -/
def IsUnreserved (x : Entry) : Prop := ∀ field ∈ x.fields, field.1 ∉ reservedNames

/-- The event of the call, if it is not refused. -/
def event (x : Entry) : Except Call.Fault Event := x.call.event x.logger x.name x.fields

/-- The fields that are logged: those of the call, the last of each name, and the flag of a call
that asks for an exception. -/
def loggedFields (x : Entry) : List (Text × Value) :=
  Entries.ofList x.fields ++
    if x.call = .exception then [(exceptionFlagKey, .json (.bool true))] else []

/-- The record of the call, with an application that is known or not. -/
def record (x : Entry) (app : Option Json) : List (Text × Json) :=
  Event.record ⟨x.logger, x.call.level, x.name, x.loggedFields⟩ ⟨app, x.time⟩

end Entry

namespace Entry

/-- The value that a call gives a field: the last one under its name. -/
def given? (x : Entry) (name : Text) : Option Value := x.fields.reverse.lookup name

section Unreserved

variable {x : Entry} (h : x.IsUnreserved)
include h

theorem not_mem_keys {name : Text} (hname : name ∈ reservedNames) :
    name ∉ Entries.keys (Entries.ofList x.fields) := by
  intro hmem
  rw [Entries.keys_ofList, List.mem_eraseDups] at hmem
  obtain ⟨field, hfield, rfl⟩ := List.mem_map.1 hmem
  exact h field hfield hname

theorem fault?_eq_none : x.call.fault? (Entries.ofList x.fields) = none := by
  have hclash : ((Entries.ofList x.fields).map Prod.fst).find?
      (fun (name : Text) => name = "event" || name = "self") = none := by
    refine List.find?_eq_none.2 fun name hname hreserved => ?_
    have hmem : name ∈ reservedNames := by
      rw [Bool.or_eq_true, decide_eq_true_eq, decide_eq_true_eq] at hreserved
      rcases hreserved with rfl | rfl <;> decide
    exact not_mem_keys h hmem hname
  have hmethod : Text.ofString "method_name" ∉ (Entries.ofList x.fields).map Prod.fst :=
    not_mem_keys h (by decide)
  have hrecord : (Entries.ofList x.fields).lookup (Text.ofString "_record") = none :=
    Entries.lookup_eq_none_iff.2 (not_mem_keys h (by decide))
  unfold Call.fault?
  dsimp only
  rw [hclash]
  dsimp only
  rw [if_neg (by rw [List.contains_iff_mem]; exact hmethod), hrecord]

/-- A call without reserved names is not refused. -/
theorem event_eq_ok : x.event = .ok ⟨x.logger, x.call.level, x.name, x.loggedFields⟩ := by
  have hflag : Entries.has exceptionFlagKey (Entries.ofList x.fields) = false := by
    rw [Entries.has, Entries.lookup_eq_none_iff.2 (not_mem_keys h (by decide))]
    rfl
  have hfields : x.call.loggedFields (Entries.ofList x.fields) = x.loggedFields := by
    rw [Call.loggedFields, hflag, loggedFields]
    by_cases hcall : x.call = .exception
    · rw [if_pos hcall, hcall]
      rfl
    · rw [if_neg hcall, decide_eq_false hcall, List.append_nil]
      rfl
  unfold event Call.event
  dsimp only
  rw [fault?_eq_none h, hfields]

theorem nodup_keys_loggedFields : (Entries.keys x.loggedFields).Nodup := by
  rw [loggedFields, Entries.keys, List.map_append, List.nodup_append]
  refine ⟨Entries.nodup_keys_ofList x.fields, ?_, ?_⟩
  · split
    · exact List.nodup_singleton _
    · exact List.nodup_nil
  · rintro name hname _ hflag rfl
    split at hflag
    · rw [List.map_singleton, List.mem_singleton] at hflag
      exact not_mem_keys h (by rw [hflag]; decide) hname
    · cases hflag

/-- A field that is logged is one of the call, unless it is the flag. -/
theorem lookup_loggedFields (name : Text) :
    x.loggedFields.lookup name =
      if name = exceptionFlagKey then
        if x.call = .exception then some (.json (.bool true)) else none
      else x.given? name := by
  rw [loggedFields, List.lookup_append]
  by_cases hname : name = exceptionFlagKey
  · rw [if_pos hname, Entries.lookup_eq_none_iff.2 (not_mem_keys h (by rw [hname]; decide)),
      Option.none_or, hname]
    split
    · rw [List.lookup_cons, beq_self_eq_true]
    · rfl
  · have hflag : List.lookup name
        (if x.call = .exception then [(exceptionFlagKey, Value.json (.bool true))] else []) =
          none := by
      split
      · rw [List.lookup_cons, beq_false_of_ne hname]
        rfl
      · rfl
    rw [if_neg hname, hflag, Option.or_none, Entries.lookup_ofList, given?]

/-- None of the fields that are logged is left out of the record. -/
theorem filter_loggedFields :
    (x.loggedFields.filter fun (k, _) => !unwrittenNames.contains k) = x.loggedFields := by
  refine List.filter_eq_self.2 fun field hfield => ?_
  rw [Bool.not_eq_true', ← Bool.not_eq_true, List.contains_iff_mem]
  intro hname
  rcases List.mem_append.1 hfield with hfield | hfield
  · refine not_mem_keys h ?_ (List.mem_map_of_mem hfield)
    exact (by decide : ∀ name ∈ unwrittenNames, name ∈ reservedNames) _ hname
  · split at hfield
    · rw [List.mem_singleton.1 hfield] at hname
      exact absurd hname (by decide)
    · cases hfield

end Unreserved

end Entry

/-! ## Records -/

/-- Entries with an application, if one is known and none is there. -/
def withApp (app : Option Json) (entries : List (Text × Json)) : List (Text × Json) :=
  match app with
  | some app => if Entries.has appKey entries then entries else entries ++ [(appKey, app)]
  | none => entries

theorem lookup_withApp (app : Option Json) (entries : List (Text × Json)) (name : Text) :
    (withApp app entries).lookup name =
      if name = appKey then (entries.lookup name).or app else entries.lookup name := by
  cases app with
  | none =>
    rw [Option.or_none, ite_self]
    rfl
  | some app =>
    rw [withApp]
    by_cases hname : name = appKey
    · rw [if_pos hname, hname]
      cases hlookup : entries.lookup appKey with
      | some v =>
        rw [if_pos (by rw [Entries.has, hlookup]; rfl), hlookup]
        rfl
      | none =>
        rw [if_neg (by rw [Entries.has, hlookup]; exact Bool.false_ne_true), List.lookup_append,
          hlookup, List.lookup_cons, beq_self_eq_true]
    · rw [if_neg hname]
      split
      · rfl
      · rw [List.lookup_append, List.lookup_cons, beq_false_of_ne hname]
        exact Option.or_none

theorem nodup_keys_withApp (app : Option Json) {entries : List (Text × Json)}
    (h : (Entries.keys entries).Nodup) : (Entries.keys (withApp app entries)).Nodup := by
  cases app with
  | none => exact h
  | some app =>
    rw [withApp]
    split
    · exact h
    · next hhas =>
      have hkey : appKey ∉ Entries.keys entries := by
        rwa [← Entries.lookup_eq_none_iff, ← Option.not_isSome_iff_eq_none]
      rw [← Entries.insert_eq_append hkey]
      exact Entries.nodup_keys_insert h _ _

namespace Entry

/-- The fields of the call and its event as they are written. -/
def named (x : Entry) : List (Text × Json) :=
  Entries.insert eventKey (.text x.name) (x.loggedFields.map fun field =>
    (field.1, field.2.written))

/-- The names of the entries that a logger adds. -/
def addedNames : List Text := [eventKey, appKey, levelKey, loggerKey, timeKey, exceptionFlagKey]

end Entry

/-- What is read of a field: of octets the text that they are written as. -/
def Value.readBy (read : Json → Json) : Value → Json
  | .json v => read v
  | .bytes b => .text (Utf8.decodeLossy b)

theorem Value.readBy_id : Value.readBy id = Value.written := by
  funext v
  cases v <;> rfl

theorem Value.readBy_asRead : Value.readBy Json.asRead = Json.asRead ∘ Value.written := by
  funext v
  cases v with
  | json v => rfl
  | bytes b => exact (Json.asRead_text (Utf8.isScalar_decodeLossy b)).symm

namespace Entry

/-- Entries hold what a record of the call has to hold, each value as it is read: the event, the
level, the logger and the time, whatever fields of these names the call gave; the application of the
call, or else the one that is known; and of all other names the field of the call, if it gave
one. -/
structure IsRecordOf (x : Entry) (app : Option Json) (read : Json → Json)
    (entries : List (Text × Json)) : Prop where
  event : entries.lookup eventKey = some (read (.text x.name))
  level : entries.lookup levelKey = some (.text x.call.level.name)
  logger : entries.lookup loggerKey = some (read (.text (loggerName x.logger)))
  time : entries.lookup timeKey = some (read (.text x.time))
  app : entries.lookup appKey = ((x.given? appKey).map (Value.readBy read)).or (app.map read)
  flag : entries.lookup exceptionFlagKey =
    if x.call = .exception then some (.bool true) else none
  field (name : Text) (h : name ∉ addedNames) :
    entries.lookup name = (x.given? name).map (Value.readBy read)
  nodup : (Entries.keys entries).Nodup

section Unreserved

variable {x : Entry} (h : x.IsUnreserved)
include h

theorem record_eq (app : Option Json) :
    x.record app = Entries.insert timeKey (.text x.time)
      (Entries.insert loggerKey (.text (loggerName x.logger))
        (Entries.insert levelKey (.text x.call.level.name) (withApp app x.named))) := by
  have hfields : Entries.ofList (x.loggedFields.map fun field => (field.1, field.2.written)) =
      x.loggedFields.map fun field => (field.1, field.2.written) := by
    refine Entries.ofList_eq_self ?_
    rw [Entries.keys, List.map_map]
    exact nodup_keys_loggedFields h
  unfold record Event.record
  dsimp only
  rw [filter_loggedFields h, hfields]
  rfl

theorem lookup_named (name : Text) :
    x.named.lookup name =
      if name = eventKey then some (.text x.name)
      else if name = exceptionFlagKey then
        if x.call = .exception then some (.bool true) else none
      else (x.given? name).map Value.written := by
  rw [named, Entries.lookup_insert, Entries.lookup_map, lookup_loggedFields h]
  split_ifs <;> rfl

/-- The record of a call holds what it has to hold. -/
theorem isRecordOf_record (app : Option Json) : x.IsRecordOf app id (x.record app) := by
  have hlookup (name : Text) : (x.record app).lookup name =
      if name = timeKey then some (.text x.time)
      else if name = loggerKey then some (.text (loggerName x.logger))
      else if name = levelKey then some (.text x.call.level.name)
      else if name = appKey then (x.named.lookup name).or app
      else x.named.lookup name := by
    rw [record_eq h, Entries.lookup_insert, Entries.lookup_insert, Entries.lookup_insert,
      lookup_withApp]
  refine ⟨?event, ?level, ?logger, ?time, ?known, ?flag, fun name hname => ?field, ?nodup⟩
  case event =>
    rw [hlookup, if_neg (by decide), if_neg (by decide), if_neg (by decide), if_neg (by decide),
      lookup_named h, if_pos rfl]
    rfl
  case level => rw [hlookup, if_neg (by decide), if_neg (by decide), if_pos rfl]
  case logger =>
    rw [hlookup, if_neg (by decide), if_pos rfl]
    rfl
  case time =>
    rw [hlookup, if_pos rfl]
    rfl
  case known =>
    rw [hlookup, if_neg (by decide), if_neg (by decide), if_neg (by decide), if_pos rfl,
      lookup_named h, if_neg (by decide), if_neg (by decide), Value.readBy_id, Option.map_id]
    rfl
  case flag =>
    rw [hlookup, if_neg (by decide), if_neg (by decide), if_neg (by decide), if_neg (by decide),
      lookup_named h, if_neg (by decide), if_pos rfl]
  case field =>
    simp only [addedNames, List.mem_cons, List.not_mem_nil, or_false, not_or] at hname
    obtain ⟨hevent, happ, hlevel, hlogger, htime, hflag⟩ := hname
    rw [hlookup, if_neg htime, if_neg hlogger, if_neg hlevel, if_neg happ, lookup_named h,
      if_neg hevent, if_neg hflag, Value.readBy_id]
  case nodup =>
    have hnamed : (Entries.keys x.named).Nodup := by
      refine Entries.nodup_keys_insert ?_ _ _
      rw [Entries.keys, List.map_map]
      exact nodup_keys_loggedFields h
    rw [record_eq h]
    exact Entries.nodup_keys_insert (Entries.nodup_keys_insert (Entries.nodup_keys_insert
      (nodup_keys_withApp app hnamed) _ _) _ _) _ _

end Unreserved

/-- An entry of the record of a call: one that the logger adds, or a field of the call. -/
inductive IsEntryOf (x : Entry) (app : Option Json) : Text → Json → Prop where
  | event : IsEntryOf x app eventKey (.text x.name)
  | level : IsEntryOf x app levelKey (.text x.call.level.name)
  | logger : IsEntryOf x app loggerKey (.text (loggerName x.logger))
  | time : IsEntryOf x app timeKey (.text x.time)
  | app {v : Json} (h : app = some v) : IsEntryOf x app appKey v
  | flag : IsEntryOf x app exceptionFlagKey (.bool true)
  | field {name : Text} {v : Value} (h : (name, v) ∈ x.fields) : IsEntryOf x app name v.written

section Entries

variable {x : Entry} {app : Option Json} {entries : List (Text × Json)}

theorem isEntryOf_of_given? {name : Text} {v : Value} (h : x.given? name = some v) :
    x.IsEntryOf app name v.written :=
  .field (List.mem_reverse.1 (Entries.mem_of_lookup_eq_some h))

theorem IsRecordOf.isEntryOf (h : x.IsRecordOf app id entries) {name : Text} {v : Json}
    (hmem : (name, v) ∈ entries) : x.IsEntryOf app name v := by
  have hlookup := Entries.lookup_eq_some_of_mem h.nodup hmem
  by_cases hname : name ∈ addedNames
  · simp only [addedNames, List.mem_cons, List.not_mem_nil, or_false] at hname
    rcases hname with rfl | rfl | rfl | rfl | rfl | rfl
    · rw [← Option.some.inj (h.event.symm.trans hlookup)]
      exact .event
    · have happ := h.app.symm.trans hlookup
      rw [Value.readBy_id, Option.map_id] at happ
      cases hgiven : x.given? appKey with
      | some given =>
        rw [hgiven] at happ
        rw [← Option.some.inj happ]
        exact isEntryOf_of_given? hgiven
      | none =>
        rw [hgiven] at happ
        exact .app happ
    · rw [← Option.some.inj (h.level.symm.trans hlookup)]
      exact .level
    · rw [← Option.some.inj (h.logger.symm.trans hlookup)]
      exact .logger
    · rw [← Option.some.inj (h.time.symm.trans hlookup)]
      exact .time
    · have hflag := h.flag.symm.trans hlookup
      split at hflag
      · rw [← Option.some.inj hflag]
        exact .flag
      · cases hflag
  · have hfield := (h.field name hname).symm.trans hlookup
    rw [Value.readBy_id] at hfield
    obtain ⟨given, hgiven, rfl⟩ := Option.map_eq_some_iff.1 hfield
    exact isEntryOf_of_given? hgiven

/-- What is read of a record as it is written in ASCII is again a record of the call. -/
theorem IsRecordOf.asRead (h : x.IsRecordOf app id entries) :
    x.IsRecordOf app Json.asRead (entries.map fun entry => (entry.1, entry.2.asRead)) := by
  have hlookup (name : Text) := Entries.lookup_map Json.asRead entries name
  refine ⟨?event, ?level, ?logger, ?time, ?known, ?flag, fun name hname => ?field, ?nodup⟩
  case event => rw [hlookup, h.event]; rfl
  case level =>
    rw [hlookup, h.level]
    cases x.call.level <;> rfl
  case logger => rw [hlookup, h.logger]; rfl
  case time => rw [hlookup, h.time]; rfl
  case known =>
    rw [hlookup, h.app, Option.map_or, Option.map_map, Value.readBy_id, Value.readBy_asRead,
      Option.map_id]
    rfl
  case flag =>
    rw [hlookup, h.flag]
    split <;> rfl
  case field =>
    rw [hlookup, h.field name hname, Option.map_map, Value.readBy_id, Value.readBy_asRead]
  case nodup =>
    rw [Entries.keys, List.map_map]
    exact h.nodup

end Entries

end Entry

end SignedSetup.Log
