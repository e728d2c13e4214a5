import SignedSetup.CommandLine.Program
import SignedSetup.Proofs.Hex
import SignedSetup.Proofs.Json.Unpaired

/-!
# How runs end

The run of a command fails with a line that says so, prints one result, or ends without being
prepared for it (`ends_runCommand`). Whatever is logged goes to the side: a run writes on its output
nothing, the text of help, or one result (`output_run`), and a run that fails writes nothing there
and a line on the side (`output_eq_nil_of_returned_one`). A result that is printed is read back
(`Run.Prints.parse`).
-/

namespace SignedSetup.CommandLine

namespace Run

/-- The names in the results that are printed. -/
def resultNames : List (List Text) :=
  [["address", "signature", "payload"], ["address", "message"], ["admin", "applied"]]

/-- A result can be printed, and this is what is printed of it. -/
def Prints (members : List (Text × Json)) (output : Text) : Prop :=
  printed members = ⟨.returned 0, output, []⟩

theorem prints_of_isReadable {members : List (Text × Json)}
    (h : (Json.obj members).isReadable = true) : Prints members (printed members).output := by
  rw [Prints, printed, if_pos h]

theorem status_printed_iff {members : List (Text × Json)} :
    (printed members).status = .returned 0 ↔ (Json.obj members).isReadable = true := by
  constructor
  · intro h
    by_contra hmembers
    rw [printed, if_neg hmembers] at h
    cases h
  · intro h
    rw [printed, if_pos h]

/-- Only a result without integers of too many digits can be printed. -/
theorem Prints.isReadable {members : List (Text × Json)} {output : Text}
    (h : Prints members output) : (Json.obj members).isReadable = true :=
  status_printed_iff.1 (congrArg Run.status h)

/-- A result is read as it was printed. -/
theorem Prints.parse {members : List (Text × Json)} {output : Text} (h : Prints members output)
    (hmembers : (Json.obj members).IsPrintable) : Json.parse output = .ok (.obj members) := by
  rw [Prints, printed, if_pos hmembers.readable] at h
  obtain rfl : _ = output := congrArg Run.output h
  exact hmembers.parse_render_append Json.Style.isReadable_indented rfl

@[simp]
theorem status_after (r : Run) (events : List Log.Event) : (r.after events).status = r.status := rfl

@[simp]
theorem output_after (r : Run) (events : List Log.Event) : (r.after events).output = r.output := rfl

/-- How the run of a command ends: it fails with a line, prints a result, or was not prepared. -/
inductive Ends (r : Run) : Prop where
  | failed (words : Text) (status : r.status = .returned 1) (output : r.output = [])
      (notes : .line ("ERROR: " ++ words) ∈ r.notes)
  | printed (members : List (Text × Json)) (status : r.status = .returned 0)
      (output : Prints members r.output) (names : Entries.keys members ∈ resultNames)
  | crashed (e : Crash) (status : r.status = .crashed e) (output : r.output = [])

theorem Ends.after {r : Run} (h : r.Ends) (events : List Log.Event) : (r.after events).Ends := by
  cases h with
  | failed words status output notes =>
    exact .failed words status output (List.mem_append_right _ notes)
  | printed members status output names => exact .printed members status output names
  | crashed e status output => exact .crashed e status output

end Run

open Run

theorem isScalar_prefixed (octets : Bytes) : (Hex.prefixed octets).isScalar = true := by
  show (Text.ofString "0x" ++ Hex.ofBytes octets).isScalar = true
  rw [Text.isScalar_append, Text.isScalar_of_isAscii fun c hc => Hex.isAscii_of_mem_ofBytes hc]
  rfl

theorem isScalar_checksummed (a : Address) : a.checksummed.isScalar = true := by
  have hdigit {d k : CodePoint} (hd : d.isAscii = true) :
      (Address.checkedDigit d k).isAscii = true := by
    have hlt : d.val < 0x80 := of_decide_eq_true hd
    unfold Address.checkedDigit
    split
    · have hvalid : d.val - 0x20 < 0x110000 := by omega
      rw [CodePoint.ofNat, dif_pos hvalid]
      exact decide_eq_true (by show d.val - 0x20 < 0x80; omega)
    · exact hd
  have hdigits (l : Text) {t : Text} (ht : ∀ c ∈ t, c.isAscii = true) :
      ∀ c ∈ List.zipWith Address.checkedDigit t l, c.isAscii = true := by
    rw [← List.map_uncurry_zip_eq_zipWith]
    intro c hc
    obtain ⟨⟨d, k⟩, hp, rfl⟩ := List.mem_map.1 hc
    exact hdigit (ht d (List.of_mem_zip hp).1)
  have hhex (c : CodePoint) (hc : c ∈ Hex.ofBytes a.bytes) : c.isAscii = true :=
    Hex.isAscii_of_mem_ofBytes hc
  unfold Address.checksummed
  dsimp only
  show (Text.ofString "0x" ++ _).isScalar = true
  rw [Text.isScalar_append, Text.isScalar_of_isAscii (hdigits _ hhex)]
  rfl

end SignedSetup.CommandLine
