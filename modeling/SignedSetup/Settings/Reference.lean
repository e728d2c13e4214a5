import SignedSetup.Entries

/-!
# References between settings

A value may refer to others by name: a dollar sign, an opening brace, a name, and a closing brace.
A colon and a minus sign before the closing brace begin the text that stands in where the name has
no value. What is not written so, such as a dollar sign alone, is text.
-/

namespace SignedSetup.Settings

/-- A piece of a value. -/
inductive Piece where
  | literal (c : CodePoint)
  /-- The value of a name, or another text where the name has none. -/
  | reference (name : Text) (fallback : Text)
deriving DecidableEq

namespace Piece

/-- The reference at the beginning of a text, and what follows it. -/
def reference? (t : Text) : Option (Piece × Text) := do
  let body ← Text.dropWord? "$\x7b" t
  let closing : CodePoint := ('}' : Char)
  let name := body.takeWhile fun c => !(c = closing || c = (':' : Char))
  match body.drop name.length with
  | [] => none
  | c :: rest =>
    if c = closing then some (.reference name [], rest)
    else
      let rest ← Text.dropWord? "-" rest
      let fallback := rest.takeWhile (· ≠ closing)
      match rest.drop fallback.length with
      | [] => none
      | _ :: rest => some (.reference name fallback, rest)

/-- The pieces of a text, of which `skip` characters belong to the piece before. -/
def ofTextAfter : Nat → Text → List Piece
  | _, [] => []
  | skip + 1, _ :: rest => ofTextAfter skip rest
  | 0, c :: rest =>
    match reference? (c :: rest) with
    | some (piece, after) => piece :: ofTextAfter (rest.length - after.length) rest
    | none => .literal c :: ofTextAfter 0 rest

/-- The pieces of a text. -/
def ofText (t : Text) : List Piece := ofTextAfter 0 t

/-- The name that a piece refers to. -/
def name? : Piece → Option Text
  | .literal _ => none
  | .reference name _ => some name

/-- The text of a piece. A name may be known and yet have no value; it gives the empty text. -/
def resolve (known : List (Text × Option Text)) : Piece → Text
  | .literal c => [c]
  | .reference name fallback =>
    match known.lookup name with
    | none => fallback
    | some value => value.getD []

end Piece

/-- The text of a value in which references stand for what is known under their names. -/
def resolve (known : List (Text × Option Text)) (value : Text) : Text :=
  (Piece.ofText value).flatMap (Piece.resolve known)

end SignedSetup.Settings
