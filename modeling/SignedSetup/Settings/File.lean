import SignedSetup.Settings.Reference
import SignedSetup.Text.Blank
import SignedSetup.Text.Lines

/-!
# Settings files

A settings file has one binding to a line: a name, an equals sign and a value. The word `export`
may stand before the name. A value between single quotes is taken as it is but for an escaped quote
or backslash; between double quotes it has escapes, and either may run over several lines. A bare
value ends before a blank and a hash sign. A name alone has no value, and a line that cannot be
read is passed over. Of two bindings of one name the later holds. A value may refer to the values
that stand before it in the file, and to those of the environment. A byte order mark may begin the
file.
-/

namespace SignedSetup.Settings.File

/-- A character that ends a line. -/
def isNewline (c : CodePoint) : Bool := c = '\n' || c = '\r'

/-- A blank within a line. -/
def isInnerBlank (c : CodePoint) : Bool := c.isBlank && !isNewline c

/-- The text after the line that it begins with. -/
def dropLine (t : Text) : Text :=
  match t.dropWhile fun c => !isNewline c with
  | [] => []
  | c :: rest =>
    match rest with
    | [] => []
    | d :: more => if c = '\r' && d = '\n' then more else rest

/-- The text after blanks within the line. -/
def dropInnerBlanks (t : Text) : Text := t.dropWhile isInnerBlank

/-- The text after a comment, if there is one. -/
def dropComment (t : Text) : Text :=
  match t with
  | [] => []
  | c :: _ => if c = '#' then t.dropWhile fun c => !isNewline c else t

/-- The line ends here. -/
def atLineEnd (t : Text) : Bool :=
  match t with
  | [] => true
  | c :: _ => isNewline c

/-- The text up to the next quote, and what follows that. A backslash keeps the character after it
from ending the text. -/
def quotedBody (quote : CodePoint) : Text → Option (Text × Text)
  | [] => none
  | [c] => if c = quote then some ([], []) else none
  | c :: d :: rest =>
    if c = quote then some ([], d :: rest)
    else if c = '\\' then (quotedBody quote rest).map fun (body, rest) => (c :: d :: body, rest)
    else (quotedBody quote (d :: rest)).map fun (body, rest) => (c :: body, rest)

/-- The character that an escape between double quotes stands for. -/
def doubleEscape? (c : CodePoint) : Option CodePoint :=
  if c = '\\' || c = '\'' || c = '"' then some c
  else if c = 'a' then some 0x07
  else if c = 'b' then some 0x08
  else if c = 'f' then some 0x0C
  else if c = 'n' then some 0x0A
  else if c = 'r' then some 0x0D
  else if c = 't' then some 0x09
  else if c = 'v' then some 0x0B
  else none

/-- The character that an escape between single quotes stands for. -/
def singleEscape? (c : CodePoint) : Option CodePoint :=
  if c = '\\' || c = '\'' then some c else none

/-- A text with its escapes replaced; a backslash before another character stays. -/
def unescape (escape? : CodePoint → Option CodePoint) : Text → Text
  | [] => []
  | [c] => [c]
  | c :: d :: rest =>
    if c = '\\' then
      match escape? d with
      | some e => e :: unescape escape? rest
      | none => c :: unescape escape? (d :: rest)
    else c :: unescape escape? (d :: rest)

/-- A line up to a hash sign that has a blank before it. -/
def upToComment (afterBlank : Bool) : Text → Text
  | [] => []
  | c :: rest => if afterBlank && c = '#' then [] else c :: upToComment c.isBlank rest

/-- A bare value: the line up to a blank with a hash sign after it, without blanks at its end. -/
def bareValue (afterBlank : Bool) (line : Text) : Text :=
  (upToComment afterBlank line).trimRight CodePoint.isBlank

/-- The value at the beginning of a text, with a blank before it or not, and what follows it. -/
def value (afterBlank : Bool) (t : Text) : Option (Text × Text) :=
  match t with
  | [] => some ([], [])
  | c :: rest =>
    if c = '\'' then
      (quotedBody c rest).map fun (body, rest) => (unescape singleEscape? body, rest)
    else if c = '"' then
      (quotedBody c rest).map fun (body, rest) => (unescape doubleEscape? body, rest)
    else
      let line := t.takeWhile fun c => !isNewline c
      some (bareValue afterBlank line, t.drop line.length)

/-- The text after the word `export` and blanks, if it begins with them. -/
def dropExport (t : Text) : Text :=
  match Text.dropWord? "export" t with
  | none => t
  | some rest => if (dropInnerBlanks rest).length < rest.length then dropInnerBlanks rest else t

/-- A character of a bare name. -/
def isNameChar (c : CodePoint) : Bool := !(c = '=' || c = '#' || c.isBlank)

/-- The name at the beginning of a text, and what follows it. -/
def name (t : Text) : Option (Text × Text) :=
  match t with
  | [] => none
  | c :: rest =>
    if c = '\'' then
      let body := rest.takeWhile (· ≠ c)
      match rest.drop body.length with
      | [] => none
      | _ :: after => if body.isEmpty then none else some (body, after)
    else
      let body := t.takeWhile isNameChar
      if body.isEmpty then none else some (body, t.drop body.length)

/-- A binding at the beginning of a text with the text after its line. The value is `none` for a
name alone. A line that cannot be read gives the text from the place where reading stopped. -/
def binding (t : Text) : Except Text (Text × Option Text × Text) :=
  let t := dropExport t
  match name t with
  | none => .error t
  | some (name, rest) =>
    let finish (v : Option Text) (rest : Text) : Except Text (Text × Option Text × Text) :=
      let rest := dropComment (dropInnerBlanks rest)
      if atLineEnd rest then .ok (name, v, dropLine rest) else .error rest
    match dropInnerBlanks rest with
    | [] => finish none []
    | c :: after =>
      if c = '=' then
        let written := dropInnerBlanks after
        match value (written.length < after.length) written with
        | some (v, rest) => finish (some v) rest
        | none => .error written
      else finish none (c :: after)

/-- The bindings of a text, with fuel for so many lines. -/
def bindings : Nat → Text → List (Text × Option Text)
  | 0, _ => []
  | fuel + 1, t =>
    let t := t.dropWhile CodePoint.isBlank
    match t with
    | [] => []
    | c :: _ =>
      if c = '#' then bindings fuel (dropLine t)
      else
        match binding t with
        | .ok (name, v, rest) => (name, v) :: bindings fuel rest
        | .error rest => bindings fuel (dropLine rest)

/-- The bindings of a file, their references not yet resolved. -/
def bindingsOf (file : Text) : List (Text × Option Text) :=
  let content : Text := if file.head? = some 0xFEFF then file.drop 1 else file
  bindings (content.length + 1) content.normalizeNewlines

/-- The names that the values of a file refer to. -/
def references (file : Text) : List Text :=
  (bindingsOf file).flatMap fun (_, value) =>
    (Piece.ofText (value.getD [])).filterMap Piece.name?

/-- The values of bindings, each resolved in the environment and the values before it. -/
def resolveAll (environment : List (Text × Text)) (written : List (Text × Option Text)) :
    List (Text × Option Text) :=
  written.foldl (fun found (name, value) =>
    let known := found ++ environment.map fun (name, value) => (name, some value)
    Entries.insert name (value.map (resolve known)) found) []

/-- The values that a settings file gives where the environment has the given values. -/
def parse (environment : List (Text × Text)) (file : Text) : List (Text × Text) :=
  (resolveAll environment (bindingsOf file)).filterMap fun (name, v) => v.map fun v => (name, v)

end SignedSetup.Settings.File
