import SignedSetup.Text.DecimalDigit
import SignedSetup.Text.Quoted

/-!
# Arguments of a command line

Arguments are options, positional arguments and a separator `--`, after which all arguments are
positional. An option may be shortened as long as it stands for one option only, and may have its
value behind an equals sign; one that could stand for several is refused before any argument is
taken. What looks like an option and is none is kept aside (`extras`), as are
positional arguments that are too many.

Positional arguments are taken in groups: as many of those that are wanted as there are arguments
before the next option. A separator next to an argument is taken with it and dropped from its
values once; so an argument after the separator that is itself spelled `--` leaves no value.
-/

namespace SignedSetup.CommandLine

/-- An option that is understood. -/
inductive Flag where
  | help
  /-- An option with a value. -/
  | valued (name : Text)
deriving DecidableEq

/-- The spellings of an option. -/
def Flag.spellings : Flag → List Text
  | .help => ["-h", "--help"]
  | .valued name => ["--" ++ name]

/-- The option in a complaint. -/
def Flag.shown (f : Flag) : Text := Text.join "/" f.spellings

/-- An option as it was found in an argument. -/
structure Found where
  /-- The argument. -/
  argument : Text
  /-- The option that is meant; `none` if it is not understood. -/
  flag : Option Flag
  /-- The option was spelled with one dash. -/
  short : Bool
  /-- The value that the argument holds. -/
  value : Option Text

/-- An argument as it is understood. -/
inductive Token where
  | separator
  | positional (argument : Text)
  | option (found : Found)

/-- The argument of a token. -/
def Token.argument : Token → Text
  | .separator => "--"
  | .positional argument => argument
  | .option found => found.argument

/-- The token is an option. -/
def Token.isOption : Token → Bool
  | .option _ => true
  | _ => false

/-! ## Understanding arguments -/

/-- A negative number is no option: a minus sign, and digits of any script with at most one point,
which does not stand at the end. A line feed may end it. -/
def isNegativeNumber (argument : Text) : Bool :=
  let isDigit (c : CodePoint) : Bool := (c.decimalDigit?).isSome
  let digitsToEnd (t : Text) : Bool :=
    let digits := t.takeWhile isDigit
    !digits.isEmpty && (t.drop digits.length = [] || t.drop digits.length = "\n")
  match argument with
  | [] => false
  | c :: body =>
    let fraction? := Text.dropWord? "." (body.dropWhile isDigit)
    c = '-' && (digitsToEnd body || (fraction?.map digitsToEnd).getD false)

/-- The parts of an argument around its first equals sign. -/
def splitValue (argument : Text) : Text × Option Text :=
  let name := argument.takeWhile (· ≠ CodePoint.ofChar '=')
  match argument.drop name.length with
  | [] => (name, none)
  | _ :: value => (name, some value)

/-- The options with a spelling that has a property, with that spelling. -/
def candidates (flags : List Flag) (p : Text → Bool) : List (Flag × Text) :=
  flags.flatMap fun f => (f.spellings.filter p).map fun spelling => (f, spelling)

/-- The options that an argument may stand for by its beginning, with their spellings. -/
def abbreviations (flags : List Flag) (argument : Text) : List (Text × Found) :=
  let (name, value) := splitValue argument
  match argument with
  | _ :: second :: rest =>
    if second = '-' then
      (candidates flags name.isPrefixOf).map fun (f, spelling) =>
        (spelling, ⟨argument, some f, false, value⟩)
    else
      (candidates flags (· = argument.take 2)).map (fun (f, spelling) =>
        (spelling, ⟨argument, some f, true, some rest⟩)) ++
      (candidates flags argument.isPrefixOf).map fun (f, spelling) =>
        (spelling, ⟨argument, some f, spelling.length = 2, none⟩)
  | _ => []

/-- Why the arguments are not taken. -/
inductive Stop where
  /-- Help is asked for. -/
  | help
  /-- An argument may stand for several options, which have the given spellings. -/
  | ambiguous (argument : Text) (spellings : List Text)
  /-- An option is not used as it should be. -/
  | misused (flag : Flag) (words : Text)
  /-- Positional arguments are missing. -/
  | missing (names : List Text)

/-- An argument that is spelled like no option as a token. -/
def classifyOther (flags : List Flag) (argument : Text) : Except Stop Token :=
  match abbreviations flags argument with
  | [(_, found)] => .ok (.option found)
  | [] =>
    if isNegativeNumber argument || argument.contains (CodePoint.ofChar ' ') then
      .ok (.positional argument)
    else .ok (.option ⟨argument, none, false, none⟩)
  | several => .error (.ambiguous argument (several.map Prod.fst))

/-- An argument before any separator as a token. -/
def classify (flags : List Flag) (argument : Text) : Except Stop Token :=
  let exact (name : Text) (value : Option Text) : Option Token :=
    (candidates flags (· = name)).head?.map fun (f, spelling) =>
      .option ⟨argument, some f, spelling.length = 2, value⟩
  let (name, value) := splitValue argument
  if argument.head? ≠ some (CodePoint.ofChar '-') then .ok (.positional argument)
  else
    match exact argument none with
    | some token => .ok token
    | none =>
      if argument.length = 1 then .ok (.positional argument)
      else
        match value.bind fun value => exact name (some value) with
        | some token => .ok token
        | none => classifyOther flags argument

/-- Arguments as tokens. -/
def tokens (flags : List Flag) : List Text → Except Stop (List Token)
  | [] => .ok []
  | argument :: arguments =>
    if argument = "--" then .ok (.separator :: arguments.map .positional)
    else do
      let token ← classify flags argument
      return token :: (← tokens flags arguments)

/-! ## Taking arguments -/

/-- A positional argument that is wanted: one argument, or one and all that follow it. -/
inductive Wanted where
  | one (name : Text)
  | rest (name : Text)

/-- The name of a positional argument. -/
def Wanted.name : Wanted → Text
  | .one name => name
  | .rest name => name

/-- The separators at the beginning of tokens, as arguments, and what follows them. -/
def takeSeparators : List Token → List Text × List Token
  | .separator :: rest =>
    let (separators, rest) := takeSeparators rest
    ("--" :: separators, rest)
  | rest => ([], rest)

/-- The arguments for a positional argument that is wanted, and the tokens after them. -/
def takeWanted (w : Wanted) (ts : List Token) : Option (List Text × List Token) :=
  let (before, rest) := takeSeparators ts
  match rest with
  | .positional argument :: rest =>
    match w with
    | .one _ =>
      let (after, rest) := takeSeparators rest
      some (before ++ argument :: after, rest)
    | .rest _ => some (before ++ argument :: rest.map Token.argument, [])
  | _ => none

/-- What has been taken. -/
structure Taken where
  /-- The arguments of the positional arguments, in the order of their names. -/
  positionals : List (Text × List Text)
  /-- The values of options, the latest first. -/
  options : List (Text × Option Text)
  /-- The arguments that were not understood. -/
  extras : List Text

/-- Take as many of the positional arguments that are wanted as can be taken. -/
def takeAllWanted : List Wanted → List Token → List (Text × List Text) × List Wanted × List Token
  | [], ts => ([], [], ts)
  | w :: wanted, ts =>
    match takeWanted w ts with
    | none => ([], w :: wanted, ts)
    | some (arguments, rest) =>
      let (taken, wanted, rest) := takeAllWanted wanted rest
      ((w.name, arguments) :: taken, wanted, rest)

/-- A value without a separator. -/
def withoutSeparator (arguments : List Text) : Option Text :=
  (arguments.erase "--").head?

/-- What a complaint says of a value that an option does not have. -/
def ignoredValue (value : Text) : Text := "ignored explicit argument " ++ value.quoted

/-- Take an option and its value from the tokens after it. A short option for help may come several
times behind one dash. -/
def takeOption (found : Found) (ts : List Token) (taken : Taken) :
    Except Stop (Taken × List Token) :=
  match found.flag, found.value with
  | none, _ => .ok ({ taken with extras := taken.extras ++ [found.argument] }, ts)
  | some .help, none => .error .help
  | some .help, some value =>
    if found.short && !value.isEmpty then
      match value.dropWhile (· = CodePoint.ofChar 'h') with
      | [] => .error .help
      | rest => .error (.misused .help (ignoredValue rest))
    else .error (.misused .help (ignoredValue value))
  | some (.valued name), some value =>
    .ok ({ taken with options := (name, withoutSeparator [value]) :: taken.options }, ts)
  | some (.valued name), none =>
    match ts with
    | .positional argument :: rest =>
      .ok ({ taken with options := (name, withoutSeparator [argument]) :: taken.options }, rest)
    | _ => .error (.misused (.valued name) "expected one argument")

/-- Take all arguments, with fuel for so many turns; each turn takes a token. -/
def take : Nat → List Wanted → List Token → Taken → Except Stop (Taken × List Wanted)
  | 0, wanted, _, taken => .ok (taken, wanted)
  | fuel + 1, wanted, ts, taken =>
    let (found, stillWanted, rest) := takeAllWanted wanted ts
    let positionals := taken.positionals ++ found
    if ts.any Token.isOption then
      match ts with
      | .option found :: rest => do
        let (taken, rest) ← takeOption found rest taken
        take fuel wanted rest taken
      | ts =>
        if !found.isEmpty then take fuel stillWanted rest { taken with positionals }
        else
          let strays := ts.takeWhile fun t => !t.isOption
          take fuel wanted (ts.drop strays.length)
            { taken with extras := taken.extras ++ strays.map Token.argument }
    else
      .ok ({ taken with positionals, extras := taken.extras ++ rest.map Token.argument },
        stillWanted)

/-- Take the arguments of a command. -/
def takeArguments (flags : List Flag) (wanted : List Wanted) (arguments : List Text) :
    Except Stop Taken := do
  let ts ← tokens flags arguments
  let (taken, missing) ← take (2 * ts.length + 1) wanted ts ⟨[], [], []⟩
  if missing.isEmpty then return taken else .error (.missing (missing.map Wanted.name))

end SignedSetup.CommandLine
