import SourcePrologue.Text.Quoted

/-!
# Command line arguments

A command takes options and files. An option may be shortened as long as it stays the only one that
begins so, options of one letter may share a hyphen, and a value may be joined to its option by an
equals sign; an equals sign behind one letter joins more letters as well. Everything after `--` is
a file. The files stand together: those that follow once options have interrupted them are not
recognised.
-/

namespace SourcePrologue.Arguments

/-- The argument after which there are only files. -/
def terminator : Text := "--"

/-- What an option with a value is **given**. -/
inductive Given where
  /-- The option is there, but it has nothing for a value. -/
  | nothing
  | value (text : Text)
  deriving DecidableEq

/-- What is given by a text joined to an option: a terminator is dropped there. -/
def Given.ofJoined (text : Text) : Given := if text = terminator then .nothing else .value text

/-- The value given, if there is one. -/
def Given.value? : Given → Option Text
  | nothing => none
  | value text => some text

/-- What an option does to the settings. -/
inductive Action (σ : Type) where
  /-- The option stands alone. -/
  | switch (set : σ → σ)
  /-- The option has a value. -/
  | value (set : Given → σ → σ)
  /-- The option asks for an explanation instead of a run. -/
  | help

/-- An **option** with its spellings. -/
structure Flag (σ : Type) where
  spellings : List Text
  action : Action σ

/-- Whether an option has a value. -/
def Flag.hasValue {σ : Type} (flag : Flag σ) : Bool :=
  match flag.action with
  | .value _ => true
  | _ => false

/-- Why the arguments are refused. -/
inductive Problem where
  | ambiguous (argument : Text) (matching : List Text)
  | unused (spellings : List Text) (value : Text)
  | valueMissing (spellings : List Text)
  | filesMissing
  | unrecognized (arguments : List Text)
  | oneFileOnly

/-- An option with its spellings as messages show it. -/
def flagName (spellings : List Text) : Text :=
  Text.ofString "argument " ++ Text.join (Text.ofChar '/') spellings ++ Text.ofString ": "

/-- The wording of a problem. -/
def Problem.message : Problem → Text
  | ambiguous argument matching =>
    Text.ofString "ambiguous option: " ++ argument ++ Text.ofString " could match "
      ++ Text.join (Text.ofString ", ") matching
  | unused spellings value =>
    flagName spellings ++ Text.ofString "ignored explicit argument " ++ value.quoted
  | valueMissing spellings => flagName spellings ++ Text.ofString "expected one argument"
  | filesMissing => "the following arguments are required: files"
  | unrecognized arguments =>
    Text.ofString "unrecognized arguments: " ++ Text.unwords arguments
  | oneFileOnly => "--output requires exactly one input file"

/-- What ends the reading of arguments early. -/
inductive Stop where
  | problem (p : Problem)
  | help

/-- What an argument is by itself. -/
inductive Token (σ : Type) where
  | operand (text : Text)
  /-- The argument `--`. -/
  | terminator
  /-- An option, with what is joined to it by an equals sign or behind its letter. -/
  | option (flag : Flag σ) (spelling : Text) (joined : Option Text)
  /-- An option that the command does not have. -/
  | unknown (text : Text)

section Reading

variable {σ : Type}

/-- The spellings of all options with the options, in order. -/
def spelled (flags : List (Flag σ)) : List (Text × Flag σ) :=
  flags.flatMap fun flag => flag.spellings.map (·, flag)

/-- Whether a text is a negative number, which is not taken for an option. -/
def isNegativeNumber (t : Text) : Bool :=
  match t.dropNewline with
  | .char '-' :: number =>
    match number.dropWhile Glyph.isDigit with
    | [] => !number.isEmpty
    | .char '.' :: decimals => !decimals.isEmpty && decimals.all Glyph.isDigit
    | _ => false
  | _ => false

/-- Whether an option has the long form, with two hyphens. -/
def isLong (spelling : Text) : Bool := spelling.startsWith "--"

/-- The part of an argument before its first equals sign, and the part after it. -/
def splitEquals (argument : Text) : Text × Option Text :=
  match argument.dropWhile (· != .char '=') with
  | [] => (argument, none)
  | _ :: value => (argument.takeWhile (· != .char '='), some value)

/-- All options that an argument that is no exact spelling may mean. -/
def readings (flags : List (Flag σ)) (argument : Text) : List (Text × Flag σ × Option Text) :=
  if isLong argument then
    let (start, value) := splitEquals argument
    ((spelled flags).filter (·.1.startsWith start)).map fun (spelling, flag) =>
      (spelling, flag, value)
  else
    (spelled flags).filterMap fun (spelling, flag) =>
      if spelling = argument.take 2 then some (spelling, flag, some (argument.drop 2))
      else if spelling.startsWith argument then some (spelling, flag, none)
      else none

/-- The option that an argument spells exactly, as a whole or up to an equals sign. -/
def spelledOption? (flags : List (Flag σ)) (argument : Text) : Option (Token σ) :=
  match (spelled flags).find? (·.1 == argument) with
  | some (spelling, flag) => some (.option flag spelling none)
  | none =>
    match splitEquals argument with
    | (start, some value) =>
      ((spelled flags).find? (·.1 == start)).map fun (spelling, flag) =>
        .option flag spelling (some value)
    | (_, none) => none

/-- What an argument before `--` is. -/
def classify (flags : List (Flag σ)) (argument : Text) : Except Problem (Token σ) :=
  if argument.head? ≠ some (.char '-') ∨ argument.length = 1 then .ok (.operand argument)
  else
    match spelledOption? flags argument with
    | some token => .ok token
    | none =>
      match readings flags argument with
      | [(spelling, flag, joined)] => .ok (.option flag spelling joined)
      | [] =>
        .ok (if isNegativeNumber argument || argument.contains (.char ' ') then .operand argument
          else .unknown argument)
      | several => .error (.ambiguous argument (several.map (·.1)))

/-- What the arguments are. -/
def tokens (flags : List (Flag σ)) : List Text → Except Problem (List (Token σ))
  | [] => .ok []
  | argument :: rest =>
    if argument = terminator then .ok (.terminator :: rest.map .operand)
    else do
      let token ← classify flags argument
      let others ← tokens flags rest
      .ok (token :: others)

/-- The reading of arguments in progress. -/
structure Progress (σ : Type) where
  settings : σ
  files : Option (List Text) := none
  unrecognized : List Text := []
  /-- The option that waits for its value. -/
  waiting : Option (Flag σ) := none
  /-- The files in a row; `--` may stand among them. -/
  row : List Text := []

/-- Ends a row of files. The first row are the files of the command; later ones are too many. -/
def Progress.endRow (p : Progress σ) : Progress σ :=
  let files := p.row.erase terminator
  if p.files.isNone && !files.isEmpty then { p with row := [], files := some files }
  else { p with row := [], unrecognized := p.unrecognized ++ p.row }

/-- Lets an option take effect. -/
def Progress.act (p : Progress σ) (flag : Flag σ) : Except Stop (Progress σ) :=
  match flag.action with
  | .switch set => .ok { p with settings := set p.settings }
  | .value _ => .ok { p with waiting := some flag }
  | .help => .error .help

/-- The options that are meant by an option with something joined to it: an option with a value and
that value, or options of one letter in a row, the last of them perhaps with a value. A letter that
is no option is refused with all that follows it. -/
def unfold (flags : List (Flag σ)) :
    Flag σ → Bool → Text → Except Problem (List (Flag σ × Option Given))
  | flag, _, [] =>
    if flag.hasValue then .ok [(flag, some (.ofJoined []))] else .error (.unused flag.spellings [])
  | flag, long, letter :: rest =>
    if flag.hasValue then .ok [(flag, some (.ofJoined (letter :: rest)))]
    else if long then .error (.unused flag.spellings (letter :: rest))
    else
      match (spelled flags).find? (·.1 == [.char '-', letter]) with
      | none => .error (.unused flag.spellings (letter :: rest))
      | some (_, next) =>
        if rest.isEmpty then .ok [(flag, none), (next, none)]
        else (unfold flags next false rest).map ((flag, none) :: ·)

/-- Lets the options meant by one argument take effect in order. -/
def Progress.actAll (p : Progress σ) : List (Flag σ × Option Given) → Except Stop (Progress σ)
  | [] => .ok p
  | (flag, given) :: rest => do
    let p ← match flag.action, given with
      | .value set, some given => .ok { p with settings := set given p.settings }
      | _, _ => p.act flag
    p.actAll rest

/-- Takes one argument. -/
def Progress.take (flags : List (Flag σ)) (p : Progress σ) (token : Token σ) :
    Except Stop (Progress σ) :=
  match p.waiting, token with
  | some flag, .operand text =>
    match flag.action with
    | .value set => .ok { p with settings := set (.value text) p.settings, waiting := none }
    | _ => .ok { p with waiting := none }
  | some flag, _ => .error (.problem (.valueMissing flag.spellings))
  | none, .operand text => .ok { p with row := p.row ++ [text] }
  | none, .terminator => .ok { p with row := p.row ++ [terminator] }
  | none, .unknown text =>
    let p := p.endRow
    .ok { p with unrecognized := p.unrecognized ++ [text] }
  | none, .option flag spelling joined =>
    let p := p.endRow
    match joined with
    | none => p.act flag
    | some joined =>
      match unfold flags flag (isLong spelling) joined with
      | .error problem => .error (.problem problem)
      | .ok meant => p.actAll meant

/-- The settings and the files that arguments ask for. -/
def read (flags : List (Flag σ)) (settings : σ) (arguments : List Text) :
    Except Stop (σ × List Text) := do
  let ts ← (tokens flags arguments).mapError .problem
  let p ← ts.foldlM (Progress.take flags) { settings }
  match p.waiting with
  | some flag => .error (.problem (.valueMissing flag.spellings))
  | none =>
    let p := p.endRow
    match p.files, p.unrecognized with
    | none, _ => .error (.problem .filesMissing)
    | some files, [] => .ok (p.settings, files)
    | some _, unrecognized => .error (.problem (.unrecognized unrecognized))

end Reading

end SourcePrologue.Arguments
