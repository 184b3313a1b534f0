/-!
# The command line

The arguments of the program are options only. A long option takes its value from the argument after
it, or from behind an equals sign; short options can be written together, and the rest of such a
word is the value of the first that takes one. No option is given twice.

The arguments are looked at in their order: the first request for help or for the version is granted
if nothing before it is wrong.
-/

namespace Bitwise

/-- What the options ask for. -/
structure Options where
  /-- A statement to evaluate instead of a session. -/
  statement : Option String
  /-- The file of the session's history. -/
  history : Option String
  /-- Whether the session has no history. -/
  noHistory : Bool
  deriving DecidableEq

/-- What the arguments ask for. -/
inductive Request
  | help
  | version
  | run (options : Options)
  /-- The arguments are wrong. -/
  | misuse
  deriving DecidableEq

/-- An option, once its name is known. -/
inductive Switch
  | statement
  | history
  | noHistory
  | help
  | version
  deriving DecidableEq

namespace Switch

/-- The option of a long name. -/
def ofName? (name : List Char) : Option Switch :=
  if name = "cmd".toList then some .statement
  else if name = "history".toList then some .history
  else if name = "no-history".toList then some .noHistory
  else if name = "help".toList then some .help
  else if name = "version".toList then some .version
  else none

/-- The option of a letter. -/
def ofLetter? : Char → Option Switch
  | 'c' => some .statement
  | 'h' => some .help
  | 'V' => some .version
  | _ => none

/-- Whether an option takes a value. -/
def takesValue : Switch → Bool
  | .statement | .history => true
  | _ => false

end Switch

namespace Options

/-- No option is given. -/
def unset : Options :=
  ⟨none, none, false⟩

/-- The options with the value of one more, unless it is given already. A file has a name. -/
def withValue? (o : Options) (value : List Char) : Switch → Option Options
  | .statement =>
    if o.statement.isSome then none
    else some { o with statement := String.ofList value }
  | .history =>
    if o.history.isSome || value.isEmpty then none
    else some { o with history := String.ofList value }
  | _ => none

end Options

/-- The first half of a word up to an equals sign, and what follows the sign if there is one. -/
def splitAtEquals (word : List Char) : List Char × Option (List Char) :=
  match word.dropWhile (· != '=') with
  | [] => (word, none)
  | _ :: value => (word.takeWhile (· != '='), some value)

/-- A value that is written in the word of its option, behind an equals sign or not. -/
def attachedValue : List Char → Option (List Char)
  | [] => none
  | '=' :: value => some value
  | value => some value

/-- Whether an argument can be the value of the option before it: a dash begins an option, unless it
    stands alone. -/
def isValue : List Char → Bool
  | ['-'] => true
  | '-' :: _ => false
  | _ => true

/-- What has been made of one word: it decides the request, or it gives options, the last of which
    may have its value in the next argument. -/
inductive WordResult
  | decided (request : Request)
  | options (options : Options)
  | needsValue (options : Options) (switch : Switch)

/-- Reads an option with the value in its word, if there is any. -/
def readSwitch (o : Options) (attached : Option (List Char)) (switch : Switch) : WordResult :=
  if switch.takesValue then
    match attached with
    | none => .needsValue o switch
    | some value =>
      match o.withValue? value switch with
      | some o => .options o
      | none => .decided .misuse
  else if attached.isSome then .decided .misuse
  else
    match switch with
    | .help => .decided .help
    | .version => .decided .version
    | _ => if o.noHistory then .decided .misuse else .options { o with noHistory := true }

/-- Reads options that are written as letters in one word. -/
def readLetters (o : Options) : List Char → WordResult
  | [] => .options o
  | c :: cs =>
    match Switch.ofLetter? c with
    | none => .decided .misuse
    | some switch =>
      if switch.takesValue then readSwitch o (attachedValue cs) switch
      else
        match readSwitch o none switch with
        | .options o => readLetters o cs
        | result => result

/-- Reads an argument that is not the value of another. -/
def readWord (o : Options) : List Char → WordResult
  | '-' :: '-' :: word =>
    match splitAtEquals word with
    | (name, attached) =>
      match Switch.ofName? name with
      | none => .decided .misuse
      | some switch => readSwitch o attached switch
  | '-' :: c :: cs => readLetters o (c :: cs)
  | _ => .decided .misuse

namespace Request

/-- Reads arguments after some options, the last of which may wait for its value. -/
def ofArgs (o : Options) (waiting : Option Switch) : List String → Request
  | [] => if waiting.isSome then misuse else .run o
  | arg :: args =>
    match waiting with
    | some switch =>
      if isValue arg.toList then
        match o.withValue? arg.toList switch with
        | some o => ofArgs o none args
        | none => misuse
      else misuse
    | none =>
      if arg = "--" then if args.isEmpty then .run o else misuse
      else
        match readWord o arg.toList with
        | .decided request => request
        | .options o => ofArgs o none args
        | .needsValue o switch => ofArgs o (some switch) args

/-- What the arguments of the program ask for. -/
def parse (args : List String) : Request :=
  ofArgs .unset none args

end Request

end Bitwise
