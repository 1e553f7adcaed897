/-
# Crochet.CommandLine.Request -- what a command line asks for

A command line is a command and its options.  Every option has a long name,
is given at most once, and is either a flag or takes a value, as the next
argument or after `=`.  A value in an argument of its own may not look like an
option, except for the lone `-`.  A closing `--` ends the options, and nothing
may follow it.  What does not fit is no request.
-/
import Crochet.Decimal.Reader
import Crochet.Terminology

set_option autoImplicit false

namespace Crochet.CommandLine

/-- Where a pattern comes from, and its vocabulary. -/
structure Source where
  path : String
  terms : Terminology
deriving Repr

/-- What a command line asks for. -/
inductive Request where
  | version
  | parse (source : Source) (document hints : Bool)
  | play (source : Source) (rounds : Option Nat) (settings store : Option String) (save : Bool)
  | svg (source : Source) (out : String) (side : Bool) (size : Float) (settings : Option String)
  /-- Where the last session stood. -/
  | resume (store : String) (settings : Option String)
deriving Repr

/-- The options of a command. -/
structure Options where
  flags : List String
  valued : List String

/-- The options given, each with its value if it takes one. -/
abbrev Given := List (String × Option String)

/-- The name of a long option, and the value after `=` if there is one. -/
def option? (argument : String) : Option (String × Option String) :=
  match argument.toList with
  | '-' :: '-' :: rest =>
    let name := String.ofList (rest.takeWhile (· ≠ '='))
    match rest.dropWhile (· ≠ '=') with
    | _ :: value => some (name, some (String.ofList value))
    | [] => some (name, none)
  | _ => none

/-- An argument may stand as a value of its own. -/
def mayBeValue (argument : String) : Bool :=
  match argument.toList with
  | ['-'] => true
  | '-' :: _ => false
  | _ => true

namespace Options

/-- The options given in some arguments; nothing when an argument does not fit. -/
def collect? (options : Options) : List String → Option Given
  | [] => some []
  | ["--"] => some []
  | argument :: rest =>
    match option? argument with
    | none => none
    | some (name, some value) =>
      if name ∈ options.valued then (collect? options rest).map ((name, some value) :: ·) else none
    | some (name, none) =>
      if name ∈ options.flags then (collect? options rest).map ((name, none) :: ·)
      else if name ∈ options.valued then
        match rest with
        | value :: rest =>
          if mayBeValue value then (collect? options rest).map ((name, some value) :: ·) else none
        | [] => none
      else none

/-- The options given in some arguments, none of them twice. -/
def read? (options : Options) (arguments : List String) : Option Given := do
  let given ← options.collect? arguments
  guard (decide (given.map Prod.fst).Nodup)
  some given

end Options

namespace Given

def flag (given : Given) (name : String) : Bool := given.any fun option => option.1 == name

def value? (given : Given) (name : String) : Option String := (given.lookup name).join

/-- The value of an option read as something, if the option is given; nothing when the value
does not fit. -/
def optional? {α : Type} (given : Given) (name : String) (read? : String → Option α) :
    Option (Option α) :=
  match given.value? name with
  | some value => (read? value).map some
  | none => some none

def required? {α : Type} (given : Given) (name : String) (read? : String → Option α) : Option α :=
  (given.value? name).bind read?

end Given

def path? (value : String) : Option String := if value.isEmpty then none else some value

/-- A number of rounds, a plus sign allowed. -/
def rounds? (value : String) : Option Nat :=
  let digits := match value.toList with
    | '+' :: rest => rest
    | other => other
  (Text.decimalValue? digits).filter (· < UInt64.size)

def source? (given : Given) : Option Source := do
  let path ← given.required? "in" path?
  some { path, terms := Terminology.ofUsFlag (!given.flag "uk") }

/-- The longer side of a drawing that does not say. -/
def usualSize : Float := 512

def parse? (arguments : List String) : Option Request := do
  let given ← Options.read? ⟨["uk", "json", "hints"], ["in"]⟩ arguments
  some (.parse (← source? given) (given.flag "json") (given.flag "hints"))

/-- The request to play a pattern.  Saving needs a store. -/
def play? (arguments : List String) : Option Request := do
  let given ← Options.read? ⟨["uk", "save"], ["in", "rounds", "config", "store"]⟩ arguments
  let store ← given.optional? "store" path?
  guard (!given.flag "save" || store.isSome)
  some (.play (← source? given) (← given.optional? "rounds" rounds?)
    (← given.optional? "config" path?) store (given.flag "save"))

def svg? (arguments : List String) : Option Request := do
  let given ← Options.read? ⟨["uk", "side"], ["in", "out", "size", "config"]⟩ arguments
  let size ← given.optional? "size" Decimal.float?
  some (.svg (← source? given) (← given.required? "out" path?) (given.flag "side")
    (size.getD usualSize) (← given.optional? "config" path?))

def resume? (arguments : List String) : Option Request := do
  let given ← Options.read? ⟨[], ["store", "config"]⟩ arguments
  some (.resume (← given.required? "store" path?) (← given.optional? "config" path?))

def asksVersion (argument : String) : Bool :=
  argument == "--version" || argument.startsWith "-V"

def Request.ofArguments? : List String → Option Request
  | [] => none
  | command :: arguments =>
    if asksVersion command then some .version
    else
      match command with
      | "parse" => parse? arguments
      | "play" => play? arguments
      | "svg" => svg? arguments
      | "resume" => resume? arguments
      | _ => none

end Crochet.CommandLine
