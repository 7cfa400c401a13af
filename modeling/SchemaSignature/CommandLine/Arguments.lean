import SchemaSignature.Text.Numeral

/-!
Reading command-line arguments. An option has a long name after two dashes and may have a short one
after a single dash. The value of an option is attached to it (`--name=value`, `-nvalue`) or is the
next argument, whatever that looks like. Short options without value can be written together. Two
dashes alone end the options.
-/

namespace SchemaSignature.CommandLine

structure Switch where
  long : String
  short : Option Char
  takesValue : Bool
  deriving Repr

/-- What has been given to a command: options in order, by long name and with their values, and
the other arguments. -/
structure Given where
  options : List (String × String) := []
  rest : List String := []
  deriving Repr

namespace Given

def has (given : Given) (name : String) : Bool :=
  given.options.any fun entry => entry.1 == name

def value? (given : Given) (name : String) : Option String :=
  given.options.reverse.lookup name

end Given

inductive Reading where
  | other
  | stop
  | complete (options : List (String × String))
  /-- Options, of which the last one takes the next argument as value. -/
  | awaiting (options : List (String × String)) (name : String)
  | wrong
  deriving Repr

/-- Reads an argument with a long option, given without its dashes. -/
def readLong (switches : List Switch) (text : List Char) : Reading :=
  let name := String.ofList (text.takeWhile (· != '='))
  match switches.find? fun switch => switch.long == name, text.dropWhile (· != '=') with
  | none, _ => .wrong
  | some switch, [] => if switch.takesValue then .awaiting [] name else .complete [(name, "")]
  | some switch, _ :: value =>
      if switch.takesValue then .complete [(name, String.ofList value)] else .wrong

/-- Reads short options written together, given without the dash. -/
def readShort (switches : List Switch) (earlier : List (String × String)) :
    List Char → Reading
  | [] => .complete earlier
  | c :: rest =>
      match switches.find? fun switch => switch.short == some c with
      | none => .wrong
      | some switch =>
          if !switch.takesValue then
            readShort switches (earlier ++ [(switch.long, "")]) rest
          else if rest.isEmpty then .awaiting earlier switch.long
          else .complete (earlier ++ [(switch.long, String.ofList rest)])

def readArgument (switches : List Switch) (argument : String) : Reading :=
  match argument.toList with
  | ['-', '-'] => .stop
  | '-' :: '-' :: text => readLong switches text
  | '-' :: c :: text => readShort switches [] (c :: text)
  | _ => .other

/-- Reads arguments, to be added to what has been given. If options and other arguments may not be
mixed, the first other argument ends the options. -/
def readArguments (switches : List Switch) (mixed : Bool) (given : Given) :
    List String → Option Given
  | [] => some given
  | argument :: rest =>
      match readArgument switches argument with
      | .wrong => none
      | .stop => some { given with rest := given.rest ++ rest }
      | .other =>
          if mixed then
            readArguments switches mixed { given with rest := given.rest ++ [argument] } rest
          else some { given with rest := given.rest ++ argument :: rest }
      | .complete options =>
          readArguments switches mixed { given with options := given.options ++ options } rest
      | .awaiting options name =>
          match rest with
          | [] => none
          | value :: rest =>
              readArguments switches mixed
                { given with options := given.options ++ options ++ [(name, value)] } rest

def givenBy (switches : List Switch) (mixed : Bool) (arguments : List String) : Option Given :=
  readArguments switches mixed {} arguments

end SchemaSignature.CommandLine
