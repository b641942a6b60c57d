import CharacterSheet.Schema.LenientText

/-!
# Arguments

An argument that starts with a dash and does not end there is an option; some options take the
next argument, or what follows an equals sign, as a value. Behind two dashes there are no more
options.
-/

namespace CharacterSheet

/-- Why arguments are no command. -/
inductive UsageError where
  | missingCommand
  | unknownCommand (name : String)
  | unknownOption (option : String)
  | missingValue (option : String)
  /-- A value for an option that takes none. -/
  | unexpectedValue (option : String)
  | notAnInteger (option value : String)
  | missingArgument (name : String)
  | extraArgument (text : String)
  deriving Repr, DecidableEq

/-- The wording of an error. -/
def UsageError.message : UsageError → String
  | .missingCommand => "Missing command."
  | .unknownCommand name => "No such command '" ++ name ++ "'."
  | .unknownOption option => "No such option: " ++ option
  | .missingValue option => "Option '" ++ option ++ "' requires an argument."
  | .unexpectedValue option => "Option '" ++ option ++ "' does not take a value."
  | .notAnInteger option value =>
    "Invalid value for '" ++ option ++ "': '" ++ value ++ "' is not a valid integer."
  | .missingArgument name => "Missing argument '" ++ name ++ "'."
  | .extraArgument text => "Got unexpected extra argument (" ++ text ++ ")"

/-- An option of a command. -/
structure OptionForm where
  name : String
  takesValue : Bool := true
  deriving Repr

/-- An argument as it was read. -/
inductive Argument where
  | option (name : String) (value : Option String)
  | word (text : String)
  deriving Repr, DecidableEq

namespace Argument

/-- Whether an argument is written like an option. -/
def looksLikeOption (s : String) : Bool :=
  match s.toList with
  | '-' :: _ :: _ => true
  | _ => false

/-- The name of an option, and the value behind its equals sign. -/
def splitOption (s : String) : String × Option String :=
  let name := String.ofList (s.toList.takeWhile (· != '='))
  match s.toList.dropWhile (· != '=') with
  | _ :: value => (name, some (String.ofList value))
  | [] => (name, none)

/-- Read arguments, of which only some options are allowed. -/
def readAll (forms : List OptionForm) : List String → Except UsageError (List Argument)
  | [] => .ok []
  | s :: rest =>
    if s = "--" then .ok (rest.map .word)
    else if looksLikeOption s then
      let (name, given) := splitOption s
      match forms.find? (·.name == name), given with
      | none, _ => .error (.unknownOption name)
      | some ⟨_, true⟩, some value => (readAll forms rest).map (.option name (some value) :: ·)
      | some ⟨_, true⟩, none =>
        match rest with
        | value :: rest => (readAll forms rest).map (.option name (some value) :: ·)
        | [] => .error (.missingValue name)
      | some ⟨_, false⟩, some _ => .error (.unexpectedValue name)
      | some ⟨_, false⟩, none => (readAll forms rest).map (.option name none :: ·)
    else (readAll forms rest).map (.word s :: ·)

/-- The arguments that are no options. -/
def words (given : List Argument) : List String :=
  given.filterMap fun
    | .word s => some s
    | .option .. => none

/-- The values of an option, in order. -/
def values (name : String) (given : List Argument) : List String :=
  given.filterMap fun
    | .option n v => if n = name then v else none
    | .word _ => none

/-- The value of an option; the last one counts. -/
def value? (name : String) (given : List Argument) : Option String := (values name given).getLast?

/-- The value of an option that takes integers. -/
def integer? (name : String) (given : List Argument) : Except UsageError (Option Int) :=
  match value? name given with
  | none => .ok none
  | some v => (LenientText.readInteger v).map some |>.mapError fun _ ↦ .notAnInteger name v

/-- Which of two opposite options is given; the last one counts. -/
def choice? (yes no : String) (given : List Argument) : Option Bool :=
  (given.filterMap fun
    | .option n _ => if n = yes then some true else if n = no then some false else none
    | .word _ => none).getLast?

/-- Whether an option is given. -/
def has (name : String) (given : List Argument) : Bool := (choice? name "" given).isSome

end Argument
end CharacterSheet
