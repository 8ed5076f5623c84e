/-!
# Options

Taking a command line apart into options and arguments. An option is a word that starts with a
hyphen and has more than that; after two hyphens alone everything is an argument. A long option has
its value after a sign of equality or in the next word. Short options may share a word, and the
rest of the word is the value of one that takes a value.
-/

namespace EnvDoctor.CommandLine

/-- An option, its spellings, and whether it takes a value. -/
structure OptionSpec where
  name : String
  long : List String
  short : List Char
  takesValue : Bool
  deriving DecidableEq, Repr

/-- Why a command line cannot be taken apart or does not fit a command. -/
inductive UsageFault where
  | unknownOption (option : String)
  | valueMissing (option : String)
  | valueUnexpected (option : String)
  | unknownCommand (name : String)
  | argumentMissing
  | argumentUnexpected (argument : String)
  deriving DecidableEq, Repr

structure Given where
  name : String
  value : String
  deriving DecidableEq, Repr

structure Parted where
  options : List Given
  arguments : List String
  deriving DecidableEq, Repr

def Parted.addOptions (options : List Given) (p : Parted) : Parted :=
  { p with options := options ++ p.options }

def Parted.addArgument (argument : String) (p : Parted) : Parted :=
  { p with arguments := argument :: p.arguments }

def Parted.has (p : Parted) (name : String) : Bool :=
  p.options.any (·.name == name)

/-- The value of an option; the last one counts. -/
def Parted.value? (p : Parted) (name : String) : Option String :=
  (p.options.reverse.find? (·.name == name)).map (·.value)

def splitEquals (word : List Char) : List Char × Option (List Char) :=
  match word.dropWhile (· != '=') with
  | [] => (word, none)
  | _ :: value => (word.takeWhile (· != '='), some value)

/-- Reads short options of one word. Gives the words after it, of which a value may have been
taken. -/
def shortOptions (specs : List OptionSpec) (rest : List String) :
    List Char → Except UsageFault (List Given × List String)
  | [] => .ok ([], rest)
  | c :: more =>
    match specs.find? (·.short.contains c) with
    | none => .error (.unknownOption (String.ofList ['-', c]))
    | some spec =>
      if !spec.takesValue then do
        let (options, rest) ← shortOptions specs rest more
        return (⟨spec.name, ""⟩ :: options, rest)
      else if !more.isEmpty then .ok ([⟨spec.name, String.ofList more⟩], rest)
      else
        match rest with
        | value :: rest => .ok ([⟨spec.name, value⟩], rest)
        | [] => .error (.valueMissing spec.name)

def optionsOf (specs : List OptionSpec) (word : List Char) (rest : List String) :
    Except UsageFault (List Given × List String) :=
  let (spelling, value) := splitEquals word
  match specs.find? (·.long.contains (String.ofList spelling)), value with
  | some spec, some value =>
    if spec.takesValue then .ok ([⟨spec.name, String.ofList value⟩], rest)
    else .error (.valueUnexpected spec.name)
  | some spec, none =>
    if !spec.takesValue then .ok ([⟨spec.name, ""⟩], rest)
    else
      match rest with
      | value :: rest => .ok ([⟨spec.name, value⟩], rest)
      | [] => .error (.valueMissing spec.name)
  | none, _ =>
    if ['-', '-'].isPrefixOf word then .error (.unknownOption (String.ofList spelling))
    else shortOptions specs rest word.tail

/-- Takes words apart. Unless `mixed`, everything from the first argument on is an argument. -/
def part (specs : List OptionSpec) (mixed : Bool) :
    (fuel : Nat) → List String → Except UsageFault Parted
  | 0, words => .ok ⟨[], words⟩
  | _ + 1, [] => .ok ⟨[], []⟩
  | fuel + 1, word :: rest =>
    let chars := word.toList
    if word = "--" then .ok ⟨[], rest⟩
    else if chars.head? = some '-' && 1 < chars.length then do
      let (options, rest) ← optionsOf specs chars rest
      return (← part specs mixed fuel rest).addOptions options
    else if mixed then do
      return (← part specs mixed fuel rest).addArgument word
    else .ok ⟨[], word :: rest⟩

def partAll (specs : List OptionSpec) (mixed : Bool) (words : List String) :
    Except UsageFault Parted :=
  part specs mixed (words.length + 1) words

end EnvDoctor.CommandLine
