import EnvDoctor.Checker.Check

/-!
# Sessions

A session starts with checkers, which are given as a list or under keys that do not count, and with
the built-in checkers if they are wanted. Then checkers are added and binaries are checked, in any
order. The programs on the path may change between two requests.
-/

namespace EnvDoctor

inductive Collection where
  | listed (cs : List Checker)
  | keyed (entries : List (Value × Checker))

def Collection.checkers : Collection → List Checker
  | listed cs => cs
  | keyed entries => entries.map Prod.snd

inductive Request where
  | add (c : Checker)
  | check (binary : String) (requirement : Value)
  | checkAll (requirements : Named Value)
  | currentVersion (binary : String)
  | components (binary : String)

inductive Reply where
  | added
  | checked (result : CheckResult)
  | checkedAll (results : List CheckResult)
  | currentVersion (found : Except CheckFault (Option String))
  | components (found : Except CheckFault (Option (Named String)))

namespace Request

/-- The checker that a request adds. -/
def added? : Request → Option Checker
  | add c => some c
  | _ => none

def binaries : Request → List String
  | add _ => []
  | check binary _ | currentVersion binary | components binary => [binary]
  | checkAll requirements => requirements.names

/-- The reply to a request and the processes that are started for it. -/
def answer [VersionLibrary] [CharacterNames] (registry : Registry) (runner : Runner) :
    Request → Logged Reply
  | add _ => return .added
  | check binary requirement => .checked <$> registry.check runner binary requirement
  | checkAll requirements => .checkedAll <$> registry.checkAll runner requirements
  | currentVersion binary => .currentVersion <$> (registry.currentVersion runner binary).run
  | components binary => .components <$> (registry.componentsOf runner binary).run

end Request

structure Session where
  registry : Registry
  log : List Call

namespace Session

variable [VersionLibrary] [CharacterNames]

def start (builtins : Bool) (given : Collection) : Session :=
  ⟨if builtins then .withBuiltins given.checkers else .ofList given.checkers, []⟩

def step (s : Session) (runner : Runner) (request : Request) : Reply × Session :=
  let (reply, log) := (request.answer s.registry runner).run s.log
  (reply, ⟨(request.added?.map s.registry.add).getD s.registry, log⟩)

def run (s : Session) (requests : List (Runner × Request)) : Session :=
  requests.foldl (fun s r => (s.step r.1 r.2).2) s

end Session

end EnvDoctor
