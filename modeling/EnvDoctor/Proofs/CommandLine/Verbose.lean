import EnvDoctor.Proofs.CommandLine.Verify

/-!
# Verbose output

The option for verbose output changes nothing that a command line asks for, and a report on a
configuration gets nothing but details from it: each result is followed by the constraints that have
failed, as always, and then by those that are satisfied and by the components.
-/

namespace EnvDoctor

namespace Message

/-- The first messages without some of their details are the second ones. -/
inductive Omits : List Message → List Message → Prop
  | nil : Omits [] []
  | keep {full brief : List Message} (m : Message) :
      Omits full brief → Omits (m :: full) (m :: brief)
  | drop {full brief : List Message} (text : String) :
      Omits full brief → Omits (.detail text :: full) brief

namespace Omits

variable {full brief : List Message}

theorem keeps (ms : List Message) (omits : Omits full brief) : Omits (ms ++ full) (ms ++ brief) := by
  induction ms with
  | nil => exact omits
  | cons m ms ih => exact .keep m ih

theorem mem {m : Message} (omits : Omits full brief) (kept : m ∈ brief) : m ∈ full := by
  induction omits with
  | nil => cases kept
  | keep _ _ ih => exact List.mem_cons.mpr ((List.mem_cons.mp kept).imp_right ih)
  | drop _ _ ih => exact List.mem_cons_of_mem _ (ih kept)

theorem drops {ms : List Message} (details : ∀ m ∈ ms, ∃ text, m = .detail text)
    (omits : Omits full brief) : Omits (ms ++ full) brief := by
  induction ms with
  | nil => exact omits
  | cons m ms ih =>
    obtain ⟨⟨text, rfl⟩, others⟩ := List.forall_mem_cons.mp details
    exact .drop text (ih others)

end Omits

end Message

namespace Report

def outline (r : CheckResult) : List Message :=
  (if r.satisfies then .good r.line else .bad r.line) ::
    (failedOf r).map fun c => .detail ("failed: " ++ c)

def additions (r : CheckResult) : List Message :=
  ((satisfiedOf r).map fun c => .detail ("satisfied: " ++ c)) ++
    if r.shownComponents = [] then []
    else [.detail ("components: " ++ CheckResult.componentsText r.shownComponents)]

theorem ofResult_true (r : CheckResult) : ofResult true r = outline r ++ additions r := by
  have prefixed : "satisfied" ++ ": " = "satisfied: " := by decide
  have added : extras r = additions r := by
    simp only [extras, additions, details, prefixed, List.isEmpty_iff]
  rw [← added, outline, ← CommandLine.ofResult_false]
  simp [ofResult]

theorem isDetail_of_mem_additions {r : CheckResult} {m : Message} (added : m ∈ additions r) :
    ∃ text, m = .detail text := by
  rcases List.mem_append.mp added with satisfied | components
  · obtain ⟨c, -, rfl⟩ := List.mem_map.mp satisfied
    exact ⟨_, rfl⟩
  · split at components
    next => cases components
    next => exact ⟨_, List.mem_singleton.mp components⟩

/-- Messages about results in full are those in brief and details. -/
theorem omits_flatMap (results : List CheckResult) :
    Message.Omits (results.flatMap fun r => outline r ++ additions r) (results.flatMap outline) := by
  induction results with
  | nil => exact .nil
  | cons r results ih =>
    rw [List.flatMap_cons, List.flatMap_cons, List.append_assoc]
    exact .keeps _ (.drops (fun _ => isDetail_of_mem_additions) ih)

end Report

namespace CommandLine

/-- What a command line asks for if the option for verbose output is put in front of it. -/
def Invocation.verbosely : Invocation → Invocation
  | .run _ command => .run true command
  | other => other

theorem withDefaultCommand_verbose (words : List String) :
    withDefaultCommand ("-v" :: words) = "-v" :: withDefaultCommand words := by
  have option : "-v".startsWith "-" = true := by
    rw [String.startsWith_string_iff]
    decide
  rw [withDefaultCommand, if_pos option]

theorem partAll_verbose (words : List String) :
    partAll mainOptions false ("-v" :: words) =
      Parted.addOptions [⟨"verbose", ""⟩] <$> partAll mainOptions false words := by
  rfl

theorem readCommand_true (verbose : Bool) (words : List String) :
    readCommand true words = Invocation.verbosely <$> readCommand verbose words := by
  cases words with
  | nil => rfl
  | cons name words =>
    simp only [readCommand]
    split
    next => rfl
    next =>
      cases partAll (optionsOfCommand name) true words with
      | error fault => rfl
      | ok p =>
        simp only [bind, Except.bind]
        split
        next => rfl
        next => cases commandOf name p <;> rfl

/-- The option for verbose output in front changes nothing else that is asked for. -/
theorem read_verbose (words : List String) :
    read ("-v" :: words) = Invocation.verbosely <$> read words := by
  unfold read
  rw [withDefaultCommand_verbose, partAll_verbose]
  cases partAll mainOptions false (withDefaultCommand words) with
  | error fault => rfl
  | ok p =>
    -- The option is neither the one for the version nor the one for help.
    have same : (Parted.addOptions [⟨"verbose", ""⟩] p).options.find?
        (fun o => o.name == "version" || o.name == "help") =
          p.options.find? fun o => o.name == "version" || o.name == "help" := by
      simp [Parted.addOptions]
    have verbose : (Parted.addOptions [⟨"verbose", ""⟩] p).has "verbose" = true := by
      simp [Parted.addOptions, Parted.has]
    rw [map_eq_pure_bind]
    simp only [bind, Except.bind, pure, Except.pure, same, verbose]
    cases p.options.find? fun o => o.name == "version" || o.name == "help" with
    | none => exact readCommand_true _ _
    | some o =>
      dsimp only
      split <;> rfl

theorem commandOf_verify_eq_ok {p : Parted} {command : Command}
    (done : commandOf "verify" p = .ok command) : ∃ source json, command = .verify source json := by
  obtain ⟨options, arguments⟩ := p
  cases arguments with
  | nil =>
    cases done
    exact ⟨_, _, rfl⟩
  | cons config rest =>
    cases rest with
    | nil =>
      cases done
      exact ⟨_, _, rfl⟩
    | cons => cases done

/-- With `verify` in front, a command line asks for nothing but that command or help. -/
theorem read_verify_cases (args : List String) :
    (∃ fault, read ("verify" :: args) = .error fault) ∨ read ("verify" :: args) = .ok .help ∨
      ∃ source json, read ("verify" :: args) = .ok (.run false (.verify source json)) := by
  have front : read ("verify" :: args) = readCommand false ("verify" :: args) := by
    rw [read, withDefaultCommand_verify]
    rfl
  have command : readCommand false ("verify" :: args) = (do
      let p ← partAll (optionsOfCommand "verify") true args
      if p.has "help" then return .help
      return .run false (← commandOf "verify" p)) := by
    rfl
  rw [front, command]
  cases partAll (optionsOfCommand "verify") true args with
  | error fault => exact .inl ⟨fault, rfl⟩
  | ok p =>
    simp only [bind, Except.bind]
    split
    next => exact .inr (.inl rfl)
    next =>
      cases asked : commandOf "verify" p with
      | error fault => exact .inl ⟨fault, rfl⟩
      | ok command =>
        obtain ⟨source, json, rfl⟩ := commandOf_verify_eq_ok asked
        exact .inr (.inr ⟨source, json, rfl⟩)

section Library

variable [VersionLibrary] [CharacterNames]

/-- A command line with `verify` in front asks for messages about the requirements of a
configuration. -/
def ShowsResults (w : Workspace) (args : List String) (config : Config) : Prop :=
  ∃ source, read ("verify" :: args) = .ok (.run false (.verify source false)) ∧
    Config.load w source = .ok (some config)

variable {programs : Programs} {w : Workspace} {source : Option String} {verbose : Bool}

/-- Only messages about results can be verbose. -/
theorem verify_verbose_eq {json : Bool}
    (other : ∀ config, Config.load w source = .ok (some config) → json = true) :
    verify programs w verbose source json = verify programs w false source json := by
  unfold verify
  split
  next => rfl
  next => rfl
  next => rfl
  next config loaded =>
    rw [other config loaded]
    rfl

theorem run_verbose_of_not_showsResults {args : List String}
    (other : ∀ config, ¬ ShowsResults w args config) :
    (run programs ("-v" :: "verify" :: args)).run w = (run programs ("verify" :: args)).run w := by
  unfold run
  rw [read_verbose]
  rcases read_verify_cases args with ⟨fault, asked⟩ | asked | ⟨source, json, asked⟩
  · rw [asked]
    rfl
  · rw [asked]
    rfl
  · have document : ∀ config, Config.load w source = .ok (some config) → json = true := by
      intro config loaded
      cases json with
      | true => rfl
      | false => exact absurd ⟨source, asked, loaded⟩ (other config)
    rw [asked]
    change ((verify programs w true source json : Except LoadFault Report), w) =
      (verify programs w false source json, w)
    rw [verify_verbose_eq document]

/-- The reports on a configuration, without and with verbose output. -/
theorem reportOn_eq (programs : Programs) (config : Config) :
    let results := config.requirements.map (config.resultOf (runnerOf programs))
    let found := Message.info ("Found config file: " ++ config.source.getD "None")
    reportOn programs false false config =
        ⟨Report.exitOf results, found :: results.flatMap Report.outline⟩ ∧
      reportOn programs true false config = ⟨Report.exitOf results,
        found :: results.flatMap fun r => Report.outline r ++ Report.additions r⟩ := by
  intro results found
  have all : resultsOf programs config = results := resultsOf_eq programs config
  have report (verbose : Bool) : reportOn programs verbose false config =
      ⟨Report.exitOf results, found :: results.flatMap (Report.ofResult verbose)⟩ := by
    rw [reportOn, all]
    rfl
  have outlined : results.flatMap (Report.ofResult false) = results.flatMap Report.outline :=
    List.flatMap_congr fun r _ => ofResult_false r
  have added : results.flatMap (Report.ofResult true) =
      results.flatMap fun r => Report.outline r ++ Report.additions r :=
    List.flatMap_congr fun r _ => Report.ofResult_true r
  exact ⟨(report false).trans (by rw [outlined]), (report true).trans (by rw [added])⟩

end Library

/-- The only program prints its version. -/
def nodeAlone : Programs :=
  [("node", fun _ => .ends ⟨"v20.1.0\n", "", 0⟩)]

end CommandLine

end EnvDoctor
