import EnvDoctor.CommandLine.Run
import EnvDoctor.Proofs.Config.Accepted
import EnvDoctor.Proofs.Config.Escapes
import Mathlib.Data.List.Forall2

/-!
# What `verify` reports

The verdict on a configuration shows in three places: in the exit code, in the document, which reads
it off the records of the results, and in the messages. All three count the same results, provided
that the terminal takes what is printed.
-/

namespace EnvDoctor

namespace CheckResult

/-- A record tells the binary of a result, its verdict and the constraints that have failed. -/
structure Tells (r : CheckResult) (record : Value) : Prop where
  binary : record.field? "binary" = some (.text r.binary)
  satisfies : record.field? "satisfies" = some (.bool r.satisfies)
  failed : record.field? "failed_constraints" =
    r.requirement.map fun verdict => textList verdict.failed

theorem tells_toValue (r : CheckResult) : r.Tells r.toValue := by
  refine ⟨rfl, rfl, ?_⟩
  rw [toValue, toFields]
  cases r.error <;> cases r.requirement <;> cases r.shownComponents.isEmpty <;> rfl

theorem recordSatisfies_toValue (r : CheckResult) : recordSatisfies r.toValue = r.satisfies := by
  rw [recordSatisfies, (tells_toValue r).satisfies]
  rfl

theorem tells_map_toValue (results : List CheckResult) :
    List.Forall₂ Tells results (results.map toValue) := by
  rw [List.forall₂_map_right_iff, List.forall₂_same]
  exact fun r _ => tells_toValue r

theorem field?_ok_payload (results : List CheckResult) :
    (payload results).field? "ok" = some (.bool (allSatisfy results)) := by
  have same : (results.map toValue).all recordSatisfies = allSatisfy results := by
    rw [allSatisfy, List.all_map]
    exact congrArg results.all (funext recordSatisfies_toValue)
  rw [← same]
  rfl

theorem field?_results_payload (results : List CheckResult) :
    (payload results).field? "results" = some (.list (results.map toValue)) := rfl

end CheckResult

def Config.resultOf [VersionLibrary] [CharacterNames] (config : Config) (runner : Runner)
    (entry : String × Requirement) : CheckResult :=
  (config.registry.check runner entry.1 entry.2.toValue).result []

namespace CommandLine

theorem resultsOf_eq [VersionLibrary] [CharacterNames] (programs : Programs) (config : Config) :
    resultsOf programs config = config.requirements.map (config.resultOf (runnerOf programs)) := by
  refine (Registry.result_checkAll [] _).trans ?_
  rw [List.map_map]
  rfl

theorem ofResult_false (r : CheckResult) :
    Report.ofResult false r = (if r.satisfies then .good r.line else .bad r.line) ::
      (Report.failedOf r).map fun c => .detail ("failed: " ++ c) := by
  have prefixed : "failed" ++ ": " = "failed: " := by decide
  simp only [Report.ofResult, Report.details, Bool.false_eq_true, if_false, List.append_nil,
    prefixed]

variable {words : List String} {verbose json : Bool} {source : Option String} {w : Workspace}
  {config : Config} {programs : Programs}

def verifyWords (source : String) (json : Bool) : List String :=
  "verify" :: (if json then ["--json", "--", source] else ["--", source])

theorem withDefaultCommand_verify (rest : List String) :
    withDefaultCommand ("verify" :: rest) = "verify" :: rest := by
  have command : "verify".startsWith "-" = false := by
    rw [Bool.eq_false_iff, Ne, String.startsWith_string_iff]
    decide
  rw [withDefaultCommand, command]
  rfl

theorem read_verifyWords (source : String) (json : Bool) :
    read (verifyWords source json) = .ok (.run false (.verify (some source) json)) := by
  rw [read, verifyWords, withDefaultCommand_verify]
  cases json <;> rfl

section Library

variable [VersionLibrary] [CharacterNames]

/-- A command line that asks for `verify` gives the report on the configuration and changes
nothing. -/
theorem run_verify (loaded : Config.load w source = .ok (some config))
    (asked : read words = .ok (.run verbose (.verify source json))) :
    (run programs words).run w = (.ok (reportOn programs verbose json config), w) := by
  have report : verify programs w verbose source json =
      .ok (reportOn programs verbose json config) := by
    rw [verify, loaded]
  rw [run, asked]
  change ((verify programs w verbose source json : Except LoadFault Report), w) = _
  rw [report]

theorem runOn_verify {terminal : Terminal} (loaded : Config.load w source = .ok (some config))
    (asked : read words = .ok (.run verbose (.verify source json))) :
    (runOn terminal programs words).run w =
      (.ok ((reportOn programs verbose json config).emit terminal), w) := by
  rw [run_runOn, run_verify loaded asked]
  rfl

end Library

def inlineText : String :=
  "\x7b\"requirements\": \x7b\"node\": \">=18\"\x7d\x7d"

def inlineConfig : Config :=
  ⟨[("node", .text ">=18")], [], some "<inline>"⟩

theorem load_inlineText (w : Workspace) :
    Config.load w (some inlineText) = .ok (some inlineConfig) := by
  have inline : Workspace.Inline inlineText := by
    decide +kernel
  have holds : Config.Holds w inlineText
      (.record [("requirements", .record [("node", .text ">=18")])]) "<inline>" := by
    refine .inline (fun taken => taken.1 inline) (fun probes => probes.1 inline) ?_
    rw [inlineText, String.toList_ofList]
    rfl
  rw [Config.load_of_given (by decide +kernel), Config.loadSource_of_holds holds]
  rfl

end CommandLine

end EnvDoctor
