import EnvDoctor.Yaml.Fault

/-!
# YAML tokens

The tokens that a YAML text is made of. The beginning and the end of block collections, which the
text shows by indentation alone, are tokens as well. Where a text cannot be taken further although
it is well-formed so far, its tokens end with the fault.
-/

namespace EnvDoctor.Yaml

inductive Token where
  /-- The version of the language; only its major number matters. -/
  | versionDirective (major : Nat)
  | tagDirective (handle start : String)
  | otherDirective
  | documentStart
  | documentEnd
  | blockSequenceStart
  | blockMappingStart
  | blockEnd
  | flowSequenceStart
  | flowSequenceEnd
  | flowMappingStart
  | flowMappingEnd
  | blockEntry
  | flowEntry
  | key
  | value
  | alias (name : String)
  | anchor (name : String)
  | tag (handle : Option String) (suffix : String)
  | scalar (text : String) (plain : Bool)
  | fault (f : Fault)
  deriving DecidableEq, Repr

end EnvDoctor.Yaml
