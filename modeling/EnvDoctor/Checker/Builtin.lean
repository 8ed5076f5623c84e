import EnvDoctor.Checker.Basic
import EnvDoctor.Docker

/-!
# Built-in checkers

The checkers that need no configuration. All but one find three numbers with points between them,
some of them only after certain words.
-/

namespace EnvDoctor.Builtin

open Pattern (Node)

def digits : Node :=
  .rep 1 none .greedy (.one { items := [.digit false] })

def triple : Node :=
  .group (some 1) (.sequence [digits, .literal '.', digits, .literal '.', digits])

def tripleSource : String :=
  "(\\d+\\.\\d+\\.\\d+)"

def triplePattern : Pattern :=
  ⟨tripleSource, 1, triple⟩

def tripleAfter (start : String) : Pattern :=
  ⟨start ++ tripleSource, 1, .sequence (start.toList.map .literal ++ [triple])⟩

/-- Finds three numbers, perhaps after a `v`. -/
def tripleAfterV : Pattern :=
  ⟨"v?" ++ tripleSource, 1, .seq (.rep 0 (some 1) .greedy (.literal 'v')) triple⟩

def node : Checker :=
  .ofRule "node" (.pattern tripleAfterV)

def npm : Checker :=
  .ofRule "npm" (.text tripleSource)

def pnpm : Checker :=
  .ofRule "pnpm" (.pattern triplePattern)

def git : Checker :=
  .ofRule "git" (.pattern (tripleAfter "git version "))

def docker : Checker where
  name := "docker"
  rule := .routine Docker.versionRoutine
  command := none
  versionFlag := some (.many ["version", "-f", "json"])
  components := some Docker.componentsRoutine

def python : Checker :=
  .ofRule "python" (.pattern (tripleAfter "Python "))

def python3 : Checker :=
  .ofRule "python3" (.pattern (tripleAfter "Python "))

def bun : Checker :=
  .ofRule "bun" (.pattern triplePattern)

def all : List Checker :=
  [node, npm, pnpm, git, docker, python, python3, bun]

def find? (name : String) : Option Checker :=
  all.find? (·.name == name)

end EnvDoctor.Builtin
