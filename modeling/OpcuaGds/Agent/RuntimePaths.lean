import OpcuaGds.Foundation.FileTree
import OpcuaGds.Foundation.PythonText
import Mathlib.Data.List.Infix

/-! # Paths of a runtime tree

Which files of a runtime hold private keys, which are kept by an activation, and where a
relative path leads. Trees are without symbolic links.
-/

namespace OpcuaGds.Agent

/-- `text.replace("\\", "/")`. -/
def slashes (text : String) : String :=
  String.ofList (PythonText.replaceChar '\\' ['/'] text.toList)

/-- `text.split("/")`. -/
def splitPath (text : String) : List String := (text.toList.splitOn '/').map String.ofList

/-- `Path(text).parts` of a relative path. -/
def pathParts (text : String) : List String :=
  (splitPath text).filter fun part => part != "" && part != "."

/-- `Path(text).name`. -/
def pathName (text : String) : String := (pathParts text).getLast?.getD ""

def textContains (needle text : String) : Bool := decide (needle.toList <:+: text.toList)

def textEndsWith (suffix text : String) : Bool := suffix.toList.isSuffixOf text.toList

/-- `_is_private_key_path` of a file name and its path relative to the runtime. -/
def isPrivateKeyPath (name relativePath : String) : Bool :=
  let parts := (splitPath (PythonText.lower (slashes relativePath))).filter (· != "")
  let name := PythonText.lower name
  if parts.contains "private" || parts.contains "keys" then true
  else if textContains ".key" name || textContains "private" name then true
  else textEndsWith ".key.der" name || textEndsWith ".key.pem" name

/-- `PRIVATE_RUNTIME_PRESERVE_PATHS`. -/
def privateRuntimePreservePaths : List String :=
  ["mutex.lock", "own/openssl.cnf", "own/private/private_key.pem",
    "applcerts/own/private/server.key.der", "private/private.key.der", "private/private.pem"]

/-- `_is_preserved_runtime_path`. -/
def isPreservedRuntimePath (relativePath : String) : Bool :=
  let rel := PythonText.lower (slashes relativePath)
  isPrivateKeyPath (pathName rel) rel || privateRuntimePreservePaths.contains rel

/-- One component on the way from the root; `none` above the root. -/
def descend : Option (List String) → String → Option (List String)
  | none, _ => none
  | some way, part => if part = ".." then way.tail? else some (part :: way)

/-- The file below a root that a relative path leads to, by its canonical path; `none` when
`_assert_path_inside` raises. -/
def resolveInside (relativePath : String) : Option String :=
  if "/".toList.isPrefixOf relativePath.toList then none
  else ((pathParts relativePath).foldl descend (some [])).map fun way =>
    String.intercalate "/" way.reverse

/-- `_target_private_key_candidates`, relative to the runtime root. -/
def targetPrivateKeyCandidates (target : String) : List String :=
  if target = "fuxa" then ["own/private/private_key.pem"]
  else if target = "dmz-gateway-client" then
    ["own/private/client.key.der", "private/private.key.der", "private/private.pem"]
  else if target = "opcua-server" ∨ target = "dmz-gateway-server" then
    ["ApplCerts/own/private/server.key.der", "own/private/server.key.der",
      "private/private.key.der", "private/private.pem"]
  else []

/-- The file that `_runtime_private_key_path` finds, with its content. -/
def runtimePrivateKey (target : String) (runtime : FileTree) : Option (List UInt8) :=
  ((targetPrivateKeyCandidates target).filterMap fun path => runtime.read path).head?

/-- The places of all targets. -/
def privateKeyPlaces : List String :=
  ["own/private/private_key.pem", "own/private/client.key.der", "private/private.key.der",
    "private/private.pem", "ApplCerts/own/private/server.key.der", "own/private/server.key.der"]

theorem candidate_mem {target path : String}
    (candidate : path ∈ targetPrivateKeyCandidates target) : path ∈ privateKeyPlaces := by
  have within : targetPrivateKeyCandidates target ⊆ privateKeyPlaces := by
    unfold targetPrivateKeyCandidates privateKeyPlaces
    split
    · simp
    · split
      · simp
      · split <;> simp
  exact within candidate

end OpcuaGds.Agent
