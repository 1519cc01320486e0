import BbAuth.Model.Bytes
import BbAuth.Model.ProviderManifest
import Mathlib.Data.Finset.Insert
/-!
# Provider discovery

`bb::providers::ProviderDiscovery`: the manifests found in the search
directories, the higher precedence first. The file system and the JSON
parser are the platform's.
-/

namespace BbAuth

/-- A file that `entryInfoList` lists. -/
structure ManifestFile where
  absoluteFilePath : String
  /-- What `readAll` returns, or `none` where `open` fails. -/
  contents : Option QByteArray
  deriving DecidableEq

/-- **What discovery asks of the system.** -/
structure DiscoveryPlatform where
  /-- `QDir::cleanPath`. -/
  cleanPath : String → String
  /-- `entryInfoList({"*.json"}, QDir::Files | QDir::Readable, QDir::Name)`,
  or `none` where the directory does not exist. -/
  entryInfoList : String → Option (List ManifestFile)
  /-- `QJsonDocument::fromJson`: the document, or the parser's
  `errorString`. -/
  fromJson : QByteArray → Except String QJsonValue

/-- `DiscoveryResult`. -/
structure DiscoveryResult where
  manifests : List ProviderManifest := []
  warnings : List String := []
  deriving DecidableEq

namespace ProviderDiscovery

variable (D : DiscoveryPlatform)

/-- `normalizeDir`. -/
def normalizeDir (dir : String) : String := if dir = "" then "" else D.cleanPath dir

/-- `parseProviderManifest`, of a file's bytes. -/
def parseManifestBytes (jsonBytes : QByteArray) (sourcePath : String) :
    Except String ProviderManifest :=
  match D.fromJson jsonBytes with
  | .error text => .error ("invalid JSON: " ++ text)
  | .ok (.object json) => ProviderManifest.parseProviderManifest json sourcePath
  | .ok _ => .error "manifest root must be an object"

/-- **The scan**: the result so far, and the ids it has taken. -/
structure Scan where
  result : DiscoveryResult := {}
  seenIds : Finset String := ∅

/-- A file is passed over. -/
def Scan.warn (s : Scan) (file : ManifestFile) (text : String) : Scan :=
  { s with result.warnings := s.result.warnings ++
      ["Skipping manifest " ++ file.absoluteFilePath ++ ": " ++ text] }

/-- A manifest is taken. -/
def Scan.take (s : Scan) (manifest : ProviderManifest) : Scan :=
  { result.manifests := s.result.manifests ++ [manifest]
    result.warnings := s.result.warnings
    seenIds := insert manifest.id s.seenIds }

/-- The body of the inner loop. -/
def visit (s : Scan) (file : ManifestFile) : Scan :=
  match file.contents with
  | none => s.warn file "cannot read file"
  | some bytes =>
    match parseManifestBytes D bytes file.absoluteFilePath with
    | .error text => s.warn file text
    | .ok manifest =>
      if manifest.id ∈ s.seenIds then
        s.warn file ("duplicate id '" ++ manifest.id ++
          "' already selected from higher precedence directory")
      else s.take manifest

/-- The body of the outer loop. -/
def visitDir (s : Scan) (rawDir : String) : Scan :=
  let dirPath := normalizeDir D rawDir
  if dirPath = "" then s
  else
    match D.entryInfoList dirPath with
    | none => s
    | some manifests => manifests.foldl (visit D) s

/-- `ProviderDiscovery::discover`. -/
def discover (searchDirs : List String) : DiscoveryResult :=
  (searchDirs.foldl (visitDir D) {}).result

end ProviderDiscovery

end BbAuth
