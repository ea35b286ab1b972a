import Rdfa.Settings
import Rdfa.Text.Utf8
import Rdfa.Toml.Reader

-- Settings as a TOML document. Everything may be left out, nothing may be added, and no value is
-- taken for one of another type.
namespace Rdfa.Settings

inductive FileProblem where
  | unreadable
  | malformed
  | invalid (problem : Problem)
deriving Repr, DecidableEq

def boolean? : Toml.Value → Option Bool
  | .boolean value => some value
  | _ => none

def count? : Toml.Value → Option Nat
  | .integer (.ofNat n) => some n
  | _ => none

def byte? (value : Toml.Value) : Option UInt8 :=
  (count? value).bind fun n => if n < 256 then some (UInt8.ofNat n) else none

def optional {α : Type} (read : Toml.Value → Option α) (missing : α) :
    Option Toml.Value → Option α
  | none => some missing
  | some value => read value

def onlyKeys (keys : List String) (entries : Toml.Entries) : Bool :=
  entries.all fun entry => keys.any fun key => key.toList = entry.1

def processingOf? (first second third fourth : Option Toml.Value) : Option Processing := do
  let missing : Processing := {}
  let announcePrefixes ← optional boolean? missing.announcePrefixes first
  let announceWarnings ← optional boolean? missing.announceWarnings second
  let voidElements ← optional boolean? missing.voidElements third
  let maxDepth ← optional count? missing.maxDepth fourth
  return { announcePrefixes, announceWarnings, voidElements, maxDepth }

def processingKeys : List String :=
  ["emit_prefix_mappings", "emit_warnings", "html_void_elements", "max_depth"]

def processingOfEntries? (entries : Toml.Entries) : Option Processing :=
  if onlyKeys processingKeys entries then
    let value (key : String) := entries.lookup key.toList
    processingOf? (value "emit_prefix_mappings") (value "emit_warnings")
      (value "html_void_elements") (value "max_depth")
  else none

-- A table by name, or an array by position.
def processing? : Toml.Value → Option Processing
  | .inline entries | .table _ entries => processingOfEntries? entries
  | .array items => processingOf? items[0]? items[1]? items[2]? items[3]?
  | _ => none

def ofEntries? (entries : Toml.Entries) : Option Settings :=
  if onlyKeys ["chunk_capacity", "pad_byte", "engine"] entries then do
    let missing : Settings := {}
    let chunkCapacity ← optional count? missing.chunkCapacity
      (entries.lookup "chunk_capacity".toList)
    let padByte ← optional (fun value => (byte? value).map some) missing.padByte
      (entries.lookup "pad_byte".toList)
    let processing ← optional processing? missing.processing (entries.lookup "engine".toList)
    return { chunkCapacity, padByte, processing }
  else none

def validate (settings : Settings) : Except FileProblem Settings :=
  match settings.problem? with
  | none => .ok settings
  | some problem => .error (.invalid problem)

def ofToml (text : Text) : Except FileProblem Settings :=
  match (Toml.parse text).bind ofEntries? with
  | none => .error .malformed
  | some settings => settings.validate

def ofFile (contents : Option Bytes) : Except FileProblem Settings :=
  match contents.bind Utf8.decode? with
  | none => .error .unreadable
  | some text => ofToml text

end Rdfa.Settings
