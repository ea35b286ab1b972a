import Rdfa.Document.Processor
import Rdfa.Markup.Lexer

-- A document being read: bytes go in one at a time, and what they make known collects in `sent`.
namespace Rdfa.Document

-- `sent` is kept in reverse. After a malformation nothing more is read.
structure Reading where
  lexer : Markup.Lexer
  processor : Processor
  sent : List Emission
  malformation : Option Malformation
deriving Repr, DecidableEq

namespace Reading

def initial (base : Text) : Reading := ⟨.initial, .initial base, [], none⟩

def fail (r : Reading) (malformation : Malformation) : Reading :=
  { r with malformation := some malformation }

def misread (r : Reading) (misread : Markup.Misread) : Reading :=
  r.fail ⟨misread.position, .markup misread.flaw⟩

def take (processing : Processing) (r : Reading) (item : Markup.Item) : Reading :=
  match r.processor.step processing item with
  | .error refusal =>
    fail { r with processor := refusal.processor, sent := refusal.sent.reverse ++ r.sent }
      refusal.malformation
  | .ok (processor, sent) => { r with processor, sent := sent.reverse ++ r.sent }

def readByte (processing : Processing) (r : Reading) (byte : UInt8) : Reading :=
  match r.malformation with
  | some _ => r
  | none =>
    match r.lexer.step byte with
    | .error flaw => r.misread flaw
    | .ok (lexer, none) => { r with lexer }
    | .ok (lexer, some item) => take processing { r with lexer } item

def read (processing : Processing) (r : Reading) (bytes : Bytes) : Reading :=
  bytes.foldl (readByte processing) r

def close (processing : Processing) (r : Reading) : Reading :=
  match r.malformation with
  | some _ => r
  | none =>
    match r.lexer.close with
    | .error flaw => r.misread flaw
    | .ok item =>
      let r := match item with
        | none => r
        | some item => take processing r item
      match r.malformation with
      | some _ => r
      | none => { r with sent := (r.processor.finish processing).reverse ++ r.sent }

def drain (r : Reading) : List Emission × Reading := (r.sent.reverse, { r with sent := [] })

-- How the bytes are cut does not matter.
theorem read_append (processing : Processing) (r : Reading) (first second : Bytes) :
    r.read processing (first ++ second) = (r.read processing first).read processing second :=
  List.foldl_append

theorem read_of_malformation {processing : Processing} {r : Reading} {malformation : Malformation}
    (failed : r.malformation = some malformation) (bytes : Bytes) :
    r.read processing bytes = r := by
  induction bytes with
  | nil => rfl
  | cons b bytes ih =>
    have same : r.readByte processing b = r := by simp [readByte, failed]
    simpa [read, same] using ih

end Reading
end Rdfa.Document
