import Rdfa.Document.Reading
import Rdfa.Engine

-- The engine that reads RDFa. It asks for bytes only when it has used all it was given, announces
-- what is known before it asks again, and leaves at the first refusal.
namespace Rdfa

structure Extractor where
  base : Text
  processing : Processing
  capacity : Nat
  consumed : Bool
deriving Repr, DecidableEq

namespace Extractor

def problem? (base : Text) (settings : Settings) : Option OpeningProblem :=
  if base.isEmpty then some .emptyBase
  else if base.any Text.isBlank then some (.blankInBase base)
  else if !Iri.isAbsolute base then some (.relativeBase base)
  else settings.problem?.map .settings

def ofBase (base : Text) (settings : Settings) : Except OpeningProblem Extractor :=
  match problem? base settings with
  | some problem => .error problem
  | none => .ok ⟨base, settings.processing, settings.chunkCapacity, false⟩

-- A byte order mark at the front is no part of the document.
def withoutMark (bytes : Bytes) : Bytes :=
  if [0xEF, 0xBB, 0xBF].isPrefixOf bytes then bytes.drop 3 else bytes

def sendAll {σ : Type} (emissions : List Emission) (next : Move σ) : Move σ :=
  emissions.foldr (fun emission next => .emit emission next (.stop (.error .interrupted))) next

def stopAt (malformation : Document.Malformation) : Except Halt Unit :=
  .error (.fault (.malformed malformation.position malformation.flaw.message))

variable (x : Extractor)

def conclude (reading : Document.Reading) : Move Document.Reading :=
  let closed := reading.close x.processing
  sendAll closed.drain.1
    (.stop (match closed.malformation with
      | some malformation => stopAt malformation
      | none => .ok ()))

-- Asks for bytes; `clean` prepares them. What comes after the end is worked out only there.
def ask (clean : Bytes → Bytes) (reading : Document.Reading)
    (ended : Unit → Move Document.Reading) : Move Document.Reading :=
  .fill x.capacity (fun filled => reading.read x.processing (clean (filled.taken x.capacity)))
    (fun _ => ended ()) (.stop (.error .interrupted))

def resume (reading : Document.Reading) : Move Document.Reading :=
  let (sent, reading) := reading.drain
  sendAll sent
    (match reading.malformation with
    | some malformation => .stop (stopAt malformation)
    | none => x.ask id reading fun _ => x.conclude reading)

-- An answer without bytes to the very first request is not yet taken for the end.
def start : Move Document.Reading :=
  let reading := Document.Reading.initial x.base
  x.ask withoutMark reading fun _ => x.ask id reading fun _ => x.conclude reading

def alreadyUsed : Fault := .internal "engine has already parsed its input".toList

def engine : Engine where
  State := Document.Reading
  start := if x.consumed then .stop (.error (.fault alreadyUsed)) else x.start
  resume := x.resume

def parse {η : Type} [Hooks η] (host : η) : Run η × Extractor :=
  (x.engine.run host, { x with consumed := true })

end Extractor
end Rdfa
