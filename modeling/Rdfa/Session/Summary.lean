import Rdfa.Session
import Rdfa.Text.Quoted

-- A session in one line, for a person who looks into a running host.
namespace Rdfa.Session

def braced (name : String) (fields : List (String × Text)) : Text :=
  let field (entry : String × Text) : Text := entry.1.toList ++ ": ".toList ++ entry.2
  name.toList ++ " \x7b ".toList ++ List.intercalate ", ".toList (fields.map field) ++
    " \x7d".toList

def phaseWord : Phase → Text
  | .idle => "Idle".toList
  | .running => "Running".toList
  | .completed => "Completed".toList
  | .failed => "Failed".toList
  | .closed => "Closed".toList

def statsSummary (stats : Stats) : Text :=
  braced "RunStats" [
    ("fill_requests", Text.decimal stats.fillRequests),
    ("bytes_read", Text.decimal stats.bytesRead),
    ("default_triples", Text.decimal stats.defaultTriples),
    ("processor_triples", Text.decimal stats.processorTriples),
    ("namespaces", Text.decimal stats.namespaces),
    ("truncated_chunks", Text.decimal stats.truncatedChunks)]

def summary {κ : Type} (s : Session κ) : Text :=
  braced "Session" [
    ("base", Text.quoted s.base),
    ("state", phaseWord s.phase),
    ("consumer_bound", (if s.binding.isSome then "true" else "false").toList),
    ("stats", statsSummary s.stats)]

end Rdfa.Session
