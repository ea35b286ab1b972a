import Rdfa.Proofs.Document.Shorthand
import Rdfa.Proofs.Session.Strays

-- A self-closed tag in a document that is read well, and the tags it stands for: a run tells its consumer the
-- same of both documents.
namespace Rdfa

open Document Markup

theorem Extractor.whole_shorthand {x : Extractor} {before rest rewritten text : Bytes} {tag : Tag}
    (place : ((Reading.initial x.base).read x.processing before).lexer.mode = .text text)
    (single : Lexer.Spells (selfClosed tag) [.standalone tag])
    (rewriting : Rewriting x.processing tag rewritten)
    (sound : (x.whole (before ++ selfClosed tag ++ rest)).malformation = none) :
    (x.whole (before ++ rewritten ++ rest)).malformation = none ∧
      (x.whole (before ++ rewritten ++ rest)).sent = (x.whole (before ++ selfClosed tag ++ rest)).sent := by
  have placed (bytes : Bytes) : x.whole (before ++ bytes) =
      x.finished ((Reading.initial x.base).read x.processing before) bytes :=
    (finished_append before bytes).symm
  rw [List.append_assoc, placed] at sound ⊢
  rw [List.append_assoc, placed]
  exact Reading.close_shorthand (Reading.lasting_read x.base before) place single rewriting sound

namespace Session

-- Two documents for sessions alike, and in the second other tags for a self-closed one. The runs may take them
-- in any pieces.
theorem run_shorthand {κ₁ κ₂ : Type} [Consumer κ₁] [Consumer κ₂] {base : Text} {settings : Settings}
    {s₁ : Session κ₁} {s₂ : Session κ₂} (opened₁ : openWith base settings = .ok s₁)
    (opened₂ : openWith base settings = .ok s₂) {supplies₁ : List Bytes → κ₁ → Prop}
    {supplies₂ : List Bytes → κ₂ → Prop}
    (source₁ : Consumer.Supplies settings.chunkCapacity supplies₁)
    (source₂ : Consumer.Supplies settings.chunkCapacity supplies₂) {chunks others : List Bytes}
    (fitting₁ : Fitting settings.chunkCapacity chunks)
    (fitting₂ : Fitting settings.chunkCapacity others) {consumer₁ : κ₁} {consumer₂ : κ₂}
    (ready₁ : supplies₁ chunks consumer₁) (ready₂ : supplies₂ others consumer₂)
    {before rest rewritten text : Bytes} {tag : Tag}
    (given : Extractor.document chunks = before ++ selfClosed tag ++ rest)
    (changed : Extractor.document others = before ++ rewritten ++ rest)
    (place : ((Reading.initial base).read settings.processing before).lexer.mode = .text text)
    (single : Lexer.Spells (selfClosed tag) [.standalone tag])
    (rewriting : Rewriting settings.processing tag rewritten)
    (succeeded : (s₁.bind consumer₁).run.outcome = .ok ()) :
    (s₂.bind consumer₂).run.outcome = .ok () ∧
      (s₂.bind consumer₂).contacts.filter (!·.isProduction) =
        (s₁.bind consumer₁).contacts.filter (!·.isProduction) := by
  obtain ⟨calls₁, outcome₁, _⟩ := run_contacts_of_supplies opened₁ rfl source₁ fitting₁ ready₁
  obtain ⟨calls₂, outcome₂, _⟩ := run_contacts_of_supplies opened₂ rfl source₂ fitting₂ ready₂
  have sound := Extractor.verdict_eq_ok_iff.mp (reported_eq_ok_iff.mp (outcome₁.symm.trans succeeded))
  rw [given] at sound
  obtain ⟨unflawed, same⟩ := Extractor.whole_shorthand place single rewriting sound
  rw [calls₁, calls₂, outcome₂, Extractor.contacts_told, Extractor.contacts_told, given, changed, same]
  exact ⟨congrArg reported (Extractor.verdict_eq_ok_iff.mpr unflawed), rfl⟩

-- `<p property="dc:title">a<br id=""/>b<i typeof="dc:T"/></p>`, where the paragraph waits for its text.
def breakTag : Tag := ⟨ascii "br id=\"\""⟩

def typedTag : Tag := ⟨ascii "i typeof=\"dc:T\""⟩

def beforeBreak : Bytes := ascii "<p property=\"dc:title\">a"

def behindBreak : Bytes := ascii "b" ++ selfClosed typedTag ++ paragraphEnd

def broken : Bytes := beforeBreak ++ selfClosed breakTag ++ behindBreak

theorem broken_succeeds : (runOf broken).run.outcome = .ok () := by
  rw [runOf_outcome (by decide) (by decide), reported_eq_ok_iff, Extractor.verdict_eq_ok_iff]
  decide +kernel

theorem broken_shorthand :
    (runOf broken).run.outcome = .ok () ∧
      Rewriting {} breakTag (startTag breakTag ++ endTag breakTag.name) ∧
      Rewriting {} breakTag (startTag breakTag) ∧
      Rewriting {} typedTag (startTag typedTag ++ endTag typedTag.name) ∧
      ∀ document ∈ [beforeBreak ++ (startTag breakTag ++ endTag breakTag.name) ++ behindBreak,
          beforeBreak ++ startTag breakTag ++ behindBreak,
          (beforeBreak ++ selfClosed breakTag ++ ascii "b") ++
            (startTag typedTag ++ endTag typedTag.name) ++ paragraphEnd],
        (runOf document).run.outcome = .ok () ∧
          (runOf document).contacts.filter (!·.isProduction) =
            (runOf broken).contacts.filter (!·.isProduction) := by
  have paired : Rewriting {} breakTag (startTag breakTag ++ endTag breakTag.name) :=
    .paired (by decide +kernel)
  have alone : Rewriting {} breakTag (startTag breakTag) :=
    .alone rfl (by decide +kernel) (by decide +kernel)
  have typed : Rewriting {} typedTag (startTag typedTag ++ endTag typedTag.name) :=
    .paired (by decide +kernel)
  refine ⟨broken_succeeds, paired, alone, typed, ?_⟩
  have alike (text : Bytes) {before rest rewritten : Bytes} {tag : Tag}
      (given : Extractor.document [broken] = before ++ selfClosed tag ++ rest)
      (changed : Extractor.document [before ++ rewritten ++ rest] = before ++ rewritten ++ rest)
      (place : ((Reading.initial "http://e/".toList).read {} before).lexer.mode = .text text)
      (single : Lexer.Spells (selfClosed tag) [.standalone tag])
      (rewriting : Rewriting {} tag rewritten)
      (fitting : Fitting ({} : Settings).chunkCapacity [before ++ rewritten ++ rest]) :=
    run_shorthand extracting_opened extracting_opened (playback_supplies _) (playback_supplies _)
      (fitting_single (by decide) (by decide)) fitting (playback_ready [broken])
      (playback_ready [before ++ rewritten ++ rest]) given changed place single rewriting
      broken_succeeds
  simp only [List.forall_mem_cons]
  refine ⟨?_, ?_, ?_, by simp⟩
  · exact alike (ascii "a") (by decide) (by decide) (by decide +kernel) (by decide +kernel) paired
      (fitting_single (by decide) (by decide))
  · exact alike (ascii "a") (by decide) (by decide) (by decide +kernel) (by decide +kernel) alone
      (fitting_single (by decide) (by decide))
  · exact alike (ascii "b") (by decide) (by decide) (by decide +kernel) (by decide +kernel) typed
      (fitting_single (by decide) (by decide))

end Session
end Rdfa
