import Mathlib.Data.List.Infix
import Rdfa.Proofs.Document.Strays
import Rdfa.Proofs.Session.Streaming

-- What the end tag of a void element does to a run when it is put between two tokens of a document that is
-- read well: nothing, or it makes the document malformed, as the start tags have it that wait for an end tag.
namespace Rdfa

open Document

theorem Extractor.whole_stray {x : Extractor} {before rest name : Bytes}
    (letters : x.processing.voidElements = true) (void : isVoid name = true)
    (between : ((Reading.initial x.base).read x.processing before).Between rest)
    (sound : (x.whole (before ++ rest)).malformation = none) :
    ((Reading.initial x.base).read x.processing before).Spare x.processing rest ∧
        (x.whole (before ++ Markup.endTag name ++ rest)).malformation = none ∧
        (x.whole (before ++ Markup.endTag name ++ rest)).sent = (x.whole (before ++ rest)).sent ∨
      ¬ ((Reading.initial x.base).read x.processing before).Spare x.processing rest ∧
        (x.whole (before ++ Markup.endTag name ++ rest)).Unmatched := by
  have placed (bytes : Bytes) : x.whole (before ++ bytes) =
      x.finished ((Reading.initial x.base).read x.processing before) bytes :=
    (finished_append before bytes).symm
  rw [placed] at sound
  rw [List.append_assoc, placed, placed]
  exact Reading.close_stray letters void (Reading.lasting_read x.base before) between sound

namespace Session

-- Two documents for sessions alike, and in the second a stray end tag. The runs may take them in any pieces.
theorem run_stray_void {κ₁ κ₂ : Type} [Consumer κ₁] [Consumer κ₂] {base : Text} {settings : Settings}
    {s₁ : Session κ₁} {s₂ : Session κ₂} (opened₁ : openWith base settings = .ok s₁)
    (opened₂ : openWith base settings = .ok s₂)
    (letters : settings.processing.voidElements = true) {supplies₁ : List Bytes → κ₁ → Prop}
    {supplies₂ : List Bytes → κ₂ → Prop}
    (source₁ : Consumer.Supplies settings.chunkCapacity supplies₁)
    (source₂ : Consumer.Supplies settings.chunkCapacity supplies₂) {chunks strayed : List Bytes}
    (fitting₁ : Fitting settings.chunkCapacity chunks)
    (fitting₂ : Fitting settings.chunkCapacity strayed) {consumer₁ : κ₁} {consumer₂ : κ₂}
    (ready₁ : supplies₁ chunks consumer₁) (ready₂ : supplies₂ strayed consumer₂)
    {before rest name : Bytes} (void : isVoid name = true)
    (given : Extractor.document chunks = before ++ rest)
    (inserted : Extractor.document strayed = before ++ Markup.endTag name ++ rest)
    (between : ((Reading.initial base).read settings.processing before).Between rest)
    (succeeded : (s₁.bind consumer₁).run.outcome = .ok ()) :
    (((Reading.initial base).read settings.processing before).Spare settings.processing rest →
        (s₂.bind consumer₂).run.outcome = .ok () ∧
        (s₂.bind consumer₂).contacts.filter (!·.isProduction) =
          (s₁.bind consumer₁).contacts.filter (!·.isProduction)) ∧
      (¬ ((Reading.initial base).read settings.processing before).Spare settings.processing rest →
        ∃ position found, (s₂.bind consumer₂).run.outcome =
          .error (.engine (.malformed position (Markup.Flaw.unmatchedClosing found).message))) := by
  obtain ⟨calls₁, outcome₁, _⟩ := run_contacts_of_supplies opened₁ rfl source₁ fitting₁ ready₁
  obtain ⟨calls₂, outcome₂, _⟩ := run_contacts_of_supplies opened₂ rfl source₂ fitting₂ ready₂
  have sound := Extractor.verdict_eq_ok_iff.mp (reported_eq_ok_iff.mp (outcome₁.symm.trans succeeded))
  rw [given] at sound
  rw [calls₁, calls₂, outcome₂, Extractor.contacts_told, Extractor.contacts_told, given, inserted]
  rcases Extractor.whole_stray letters void between sound with
    ⟨enough, unflawed, same⟩ | ⟨exhausted, position, found, failed⟩
  · refine ⟨fun _ => ⟨?_, by rw [same]⟩, fun exhausted => absurd enough exhausted⟩
    exact congrArg reported (Extractor.verdict_eq_ok_iff.mpr unflawed)
  · refine ⟨fun enough => absurd enough exhausted, fun _ => ⟨position, found, ?_⟩⟩
    rw [Extractor.verdict, failed]
    rfl

-- `<br><p property="dc:title">a`, and then `</p>`: the first start tag is never answered.
def afterBreak : Bytes := Markup.ascii "<br><p property=\"dc:title\">a"

def paragraphEnd : Bytes := Markup.ascii "</p>"

def breakEnd : Bytes := Markup.endTag (Markup.ascii "BR")

theorem afterBreak_between :
    ((Reading.initial "http://e/".toList).read {} afterBreak).Between paragraphEnd := by
  refine ⟨Markup.ascii "a", by decide +kernel, .inr ?_⟩
  decide +kernel

theorem afterBreak_spare :
    ((Reading.initial "http://e/".toList).read {} afterBreak).Spare {} paragraphEnd := by
  have all : ∀ early ∈ paragraphEnd.inits,
      (((Reading.initial "http://e/".toList).read {} afterBreak).read {} early).lexer.nesting ≠ 0 := by
    decide +kernel
  intro early inside
  exact all early ((List.mem_inits _ _).mpr inside)

theorem extracting_opened :
    openWith "http://e/".toList {} = .ok (extracting "http://e/".toList {} : Session Playback) :=
  openWith_eq_ok_iff.mpr ⟨by decide, rfl⟩

theorem fitting_single {bytes : Bytes} (content : bytes ≠ []) (short : bytes.length ≤ 4096) :
    Fitting ({} : Settings).chunkCapacity [bytes] :=
  List.forall_mem_singleton.mpr ⟨content, short⟩

def runOf (document : Bytes) : Session Playback :=
  (extracting "http://e/".toList {}).bind { pieces := [document] }

theorem runOf_outcome {document : Bytes} (content : document ≠ []) (short : document.length ≤ 4096) :
    (runOf document).run.outcome =
      reported (Extractor.verdict (marker.whole (Extractor.document [document]))) :=
  (run_contacts_of_supplies extracting_opened rfl (playback_supplies _) (fitting_single content short)
    (playback_ready _)).2.1

theorem afterBreak_stray_void :
    openWith "http://e/".toList {} = .ok (extracting "http://e/".toList {} : Session Playback) ∧
      isVoid (Markup.ascii "BR") = true ∧
      ((Reading.initial "http://e/".toList).read {} afterBreak).Between paragraphEnd ∧
      ((Reading.initial "http://e/".toList).read {} afterBreak).Spare {} paragraphEnd ∧
      (runOf (afterBreak ++ paragraphEnd)).run.outcome = .ok () ∧
      (runOf (afterBreak ++ breakEnd ++ paragraphEnd)).run.outcome = .ok () ∧
      (runOf (afterBreak ++ breakEnd ++ paragraphEnd)).contacts.filter (!·.isProduction) =
        (runOf (afterBreak ++ paragraphEnd)).contacts.filter (!·.isProduction) := by
  have succeeded : (runOf (afterBreak ++ paragraphEnd)).run.outcome = .ok () := by
    rw [runOf_outcome (by decide) (by decide), reported_eq_ok_iff, Extractor.verdict_eq_ok_iff]
    decide +kernel
  have void : isVoid (Markup.ascii "BR") = true := by decide
  have stray := run_stray_void extracting_opened extracting_opened rfl (playback_supplies _)
    (playback_supplies _) (fitting_single (by decide) (by decide))
    (fitting_single (by decide) (by decide)) (playback_ready [afterBreak ++ paragraphEnd])
    (playback_ready [afterBreak ++ breakEnd ++ paragraphEnd]) void (by decide) (by decide)
    afterBreak_between succeeded
  exact ⟨extracting_opened, void, afterBreak_between, afterBreak_spare, succeeded, stray.1 afterBreak_spare⟩

theorem paragraph_not_harmless :
    openWith "http://e/".toList {} = .ok (extracting "http://e/".toList {} : Session Playback) ∧
      isVoid (Markup.ascii "br") = true ∧
      ((Reading.initial "http://e/".toList).read {} (Markup.ascii "<p>")).Between paragraphEnd ∧
      (runOf (Markup.ascii "<p>" ++ paragraphEnd)).run.outcome = .ok () ∧
      (runOf (Markup.ascii "<p>" ++ Markup.endTag (Markup.ascii "br") ++ paragraphEnd)).run.outcome =
        .error (.engine (.malformed 8 (Markup.Flaw.unmatchedClosing "p".toList).message)) := by
  refine ⟨extracting_opened, by decide, ⟨[], by decide +kernel, .inl rfl⟩, ?_, ?_⟩
  · rw [runOf_outcome (by decide) (by decide), reported_eq_ok_iff, Extractor.verdict_eq_ok_iff]
    decide +kernel
  · have flawed : (marker.whole (Extractor.document [Markup.ascii "<p>" ++
        Markup.endTag (Markup.ascii "br") ++ paragraphEnd])).malformation =
        some ⟨8, .markup (.unmatchedClosing "p".toList)⟩ := by decide +kernel
    rw [runOf_outcome (by decide) (by decide), Extractor.verdict, flawed]
    rfl

end Session
end Rdfa
