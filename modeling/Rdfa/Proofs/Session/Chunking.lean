import Rdfa.Proofs.Session.Streaming

-- How a document is cut is invisible to a consumer that takes everything: neither what it hears nor
-- what the run comes to depends on the pieces, on how many bytes are asked for at once, or on what is
-- laid over the rest of the buffer.
namespace Rdfa

namespace Session

variable {κ : Type} [Consumer κ]

theorem run_of_document {base : Text} {settings : Settings} {s : Session κ}
    {supplies : List Bytes → κ → Prop} {consumer : κ} {chunks : List Bytes} {x : Extractor}
    (opened : openWith base settings = .ok s)
    (reader : x = ⟨base, settings.processing, settings.chunkCapacity, false⟩)
    (source : Consumer.Supplies settings.chunkCapacity supplies)
    (fitting : Fitting settings.chunkCapacity chunks)
    (unmarked : ¬ [0xEF, 0xBB, 0xBF] <+: chunks.flatten) (ready : supplies chunks consumer) :
    (s.bind consumer).run.outcome = reported (Extractor.verdict (x.whole chunks.flatten)) ∧
      (s.bind consumer).contacts.filter (!·.isProduction) =
        (x.whole chunks.flatten).sent.reverse.filterMap Emission.heard? := by
  obtain ⟨calls, outcome, _⟩ := run_contacts_of_supplies opened reader source fitting ready
  rw [outcome, calls, Extractor.contacts_told, Extractor.document_eq unmarked]
  exact ⟨rfl, rfl⟩

-- Two sessions with one base and one way of processing, each with its own capacity and padding, and
-- consumers that cut one document each in their own way.
theorem run_chunking_invisible {κ₁ κ₂ : Type} [Consumer κ₁] [Consumer κ₂] {base : Text}
    {settings₁ settings₂ : Settings} (processing : settings₁.processing = settings₂.processing)
    {s₁ : Session κ₁} {s₂ : Session κ₂} (opened₁ : openWith base settings₁ = .ok s₁)
    (opened₂ : openWith base settings₂ = .ok s₂)
    {supplies₁ : List Bytes → κ₁ → Prop} {supplies₂ : List Bytes → κ₂ → Prop}
    (source₁ : Consumer.Supplies settings₁.chunkCapacity supplies₁)
    (source₂ : Consumer.Supplies settings₂.chunkCapacity supplies₂)
    {chunks₁ chunks₂ : List Bytes} (fitting₁ : Fitting settings₁.chunkCapacity chunks₁)
    (fitting₂ : Fitting settings₂.chunkCapacity chunks₂)
    (document : chunks₁.flatten = chunks₂.flatten)
    (unmarked : ¬ [0xEF, 0xBB, 0xBF] <+: chunks₁.flatten) {consumer₁ : κ₁} {consumer₂ : κ₂}
    (ready₁ : supplies₁ chunks₁ consumer₁) (ready₂ : supplies₂ chunks₂ consumer₂) :
    (s₁.bind consumer₁).run.outcome = (s₂.bind consumer₂).run.outcome ∧
      (s₁.bind consumer₁).contacts.filter (!·.isProduction) =
        (s₂.bind consumer₂).contacts.filter (!·.isProduction) := by
  obtain ⟨outcome₁, heard₁⟩ := run_of_document opened₁ rfl source₁ fitting₁ unmarked ready₁
  obtain ⟨outcome₂, heard₂⟩ :=
    run_of_document opened₂ rfl source₂ fitting₂ (document ▸ unmarked) ready₂
  -- The document as a whole is read without regard to the capacity.
  have same : (⟨base, settings₁.processing, settings₁.chunkCapacity, false⟩ : Extractor).whole
        chunks₁.flatten =
      (⟨base, settings₂.processing, settings₂.chunkCapacity, false⟩ : Extractor).whole
        chunks₂.flatten := by
    rw [processing, document]
    rfl
  rw [outcome₁, outcome₂, heard₁, heard₂, same]
  exact ⟨rfl, rfl⟩

-- `<p content="c" property="v:x"/><i></b>`, all at once and in pieces of at most five bytes that cut
-- through names, values and tags. It states one triple and is then found malformed.
def atOnce : List Bytes := [Markup.ascii "<p content=\"c\" property=\"v:x\"/><i></b>"]

def piecemeal : List Bytes :=
  ["<", "p con", "tent=", "\"c\" p", "roper", "ty=\"v", ":x\"/", "><i><", "/b>"].map Markup.ascii

def narrow : Settings := { chunkCapacity := 5, padByte := some 0x3C }

theorem piecemeal_chunking_invisible :
    Fitting ({} : Settings).chunkCapacity atOnce ∧ Fitting narrow.chunkCapacity piecemeal ∧
      ((extracting "http://e/".toList {}).bind ({ pieces := atOnce } : Playback)).run.outcome =
        ((extracting "http://e/".toList narrow).bind
          ({ pieces := piecemeal } : Playback)).run.outcome ∧
      ((extracting "http://e/".toList {}).bind
          ({ pieces := atOnce } : Playback)).contacts.filter (!·.isProduction) =
        ((extracting "http://e/".toList narrow).bind
          ({ pieces := piecemeal } : Playback)).contacts.filter (!·.isProduction) := by
  have opened₁ : openWith "http://e/".toList {} =
      .ok (extracting "http://e/".toList {} : Session Playback) :=
    openWith_eq_ok_iff.mpr ⟨by decide, rfl⟩
  have opened₂ : openWith "http://e/".toList narrow =
      .ok (extracting "http://e/".toList narrow : Session Playback) :=
    openWith_eq_ok_iff.mpr ⟨by decide, rfl⟩
  have fitting₁ : Fitting ({} : Settings).chunkCapacity atOnce := by
    unfold Fitting
    decide
  have fitting₂ : Fitting narrow.chunkCapacity piecemeal := by
    unfold Fitting
    decide
  have processing : ({} : Settings).processing = narrow.processing := rfl
  refine ⟨fitting₁, fitting₂, ?_⟩
  exact run_chunking_invisible processing opened₁ opened₂ (playback_supplies _) (playback_supplies _)
    fitting₁ fitting₂ (by decide) (by decide) ⟨rfl, rfl, rfl, rfl⟩ ⟨rfl, rfl, rfl, rfl⟩

end Session
end Rdfa
