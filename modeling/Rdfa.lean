import Rdfa.Text.Basic
import Rdfa.Text.Ranges
import Rdfa.Text.Blank
import Rdfa.Text.Identifier
import Rdfa.Text.Casing
import Rdfa.Text.Visible
import Rdfa.Text.Lowercase
import Rdfa.Text.Quoted
import Rdfa.Text.Utf8
import Rdfa.Iri
import Rdfa.Vocabulary
import Rdfa.Warning
import Rdfa.Scope
import Rdfa.Declaration
import Rdfa.Entity.Names
import Rdfa.Entity
import Rdfa.Markup.Token
import Rdfa.Markup.Lexer
import Rdfa.Markup.Attribute
import Rdfa.Triple
import Rdfa.Triple.NTriples
import Rdfa.Settings
import Rdfa.Element.Attributes
import Rdfa.Element.Output
import Rdfa.Element.Rules
import Rdfa.Document.Processor
import Rdfa.Document.Reading
import Rdfa.Failure
import Rdfa.Hooks
import Rdfa.Hooks.Reader
import Rdfa.Hooks.Feed
import Rdfa.Engine
import Rdfa.Extractor
import Rdfa.Engine.Script
import Rdfa.Consumer
import Rdfa.Consumer.Playback
import Rdfa.Consumer.Stream
import Rdfa.Bridge
import Rdfa.Session
import Rdfa.Session.Summary
import Rdfa.Toml.Value
import Rdfa.Toml.Number
import Rdfa.Toml.Reader
import Rdfa.Settings.File
import Rdfa.Proofs.Bridge.Turn
import Rdfa.Proofs.Session.Run
import Rdfa.Proofs.Session.FirstFailure
import Rdfa.Proofs.Session.Delivery
import Rdfa.Proofs.Document.Forest
import Rdfa.Proofs.Element.Announced
import Rdfa.Proofs.Markup.Names
import Rdfa.Proofs.Markup.Sources
import Rdfa.Proofs.Document.Evaluation
import Rdfa.Proofs.Document.Reading
import Rdfa.Proofs.Extractor.Evaluation
import Rdfa.Proofs.Extractor.Whole
import Rdfa.Proofs.Session.Ledger
import Rdfa.Proofs.Hooks.Parting
import Rdfa.Proofs.Session.Counts
import Rdfa.Proofs.Consumer.Failing
import Rdfa.Proofs.Consumer.Stream
import Rdfa.Proofs.Bridge.Spared
import Rdfa.Proofs.Bridge.Buffers
import Rdfa.Proofs.Session.CutShort
import Rdfa.Proofs.Extractor.Schedule
import Rdfa.Proofs.Consumer.Supplies
import Rdfa.Proofs.Session.Streaming
import Rdfa.Proofs.Session.Chunking
import Rdfa.Proofs.Session.Reports
import Rdfa.Proofs.Session.Streamed
import Rdfa.Proofs.Iri.Absolute
import Rdfa.Proofs.Iri.Segments
import Rdfa.Proofs.Element.Naming
import Rdfa.Proofs.Element.Renumbering
import Rdfa.Proofs.Element.Abreast
import Rdfa.Proofs.Element.Renaming
import Rdfa.Proofs.Element.Renamed
import Rdfa.Proofs.Element.Hushed
import Rdfa.Proofs.Element.States
import Rdfa.Proofs.Element.Roles
import Rdfa.Proofs.Document.Renamed
import Rdfa.Proofs.Document.Hushed
import Rdfa.Proofs.Session.Labels
import Rdfa.Proofs.Session.OptionalFields
import Rdfa.Proofs.Vocabulary
import Rdfa.Proofs.Element.Kinds
import Rdfa.Proofs.Element.Built
import Rdfa.Proofs.Element.Sound
import Rdfa.Proofs.Document.Sound
import Rdfa.Proofs.Element.Terms
import Rdfa.Proofs.Extractor.Partial
import Rdfa.Proofs.Extractor.Blameless
import Rdfa.Proofs.Extractor.Unwinding
import Rdfa.Proofs.Extractor.Hearing
import Rdfa.Proofs.Session.WellFormed
import Rdfa.Proofs.Session.LifeCycle
import Rdfa.Proofs.Session.Coherence
import Rdfa.Proofs.Session.Releases
import Rdfa.Proofs.Session.Conservation
import Rdfa.Proofs.Document.Positions
import Rdfa.Proofs.Document.Steps
import Rdfa.Proofs.Document.Tolerance
import Rdfa.Proofs.Markup.Nesting
import Rdfa.Proofs.Document.Nesting
import Rdfa.Proofs.Document.Strays
import Rdfa.Proofs.Triple.Reader
import Rdfa.Proofs.Triple.Parts
import Rdfa.Proofs.Triple.RoundTrip
import Rdfa.Proofs.Triple.OneLine
import Rdfa.Proofs.Iri.Characters
import Rdfa.Proofs.Iri.Components
import Rdfa.Proofs.Iri.Resolution
import Rdfa.Proofs.Iri.Stable
import Rdfa.Proofs.Iri.Twice
import Rdfa.Proofs.Session.Written
import Rdfa.Proofs.Session.Positions
import Rdfa.Proofs.Session.Strays
import Rdfa.Proofs.Element.Account
import Rdfa.Proofs.Element.Entry
import Rdfa.Proofs.Document.Stages
import Rdfa.Proofs.Extractor.Relations
import Rdfa.Proofs.Extractor.Orphans
import Rdfa.Proofs.Extractor.Endings
import Rdfa.Proofs.Element.Ignored
import Rdfa.Proofs.Document.Chronicle
import Rdfa.Proofs.Document.Properties
import Rdfa.Proofs.Session.Properties
import Rdfa.Proofs.Element.Resources
import Rdfa.Proofs.Document.Base
import Rdfa.Proofs.Document.BaseElement
import Rdfa.Proofs.Extractor.DocumentName
import Rdfa.Proofs.Element.Content
import Rdfa.Proofs.Document.Inside
import Rdfa.Proofs.Text.Utf8
import Rdfa.Proofs.Entity.Decoding
import Rdfa.Proofs.Triple.Distinct
import Rdfa.Proofs.Scope.Lexical
import Rdfa.Proofs.Document.Scopes
import Rdfa.Proofs.Text.Words
import Rdfa.Proofs.Declaration
import Rdfa.Proofs.Element.Warned
import Rdfa.Proofs.Element.Ordering
import Rdfa.Proofs.Document.Ordering
import Rdfa.Proofs.Markup.Tokens
import Rdfa.Proofs.Document.Shorthand
import Rdfa.Proofs.Session.Shorthand
import Rdfa.Proofs.Element.Register
import Rdfa.Proofs.Element.Uses
import Rdfa.Proofs.Document.Diagnoses
import Rdfa.Proofs.Session.Diagnoses
import Rdfa.Proofs.Element.Deeds
import Rdfa.Proofs.Document.Deeds
import Rdfa.Proofs.Document.Depth
import Rdfa.Proofs.Hooks.Reading
