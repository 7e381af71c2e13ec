import PlayerSession.Main
import PlayerSession.Store.Shelf
import PlayerSession.Proofs.Check.Visited
import PlayerSession.Proofs.Check.Route
import PlayerSession.Proofs.Check.Prefix
import PlayerSession.Proofs.Check.Noise
import PlayerSession.Proofs.Check.Places
import PlayerSession.Proofs.Check.Shape
import PlayerSession.Proofs.Check.Occurrence
import PlayerSession.Proofs.Check.Alternation
import PlayerSession.Proofs.Check.Course
import PlayerSession.Proofs.Json.Reading
import PlayerSession.Proofs.Event.Probe
import PlayerSession.Proofs.Store.Growth
import PlayerSession.Proofs.Store.Isolation
import PlayerSession.Proofs.Http.Status
import PlayerSession.Proofs.Http.Sharing
import PlayerSession.Proofs.Event.Order
import PlayerSession.Proofs.Http.Reply
import PlayerSession.Proofs.Decimal.Digits
import PlayerSession.Proofs.Json.Numerals
import PlayerSession.Proofs.Json.Strings
import PlayerSession.Proofs.Json.Doubles
import PlayerSession.Proofs.Json.RoundTrip
import PlayerSession.Proofs.Event.RoundTrip
import PlayerSession.Proofs.Store.Records
import PlayerSession.Proofs.Disk
import PlayerSession.Proofs.Store.Agreement
import PlayerSession.Proofs.Report
import PlayerSession.Proofs.Grammar.RoundTrip
import PlayerSession.Proofs.Settings.Variables
import PlayerSession.Proofs.Json.Fields
import PlayerSession.Proofs.Verdict.RoundTrip
import PlayerSession.Proofs.Store.Attribution
import PlayerSession.Proofs.Grammar.Defects
import PlayerSession.Proofs.Check.Relaxation
import PlayerSession.Proofs.Grammar.Renaming
import PlayerSession.Proofs.Check.Likeness
import PlayerSession.Proofs.Check.DeadRows
import PlayerSession.Proofs.Check.Renaming
import PlayerSession.Proofs.Store.Names
import PlayerSession.Proofs.Json.Lexemes
import PlayerSession.Proofs.Json.Spelling
import PlayerSession.Proofs.Json.Exactness
import PlayerSession.Proofs.Json.Members
import PlayerSession.Proofs.Event.Rearranged
import PlayerSession.Proofs.Http.Host
import PlayerSession.Proofs.Check.Cursor
import PlayerSession.Proofs.Check.Turns
import PlayerSession.Proofs.Store.Deeds
import PlayerSession.Proofs.Store.Shelf
import PlayerSession.Proofs.Startup
