import Turnstile.Decision
import Turnstile.Service.Exchange
import Turnstile.Service.Settings
import Turnstile.Proofs.PriorityOrder
import Turnstile.Proofs.RuleReading
import Turnstile.Proofs.FirstMatch
import Turnstile.Proofs.Winner
import Turnstile.Proofs.ClientReport
import Turnstile.Proofs.Disclosure
import Turnstile.Proofs.Decimals
import Turnstile.Proofs.NumberText
import Turnstile.Proofs.QuotedText
import Turnstile.Proofs.JsonText
import Turnstile.Proofs.RecordText
import Turnstile.Proofs.RecordReading
import Turnstile.Proofs.TraitForms
import Turnstile.Proofs.CacheEntries
import Turnstile.Proofs.History
import Turnstile.Proofs.Isolation
import Turnstile.Proofs.Permanence
import Turnstile.Proofs.Conversion
import Turnstile.Proofs.EntryFaults
import Turnstile.Proofs.Privilege
import Turnstile.Proofs.Pieces
import Turnstile.Proofs.EscapedText
import Turnstile.Proofs.SignedMessage
import Turnstile.Proofs.SignedUrl
import Turnstile.Proofs.CalendarDays
import Turnstile.Proofs.Stamps
import Turnstile.Proofs.KeyText
import Turnstile.Proofs.SigningOutcome
import Turnstile.Proofs.Resolving
import Turnstile.Proofs.PatternReaders
import Turnstile.Proofs.PatternRefusal
import Turnstile.Proofs.MatchFaults
import Turnstile.Proofs.TallyCounts
import Turnstile.Proofs.Conservation
import Turnstile.Proofs.Unadmitted
import Turnstile.Proofs.Requests
import Turnstile.Proofs.Interchange
import Turnstile.Proofs.ActiveRules
import Turnstile.Proofs.Renormalizing
import Turnstile.Proofs.RoundingOrder
import Turnstile.Proofs.IntegerPriorities
import Turnstile.Proofs.Race
import Turnstile.Proofs.ScanTrace
import Turnstile.Proofs.LetterCase
import Turnstile.Proofs.CompactText
import Turnstile.Proofs.NumeralGrammar
import Turnstile.Proofs.RationalRounding
import Turnstile.Proofs.NumericOrder
import Turnstile.Proofs.Containment
import Turnstile.Proofs.DelimitedPatterns
import Turnstile.Proofs.PlainPaths
import Turnstile.Proofs.ListOperands
import Turnstile.Proofs.Overlay
import Turnstile.Proofs.AddressClasses
import Turnstile.Proofs.ClientAddress
import Turnstile.Proofs.SignalLayers
import Turnstile.Proofs.CookiePairs
import Turnstile.Proofs.Lowering
import Turnstile.Proofs.HeaderSpelling
import Turnstile.Proofs.DiskPaths
import Turnstile.Proofs.IncludedFiles
import Turnstile.Proofs.FolderWrites
import Turnstile.Proofs.AtomicWrites
import Turnstile.Proofs.LookupUrl
import Turnstile.Proofs.MomentText
import Turnstile.Proofs.LocalTimes
import Turnstile.Proofs.WindowBounds
import Turnstile.Proofs.ReadingDepth
import Turnstile.Proofs.LineEnds
import Turnstile.Proofs.RuleSources
import Turnstile.Proofs.SourceLife
import Turnstile.Proofs.NumeralConversion
