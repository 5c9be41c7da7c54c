import RankSieve.Export
import RankSieve.FilterBar
import RankSieve.Main
import RankSieve.Program
import RankSieve.Report
import RankSieve.Row.Load
import RankSieve.Session
import RankSieve.Settings.Load
import RankSieve.Proofs.Separators
import RankSieve.Proofs.ClauseScan
import RankSieve.Proofs.QueryMeaning
import RankSieve.Proofs.LastGoodFilter
import RankSieve.Proofs.Sinks
import RankSieve.Proofs.SessionRefinement
import RankSieve.Proofs.LimitedSessions
import RankSieve.Proofs.Decimals
import RankSieve.Proofs.Utf8RoundTrip
import RankSieve.Proofs.CsvRoundTrip
import RankSieve.Proofs.JsonValues
import RankSieve.Proofs.VisibleRows
import RankSieve.Proofs.JsonRows
import RankSieve.Proofs.Lines
import RankSieve.Proofs.Surfaces
import RankSieve.Proofs.Appending
import RankSieve.Proofs.PlainPatterns
import RankSieve.Proofs.QuickConditions
import RankSieve.Proofs.NumericTerms
import RankSieve.Proofs.MenuPicks
import RankSieve.Proofs.Narrowing
import RankSieve.Proofs.NormalForm
import RankSieve.Proofs.Connectives
import RankSieve.Proofs.Paths
import RankSieve.Proofs.Effects
import RankSieve.Proofs.JsonEnds
import RankSieve.Proofs.RecordEnds
import RankSieve.Proofs.RecordLines
import RankSieve.Proofs.RecordOrder
import RankSieve.Proofs.NumeralGrammar
import RankSieve.Proofs.PlainSearch
import RankSieve.Proofs.TermAccounts
import RankSieve.Proofs.TokenPlaces
import RankSieve.Proofs.KeySpellings
import RankSieve.Proofs.MenuNumbers
import RankSieve.Proofs.LimitedExports
import RankSieve.Proofs.UrlColumn
