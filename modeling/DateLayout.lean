import DateLayout.Main
import DateLayout.Session
import DateLayout.Proofs.Cache.Transparency
import DateLayout.Proofs.Rendering.Missing
import DateLayout.Proofs.RoundTrip.Lossless
import DateLayout.Proofs.Scan.Modes
import DateLayout.Proofs.Cache.Footprint
import DateLayout.Proofs.Failures
import DateLayout.Proofs.Reader.Zones
import DateLayout.Proofs.RoundTrip.Escaped
import DateLayout.Proofs.WellKnown.ReadBack
import DateLayout.Proofs.Reader.LocalTimes
import DateLayout.Proofs.RoundTrip.Hours
import DateLayout.Proofs.Reader.Enough
import DateLayout.Proofs.Rendering.LocalFields
import DateLayout.Proofs.Rendering.Concatenation
import DateLayout.Proofs.Scan.Barriers
import DateLayout.Proofs.Scan.Spellings
import DateLayout.Proofs.Reader.Ignored
import DateLayout.Proofs.Grammar.LongestMatch
import DateLayout.Proofs.Scan.Cursor
import DateLayout.Proofs.Cache.Planted
import DateLayout.Proofs.Cache.History
import DateLayout.Proofs.Reader.Defaults
