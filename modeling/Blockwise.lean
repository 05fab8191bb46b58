import Blockwise.Bytes
import Blockwise.Text.Blank
import Blockwise.Text.Unprintable
import Blockwise.Text.Quoted
import Blockwise.Outline
import Blockwise.Direction
import Blockwise.Fault
import Blockwise.Channel
import Blockwise.Diagnostic
import Blockwise.Event
import Blockwise.Settings
import Blockwise.Settings.Override
import Blockwise.Room
import Blockwise.Transform
import Blockwise.Lz4.Block
import Blockwise.Lz4.Expansion
import Blockwise.Lz4.Search
import Blockwise.Lz4
import Blockwise.Pump
import Blockwise.Engine
import Blockwise.Pull
import Blockwise.Encoder
import Blockwise.Decoder
import Blockwise.Sink
import Blockwise.Source
import Blockwise.Writer
import Blockwise.Reader
import Blockwise.Availability
import Blockwise.Format
import Blockwise.Version
import Blockwise.Proofs.Reference
import Blockwise.Proofs.Ledger
import Blockwise.Proofs.Coder
import Blockwise.Proofs.Session
import Blockwise.Proofs.Passage
import Blockwise.Proofs.Encoding
import Blockwise.Proofs.Decoding
import Blockwise.Proofs.Drive
import Blockwise.Proofs.Draining
import Blockwise.Proofs.RoundTrip
import Blockwise.Proofs.Delivery
import Blockwise.Proofs.Relay
import Blockwise.Proofs.Reading
import Blockwise.Proofs.Exhaustion
import Blockwise.Proofs.ReadBack
import Blockwise.Proofs.Splitting
import Blockwise.Proofs.Lifetime
import Blockwise.Proofs.Poisoning
import Blockwise.Proofs.Likeness
import Blockwise.Proofs.Renewal
import Blockwise.Proofs.Accounting
import Blockwise.Proofs.Faults
import Blockwise.Proofs.Windows
import Blockwise.Proofs.Asking
import Blockwise.Proofs.Course
import Blockwise.Proofs.EndOfStream
import Blockwise.Proofs.Flushing
import Blockwise.Proofs.Breakdown
import Blockwise.Proofs.EndToEnd
import Blockwise.Proofs.Retrying
import Blockwise.Proofs.Exchange
import Blockwise.Proofs.Refreshing
import Blockwise.Proofs.Footprint
import Blockwise.Proofs.SizeText
