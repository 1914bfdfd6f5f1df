import CommandConsole.Command.Scripted
import CommandConsole.Main
import CommandConsole.Proofs.Delivery
import CommandConsole.Proofs.Field
import CommandConsole.Proofs.Isolation
import CommandConsole.Proofs.Noninterference
import CommandConsole.Proofs.Polling
import CommandConsole.Proofs.Registration
import CommandConsole.Proofs.RoundTrip
import CommandConsole.Proofs.Scrolling
import CommandConsole.Proofs.Showing
import CommandConsole.Proofs.Spelling
import CommandConsole.Proofs.Streaming
import CommandConsole.Proofs.Walking
import CommandConsole.Proofs.Keeping
import CommandConsole.Proofs.Dispatching
import CommandConsole.Proofs.Converging
import CommandConsole.Proofs.Narrowing
import CommandConsole.Proofs.Reaching
import CommandConsole.Proofs.Scripting
import CommandConsole.Proofs.Feeding
import CommandConsole.Proofs.Reporting
import CommandConsole.Proofs.Relaying
import CommandConsole.Proofs.Encoding
import CommandConsole.Proofs.Ordering
import CommandConsole.Proofs.Columns
import CommandConsole.Proofs.Casing
