import BbAuth.Library.Machine
import BbAuth.Library.Journal
import BbAuth.Model.Daemon
import BbAuth.Sessions.Replay
import BbAuth.Provider.Authorization
import BbAuth.Polkit.LifeCycle
import BbAuth.Polkit.Attempts
import BbAuth.Provider.Conversation
import BbAuth.Flow.Recipient
import BbAuth.Flow.Refusal
import BbAuth.Flow.Waiting
import BbAuth.Flow.Outcome
import BbAuth.Flow.Disconnect
import BbAuth.Flow.Flags
import BbAuth.Flow.Ending
import BbAuth.Flow.Answers
import BbAuth.Flow.Expiry
import BbAuth.Flow.Events
import BbAuth.Flow.Prompts
import BbAuth.Flow.Withdrawal
import BbAuth.Flow.Replies
import BbAuth.Flow.Residue
import BbAuth.Provider.Closing
import BbAuth.Provider.Summons
import BbAuth.Provider.Regain
import BbAuth.Provider.Heartbeat
import BbAuth.Assuan.Honesty
import BbAuth.Assuan.Reports
import BbAuth.Transport.Lines
import BbAuth.Transport.Reconnect
import BbAuth.Window.Secrets
import BbAuth.Window.Memory
import BbAuth.Window.DeadEnd
import BbAuth.Launch.Manifest
import BbAuth.Launch.Selection
import BbAuth.Launch.Backoff
import BbAuth.Launch.Failover
import BbAuth.Requestor.Attribution
import BbAuth.Launch.Discovery
import BbAuth.Assuan.Encoding
import BbAuth.Assuan.Arguments
import BbAuth.Keyring.Peers
import BbAuth.Prompt.Normalize
import BbAuth.Prompt.Collapse
import BbAuth.Prompt.Lines
import BbAuth.Prompt.Policy
import BbAuth.Secrecy.Bystander
import BbAuth.Sessions.Mirror
import BbAuth.Assuan.Passphrase
import BbAuth.Assuan.Dialogue
import BbAuth.Launch.Cooldown
import BbAuth.Launch.Lock
import BbAuth.Transport.Recovery
import BbAuth.Flow.Backing
import BbAuth.Flow.Winding
import BbAuth.Transport.Streams
import BbAuth.Flow.Balance
import BbAuth.Launch.Bootstrap
import BbAuth.Window.Display
import BbAuth.Requestor.Proc
import BbAuth.Window.Desktop
