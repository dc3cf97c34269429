import ServerCursor.Json.Reader
import ServerCursor.Ownership.Registry
import ServerCursor.Proofs.Borrowed
import ServerCursor.Proofs.Bound
import ServerCursor.Proofs.Closed
import ServerCursor.Proofs.Drop
import ServerCursor.Proofs.Forgone
import ServerCursor.Proofs.Forsaken
import ServerCursor.Proofs.Iteration
import ServerCursor.Proofs.Lifetime
import ServerCursor.Proofs.Log
import ServerCursor.Proofs.Loss
import ServerCursor.Proofs.Names
import ServerCursor.Proofs.Number
import ServerCursor.Proofs.Protocols
import ServerCursor.Proofs.Repeat
import ServerCursor.Proofs.Replies
import ServerCursor.Proofs.Retry
import ServerCursor.Proofs.Route
import ServerCursor.Proofs.Settings
import ServerCursor.Proofs.Unseen
import ServerCursor.Proofs.Views
import ServerCursor.Session
