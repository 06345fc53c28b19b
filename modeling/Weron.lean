import Weron.Wire
import Weron.Config
import Weron.Adapter
import Weron.Loop
import Weron.Callbacks
import Weron.Step
import Weron.Moves
import Weron.Lock
import Weron.Rejoin
import Weron.Shutdown
import Weron.Teardown
import Weron.Drops
import Weron.Posts
import Weron.Handshake
import Weron.Pair
import Weron.Ice
import Weron.Stream
import Weron.Candidates
import Weron.Bindings
import Weron.Outputs
import Weron.Channels
import Weron.Registry
import Weron.Answers
