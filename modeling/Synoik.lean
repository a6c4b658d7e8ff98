import Synoik.Layout.Cascade
import Synoik.Invariants.Raising
import Synoik.Invariants.Banding
import Synoik.Shield.Messages
import Synoik.Shield.Published
import Synoik.Shield.Lockout
import Synoik.Shield.Epochs
import Synoik.Login.Winner
import Synoik.Login.Starting
import Synoik.Login.Privileges
import Synoik.Splash.Replies
import Synoik.Splash.Parsing
import Synoik.Splash.Passwords
import Synoik.Splash.Ending
import Synoik.Splash.Bgrt
import Synoik.Notifications.Banners
import Synoik.Notifications.Isolation
import Synoik.Notifications.Closings
import Synoik.Staging.Ranges
import Synoik.Shm.Landing
import Synoik.Displays.Matching
import Synoik.Polkit.Answers
import Synoik.Polkit.Helpers
import Synoik.Polkit.Spinning
import Synoik.Network.Stranding
import Synoik.Sessions.Takeover
import Synoik.Selection.Pasting
import Synoik.Selection.Queue
import Synoik.Ipc.Stream
import Synoik.Login.Codec
import Synoik.Login.Expand
import Synoik.StatusNotifier
import Synoik.DbusMenu
import Synoik.ImageSource
import Synoik.Ui.Masking
import Synoik.Invariants.Placement
import Synoik.Input.MouseKeys
import Synoik.Input.LayoutLabels
import Synoik.FrameClock
import Synoik.Apps.Sandboxes
import Synoik.Apps.Favorites
