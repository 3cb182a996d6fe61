import ChatTerminal.Links
import ChatTerminal.Main
import ChatTerminal.Proofs.Links.Wire
import ChatTerminal.Proofs.Session.Display
import ChatTerminal.Proofs.Session.Lifecycle
import ChatTerminal.Proofs.Station.Talks
import ChatTerminal.Proofs.Station.Moves
import ChatTerminal.Proofs.Station.OneLink
import ChatTerminal.Proofs.Station.LateEvents
import ChatTerminal.Proofs.Station.Outcomes
import ChatTerminal.Proofs.Station.Failures
import ChatTerminal.Proofs.Text.Pieces
import ChatTerminal.Proofs.Web.Jar
import ChatTerminal.Proofs.Agent.Credentials
import ChatTerminal.Proofs.Client.Listed
import ChatTerminal.Proofs.Client.Coherent
import ChatTerminal.Proofs.Station.Deeds
import ChatTerminal.Proofs.Station.Coherence
import ChatTerminal.Proofs.Station.Upkeep
import ChatTerminal.Proofs.Station.Course
import ChatTerminal.Proofs.Station.SignedOut
import ChatTerminal.Proofs.Web.Domain
import ChatTerminal.Proofs.Web.Address
import ChatTerminal.Proofs.Agent.Restart
import ChatTerminal.Proofs.Agent.LinkAddress
import ChatTerminal.Proofs.Station.Remembered
import ChatTerminal.Proofs.Text.Editing
import ChatTerminal.Proofs.Station.Confined
import ChatTerminal.Proofs.Station.Deletion
import ChatTerminal.Proofs.Session.Renumbering
import ChatTerminal.Proofs.Client.Mirrored
import ChatTerminal.Proofs.Client.Holdings
import ChatTerminal.Proofs.Client.Merging
import ChatTerminal.Proofs.Client.Newest
import ChatTerminal.Proofs.Client.Rows
import ChatTerminal.Proofs.Client.Overlay
import ChatTerminal.Proofs.Station.Mirrored
import ChatTerminal.Proofs.Station.Isolation
import ChatTerminal.Proofs.Station.Sidebar
import ChatTerminal.Proofs.Station.Holdings
import ChatTerminal.Proofs.Station.Cursor
import ChatTerminal.Proofs.Station.Saving
import ChatTerminal.Proofs.Json.Grammar
import ChatTerminal.Proofs.Json.TokenSoundness
import ChatTerminal.Proofs.Json.TokenCompleteness
import ChatTerminal.Proofs.Json.TreeMachine
import ChatTerminal.Proofs.Json.Meaning
import ChatTerminal.Proofs.Message.Frames
import ChatTerminal.Proofs.Station.Sending
import ChatTerminal.Proofs.Client.Masked
import ChatTerminal.Proofs.View.Masking
import ChatTerminal.Proofs.Station.Masked
import ChatTerminal.Proofs.Station.Banners
import ChatTerminal.Proofs.Station.Loading
import ChatTerminal.Proofs.Station.Renaming
import ChatTerminal.Proofs.Station.Unasked
import ChatTerminal.Proofs.Station.Dropping
import ChatTerminal.Proofs.Station.Admission
import ChatTerminal.Proofs.Web.Form
import ChatTerminal.Proofs.Web.Below
import ChatTerminal.Proofs.Agent.CallAddress
import ChatTerminal.Proofs.Text.Utf8
import ChatTerminal.Proofs.Station.LookUp
import ChatTerminal.Proofs.Client.Focus
import ChatTerminal.Proofs.Station.Typing
import ChatTerminal.Proofs.Screen.Painting
import ChatTerminal.Proofs.View.Window
import ChatTerminal.Proofs.View.Scrolling
import ChatTerminal.Proofs.Message.Clock
import ChatTerminal.Proofs.Json.Document
import ChatTerminal.Proofs.Station.Refused
import ChatTerminal.Proofs.Screen.Rows
import ChatTerminal.Proofs.View.Sidebar
import ChatTerminal.Proofs.Station.Selected
