import DesktopCapture.Text.Utf8
import DesktopCapture.Main
import DesktopCapture.Log
import DesktopCapture.Scenario.Cache
import DesktopCapture.Scenario.Preview
import DesktopCapture.Scenario.Session
import DesktopCapture.Scenario.Registry
import DesktopCapture.Scenario.Duplicator
import DesktopCapture.Proofs.Balance
import DesktopCapture.Proofs.Sharing
import DesktopCapture.Proofs.PreviewIndependence
import DesktopCapture.Proofs.LatestFrame
import DesktopCapture.Proofs.BoundTarget
import DesktopCapture.Proofs.Locality
import DesktopCapture.Proofs.Joining
import DesktopCapture.Proofs.Loss
import DesktopCapture.Proofs.Replay
import DesktopCapture.Proofs.Renumbering
import DesktopCapture.Proofs.Tracking
import DesktopCapture.Proofs.HeldFrames
import DesktopCapture.Proofs.Independence
import DesktopCapture.Proofs.Polls
import DesktopCapture.Proofs.Refusals
import DesktopCapture.Proofs.Marks
import DesktopCapture.Proofs.Accounts
import DesktopCapture.Proofs.Alarms
import DesktopCapture.Proofs.Ingestion
import DesktopCapture.Proofs.ColorTags
import DesktopCapture.Proofs.Presenting
import DesktopCapture.Proofs.Serving
import DesktopCapture.Proofs.Outcomes
import DesktopCapture.Proofs.Delivery
import DesktopCapture.Proofs.Endings
import DesktopCapture.Proofs.Starting
import DesktopCapture.Proofs.Standstill
import DesktopCapture.Proofs.Resizing
import DesktopCapture.Proofs.Listing
import DesktopCapture.Proofs.Search
import DesktopCapture.Proofs.Compatibility
import DesktopCapture.Proofs.Leftovers
import DesktopCapture.Proofs.References
import DesktopCapture.Proofs.Encoding
import DesktopCapture.Proofs.Assigning
import DesktopCapture.Proofs.Documents
import DesktopCapture.Proofs.Coding
import DesktopCapture.Proofs.Settings
import DesktopCapture.Proofs.Saving
import DesktopCapture.Proofs.Reuse
import DesktopCapture.Proofs.Messages
import DesktopCapture.Proofs.Extents
